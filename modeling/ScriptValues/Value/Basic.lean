import ScriptValues.Fault
import ScriptValues.Primitive.Basic
import ScriptValues.Text.Utf8

/-!
# Values

The values of a small scripting language. A function value carries a name and says what code it
runs: a primitive, or a function of the host program, which is known by a number only. Equality
compares contents, and of a function value it compares the name and nothing else.
-/

namespace ScriptValues

inductive Code where
  | primitive (p : Primitive)
  | host (index : Nat)
  deriving DecidableEq, Repr

structure Native where
  name : String
  code : Code
  deriving Repr

namespace Native

instance : BEq Native where
  beq left right := left.name == right.name

def debug (f : Native) : Text :=
  Text.applied "BuiltinFunction" f.name.toList

end Native

def Primitive.native (p : Primitive) : Native where
  name := p.name
  code := .primitive p

inductive Value where
  | integer (n : Int64)
  | boolean (b : Bool)
  | null
  | string (bytes : List UInt8)
  | array (items : List Value)
  | builtin (f : Native)
  | error (fault : Fault)
  deriving Repr

namespace Value

instance : Inhabited Value := ⟨null⟩

def ofText (text : String) : Value :=
  string (Utf8.encode text.toList)

def tag : Value → Tag
  | integer _ => .integer
  | boolean _ => .boolean
  | null => .null
  | string _ => .string
  | array _ => .array
  | builtin _ => .builtin
  | error _ => .error

def integer? : Value → Option Int64
  | integer n => some n
  | _ => none

def boolean? : Value → Option Bool
  | boolean b => some b
  | _ => none

def bytes? : Value → Option (List UInt8)
  | string bytes => some bytes
  | _ => none

def items? : Value → Option (List Value)
  | array items => some items
  | _ => none

def fault? : Value → Option Fault
  | error fault => some fault
  | _ => none

def isNull : Value → Bool
  | null => true
  | _ => false

def isError : Value → Bool
  | error _ => true
  | _ => false

def outcome : Value → Except Fault Value
  | error fault => .error fault
  | value => .ok value

def ofOutcome : Except Fault Value → Value
  | .ok value => value
  | .error fault => error fault

mutual

def same : Value → Value → Bool
  | integer m, integer n => m == n
  | boolean a, boolean b => a == b
  | null, null => true
  | string a, string b => a == b
  | array items, array others => sameAll items others
  | builtin f, builtin g => f == g
  | error a, error b => a == b
  | _, _ => false

def sameAll : List Value → List Value → Bool
  | [], [] => true
  | value :: values, other :: others => same value other && sameAll values others
  | _, _ => false

end

instance : BEq Value := ⟨same⟩

def samePayload? : Value → Value → Option Bool
  | string a, string b => some (a == b)
  | array items, array others => some (items == others)
  | builtin f, builtin g => some (f == g)
  | error a, error b => some (a == b)
  | _, _ => none

end Value

end ScriptValues
