import ScriptValues.Key.StringHash
import ScriptValues.Value.Rendering

namespace ScriptValues

inductive Scalar where
  | integer (n : Int64)
  | boolean (b : Bool)
  | string (bytes : List UInt8)
  deriving DecidableEq, Repr

structure Key where
  tag : Tag
  word : UInt64
  deriving DecidableEq, Repr

namespace Key

instance : Ord Key := ⟨compareLex (compareOn tag) (compareOn word)⟩

instance : Std.TransOrd Key :=
  inferInstanceAs (Std.TransCmp (compareLex _ _))

instance : Std.LawfulEqOrd Key where
  eq_of_compare {left right} equal := by
    obtain ⟨tags, words⟩ := Ordering.then_eq_eq.mp equal
    obtain ⟨tag, word⟩ := left
    obtain ⟨tag', word'⟩ := right
    obtain rfl : tag = tag' := Std.LawfulEqOrd.eq_of_compare tags
    obtain rfl : word = word' := Std.LawfulEqOrd.eq_of_compare words
    rfl

def text (key : Key) : Text :=
  key.tag.name.toList ++ ":0x".toList ++ Text.paddedHex 16 key.word.toNat

def debug (key : Key) : Text :=
  Text.record "HashKey"
    [("object_type", key.tag.debug), ("value", Text.natural key.word.toNat)]

end Key

namespace Scalar

def tag : Scalar → Tag
  | integer _ => .integer
  | boolean _ => .boolean
  | string _ => .string

def word : Scalar → UInt64
  | integer n => n.toUInt64
  | boolean b => if b then 1 else 0
  | string bytes => StringHash.hash bytes

def key (scalar : Scalar) : Key where
  tag := scalar.tag
  word := scalar.word

def debug : Scalar → Text
  | integer n => Text.applied "Integer" (Text.integer n.toInt)
  | boolean b => Text.applied "Boolean" (Text.boolean b)
  | string bytes => Text.applied "Str" (Value.debugBytes bytes)

end Scalar

namespace Value

def scalar? : Value → Option Scalar
  | integer n => some (.integer n)
  | boolean b => some (.boolean b)
  | string bytes => some (.string bytes)
  | _ => none

def isScalar (value : Value) : Bool :=
  value.scalar?.isSome

def key? (value : Value) : Option Key :=
  value.scalar?.map Scalar.key

def mapKey (value : Value) : Except Fault Key :=
  match value.key? with
  | some key => .ok key
  | none => .error (.unusableKey value.tag)

end Value

end ScriptValues
