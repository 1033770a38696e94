import ScriptValues.Value.Basic

/-!
# Values in shared memory

A string, an array or a fault can stand in memory once and be shared by many values. A `Shared`
value says where each of its contents stands. Its equality takes two contents at one address for
equal without looking at them.
-/

namespace ScriptValues

structure Memory where
  strings : Nat → List UInt8
  arrays : Nat → List Value
  faults : Nat → Fault

inductive Shared where
  | integer (n : Int64)
  | boolean (b : Bool)
  | null
  | string (address : Nat) (bytes : List UInt8)
  | array (address : Nat) (items : List Shared)
  | builtin (f : Native)
  | error (address : Nat) (fault : Fault)
  deriving Repr

namespace Shared

mutual

def value : Shared → Value
  | integer n => .integer n
  | boolean b => .boolean b
  | null => .null
  | string _ bytes => .string bytes
  | array _ items => .array (values items)
  | builtin f => .builtin f
  | error _ fault => .error fault

def values : List Shared → List Value
  | [] => []
  | item :: items => value item :: values items

end

mutual

def same : Shared → Shared → Bool
  | integer m, integer n => m == n
  | boolean a, boolean b => a == b
  | null, null => true
  | string here a, string there b => here == there || a == b
  | array here items, array there others => here == there || sameAll items others
  | builtin f, builtin g => f == g
  | error here a, error there b => here == there || a == b
  | _, _ => false

def sameAll : List Shared → List Shared → Bool
  | [], [] => true
  | item :: items, other :: others => same item other && sameAll items others
  | _, _ => false

end

mutual

/-- At each address in the value, the memory holds what the value has there. -/
def StandsIn (memory : Memory) : Shared → Prop
  | string address bytes => memory.strings address = bytes
  | array address items => memory.arrays address = values items ∧ AllStandIn memory items
  | error address fault => memory.faults address = fault
  | _ => True

def AllStandIn (memory : Memory) : List Shared → Prop
  | [] => True
  | item :: items => StandsIn memory item ∧ AllStandIn memory items

end

@[elab_as_elim, induction_eliminator]
theorem induction {motive : Shared → Prop} (integer : ∀ n, motive (integer n))
    (boolean : ∀ b, motive (boolean b)) (null : motive null)
    (string : ∀ address bytes, motive (string address bytes))
    (array : ∀ address items, (∀ item ∈ items, motive item) → motive (array address items))
    (builtin : ∀ f, motive (builtin f)) (error : ∀ address fault, motive (error address fault))
    (shared : Shared) : motive shared := by
  cases shared with
  | integer n => exact integer n
  | boolean b => exact boolean b
  | null => exact null
  | string address bytes => exact string address bytes
  | array address items =>
      exact array address items fun item member =>
        induction integer boolean null string array builtin error item
  | builtin f => exact builtin f
  | error address fault => exact error address fault
termination_by sizeOf shared
decreasing_by
  have smaller := List.sizeOf_lt_of_mem member
  simp only [Shared.array.sizeOf_spec]
  omega

end Shared

end ScriptValues
