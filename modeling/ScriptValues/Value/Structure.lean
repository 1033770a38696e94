import ScriptValues.Value.Basic

namespace ScriptValues

/-- What equality of values looks at: all but the code of functions. -/
inductive Content where
  | integer (n : Int64)
  | boolean (b : Bool)
  | null
  | string (bytes : List UInt8)
  | array (items : List Content)
  | builtin (name : String)
  | error (fault : Fault)

namespace Value

mutual

def depth : Value → Nat
  | array items => depthAll items + 1
  | _ => 0

def depthAll : List Value → Nat
  | [] => 0
  | value :: values => max (depth value) (depthAll values)

end

def nested : Nat → Value
  | 0 => array []
  | n + 1 => array [nested n]

mutual

def ErrorFree : Value → Prop
  | error _ => False
  | array items => AllErrorFree items
  | _ => True

def AllErrorFree : List Value → Prop
  | [] => True
  | value :: values => ErrorFree value ∧ AllErrorFree values

end

inductive Textless : Value → Prop
  | integer (n : Int64) : Textless (integer n)
  | boolean (b : Bool) : Textless (boolean b)
  | null : Textless null
  | array (items : List Value) (each : ∀ item ∈ items, Textless item) : Textless (array items)

mutual

def content : Value → Content
  | integer n => .integer n
  | boolean b => .boolean b
  | null => .null
  | string bytes => .string bytes
  | array items => .array (contentAll items)
  | builtin f => .builtin f.name
  | error fault => .error fault

def contentAll : List Value → List Content
  | [] => []
  | value :: values => content value :: contentAll values

end

@[elab_as_elim, induction_eliminator]
theorem induction {motive : Value → Prop} (integer : ∀ n, motive (integer n))
    (boolean : ∀ b, motive (boolean b)) (null : motive null)
    (string : ∀ bytes, motive (string bytes))
    (array : ∀ items, (∀ item ∈ items, motive item) → motive (array items))
    (builtin : ∀ f, motive (builtin f)) (error : ∀ fault, motive (error fault))
    (value : Value) : motive value := by
  cases value with
  | integer n => exact integer n
  | boolean b => exact boolean b
  | null => exact null
  | string bytes => exact string bytes
  | array items =>
      exact array items fun item member =>
        induction integer boolean null string array builtin error item
  | builtin f => exact builtin f
  | error fault => exact error fault
termination_by sizeOf value
decreasing_by
  have smaller := List.sizeOf_lt_of_mem member
  simp only [Value.array.sizeOf_spec]
  omega

theorem depth_le_depthAll {value : Value} {values : List Value} (member : value ∈ values) :
    value.depth ≤ depthAll values := by
  induction values with
  | nil => cases member
  | cons first values ih =>
    rcases List.mem_cons.mp member with rfl | member
    · exact Nat.le_max_left _ _
    · exact Nat.le_trans (ih member) (Nat.le_max_right _ _)

theorem depthAll_le_iff {values : List Value} {levels : Nat} :
    depthAll values ≤ levels ↔ ∀ value ∈ values, value.depth ≤ levels := by
  induction values with
  | nil => simp [depthAll]
  | cons first values ih => rw [depthAll, Nat.max_le, ih, List.forall_mem_cons]

theorem depth_array_le_succ_iff {items : List Value} {levels : Nat} :
    (array items).depth ≤ levels + 1 ↔ ∀ item ∈ items, item.depth ≤ levels :=
  Nat.succ_le_succ_iff.trans depthAll_le_iff

theorem depth_lt_of_mem {item : Value} {items : List Value} (member : item ∈ items) :
    item.depth < (array items).depth :=
  Nat.lt_succ_of_le (depth_le_depthAll member)

theorem depthAll_append (values others : List Value) :
    depthAll (values ++ others) = max (depthAll values) (depthAll others) := by
  induction values with
  | nil => simp [depthAll]
  | cons first values ih => rw [List.cons_append, depthAll, depthAll, ih, Nat.max_assoc]

theorem depth_nested (n : Nat) : (nested n).depth = n + 1 := by
  induction n with
  | zero => rfl
  | succ n ih => rw [nested, depth, depthAll, depthAll, Nat.max_zero, ih]

theorem allErrorFree_iff {values : List Value} :
    AllErrorFree values ↔ ∀ value ∈ values, value.ErrorFree := by
  induction values with
  | nil => simp [AllErrorFree]
  | cons first values ih => simp [AllErrorFree, ih]

end Value

end ScriptValues
