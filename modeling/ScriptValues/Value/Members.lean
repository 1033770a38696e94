import ScriptValues.Value.Basic

namespace ScriptValues.Value

inductive IsSequence : Value → Prop
  | array (items : List Value) : IsSequence (array items)
  | string (bytes : List UInt8) : IsSequence (string bytes)

def letters (bytes : List UInt8) : List Value :=
  bytes.map fun byte => string [byte]

def members : Value → List Value
  | array items => items
  | string bytes => letters bytes
  | _ => []

def dropMembers (k : Nat) : Value → Value
  | array items => array (items.drop k)
  | string bytes => string (bytes.drop k)
  | value => value

theorem length_letters (bytes : List UInt8) : (letters bytes).length = bytes.length :=
  List.length_map _

theorem letters_drop (bytes : List UInt8) (k : Nat) :
    letters (bytes.drop k) = (letters bytes).drop k :=
  List.map_drop

theorem letters_eq_map_string (bytes : List UInt8) :
    letters bytes = (bytes.map fun byte => [byte]).map string :=
  (List.map_map ..).symm

theorem IsSequence.dropMembers {x : Value} (sequence : x.IsSequence) (k : Nat) :
    (x.dropMembers k).IsSequence := by
  cases sequence with
  | array items => exact .array _
  | string bytes => exact .string _

theorem members_dropMembers (x : Value) (k : Nat) :
    (x.dropMembers k).members = x.members.drop k := by
  cases x <;> simp [dropMembers, members, letters_drop]

theorem dropMembers_zero (x : Value) : x.dropMembers 0 = x := by
  cases x <;> rfl

theorem dropMembers_dropMembers (x : Value) (j k : Nat) :
    (x.dropMembers j).dropMembers k = x.dropMembers (j + k) := by
  cases x <;> simp [dropMembers]

end ScriptValues.Value
