import ScriptValues.Text.Basic

namespace ScriptValues

inductive Tag where
  | integer
  | boolean
  | null
  | error
  | string
  | array
  | builtin
  deriving DecidableEq, Repr

namespace Tag

def all : List Tag :=
  [integer, boolean, null, error, string, array, builtin]

theorem mem_all (tag : Tag) : tag ∈ all := by
  cases tag <;> decide

def name : Tag → String
  | integer => "INTEGER"
  | boolean => "BOOLEAN"
  | null => "NULL"
  | error => "ERROR"
  | string => "STRING"
  | array => "ARRAY"
  | builtin => "BUILTIN"

theorem name_injective : Function.Injective name := by
  intro left right
  cases left <;> cases right <;> decide

def debug : Tag → Text
  | integer => "Integer".toList
  | boolean => "Boolean".toList
  | null => "Null".toList
  | error => "Error".toList
  | string => "String".toList
  | array => "Array".toList
  | builtin => "Builtin".toList

def rank : Tag → Nat
  | integer => 0
  | boolean => 1
  | null => 2
  | error => 3
  | string => 4
  | array => 5
  | builtin => 6

instance : Ord Tag := ⟨compareOn rank⟩

theorem rank_injective : Function.Injective rank := by
  intro left right
  cases left <;> cases right <;> decide

instance : Std.TransOrd Tag :=
  inferInstanceAs (Std.TransCmp (compareOn rank))

instance : Std.LawfulEqOrd Tag where
  eq_of_compare equal := rank_injective (Std.LawfulEqOrd.eq_of_compare equal)

end Tag

end ScriptValues
