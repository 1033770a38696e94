namespace ScriptValues

inductive Primitive where
  | len
  | first
  | last
  | rest
  | push
  deriving DecidableEq, Repr

namespace Primitive

def all : List Primitive :=
  [len, first, last, rest, push]

theorem mem_all (p : Primitive) : p ∈ all := by
  cases p <;> decide

def name : Primitive → String
  | len => "len"
  | first => "first"
  | last => "last"
  | rest => "rest"
  | push => "push"

theorem name_injective : Function.Injective name := by
  intro left right
  cases left <;> cases right <;> decide

def arity : Primitive → Nat
  | len | first | last | rest => 1
  | push => 2

def ofName? (name : String) : Option Primitive :=
  all.find? fun p => p.name == name

theorem ofName?_name (p : Primitive) : ofName? p.name = some p := by
  cases p <;> rfl

end Primitive

end ScriptValues
