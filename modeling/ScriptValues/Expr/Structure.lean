import ScriptValues.Expr

namespace ScriptValues

namespace Expr

mutual

def names : Expr → List String
  | literal _ => []
  | call name args => name :: namesAll args

def namesAll : List Expr → List String
  | [] => []
  | expr :: exprs => names expr ++ namesAll exprs

end

mutual

def literals : Expr → List Value
  | literal value => [value]
  | call _ args => literalsAll args

def literalsAll : List Expr → List Value
  | [] => []
  | expr :: exprs => literals expr ++ literalsAll exprs

end

@[elab_as_elim, induction_eliminator]
theorem induction {motive : Expr → Prop} (literal : ∀ value, motive (literal value))
    (call : ∀ name args, (∀ arg ∈ args, motive arg) → motive (call name args)) (expr : Expr) :
    motive expr := by
  cases expr with
  | literal value => exact literal value
  | call name args => exact call name args fun arg member => induction literal call arg
termination_by sizeOf expr
decreasing_by
  have smaller := List.sizeOf_lt_of_mem member
  simp only [Expr.call.sizeOf_spec]
  omega

end Expr

structure Frame where
  name : String
  earlier : List Expr
  later : List Expr
  deriving Repr

abbrev Place := List Frame

namespace Place

def fill (place : Place) (node : Expr) : Expr :=
  place.foldr (fun frame expr => .call frame.name (frame.earlier ++ expr :: frame.later)) node

def callsBefore (place : Place) : Nat :=
  (place.flatMap fun frame => Expr.namesAll frame.earlier).length

def SameBefore (place other : Place) : Prop :=
  place.map (fun frame => (frame.name, frame.earlier)) =
    other.map fun frame => (frame.name, frame.earlier)

end Place

end ScriptValues
