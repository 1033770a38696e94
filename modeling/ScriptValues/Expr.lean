import ScriptValues.Primitive.Run

/-!
# Nested calls

An expression is a literal value, or a call by name whose arguments are expressions. An error value
is a failure here, whether a literal, or the result of a call: evaluation goes from left to right
and ends at the first failure. The name of a call is looked up before its arguments are
evaluated.
-/

namespace ScriptValues

inductive Expr where
  | literal (value : Value)
  | call (name : String) (args : List Expr)
  deriving Repr

structure Evaluation (α : Type) where
  outcome : Except Fault α
  calls : Nat
  deriving Repr

namespace Expr

mutual

def eval : Expr → Evaluation Value
  | literal value => { outcome := value.outcome, calls := 0 }
  | call name args =>
    match Primitive.ofName? name with
    | none => { outcome := .error (.unknownName name), calls := 0 }
    | some p =>
      let { outcome, calls } := evalAll args
      match outcome with
      | .error fault => { outcome := .error fault, calls }
      | .ok values => { outcome := (p.reply values).outcome, calls := calls + 1 }

def evalAll : List Expr → Evaluation (List Value)
  | [] => { outcome := .ok [], calls := 0 }
  | expr :: exprs =>
    let { outcome, calls } := eval expr
    match outcome with
    | .error fault => { outcome := .error fault, calls }
    | .ok value =>
      let rest := evalAll exprs
      { outcome := rest.outcome.map (value :: ·), calls := calls + rest.calls }

end

end Expr

end ScriptValues
