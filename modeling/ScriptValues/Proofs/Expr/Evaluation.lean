import ScriptValues.Catalogue
import ScriptValues.Expr.Structure
import ScriptValues.Proofs.Value.Outcome

namespace ScriptValues

namespace Expr

variable {name : String} {p : Primitive} {args : List Expr}

theorem eval_call_of_find?_eq_none (unknown : Catalogue.find? name = none) (args : List Expr) :
    (call name args).eval = { outcome := .error (.unknownName name), calls := 0 } := by
  rw [Catalogue.find?_eq_map_ofName?, Option.map_eq_none_iff] at unknown
  rw [eval, unknown]

theorem eval_call_name (p : Primitive) (args : List Expr) :
    (call p.name args).eval =
      match (evalAll args).outcome with
      | .error fault => { outcome := .error fault, calls := (evalAll args).calls }
      | .ok values =>
          { outcome := (p.reply values).outcome, calls := (evalAll args).calls + 1 } := by
  rewrite [eval, Primitive.ofName?_name]
  rfl

theorem eval_call_of_ok (found : Catalogue.find? name = some p.native) {values : List Value}
    (given : (evalAll args).outcome = .ok values) :
    (call name args).eval =
      { outcome := (p.reply values).outcome, calls := (evalAll args).calls + 1 } := by
  obtain rfl : p.name = name := Catalogue.name_of_find? found
  rw [eval_call_name, given]

theorem eval_call_of_error (found : Catalogue.find? name = some p.native) {fault : Fault}
    (failed : (evalAll args).outcome = .error fault) :
    (call name args).eval = { outcome := .error fault, calls := (evalAll args).calls } := by
  obtain rfl : p.name = name := Catalogue.name_of_find? found
  rw [eval_call_name, failed]

theorem of_outcome_eval_call_eq_ok {value : Value}
    (done : (call name args).eval.outcome = .ok value) :
    ∃ p values, Catalogue.find? name = some (Primitive.native p) ∧
      (evalAll args).outcome = .ok values ∧ p.reply values = value ∧ value.isError = false ∧
        (call name args).eval.calls = (evalAll args).calls + 1 := by
  cases found : Catalogue.find? name with
  | none =>
      rw [eval_call_of_find?_eq_none found] at done
      cases done
  | some f =>
      obtain ⟨p, rfl⟩ := Catalogue.primitive_of_find? found
      cases given : (evalAll args).outcome with
      | error fault =>
          rw [eval_call_of_error found given] at done
          cases done
      | ok values =>
          rw [eval_call_of_ok found given] at done ⊢
          obtain ⟨replied, result⟩ := Value.outcome_eq_ok_iff.mp done
          exact ⟨p, values, rfl, rfl, replied, replied ▸ result, rfl⟩

theorem calls_eval_call_le (name : String) (args : List Expr) :
    (call name args).eval.calls ≤ (evalAll args).calls + 1 := by
  cases found : Catalogue.find? name with
  | none =>
      rw [eval_call_of_find?_eq_none found]
      exact Nat.zero_le _
  | some f =>
      obtain ⟨p, rfl⟩ := Catalogue.primitive_of_find? found
      cases given : (evalAll args).outcome with
      | error fault =>
          rw [eval_call_of_error found given]
          exact Nat.le_succ _
      | ok values => exact Nat.le_of_eq (congrArg Evaluation.calls (eval_call_of_ok found given))

theorem evalAll_cons_of_error {expr : Expr} {fault : Fault}
    (failed : expr.eval.outcome = .error fault) (exprs : List Expr) :
    evalAll (expr :: exprs) = { outcome := .error fault, calls := expr.eval.calls } := by
  rw [evalAll]
  simp only [failed]

theorem evalAll_cons_of_ok {expr : Expr} {value : Value} (done : expr.eval.outcome = .ok value)
    (exprs : List Expr) :
    evalAll (expr :: exprs) =
      { outcome := (evalAll exprs).outcome.map (value :: ·),
        calls := expr.eval.calls + (evalAll exprs).calls } := by
  rw [evalAll]
  simp only [done]

theorem outcome_evalAll_eq_ok_iff {exprs : List Expr} {values : List Value} :
    (evalAll exprs).outcome = .ok values ↔
      exprs.map (fun expr => expr.eval.outcome) = values.map Except.ok := by
  induction exprs generalizing values with
  | nil => cases values <;> simp [evalAll]
  | cons expr exprs ih =>
      cases here : expr.eval.outcome with
      | error fault => cases values <;> simp [evalAll_cons_of_error here, here]
      | ok value =>
          rw [evalAll_cons_of_ok here]
          cases later : (evalAll exprs).outcome with
          | error fault => cases values <;> simp [Except.map, here, ← ih, later]
          | ok others => cases values <;> simp [Except.map, here, ← ih, later]

theorem of_outcome_evalAll_cons_eq_ok {expr : Expr} {exprs : List Expr} {values : List Value}
    (done : (evalAll (expr :: exprs)).outcome = .ok values) :
    ∃ value others, values = value :: others ∧ expr.eval.outcome = .ok value ∧
      (evalAll exprs).outcome = .ok others := by
  have outcomes := outcome_evalAll_eq_ok_iff.mp done
  cases values with
  | nil => cases outcomes
  | cons value others =>
      obtain ⟨here, later⟩ := List.cons.inj outcomes
      exact ⟨value, others, rfl, here, outcome_evalAll_eq_ok_iff.mpr later⟩

theorem exists_value_of_mem {exprs : List Expr} {values : List Value}
    (done : (evalAll exprs).outcome = .ok values) {expr : Expr} (member : expr ∈ exprs) :
    ∃ value ∈ values, expr.eval.outcome = .ok value := by
  have outcome : expr.eval.outcome ∈ exprs.map fun expr => expr.eval.outcome :=
    List.mem_map_of_mem member
  rw [outcome_evalAll_eq_ok_iff.mp done] at outcome
  obtain ⟨value, given, equal⟩ := List.mem_map.mp outcome
  exact ⟨value, given, equal.symm⟩

theorem exists_expr_of_mem {exprs : List Expr} {values : List Value}
    (done : (evalAll exprs).outcome = .ok values) {value : Value} (member : value ∈ values) :
    ∃ expr ∈ exprs, expr.eval.outcome = .ok value := by
  have outcome : Except.ok value ∈ values.map (Except.ok : Value → Except Fault Value) :=
    List.mem_map_of_mem member
  rw [← outcome_evalAll_eq_ok_iff.mp done] at outcome
  exact List.mem_map.mp outcome

theorem exists_first_of_outcome_evalAll_eq_error {exprs : List Expr} {fault : Fault}
    (failed : (evalAll exprs).outcome = .error fault) :
    ∃ earlier expr later, exprs = earlier ++ expr :: later ∧
      (∀ arg ∈ earlier, ∃ value, arg.eval.outcome = .ok value) ∧
        expr.eval.outcome = .error fault := by
  induction exprs with
  | nil => cases failed
  | cons expr exprs ih =>
      cases here : expr.eval.outcome with
      | error raised =>
          rw [evalAll_cons_of_error here] at failed
          cases failed
          exact ⟨[], expr, exprs, rfl, nofun, here⟩
      | ok value =>
          rw [evalAll_cons_of_ok here] at failed
          cases rest : (evalAll exprs).outcome with
          | ok values =>
              rw [rest] at failed
              cases failed
          | error raised =>
              rw [rest] at failed
              cases failed
              obtain ⟨earlier, arg, later, rfl, before, raised⟩ := ih rest
              exact ⟨expr :: earlier, arg, later, rfl,
                List.forall_mem_cons.mpr ⟨⟨value, here⟩, before⟩, raised⟩

end Expr

end ScriptValues
