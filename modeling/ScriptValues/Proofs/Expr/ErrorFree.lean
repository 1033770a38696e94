import ScriptValues.Proofs.Expr.Evaluation
import ScriptValues.Proofs.Fault.Origin
import ScriptValues.Value.Structure

/-!
# Results without errors

A primitive makes no error of its own inside a result: what a result holds, an argument held. In a
nested call an error among the arguments ends the evaluation, so the errors inside its result were
in the arrays that it was written with (`holds_of_outcome_eval_eq_ok`).
-/

namespace ScriptValues

theorem Value.errorFree_iff_not_holds {value : Value} :
    value.ErrorFree ↔ ∀ fault, ¬value.Holds fault := by
  induction value with
  | error fault => exact iff_of_false id fun none => none fault .error
  | array items ih =>
      rw [ErrorFree, allErrorFree_iff]
      constructor
      · intro free fault held
        cases held with
        | array member inside => exact (ih _ member).mp (free _ member) fault inside
      · intro none item member
        exact (ih item member).mpr fun fault inside => none fault (.array member inside)
  | _ => exact iff_of_true trivial fun fault held => by cases held

namespace Primitive

variable {p : Primitive} {args : List Value}

theorem errorFree_of_run_eq_ok (free : ∀ arg ∈ args, arg.ErrorFree) {value : Value}
    (done : p.run args = .ok value) : value.ErrorFree := by
  refine Value.errorFree_iff_not_holds.mpr fun fault inside => ?_
  obtain ⟨arg, member, held⟩ := holds_of_run_eq_ok done inside
  exact Value.errorFree_iff_not_holds.mp (free arg member) fault held

theorem run_ne_ok_error_of_errorFree (free : ∀ arg ∈ args, arg.ErrorFree) (fault : Fault) :
    p.run args ≠ .ok (.error fault) :=
  fun done => errorFree_of_run_eq_ok free done

theorem isError_reply_iff_of_errorFree (free : ∀ arg ∈ args, arg.ErrorFree) :
    (p.reply args).isError = true ↔ ∃ fault, p.run args = .error fault := by
  rw [Value.isError_iff]
  constructor
  · rintro ⟨fault, replied⟩
    rcases Value.outcome_ofOutcome_eq_error_iff.mp (Value.outcome_eq_error_iff.mpr replied) with
      failed | result
    · exact ⟨fault, failed⟩
    · exact absurd result (run_ne_ok_error_of_errorFree free fault)
  · rintro ⟨fault, failed⟩
    exact ⟨fault, congrArg Value.ofOutcome failed⟩

end Primitive

namespace Expr

theorem mem_literalsAll {value : Value} {exprs : List Expr} {expr : Expr} (member : expr ∈ exprs)
    (given : value ∈ expr.literals) : value ∈ literalsAll exprs := by
  induction exprs with
  | nil => cases member
  | cons first exprs ih =>
      rw [literalsAll, List.mem_append]
      rcases List.mem_cons.mp member with rfl | later
      · exact .inl given
      · exact .inr (ih later)

theorem holds_of_outcome_eval_eq_ok {expr : Expr} {value : Value} {fault : Fault}
    (done : expr.eval.outcome = .ok value) (inside : value.Holds fault) :
    ∃ items, .array items ∈ expr.literals ∧ (Value.array items).Holds fault := by
  induction expr generalizing value with
  | literal given =>
      obtain ⟨rfl, result⟩ := Value.outcome_eq_ok_iff.mp done
      cases inside with
      | error => cases result
      | array member inside => exact ⟨_, List.mem_cons_self, .array member inside⟩
  | call name args ih =>
      obtain ⟨p, values, -, given, rfl, result, -⟩ := of_outcome_eval_call_eq_ok done
      rcases Primitive.run_eq_error_or_holds_of_reply inside with failed | ⟨arg, member, held⟩
      · rw [Primitive.reply, failed] at result
        cases result
      · obtain ⟨expr, among, outcome⟩ := exists_expr_of_mem given member
        obtain ⟨items, written, held⟩ := ih expr among outcome held
        exact ⟨items, mem_literalsAll among written, held⟩

/-- Given arguments without errors, a function of the catalogue has a result without errors, so its
reply is an error only when it has failed. Given arrays without errors, a nested call has a result
without errors. -/
theorem results_are_error_free (host : Host) :
    (∀ name f, Catalogue.find? name = some f → ∀ args, (∀ arg ∈ args, arg.ErrorFree) →
      (∀ value, f.invoke host args = .ok value → value.ErrorFree) ∧
      (∀ fault, f.invoke host args ≠ .ok (.error fault)) ∧
      ((f.reply host args).isError = true ↔ ∃ fault, f.invoke host args = .error fault)) ∧
    (∀ expr : Expr, (∀ items, .array items ∈ expr.literals → (Value.array items).ErrorFree) →
      ∀ value, expr.eval.outcome = .ok value → value.ErrorFree) := by
  constructor
  · intro name f found args free
    obtain ⟨p, rfl⟩ := Catalogue.primitive_of_find? found
    exact ⟨fun value => Primitive.errorFree_of_run_eq_ok free,
      Primitive.run_ne_ok_error_of_errorFree free, Primitive.isError_reply_iff_of_errorFree free⟩
  · intro expr plain value done
    refine Value.errorFree_iff_not_holds.mpr fun fault inside => ?_
    obtain ⟨items, written, held⟩ := holds_of_outcome_eval_eq_ok done inside
    exact Value.errorFree_iff_not_holds.mp (plain items written) fault held

theorem results_are_error_free_at_nested_arrays :
    let host : Host := fun _ _ => .ok (.error (.custom "not asked"))
    let row := Value.array [.array [], .null]
    let pushed := Value.array [.null, .array [.boolean true]]
    let expr := call "push" [call "rest" [literal row], literal (.array [.boolean true])]
    Catalogue.find? "push" = some Primitive.push.native ∧
    (∀ arg ∈ [row, .null], arg.ErrorFree) ∧
    (Primitive.push.native.invoke host [row, .null] = .ok (.array [.array [], .null, .null]) ∧
      (Value.array [.array [], .null, .null]).ErrorFree) ∧
    ((∀ items, .array items ∈ expr.literals → (Value.array items).ErrorFree) ∧
      expr.eval.outcome = .ok pushed ∧ pushed.ErrorFree) := by
  intro host row pushed expr
  obtain ⟨results, nested⟩ := results_are_error_free host
  have found : Catalogue.find? "push" = some Primitive.push.native := rfl
  have free : ∀ arg ∈ [row, .null], arg.ErrorFree := by
    simp [row, Value.ErrorFree, Value.AllErrorFree]
  have done : Primitive.push.native.invoke host [row, .null] =
      .ok (.array [.array [], .null, .null]) := rfl
  have plain : ∀ items, .array items ∈ expr.literals → (Value.array items).ErrorFree := by
    simp [expr, row, literals, literalsAll, Value.ErrorFree, Value.AllErrorFree]
  have evaluated : expr.eval.outcome = .ok pushed := rfl
  exact ⟨found, free, ⟨done, (results "push" _ found _ free).1 _ done⟩,
    plain, evaluated, nested expr plain pushed evaluated⟩

end Expr

end ScriptValues
