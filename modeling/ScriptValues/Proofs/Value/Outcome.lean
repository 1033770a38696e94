import ScriptValues.Value.Basic

namespace ScriptValues.Value

theorem ofOutcome_outcome (value : Value) : ofOutcome value.outcome = value := by
  cases value with
  | _ => rfl

theorem outcome_eq_error_iff {value : Value} {fault : Fault} :
    value.outcome = .error fault ↔ value = error fault := by
  cases value <;> simp [outcome]

theorem outcome_eq_ok_iff {value result : Value} :
    value.outcome = .ok result ↔ value = result ∧ value.isError = false := by
  cases value <;> simp [outcome, isError]

theorem isError_iff {value : Value} : value.isError = true ↔ ∃ fault, value = error fault := by
  cases value <;> simp [isError]

theorem outcome_ofOutcome_eq_iff {outcome : Except Fault Value} :
    (ofOutcome outcome).outcome = outcome ↔ ∀ fault, outcome ≠ .ok (error fault) := by
  cases outcome with
  | error fault => exact iff_of_true rfl nofun
  | ok value =>
      change value.outcome = .ok value ↔ _
      rw [outcome_eq_ok_iff, ← Bool.not_eq_true, isError_iff]
      simp

theorem outcome_ofOutcome_eq_error_iff {outcome : Except Fault Value} {fault : Fault} :
    (ofOutcome outcome).outcome = .error fault ↔
      outcome = .error fault ∨ outcome = .ok (error fault) := by
  rw [outcome_eq_error_iff]
  cases outcome <;> simp [ofOutcome]

end ScriptValues.Value
