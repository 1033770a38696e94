import ScriptValues.Proofs.Fault.Origin
import ScriptValues.Proofs.Value.Equality
import ScriptValues.Proofs.Value.Outcome

namespace ScriptValues

namespace Primitive
open Value

theorem firstOf_eq_ok_error_iff {a : Value} {fault : Fault} :
    firstOf a = .ok (error fault) ↔ ∃ items, a = array (error fault :: items) := by
  match a with
  | array [] | string [] | string (_ :: _) => simp [firstOf]
  | array (item :: items) => simp [firstOf]
  | integer _ | boolean _ | null | builtin _ | error _ => simp [firstOf]

theorem lastOf_eq_ok_error_iff {a : Value} {fault : Fault} :
    lastOf a = .ok (error fault) ↔ ∃ items, a = array (items ++ [error fault]) := by
  match a with
  | array items =>
      simp only [lastOf, Except.ok.injEq, array.injEq]
      rw [← List.getLast?_eq_some_iff]
      cases items.getLast? <;> simp
  | string bytes => cases ending : bytes.getLast? <;> simp [lastOf, ending]
  | integer _ | boolean _ | null | builtin _ | error _ => simp [lastOf]

theorem restOf_ne_ok_error (a : Value) (fault : Fault) : restOf a ≠ .ok (error fault) := by
  match a with
  | array [] | array (_ :: _) | string [] | string (_ :: _) => exact nofun
  | integer _ | boolean _ | null | builtin _ | error _ => exact nofun

theorem pushOnto_ne_ok_error (item a : Value) (fault : Fault) :
    pushOnto item a ≠ .ok (error fault) := by
  cases a with
  | _ => exact nofun

theorem run_eq_ok_error_iff {p : Primitive} {args : List Value} {fault : Fault} :
    p.run args = .ok (error fault) ↔
      (p = first ∧ ∃ items, args = [array (error fault :: items)]) ∨
      (p = last ∧ ∃ items, args = [array (items ++ [error fault])]) := by
  by_cases right : args.length = p.arity
  · match p, args, right with
    | len, [a], _ =>
        have counted : lenOf a ≠ .ok (error fault) := fun done => not_holds_of_lenOf done .error
        simpa [run] using counted
    | first, [a], _ => simpa [run] using firstOf_eq_ok_error_iff (a := a)
    | last, [a], _ => simpa [run] using lastOf_eq_ok_error_iff (a := a)
    | rest, [a], _ => simpa [run] using restOf_ne_ok_error a fault
    | push, [a, item], _ => simpa [run] using pushOnto_ne_ok_error item a fault
  · rw [run_of_length_ne right]
    refine iff_of_false nofun ?_
    rintro (⟨rfl, items, rfl⟩ | ⟨rfl, items, rfl⟩)
    · exact right rfl
    · exact right rfl

end Primitive

namespace Native

variable {host : Host} {f : Native} {args : List Value}

theorem outcome_reply_eq_invoke_iff :
    (f.reply host args).outcome = f.invoke host args ↔
      ∀ fault, f.invoke host args ≠ .ok (.error fault) :=
  Value.outcome_ofOutcome_eq_iff

theorem records_eq_entered_iff :
    f.records host args = [.entered f.name args.length] ↔
      ∃ value, f.invoke host args = .ok value := by
  unfold records
  cases f.invoke host args <;> simp

theorem records_eq_failed_iff {message : String} :
    f.records host args = [.entered f.name args.length, .failed f.name message] ↔
      ∃ fault, f.invoke host args = .error fault ∧ fault.message = message := by
  unfold records
  cases f.invoke host args <;> simp

theorem level_of_mem_records {record : Record} (member : record ∈ f.records host args) :
    record = .entered f.name args.length ∧ record.level = .trace ∨
      (∃ fault, f.invoke host args = .error fault ∧ record = .failed f.name fault.message) ∧
        record.level = .debug := by
  unfold records at member
  rcases List.mem_cons.mp member with rfl | later
  · exact .inl ⟨rfl, rfl⟩
  · cases invoked : f.invoke host args with
    | ok value =>
        rw [invoked] at later
        cases later
    | error fault =>
        rw [invoked] at later
        obtain rfl := List.mem_singleton.mp later
        exact .inr ⟨⟨fault, rfl, rfl⟩, rfl⟩

/-- The reply to a call is its result, or its fault as an error value. Read as an outcome again, it
is a failure when the call has failed or has an error value as its result; but for such a result it
is the outcome that the call was invoked to. In the catalogue only `first` and `last` have one, from
an array that begins or ends in an error. No value is lost in its outcome. A call is recorded once
on entry, and once more when it has failed, but not for an error value that is its result. -/
theorem reply_and_invoke_part_at_stored_errors (host : Host) :
    (∀ (f : Native) (args : List Value),
      (∀ value, f.invoke host args = .ok value → f.reply host args = value) ∧
      (∀ fault, f.invoke host args = .error fault → f.reply host args = .error fault) ∧
      (∀ fault, (f.reply host args).outcome = .error fault ↔
        f.invoke host args = .error fault ∨ f.invoke host args = .ok (.error fault)) ∧
      ((f.reply host args).outcome = f.invoke host args ↔
        ∀ fault, f.invoke host args ≠ .ok (.error fault)) ∧
      (f.records host args = [.entered f.name args.length] ↔
        ∃ value, f.invoke host args = .ok value) ∧
      (∀ message, f.records host args = [.entered f.name args.length, .failed f.name message] ↔
        ∃ fault, f.invoke host args = .error fault ∧ fault.message = message) ∧
      (∀ record ∈ f.records host args,
        record = .entered f.name args.length ∧ record.level = .trace ∨
          (∃ fault, f.invoke host args = .error fault ∧ record = .failed f.name fault.message) ∧
            record.level = .debug)) ∧
    (∀ value : Value, (Value.ofOutcome value.outcome == value) = true) ∧
    (∀ name f, Catalogue.find? name = some f → ∀ args,
      ((f.reply host args).outcome ≠ f.invoke host args ↔
        (name = "first" ∧ ∃ fault items, args = [.array (.error fault :: items)]) ∨
        (name = "last" ∧ ∃ fault items, args = [.array (items ++ [.error fault])]))) := by
  refine ⟨fun f args => ⟨fun value done => congrArg Value.ofOutcome done,
    fun fault failed => congrArg Value.ofOutcome failed,
    fun fault => Value.outcome_ofOutcome_eq_error_iff, outcome_reply_eq_invoke_iff,
    records_eq_entered_iff, fun message => records_eq_failed_iff,
    fun record => level_of_mem_records⟩, fun value => ?whole, fun name f found args => ?listed⟩
  case whole =>
    rw [Value.ofOutcome_outcome]
    exact BEq.rfl
  case listed =>
    obtain ⟨p, rfl, rfl⟩ := Catalogue.find?_eq_some_iff.mp found
    have invoked : p.native.invoke host args = p.run args := rfl
    have isFirst : p.name = "first" ↔ p = .first := Primitive.name_injective.eq_iff (b := .first)
    have isLast : p.name = "last" ↔ p = .last := Primitive.name_injective.eq_iff (b := .last)
    rw [Ne, outcome_reply_eq_invoke_iff, invoked, isFirst, isLast]
    simp only [ne_eq, not_forall, not_not, Primitive.run_eq_ok_error_iff]
    rw [exists_or, exists_and_left, exists_and_left]

theorem reply_and_invoke_part_at_boom :
    let fault := Fault.custom "boom"
    let host : Host := fun index _ => if index = 0 then .ok (.error fault) else .error fault
    let given : Native := ⟨"given", .host 0⟩
    let failing : Native := ⟨"failing", .host 1⟩
    let row := [Value.array [.null, .error fault]]
    (given.invoke host [] = .ok (.error fault) ∧ given.reply host [] = .error fault ∧
      given.records host [] = [.entered "given" 0]) ∧
    (failing.invoke host [.null] = .error fault ∧ failing.reply host [.null] = .error fault ∧
      failing.records host [.null] = [.entered "failing" 1, .failed "failing" "boom"] ∧
      (.failed "failing" "boom" ∈ failing.records host [.null] ∧
        ∃ raised, failing.invoke host [.null] = .error raised ∧
          Record.failed "failing" "boom" = .failed "failing" raised.message)) ∧
    (Catalogue.find? "last" = some Primitive.last.native ∧
      (Primitive.last.native.reply host row).outcome ≠ Primitive.last.native.invoke host row) := by
  intro fault host given failing row
  obtain ⟨readings, -, listed⟩ := reply_and_invoke_part_at_stored_errors host
  have result : given.invoke host [] = .ok (.error fault) := rfl
  have failed : failing.invoke host [.null] = .error fault := rfl
  have found : Catalogue.find? "last" = some Primitive.last.native := rfl
  obtain ⟨replied, -, -, -, entered, -⟩ := readings given []
  obtain ⟨-, refused, -, -, -, recorded, members⟩ := readings failing [.null]
  have both := (recorded "boom").mpr ⟨fault, failed, rfl⟩
  have member : .failed "failing" "boom" ∈ failing.records host [.null] := by
    rw [both]
    exact List.mem_cons_of_mem _ List.mem_cons_self
  rcases members _ member with ⟨other, -⟩ | ⟨raised, -⟩
  · cases other
  · exact ⟨⟨result, replied _ result, entered.mpr ⟨_, result⟩⟩,
      ⟨failed, refused fault failed, both, member, raised⟩, found,
      (listed "last" _ found row).mpr (.inr ⟨rfl, fault, [.null], rfl⟩)⟩

end Native

end ScriptValues
