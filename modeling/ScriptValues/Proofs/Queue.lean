import Mathlib.Data.List.Basic
import Mathlib.Data.List.Induction
import ScriptValues.Proofs.Primitive.Members
import ScriptValues.Queue

namespace ScriptValues.Queue

variable {host : Host}

theorem run_cons (x : Value) (operation : Operation) (operations : List Operation) :
    run host x (operation :: operations) = run host (operation.apply host x) operations := rfl

theorem run_append (x : Value) (before after : List Operation) :
    run host x (before ++ after) = run host (run host x before) after :=
  List.foldl_append ..

theorem run_concat (x : Value) (operations : List Operation) (operation : Operation) :
    run host x (operations ++ [operation]) = operation.apply host (run host x operations) :=
  run_append x operations [operation]

theorem stocked_cons {x : Value} {operation : Operation} {operations : List Operation} :
    Stocked host x (operation :: operations) ↔
      (operation = .rest → x ≠ .array []) ∧ Stocked host (operation.apply host x) operations := by
  constructor
  · intro stocked
    constructor
    · rintro rfl
      exact stocked [] operations rfl
    · rintro before after rfl
      exact stocked (operation :: before) after rfl
  · rintro ⟨here, later⟩ before after split
    cases before with
    | nil => exact here (List.cons.inj split).1
    | cons first before =>
        obtain ⟨rfl, behind⟩ := List.cons.inj split
        exact later before after behind

/-! ## While there is something left -/

theorem run_of_stocked {xs : List Value} {operations : List Operation}
    (stocked : Stocked host (.array xs) operations) :
    run host (.array xs) operations = .array ((xs ++ pushed operations).drop (rests operations)) ∧
      rests operations ≤ xs.length + (pushed operations).length := by
  induction operations generalizing xs with
  | nil => simp [run, pushed, rests]
  | cons operation operations ih =>
      obtain ⟨here, later⟩ := stocked_cons.mp stocked
      cases operation with
      | push item =>
          have grown : Operation.apply host (.array xs) (.push item) = .array (xs ++ [item]) := rfl
          rw [grown] at later
          obtain ⟨held, bound⟩ := ih later
          rw [List.append_assoc] at held
          rw [List.length_append] at bound
          rw [run_cons, grown, pushed, rests]
          exact ⟨held, by simpa [Nat.add_assoc, Nat.add_comm 1] using bound⟩
      | rest =>
          cases xs with
          | nil => exact absurd rfl (here rfl)
          | cons x xs =>
              obtain ⟨held, bound⟩ := ih later
              refine ⟨held, ?_⟩
              rw [pushed, rests, List.length_cons]
              omega

theorem reply_len_array (host : Host) {items : List Value} (short : items.length < 0x8000000000000000) :
    ∃ n : Int64, Primitive.len.native.reply host [.array items] = .integer n ∧
      n.toInt = items.length := by
  refine ⟨Int64.ofNat items.length, ?_, Int64.toInt_ofNat_of_lt short⟩
  exact congrArg Value.ofOutcome (Primitive.lenOf_of_sequence (.array items) short)

theorem reply_first_array (items : List Value) :
    Primitive.first.native.reply host [.array items] = items.head?.getD .null :=
  congrArg Value.ofOutcome (Primitive.firstOf_of_sequence (.array items))

theorem reply_last_array (items : List Value) :
    Primitive.last.native.reply host [.array items] = items.getLast?.getD .null :=
  congrArg Value.ofOutcome (Primitive.lastOf_of_sequence (.array items))

/-! ## When it has run out -/

theorem exists_first_underflow {x : Value} {operations : List Operation}
    (short : ¬Stocked host x operations) :
    ∃ before after, operations = before ++ .rest :: after ∧ Stocked host x before ∧
      run host x before = .array [] := by
  induction operations generalizing x with
  | nil => exact absurd (fun before after split => absurd split (by simp)) short
  | cons operation operations ih =>
      by_cases here : operation = .rest → x ≠ .array []
      · have later : ¬Stocked host (operation.apply host x) operations :=
          fun later => short (stocked_cons.mpr ⟨here, later⟩)
        obtain ⟨before, after, rfl, stocked, empty⟩ := ih later
        exact ⟨operation :: before, after, rfl, stocked_cons.mpr ⟨here, stocked⟩, empty⟩
      · obtain ⟨rfl, empty⟩ := Classical.not_imp.mp here
        obtain rfl := Classical.not_not.mp empty
        exact ⟨[], operations, rfl, fun before after split => absurd split (by simp), rfl⟩

theorem apply_of_lost {x : Value} (lost : x.tag = .null ∨ x.tag = .error) (operation : Operation) :
    operation.apply host x = .error (operation.refusal x.tag) := by
  have refused (p : Primitive) : ¬Primitive.Accepts p.name x.tag := by
    rcases lost with tag | tag <;> simp [Primitive.Accepts, tag]
  cases operation with
  | push item =>
      have failed : Primitive.push.run [x, item] = .error (.expectedArray "push" x.tag) :=
        Primitive.run_of_not_accepts rfl (refused .push)
      exact congrArg Value.ofOutcome failed
  | rest =>
      have failed : Primitive.rest.run [x] = .error (.expectedSequence "rest" x.tag) :=
        Primitive.run_of_not_accepts rfl (refused .rest)
      exact congrArg Value.ofOutcome failed

theorem lost_run_null (host : Host) (operations : List Operation) :
    (run host .null operations).tag = .null ∨ (run host .null operations).tag = .error := by
  induction operations using List.reverseRecOn with
  | nil => exact .inl rfl
  | append_singleton operations operation ih =>
      rw [run_concat, apply_of_lost ih]
      exact .inr rfl

theorem tag_run_null (operations : List Operation) :
    (run host .null operations).tag = if operations = [] then .null else .error := by
  rcases operations.eq_nil_or_concat' with rfl | ⟨before, operation, rfl⟩
  · rfl
  · rw [run_concat, apply_of_lost (lost_run_null host before), if_neg (by simp)]
    rfl

theorem run_null_concat (operations : List Operation) (operation : Operation) :
    run host .null (operations ++ [operation]) =
      .error (operation.refusal (if operations = [] then .null else .error)) := by
  rw [run_concat, apply_of_lost (lost_run_null host operations), tag_run_null]

theorem run_underflow {x : Value} {before : List Operation} (empty : run host x before = .array [])
    (after : List Operation) : run host x (before ++ .rest :: after) = run host .null after := by
  rw [run_append, empty, run_cons]
  rfl

/-! ## Both together -/

/-- An array serves as a queue until the rest of an empty one is taken. That gives null, and from
then on no operation leads back to an array: each gives the fault for what it meets, which is null
the first time and an error ever after. -/
theorem run_is_queue_until_underflow (host : Host) (xs : List Value) :
    (∀ operations, Stocked host (.array xs) operations →
      let x := run host (.array xs) operations
      let items := (xs ++ pushed operations).drop (rests operations)
      x = .array items ∧ rests operations ≤ xs.length + (pushed operations).length ∧
      (items.length < 0x8000000000000000 → ∃ n : Int64,
        Primitive.len.native.reply host [x] = .integer n ∧
          n.toInt = xs.length + (pushed operations).length - rests operations) ∧
      Primitive.first.native.reply host [x] = items.head?.getD .null ∧
      Primitive.last.native.reply host [x] = items.getLast?.getD .null) ∧
    (∀ operations, ¬Stocked host (.array xs) operations →
      ∃ before after, operations = before ++ .rest :: after ∧ Stocked host (.array xs) before ∧
        run host (.array xs) before = .array []) ∧
    (∀ before, run host (.array xs) before = .array [] →
      run host (.array xs) (before ++ [.rest]) = .null ∧
      (∀ after, (run host (.array xs) (before ++ .rest :: after)).tag ≠ .array) ∧
      ∀ after operation, run host (.array xs) (before ++ .rest :: (after ++ [operation])) =
        .error (operation.refusal (if after = [] then .null else .error))) := by
  refine ⟨fun operations stocked => ?_, fun operations => exists_first_underflow,
    fun before empty => ⟨run_underflow empty [], fun after => ?_, fun after operation => ?_⟩⟩
  · obtain ⟨held, bound⟩ := run_of_stocked stocked
    dsimp only
    rw [held]
    refine ⟨rfl, bound, fun short => ?_, reply_first_array _, reply_last_array _⟩
    obtain ⟨n, counted, number⟩ := reply_len_array host short
    rw [List.length_drop, List.length_append] at number
    exact ⟨n, counted, by omega⟩
  · rw [run_underflow empty]
    rcases lost_run_null host after with tag | tag <;> rw [tag] <;> decide
  · rw [run_underflow empty, run_null_concat]

theorem run_is_queue_until_underflow_at_errors :
    let host : Host := fun _ _ => .ok .null
    let kept := Value.error (.custom "kept")
    let before : List Operation := [.push kept, .rest, .rest]
    Stocked host (.array [.null]) (before.take 2) ∧
      run host (.array [.null]) (before.take 2) = .array [kept] ∧
      (¬Stocked host (.array [.null]) (before ++ [.rest]) ∧ ∃ earlier after,
        before ++ [.rest] = earlier ++ .rest :: after ∧ Stocked host (.array [.null]) earlier ∧
          run host (.array [.null]) earlier = .array []) ∧
      run host (.array [.null]) before = .array [] ∧
      run host (.array [.null]) (before ++ [.rest]) = .null ∧
      run host (.array [.null]) (before ++ [.rest, .push .null]) =
        .error (.expectedArray "push" .null) ∧
      run host (.array [.null]) (before ++ [.rest, .push .null, .rest]) =
        .error (.expectedSequence "rest" .error) := by
  intro host kept before
  obtain ⟨queue, underflow, lost⟩ := run_is_queue_until_underflow host [.null]
  have stocked : Stocked host (.array [.null]) (before.take 2) := by
    refine stocked_cons.mpr ⟨nofun, stocked_cons.mpr ⟨fun _ => ?_, ?_⟩⟩
    · exact fun empty => absurd (congrArg (Option.map List.length ∘ Value.items?) empty) (by decide)
    · exact fun before after split => absurd split (by simp)
  have empty : run host (.array [.null]) before = .array [] := rfl
  have short : ¬Stocked host (.array [.null]) (before ++ [.rest]) := fun always =>
    always before [] rfl empty
  obtain ⟨null, -, errors⟩ := lost before empty
  exact ⟨stocked, (queue _ stocked).1, ⟨short, underflow _ short⟩, empty, null,
    errors [] (.push .null), errors [.push .null] .rest⟩

end ScriptValues.Queue
