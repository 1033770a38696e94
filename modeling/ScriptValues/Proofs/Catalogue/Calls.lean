import ScriptValues.Call
import ScriptValues.Catalogue.Index
import ScriptValues.Proofs.Primitive.Failure

namespace ScriptValues.Catalogue

namespace Index

theorem kept_cases {kept : Option Index} (before : Kept kept) : kept = none ∨ kept = some fresh := by
  induction before with
  | unused => exact .inl rfl
  | used before ih =>
      rcases ih with rfl | rfl
      · exact .inr rfl
      · exact .inr rfl

theorem eq_fresh {index : Index} (atHand : AtHand index) : index = fresh := by
  cases atHand with
  | own => rfl
  | shared before =>
      rcases kept_cases before with rfl | rfl
      · rfl
      · rfl

/-- No two primitives share a name, so each keeps its place in the index. -/
theorem entries_fresh :
    fresh.functions.entries = Catalogue.functions.map fun f => (f.name, f) := rfl

theorem find?_fresh (name : String) : fresh.find? name = Catalogue.find? name := by
  rw [find?, Assoc.get?, entries_fresh, List.find?_map, Option.map_map]
  exact congrFun Option.map_id _

theorem contains_fresh (name : String) : fresh.contains name = Catalogue.contains name := by
  rw [contains, entries_fresh, List.any_map]
  rfl

theorem value?_fresh (name : String) : fresh.value? name = Catalogue.value? name := by
  rw [value?, find?_fresh]
  rfl

theorem names_fresh : fresh.names = Catalogue.names := by
  rw [names, entries_fresh, List.map_map]
  rfl

end Index

open Primitive

/-- In every index the four ways to look up a name agree. A call by name fails with the wrong number
of arguments, and with the right number when the kind of the first one is not accepted; it has a
result for every other first argument whose length an integer can hold. -/
theorem call_by_name_fails_exactly {index : Index} (atHand : index.AtHand) (host : Host)
    (name : String) (args : List Value) :
    (index.find? name = find? name ∧ index.contains name = (index.find? name).isSome ∧
      index.value? name = (index.find? name).map Value.builtin ∧
      (name ∈ index.names ↔ (index.find? name).isSome = true) ∧
      ((index.find? name).isSome = true ↔ name ∈ ["len", "first", "last", "rest", "push"])) ∧
    ∀ f, index.find? name = some f → f.name = name ∧
      (args.length ≠ wanted name →
        f.invoke host args = .error (.wrongArity args.length (wanted name))) ∧
      (∀ target others, args = target :: others → args.length = wanted name →
        (¬Accepts name target.tag → f.invoke host args = .error (objection name target.tag)) ∧
        (Accepts name target.tag → target.memberCount < 0x8000000000000000 →
          ∃ value, f.invoke host args = .ok value)) ∧
      ((∀ arg ∈ args, arg.memberCount < 0x8000000000000000) →
        ∀ fault, f.invoke host args = .error fault →
          (args.length ≠ wanted name ∧ fault = .wrongArity args.length (wanted name)) ∨
          ∃ target others, args = target :: others ∧ args.length = wanted name ∧
            ¬Accepts name target.tag ∧ fault = objection name target.tag) := by
  obtain rfl := Index.eq_fresh atHand
  have listed : name ∈ Index.fresh.names ↔ (find? name).isSome = true :=
    Index.names_fresh ▸ mem_names_iff
  rw [Index.contains_fresh, Index.value?_fresh, Index.find?_fresh]
  refine ⟨⟨rfl, contains_eq_isSome name, rfl, listed, isSome_find?_iff⟩, ?_⟩
  intro f found
  obtain ⟨p, rfl, rfl⟩ := find?_eq_some_iff.mp found
  have invoked : p.native.invoke host args = p.run args := rfl
  rw [invoked, ← arity_eq_wanted]
  refine ⟨rfl, run_of_length_ne, ?_, ?_⟩
  · rintro target others rfl right
    exact ⟨run_of_not_accepts right, fun accepted short =>
      exists_run_eq_ok_of_accepts right accepted fun _ => short⟩
  · intro short fault failed
    cases failure_of_run_eq_error failed with
    | arity wrong => exact .inl ⟨wrong, rfl⟩
    | kind target others given right refused =>
        exact .inr ⟨target, others, given, right, refused, rfl⟩
    | length target others given right measured long =>
        have member : target ∈ args := given ▸ List.mem_cons_self
        exact absurd (short target member) (Nat.not_lt_of_ge long)

theorem call_by_name_fails_exactly_at_last :
    let index := (Index.share (Index.share none).2).1
    let host : Host := fun _ _ => .error (.custom "not asked")
    let f := Primitive.last.native
    let row := Value.array [.null, .error (.custom "kept")]
    index.AtHand ∧ index.find? "last" = some f ∧
      (([] : List Value).length ≠ wanted "last" ∧
        f.invoke host [] = .error (.wrongArity 0 (wanted "last"))) ∧
      ([Value.null].length = wanted "last" ∧ ¬Accepts "last" Value.null.tag ∧
        f.invoke host [.null] = .error (objection "last" .null)) ∧
      ([row].length = wanted "last" ∧ Accepts "last" row.tag ∧
        row.memberCount < 0x8000000000000000 ∧ ∃ value, f.invoke host [row] = .ok value) ∧
      (∀ arg ∈ [Value.null], arg.memberCount < 0x8000000000000000) ∧
        ∃ target others, [Value.null] = target :: others ∧
          objection "last" .null = objection "last" target.tag := by
  intro index host f row
  have atHand : index.AtHand := .shared (.used .unused)
  have found : index.find? "last" = some f := rfl
  have refused : ¬Accepts "last" Value.null.tag := by simp [Accepts, Value.tag]
  have accepted : Accepts "last" row.tag := .inl rfl
  have short : ∀ arg ∈ [Value.null], arg.memberCount < 0x8000000000000000 := by
    intro arg member
    obtain rfl := List.mem_singleton.mp member
    decide
  have few : ([] : List Value).length ≠ wanted "last" := by decide
  obtain ⟨-, none⟩ := call_by_name_fails_exactly atHand host "last" []
  obtain ⟨-, null⟩ := call_by_name_fails_exactly atHand host "last" [.null]
  obtain ⟨-, array⟩ := call_by_name_fails_exactly atHand host "last" [row]
  have failed := ((null f found).2.2.1 .null [] rfl rfl).1 refused
  refine ⟨atHand, found, ⟨few, (none f found).2.1 few⟩, ⟨rfl, refused, failed⟩,
    ⟨rfl, accepted, by decide, ((array f found).2.2.1 row [] rfl rfl).2 accepted (by decide)⟩, short, ?_⟩
  rcases (null f found).2.2.2 short _ failed with ⟨wrong, -⟩ | ⟨target, others, given, -, -, fault⟩
  · exact absurd rfl wrong
  · exact ⟨target, others, given, fault⟩

end ScriptValues.Catalogue
