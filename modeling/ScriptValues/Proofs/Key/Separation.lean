import ScriptValues.Key.Basic
import ScriptValues.Proofs.Value.Equality

namespace ScriptValues

namespace Scalar

theorem word_integer_injective {m n : Int64} (equal : (integer m).word = (integer n).word) :
    m = n := by
  have back := congrArg UInt64.toInt64 equal
  simpa [word] using back

theorem word_boolean_injective {a b : Bool} (equal : (boolean a).word = (boolean b).word) :
    a = b := by
  cases a <;> cases b <;> simp_all [word]

theorem strings_of_key_eq {x y : Scalar} (equal : x.key = y.key) (different : x ≠ y) :
    ∃ bytes others, x = string bytes ∧ y = string others ∧ bytes ≠ others := by
  -- A key gives away the kind, so the words need to be compared within one kind only.
  have tags : x.tag = y.tag := congrArg Key.tag equal
  have words : x.word = y.word := congrArg Key.word equal
  cases x with
  | integer m =>
      cases y with
      | integer n => exact absurd (congrArg integer (word_integer_injective words)) different
      | _ => cases tags
  | boolean a =>
      cases y with
      | boolean b => exact absurd (congrArg boolean (word_boolean_injective words)) different
      | _ => cases tags
  | string bytes =>
      cases y with
      | string others =>
          exact ⟨bytes, others, rfl, rfl, fun same => different (congrArg string same)⟩
      | _ => cases tags

end Scalar

namespace Value

theorem isScalar_iff {a : Value} :
    a.isScalar = true ↔
      (∃ n, a = integer n) ∨ (∃ b, a = boolean b) ∨ ∃ bytes, a = string bytes := by
  cases a <;> simp [isScalar, scalar?]

theorem isScalar_eq_isSome_key? (a : Value) : a.isScalar = a.key?.isSome := by
  simp [isScalar, key?]

theorem tag_of_scalar? {a : Value} {x : Scalar} (view : a.scalar? = some x) : x.tag = a.tag := by
  cases a <;> simp only [scalar?, Option.some.injEq, reduceCtorEq] at view <;> subst view <;> rfl

theorem tag_of_key? {a : Value} {key : Key} (keyed : a.key? = some key) : key.tag = a.tag := by
  obtain ⟨x, view, rfl⟩ := Option.map_eq_some_iff.mp keyed
  exact tag_of_scalar? view

theorem mapKey_of_key? {a : Value} {key : Key} (keyed : a.key? = some key) :
    a.mapKey = .ok key := by
  rw [mapKey, keyed]

theorem mapKey_of_key?_eq_none {a : Value} (unkeyed : a.key? = none) :
    a.mapKey = .error (.unusableKey a.tag) := by
  rw [mapKey, unkeyed]

theorem isOk_mapKey (a : Value) : a.mapKey.isOk = a.key?.isSome := by
  cases keyed : a.key? with
  | none => rw [mapKey_of_key?_eq_none keyed]; rfl
  | some key => rw [mapKey_of_key? keyed]; rfl

theorem scalar?_eq_of_beq {a b : Value} (equal : (a == b) = true) : a.scalar? = b.scalar? := by
  induction equal using beq_induction with
  | _ => rfl

theorem key?_eq_of_beq {a b : Value} (equal : (a == b) = true) : a.key? = b.key? :=
  congrArg (Option.map Scalar.key) (scalar?_eq_of_beq equal)

theorem eq_of_scalar?_eq {a b : Value} {x : Scalar} (left : a.scalar? = some x)
    (right : b.scalar? = some x) : a = b := by
  cases a <;> simp only [scalar?, Option.some.injEq, reduceCtorEq] at left <;> subst left <;>
    cases b <;> simp_all [scalar?]

theorem beq_iff_scalar?_eq {a b : Value} (left : a.isScalar = true) :
    (a == b) = true ↔ a.scalar? = b.scalar? := by
  refine ⟨scalar?_eq_of_beq, fun views => ?_⟩
  obtain ⟨x, view⟩ := Option.isSome_iff_exists.mp left
  rw [eq_of_scalar?_eq view (views.symm.trans view)]
  exact BEq.rfl

theorem strings_of_key?_eq {a b : Value} (left : a.isScalar = true) (keys : a.key? = b.key?)
    (different : (a == b) = false) :
    ∃ bytes others, a = string bytes ∧ b = string others ∧ bytes ≠ others := by
  obtain ⟨x, viewA⟩ := Option.isSome_iff_exists.mp left
  simp only [key?, viewA, Option.map_some] at keys
  obtain ⟨y, viewB, shared⟩ := Option.map_eq_some_iff.mp keys.symm
  have views : x ≠ y := by
    rintro rfl
    rw [eq_of_scalar?_eq viewA viewB, BEq.rfl] at different
    cases different
  obtain ⟨bytes, others, rfl, rfl, apart⟩ := Scalar.strings_of_key_eq shared.symm views
  have first : (string bytes).scalar? = some (.string bytes) := rfl
  have second : (string others).scalar? = some (.string others) := rfl
  exact ⟨bytes, others, eq_of_scalar?_eq viewA first, eq_of_scalar?_eq viewB second, apart⟩

theorem tag_eq_of_key?_eq {a b : Value} {key : Key} (left : a.key? = some key)
    (right : b.key? = some key) : a.tag = b.tag :=
  (tag_of_key? left).symm.trans (tag_of_key? right)

/-- Integers, truth values and strings have keys of their own kind, and other values are refused.
Values that have keys are equal when their scalars are. Equal values have equal keys, and of
different values only strings can share a key. -/
theorem keys_separate_values :
    (∀ a : Value,
      (a.isScalar = true ↔ a.key?.isSome = true) ∧
      (a.isScalar = true ↔ a.mapKey.isOk = true) ∧
      (a.isScalar = true ↔
        (∃ n, a = integer n) ∨ (∃ b, a = boolean b) ∨ ∃ bytes, a = string bytes) ∧
      match a.scalar? with
      | some x =>
          a.key? = some x.key ∧ a.mapKey = .ok x.key ∧ x.key.tag = a.tag ∧ x.tag = a.tag
      | none => a.key? = none ∧ a.mapKey = .error (.unusableKey a.tag)) ∧
    (∀ a b : Value, a.isScalar = true → b.isScalar = true →
      ((a == b) = true ↔ a.scalar? = b.scalar?) ∧
      ((a == b) = true → a.key? = b.key?) ∧
      (a.key? = b.key? → (a == b) = false →
        ∃ bytes others, a = string bytes ∧ b = string others ∧ bytes ≠ others)) ∧
    (∀ m n : Int64, (integer m).key? = (integer n).key? → m = n) ∧
    (∀ b c : Bool, (boolean b).key? = (boolean c).key? → b = c) ∧
    (∀ (a b : Value) (x y : Key), a.key? = some x → b.key? = some y → a.tag ≠ b.tag → x ≠ y) := by
  refine ⟨fun a => ⟨?_, ?_, isScalar_iff, ?_⟩, fun a b left _ => ⟨beq_iff_scalar?_eq left,
    key?_eq_of_beq, strings_of_key?_eq left⟩, ?_, ?_, ?_⟩
  · rw [isScalar_eq_isSome_key?]
  · rw [isScalar_eq_isSome_key?, isOk_mapKey]
  · cases view : a.scalar? with
    | some x =>
        have keyed : a.key? = some x.key := congrArg (Option.map Scalar.key) view
        exact ⟨keyed, mapKey_of_key? keyed, tag_of_key? keyed, tag_of_scalar? view⟩
    | none =>
        have unkeyed : a.key? = none := congrArg (Option.map Scalar.key) view
        exact ⟨unkeyed, mapKey_of_key?_eq_none unkeyed⟩
  · intro m n keys
    exact Scalar.word_integer_injective (congrArg Key.word (Option.some.inj keys))
  · intro b c keys
    exact Scalar.word_boolean_injective (congrArg Key.word (Option.some.inj keys))
  · rintro a b x _ left right tags rfl
    exact tags (tag_eq_of_key?_eq left right)

/-- Strings that start with the first seed of the hash share a key, whatever eight bytes follow.
One and the truth share a word, but not a tag. -/
theorem keys_separate_values_at_collisions :
    let seed : List UInt8 := [0xD3, 0x08, 0xA3, 0x85, 0x88, 0x6A, 0x3F, 0x24]
    let zeros := string (seed ++ List.replicate 8 0)
    let ones := string (seed ++ List.replicate 8 1)
    (zeros.key? = ones.key? ∧ (zeros == ones) = false ∧
      ∃ bytes others, zeros = string bytes ∧ ones = string others ∧ bytes ≠ others) ∧
    ((integer 1).tag ≠ (boolean true).tag ∧ (⟨.integer, 1⟩ : Key) ≠ ⟨.boolean, 1⟩) := by
  intro seed zeros ones
  obtain ⟨-, pairs, -, -, tags⟩ := keys_separate_values
  have keys : zeros.key? = ones.key? := by decide +kernel
  have different : (zeros == ones) = false := by decide
  have one : (integer 1).key? = some ⟨.integer, 1⟩ := by decide
  have truth : (boolean true).key? = some ⟨.boolean, 1⟩ := by decide
  exact ⟨⟨keys, different, (pairs zeros ones rfl rfl).2.2 keys different⟩,
    by decide, tags _ _ _ _ one truth (by decide)⟩

end Value

end ScriptValues
