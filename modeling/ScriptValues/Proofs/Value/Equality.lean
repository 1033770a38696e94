import Mathlib.Data.List.Forall2
import ScriptValues.Value.Shared
import ScriptValues.Value.Structure

namespace ScriptValues

theorem Native.beq_iff_name_eq {f g : Native} : (f == g) = true ↔ f.name = g.name := by
  change (f.name == g.name) = true ↔ f.name = g.name
  exact beq_iff_eq

namespace Value

abbrev Equal (a b : Value) : Prop :=
  (a == b) = true

theorem beq_eq_same (a b : Value) : (a == b) = same a b := rfl

/-! ## Contents -/

theorem same_iff_content_eq (a b : Value) : same a b = true ↔ content a = content b := by
  induction a generalizing b with
  | integer n => cases b <;> simp [same, content]
  | boolean n => cases b <;> simp [same, content]
  | null => cases b <;> simp [same, content]
  | string bytes => cases b <;> simp [same, content]
  | builtin f =>
      cases b with
      | builtin g => simp [same, content, Native.beq_iff_name_eq]
      | _ => simp [same, content]
  | error fault => cases b <;> simp [same, content]
  | array items ih =>
      cases b with
      | array others =>
          simp only [same, content, Content.array.injEq]
          -- `ih` holds for every element against any value, so the lists can be walked together.
          induction items generalizing others with
          | nil => cases others <;> simp [sameAll, contentAll]
          | cons item items tail =>
              cases others with
              | nil => simp [sameAll, contentAll]
              | cons other others =>
                  have heads := ih item List.mem_cons_self other
                  have tails := tail (fun item member => ih item (List.mem_cons_of_mem _ member)) others
                  simp [sameAll, contentAll, heads, tails]
      | _ => simp [same, content]

theorem beq_iff_content_eq {a b : Value} : (a == b) = true ↔ a.content = b.content :=
  same_iff_content_eq a b

instance : EquivBEq Value where
  rfl := beq_iff_content_eq.mpr rfl
  symm equal := beq_iff_content_eq.mpr (beq_iff_content_eq.mp equal).symm
  trans first second :=
    beq_iff_content_eq.mpr ((beq_iff_content_eq.mp first).trans (beq_iff_content_eq.mp second))

theorem sameAll_iff_forall₂ {items others : List Value} :
    sameAll items others = true ↔ List.Forall₂ Equal items others := by
  induction items generalizing others with
  | nil => cases others <;> simp [sameAll]
  | cons item items ih =>
      cases others with
      | nil => simp [sameAll]
      | cons other others => simp [sameAll, ih, beq_eq_same]

theorem array_beq_array_iff {items others : List Value} :
    (array items == array others) = true ↔ List.Forall₂ Equal items others :=
  sameAll_iff_forall₂

@[elab_as_elim]
theorem beq_induction {motive : (a b : Value) → (a == b) = true → Prop}
    (integer : ∀ n equal, motive (integer n) (integer n) equal)
    (boolean : ∀ b equal, motive (boolean b) (boolean b) equal)
    (null : ∀ equal, motive null null equal)
    (string : ∀ bytes equal, motive (string bytes) (string bytes) equal)
    (array : ∀ items others equal,
      List.Forall₂ (fun a b => ∃ equal, motive a b equal) items others →
        motive (array items) (array others) equal)
    (builtin : ∀ f g : Native, f.name = g.name → ∀ equal, motive (builtin f) (builtin g) equal)
    (error : ∀ fault equal, motive (error fault) (error fault) equal)
    {a b : Value} (equal : (a == b) = true) : motive a b equal := by
  induction a generalizing b with
  | integer m =>
      cases b with
      | integer n =>
          obtain rfl : m = n := by simpa [beq_eq_same, same] using equal
          exact integer m equal
      | _ => cases equal
  | boolean m =>
      cases b with
      | boolean n =>
          obtain rfl : m = n := by simpa [beq_eq_same, same] using equal
          exact boolean m equal
      | _ => cases equal
  | null =>
      cases b with
      | null => exact null equal
      | _ => cases equal
  | string bytes =>
      cases b with
      | string others =>
          obtain rfl : bytes = others := by simpa [beq_eq_same, same] using equal
          exact string bytes equal
      | _ => cases equal
  | builtin f =>
      cases b with
      | builtin g => exact builtin f g (Native.beq_iff_name_eq.mp equal) equal
      | _ => cases equal
  | error fault =>
      cases b with
      | error other =>
          obtain rfl : fault = other := by simpa [beq_eq_same, same] using equal
          exact error fault equal
      | _ => cases equal
  | array items ih =>
      cases b with
      | array others =>
          refine array items others equal ?_
          have equals := array_beq_array_iff.mp equal
          clear equal
          induction equals with
          | nil => exact .nil
          | cons head _ tail =>
              exact .cons ⟨head, ih _ List.mem_cons_self head⟩
                (tail fun item member => ih item (List.mem_cons_of_mem _ member))
      | _ => cases equal

theorem tag_eq_of_beq {a b : Value} (equal : (a == b) = true) : a.tag = b.tag := by
  induction equal using beq_induction with
  | _ => rfl

end Value

/-! ## Shared memory -/

namespace Shared

theorem sameAll_eq {memory : Memory} {items others : List Shared}
    (elements : ∀ item ∈ items, ∀ other : Shared, item.StandsIn memory → other.StandsIn memory →
      same item other = item.value.same other.value)
    (left : AllStandIn memory items) (right : AllStandIn memory others) :
    sameAll items others = Value.sameAll (values items) (values others) := by
  induction items generalizing others with
  | nil => cases others <;> rfl
  | cons item items ih =>
      cases others with
      | nil => rfl
      | cons other others =>
          have heads := elements item List.mem_cons_self other left.1 right.1
          have tails := ih (fun item member => elements item (List.mem_cons_of_mem _ member))
            left.2 right.2
          simp only [sameAll, values, Value.sameAll, heads, tails]

theorem same_eq_beq {memory : Memory} {a b : Shared} (left : a.StandsIn memory)
    (right : b.StandsIn memory) : same a b = (a.value == b.value) := by
  rw [Value.beq_eq_same]
  induction a generalizing b with
  | integer n => cases b <;> rfl
  | boolean n => cases b <;> rfl
  | null => cases b <;> rfl
  | builtin f => cases b <;> rfl
  | string here bytes =>
      cases b with
      | string there others =>
          by_cases place : here = there
          · subst place
            obtain rfl : bytes = others := left.symm.trans right
            simp [same, value, Value.same]
          · simp [same, value, Value.same, place]
      | _ => rfl
  | error here fault =>
      cases b with
      | error there other =>
          by_cases place : here = there
          · subst place
            obtain rfl : fault = other := left.symm.trans right
            simp [same, value, Value.same]
          · simp [same, value, Value.same, place]
      | _ => rfl
  | array here items ih =>
      cases b with
      | array there others =>
          obtain ⟨held, inside⟩ := left
          obtain ⟨heldToo, insideToo⟩ := right
          by_cases place : here = there
          · subst place
            have contents : values items = values others := held.symm.trans heldToo
            have reflexive : (Value.array (values others) == Value.array (values others)) = true :=
              BEq.rfl
            simp only [same, value, contents, beq_self_eq_true, Bool.true_or]
            exact reflexive.symm
          · have elements := sameAll_eq (fun item member other => ih item member) inside insideToo
            simp [same, value, Value.same, place, elements]
      | _ => rfl

end Shared

/-! ## The laws together -/

namespace Value

/-- Equality of values is equality of their contents, with all that follows from it. Two arrays
are compared place by place, and values in one memory can be compared by address first. -/
theorem equality_is_structural :
    (∀ a b : Value, (a == b) = true ↔ a.content = b.content) ∧
    (∀ a : Value, (a == a) = true) ∧
    (∀ a b : Value, (a == b) = (b == a)) ∧
    (∀ a b c : Value, (a == b) = true → (b == c) = true → (a == c) = true) ∧
    (∀ a b : Value, a.tag ≠ b.tag → (a == b) = false) ∧
    (∀ items others : List Value, (array items == array others) = true ↔
      items.length = others.length ∧
        ∀ (i : Nat) (left : i < items.length) (right : i < others.length),
          (items[i] == others[i]) = true) ∧
    (∀ (memory : Memory) (a b : Shared), a.StandsIn memory → b.StandsIn memory →
      a.same b = (a.value == b.value)) := by
  refine ⟨fun _ _ => beq_iff_content_eq, fun _ => BEq.rfl, fun _ _ => BEq.comm,
    fun _ _ _ => BEq.trans, ?_, ?_, fun _ _ _ => Shared.same_eq_beq⟩
  · intro a b different
    cases equal : a == b with
    | false => rfl
    | true => exact absurd (tag_eq_of_beq equal) different
  · intro items others
    rw [array_beq_array_iff, List.forall₂_iff_get]
    rfl

/-- Functions of one name that run different code are equal, and an integer equals no string. Arrays
of such functions are at two addresses, so their members are compared; the two that hold a string are
at one address, and are equal at once. -/
theorem equality_is_structural_at_functions :
    let f : Nat → Native := fun index => ⟨"f", .host index⟩
    let row : Nat → Shared := fun address => .array address [.builtin (f address)]
    let word : Nat → Shared := fun address => .array 2 [.string address [97]]
    let memory : Memory :=
      { strings := fun _ => [97],
        arrays := fun address => if address = 2 then [string [97]] else [.builtin (f address)],
        faults := fun _ => .custom "" }
    ((builtin (f 0) == builtin (f 1)) = true ∧ (builtin (f 1) == builtin (f 2)) = true ∧
      (builtin (f 0) == builtin (f 2)) = true) ∧
    ((integer 1).tag ≠ (string [49]).tag ∧ (integer 1 == string [49]) = false) ∧
    ((row 0).StandsIn memory ∧ (row 1).StandsIn memory ∧
      (row 0).same (row 1) = ((row 0).value == (row 1).value)) ∧
    (word 0).StandsIn memory ∧ (word 1).StandsIn memory ∧
      (word 0).same (word 1) = ((word 0).value == (word 1).value) := by
  intro f row word memory
  obtain ⟨-, -, -, trans, tags, -, sharing⟩ := equality_is_structural
  have rows : (row 0).StandsIn memory ∧ (row 1).StandsIn memory :=
    ⟨⟨rfl, trivial, trivial⟩, ⟨rfl, trivial, trivial⟩⟩
  have words : (word 0).StandsIn memory ∧ (word 1).StandsIn memory :=
    ⟨⟨rfl, rfl, trivial⟩, ⟨rfl, rfl, trivial⟩⟩
  exact ⟨⟨rfl, rfl, trans _ (builtin (f 1)) _ rfl rfl⟩, ⟨by decide, tags _ _ (by decide)⟩,
    ⟨rows.1, rows.2, sharing memory _ _ rows.1 rows.2⟩,
    words.1, words.2, sharing memory _ _ words.1 words.2⟩

end Value

end ScriptValues
