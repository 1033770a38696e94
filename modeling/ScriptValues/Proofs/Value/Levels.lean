import ScriptValues.Proofs.Value.Equality
import ScriptValues.Value.Levels

namespace ScriptValues.Value

theorem mapM_eq_some_iff {α β : Type} {f : α → Option β} {items : List α} {parts : List β} :
    items.mapM f = some parts ↔ List.Forall₂ (fun item part => f item = some part) items parts := by
  induction items generalizing parts with
  | nil => cases parts <;> simp
  | cons item items ih => cases parts <;> simp [List.mapM_cons, ih, Option.bind_eq_some_iff]

section Rendering

variable {render : Value → Text} {join : List Text → Text}

theorem renderWithin_eq_some_iff (joins : ∀ items, render (array items) = join (items.map render))
    {levels : Nat} {a : Value} {text : Text} :
    renderWithin render join levels a = some text ↔ a.depth ≤ levels ∧ render a = text := by
  induction levels generalizing a text with
  | zero => cases a <;> simp [renderWithin, depth]
  | succ levels ih =>
      cases a with
      | array items =>
          have parts (texts : List Text) :
              items.mapM (renderWithin render join levels) = some texts ↔
                (∀ item ∈ items, item.depth ≤ levels) ∧ items.map render = texts := by
            rw [mapM_eq_some_iff]
            simp only [ih]
            rw [List.forall₂_and_left, ← List.forall₂_map_left_iff, List.forall₂_eq_eq_eq]
          simp only [renderWithin, Option.map_eq_some_iff, parts, depth_array_le_succ_iff, joins]
          constructor
          · rintro ⟨texts, ⟨shallow, rfl⟩, joined⟩
            exact ⟨shallow, joined⟩
          · rintro ⟨shallow, joined⟩
            exact ⟨_, ⟨shallow, rfl⟩, joined⟩
      | _ => simp [renderWithin, depth]

theorem renderWithin_eq_none_iff (joins : ∀ items, render (array items) = join (items.map render))
    {levels : Nat} {a : Value} :
    renderWithin render join levels a = none ↔ levels < a.depth := by
  rw [Option.eq_none_iff_forall_ne_some, ← Nat.not_le]
  refine ⟨fun missing shallow => ?_, fun deep text rendered => ?_⟩
  · exact missing _ ((renderWithin_eq_some_iff joins).mpr ⟨shallow, rfl⟩)
  · exact deep ((renderWithin_eq_some_iff joins).mp rendered).1

end Rendering

theorem inspectWithin_eq_some_iff {levels : Nat} {a : Value} {text : Text} :
    a.inspectWithin levels = some text ↔ a.depth ≤ levels ∧ a.inspect = text :=
  renderWithin_eq_some_iff inspect_array

theorem inspectWithin_eq_none_iff {levels : Nat} {a : Value} :
    a.inspectWithin levels = none ↔ levels < a.depth :=
  renderWithin_eq_none_iff inspect_array

theorem debugWithin_eq_some_iff {levels : Nat} {a : Value} {text : Text} :
    a.debugWithin levels = some text ↔ a.depth ≤ levels ∧ a.debug = text :=
  renderWithin_eq_some_iff debug_array

theorem debugWithin_eq_none_iff {levels : Nat} {a : Value} :
    a.debugWithin levels = none ↔ levels < a.depth :=
  renderWithin_eq_none_iff debug_array

theorem sameAllBy_eq_some {test : Value → Value → Option Bool} {items others : List Value}
    (tests : ∀ item ∈ items, ∀ other ∈ others, test item other = some (item == other)) :
    sameAllBy test items others = some (array items == array others) := by
  induction items generalizing others with
  | nil => cases others <;> rfl
  | cons item items ih =>
      cases others with
      | nil => rfl
      | cons other others =>
          have tail := ih fun item here other there =>
            tests item (List.mem_cons_of_mem _ here) other (List.mem_cons_of_mem _ there)
          have head := tests item List.mem_cons_self other List.mem_cons_self
          have whole : (array (item :: items) == array (other :: others)) =
              ((item == other) && (array items == array others)) := rfl
          rw [sameAllBy, head, tail, whole]
          cases item == other <;> rfl

theorem sameWithin_eq_some {levels : Nat} {a b : Value}
    (shallow : a.depth ≤ levels ∨ b.depth ≤ levels) :
    sameWithin levels a b = some (a == b) := by
  induction levels generalizing a b with
  | zero =>
      cases a with
      | array items =>
          cases b with
          | array others => rcases shallow with deep | deep <;> cases deep
          | _ => rfl
      | _ => rfl
  | succ levels ih =>
      cases a with
      | array items =>
          cases b with
          | array others =>
              refine sameAllBy_eq_some fun item here other there => ih ?_
              simp only [depth_array_le_succ_iff] at shallow
              exact shallow.imp (· item here) (· other there)
          | _ => rfl
      | _ => rfl

theorem fits_iff {levels : Nat} {a : Value} : a.Fits levels ↔ a.depth ≤ levels where
  mp fits := (inspectWithin_eq_some_iff.mp fits.inspect).1
  mpr shallow :=
    { inspect := inspectWithin_eq_some_iff.mpr ⟨shallow, rfl⟩
      debug := debugWithin_eq_some_iff.mpr ⟨shallow, rfl⟩
      same := fun _ => sameWithin_eq_some (.inl shallow)
      sameBehind := fun _ => sameWithin_eq_some (.inr shallow) }

end ScriptValues.Value
