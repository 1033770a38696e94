import ScriptValues.Proofs.Text.Quoting
import ScriptValues.Proofs.Text.Utf8
import ScriptValues.Proofs.Value.Equality
import ScriptValues.Value.Rendering
import ScriptValues.Value.View

/-!
# The diagnostic rendering is read back

The rendering of a value begins with a word for its kind and shows where it ends
(`debugWith_append_inj`), so it determines what it shows. Two values are rendered alike for
diagnostics exactly when they have the same view.
-/

namespace ScriptValues
open Text

/-! ## The words for the kinds -/

def Tag.heading : Tag → Text
  | integer => "Integer".toList
  | boolean => "Boolean".toList
  | null => "Null".toList
  | error => "Error".toList
  | string => "Str".toList
  | array => "Array".toList
  | builtin => "Builtin".toList

theorem Tag.heading_prefixFree : PrefixFree Tag.heading := by
  intro tag other
  cases tag <;> cases other <;> decide

namespace Value

theorem debugWith_eq_heading_append (numbered : Char → Bool) (a : Value) :
    ∃ body, a.debugWith numbered = a.tag.heading ++ body := by
  cases a with
  | null => exact ⟨[], rfl⟩
  | integer n => exact ⟨_, rfl⟩
  | boolean b => exact ⟨_, rfl⟩
  | string bytes => exact ⟨_, rfl⟩
  | array items => exact ⟨_, rfl⟩
  | builtin f => exact ⟨_, rfl⟩
  | error fault => exact ⟨_, rfl⟩

theorem tag_eq_of_debugWith_append_eq {numbered : Char → Bool} {a b : Value} {x y : Text}
    (equal : a.debugWith numbered ++ x = b.debugWith numbered ++ y) : a.tag = b.tag := by
  obtain ⟨body, left⟩ := debugWith_eq_heading_append numbered a
  obtain ⟨other, right⟩ := debugWith_eq_heading_append numbered b
  rw [left, right, List.append_assoc, List.append_assoc] at equal
  exact (Tag.heading_prefixFree.append_inj equal).1

theorem debugWith_begins (numbered : Char → Bool) (a : Value) :
    ∃ c rest, a.debugWith numbered = c :: rest ∧ c ≠ ']' := by
  cases a with
  | null => exact ⟨'N', _, rfl, by decide⟩
  | integer n => exact ⟨'I', _, rfl, by decide⟩
  | boolean b => exact ⟨'B', _, rfl, by decide⟩
  | string bytes => exact ⟨'S', _, rfl, by decide⟩
  | array items => exact ⟨'A', _, rfl, by decide⟩
  | builtin f => exact ⟨'B', _, rfl, by decide⟩
  | error fault => exact ⟨'E', _, rfl, by decide⟩

theorem viewAll_eq_of_forall₂ {items others : List Value}
    (views : List.Forall₂ (fun a b => a.view = b.view) items others) :
    viewAll items = viewAll others := by
  induction views with
  | nil => rfl
  | cons head _ tail => rw [viewAll, viewAll, head, tail]

theorem forall₂_of_viewAll_eq {related : Value → Value → Prop} {items others : List Value}
    (each : ∀ a ∈ items, ∀ b ∈ others, a.view = b.view → related a b)
    (same : viewAll items = viewAll others) : List.Forall₂ related items others := by
  induction items generalizing others with
  | nil =>
      cases others with
      | nil => exact .nil
      | cons b others => cases same
  | cons a items ih =>
      cases others with
      | nil => cases same
      | cons b others =>
          obtain ⟨head, tail⟩ := List.cons.inj same
          have later : ∀ a ∈ items, ∀ b ∈ others, a.view = b.view → related a b :=
            fun a left b right => each a (List.mem_cons_of_mem _ left) b (List.mem_cons_of_mem _ right)
          exact .cons (each a List.mem_cons_self b List.mem_cons_self head) (ih later tail)

theorem allPlainNames_iff {values : List Value} :
    AllPlainNames values ↔ ∀ value ∈ values, value.PlainNames := by
  induction values with
  | nil => simp [AllPlainNames]
  | cons first values ih => simp [AllPlainNames, ih]

/-! ## Reading a rendering -/

theorem debugWith_append_inj {numbered : Char → Bool} {a b : Value} (left : a.PlainNames)
    (right : b.PlainNames) {x y : Text}
    (equal : a.debugWith numbered ++ x = b.debugWith numbered ++ y) : a.view = b.view ∧ x = y := by
  have tags := tag_eq_of_debugWith_append_eq equal
  induction a generalizing b x y with
  | integer m =>
      cases b with
      | integer n =>
          have mark (z : Int) : ')' ∉ Text.integer z := not_mem_integer (by decide) (by decide) z
          obtain ⟨numerals, rest⟩ := applied_append_inj (mark _) (mark _) equal
          exact ⟨congrArg View.integer (Int64.toInt_inj.mp (integer_injective numerals)), rest⟩
      | _ => cases tags
  | boolean c =>
      cases b with
      | boolean d =>
          have mark (e : Bool) : ')' ∉ Text.boolean e := by cases e <;> decide
          obtain ⟨words, rest⟩ := applied_append_inj (mark c) (mark d) equal
          exact ⟨congrArg View.boolean (boolean_injective words), rest⟩
      | _ => cases tags
  | null =>
      cases b with
      | null => exact ⟨rfl, List.append_cancel_left equal⟩
      | _ => cases tags
  | string bytes =>
      cases b with
      | string others =>
          obtain ⟨texts, rest⟩ := quoteWith_append_inj (applied_append_eq_iff.mp equal)
          exact ⟨congrArg View.string texts, (List.cons.inj rest).2⟩
      | _ => cases tags
  | builtin f =>
      cases b with
      | builtin g =>
          obtain ⟨names, rest⟩ := applied_append_inj left right equal
          exact ⟨congrArg View.builtin (String.toList_inj.mp names), rest⟩
      | _ => cases tags
  | error fault =>
      cases b with
      | error other =>
          obtain ⟨messages, rest⟩ := quoteWith_append_inj (applied_append_eq_iff.mp equal)
          exact ⟨congrArg View.error (String.toList_inj.mp messages), (List.cons.inj rest).2⟩
      | _ => cases tags
  | array items ih =>
      cases b with
      | array others =>
          have plain := allPlainNames_iff.mp left
          have plainToo := allPlainNames_iff.mp right
          have lists := applied_append_eq_iff.mp equal
          rw [debugAllWith_eq_map, debugAllWith_eq_map] at lists
          have separate : ∀ a ∈ items, ∀ b ∈ others,
              Separates (debugWith numbered) (fun a b => a.view = b.view) a b := by
            intro a here b there x y _ _ same
            exact ih a here (plain a here) (plainToo b there) same (tag_eq_of_debugWith_append_eq same)
          obtain ⟨views, rest⟩ :=
            bracketed_append_inj separate (fun a _ => debugWith_begins numbered a) lists
          exact ⟨congrArg View.array (viewAll_eq_of_forall₂ views), (List.cons.inj rest).2⟩
      | _ => cases tags

theorem debugWith_eq_of_view_eq (numbered : Char → Bool) {a b : Value} (same : a.view = b.view) :
    a.debugWith numbered = b.debugWith numbered := by
  induction a generalizing b with
  | array items ih =>
      cases b with
      | array others =>
          have alike : List.Forall₂ (fun a b => a.debugWith numbered = b.debugWith numbered) items
              others :=
            forall₂_of_viewAll_eq (fun a here b _ views => ih a here views) (View.array.inj same)
          have texts : items.map (debugWith numbered) = others.map (debugWith numbered) := by
            rwa [← List.forall₂_eq_eq_eq, List.forall₂_map_left_iff, List.forall₂_map_right_iff]
          rw [debugWith, debugWith, debugAllWith_eq_map, debugAllWith_eq_map, texts]
      | _ => cases same
  | integer m => cases b <;> cases same; rfl
  | boolean c => cases b <;> cases same; rfl
  | null => cases b <;> cases same; rfl
  | string bytes =>
      cases b with
      | string others => rw [debugWith, debugWith, View.string.inj same]
      | _ => cases same
  | builtin f =>
      cases b with
      | builtin g => rw [debugWith, debugWith, View.builtin.inj same]
      | _ => cases same
  | error fault =>
      cases b with
      | error other => rw [debugWith, debugWith, View.error.inj same]
      | _ => cases same

theorem plainNames_of_mem_functions {f : Native} (listed : f ∈ Catalogue.functions) :
    (builtin f).PlainNames := by
  obtain ⟨p, -, rfl⟩ := List.mem_map.mp listed
  change ')' ∉ p.name.toList
  cases p <;> decide

theorem Textual.plainNames {a : Value} (textual : a.Textual) : a.PlainNames := by
  induction textual with
  | array items _ ih => exact allPlainNames_iff.mpr ih
  | builtin f listed => exact plainNames_of_mem_functions listed
  | _ => trivial

theorem beq_of_view_eq {a b : Value} (left : a.Textual) (right : b.Textual)
    (same : a.view = b.view) : (a == b) = true := by
  induction left generalizing b with
  | integer n => cases right <;> cases same; exact BEq.rfl
  | boolean c => cases right <;> cases same; exact BEq.rfl
  | null => cases right <;> cases same; exact BEq.rfl
  | string text =>
      cases right with
      | string other =>
          have texts : Utf8.decode (Utf8.encode text) = Utf8.decode (Utf8.encode other) :=
            View.string.inj same
          rw [Utf8.decode_encode, Utf8.decode_encode] at texts
          rw [texts]
          exact BEq.rfl
      | _ => cases same
  | builtin f listed =>
      cases right with
      | builtin g listedToo => exact Native.beq_iff_name_eq.mpr (View.builtin.inj same)
      | _ => cases same
  | array items each ih =>
      cases right with
      | array others eachToo =>
          have equal := forall₂_of_viewAll_eq
            (fun a here b there views => ih a here (eachToo b there) views) (View.array.inj same)
          exact array_beq_array_iff.mpr equal
      | _ => cases same

/-! ## The rendering as a whole -/

/-- Whatever characters are written by number, two values are rendered alike for diagnostics exactly
when they have the same view, and then they are equal if they are made of texts and of functions in
the catalogue. -/
theorem debug_text_determines_view (numbered : Char → Bool) :
    (∀ a b : Value, a.PlainNames → b.PlainNames →
      (a.debugWith numbered = b.debugWith numbered ↔ a.view = b.view)) ∧
    (∀ f ∈ Catalogue.functions, (builtin f).PlainNames) ∧
    (∀ a b : Value, a.Textual → b.Textual → a.debugWith numbered = b.debugWith numbered →
      (a == b) = true) := by
  have reads {a b : Value} (left : a.PlainNames) (right : b.PlainNames)
      (equal : a.debugWith numbered = b.debugWith numbered) : a.view = b.view :=
    (debugWith_append_inj left right (congrArg (· ++ []) equal)).1
  refine ⟨fun a b left right => ⟨reads left right, debugWith_eq_of_view_eq numbered⟩,
    fun f listed => plainNames_of_mem_functions listed, fun a b left right equal => ?_⟩
  exact beq_of_view_eq left right (reads left.plainNames right.plainNames equal)

/-- Two bytes that no text begins with are shown alike, next to functions of one name. A text that
looks like the end of an array stays inside its quotes. -/
theorem debug_text_determines_view_at_stray_bytes :
    let stray : UInt8 → Nat → Value := fun byte index =>
      array [string [byte], builtin ⟨"f(x", .host index⟩]
    let text := array [string (Utf8.encode ['"', ')', ']', ',']), builtin Primitive.len.native]
    ((stray 0xFF 0).PlainNames ∧ (stray 0xFE 1).PlainNames ∧
      ((stray 0xFF 0).debug = (stray 0xFE 1).debug ↔ (stray 0xFF 0).view = (stray 0xFE 1).view) ∧
      (stray 0xFF 0).debug = (stray 0xFE 1).debug ∧ (stray 0xFF 0 == stray 0xFE 1) = false) ∧
    (Primitive.len.native ∈ Catalogue.functions ∧ (builtin Primitive.len.native).PlainNames) ∧
    (text.Textual ∧ text.debug = text.debug ∧ (text == text) = true) := by
  intro stray text
  obtain ⟨views, names, equals⟩ := debug_text_determines_view writtenByNumber
  have name : ')' ∉ "f(x".toList := by decide
  have left : (stray 0xFF 0).PlainNames := ⟨trivial, name, trivial⟩
  have right : (stray 0xFE 1).PlainNames := ⟨trivial, name, trivial⟩
  have shown : (stray 0xFF 0).view = (stray 0xFE 1).view := rfl
  have reading := views (stray 0xFF 0) (stray 0xFE 1) left right
  have listed : Primitive.len.native ∈ Catalogue.functions :=
    List.mem_map_of_mem (Primitive.mem_all .len)
  have textual : text.Textual := by
    refine .array _ (List.forall_mem_cons.mpr ⟨.string _, List.forall_mem_cons.mpr ⟨?_, nofun⟩⟩)
    exact .builtin _ listed
  exact ⟨⟨left, right, reading, reading.mpr shown, by decide⟩, ⟨listed, names _ listed⟩,
    textual, rfl, equals text text textual textual rfl⟩

end Value

end ScriptValues
