import ScriptValues.Proofs.Text.Delimited
import ScriptValues.Proofs.Text.Numeral
import ScriptValues.Proofs.Value.Observation

/-!
# Printed values without texts are read back

What a program prints of a value does not say where a string in it begins or ends. Of a value without
texts, the first character tells the kind (`Textless.inspect_begins`), and the comma or the bracket
behind it shows where it ends (`inspect_append_inj`). So two such values are printed alike exactly
when they are equal.
-/

namespace ScriptValues
open Text

namespace Text

theorem unbroken_integer (z : Int) : Unbroken (Text.integer z) where
  comma := not_mem_integer (by decide) (by decide) z
  bracket := not_mem_integer (by decide) (by decide) z

theorem unbroken_boolean (b : Bool) : Unbroken (Text.boolean b) where
  comma := by cases b <;> decide
  bracket := by cases b <;> decide

end Text

def Tag.ofInitial : Char → Tag
  | '[' => array
  | 'n' => null
  | 't' => boolean
  | 'f' => boolean
  | _ => integer

namespace Value

theorem Textless.inspect_begins {a : Value} (textless : a.Textless) :
    ∃ c rest, a.inspect = c :: rest ∧ c ≠ ']' ∧ Tag.ofInitial c = a.tag := by
  cases textless with
  | integer n =>
      have minus : '-' ≠ ']' ∧ Tag.ofInitial '-' = .integer := by decide
      have digits : ∀ digit < 10, digit.digitChar ≠ ']' ∧
          Tag.ofInitial digit.digitChar = .integer := by
        decide
      exact integer_begins minus digits n.toInt
  | boolean b => cases b <;> exact ⟨_, _, rfl, by decide, rfl⟩
  | null => exact ⟨_, _, rfl, by decide, rfl⟩
  | array items each => exact ⟨_, _, rfl, by decide, rfl⟩

theorem Textless.tag_eq_of_inspect_append_eq {a b : Value} (left : a.Textless) (right : b.Textless)
    {x y : Text} (equal : a.inspect ++ x = b.inspect ++ y) : a.tag = b.tag := by
  obtain ⟨c, rest, first, -, kind⟩ := left.inspect_begins
  obtain ⟨d, other, firstToo, -, kindToo⟩ := right.inspect_begins
  rw [first, firstToo] at equal
  obtain rfl : c = d := (List.cons.inj equal).1
  exact kind.symm.trans kindToo

theorem inspect_append_inj {a b : Value} (left : a.Textless) (right : b.Textless) {x y : Text}
    (stops : Stops x) (stopsToo : Stops y) (equal : a.inspect ++ x = b.inspect ++ y) :
    (a == b) = true ∧ x = y := by
  have tags := left.tag_eq_of_inspect_append_eq right equal
  induction left generalizing b x y with
  | integer m =>
      cases right with
      | integer n =>
          obtain ⟨numerals, rest⟩ := (unbroken_integer _).append_stops_inj (unbroken_integer _)
            stops stopsToo equal
          obtain rfl := Int64.toInt_inj.mp (integer_injective numerals)
          exact ⟨BEq.rfl, rest⟩
      | _ => cases tags
  | boolean c =>
      cases right with
      | boolean d =>
          obtain ⟨words, rest⟩ := (unbroken_boolean c).append_stops_inj (unbroken_boolean d)
            stops stopsToo equal
          obtain rfl := boolean_injective words
          exact ⟨BEq.rfl, rest⟩
      | _ => cases tags
  | null =>
      cases right with
      | null => exact ⟨BEq.rfl, List.append_cancel_left equal⟩
      | _ => cases tags
  | array items each ih =>
      cases right with
      | array others eachToo =>
          rw [inspect_array, inspect_array] at equal
          have separate : ∀ a ∈ items, ∀ b ∈ others, Separates inspect Equal a b := by
            intro a here b there x y stops stopsToo same
            have right := eachToo b there
            exact ih a here right stops stopsToo same
              ((each a here).tag_eq_of_inspect_append_eq right same)
          have begins : ∀ a, a ∈ items ∨ a ∈ others → ∃ c rest, a.inspect = c :: rest ∧ c ≠ ']' := by
            intro a member
            obtain ⟨c, rest, first, other, -⟩ :=
              (member.elim (each a) (eachToo a)).inspect_begins
            exact ⟨c, rest, first, other⟩
          obtain ⟨equals, rest⟩ := bracketed_append_inj separate begins equal
          exact ⟨array_beq_array_iff.mpr equals, rest⟩
      | _ => cases tags

/-- Values without texts are printed alike exactly when they are equal. -/
theorem inspect_text_determines_value {a b : Value} (left : a.Textless) (right : b.Textless) :
    a.inspect = b.inspect ↔ (a == b) = true := by
  refine ⟨fun equal => ?_, inspect_eq_of_beq⟩
  have ended : a.inspect ++ [']'] = b.inspect ++ [']'] := congrArg (· ++ [']']) equal
  exact (inspect_append_inj left right (.bracket []) (.bracket []) ended).1

theorem inspect_text_determines_value_at_near_misses :
    let row : List Int64 → Value := fun ns => array (ns.map integer)
    let pairs := [(row [], array [row []]), (array [row [], row []], array [array [row []]]),
      (row [1, 2], row [12]), (row [-1, 2], row [1, -2]), (row [-9223372036854775808], row [])]
    ∀ pair ∈ pairs, pair.1.Textless ∧ pair.2.Textless ∧
      (pair.1.inspect = pair.2.inspect ↔ (pair.1 == pair.2) = true) ∧
      pair.1.inspect ≠ pair.2.inspect := by
  intro row pairs
  have numbers (ns : List Int64) : (row ns).Textless :=
    .array _ (List.forall_mem_map.mpr fun n _ => .integer n)
  have single {a : Value} (textless : a.Textless) : (array [a]).Textless :=
    .array _ (List.forall_mem_singleton.mpr textless)
  have double {a : Value} (textless : a.Textless) : (array [a, a]).Textless :=
    .array _ (List.forall_mem_cons.mpr ⟨textless, List.forall_mem_singleton.mpr textless⟩)
  have textless : ∀ pair ∈ pairs, pair.1.Textless ∧ pair.2.Textless := by
    simp only [pairs, List.forall_mem_cons]
    exact ⟨⟨numbers _, single (numbers _)⟩, ⟨double (numbers _), single (single (numbers _))⟩,
      ⟨numbers _, numbers _⟩, ⟨numbers _, numbers _⟩, ⟨numbers _, numbers _⟩, nofun⟩
  have different : ∀ pair ∈ pairs, (pair.1 == pair.2) = false := by decide
  intro pair member
  obtain ⟨left, right⟩ := textless pair member
  have alike := inspect_text_determines_value left right
  refine ⟨left, right, alike, fun same => ?_⟩
  exact Bool.false_ne_true ((different pair member).symm.trans (alike.mp same))

/-- A string in an array can be taken for more than one element. -/
example : (array [ofText "1, 2"]).inspect = (array [integer 1, integer 2]).inspect := by decide

end Value

end ScriptValues
