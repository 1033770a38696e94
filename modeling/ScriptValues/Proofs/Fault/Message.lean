import ScriptValues.Fault
import ScriptValues.Proofs.Text.Delimited
import ScriptValues.Proofs.Text.Numeral

/-!
# Messages are read back

The message of a cause determines the cause, custom causes apart (`text_injective`). A message about
an argument holds the name of a function, and any text can be a name, so such a message is read from
its end: what stands behind the name is one of twenty-one endings, and none of them ends another.
-/

namespace ScriptValues
open Text

inductive Complaint where
  | unsupported
  | notSequence
  | notArray
  deriving DecidableEq

namespace Complaint

def all : List Complaint :=
  [unsupported, notSequence, notArray]

theorem mem_all (complaint : Complaint) : complaint ∈ all := by
  cases complaint <;> decide

def cause (function : String) (got : Tag) : Complaint → Cause
  | unsupported => .unsupportedArgument function got
  | notSequence => .expectedSequence function got
  | notArray => .expectedArray function got

def ending (got : Tag) : Complaint → Text
  | unsupported => "` not supported, got ".toList ++ got.name.toList
  | notSequence =>
    "` not supported, got ".toList ++ got.name.toList ++ ", must be ARRAY or STRING".toList
  | notArray => "` must be ARRAY, got ".toList ++ got.name.toList

theorem text_cause (complaint : Complaint) (function : String) (got : Tag) :
    (complaint.cause function got).text =
      "argument to `".toList ++ (function.toList ++ complaint.ending got) := by
  cases complaint with
  | unsupported =>
      show "argument to `".toList ++ function.toList ++ "` not supported, got ".toList ++ _ = _
      rw [List.append_assoc, List.append_assoc]
      rfl
  | notSequence =>
      show "argument to `".toList ++ function.toList ++ "` not supported, got ".toList ++ _ ++ _ = _
      rw [List.append_assoc, List.append_assoc, List.append_assoc, ← List.append_assoc _ got.name.toList]
      rfl
  | notArray =>
      show "argument to `".toList ++ function.toList ++ "` must be ARRAY, got ".toList ++ _ = _
      rw [List.append_assoc, List.append_assoc]
      rfl

theorem eq_of_ending_suffix : ∀ complaint ∈ all, ∀ got ∈ Tag.all, ∀ other ∈ all, ∀ gotToo ∈ Tag.all,
    complaint.ending got <:+ other.ending gotToo → complaint = other ∧ got = gotToo := by
  decide +kernel

theorem reverse_ending_prefixFree :
    PrefixFree fun word : Complaint × Tag => (word.1.ending word.2).reverse := by
  rintro ⟨complaint, got⟩ ⟨other, gotToo⟩ begins
  obtain ⟨rfl, rfl⟩ := eq_of_ending_suffix complaint (mem_all _) got (Tag.mem_all _)
    other (mem_all _) gotToo (Tag.mem_all _) (List.reverse_prefix.mp begins)
  rfl

theorem cause_eq_of_text_eq {complaint other : Complaint} {function called : String}
    {got gotToo : Tag}
    (equal : (complaint.cause function got).text = (other.cause called gotToo).text) :
    complaint.cause function got = other.cause called gotToo := by
  rw [text_cause, text_cause, List.append_cancel_left_eq] at equal
  have backwards := congrArg List.reverse equal
  rw [List.reverse_append, List.reverse_append] at backwards
  obtain ⟨words, names⟩ := reverse_ending_prefixFree.append_inj (a := (complaint, got))
    (b := (other, gotToo)) backwards
  obtain ⟨rfl, rfl⟩ := Prod.mk.inj words
  rw [String.toList_inj.mp (List.reverse_inj.mp names)]

end Complaint

namespace Cause

theorem text_wrongArity (got want : Nat) : (wrongArity got want).text =
    "wrong number of arguments. got=".toList ++
      (natural got ++ ',' :: (" want=".toList ++ natural want)) := by
  have comma : ", want=".toList = ',' :: " want=".toList := by decide
  show "wrong number of arguments. got=".toList ++ _ ++ ", want=".toList ++ _ = _
  rw [List.append_assoc, List.append_assoc, comma, List.cons_append]

theorem wrongArity_eq_of_text_eq {got want gotToo wantToo : Nat}
    (equal : (wrongArity got want).text = (wrongArity gotToo wantToo).text) :
    wrongArity got want = wrongArity gotToo wantToo := by
  have comma (n : Nat) : ',' ∉ natural n := not_mem_natural (by decide) n
  rw [text_wrongArity, text_wrongArity, List.append_cancel_left_eq] at equal
  -- The first number ends at the comma, for a comma is no digit.
  obtain ⟨gots, behind⟩ := append_mark_inj (comma got) (comma gotToo) equal
  have wants : natural want = natural wantToo := List.append_cancel_left behind
  rw [natural_injective gots, natural_injective wants]

inductive Form : Cause → Prop
  | wrongArity (got want : Nat) : Form (wrongArity got want)
  | complaint (complaint : Complaint) (function : String) (got : Tag) :
      Form (complaint.cause function got)
  | unusableKey (got : Tag) : Form (unusableKey got)

theorem form {cause : Cause} (own : cause.isCustom = false) : Form cause := by
  cases cause with
  | wrongArity got want => exact .wrongArity got want
  | unsupportedArgument function got => exact .complaint .unsupported function got
  | expectedSequence function got => exact .complaint .notSequence function got
  | expectedArray function got => exact .complaint .notArray function got
  | unusableKey got => exact .unusableKey got
  | custom message => cases own

theorem head?_text_wrongArity (got want : Nat) : (wrongArity got want).text.head? = some 'w' := rfl

theorem head?_text_complaint (complaint : Complaint) (function : String) (got : Tag) :
    (complaint.cause function got).text.head? = some 'a' := by
  rw [Complaint.text_cause]
  rfl

theorem head?_text_unusableKey (got : Tag) : (unusableKey got).text.head? = some 'u' := rfl

theorem text_injective {left right : Cause} (own : left.isCustom = false)
    (ownToo : right.isCustom = false) (equal : left.text = right.text) : left = right := by
  have heads : left.text.head? = right.text.head? := congrArg List.head? equal
  cases form own with
  | wrongArity got want =>
      cases form ownToo with
      | wrongArity gotToo wantToo => exact wrongArity_eq_of_text_eq equal
      | complaint complaint function tag =>
          rw [head?_text_wrongArity, head?_text_complaint] at heads
          exact absurd heads (by decide)
      | unusableKey tag =>
          rw [head?_text_wrongArity, head?_text_unusableKey] at heads
          exact absurd heads (by decide)
  | complaint complaint function tag =>
      cases form ownToo with
      | wrongArity got want =>
          rw [head?_text_complaint, head?_text_wrongArity] at heads
          exact absurd heads (by decide)
      | complaint other called tagToo => exact Complaint.cause_eq_of_text_eq equal
      | unusableKey tagToo =>
          rw [head?_text_complaint, head?_text_unusableKey] at heads
          exact absurd heads (by decide)
  | unusableKey tag =>
      cases form ownToo with
      | wrongArity got want =>
          rw [head?_text_unusableKey, head?_text_wrongArity] at heads
          exact absurd heads (by decide)
      | complaint other called tagToo =>
          rw [head?_text_unusableKey, head?_text_complaint] at heads
          exact absurd heads (by decide)
      | unusableKey tagToo =>
          have names : tag.name.toList = tagToo.name.toList := List.append_cancel_left equal
          rw [Tag.name_injective (String.toList_inj.mp names)]

end Cause

end ScriptValues
