import Mathlib.Data.UInt
import ScriptValues.Key.Basic
import ScriptValues.Proofs.Text.Delimited
import ScriptValues.Proofs.Text.Padding

namespace ScriptValues

namespace Key

theorem compare_eq_then (x y : Key) :
    compare x y = (compare x.tag y.tag).then (compare x.word y.word) := rfl

theorem compare_of_tag_eq {x y : Key} (tags : x.tag = y.tag) :
    compare x y = compare x.word.toNat y.word.toNat := by
  rw [compare_eq_then, tags, Std.ReflOrd.compare_self, Ordering.eq_then,
    UInt64.compare_eq_toNat_compare_toNat]

theorem compare_of_tag_lt {x y : Key} (tags : compare x.tag y.tag = .lt) : compare x y = .lt := by
  rw [compare_eq_then, tags, Ordering.lt_then]

theorem compare_text {x y : Key} (tags : x.tag = y.tag) : compare x.text y.text = compare x y := by
  rw [text, text, tags, Text.compare_append rfl, Std.ReflOrd.compare_self, Ordering.eq_then,
    Text.compare_paddedHex x.word.toNat_lt y.word.toNat_lt, compare_of_tag_eq tags]

theorem tag_eq_of_text_eq {x y : Key} (texts : x.text = y.text) : x.tag = y.tag := by
  have colon (tag : Tag) : ':' ∉ tag.name.toList := by cases tag <;> decide
  have shape (key : Key) : key.text =
      key.tag.name.toList ++ ':' :: ("0x".toList ++ Text.paddedHex 16 key.word.toNat) := by
    simp [text]
  rw [shape, shape] at texts
  obtain ⟨names, -⟩ := Text.append_mark_inj (colon _) (colon _) texts
  exact Tag.name_injective (String.toList_inj.mp names)

theorem eq_of_text_eq {x y : Key} (texts : x.text = y.text) : x = y := by
  have equal : compare x y = .eq := by
    rw [← compare_text (tag_eq_of_text_eq texts), texts, Std.ReflOrd.compare_self]
  exact Std.LawfulEqOrd.eq_of_compare equal

theorem toNat_toUInt64 (n : Int64) :
    (n.toUInt64.toNat : Int) = if n.toInt < 0 then n.toInt + 0x10000000000000000 else n.toInt := by
  have signed : n.toInt = n.toBitVec.toInt := rfl
  have word : n.toUInt64.toNat = n.toBitVec.toNat := rfl
  have bound := n.toBitVec.isLt
  rw [signed, word, BitVec.toInt_eq_toNat_cond]
  split <;> split <;> omega

theorem compare_integer_eq_lt_iff (a b : Int64) :
    compare (Scalar.integer a).key (Scalar.integer b).key = .lt ↔
      a < b ∧ (a < 0 ∧ b < 0 ∨ 0 ≤ a ∧ 0 ≤ b) ∨ 0 ≤ a ∧ b < 0 := by
  have keys : compare (Scalar.integer a).key (Scalar.integer b).key =
      compare a.toUInt64.toNat b.toUInt64.toNat := compare_of_tag_eq rfl
  have first := toNat_toUInt64 a
  have second := toNat_toUInt64 b
  have := a.toInt_lt
  have := a.le_toInt
  have := b.toInt_lt
  have := b.le_toInt
  rw [keys, Nat.compare_eq_lt]
  simp only [Int64.lt_iff_toInt_lt, Int64.le_iff_toInt_le, Int64.toInt_zero]
  split at first <;> split at second <;> omega

/-- Texts tell keys apart, and the texts of keys of one kind are ordered as the keys are. Keys are
ordered totally, and only equal keys come out equal. The keys of integers are ordered as integers of
one sign are, with the negative ones last; those of truth values come after them, and those of
strings after these. -/
theorem order_agrees_with_text :
    (∀ x y : Key, x.text = y.text ↔ x = y) ∧
    (∀ x y : Key, x.tag = y.tag → compare x.text y.text = compare x y) ∧
    (∀ x y : Key, compare x y = .eq ↔ x = y) ∧
    (∀ x y : Key, compare y x = (compare x y).swap) ∧
    (∀ x y z : Key, (compare x y).isLE → (compare y z).isLE → (compare x z).isLE) ∧
    (∀ a b : Int64, compare (Scalar.integer a).key (Scalar.integer b).key = .lt ↔
      a < b ∧ (a < 0 ∧ b < 0 ∨ 0 ≤ a ∧ 0 ≤ b) ∨ 0 ≤ a ∧ b < 0) ∧
    (∀ (n : Int64) (b : Bool) (bytes : List UInt8),
      compare (Scalar.integer n).key (Scalar.boolean b).key = .lt ∧
        compare (Scalar.boolean b).key (Scalar.string bytes).key = .lt) := by
  refine ⟨fun x y => ⟨eq_of_text_eq, congrArg text⟩, fun x y => compare_text,
    fun x y => Std.LawfulEqCmp.compare_eq_iff_eq, fun x y => Std.OrientedOrd.eq_swap,
    fun x y z => Std.TransCmp.isLE_trans, compare_integer_eq_lt_iff, fun n b bytes => ?_⟩
  exact ⟨compare_of_tag_lt rfl, compare_of_tag_lt rfl⟩

theorem order_agrees_with_text_at_widths :
    let nine : Key := ⟨.null, 9⟩
    let sixteen : Key := ⟨.null, 16⟩
    let array : Key := ⟨.array, 0⟩
    (nine.tag = sixteen.tag ∧ compare nine.text sixteen.text = compare nine sixteen) ∧
    ((compare nine sixteen).isLE = true ∧ (compare sixteen array).isLE = true ∧
      (compare nine array).isLE = true) := by
  intro nine sixteen array
  obtain ⟨-, texts, -, -, trans, -⟩ := order_agrees_with_text
  exact ⟨⟨rfl, texts nine sixteen rfl⟩, by decide, by decide,
    trans nine sixteen array (by decide) (by decide)⟩

end Key

end ScriptValues
