import Mathlib.Algebra.Group.Nat.Defs
import ScriptValues.Proofs.Text.Numeral

namespace ScriptValues.Text

theorem compare_append {left right : Text} (lengths : left.length = right.length) (x y : Text) :
    compare (left ++ x) (right ++ y) = (compare left right).then (compare x y) := by
  induction left generalizing right with
  | nil =>
      obtain rfl : right = [] := List.length_eq_zero_iff.mp lengths.symm
      rfl
  | cons c left ih =>
      cases right with
      | nil => cases lengths
      | cons d right =>
          rw [List.cons_append, List.cons_append, List.compare_cons_cons, List.compare_cons_cons,
            ih (Nat.succ.inj lengths), Ordering.then_assoc]

theorem paddedHex_one {n : Nat} (small : n < 16) : paddedHex 1 n = [n.digitChar] := by
  rw [paddedHex, hex, Nat.toDigits_of_lt_base small]
  rfl

theorem paddedHex_succ (width n : Nat) :
    paddedHex (width + 2) n = paddedHex (width + 1) (n / 16) ++ [(n % 16).digitChar] := by
  rcases toDigits_eq_singleton_or_concat (by decide : 1 < 16) n with
    ⟨small, digits⟩ | ⟨large, digits⟩
  · have zero : hex 0 = ['0'] := rfl
    rw [Nat.div_eq_of_lt small, Nat.mod_eq_of_lt small, paddedHex, paddedHex, zero, hex, digits]
    simp [List.leftpad, List.replicate_succ']
  · rw [paddedHex, paddedHex, hex, hex, digits]
    simp [List.leftpad]

theorem length_paddedHex {width n : Nat} (small : n < 16 ^ (width + 1)) :
    (paddedHex (width + 1) n).length = width + 1 := by
  induction width generalizing n with
  | zero => rw [paddedHex_one small, List.length_singleton]
  | succ width ih =>
      rw [paddedHex_succ, List.length_append, ih (Nat.div_lt_of_lt_mul (by rwa [← Nat.pow_succ'])),
        List.length_singleton]

theorem compare_digitChar :
    ∀ m < 16, ∀ n < 16, compare m.digitChar n.digitChar = compare m n := by
  decide

theorem compare_div_then_mod (m n : Nat) :
    compare m n = (compare (m / 16) (n / 16)).then (compare (m % 16) (n % 16)) := by
  simp only [Nat.compare_eq_ite_lt, Ordering.then]
  grind

theorem compare_paddedHex {width m n : Nat} (left : m < 16 ^ (width + 1))
    (right : n < 16 ^ (width + 1)) :
    compare (paddedHex (width + 1) m) (paddedHex (width + 1) n) = compare m n := by
  induction width generalizing m n with
  | zero =>
      rw [paddedHex_one left, paddedHex_one right, List.compare_cons_cons,
        compare_digitChar m left n right]
      cases compare m n <;> rfl
  | succ width ih =>
      have quotient {k : Nat} (small : k < 16 ^ (width + 2)) : k / 16 < 16 ^ (width + 1) :=
        Nat.div_lt_of_lt_mul (by rwa [← Nat.pow_succ'])
      have digit (k : Nat) : k % 16 < 16 := Nat.mod_lt k (by omega)
      have lengths := (length_paddedHex (quotient left)).trans
        (length_paddedHex (quotient right)).symm
      have digits : compare [(m % 16).digitChar] [(n % 16).digitChar] = compare (m % 16) (n % 16) := by
        rw [List.compare_cons_cons, compare_digitChar _ (digit m) _ (digit n)]
        cases compare (m % 16) (n % 16) <;> rfl
      rw [paddedHex_succ, paddedHex_succ, compare_append lengths, ih (quotient left) (quotient right),
        digits, ← compare_div_then_mod]

end ScriptValues.Text
