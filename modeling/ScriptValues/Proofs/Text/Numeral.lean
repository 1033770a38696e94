import Mathlib.Logic.Function.Basic
import ScriptValues.Text.Basic

namespace ScriptValues.Text

theorem toDigits_eq_singleton_or_concat {base : Nat} (one : 1 < base) (n : Nat) :
    (n < base ∧ Nat.toDigits base n = [n.digitChar]) ∨
      (base ≤ n ∧ Nat.toDigits base n =
        Nat.toDigits base (n / base) ++ [(n % base).digitChar]) := by
  rcases Nat.lt_or_ge n base with small | large
  · exact .inl ⟨small, Nat.toDigits_of_lt_base small⟩
  · exact .inr ⟨large, Nat.toDigits_of_base_le one large⟩

theorem digitChar_injective : ∀ m < 16, ∀ n < 16, m.digitChar = n.digitChar → m = n := by
  decide

theorem toDigits_injective {base : Nat} (one : 1 < base) (few : base ≤ 16) :
    Function.Injective (Nat.toDigits base) := by
  intro m
  induction m using Nat.strongRecOn with
  | ind m ih =>
    intro n equal
    have digits (k : Nat) : k % base < 16 := Nat.lt_of_lt_of_le (Nat.mod_lt k (by omega)) few
    rcases toDigits_eq_singleton_or_concat one m with ⟨small, left⟩ | ⟨large, left⟩ <;>
      rcases toDigits_eq_singleton_or_concat one n with ⟨smallToo, right⟩ | ⟨largeToo, right⟩ <;>
      rw [left, right] at equal
    · exact digitChar_injective m (by omega) n (by omega) (List.singleton_inj.mp equal)
    · change [] ++ [m.digitChar] = _ at equal
      exact absurd (List.append_singleton_inj.mp equal).1.symm Nat.toDigits_ne_nil
    · change _ = [] ++ [n.digitChar] at equal
      exact absurd (List.append_singleton_inj.mp equal).1 Nat.toDigits_ne_nil
    · obtain ⟨leading, last⟩ := List.append_singleton_inj.mp equal
      have quotients : m / base = n / base := ih _ (Nat.div_lt_self (by omega) one) leading
      have remainders : m % base = n % base :=
        digitChar_injective _ (digits m) _ (digits n) last
      rw [← Nat.div_add_mod m base, quotients, remainders, Nat.div_add_mod]

theorem exists_digit_of_mem_toDigits {base : Nat} (one : 1 < base) {n : Nat} {c : Char}
    (member : c ∈ Nat.toDigits base n) : ∃ digit < base, c = digit.digitChar := by
  induction n using Nat.strongRecOn with
  | ind n ih =>
    rcases toDigits_eq_singleton_or_concat one n with ⟨small, digits⟩ | ⟨large, digits⟩ <;>
      rw [digits] at member
    · exact ⟨n, small, List.mem_singleton.mp member⟩
    · rcases List.mem_append.mp member with leading | last
      · exact ih _ (Nat.div_lt_self (by omega) one) leading
      · exact ⟨n % base, Nat.mod_lt n (by omega), List.mem_singleton.mp last⟩

theorem natural_injective : Function.Injective natural :=
  toDigits_injective (by omega) (by omega)

theorem not_mem_natural {c : Char} (mark : ∀ digit < 10, c ≠ Nat.digitChar digit) (n : Nat) :
    c ∉ natural n := by
  intro member
  obtain ⟨digit, small, rfl⟩ := exists_digit_of_mem_toDigits (by omega) member
  exact mark digit small rfl

theorem natural_ne_minus (n : Nat) (rest : Text) : natural n ≠ '-' :: rest := by
  intro equal
  have member : '-' ∈ natural n := equal ▸ List.mem_cons_self
  exact not_mem_natural (by decide) n member

theorem integer_injective : Function.Injective integer := by
  intro m n equal
  unfold integer at equal
  split at equal <;> split at equal
  · have sizes := natural_injective (List.cons.inj equal).2
    omega
  · exact absurd equal.symm (natural_ne_minus _ _)
  · exact absurd equal (natural_ne_minus _ _)
  · have sizes := natural_injective equal
    omega

theorem not_mem_integer {c : Char} (mark : ∀ digit < 10, c ≠ Nat.digitChar digit)
    (minus : c ≠ '-') (z : Int) : c ∉ integer z := by
  unfold integer
  split
  · intro member
    rcases List.mem_cons.mp member with rfl | member
    · exact minus rfl
    · exact not_mem_natural mark _ member
  · exact not_mem_natural mark _

theorem natural_begins (n : Nat) : ∃ digit < 10, ∃ rest, natural n = digit.digitChar :: rest := by
  cases numeral : natural n with
  | nil => exact absurd numeral Nat.toDigits_ne_nil
  | cons c rest =>
      have member : c ∈ natural n := numeral ▸ List.mem_cons_self
      obtain ⟨digit, small, rfl⟩ := exists_digit_of_mem_toDigits (by omega) member
      exact ⟨digit, small, rest, rfl⟩

theorem integer_begins {initial : Char → Prop} (minus : initial '-')
    (digits : ∀ digit < 10, initial (Nat.digitChar digit)) (z : Int) :
    ∃ c rest, integer z = c :: rest ∧ initial c := by
  unfold integer
  split
  · exact ⟨'-', _, rfl, minus⟩
  · obtain ⟨digit, small, rest, numeral⟩ := natural_begins z.natAbs
    exact ⟨_, rest, numeral, digits digit small⟩

theorem hex_injective : Function.Injective hex :=
  toDigits_injective (by omega) (by omega)

theorem not_mem_hex {c : Char} (mark : ∀ digit < 16, c ≠ Nat.digitChar digit) (n : Nat) :
    c ∉ hex n := by
  intro member
  obtain ⟨digit, small, rfl⟩ := exists_digit_of_mem_toDigits (by omega) member
  exact mark digit small rfl

theorem boolean_injective : Function.Injective boolean := by
  intro a b
  cases a <;> cases b <;> decide

end ScriptValues.Text
