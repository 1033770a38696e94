namespace ScriptValues

abbrev CodePoints := List (Nat × Nat)

namespace CodePoints

def Ascending : CodePoints → Prop
  | [] => True
  | [(low, high)] => low ≤ high
  | (low, high) :: (low', high') :: ranges =>
    low ≤ high ∧ high + 1 < low' ∧ Ascending ((low', high') :: ranges)

instance decidableAscending : (ranges : CodePoints) → Decidable (Ascending ranges)
  | [] => isTrue trivial
  | [(low, high)] => inferInstanceAs (Decidable (low ≤ high))
  | (low, high) :: (low', high') :: ranges =>
    have := decidableAscending ((low', high') :: ranges)
    inferInstanceAs (Decidable (low ≤ high ∧ high + 1 < low' ∧ Ascending ((low', high') :: ranges)))

def covers : CodePoints → Nat → Bool
  | [], _ => false
  | (low, high) :: ranges, n => low ≤ n && (n ≤ high || covers ranges n)

end CodePoints

end ScriptValues
