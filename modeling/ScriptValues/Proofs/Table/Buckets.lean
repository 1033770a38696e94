import ScriptValues.Proofs.Assoc.Rank
import ScriptValues.Table

namespace ScriptValues.Buckets

theorem ne_of_compare_eq_lt {key other : Key} (less : compare key other = .lt) : other ≠ key := by
  rintro rfl
  rw [Std.ReflOrd.compare_self] at less
  cases less

theorem find_keep_self (key : Key) (bucket : Bucket) (buckets : Buckets) :
    find key (keep key bucket buckets) = bucket := by
  induction buckets with
  | nil => simp [keep, find]
  | cons first buckets ih =>
      obtain ⟨other, old⟩ := first
      unfold keep
      split
      · simp [find]
      · simp [find]
      · rename_i above
        have different : other ≠ key := by
          rintro rfl
          simp at above
        simp [find, different, ih]

theorem find_keep_of_ne {key other : Key} (different : other ≠ key) (bucket : Bucket)
    (buckets : Buckets) : find key (keep other bucket buckets) = find key buckets := by
  induction buckets with
  | nil => simp [keep, find, different]
  | cons first buckets ih =>
      obtain ⟨next, old⟩ := first
      unfold keep
      split
      · simp [find, different]
      · rename_i equal
        obtain rfl : other = next := Std.LawfulEqOrd.eq_of_compare equal
        simp [find, different]
      · simp [find, ih]

theorem find_eq_empty_of_below {key : Key} {buckets : Buckets}
    (below : ∀ entry ∈ buckets, compare key entry.1 = .lt) : find key buckets = ∅ := by
  induction buckets with
  | nil => rfl
  | cons first buckets ih =>
      have different : first.1 ≠ key := ne_of_compare_eq_lt (below first List.mem_cons_self)
      simp [find, different, ih fun entry member => below entry (List.mem_cons_of_mem _ member)]

theorem Ascending.find_eq {buckets : Buckets} (ascending : buckets.Ascending) {key : Key}
    {bucket : Bucket} (member : (key, bucket) ∈ buckets) : find key buckets = bucket := by
  induction buckets with
  | nil => cases member
  | cons first buckets ih =>
      obtain ⟨above, later⟩ := List.pairwise_cons.mp ascending
      rcases List.mem_cons.mp member with rfl | member
      · simp [find]
      · have different : first.1 ≠ key := (ne_of_compare_eq_lt (above _ member)).symm
        simp [find, different, ih later member]

def listing (buckets : Buckets) : List (Value × Value) :=
  buckets.flatMap fun bucket => bucket.2.entries

def WellKeyed (buckets : Buckets) : Prop :=
  ∀ bucket ∈ buckets, ∀ entry ∈ bucket.2.entries, entry.1.key? = some bucket.1

abbrev keyOf (entry : Value × Value) : Option Key :=
  entry.1.key?

theorem ordered_listing {buckets : Buckets} (ascending : buckets.Ascending)
    (wellKeyed : buckets.WellKeyed) : StableOrder.Ordered keyOf buckets.listing := by
  unfold StableOrder.Ordered listing
  rw [List.pairwise_flatMap]
  constructor
  · intro bucket member
    apply List.pairwise_of_forall_mem_list
    intro x first y second
    have same : keyOf x = keyOf y :=
      (wellKeyed bucket member x first).trans (wellKeyed bucket member y second).symm
    exact StableOrder.byRank_of_eq same
  · refine ascending.imp_of_mem ?_
    intro left right inLeft inRight less x first y second
    unfold StableOrder.byRank keyOf
    rw [wellKeyed left inLeft x first, wellKeyed right inRight y second]
    exact Ordering.isLE_of_eq_lt less

theorem ofRank_listing {buckets : Buckets} (ascending : buckets.Ascending)
    (wellKeyed : buckets.WellKeyed) (key : Key) :
    StableOrder.ofRank keyOf (some key) buckets.listing = (find key buckets).entries := by
  unfold StableOrder.ofRank listing
  induction buckets with
  | nil => rfl
  | cons first buckets ih =>
      obtain ⟨above, later⟩ := List.pairwise_cons.mp ascending
      have tail := ih later fun bucket member => wellKeyed bucket (List.mem_cons_of_mem _ member)
      have keys := wellKeyed first List.mem_cons_self
      rw [List.flatMap_cons, List.filter_append, tail]
      by_cases here : first.1 = key
      · have rest : find key buckets = ∅ := by
          rw [← here]
          exact find_eq_empty_of_below above
        have all : first.2.entries.filter (fun entry => keyOf entry = some key) =
            first.2.entries := by
          rw [List.filter_eq_self]
          intro entry member
          simp [keys entry member, here]
        rw [rest, all]
        simp [find, here]
        rfl
      · have none : first.2.entries.filter (fun entry => keyOf entry = some key) = [] := by
          rw [List.filter_eq_nil_iff]
          intro entry member
          simp [keys entry member, here]
        simp [none, find, here]

theorem ofRank_none_listing {buckets : Buckets} (wellKeyed : buckets.WellKeyed) :
    StableOrder.ofRank keyOf none buckets.listing = [] := by
  unfold StableOrder.ofRank listing
  rw [List.filter_eq_nil_iff]
  intro entry member
  obtain ⟨bucket, inside, member⟩ := List.mem_flatMap.mp member
  simp [wellKeyed bucket inside entry member]

end ScriptValues.Buckets
