/-!
# Stable order

Sorting by a rank keeps the members of one rank in their order. So a list that is ordered by rank
and has the members of every rank in the order of another list is that other list, sorted
(`eq_mergeSort_of_ofRank_eq`).
-/

namespace ScriptValues.StableOrder

variable {α κ : Type} [DecidableEq κ] {rank : α → κ}

def ofRank (rank : α → κ) (r : κ) (list : List α) : List α :=
  list.filter fun x => rank x = r

theorem mem_iff_of_ofRank_eq {left right : List α}
    (ranks : ∀ r, ofRank rank r left = ofRank rank r right) (x : α) : x ∈ left ↔ x ∈ right := by
  have same := congrArg (x ∈ ·) (ranks (rank x))
  simpa [ofRank] using same

section Order

omit [DecidableEq κ]

variable [Ord κ] [Std.TransOrd κ]

def byRank (rank : α → κ) (x y : α) : Bool :=
  (compare (rank x) (rank y)).isLE

def Ordered (rank : α → κ) (list : List α) : Prop :=
  list.Pairwise fun x y => byRank rank x y

theorem byRank_trans (x y z : α) (first : byRank rank x y) (second : byRank rank y z) :
    byRank rank x z :=
  Std.TransCmp.isLE_trans first second

theorem byRank_total (x y : α) : byRank rank x y || byRank rank y x := by
  unfold byRank
  rw [Std.OrientedOrd.eq_swap (a := rank y)]
  cases compare (rank x) (rank y) <;> rfl

theorem byRank_of_eq {x y : α} (equal : rank x = rank y) : byRank rank x y := by
  unfold byRank
  rw [equal]
  exact Std.ReflCmp.isLE_rfl

theorem rank_eq_of_byRank [Std.LawfulEqOrd κ] {x y : α} (first : byRank rank x y)
    (second : byRank rank y x) : rank x = rank y :=
  Std.LawfulEqOrd.eq_of_compare (Std.OrientedCmp.isLE_antisymm first second)

end Order

variable [Ord κ] [Std.TransOrd κ]

theorem eq_of_ofRank_eq [Std.LawfulEqOrd κ] {left right : List α} (orderedLeft : Ordered rank left)
    (orderedRight : Ordered rank right)
    (ranks : ∀ r, ofRank rank r left = ofRank rank r right) : left = right := by
  have members := mem_iff_of_ofRank_eq ranks
  induction left generalizing right with
  | nil =>
      cases right with
      | nil => rfl
      | cons y right => simpa using members y
  | cons x left ih =>
      cases right with
      | nil => simpa using members x
      | cons y right =>
          obtain ⟨leastLeft, tailLeft⟩ := List.pairwise_cons.mp orderedLeft
          obtain ⟨leastRight, tailRight⟩ := List.pairwise_cons.mp orderedRight
          -- Each head is least in its list and a member of the other, so they have one rank, and
          -- they are the first members of it.
          have below : byRank rank x y := by
            rcases List.mem_cons.mp ((members y).mpr List.mem_cons_self) with rfl | member
            · exact byRank_of_eq rfl
            · exact leastLeft y member
          have above : byRank rank y x := by
            rcases List.mem_cons.mp ((members x).mp List.mem_cons_self) with rfl | member
            · exact byRank_of_eq rfl
            · exact leastRight x member
          have same : rank x = rank y := rank_eq_of_byRank below above
          have heads := ranks (rank y)
          simp only [ofRank, List.filter_cons, same, decide_true, if_true, List.cons.injEq] at heads
          obtain ⟨rfl, -⟩ := heads
          have tails : ∀ r, ofRank rank r left = ofRank rank r right := by
            intro r
            have whole := ranks r
            unfold ofRank at whole ⊢
            by_cases here : rank x = r
            · simpa [List.filter_cons, here] using whole
            · simpa [List.filter_cons, here] using whole
          rw [ih tailLeft tailRight tails (mem_iff_of_ofRank_eq tails)]

theorem ofRank_mergeSort (r : κ) (list : List α) :
    ofRank rank r (list.mergeSort (byRank rank)) = ofRank rank r list := by
  have ordered : Ordered rank (ofRank rank r list) := by
    apply List.pairwise_of_forall_mem_list
    intro x left y right
    have rankX := of_decide_eq_true (List.mem_filter.mp left).2
    have rankY := of_decide_eq_true (List.mem_filter.mp right).2
    exact byRank_of_eq (rankX.trans rankY.symm)
  have kept := List.sublist_mergeSort byRank_trans byRank_total ordered List.filter_sublist
  have sublist := kept.filter fun x => decide (rank x = r)
  have lengths := ((List.mergeSort_perm list (byRank rank)).filter
    fun x => decide (rank x = r)).length_eq
  unfold ofRank at sublist ⊢
  rw [List.filter_filter] at sublist
  simp only [Bool.and_self] at sublist
  exact (sublist.eq_of_length lengths.symm).symm

theorem eq_mergeSort_of_ofRank_eq [Std.LawfulEqOrd κ] {ordered list : List α}
    (sorted : Ordered rank ordered)
    (ranks : ∀ r, ofRank rank r ordered = ofRank rank r list) :
    ordered = list.mergeSort (byRank rank) :=
  eq_of_ofRank_eq sorted (List.pairwise_mergeSort byRank_trans byRank_total list)
    fun r => (ranks r).trans (ofRank_mergeSort r list).symm

end ScriptValues.StableOrder
