namespace ScriptValues

structure Assoc (α β : Type) where
  entries : List (α × β)
  deriving Repr

namespace Assoc

variable {α β : Type} [BEq α]

def empty : Assoc α β where
  entries := []

instance : EmptyCollection (Assoc α β) := ⟨empty⟩

def size (assoc : Assoc α β) : Nat :=
  assoc.entries.length

def get? (assoc : Assoc α β) (key : α) : Option β :=
  (assoc.entries.find? fun entry => entry.1 == key).map Prod.snd

def putEntry (key : α) (value : β) : List (α × β) → List (α × β)
  | [] => [(key, value)]
  | (stored, old) :: entries =>
    if stored == key then (stored, value) :: entries
    else (stored, old) :: putEntry key value entries

def put (assoc : Assoc α β) (key : α) (value : β) : Assoc α β where
  entries := putEntry key value assoc.entries

def erase (assoc : Assoc α β) (key : α) : Assoc α β where
  entries := assoc.entries.eraseP fun entry => entry.1 == key

def Distinct (assoc : Assoc α β) : Prop :=
  assoc.entries.Pairwise fun entry later => (entry.1 == later.1) = false

theorem distinct_iff {assoc : Assoc α β} :
    assoc.Distinct ↔
      (assoc.entries.map Prod.fst).Pairwise fun stored later => (stored == later) = false := by
  rw [Distinct, List.pairwise_map]

theorem isSome_get?_iff {assoc : Assoc α β} {key : α} :
    (assoc.get? key).isSome = true ↔
      ∃ stored ∈ assoc.entries.map Prod.fst, (stored == key) = true := by
  simp [get?]

theorem map_fst_put (assoc : Assoc α β) (key : α) (value : β) :
    (assoc.put key value).entries.map Prod.fst =
      if (assoc.get? key).isSome then assoc.entries.map Prod.fst
      else assoc.entries.map Prod.fst ++ [key] := by
  unfold put get?
  dsimp only
  induction assoc.entries with
  | nil => rfl
  | cons first entries ih =>
      obtain ⟨stored, old⟩ := first
      cases here : stored == key with
      | true => simp [putEntry, here]
      | false =>
          simp only [putEntry, here, Bool.false_eq_true, if_false, List.map_cons, List.find?_cons, ih]
          split <;> rfl

theorem map_fst_erase (assoc : Assoc α β) (key : α) :
    (assoc.erase key).entries.map Prod.fst =
      (assoc.entries.map Prod.fst).eraseP fun stored => stored == key := by
  rw [List.eraseP_map]
  rfl

theorem fst_of_mem_put {assoc : Assoc α β} {key stored : α} {value : β}
    (member : stored ∈ (assoc.put key value).entries.map Prod.fst) :
    stored = key ∨ stored ∈ assoc.entries.map Prod.fst := by
  rw [map_fst_put] at member
  split at member
  · exact .inr member
  · exact (List.mem_append.mp member).symm.imp_left List.mem_singleton.mp

theorem snd_of_mem_put {assoc : Assoc α β} {key : α} {value other : β}
    (member : other ∈ (assoc.put key value).entries.map Prod.snd) :
    other = value ∨ other ∈ assoc.entries.map Prod.snd := by
  unfold put at member
  generalize assoc.entries = entries at member ⊢
  induction entries with
  | nil => exact .inl (List.mem_singleton.mp member)
  | cons first entries ih =>
      unfold putEntry at member
      split at member
      · exact (List.mem_cons.mp member).imp_right (List.mem_cons_of_mem _)
      · rcases List.mem_cons.mp member with rfl | member
        · exact .inr List.mem_cons_self
        · exact (ih member).imp_right (List.mem_cons_of_mem _)

theorem Distinct.put {assoc : Assoc α β} (distinct : assoc.Distinct) (key : α) (value : β) :
    (assoc.put key value).Distinct := by
  have apart := distinct_iff.mp distinct
  rw [distinct_iff, map_fst_put]
  split
  · exact apart
  · rename_i missing
    refine List.pairwise_append.mpr ⟨apart, List.pairwise_singleton _ _, ?_⟩
    intro stored member other here
    obtain rfl := List.mem_singleton.mp here
    refine Bool.eq_false_iff.mpr fun same => ?_
    exact missing (isSome_get?_iff.mpr ⟨stored, member, same⟩)

theorem Distinct.erase {assoc : Assoc α β} (distinct : assoc.Distinct) (key : α) :
    (assoc.erase key).Distinct :=
  List.Pairwise.eraseP _ distinct

variable [PartialEquivBEq α]

theorem get?_put (assoc : Assoc α β) (key sought : α) (value : β) :
    (assoc.put key value).get? sought = if key == sought then some value else assoc.get? sought := by
  simp only [put, get?]
  induction assoc.entries with
  | nil => cases here : key == sought <;> simp [putEntry, here]
  | cons first entries ih =>
      obtain ⟨stored, old⟩ := first
      cases here : stored == key with
      | true =>
          have same : (stored == sought) = (key == sought) := BEq.congr_left here
          cases there : key == sought <;> simp [putEntry, here, same, there]
      | false =>
          cases there : stored == sought with
          | true =>
              have other : (key == sought) = false :=
                BEq.neq_of_neq_of_beq (BEq.symm_false here) there
              simp [putEntry, here, there, other]
          | false => simpa [putEntry, here, there] using ih

theorem get?_erase {assoc : Assoc α β} (distinct : assoc.Distinct) (key sought : α) :
    (assoc.erase key).get? sought = if key == sought then none else assoc.get? sought := by
  unfold Distinct at distinct
  simp only [erase, get?]
  generalize assoc.entries = entries at distinct ⊢
  induction entries with
  | nil => simp
  | cons first entries ih =>
      obtain ⟨apart, later⟩ := List.pairwise_cons.mp distinct
      cases here : first.1 == key with
      | true =>
          have same : (first.1 == sought) = (key == sought) := BEq.congr_left here
          cases there : key == sought with
          -- The entry that goes is the only one of its key.
          | true =>
              have missing : entries.find? (fun entry => entry.1 == sought) = none := by
                refine List.find?_eq_none.mpr fun entry member equal => ?_
                have twice : (first.1 == entry.1) = true :=
                  BEq.trans (same.trans there) (BEq.symm equal)
                exact absurd twice (Bool.eq_false_iff.mp (apart entry member))
              simp [here, missing]
          | false => simp [here, same, there]
      | false =>
          cases there : first.1 == sought with
          | true =>
              have other : (key == sought) = false :=
                BEq.neq_of_neq_of_beq (BEq.symm_false here) there
              simp [here, there, other]
          | false => simpa [here, there] using ih later

end Assoc

end ScriptValues
