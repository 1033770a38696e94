import ScriptValues.Assoc
import ScriptValues.Proofs.StableOrder

namespace ScriptValues.Assoc

variable {α β κ : Type} [BEq α]

variable [DecidableEq κ]

def ofRank (rank : α → κ) (r : κ) (assoc : Assoc α β) : Assoc α β where
  entries := StableOrder.ofRank (fun entry => rank entry.1) r assoc.entries

variable {rank : α → κ} (respects : ∀ stored key : α, (stored == key) = true → rank stored = rank key)
  (assoc : Assoc α β) {key : α} {value : β} {r : κ}

include respects

theorem get?_ofRank (home : rank key = r) : (assoc.ofRank rank r).get? key = assoc.get? key := by
  subst home
  simp only [get?, ofRank, StableOrder.ofRank, List.find?_filter]
  congr 2
  funext entry
  cases equal : entry.1 == key with
  | false => simp
  | true => simp [respects _ _ equal]

theorem put_ofRank (home : rank key = r) :
    (assoc.put key value).ofRank rank r = (assoc.ofRank rank r).put key value := by
  subst home
  simp only [put, ofRank, StableOrder.ofRank, Assoc.mk.injEq]
  induction assoc.entries with
  | nil => simp [putEntry]
  | cons first entries ih =>
      obtain ⟨stored, old⟩ := first
      by_cases equal : (stored == key) = true
      · simp [putEntry, equal, respects _ _ equal]
      · by_cases near : rank stored = rank key
        · simp [putEntry, equal, near, ih]
        · simp [putEntry, equal, near, ih]

theorem put_ofRank_of_ne (away : rank key ≠ r) :
    (assoc.put key value).ofRank rank r = assoc.ofRank rank r := by
  simp only [put, ofRank, StableOrder.ofRank, Assoc.mk.injEq]
  induction assoc.entries with
  | nil => simp [putEntry, away]
  | cons first entries ih =>
      obtain ⟨stored, old⟩ := first
      by_cases equal : (stored == key) = true
      · simp [putEntry, equal, respects _ _ equal, away]
      · simp [putEntry, equal, List.filter_cons, ih]

theorem erase_ofRank (home : rank key = r) :
    (assoc.erase key).ofRank rank r = (assoc.ofRank rank r).erase key := by
  subst home
  simp only [erase, ofRank, StableOrder.ofRank, Assoc.mk.injEq, List.eraseP_filter]
  congr 2
  funext entry
  cases equal : entry.1 == key with
  | false => simp
  | true => simp [respects _ _ equal]

theorem erase_ofRank_of_ne (away : rank key ≠ r) :
    (assoc.erase key).ofRank rank r = assoc.ofRank rank r := by
  simp only [erase, ofRank, StableOrder.ofRank, Assoc.mk.injEq]
  induction assoc.entries with
  | nil => rfl
  | cons first entries ih =>
      by_cases equal : (first.1 == key) = true
      · simp [equal, respects _ _ equal, away]
      · simp [equal, List.filter_cons, ih]

end ScriptValues.Assoc
