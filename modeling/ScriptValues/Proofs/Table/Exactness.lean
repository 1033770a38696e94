import ScriptValues.Proofs.Key.Separation
import ScriptValues.Proofs.Table.Buckets

/-!
# Tables are exact

A table answers every run of requests as one association list does that knows of no keys and is
searched by equality alone. The invariant `Table.Tracks` says that each bucket has the pairs of its
key in the order of the list. A step keeps it (`Tracks.step`), so a run does (`Tracks.run`), and it
fixes the answers (`Tracks.answer_of_key?`) and the listing (`Tracks.entries_eq_mergeSort`).
-/

namespace ScriptValues

/-! ## The list beside the table -/

namespace Request

def serve (pairs : Assoc Value Value) (request : Request) : Assoc Value Value :=
  if request.key.isScalar then request.update pairs else pairs

def serveAll (requests : List Request) : Assoc Value Value :=
  requests.foldl serve ∅

theorem serve_of_key?_eq_none {request : Request} (unkeyed : request.key.key? = none)
    (pairs : Assoc Value Value) : request.serve pairs = pairs := by
  rw [serve, Value.isScalar_eq_isSome_key?, unkeyed]
  rfl

theorem serve_of_key? {request : Request} {key : Key} (keyed : request.key.key? = some key)
    (pairs : Assoc Value Value) : request.serve pairs = request.update pairs := by
  rw [serve, Value.isScalar_eq_isSome_key?, keyed]
  rfl

theorem serveAll_append (requests : List Request) (request : Request) :
    serveAll (requests ++ [request]) = request.serve (serveAll requests) := by
  simp [serveAll]

theorem update_ofRank (request : Request) {r : Option Key} (home : request.key.key? = r)
    (pairs : Assoc Value Value) :
    (request.update pairs).ofRank Value.key? r = request.update (pairs.ofRank Value.key? r) := by
  have respects := fun stored key : Value => Value.key?_eq_of_beq (a := stored) (b := key)
  cases request with
  | get key => rfl
  | put key value => exact Assoc.put_ofRank respects pairs home
  | delete key => exact Assoc.erase_ofRank respects pairs home

theorem update_ofRank_of_ne (request : Request) {r : Option Key} (away : request.key.key? ≠ r)
    (pairs : Assoc Value Value) :
    (request.update pairs).ofRank Value.key? r = pairs.ofRank Value.key? r := by
  have respects := fun stored key : Value => Value.key?_eq_of_beq (a := stored) (b := key)
  cases request with
  | get key => rfl
  | put key value => exact Assoc.put_ofRank_of_ne respects pairs away
  | delete key => exact Assoc.erase_ofRank_of_ne respects pairs away

theorem distinct_update (request : Request) {pairs : Assoc Value Value}
    (distinct : pairs.Distinct) : (request.update pairs).Distinct := by
  cases request with
  | get key => exact distinct
  | put key value => exact distinct.put key value
  | delete key => exact distinct.erase key

theorem fst_of_mem_update {request : Request} {pairs : Assoc Value Value} {stored : Value}
    (member : stored ∈ (request.update pairs).entries.map Prod.fst) :
    stored = request.key ∨ stored ∈ pairs.entries.map Prod.fst := by
  cases request with
  | get key => exact .inr member
  | put key value => exact Assoc.fst_of_mem_put member
  | delete key =>
      unfold update at member
      rw [Assoc.map_fst_erase] at member
      exact .inr (List.mem_of_mem_eraseP member)

/-- What is found under the key of a request once it is served, by what was found there before. -/
def leaves : Request → Option Value → Option Value
  | get _, old => old
  | put _ value, _ => some value
  | delete _, _ => none

/-- The keys in their order once a request is served: a new one comes last, and no other one moves. -/
def keysLeft (found : Bool) (keys : List Value) : Request → List Value
  | get _ => keys
  | put key _ => if found then keys else keys ++ [key]
  | delete key => keys.eraseP fun stored => stored == key

theorem get?_update (request : Request) {pairs : Assoc Value Value} (distinct : pairs.Distinct)
    (sought : Value) :
    (request.update pairs).get? sought =
      if request.key == sought then request.leaves (pairs.get? sought) else pairs.get? sought := by
  cases request with
  | get key => exact (ite_self _).symm
  | put key value => exact Assoc.get?_put pairs key sought value
  | delete key => exact Assoc.get?_erase distinct key sought

theorem map_fst_update (request : Request) (pairs : Assoc Value Value) :
    (request.update pairs).entries.map Prod.fst =
      request.keysLeft (pairs.get? request.key).isSome (pairs.entries.map Prod.fst) := by
  cases request with
  | get key => rfl
  | put key value => exact Assoc.map_fst_put pairs key value
  | delete key => exact Assoc.map_fst_erase pairs key

end Request

namespace Table

theorem step_of_key?_eq_none (table : Table) {request : Request}
    (unkeyed : request.key.key? = none) :
    table.step request = (.error (.unusableKey request.key.tag), table) := by
  rw [step, Value.mapKey_of_key?_eq_none unkeyed]

theorem step_of_key? (table : Table) {request : Request} {key : Key}
    (keyed : request.key.key? = some key) :
    table.step request =
      (.ok { key, old := (table.bucket key).get? request.key,
             size := (request.update (table.bucket key)).size },
        table.setBucket key (request.update (table.bucket key))) := by
  rw [step, Value.mapKey_of_key? keyed]

theorem bucket_setBucket_self (table : Table) (key : Key) (bucket : Bucket) :
    (table.setBucket key bucket).bucket key = bucket :=
  Buckets.find_keep_self key bucket table.buckets

theorem bucket_setBucket_of_ne (table : Table) {key other : Key} (different : other ≠ key)
    (bucket : Bucket) : (table.setBucket other bucket).bucket key = table.bucket key :=
  Buckets.find_keep_of_ne different bucket table.buckets

theorem map_snd_entries (table : Table) : table.entries.map Prod.snd = table.buckets.listing := by
  simp [entries, Buckets.listing, List.map_flatMap, Function.comp_def]

theorem run_append (table : Table) (requests : List Request) (request : Request) :
    table.run (requests ++ [request]) =
      ((table.run requests).1 ++ [((table.run requests).2.step request).1],
        ((table.run requests).2.step request).2) := by
  induction requests generalizing table with
  | nil => rfl
  | cons first requests ih => simp only [List.cons_append, run, ih]

/-! ## The invariant -/

structure Tracks (table : Table) (pairs : Assoc Value Value) : Prop where
  keyed : ∀ stored ∈ pairs.entries.map Prod.fst, ∃ key, stored.key? = some key
  distinct : pairs.Distinct
  bucket : ∀ key, table.bucket key = pairs.ofRank Value.key? (some key)

namespace Tracks

variable {table : Table} {pairs : Assoc Value Value}

theorem empty : (∅ : Table).Tracks ∅ where
  keyed _ member := by cases member
  distinct := .nil
  bucket _ := rfl

theorem step (tracks : table.Tracks pairs) (request : Request) :
    (table.step request).2.Tracks (request.serve pairs) := by
  cases view : request.key.key? with
  | none =>
      rw [step_of_key?_eq_none table view, Request.serve_of_key?_eq_none view]
      exact tracks
  | some key =>
      rw [step_of_key? table view, Request.serve_of_key? view]
      refine ⟨?_, request.distinct_update tracks.distinct, ?_⟩
      · intro stored member
        rcases Request.fst_of_mem_update member with rfl | member
        · exact ⟨key, view⟩
        · exact tracks.keyed stored member
      -- Only the bucket of the key is touched, and only the pairs of the key are.
      · intro other
        by_cases here : key = other
        · subst here
          rw [bucket_setBucket_self, tracks.bucket, request.update_ofRank view]
        · have away : request.key.key? ≠ some other := by
            rw [view]
            exact fun same => here (Option.some.inj same)
          rw [bucket_setBucket_of_ne table here, tracks.bucket, request.update_ofRank_of_ne away]

theorem run (tracks : table.Tracks pairs) (requests : List Request) :
    (table.run requests).2.Tracks (requests.foldl Request.serve pairs) := by
  induction requests generalizing table pairs with
  | nil => exact tracks
  | cons request requests ih => exact ih (tracks.step request)

theorem answer_of_key? (tracks : table.Tracks pairs) {request : Request} {key : Key}
    (view : request.key.key? = some key) :
    (table.step request).1 = .ok
      { key, old := pairs.get? request.key,
        size := (request.serve pairs).entries.countP fun entry => entry.1.key? = some key } := by
  have old : (table.bucket key).get? request.key = pairs.get? request.key := by
    rw [tracks.bucket, Assoc.get?_ofRank (fun _ _ => Value.key?_eq_of_beq) pairs view]
  have size : (request.update (table.bucket key)).size =
      (request.serve pairs).entries.countP fun entry => entry.1.key? = some key := by
    rw [Request.serve_of_key? view, tracks.bucket, ← request.update_ofRank view,
      List.countP_eq_length_filter]
    rfl
  rw [step_of_key? table view, old, size]

theorem wellKeyed (tracks : table.Tracks pairs) : table.buckets.WellKeyed := by
  intro bucket inside entry member
  have found : table.bucket bucket.1 = bucket.2 := table.ascending.find_eq inside
  rw [← found, tracks.bucket] at member
  exact of_decide_eq_true (List.mem_filter.mp member).2

theorem key?_of_mem_entries (tracks : table.Tracks pairs) {entry : Key × Value × Value}
    (member : entry ∈ table.entries) : entry.2.1.key? = some entry.1 := by
  obtain ⟨bucket, inside, member⟩ := List.mem_flatMap.mp member
  obtain ⟨pair, inBucket, rfl⟩ := List.mem_map.mp member
  exact tracks.wellKeyed bucket inside pair inBucket

theorem entries_eq_mergeSort (tracks : table.Tracks pairs) :
    table.entries.map Prod.snd = pairs.entries.mergeSort (StableOrder.byRank Buckets.keyOf) := by
  rw [map_snd_entries]
  apply StableOrder.eq_mergeSort_of_ofRank_eq
  · exact Buckets.ordered_listing table.ascending tracks.wellKeyed
  -- Values without a key would come first in the order, but neither side has any.
  · intro r
    cases r with
    | none =>
        rw [Buckets.ofRank_none_listing tracks.wellKeyed]
        symm
        unfold StableOrder.ofRank
        rw [List.filter_eq_nil_iff]
        intro entry member
        obtain ⟨key, view⟩ := tracks.keyed entry.1 (List.mem_map_of_mem member)
        simp [view]
    | some key =>
        rw [Buckets.ofRank_listing table.ascending tracks.wellKeyed]
        exact congrArg Assoc.entries (tracks.bucket key)

theorem keyed_entries_eq (tracks : table.Tracks pairs) :
    table.entries.map (fun entry => (some entry.1, entry.2)) =
      (pairs.entries.mergeSort (StableOrder.byRank Buckets.keyOf)).map
        (fun pair => (pair.1.key?, pair)) := by
  rw [← tracks.entries_eq_mergeSort, List.map_map]
  apply List.map_congr_left
  intro entry member
  simp [tracks.key?_of_mem_entries member]

end Tracks

/-! ## Exactness -/

/-- A table keeps step with one list of pairs that is searched by equality. A value that has no key
is refused and nothing changes. For a value that has one, the table finds what the list finds, its
bucket has as many entries as the list has pairs of the key. The list then differs by what the
request leaves under values that equal this one: a new pair comes last, and no other one moves. The
entries are the pairs, each under its own key, in the stable order of the keys, and no two of them
are equal. -/
theorem run_keeps_step_with_list (done : List Request) (request : Request) :
    let table := ((∅ : Table).run done).2
    let pairs := Request.serveAll done
    let answer := (table.step request).1
    let next := (table.step request).2
    let after := Request.serveAll (done ++ [request])
    (∅ : Table).run (done ++ [request]) = (((∅ : Table).run done).1 ++ [answer], next) ∧
    (match request.key.key? with
      | none => answer = .error (.unusableKey request.key.tag) ∧ next = table ∧ after = pairs
      | some key => ∃ reply, answer = .ok reply ∧ reply.key = key ∧
          reply.found = pairs.entries.any (fun entry => entry.1 == request.key) ∧
          reply.old = pairs.get? request.key ∧
          reply.size = after.entries.countP (fun entry => entry.1.key? = some key) ∧
          (∀ sought, after.get? sought =
            if request.key == sought then request.leaves (pairs.get? sought)
            else pairs.get? sought) ∧
          after.entries.map Prod.fst =
            request.keysLeft reply.found (pairs.entries.map Prod.fst)) ∧
    next.entries.map (fun entry => (some entry.1, entry.2)) =
      (after.entries.mergeSort fun x y => (compare x.1.key? y.1.key?).isLE).map
        (fun pair => (pair.1.key?, pair)) ∧
    after.entries.Pairwise fun entry later => (entry.1 == later.1) = false := by
  intro table pairs answer next after
  have tracks : table.Tracks pairs := Tracks.empty.run done
  have served : after = request.serve pairs := Request.serveAll_append done request
  have tracksNext : next.Tracks after := by
    rw [served]
    exact tracks.step request
  refine ⟨run_append ∅ done request, ?_, tracksNext.keyed_entries_eq, tracksNext.distinct⟩
  cases view : request.key.key? with
  | none =>
      have refused := step_of_key?_eq_none table view
      exact ⟨congrArg Prod.fst refused, congrArg Prod.snd refused,
        served.trans (Request.serve_of_key?_eq_none view pairs)⟩
  | some key =>
      have answered := tracks.answer_of_key? view
      rw [← served] at answered
      have updated : after = request.update pairs :=
        served.trans (Request.serve_of_key? view pairs)
      refine ⟨_, answered, rfl, ?_, rfl, rfl, fun sought => ?_, ?_⟩
      · simp [Answer.found, Assoc.get?, List.isSome_find?]
      · rw [updated]
        exact request.get?_update tracks.distinct sought
      · rw [updated]
        exact request.map_fst_update pairs

/-- Two strings of one key stand in one bucket, and each is found under itself. -/
example :
    let seed : List UInt8 := [0xD3, 0x08, 0xA3, 0x85, 0x88, 0x6A, 0x3F, 0x24]
    let zeros := Value.string (seed ++ List.replicate 8 0)
    let ones := Value.string (seed ++ List.replicate 8 1)
    let answers := ((∅ : Table).run [.put zeros (.integer 0), .put ones (.integer 1), .get zeros]).1
    (answers.map fun answer => answer.toOption.map fun reply =>
        (reply.old.bind Value.integer?, reply.size)) =
      [some (none, 1), some (none, 2), some (some 0, 2)] := by decide +kernel

end Table

end ScriptValues
