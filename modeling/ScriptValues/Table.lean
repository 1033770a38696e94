import ScriptValues.Assoc
import ScriptValues.Key.Basic

/-!
# Tables

A map from values to values. Entries are kept in buckets by the `Key` of the value that they are
put under. Different strings can share a key, so a bucket can have several entries, and within a
bucket an entry is found by comparing the values. A request whose value has no key changes nothing.
The buckets ascend by key; `Table.entries` lists them one after the other.
-/

namespace ScriptValues

abbrev Bucket := Assoc Value Value

abbrev Buckets := List (Key × Bucket)

namespace Buckets

def find (key : Key) : Buckets → Bucket
  | [] => ∅
  | (other, bucket) :: buckets => if other = key then bucket else find key buckets

def keep (key : Key) (bucket : Bucket) : Buckets → Buckets
  | [] => [(key, bucket)]
  | (other, old) :: buckets =>
    match compare key other with
    | .lt => (key, bucket) :: (other, old) :: buckets
    | .eq => (key, bucket) :: buckets
    | .gt => (other, old) :: keep key bucket buckets

def Ascending (buckets : Buckets) : Prop :=
  buckets.Pairwise fun left right => compare left.1 right.1 = .lt

theorem mem_keep {key : Key} {bucket : Bucket} {entry : Key × Bucket} :
    {buckets : Buckets} → entry ∈ keep key bucket buckets → entry = (key, bucket) ∨ entry ∈ buckets
  | [], member => .inl (List.mem_singleton.mp member)
  | (other, old) :: buckets, member => by
    unfold keep at member
    split at member
    · simpa using member
    · rcases List.mem_cons.mp member with rfl | member
      · exact .inl rfl
      · exact .inr (List.mem_cons_of_mem _ member)
    · rcases List.mem_cons.mp member with rfl | member
      · exact .inr List.mem_cons_self
      · exact (mem_keep member).imp_right (List.mem_cons_of_mem _)

theorem Ascending.keep {key : Key} {bucket : Bucket} {buckets : Buckets}
    (ascending : Ascending buckets) : Ascending (Buckets.keep key bucket buckets) := by
  induction buckets with
  | nil => exact List.pairwise_singleton _ _
  | cons first buckets ih =>
    obtain ⟨other, old⟩ := first
    obtain ⟨above, later⟩ := List.pairwise_cons.mp ascending
    unfold Buckets.keep
    split
    · rename_i below
      refine List.pairwise_cons.mpr ⟨?_, ascending⟩
      intro entry member
      rcases List.mem_cons.mp member with rfl | member
      · exact below
      · exact Std.TransCmp.lt_trans below (above entry member)
    · rename_i equal
      obtain rfl : key = other := Std.LawfulEqOrd.eq_of_compare equal
      exact List.pairwise_cons.mpr ⟨above, later⟩
    · rename_i below
      refine List.pairwise_cons.mpr ⟨?_, ih later⟩
      intro entry member
      rcases mem_keep member with rfl | member
      · exact Std.OrientedCmp.lt_of_gt below
      · exact above entry member

end Buckets

structure Table where
  buckets : Buckets
  ascending : buckets.Ascending

inductive Request where
  | get (key : Value)
  | put (key value : Value)
  | delete (key : Value)
  deriving Repr

namespace Request

def key : Request → Value
  | get key => key
  | put key _ => key
  | delete key => key

def update : Request → Assoc Value Value → Assoc Value Value
  | get _, pairs => pairs
  | put key value, pairs => pairs.put key value
  | delete key, pairs => pairs.erase key

end Request

structure Answer where
  key : Key
  old : Option Value
  size : Nat
  deriving Repr

namespace Answer

def found (answer : Answer) : Bool :=
  answer.old.isSome

end Answer

namespace Table

def empty : Table where
  buckets := []
  ascending := .nil

instance : EmptyCollection Table := ⟨empty⟩

def bucket (table : Table) (key : Key) : Bucket :=
  table.buckets.find key

def setBucket (table : Table) (key : Key) (bucket : Bucket) : Table where
  buckets := table.buckets.keep key bucket
  ascending := table.ascending.keep

def step (table : Table) (request : Request) : Except Fault Answer × Table :=
  match request.key.mapKey with
  | .error fault => (.error fault, table)
  | .ok key =>
    let before := table.bucket key
    let after := request.update before
    (.ok { key, old := before.get? request.key, size := after.size }, table.setBucket key after)

def run (table : Table) : List Request → List (Except Fault Answer) × Table
  | [] => ([], table)
  | request :: requests =>
    let (answer, next) := table.step request
    let (answers, final) := next.run requests
    (answer :: answers, final)

def entries (table : Table) : List (Key × Value × Value) :=
  table.buckets.flatMap fun (key, bucket) => bucket.entries.map fun entry => (key, entry)

end Table

end ScriptValues
