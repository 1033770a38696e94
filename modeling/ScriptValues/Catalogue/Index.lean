import ScriptValues.Assoc
import ScriptValues.Catalogue

namespace ScriptValues.Catalogue

structure Index where
  functions : Assoc String Native

namespace Index

def ofFunctions (functions : List Native) : Index where
  functions := functions.foldl (fun index f => index.put f.name f) ∅

def fresh : Index :=
  ofFunctions Catalogue.functions

def find? (index : Index) (name : String) : Option Native :=
  index.functions.get? name

def contains (index : Index) (name : String) : Bool :=
  index.functions.entries.any fun entry => entry.1 == name

def value? (index : Index) (name : String) : Option Value :=
  (index.find? name).map Value.builtin

def names (index : Index) : List String :=
  (index.functions.entries.map Prod.fst).mergeSort

def share : Option Index → Index × Option Index
  | some index => (index, some index)
  | none => (fresh, some fresh)

inductive Kept : Option Index → Prop
  | unused : Kept none
  | used {kept : Option Index} (before : Kept kept) : Kept (share kept).2

/-- The indexes that a program can look into: one of its own, and the shared one at any time. -/
inductive AtHand : Index → Prop
  | own : AtHand fresh
  | shared {kept : Option Index} (before : Kept kept) : AtHand (share kept).1

end Index

end ScriptValues.Catalogue
