import ScriptValues.Value.Basic

namespace ScriptValues.Catalogue

def functions : List Native :=
  Primitive.all.map Primitive.native

def find? (name : String) : Option Native :=
  functions.find? fun f => f.name == name

def contains (name : String) : Bool :=
  functions.any fun f => f.name == name

def value? (name : String) : Option Value :=
  (find? name).map Value.builtin

def names : List String :=
  (functions.map Native.name).mergeSort

def size : Nat :=
  functions.length

def isEmpty : Bool :=
  functions.isEmpty

theorem find?_eq_map_ofName? (name : String) :
    find? name = (Primitive.ofName? name).map Primitive.native := by
  rw [find?, functions, List.find?_map]
  rfl

theorem find?_name (p : Primitive) : find? p.name = some p.native := by
  cases p <;> rfl

theorem name_of_find? {name : String} {f : Native} (found : find? name = some f) :
    f.name = name := by
  rw [find?] at found
  have same := List.find?_some found
  exact eq_of_beq same

theorem primitive_of_find? {name : String} {f : Native} (found : find? name = some f) :
    ∃ p : Primitive, f = p.native := by
  obtain ⟨p, -, rfl⟩ := List.mem_map.mp (List.mem_of_find?_eq_some found)
  exact ⟨p, rfl⟩

theorem find?_eq_some_iff {name : String} {f : Native} :
    find? name = some f ↔ ∃ p : Primitive, p.name = name ∧ p.native = f := by
  constructor
  · intro found
    obtain ⟨p, rfl⟩ := primitive_of_find? found
    exact ⟨p, name_of_find? found, rfl⟩
  · rintro ⟨p, rfl, rfl⟩
    exact find?_name p

theorem contains_eq_isSome (name : String) : contains name = (find? name).isSome := by
  rw [contains, find?, Bool.eq_iff_iff, List.any_eq_true, List.find?_isSome]

theorem mem_names_iff {name : String} : name ∈ names ↔ (find? name).isSome = true := by
  rw [names, List.mem_mergeSort, find?, List.find?_isSome]
  simp

theorem isSome_find?_iff {name : String} :
    (find? name).isSome = true ↔ name ∈ Primitive.all.map Primitive.name := by
  rw [Option.isSome_iff_exists, List.mem_map]
  constructor
  · rintro ⟨f, found⟩
    obtain ⟨p, rfl, -⟩ := find?_eq_some_iff.mp found
    exact ⟨p, Primitive.mem_all p, rfl⟩
  · rintro ⟨p, -, rfl⟩
    exact ⟨p.native, find?_name p⟩

end ScriptValues.Catalogue
