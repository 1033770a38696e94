import ScriptValues.Program

namespace ScriptValues

namespace Registers

def names (registers : Registers) : List String :=
  registers.entries.map Prod.fst

theorem get?_of_mem_names {registers : Registers} {name : String} (stored : name ∈ registers.names) :
    ∃ value, registers.get? name = some value :=
  Option.isSome_iff_exists.mp (Assoc.isSome_get?_iff.mpr ⟨name, stored, BEq.rfl⟩)

theorem mem_names_put {registers : Registers} {name other : String} {value : Value} :
    other ∈ Registers.names (registers.put name value) ↔ other = name ∨ other ∈ registers.names := by
  unfold names
  rw [Assoc.map_fst_put]
  split
  · rename_i present
    obtain ⟨stored, member, same⟩ := Assoc.isSome_get?_iff.mp present
    obtain rfl := eq_of_beq same
    exact (or_iff_right_of_imp (fun here => here ▸ member)).symm
  · rw [List.mem_append, List.mem_singleton, or_comm]

end Registers

namespace Template

mutual

def reads : Template → List String
  | value _ => []
  | register name => [name]
  | array items => readsAll items

def readsAll : List Template → List String
  | [] => []
  | item :: items => reads item ++ readsAll items

end

variable {registers : Registers}

mutual

theorem fill_of_reads : ∀ {template : Template}, template.reads ⊆ registers.names →
    ∃ value, template.fill registers = some value
  | value v, _ => ⟨v, rfl⟩
  | register name, stored => by
      have member : name ∈ registers.names := stored List.mem_cons_self
      exact Registers.get?_of_mem_names member
  | array items, stored => by
      have filledAll : ∃ values, fillAll registers items = some values := fillAll_of_reads stored
      obtain ⟨values, filled⟩ := filledAll
      exact ⟨.array values, by rw [fill, filled, Option.map_some]⟩

theorem fillAll_of_reads : ∀ {items : List Template}, readsAll items ⊆ registers.names →
    ∃ values, fillAll registers items = some values
  | [], _ => ⟨[], rfl⟩
  | item :: items, stored => by
      obtain ⟨here, later⟩ := List.append_subset.mp stored
      obtain ⟨value, first⟩ := fill_of_reads here
      obtain ⟨values, rest⟩ := fillAll_of_reads later
      exact ⟨value :: values, by simp [fillAll, first, rest]⟩

end

end Template

def Callee.reads : Callee Template → List String
  | named _ => []
  | held source => source.reads

theorem Callee.fill_of_reads {registers : Registers} {callee : Callee Template}
    (stored : callee.reads ⊆ registers.names) : ∃ filled, callee.fill registers = some filled := by
  cases callee with
  | named name => exact ⟨.named name, rfl⟩
  | held source =>
      obtain ⟨value, filled⟩ := Template.fill_of_reads stored
      exact ⟨.held value, by rw [fill, filled, Option.map_some]⟩

def Action.reads : Action → List String
  | give source => source.reads
  | call callee args => callee.reads ++ Template.readsAll args
  | compare left right => left.reads ++ right.reads

theorem Action.perform_of_reads (host : Host) {registers : Registers} {action : Action}
    (stored : action.reads ⊆ registers.names) : ∃ value, action.perform host registers = some value := by
  cases action with
  | give source => exact Template.fill_of_reads stored
  | call callee args =>
      obtain ⟨called, given⟩ := List.append_subset.mp stored
      obtain ⟨callee, filled⟩ := Callee.fill_of_reads called
      obtain ⟨values, filledAll⟩ := Template.fillAll_of_reads given
      exact ⟨_, by rw [perform, filled, filledAll]; rfl⟩
  | compare left right =>
      obtain ⟨lefts, rights⟩ := List.append_subset.mp stored
      obtain ⟨first, filled⟩ := Template.fill_of_reads lefts
      obtain ⟨second, filledToo⟩ := Template.fill_of_reads rights
      exact ⟨_, by rw [perform, filled, filledToo]; rfl⟩

theorem Step.run_of_reads (host : Host) {registers : Registers} {step : Step}
    (stored : step.action.reads ⊆ registers.names) :
    ∃ snapshot, step.run host registers = some snapshot ∧
      step.target.toList ++ registers.names ⊆ snapshot.registers.names := by
  obtain ⟨value, performed⟩ := Action.perform_of_reads host stored
  unfold run
  rw [performed]
  refine ⟨_, rfl, ?_⟩
  cases step.target with
  | none => exact List.Subset.refl _
  | some name =>
      intro other member
      exact Registers.mem_names_put.mpr (List.mem_cons.mp member)

namespace Program

def Closed : List String → Program → Prop
  | _, [] => True
  | stored, step :: steps => step.action.reads ⊆ stored ∧ Closed (step.target.toList ++ stored) steps

instance decidableClosed : (stored : List String) → (program : Program) →
    Decidable (Closed stored program)
  | _, [] => .isTrue trivial
  | stored, step :: steps =>
      have := decidableClosed (step.target.toList ++ stored) steps
      inferInstanceAs (Decidable (step.action.reads ⊆ stored ∧ _))

theorem run_of_closed (host : Host) {program : Program} {stored : List String} {registers : Registers}
    (closed : Closed stored program) (present : stored ⊆ registers.names) :
    ∃ snapshots, run host registers program = some snapshots ∧
      snapshots.length = program.length := by
  induction program generalizing stored registers with
  | nil => exact ⟨[], rfl, rfl⟩
  | cons step steps ih =>
      obtain ⟨here, later⟩ := closed
      obtain ⟨snapshot, first, kept⟩ := Step.run_of_reads host (List.Subset.trans here present)
      obtain ⟨target, kept⟩ := List.append_subset.mp kept
      have after : step.target.toList ++ stored ⊆ snapshot.registers.names :=
        List.append_subset.mpr ⟨target, List.Subset.trans present kept⟩
      obtain ⟨snapshots, rest, lengths⟩ := ih later after
      exact ⟨snapshot :: snapshots, by simp [run, first, rest], by simp [lengths]⟩

end Program

end ScriptValues
