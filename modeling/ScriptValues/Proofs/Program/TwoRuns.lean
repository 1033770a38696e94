import ScriptValues.Proofs.Primitive.Congruence
import ScriptValues.Proofs.Program.Closed

namespace ScriptValues
open Value

theorem optionRel_bind {α β γ δ : Type} {R : α → β → Prop} {S : γ → δ → Prop}
    {left : Option α} {right : Option β} {f : α → Option γ} {g : β → Option δ}
    (related : Option.Rel R left right) (next : ∀ a b, R a b → Option.Rel S (f a) (g b)) :
    Option.Rel S (left >>= f) (right >>= g) := by
  cases related with
  | none => exact .none
  | some related => exact next _ _ related

theorem optionRel_map {α β γ δ : Type} {R : α → β → Prop} {S : γ → δ → Prop}
    {left : Option α} {right : Option β} {f : α → γ} {g : β → δ} (related : Option.Rel R left right)
    (next : ∀ a b, R a b → S (f a) (g b)) : Option.Rel S (left.map f) (right.map g) := by
  cases related with
  | none => exact .none
  | some related => exact .some (next _ _ related)

namespace Registers

def EntryAlike (entry other : String × Value) : Prop :=
  entry.1 = other.1 ∧ (entry.2 == other.2) = true

def Alike (left right : Registers) : Prop :=
  List.Forall₂ EntryAlike left.entries right.entries

theorem find?_alike {entries others : List (String × Value)}
    (alike : List.Forall₂ EntryAlike entries others) (name : String) :
    Option.Rel EntryAlike (entries.find? fun entry => entry.1 == name)
      (others.find? fun entry => entry.1 == name) := by
  induction alike with
  | nil => exact .none
  | @cons entry other _ _ head _ ih =>
      rw [List.find?_cons, List.find?_cons, head.1]
      cases other.1 == name with
      | true => exact .some head
      | false => exact ih

theorem Alike.get? {left right : Registers} (alike : left.Alike right) (name : String) :
    Option.Rel Equal (left.get? name) (right.get? name) :=
  optionRel_map (find?_alike alike name) fun _ _ same => same.2

theorem putEntry_alike {name : String} {value other : Value} (equal : (value == other) = true)
    {entries others : List (String × Value)} (alike : List.Forall₂ EntryAlike entries others) :
    List.Forall₂ EntryAlike (Assoc.putEntry name value entries)
      (Assoc.putEntry name other others) := by
  induction alike with
  | nil => exact .cons ⟨rfl, equal⟩ .nil
  | @cons entry later _ _ head tail ih =>
      obtain ⟨stored, old⟩ := entry
      obtain ⟨there, older⟩ := later
      obtain ⟨rfl, olds⟩ : stored = there ∧ (old == older) = true := head
      unfold Assoc.putEntry
      cases stored == name with
      | true => exact .cons ⟨rfl, equal⟩ tail
      | false => exact .cons ⟨rfl, olds⟩ ih

theorem Alike.put {left right : Registers} (alike : left.Alike right) (name : String)
    {value other : Value} (equal : (value == other) = true) :
    Registers.Alike (left.put name value) (right.put name other) :=
  putEntry_alike equal alike

end Registers

namespace Template

variable {left right : Registers}

mutual

theorem fill_alike (alike : left.Alike right) : ∀ template : Template,
    Option.Rel Equal (template.fill left) (template.fill right)
  | value _ => .some BEq.rfl
  | register name => alike.get? name
  | array items => by
      unfold fill
      exact optionRel_map (fillAll_alike alike items) fun _ _ => array_beq_array_iff.mpr

theorem fillAll_alike (alike : left.Alike right) : ∀ items : List Template,
    Option.Rel (List.Forall₂ Equal) (fillAll left items) (fillAll right items)
  | [] => .some .nil
  | item :: items => by
      unfold fillAll
      refine optionRel_bind (fill_alike alike item) fun _ _ head => ?_
      refine optionRel_bind (fillAll_alike alike items) fun _ _ tail => ?_
      exact .some (.cons head tail)

end

end Template

def Action.ByName : Action → Prop
  | call (.held _) _ => False
  | _ => True

instance : DecidablePred Action.ByName
  | .call (.held _) _ => .isFalse id
  | .call (.named _) _ | .give _ | .compare .. => .isTrue trivial

namespace Action

theorem perform_alike (host other : Host) {left right : Registers} (alike : left.Alike right)
    {action : Action} (named : action.ByName) :
    Option.Rel Equal (action.perform host left) (action.perform other right) := by
  cases action with
  | give source => exact Template.fill_alike alike source
  | compare first second =>
      unfold perform
      refine optionRel_bind (Template.fill_alike alike first) fun _ _ firsts => ?_
      refine optionRel_bind (Template.fill_alike alike second) fun _ _ seconds => ?_
      refine .some ?_
      rw [BEq.congr_left firsts, BEq.congr_right seconds]
      exact BEq.rfl
  | call callee args =>
      cases callee with
      | held source => exact named.elim
      | named name =>
          have filled := Template.fillAll_alike alike args
          cases found : Catalogue.find? name with
          | none =>
              rw [perform_named_of_find?_eq_none found, perform_named_of_find?_eq_none found]
              exact optionRel_map filled fun _ _ _ => BEq.rfl
          | some f =>
              rw [perform_named_of_find? found, perform_named_of_find? found]
              -- What is called by name is a primitive, so neither host is asked.
              obtain ⟨p, rfl⟩ := Catalogue.primitive_of_find? found
              exact optionRel_map filled fun _ _ equal => (p.run_congr equal).ofOutcome_beq

end Action

structure Snapshot.Alike (left right : Snapshot) : Prop where
  value : left.value.Indistinguishable right.value
  registers : left.registers.Alike right.registers

theorem Step.run_alike (host other : Host) {left right : Registers} (alike : left.Alike right)
    {step : Step} (named : step.action.ByName) :
    Option.Rel Snapshot.Alike (step.run host left) (step.run other right) := by
  unfold run
  refine optionRel_bind (Action.perform_alike host other alike named) fun value same equal => ?_
  have shown := indistinguishable_of_beq equal
  cases step.target with
  | none => exact .some ⟨shown, alike⟩
  | some name => exact .some ⟨shown, alike.put name equal⟩

namespace Program

theorem run_alike (host other : Host) {left right : Registers} (alike : left.Alike right)
    {program : Program} (named : ∀ step ∈ program, step.action.ByName) :
    Option.Rel (List.Forall₂ Snapshot.Alike) (run host left program) (run other right program) := by
  induction program generalizing left right with
  | nil => exact .some .nil
  | cons step steps ih =>
      obtain ⟨here, later⟩ := List.forall_mem_cons.mp named
      unfold run
      refine optionRel_bind (Step.run_alike host other alike here) fun _ _ first => ?_
      refine optionRel_bind (ih first.registers later) fun _ _ rest => ?_
      exact .some (.cons first rest)

/-- No program that calls by name can tell equal inputs apart, whatever it asks of its results. -/
theorem run_indistinguishable (host other : Host) {left right : Registers} {program : Program}
    (alike : left.Alike right) (named : ∀ step ∈ program, step.action.ByName)
    (closed : Closed left.names program) :
    ∃ snapshots others, run host left program = some snapshots ∧
      run other right program = some others ∧ snapshots.length = program.length ∧
      List.Forall₂ (fun snapshot later => snapshot.value.Indistinguishable later.value)
        snapshots others := by
  obtain ⟨snapshots, first, lengths⟩ := run_of_closed host closed (List.Subset.refl _)
  have related := run_alike host other alike named
  rw [first] at related
  generalize second : run other right program = outcome at related
  cases related with
  | some same => exact ⟨snapshots, _, first, rfl, lengths, same.imp fun _ _ shown => shown.value⟩

theorem run_indistinguishable_at_functions :
    let f : Nat → Value := fun index => .builtin ⟨"f", .host index⟩
    let inputs : Nat → Registers := fun index => ⟨[("a", .array [f index]), ("b", f (index + 1))]⟩
    let host : Host := fun index _ => .ok (.integer (Int64.ofNat index))
    let program : Program :=
      [⟨.call (.named "push") [.register "a", .register "b"], some "c"⟩,
        ⟨.call (.named "last") [.register "c"], none⟩,
        ⟨.call (.named "len") [.register "c", .register "b"], none⟩]
    (inputs 0).Alike (inputs 1) ∧ (∀ step ∈ program, step.action.ByName) ∧
      Closed (inputs 0).names program ∧
      ∃ snapshots others, run host (inputs 0) program = some snapshots ∧
        run host (inputs 1) program = some others ∧ snapshots.length = program.length ∧
        List.Forall₂ (fun snapshot later => snapshot.value.Indistinguishable later.value)
          snapshots others := by
  intro f inputs host program
  have alike : (inputs 0).Alike (inputs 1) := .cons ⟨rfl, rfl⟩ (.cons ⟨rfl, rfl⟩ .nil)
  have named : ∀ step ∈ program, step.action.ByName := by decide
  have closed : Closed (inputs 0).names program := by decide
  exact ⟨alike, named, closed, run_indistinguishable host host alike named closed⟩

/-- A program that calls one of its inputs can tell functions of one name apart. -/
example :
    let f : Nat → Value := fun index => .builtin ⟨"f", .host index⟩
    let host : Host := fun index _ => .ok (.integer (Int64.ofNat index))
    let program : Program := [⟨.call (.held (.register "a")) [], none⟩]
    let shown : Nat → Option (List (Option Int64)) := fun index =>
      (run host ⟨[("a", f index)]⟩ program).map fun snapshots =>
        snapshots.map fun snapshot => snapshot.value.integer?
    (f 0 == f 1) = true ∧ shown 0 = some [some 0] ∧ shown 1 = some [some 1] := by decide

end Program

end ScriptValues
