import ScriptValues.Program.Calls
import ScriptValues.Proofs.Primitive.Depth
import ScriptValues.Proofs.Program.Closed
import ScriptValues.Proofs.Value.Levels

/-!
# Pushes and depth

A program made of calls gets no deeper than its inputs by more levels than it makes calls of `push`.
The induction is on the steps, and a bound on all registers is kept, which a call of `push` raises by
one (`Step.Calls.shallow`). A program that pushes an array onto itself again and again attains the
bound.
-/

namespace ScriptValues
open Value

namespace Registers

def Shallow (bound : Nat) (registers : Registers) : Prop :=
  ∀ value ∈ registers.values, value.depth ≤ bound

theorem mem_values_of_get? {registers : Registers} {name : String} {value : Value}
    (stored : registers.get? name = some value) : value ∈ registers.values := by
  obtain ⟨entry, found, rfl⟩ := Option.map_eq_some_iff.mp stored
  exact List.mem_map_of_mem (List.mem_of_find?_eq_some found)

end Registers

namespace Template

variable {registers : Registers} {limit bound : Nat}

theorem Plain.depth_le {template : Template} (plain : template.Plain limit) (deep : limit ≤ bound)
    (shallow : registers.Shallow bound) {value : Value}
    (filled : template.fill registers = some value) : value.depth ≤ bound := by
  cases plain with
  | value v small =>
      obtain rfl := Option.some.inj filled
      exact Nat.le_trans small deep
  | register name => exact shallow value (Registers.mem_values_of_get? filled)

theorem depth_le_of_fillAll {args : List Template} (plain : ∀ arg ∈ args, arg.Plain limit)
    (deep : limit ≤ bound) (shallow : registers.Shallow bound) {given : List Value}
    (filled : fillAll registers args = some given) : ∀ value ∈ given, value.depth ≤ bound := by
  induction args generalizing given with
  | nil =>
      obtain rfl := Option.some.inj filled
      nofun
  | cons arg args ih =>
      obtain ⟨here, later⟩ := List.forall_mem_cons.mp plain
      obtain ⟨value, first, filled⟩ := Option.bind_eq_some_iff.mp filled
      obtain ⟨values, rest, filled⟩ := Option.bind_eq_some_iff.mp filled
      obtain rfl := Option.some.inj filled
      exact List.forall_mem_cons.mpr ⟨here.depth_le deep shallow first, ih later rest⟩

end Template

namespace Step

variable {host : Host} {registers : Registers} {step : Step} {snapshot : Snapshot}

theorem perform_of_run (ran : step.run host registers = some snapshot) :
    step.action.perform host registers = some snapshot.value := by
  obtain ⟨value, performed, ran⟩ := Option.bind_eq_some_iff.mp ran
  obtain rfl := Option.some.inj ran
  exact performed

theorem mem_values_of_run (ran : step.run host registers = some snapshot) {value : Value}
    (member : value ∈ snapshot.registers.values) :
    value = snapshot.value ∨ value ∈ registers.values := by
  obtain ⟨result, performed, ran⟩ := Option.bind_eq_some_iff.mp ran
  obtain rfl := Option.some.inj ran
  cases target : step.target with
  | none =>
      simp only [target] at member
      exact .inr member
  | some name =>
      simp only [target] at member
      exact Assoc.snd_of_mem_put member

theorem isPush_call (p : Primitive) (args : List Template) (target : Option String) :
    isPush ⟨.call (.named p.name) args, target⟩ = decide (p = .push) := by
  cases p <;> rfl

theorem Calls.depth_le {limit bound : Nat} (calls : step.Calls limit) (deep : limit ≤ bound)
    (shallow : registers.Shallow bound) (ran : step.run host registers = some snapshot) :
    snapshot.value.depth ≤ bound + if step.isPush then 1 else 0 := by
  cases calls with
  | intro p args target plain =>
      have performed := perform_of_run ran
      rw [Action.perform_named_of_find? (Catalogue.find?_name p)] at performed
      obtain ⟨given, filled, replied⟩ := Option.map_eq_some_iff.mp performed
      have reply : p.reply given = snapshot.value := replied
      have growth := p.depth_reply_le (Template.depth_le_of_fillAll plain deep shallow filled)
      simpa only [reply, isPush_call, decide_eq_true_eq] using growth

theorem Calls.shallow {limit bound : Nat} (calls : step.Calls limit) (deep : limit ≤ bound)
    (shallow : registers.Shallow bound) (ran : step.run host registers = some snapshot) :
    snapshot.registers.Shallow (bound + if step.isPush then 1 else 0) := by
  intro value member
  rcases mem_values_of_run ran member with rfl | old
  · exact calls.depth_le deep shallow ran
  · exact Nat.le_add_right_of_le (shallow value old)

theorem run_pushItself (host : Host) (name : String) (items : List Value) :
    (pushItself name).run host ⟨[(name, array items)]⟩ =
      some ⟨array (items ++ [array items]), ⟨[(name, array (items ++ [array items]))]⟩⟩ := by
  have stored : (⟨[(name, array items)]⟩ : Registers).get? name = some (array items) := by
    simp [Assoc.get?]
  have given : Template.fillAll ⟨[(name, array items)]⟩ [.register name, .register name] =
      some [array items, array items] := by
    rw [Template.fillAll, Template.fillAll, Template.fillAll, Template.fill, stored]
    rfl
  have performed : (pushItself name).action.perform host ⟨[(name, array items)]⟩ =
      some (array (items ++ [array items])) := by
    rw [pushItself, Action.perform_named_of_find? (Catalogue.find?_name .push), given]
    rfl
  rw [run, performed]
  simp [pushItself, Assoc.put, Assoc.putEntry]

end Step

namespace Program

variable {host : Host} {registers : Registers} {program : Program} {snapshots : List Snapshot}

theorem of_run_cons_eq_some {step : Step} {steps : Program}
    (ran : run host registers (step :: steps) = some snapshots) :
    ∃ snapshot later, step.run host registers = some snapshot ∧
      run host snapshot.registers steps = some later ∧ snapshots = snapshot :: later := by
  obtain ⟨snapshot, first, ran⟩ := Option.bind_eq_some_iff.mp ran
  obtain ⟨later, rest, ran⟩ := Option.bind_eq_some_iff.mp ran
  exact ⟨snapshot, later, first, rest, (Option.some.inj ran).symm⟩

theorem run_cons_of_eq_some {step : Step} {steps : Program} {snapshot : Snapshot}
    {later : List Snapshot} (first : step.run host registers = some snapshot)
    (rest : run host snapshot.registers steps = some later) :
    run host registers (step :: steps) = some (snapshot :: later) := by
  simp [run, first, rest]

theorem run_take (ran : run host registers program = some snapshots) (k : Nat) :
    run host registers (program.take k) = some (snapshots.take k) := by
  induction k generalizing program registers snapshots with
  | zero => rfl
  | succ k ih =>
      cases program with
      | nil =>
          obtain rfl := Option.some.inj ran
          rfl
      | cons step steps =>
          obtain ⟨snapshot, later, first, rest, rfl⟩ := of_run_cons_eq_some ran
          exact run_cons_of_eq_some first (ih rest)

theorem pushes_cons (step : Step) (steps : Program) :
    pushes (step :: steps) = (if step.isPush then 1 else 0) + pushes steps := by
  rw [pushes, List.countP_cons, Nat.add_comm]
  rfl

theorem depth_le_of_run {limit bound : Nat} (calls : ∀ step ∈ program, step.Calls limit)
    (deep : limit ≤ bound) (shallow : registers.Shallow bound)
    (ran : run host registers program = some snapshots) :
    ∀ snapshot ∈ snapshots, snapshot.value.depth ≤ bound + pushes program := by
  induction program generalizing registers bound snapshots with
  | nil =>
      obtain rfl := Option.some.inj ran
      nofun
  | cons step steps ih =>
      obtain ⟨here, later⟩ := List.forall_mem_cons.mp calls
      obtain ⟨snapshot, others, first, rest, rfl⟩ := of_run_cons_eq_some ran
      have head := here.depth_le deep shallow first
      -- The bound for the later steps is the one that this step leaves.
      have tail := ih later (Nat.le_add_right_of_le deep) (here.shallow deep shallow first) rest
      rw [pushes_cons, ← Nat.add_assoc]
      exact List.forall_mem_cons.mpr ⟨Nat.le_add_right_of_le head, tail⟩

/-! ## Runs that get as deep as they can -/

theorem exists_depth_of_run_pushItself (host : Host) (name : String) (items : List Value) (p : Nat) :
    ∃ snapshots,
      run host ⟨[(name, array items)]⟩ (List.replicate p (.pushItself name)) = some snapshots ∧
      ∃ a ∈ values ⟨[(name, array items)]⟩ snapshots, a.depth = (array items).depth + p := by
  induction p generalizing items with
  | zero => exact ⟨[], rfl, array items, List.mem_cons_self, rfl⟩
  | succ p ih =>
      obtain ⟨snapshots, rest, a, member, deep⟩ := ih (items ++ [array items])
      have growth : (array (items ++ [array items])).depth = (array items).depth + 1 := by
        rw [Primitive.depth_array_concat, Nat.max_eq_right (Nat.le_succ _)]
      refine ⟨_, run_cons_of_eq_some (Step.run_pushItself host name items) rest, a,
        List.mem_cons_of_mem _ member, ?_⟩
      rw [deep, growth, Nat.add_assoc, Nat.add_comm 1]

theorem calls_replicate_pushItself (depth p : Nat) (name : String) :
    ∀ step ∈ List.replicate p (Step.pushItself name), step.Calls depth := by
  intro step member
  rw [List.eq_of_mem_replicate member]
  refine .intro .push _ _ ?_
  simp only [List.forall_mem_cons]
  exact ⟨.register name, .register name, nofun⟩

theorem pushes_replicate_pushItself (p : Nat) (name : String) :
    pushes (List.replicate p (.pushItself name)) = p := by
  rw [pushes, List.countP_replicate]
  exact if_pos rfl

/-- After any number of steps, no value of a program made of calls is deeper than the inputs by more
levels than there were calls of `push`, and it is rendered and compared by going down no further than
that. For inputs of any depth above zero and any number of calls of `push`, some program gets as deep
as that, to a value that cannot be rendered by going down less far. -/
theorem run_nests_by_pushes (host : Host) :
    (∀ (limit : Nat) (inputs : Registers) (program : Program),
      (∀ input ∈ inputs.values, input.depth ≤ limit) → (∀ step ∈ program, step.Calls limit) →
      Closed inputs.names program →
      ∃ snapshots, run host inputs program = some snapshots ∧ snapshots.length = program.length ∧
        ∀ k, ∀ a ∈ values inputs (snapshots.take k),
          a.depth ≤ limit + pushes (program.take k) ∧ a.Fits (limit + pushes (program.take k))) ∧
    (∀ limit p : Nat, 1 ≤ limit → ∃ inputs program snapshots,
      (∀ input ∈ inputs.values, input.depth ≤ limit) ∧ (∀ step ∈ program, step.Calls limit) ∧
        pushes program = p ∧ run host inputs program = some snapshots ∧
        ∃ a ∈ values inputs snapshots, a.depth = limit + p ∧
          ∀ levels < limit + p, a.inspectWithin levels = none ∧ a.debugWithin levels = none) := by
  refine ⟨fun limit inputs program shallow calls closed => ?bounded, fun limit p one => ?attained⟩
  case bounded =>
    obtain ⟨snapshots, ran, lengths⟩ := run_of_closed host closed (List.Subset.refl _)
    have depths (k : Nat) : ∀ a ∈ values inputs (snapshots.take k),
        a.depth ≤ limit + pushes (program.take k) := by
      have results := depth_le_of_run (fun step member => calls step (List.mem_of_mem_take member))
        (Nat.le_refl limit) shallow (run_take ran k)
      exact List.forall_mem_append.mpr ⟨fun a member => Nat.le_add_right_of_le (shallow a member),
        List.forall_mem_map.mpr results⟩
    refine ⟨snapshots, ran, lengths, fun k a member => ?_⟩
    exact ⟨depths k a member, fits_iff.mpr (depths k a member)⟩
  case attained =>
    obtain ⟨n, rfl⟩ := Nat.exists_eq_add_of_le' one
    obtain ⟨items, array⟩ : ∃ items, nested n = array items := by cases n <;> exact ⟨_, rfl⟩
    have start : (Value.array items).depth = n + 1 := array ▸ depth_nested n
    obtain ⟨snapshots, ran, a, member, deep⟩ := exists_depth_of_run_pushItself host "a" items p
    rw [start] at deep
    refine ⟨⟨[("a", .array items)]⟩, List.replicate p (.pushItself "a"), snapshots,
      List.forall_mem_singleton.mpr (Nat.le_of_eq start), calls_replicate_pushItself _ p "a",
      pushes_replicate_pushItself p "a", ran, a, member, deep, fun levels few => ?_⟩
    rw [← deep] at few
    exact ⟨inspectWithin_eq_none_iff.mpr few, debugWithin_eq_none_iff.mpr few⟩

theorem run_nests_by_pushes_at_shared_arrays :
    let host : Host := fun _ _ => .ok .null
    let inputs : Registers := ⟨[("a", .array [.null])]⟩
    let program : Program := [.pushItself "a", .pushItself "a",
      ⟨.call (.named "push") [.register "a"], some "b"⟩, ⟨.call (.named "last") [.register "a"], none⟩]
    ((∀ input ∈ inputs.values, input.depth ≤ 1) ∧ (∀ step ∈ program, step.Calls 1) ∧
      Closed inputs.names program ∧
      ∃ snapshots, run host inputs program = some snapshots ∧ snapshots.length = 4 ∧
        (∀ a ∈ values inputs (snapshots.take 1), a.depth ≤ 2 ∧ a.Fits 2) ∧
        (∀ a ∈ values inputs (snapshots.take 4), a.depth ≤ 4 ∧ a.Fits 4)) ∧
    (1 ≤ 2 ∧ ∃ inputs program snapshots, (∀ input ∈ inputs.values, input.depth ≤ 2) ∧
      (∀ step ∈ program, step.Calls 2) ∧ pushes program = 3 ∧
      run host inputs program = some snapshots ∧
      ∃ a ∈ values inputs snapshots, a.depth = 5 ∧
        ∀ levels < 5, a.inspectWithin levels = none ∧ a.debugWithin levels = none) := by
  intro host inputs program
  have shallow : ∀ input ∈ inputs.values, input.depth ≤ 1 := by decide
  have register : ∀ arg ∈ [Template.register "a"], arg.Plain 1 :=
    List.forall_mem_singleton.mpr (.register "a")
  have calls : ∀ step ∈ program, step.Calls 1 := by
    refine List.forall_mem_append.mpr ⟨calls_replicate_pushItself 1 2 "a", ?_⟩
    refine List.forall_mem_cons.mpr ⟨.intro .push _ _ register, ?_⟩
    exact List.forall_mem_singleton.mpr (.intro .last _ _ register)
  have closed : Closed inputs.names program := by decide
  obtain ⟨bounded, attained⟩ := run_nests_by_pushes host
  obtain ⟨snapshots, ran, lengths, depths⟩ := bounded 1 inputs program shallow calls closed
  exact ⟨⟨shallow, calls, closed, snapshots, ran, lengths, depths 1, depths 4⟩,
    by decide, attained 2 3 (by decide)⟩

end Program

end ScriptValues
