import ScriptValues.Call
import ScriptValues.Proofs.Expr.Evaluation

/-!
# The first failure

Evaluation goes through an expression up to the first node that fails, and no further. So the
outcome and the number of calls come from that node and from what stands before it (`eval_fill`);
where no node fails, every name is found and every call is made (`names_of_outcome_eval_eq_ok`).
-/

namespace ScriptValues

variable {host : Host}

/-! ## Calls that are made -/

namespace Expr

mutual

theorem calls_eval_le : ∀ expr : Expr, expr.eval.calls ≤ expr.names.length
  | literal _ => Nat.le_refl 0
  | call name args =>
      Nat.le_trans (calls_eval_call_le name args) (Nat.succ_le_succ (calls_evalAll_le args))

theorem calls_evalAll_le : ∀ exprs : List Expr, (evalAll exprs).calls ≤ (namesAll exprs).length
  | [] => Nat.le_refl 0
  | expr :: exprs => by
      have here := calls_eval_le expr
      have later := calls_evalAll_le exprs
      rw [namesAll, List.length_append]
      cases first : expr.eval.outcome with
      | error fault =>
          rw [evalAll_cons_of_error first]
          exact Nat.le_add_right_of_le here
      | ok value =>
          rw [evalAll_cons_of_ok first]
          exact Nat.add_le_add here later

end

mutual

theorem names_of_outcome_eval_eq_ok : ∀ {expr : Expr} {value : Value},
    expr.eval.outcome = .ok value →
      (∀ name ∈ expr.names, ∃ f, Catalogue.find? name = some f) ∧
        expr.eval.calls = expr.names.length
  | literal _, _, _ => ⟨nofun, rfl⟩
  | call name args, _, done => by
      obtain ⟨p, values, found, given, -, -, calls⟩ := of_outcome_eval_call_eq_ok done
      obtain ⟨inside, callsInside⟩ := namesAll_of_outcome_evalAll_eq_ok given
      rw [calls, callsInside]
      exact ⟨List.forall_mem_cons.mpr ⟨⟨_, found⟩, inside⟩, rfl⟩

theorem namesAll_of_outcome_evalAll_eq_ok : ∀ {exprs : List Expr} {values : List Value},
    (evalAll exprs).outcome = .ok values →
      (∀ name ∈ namesAll exprs, ∃ f, Catalogue.find? name = some f) ∧
        (evalAll exprs).calls = (namesAll exprs).length
  | [], _, _ => ⟨nofun, rfl⟩
  | expr :: exprs, values, done => by
      obtain ⟨value, others, rfl, here, later⟩ := of_outcome_evalAll_cons_eq_ok done
      obtain ⟨found, calls⟩ := names_of_outcome_eval_eq_ok here
      obtain ⟨foundLater, callsLater⟩ := namesAll_of_outcome_evalAll_eq_ok later
      rw [evalAll_cons_of_ok here, namesAll, List.length_append, calls, callsLater]
      exact ⟨List.forall_mem_append.mpr ⟨found, foundLater⟩, rfl⟩

end

/-! ## Nodes that have a result, and nodes that fail -/

inductive Yields (host : Host) : Expr → Value → Prop
  | literal {value : Value} (plain : value.isError = false) : Yields host (literal value) value
  | call {name : String} {f : Native} {args : List Expr} {values : List Value}
      (found : Catalogue.find? name = some f)
      (given : args.map (fun arg => arg.eval.outcome) = values.map Except.ok)
      (plain : (f.reply host values).isError = false) :
      Yields host (call name args) (f.reply host values)

theorem Yields.isError {expr : Expr} {value : Value} (yields : expr.Yields host value) :
    value.isError = false := by
  cases yields with
  | literal plain => exact plain
  | call found given plain => exact plain

theorem outcome_eval_eq_ok_iff {expr : Expr} {value : Value} :
    expr.eval.outcome = .ok value ↔ expr.Yields host value := by
  constructor
  · intro done
    cases expr with
    | literal given =>
        obtain ⟨rfl, plain⟩ := Value.outcome_eq_ok_iff.mp done
        exact .literal plain
    | call name args =>
        obtain ⟨p, values, found, given, rfl, plain, -⟩ := of_outcome_eval_call_eq_ok done
        exact .call found (outcome_evalAll_eq_ok_iff.mp given) plain
  · intro yields
    cases yields with
    | literal plain => exact Value.outcome_eq_ok_iff.mpr ⟨rfl, plain⟩
    | call found given plain =>
        obtain ⟨p, rfl⟩ := Catalogue.primitive_of_find? found
        rw [eval_call_of_ok found (outcome_evalAll_eq_ok_iff.mpr given)]
        exact Value.outcome_eq_ok_iff.mpr ⟨rfl, plain⟩

/-- A node fails by itself when it is an error, when it calls an unknown name, or when its
arguments have values to which the function replies with an error. The number is that of the calls
made in the node. -/
inductive Fails (host : Host) : Expr → Fault → Nat → Prop
  | literal (fault : Fault) : Fails host (literal (.error fault)) fault 0
  | name {name : String} (unknown : Catalogue.find? name = none) (args : List Expr) :
      Fails host (call name args) (.unknownName name) 0
  | call {name : String} {f : Native} {args : List Expr} {values : List Value} {fault : Fault}
      (found : Catalogue.find? name = some f)
      (given : args.map (fun arg => arg.eval.outcome) = values.map Except.ok)
      (refused : f.reply host values = .error fault) :
      Fails host (call name args) fault (call name args).names.length

/-- What evaluation cannot tell from a node that fails: the node itself, and a call by the same
unknown name, whatever its arguments are. -/
inductive Replaces : Expr → Expr → Prop
  | same (node : Expr) : Replaces node node
  | arguments {name : String} (unknown : Catalogue.find? name = none) (args others : List Expr) :
      Replaces (call name others) (call name args)

theorem eval_of_fails {node : Expr} {fault : Fault} {calls : Nat}
    (failed : node.Fails host fault calls) : node.eval = { outcome := .error fault, calls } := by
  cases failed with
  | literal fault => rfl
  | name unknown args => exact eval_call_of_find?_eq_none unknown args
  | call found given refused =>
      obtain ⟨p, rfl⟩ := Catalogue.primitive_of_find? found
      have done := outcome_evalAll_eq_ok_iff.mpr given
      have all := (namesAll_of_outcome_evalAll_eq_ok done).2
      have replied : p.reply _ = .error fault := refused
      rw [eval_call_of_ok found done, replied, all]
      rfl

theorem Fails.replace {node other : Expr} {fault : Fault} {calls : Nat}
    (failed : node.Fails host fault calls) (replaces : other.Replaces node) :
    other.Fails host fault calls := by
  cases replaces with
  | same node => exact failed
  | arguments unknown args others =>
      cases failed with
      | name => exact .name unknown others
      | call found => exact absurd (unknown.symm.trans found) nofun

end Expr

/-! ## Places that are reached -/

namespace Place
open ScriptValues.Expr

def Reached (place : Place) : Prop :=
  ∀ frame ∈ place, (∃ f, Catalogue.find? frame.name = some f) ∧
    ∀ arg ∈ frame.earlier, ∃ value, arg.eval.outcome = .ok value

theorem callsBefore_cons (frame : Frame) (place : Place) :
    callsBefore (frame :: place) = (namesAll frame.earlier).length + place.callsBefore := by
  simp [callsBefore]

theorem evalAll_of_reached {earlier : List Expr} {expr : Expr} {fault : Fault}
    (before : ∀ arg ∈ earlier, ∃ value, arg.eval.outcome = .ok value)
    (failed : expr.eval.outcome = .error fault) (later : List Expr) :
    evalAll (earlier ++ expr :: later) =
      { outcome := .error fault, calls := (namesAll earlier).length + expr.eval.calls } := by
  induction earlier with
  | nil =>
      rw [List.nil_append, evalAll_cons_of_error failed, namesAll, List.length_nil, Nat.zero_add]
  | cons arg earlier ih =>
      obtain ⟨⟨value, done⟩, before⟩ := List.forall_mem_cons.mp before
      have calls := (names_of_outcome_eval_eq_ok done).2
      rw [List.cons_append, evalAll_cons_of_ok done, ih before, namesAll, List.length_append, calls,
        Nat.add_assoc]
      rfl

theorem eval_fill {place : Place} {node : Expr} {fault : Fault} {calls : Nat}
    (reached : place.Reached) (failed : node.eval = { outcome := .error fault, calls }) :
    (place.fill node).eval = { outcome := .error fault, calls := place.callsBefore + calls } := by
  induction place with
  | nil =>
      rw [callsBefore, List.flatMap_nil, List.length_nil, Nat.zero_add, ← failed]
      rfl
  | cons frame place ih =>
      obtain ⟨⟨⟨f, found⟩, before⟩, within⟩ := List.forall_mem_cons.mp reached
      obtain ⟨p, rfl⟩ := Catalogue.primitive_of_find? found
      have inner := ih within
      -- The call around the place fails with its argument, so it adds no call of its own.
      have args := evalAll_of_reached before (congrArg Evaluation.outcome inner) frame.later
      change (call frame.name (frame.earlier ++ fill place node :: frame.later)).eval = _
      rw [eval_call_of_error found (congrArg Evaluation.outcome args), args, inner,
        callsBefore_cons, Nat.add_assoc]

theorem exists_outcome_of_fill {place : Place} {node : Expr} {value : Value}
    (done : (place.fill node).eval.outcome = .ok value) :
    ∃ result, node.eval.outcome = .ok result := by
  induction place generalizing value with
  | nil => exact ⟨value, done⟩
  | cons frame place ih =>
      obtain ⟨p, values, -, given, -⟩ := of_outcome_eval_call_eq_ok done
      have member : fill place node ∈ frame.earlier ++ fill place node :: frame.later := by simp
      obtain ⟨inner, -, result⟩ := exists_value_of_mem given member
      exact ih result

theorem Reached.of_sameBefore {place other : Place} (reached : place.Reached)
    (same : place.SameBefore other) : other.Reached := by
  intro frame member
  have before : (frame.name, frame.earlier) ∈ other.map fun frame => (frame.name, frame.earlier) :=
    List.mem_map_of_mem member
  rw [← same] at before
  obtain ⟨original, member, equal⟩ := List.mem_map.mp before
  obtain ⟨name, earlier⟩ := Prod.mk.inj equal
  exact name ▸ earlier ▸ reached original member

theorem callsBefore_eq_of_sameBefore {place other : Place} (same : place.SameBefore other) :
    other.callsBefore = place.callsBefore := by
  have flattened (place : Place) : place.callsBefore =
      ((place.map fun frame => (frame.name, frame.earlier)).flatMap fun pair =>
        namesAll pair.2).length := by
    rw [callsBefore, List.flatMap_map]
  rw [flattened, flattened, same]

end Place

/-! ## The first node that fails -/

namespace Expr

/-- At the place stands the node that is the first to fail: evaluation comes to it, and it fails. -/
structure FirstFailure (host : Host) (expr : Expr) (place : Place) (node : Expr) (fault : Fault)
    (calls : Nat) : Prop where
  split : expr = place.fill node
  reached : place.Reached
  fails : node.Fails host fault calls

theorem FirstFailure.eval {expr : Expr} {place : Place} {node : Expr} {fault : Fault} {calls : Nat}
    (first : FirstFailure host expr place node fault calls) :
    expr.eval = { outcome := .error fault, calls := place.callsBefore + calls } := by
  rw [first.split]
  exact Place.eval_fill first.reached (eval_of_fails first.fails)

theorem FirstFailure.replace {expr : Expr} {place other : Place} {node replaced : Expr}
    {fault : Fault} {calls : Nat} (first : FirstFailure host expr place node fault calls)
    (same : place.SameBefore other) (replaces : replaced.Replaces node) :
    FirstFailure host (other.fill replaced) other replaced fault calls where
  split := rfl
  reached := first.reached.of_sameBefore same
  fails := first.fails.replace replaces

theorem exists_firstFailure {expr : Expr} {fault : Fault}
    (failed : expr.eval.outcome = .error fault) :
    ∃ place node calls, FirstFailure host expr place node fault calls := by
  induction expr with
  | literal value =>
      obtain rfl := Value.outcome_eq_error_iff.mp failed
      exact ⟨[], _, 0, rfl, nofun, .literal fault⟩
  | call name args ih =>
      cases found : Catalogue.find? name with
      | none =>
          rw [eval_call_of_find?_eq_none found] at failed
          cases failed
          exact ⟨[], _, 0, rfl, nofun, .name found args⟩
      | some f =>
          obtain ⟨p, rfl⟩ := Catalogue.primitive_of_find? found
          cases given : (evalAll args).outcome with
          | ok values =>
              rw [eval_call_of_ok found given] at failed
              have refused : p.native.reply host values = .error fault :=
                Value.outcome_eq_error_iff.mp failed
              exact ⟨[], _, _, rfl, nofun, .call found (outcome_evalAll_eq_ok_iff.mp given) refused⟩
          | error raised =>
              rw [eval_call_of_error found given] at failed
              cases failed
              obtain ⟨earlier, arg, later, rfl, before, failed⟩ :=
                exists_first_of_outcome_evalAll_eq_error given
              -- The node is in the first argument that fails, one level further in.
              obtain ⟨place, node, calls, first⟩ := ih arg (by simp) failed
              refine ⟨⟨name, earlier, later⟩ :: place, node, calls, ?_, ?_, first.fails⟩
              · rw [first.split]
                rfl
              · exact List.forall_mem_cons.mpr ⟨⟨⟨_, found⟩, before⟩, first.reached⟩

/-- Evaluation never makes more calls than there are. It has the result of the outermost node; that
is no error, no node fails then, all names are found, and all calls are made. It has a fault exactly
when there is a first node that fails, with the fault of that node; what stands after the node can
then be replaced, at all levels, and nothing else comes out. -/
theorem eval_stops_at_first_failure (host : Host) (expr : Expr) :
    expr.eval.calls ≤ expr.names.length ∧
    (∀ value, expr.eval.outcome = .ok value ↔ expr.Yields host value) ∧
    (∀ value, expr.eval.outcome = .ok value →
      value.isError = false ∧ (∀ name ∈ expr.names, ∃ f, Catalogue.find? name = some f) ∧
      expr.eval.calls = expr.names.length ∧
      ∀ place node fault calls, expr = Place.fill place node → ¬node.Fails host fault calls) ∧
    (∀ fault, expr.eval.outcome = .error fault ↔
      ∃ place node calls, FirstFailure host expr place node fault calls) ∧
    (∀ place node fault calls, FirstFailure host expr place node fault calls →
      expr.eval.calls = place.callsBefore + calls ∧
      ∀ other replaced, place.SameBefore other → replaced.Replaces node →
        (other.fill replaced).eval = expr.eval) := by
  refine ⟨calls_eval_le expr, fun value => outcome_eval_eq_ok_iff, fun value done => ?result,
    fun fault => ⟨exists_firstFailure, ?_⟩, fun place node fault calls first => ?failure⟩
  case result =>
    obtain ⟨found, calls⟩ := names_of_outcome_eval_eq_ok done
    have yields : expr.Yields host value := outcome_eval_eq_ok_iff.mp done
    refine ⟨yields.isError, found, calls, ?_⟩
    rintro place node fault calls rfl failed
    obtain ⟨result, inner⟩ := Place.exists_outcome_of_fill done
    rw [eval_of_fails failed] at inner
    cases inner
  case failure =>
    refine ⟨congrArg Evaluation.calls first.eval, fun other replaced same replaces => ?_⟩
    rw [(first.replace same replaces).eval, first.eval, Place.callsBefore_eq_of_sameBefore same]
  · rintro ⟨place, node, calls, first⟩
    exact congrArg Evaluation.outcome first.eval

theorem eval_stops_at_hidden_error :
    let host : Host := fun _ _ => .ok .null
    let boom := Fault.custom "boom"
    let passed := call "rest" [literal (.array [.null])]
    let taken := call "first" [literal (.array [.error boom])]
    let whole := call "push" [passed, taken, call "nope" []]
    let unknown := call "len" [call "nope" [literal (.error boom)]]
    let measured := call "len" [literal (.string [0x61, 0x62])]
    (FirstFailure host whole [⟨"push", [passed], [call "nope" []]⟩] taken boom 1 ∧
      whole.eval.outcome = .error boom ∧ whole.eval.calls = 2 ∧
      (call "push" [passed, taken]).eval = whole.eval) ∧
    (FirstFailure host unknown [⟨"len", [], []⟩] (call "nope" [literal (.error boom)])
        (.unknownName "nope") 0 ∧
      (call "len" [call "nope" [], measured]).eval = unknown.eval) ∧
    (measured.eval.outcome = .ok (.integer 2) ∧ (Value.integer 2).isError = false ∧
      measured.eval.calls = measured.names.length ∧
      ¬(literal (.string [0x61, 0x62])).Fails host boom 0) := by
  intro host boom passed taken whole unknown measured
  have known (p : Primitive) : ∃ f, Catalogue.find? p.name = some f := ⟨_, Catalogue.find?_name p⟩
  have first : FirstFailure host whole [⟨"push", [passed], [call "nope" []]⟩] taken boom 1 :=
    { split := rfl
      reached := by
        have before : ∀ arg ∈ [passed], ∃ value, arg.eval.outcome = .ok value :=
          List.forall_mem_singleton.mpr ⟨.array [], rfl⟩
        exact List.forall_mem_singleton.mpr ⟨known .push, before⟩
      fails := by
        have given : [literal (.array [.error boom])].map (fun arg => arg.eval.outcome) =
            [Value.array [.error boom]].map Except.ok := rfl
        exact .call (Catalogue.find?_name .first) given rfl }
  have firstUnknown : FirstFailure host unknown [⟨"len", [], []⟩]
      (call "nope" [literal (.error boom)]) (.unknownName "nope") 0 :=
    { split := rfl
      reached := List.forall_mem_singleton.mpr ⟨known .len, nofun⟩
      fails := .name rfl _ }
  obtain ⟨-, -, -, failure, replace⟩ := eval_stops_at_first_failure host whole
  obtain ⟨-, -, -, -, replaceUnknown⟩ := eval_stops_at_first_failure host unknown
  obtain ⟨calls, same⟩ := replace _ _ _ _ first
  obtain ⟨-, sameUnknown⟩ := replaceUnknown _ _ _ _ firstUnknown
  have done : measured.eval.outcome = .ok (.integer 2) := rfl
  obtain ⟨result, -, made, none⟩ := (eval_stops_at_first_failure host measured).2.2.1 _ done
  exact ⟨⟨first, (failure boom).mpr ⟨_, _, _, first⟩, calls,
      same [⟨"push", [passed], []⟩] taken rfl (.same taken)⟩,
    ⟨firstUnknown, sameUnknown [⟨"len", [], [measured]⟩] (call "nope" []) rfl (.arguments rfl _ _)⟩,
    done, result, made, none [⟨"len", [], []⟩] _ boom 0 rfl⟩

end Expr

end ScriptValues
