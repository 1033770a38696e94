import ScriptValues.Primitive.Run

namespace ScriptValues

def Value.memberCount : Value → Nat
  | array items => items.length
  | string bytes => bytes.length
  | _ => 0

namespace Primitive

def wanted (name : String) : Nat :=
  if name = "push" then 2 else 1

def Accepts (name : String) (tag : Tag) : Prop :=
  tag = .array ∨ tag = .string ∧ name ≠ "push"

def objection (name : String) (tag : Tag) : Fault :=
  if name = "len" then .unsupportedArgument name tag
  else if name = "push" then .expectedArray name tag
  else .expectedSequence name tag

theorem arity_eq_wanted (p : Primitive) : p.arity = wanted p.name := by
  cases p <;> decide

theorem run_of_not_accepts {p : Primitive} {target : Value} {others : List Value}
    (right : (target :: others).length = p.arity) (refused : ¬Accepts p.name target.tag) :
    p.run (target :: others) = .error (objection p.name target.tag) := by
  cases target with
  | array items => exact absurd (.inl rfl) refused
  | string bytes =>
      match p, others, right with
      | push, [item], _ => rfl
      | len, [], _ | first, [], _ | last, [], _ | rest, [], _ =>
          exact absurd (.inr ⟨rfl, by decide⟩) refused
  | _ =>
      match p, others, right with
      | len, [], _ | first, [], _ | last, [], _ | rest, [], _ | push, [item], _ => rfl

theorem count_of_lt {members : Nat} (short : members < 0x8000000000000000) (kind : Tag) :
    count kind members = .ok (.integer (Int64.ofNat members)) :=
  if_pos short

theorem count_of_le {members : Nat} (long : 0x8000000000000000 ≤ members) (kind : Tag) :
    count kind members = .error (.custom (kind.name ++ " too large")) :=
  if_neg (Nat.not_lt_of_ge long)

theorem sequence_of_accepts {name : String} {a : Value} (accepted : Accepts name a.tag) :
    (∃ items, a = .array items) ∨ name ≠ "push" ∧ ∃ bytes, a = .string bytes := by
  rcases accepted with array | ⟨string, other⟩
  · cases a with
    | array items => exact .inl ⟨items, rfl⟩
    | _ => cases array
  · cases a with
    | string bytes => exact .inr ⟨other, bytes, rfl⟩
    | _ => cases string

theorem exists_run_eq_ok_of_accepts {p : Primitive} {target : Value} {others : List Value}
    (right : (target :: others).length = p.arity) (accepted : Accepts p.name target.tag)
    (short : p = len → target.memberCount < 0x8000000000000000) :
    ∃ value, p.run (target :: others) = .ok value := by
  obtain ⟨items, rfl⟩ | ⟨other, bytes, rfl⟩ := sequence_of_accepts accepted
  · match p, others, right with
    | len, [], _ => exact ⟨_, count_of_lt (short rfl) .array⟩
    | first, [], _ => cases items <;> exact ⟨_, rfl⟩
    | last, [], _ => exact ⟨_, rfl⟩
    | rest, [], _ => cases items <;> exact ⟨_, rfl⟩
    | push, [item], _ => exact ⟨_, rfl⟩
  · match p, others, right with
    | len, [], _ => exact ⟨_, count_of_lt (short rfl) .string⟩
    | first, [], _ => cases bytes <;> exact ⟨_, rfl⟩
    | last, [], _ => exact ⟨_, rfl⟩
    | rest, [], _ => cases bytes <;> exact ⟨_, rfl⟩
    | push, [item], _ => exact absurd rfl other

theorem run_len_of_le {target : Value} (accepted : Accepts "len" target.tag)
    (long : 0x8000000000000000 ≤ target.memberCount) :
    len.run [target] = .error (.custom (target.tag.name ++ " too large")) := by
  obtain ⟨items, rfl⟩ | ⟨-, bytes, rfl⟩ := sequence_of_accepts accepted
  · exact count_of_le long .array
  · exact count_of_le long .string

inductive Failure (p : Primitive) (args : List Value) : Fault → Prop
  | arity (wrong : args.length ≠ p.arity) : Failure p args (.wrongArity args.length p.arity)
  | kind (target : Value) (others : List Value) (given : args = target :: others)
      (right : args.length = p.arity) (refused : ¬Accepts p.name target.tag) :
      Failure p args (objection p.name target.tag)
  | length (target : Value) (others : List Value) (given : args = target :: others)
      (right : args.length = p.arity) (measured : p = len)
      (long : 0x8000000000000000 ≤ target.memberCount) :
      Failure p args (.custom (target.tag.name ++ " too large"))

theorem failure_of_run_eq_error {p : Primitive} {args : List Value} {fault : Fault}
    (failed : p.run args = .error fault) : Failure p args fault := by
  by_cases right : args.length = p.arity
  · cases args with
    | nil => cases p <;> cases right
    | cons target others =>
        by_cases accepted : Accepts p.name target.tag
        · by_cases short : p = len → target.memberCount < 0x8000000000000000
          · obtain ⟨value, done⟩ := exists_run_eq_ok_of_accepts right accepted short
            rw [done] at failed
            cases failed
          · obtain ⟨rfl, long⟩ := Classical.not_imp.mp short
            obtain rfl : others = [] := List.length_eq_zero_iff.mp (Nat.succ.inj right)
            rw [run_len_of_le accepted (Nat.le_of_not_lt long)] at failed
            cases failed
            exact .length target [] rfl right rfl (Nat.le_of_not_lt long)
        · rw [run_of_not_accepts right accepted] at failed
          cases failed
          exact .kind target others rfl right accepted
  · rw [run_of_length_ne right] at failed
    cases failed
    exact .arity right

end Primitive

end ScriptValues
