import Mathlib.Logic.Function.Iterate
import ScriptValues.Call
import ScriptValues.Proofs.Primitive.Failure
import ScriptValues.Value.Members

namespace ScriptValues.Primitive
open Value

variable {host : Host} {x : Value}

theorem lenOf_of_sequence (sequence : x.IsSequence)
    (short : x.members.length < 0x8000000000000000) :
    lenOf x = .ok (.integer (Int64.ofNat x.members.length)) := by
  cases sequence with
  | array items => exact count_of_lt short .array
  | string bytes =>
      rw [members, length_letters] at short ⊢
      exact count_of_lt short .string

theorem firstOf_of_sequence (sequence : x.IsSequence) :
    firstOf x = .ok (x.members.head?.getD .null) := by
  cases sequence with
  | array items => cases items <;> rfl
  | string bytes => cases bytes <;> rfl

theorem lastOf_of_sequence (sequence : x.IsSequence) :
    lastOf x = .ok (x.members.getLast?.getD .null) := by
  cases sequence with
  | array items => rfl
  | string bytes => simp [lastOf, members, letters, List.getLast?_map]

theorem restOf_of_members_eq_nil (sequence : x.IsSequence) (used : x.members = []) :
    restOf x = .ok .null := by
  cases sequence with
  | array items =>
      obtain rfl : items = [] := used
      rfl
  | string bytes =>
      obtain rfl : bytes = [] := List.map_eq_nil_iff.mp used
      rfl

theorem restOf_of_members_ne_nil (sequence : x.IsSequence) (left : x.members ≠ []) :
    restOf x = .ok (x.dropMembers 1) := by
  cases sequence with
  | array items =>
      cases items with
      | nil => exact absurd rfl left
      | cons item items => rfl
  | string bytes =>
      cases bytes with
      | nil => exact absurd rfl left
      | cons byte bytes => rfl

theorem reply_rest_of_members_eq_nil (sequence : x.IsSequence) (used : x.members = []) :
    rest.native.reply host [x] = .null :=
  congrArg ofOutcome (restOf_of_members_eq_nil sequence used)

theorem reply_rest_of_members_ne_nil (sequence : x.IsSequence) (left : x.members ≠ []) :
    rest.native.reply host [x] = x.dropMembers 1 :=
  congrArg ofOutcome (restOf_of_members_ne_nil sequence left)

theorem iterate_rest (sequence : x.IsSequence) {k : Nat} (within : k ≤ x.members.length) :
    (fun x => rest.native.reply host [x])^[k] x = x.dropMembers k := by
  induction k with
  | zero => exact x.dropMembers_zero.symm
  | succ k ih =>
      have left : (x.dropMembers k).members ≠ [] := by
        rw [members_dropMembers]
        exact List.ne_nil_of_length_pos (by simpa using Nat.sub_pos_of_lt within)
      rw [Function.iterate_succ_apply', ih (Nat.le_of_succ_le within),
        reply_rest_of_members_ne_nil (sequence.dropMembers k) left, dropMembers_dropMembers]

theorem iterate_rest_of_lt (host : Host) (sequence : x.IsSequence) {k : Nat}
    (past : x.members.length < k) :
    (fun x => rest.native.reply host [x])^[k] x =
      (fun x => rest.native.reply host [x])^[k - (x.members.length + 1)] .null := by
  have used : (x.dropMembers x.members.length).members = [] := by
    rw [members_dropMembers, List.drop_length]
  have null : (fun x => rest.native.reply host [x])^[x.members.length + 1] x = .null := by
    rw [Function.iterate_succ_apply', iterate_rest sequence (Nat.le_refl _),
      reply_rest_of_members_eq_nil (sequence.dropMembers _) used]
  obtain ⟨more, rfl⟩ := Nat.exists_eq_add_of_le' past
  rw [Nat.add_sub_cancel, Function.iterate_add_apply, null]

theorem iterate_rest_null (host : Host) (k : Nat) :
    ∃ fault, (fun x => rest.native.reply host [x])^[k + 1] .null = .error fault := by
  induction k with
  | zero => exact ⟨_, rfl⟩
  | succ k ih =>
      obtain ⟨fault, failed⟩ := ih
      rw [Function.iterate_succ_apply', failed]
      exact ⟨_, rfl⟩

theorem iterate_rest_spent (host : Host) (sequence : x.IsSequence) {k : Nat}
    (past : x.members.length < k) :
    (k = x.members.length + 1 ∧ (fun x => rest.native.reply host [x])^[k] x = .null) ∨
      (x.members.length + 1 < k ∧
        ∃ fault, (fun x => rest.native.reply host [x])^[k] x = .error fault) := by
  rw [iterate_rest_of_lt host sequence past]
  obtain ⟨more, rfl⟩ := Nat.exists_eq_add_of_lt past
  rw [Nat.add_right_comm, Nat.add_sub_cancel_left]
  cases more with
  | zero => exact .inl ⟨rfl, rfl⟩
  | succ more => exact .inr ⟨by omega, iterate_rest_null host more⟩

end ScriptValues.Primitive
