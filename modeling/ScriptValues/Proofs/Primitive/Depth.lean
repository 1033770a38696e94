import ScriptValues.Primitive.Run
import ScriptValues.Value.Structure

namespace ScriptValues.Primitive
open Value

theorem depth_lenOf (a : Value) : (ofOutcome (lenOf a)).depth = 0 := by
  have counted (kind : Tag) (members : Nat) : (ofOutcome (count kind members)).depth = 0 := by
    unfold count
    split <;> rfl
  cases a with
  | array items => exact counted _ _
  | string bytes => exact counted _ _
  | _ => rfl

theorem depth_firstOf_le (a : Value) : (ofOutcome (firstOf a)).depth ≤ a.depth := by
  match a with
  | array (item :: items) => exact Nat.le_of_lt (depth_lt_of_mem List.mem_cons_self)
  | array [] | string [] | string (_ :: _) => exact Nat.zero_le _
  | integer _ | boolean _ | null | builtin _ | error _ => exact Nat.zero_le _

theorem depth_lastOf_le (a : Value) : (ofOutcome (lastOf a)).depth ≤ a.depth := by
  cases a with
  | array items =>
      rw [lastOf, ofOutcome]
      cases ending : items.getLast? with
      | none => exact Nat.zero_le _
      | some item => exact Nat.le_of_lt (depth_lt_of_mem (List.mem_of_getLast? ending))
  | string bytes =>
      rw [lastOf, ofOutcome]
      cases bytes.getLast? <;> exact Nat.zero_le _
  | _ => exact Nat.zero_le _

theorem depth_restOf_le (a : Value) : (ofOutcome (restOf a)).depth ≤ a.depth := by
  match a with
  | array (item :: items) => exact Nat.succ_le_succ (Nat.le_max_right _ _)
  | array [] | string [] | string (_ :: _) => exact Nat.zero_le _
  | integer _ | boolean _ | null | builtin _ | error _ => exact Nat.zero_le _

theorem depth_array_concat (items : List Value) (item : Value) :
    (array (items ++ [item])).depth = max (array items).depth (item.depth + 1) := by
  rw [depth, depth, depthAll_append, depthAll, depthAll, Nat.max_zero, Nat.add_max_add_right]

theorem depth_pushOnto_le (item a : Value) :
    (ofOutcome (pushOnto item a)).depth ≤ max a.depth (item.depth + 1) := by
  cases a with
  | array items => exact Nat.le_of_eq (depth_array_concat items item)
  | _ => exact Nat.zero_le _

theorem depth_reply_le (p : Primitive) {args : List Value} {bound : Nat}
    (shallow : ∀ arg ∈ args, arg.depth ≤ bound) :
    (p.reply args).depth ≤ bound + if p = push then 1 else 0 := by
  by_cases right : args.length = p.arity
  · match p, args, right with
    | len, [a], _ => exact Nat.le_trans (Nat.le_of_eq (depth_lenOf a)) (Nat.zero_le _)
    | first, [a], _ => exact Nat.le_trans (depth_firstOf_le a) (shallow a List.mem_cons_self)
    | last, [a], _ => exact Nat.le_trans (depth_lastOf_le a) (shallow a List.mem_cons_self)
    | rest, [a], _ => exact Nat.le_trans (depth_restOf_le a) (shallow a List.mem_cons_self)
    | push, [a, item], _ =>
        have target : a.depth ≤ bound := shallow a List.mem_cons_self
        have pushed : item.depth ≤ bound := shallow item (List.mem_cons_of_mem _ List.mem_cons_self)
        refine Nat.le_trans (depth_pushOnto_le item a) (Nat.max_le.mpr ⟨?_, ?_⟩)
        · exact Nat.le_succ_of_le target
        · exact Nat.succ_le_succ pushed
  · rw [reply, run_of_length_ne right]
    exact Nat.zero_le _

end ScriptValues.Primitive
