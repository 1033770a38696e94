import ScriptValues.Primitive.Run
import ScriptValues.Proofs.Value.Observation

namespace ScriptValues.Primitive
open Value

theorem lenOf_congr {a b : Value} (equal : (a == b) = true) : SameOutcome (lenOf a) (lenOf b) := by
  induction equal using beq_induction with
  | array items others equal elements =>
      rw [lenOf, lenOf, elements.length_eq]
      exact .refl _
  | _ => exact .refl _

theorem firstOf_congr {a b : Value} (equal : (a == b) = true) :
    SameOutcome (firstOf a) (firstOf b) := by
  induction equal using beq_induction with
  | array items others equal elements =>
      cases array_beq_array_iff.mp equal with
      | nil => exact .refl _
      | cons head _ => exact .ok head
  | _ => exact .refl _

theorem getLast?_getD_congr {items others : List Value} {a b : Value}
    (elements : List.Forall₂ Equal items others) (equal : (a == b) = true) :
    (items.getLast?.getD a == others.getLast?.getD b) = true := by
  induction elements generalizing a b with
  | nil => exact equal
  | cons head _ ih =>
      rw [List.getLast?_cons, List.getLast?_cons]
      exact ih head

theorem lastOf_congr {a b : Value} (equal : (a == b) = true) :
    SameOutcome (lastOf a) (lastOf b) := by
  induction equal using beq_induction with
  | array items others equal elements =>
      exact .ok (getLast?_getD_congr (array_beq_array_iff.mp equal) BEq.rfl)
  | _ => exact .refl _

theorem restOf_congr {a b : Value} (equal : (a == b) = true) :
    SameOutcome (restOf a) (restOf b) := by
  induction equal using beq_induction with
  | array items others equal elements =>
      cases array_beq_array_iff.mp equal with
      | nil => exact .refl _
      | cons _ tail => exact .ok (array_beq_array_iff.mpr tail)
  | _ => exact .refl _

theorem pushOnto_congr {item other a b : Value} (pushed : (item == other) = true)
    (equal : (a == b) = true) : SameOutcome (pushOnto item a) (pushOnto other b) := by
  induction equal using beq_induction with
  | array items others equal elements =>
      have appended := List.rel_append (array_beq_array_iff.mp equal) (.cons pushed .nil)
      exact .ok (array_beq_array_iff.mpr appended)
  | _ => exact .refl _

theorem run_congr (p : Primitive) {args others : List Value}
    (equal : List.Forall₂ Equal args others) :
    SameOutcome (p.run args) (p.run others) := by
  by_cases right : args.length = p.arity
  · match p, equal with
    | len, .cons value .nil => exact lenOf_congr value
    | first, .cons value .nil => exact firstOf_congr value
    | last, .cons value .nil => exact lastOf_congr value
    | rest, .cons value .nil => exact restOf_congr value
    | push, .cons value (.cons item .nil) => exact pushOnto_congr item value
  -- A wrong number of arguments is found before any of them is looked at.
  · have lengths := equal.length_eq
    rw [run_of_length_ne right, run_of_length_ne (lengths ▸ right), lengths]
    exact .refl _

end ScriptValues.Primitive
