import ScriptValues.Proofs.Key.Separation

namespace ScriptValues

inductive SameOutcome : Except Fault Value → Except Fault Value → Prop
  | ok {a b : Value} (equal : (a == b) = true) : SameOutcome (.ok a) (.ok b)
  | error (fault : Fault) : SameOutcome (.error fault) (.error fault)

namespace SameOutcome

theorem refl (outcome : Except Fault Value) : SameOutcome outcome outcome := by
  cases outcome with
  | ok value => exact .ok BEq.rfl
  | error fault => exact .error fault

theorem ofOutcome_beq {left right : Except Fault Value} (same : SameOutcome left right) :
    (Value.ofOutcome left == Value.ofOutcome right) = true := by
  cases same with
  | ok equal => exact equal
  | error fault => exact BEq.rfl

end SameOutcome

namespace Value

theorem list_beq_iff_forall₂ {items others : List Value} :
    (items == others) = true ↔ List.Forall₂ Equal items others := by
  induction items generalizing others with
  | nil => cases others <;> simp
  | cons item items ih => cases others <;> simp [ih]

theorem inspectAll_eq {items others : List Value}
    (same : List.Forall₂ (fun a b => ∃ _ : (a == b) = true, a.inspect = b.inspect) items others) :
    inspectAll items = inspectAll others := by
  induction same with
  | nil => rfl
  | cons head _ ih =>
      obtain ⟨-, head⟩ := head
      rw [inspectAll, inspectAll, head, ih]

theorem inspect_eq_of_beq {a b : Value} (equal : (a == b) = true) : a.inspect = b.inspect := by
  induction equal using beq_induction with
  | array items others equal elements => rw [inspect, inspect, inspectAll_eq elements]
  | builtin f g name equal => rw [inspect, inspect]
  | _ => rfl

theorem debugAllWith_eq {numbered : Char → Bool} {items others : List Value}
    (same : List.Forall₂
      (fun a b => ∃ _ : (a == b) = true, a.debugWith numbered = b.debugWith numbered)
      items others) :
    debugAllWith numbered items = debugAllWith numbered others := by
  induction same with
  | nil => rfl
  | cons head _ ih =>
      obtain ⟨-, head⟩ := head
      rw [debugAllWith, debugAllWith, head, ih]

theorem debugWith_eq_of_beq (numbered : Char → Bool) {a b : Value} (equal : (a == b) = true) :
    a.debugWith numbered = b.debugWith numbered := by
  induction equal using beq_induction with
  | array items others equal elements => rw [debugWith, debugWith, debugAllWith_eq elements]
  | builtin f g name equal => rw [debugWith, debugWith, name]
  | _ => rfl

theorem integer?_eq_of_beq {a b : Value} (equal : (a == b) = true) : a.integer? = b.integer? := by
  induction equal using beq_induction with
  | _ => rfl

theorem boolean?_eq_of_beq {a b : Value} (equal : (a == b) = true) : a.boolean? = b.boolean? := by
  induction equal using beq_induction with
  | _ => rfl

theorem bytes?_eq_of_beq {a b : Value} (equal : (a == b) = true) : a.bytes? = b.bytes? := by
  induction equal using beq_induction with
  | _ => rfl

theorem fault?_eq_of_beq {a b : Value} (equal : (a == b) = true) : a.fault? = b.fault? := by
  induction equal using beq_induction with
  | _ => rfl

theorem items?_beq_of_beq {a b : Value} (equal : (a == b) = true) :
    (a.items? == b.items?) = true := by
  induction equal using beq_induction with
  | array items others equal elements =>
      exact list_beq_iff_forall₂.mpr (array_beq_array_iff.mp equal)
  | _ => rfl

theorem outcome_of_beq {a b : Value} (equal : (a == b) = true) :
    SameOutcome a.outcome b.outcome := by
  induction equal using beq_induction with
  | error fault => exact .error fault
  | integer n equal => exact .ok equal
  | boolean b equal => exact .ok equal
  | null equal => exact .ok equal
  | string bytes equal => exact .ok equal
  | array items others equal elements => exact .ok equal
  | builtin f g name equal => exact .ok equal

theorem mapKey_eq_of_beq {a b : Value} (equal : (a == b) = true) : a.mapKey = b.mapKey := by
  rw [mapKey, mapKey, key?_eq_of_beq equal, tag_eq_of_beq equal]

/-- Two values answer every question alike: with the same text, key or tag, with equal parts, and
with the same outcome. -/
structure Indistinguishable (a b : Value) : Prop where
  equal : (a == b) = true
  tag : a.tag = b.tag
  inspect : a.inspect = b.inspect
  debug : a.debug = b.debug
  mapKey : a.mapKey = b.mapKey
  integer : a.integer? = b.integer?
  boolean : a.boolean? = b.boolean?
  bytes : a.bytes? = b.bytes?
  items : (a.items? == b.items?) = true
  fault : a.fault? = b.fault?
  outcome : SameOutcome a.outcome b.outcome

theorem indistinguishable_of_beq {a b : Value} (equal : (a == b) = true) :
    a.Indistinguishable b where
  equal := equal
  tag := tag_eq_of_beq equal
  inspect := inspect_eq_of_beq equal
  debug := debugWith_eq_of_beq _ equal
  mapKey := mapKey_eq_of_beq equal
  integer := integer?_eq_of_beq equal
  boolean := boolean?_eq_of_beq equal
  bytes := bytes?_eq_of_beq equal
  items := items?_beq_of_beq equal
  fault := fault?_eq_of_beq equal
  outcome := outcome_of_beq equal

end Value

end ScriptValues
