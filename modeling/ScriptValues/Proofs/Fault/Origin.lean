import ScriptValues.Call
import ScriptValues.Key.Basic
import ScriptValues.Proofs.Fault.Message
import ScriptValues.Proofs.Primitive.Failure

namespace ScriptValues

namespace Value

inductive Holds (fault : Fault) : Value → Prop
  | error : Holds fault (error fault)
  | array {items : List Value} {item : Value} (member : item ∈ items) (inside : Holds fault item) :
      Holds fault (array items)

end Value

namespace Fault

/-- The faults that can be had: those that are made from a message or a cause, those with which a
function of the catalogue or a key fails, and those in what such a function replies, if all faults
in its arguments could be had. -/
inductive Obtainable : Fault → Prop
  | custom (message : String) : Obtainable (custom message)
  | ofCause (cause : Cause) : Obtainable (ofCause cause)
  | coerced (cause : Cause) : Obtainable ↑cause
  | wrongArity (got want : Nat) : Obtainable (wrongArity got want)
  | unsupportedArgument (function : String) (got : Tag) : Obtainable (unsupportedArgument function got)
  | expectedSequence (function : String) (got : Tag) : Obtainable (expectedSequence function got)
  | expectedArray (function : String) (got : Tag) : Obtainable (expectedArray function got)
  | unusableKey (got : Tag) : Obtainable (unusableKey got)
  | invoked {host : Host} {name : String} {f : Native} {args : List Value} {fault : Fault}
      (found : Catalogue.find? name = some f) (failed : f.invoke host args = .error fault) :
      Obtainable fault
  | replied {host : Host} {name : String} {f : Native} {args : List Value} {fault : Fault}
      (found : Catalogue.find? name = some f)
      (given : ∀ arg ∈ args, ∀ inner, arg.Holds inner → Obtainable inner)
      (inside : (f.reply host args).Holds fault) : Obtainable fault
  | keyed {value : Value} {fault : Fault} (failed : value.mapKey = .error fault) : Obtainable fault

def Rendered (fault : Fault) : Prop :=
  fault.message = String.ofList fault.cause.text

theorem rendered_ofCause (cause : Cause) : (ofCause cause).Rendered := rfl

theorem custom_eq_ofCause (message : String) : custom message = ofCause (.custom message) := by
  rw [custom, ofCause]
  congr
  exact String.ofList_toList.symm

theorem rendered_custom (message : String) : (custom message).Rendered := by
  rw [custom_eq_ofCause]
  exact rendered_ofCause _

theorem eq_of_cause_eq {left right : Fault} (rendered : left.Rendered) (renderedToo : right.Rendered)
    (causes : left.cause = right.cause) : left = right := by
  have messages : left.message = right.message := by
    rw [rendered, renderedToo, causes]
  cases left
  cases right
  cases causes
  cases messages
  rfl

end Fault

namespace Primitive

theorem rendered_objection (name : String) (tag : Tag) : (objection name tag).Rendered := by
  unfold objection
  split
  · exact Fault.rendered_ofCause _
  · split
    · exact Fault.rendered_ofCause _
    · exact Fault.rendered_ofCause _

theorem rendered_of_run_eq_error {p : Primitive} {args : List Value} {fault : Fault}
    (failed : p.run args = .error fault) : fault.Rendered := by
  cases failure_of_run_eq_error failed with
  | arity wrong => exact Fault.rendered_ofCause _
  | kind target others given right refused => exact rendered_objection _ _
  | length target others given right measured long => exact Fault.rendered_custom _

theorem not_holds_of_lenOf {a value : Value} {fault : Fault} (done : lenOf a = .ok value) :
    ¬value.Holds fault := by
  have counted (kind : Tag) (members : Nat) (done : count kind members = .ok value) :
      ¬value.Holds fault := by
    unfold count at done
    split at done <;> cases done
    exact nofun
  cases a with
  | array items => exact counted _ _ done
  | string bytes => exact counted _ _ done
  | _ => cases done

theorem holds_of_firstOf {a value : Value} {fault : Fault} (done : firstOf a = .ok value)
    (inside : value.Holds fault) : a.Holds fault := by
  match a, done with
  | .array [], rfl | .string [], rfl | .string (_ :: _), rfl => cases inside
  | .array (_ :: _), rfl => exact .array List.mem_cons_self inside

theorem holds_of_lastOf {a value : Value} {fault : Fault} (done : lastOf a = .ok value)
    (inside : value.Holds fault) : a.Holds fault := by
  match a, done with
  | .array items, rfl =>
      cases ending : items.getLast? with
      | none =>
          rw [ending] at inside
          cases inside
      | some item =>
          rw [ending] at inside
          exact .array (List.mem_of_getLast? ending) inside
  | .string bytes, rfl => cases ending : bytes.getLast? <;> rw [ending] at inside <;> cases inside

theorem holds_of_restOf {a value : Value} {fault : Fault} (done : restOf a = .ok value)
    (inside : value.Holds fault) : a.Holds fault := by
  match a, done with
  | .array [], rfl | .string [], rfl | .string (_ :: _), rfl => cases inside
  | .array (_ :: _), rfl =>
      cases inside with
      | array member inside => exact .array (List.mem_cons_of_mem _ member) inside

theorem holds_of_pushOnto {a item value : Value} {fault : Fault} (done : pushOnto item a = .ok value)
    (inside : value.Holds fault) : a.Holds fault ∨ item.Holds fault := by
  match a, done with
  | .array items, rfl =>
      cases inside with
      | array member inside =>
          rcases List.mem_append.mp member with old | new
          · exact .inl (.array old inside)
          · exact .inr (List.mem_singleton.mp new ▸ inside)

theorem holds_of_run_eq_ok {p : Primitive} {args : List Value} {value : Value} {fault : Fault}
    (done : p.run args = .ok value) (inside : value.Holds fault) :
    ∃ arg ∈ args, arg.Holds fault := by
  by_cases right : args.length = p.arity
  · match p, args, right with
    | len, [a], _ => exact absurd inside (not_holds_of_lenOf done)
    | first, [a], _ => exact ⟨a, List.mem_cons_self, holds_of_firstOf done inside⟩
    | last, [a], _ => exact ⟨a, List.mem_cons_self, holds_of_lastOf done inside⟩
    | rest, [a], _ => exact ⟨a, List.mem_cons_self, holds_of_restOf done inside⟩
    | push, [a, item], _ =>
        rcases holds_of_pushOnto done inside with old | new
        · exact ⟨a, List.mem_cons_self, old⟩
        · exact ⟨item, List.mem_cons_of_mem _ List.mem_cons_self, new⟩
  · rw [run_of_length_ne right] at done
    cases done

theorem run_eq_error_or_holds_of_reply {p : Primitive} {args : List Value} {fault : Fault}
    (inside : (p.reply args).Holds fault) :
    p.run args = .error fault ∨ ∃ arg ∈ args, arg.Holds fault := by
  unfold reply at inside
  cases done : p.run args with
  | ok value =>
      rw [done] at inside
      exact .inr (holds_of_run_eq_ok done inside)
  | error raised =>
      rw [done] at inside
      cases inside
      exact .inl rfl

end Primitive

namespace Fault

theorem rendered_of_mapKey {value : Value} {fault : Fault} (failed : value.mapKey = .error fault) :
    fault.Rendered := by
  unfold Value.mapKey at failed
  split at failed <;> cases failed
  exact rendered_ofCause _

theorem Obtainable.rendered {fault : Fault} (obtainable : Obtainable fault) : fault.Rendered := by
  induction obtainable with
  | custom message => exact rendered_custom message
  | invoked found failed =>
      obtain ⟨p, rfl⟩ := Catalogue.primitive_of_find? found
      exact Primitive.rendered_of_run_eq_error failed
  | replied found _ inside ih =>
      obtain ⟨p, rfl⟩ := Catalogue.primitive_of_find? found
      rcases Primitive.run_eq_error_or_holds_of_reply inside with failed | ⟨arg, member, held⟩
      · exact Primitive.rendered_of_run_eq_error failed
      · exact ih arg member _ held
  | keyed failed => exact rendered_of_mapKey failed
  | _ => exact rendered_ofCause _

theorem text_eq_of_rendered {fault : Fault} (rendered : fault.Rendered) :
    fault.text = fault.cause.text := by
  rw [text, rendered, String.toList_ofList]

theorem cause_eq_custom {fault : Fault} (rendered : fault.Rendered)
    (own : fault.cause.isCustom = true) : fault.cause = .custom fault.message := by
  cases kind : fault.cause with
  | custom message =>
      rw [rendered, kind]
      exact congrArg Cause.custom String.ofList_toList.symm
  | _ => rw [kind] at own; cases own

/-- Each fault that can be had shows the message of its cause. Two of them are equal exactly when
their causes are, and causes that are not custom ones have different messages. A custom fault can
show the message of any other, but does not equal it. -/
theorem messages_identify_causes :
    (∀ fault, Obtainable fault →
      fault.message.toList = fault.cause.text ∧ fault.text = fault.cause.text) ∧
    (∀ left right, Obtainable left → Obtainable right →
      ((left == right) = true ↔ left.cause = right.cause)) ∧
    (∀ left right : Cause, left.isCustom = false → right.isCustom = false →
      left.text = right.text → left = right) ∧
    (∀ cause : Cause, ∃ fault, Obtainable fault ∧ fault.cause.isCustom = true ∧
      fault.text = cause.text) ∧
    (∀ left right : Fault, left.cause.isCustom = true → right.cause.isCustom = false →
      (left == right) = false) ∧
    (∀ left right, Obtainable left → Obtainable right → left.cause.isCustom = true →
      right.cause.isCustom = true → ((left == right) = true ↔ left.message = right.message)) := by
  refine ⟨fun fault made => ?shown, fun left right made madeToo => ?causes,
    fun left right own ownToo => Cause.text_injective own ownToo, fun cause => ?borrowed,
    fun left right own other => ?kinds, fun left right made madeToo own ownToo => ?customs⟩
  case shown =>
    have shown := text_eq_of_rendered made.rendered
    exact ⟨shown, shown⟩
  case causes =>
    rw [beq_iff_eq]
    exact ⟨congrArg cause, eq_of_cause_eq made.rendered madeToo.rendered⟩
  case borrowed => exact ⟨_, .custom (String.ofList cause.text), rfl, String.toList_ofList⟩
  case kinds =>
    refine beq_eq_false_iff_ne.mpr ?_
    rintro rfl
    exact absurd (own.symm.trans other) (by decide)
  case customs =>
    rw [beq_iff_eq]
    refine ⟨congrArg message, fun messages => ?_⟩
    refine eq_of_cause_eq made.rendered madeToo.rendered ?_
    rw [cause_eq_custom made.rendered own, cause_eq_custom madeToo.rendered ownToo, messages]

/-- A fault of a call, a custom one with the same message that a call takes out of an array, and
two names that hold the text of another message. -/
theorem messages_identify_causes_at_borrowed_text :
    let refused := expectedSequence "last" .null
    let kept := custom refused.message
    let left := Cause.unsupportedArgument ("f` must be ARRAY," ++ " got NULL") .null
    let right := Cause.unsupportedArgument "f` must be ARRAY, got NULL" .null
    (Obtainable refused ∧ Obtainable kept) ∧
      (refused.message.toList = refused.cause.text ∧ refused.text = refused.cause.text) ∧
      ((refused == kept) = true ↔ refused.cause = kept.cause) ∧
      (left.isCustom = false ∧ right.isCustom = false ∧ left.text = right.text ∧ left = right) ∧
      (kept.cause.isCustom = true ∧ refused.cause.isCustom = false ∧ (kept == refused) = false) ∧
      ((kept == kept) = true ↔ kept.message = kept.message) := by
  intro refused kept left right
  let host : Host := fun _ _ => .ok .null
  have last : Catalogue.find? "last" = some Primitive.last.native := rfl
  have first : Catalogue.find? "first" = some Primitive.first.native := rfl
  have failed : Primitive.last.native.invoke host [.null] = .error refused := rfl
  have taken : (Primitive.first.native.reply host [.array [.error kept]]).Holds kept := .error
  have obtainable : Obtainable refused := .invoked last failed
  have obtainableToo : Obtainable kept := by
    refine .replied first (fun arg member inner held => ?_) taken
    obtain rfl := List.mem_singleton.mp member
    cases held with
    | array member held =>
        obtain rfl := List.mem_singleton.mp member
        cases held
        exact .custom _
  have texts : left.text = right.text := by decide
  obtain ⟨shown, causes, injective, -, kinds, customs⟩ := messages_identify_causes
  exact ⟨⟨obtainable, obtainableToo⟩, shown refused obtainable, causes _ _ obtainable obtainableToo,
    ⟨rfl, rfl, texts, injective left right rfl rfl texts⟩, ⟨rfl, rfl, kinds kept refused rfl rfl⟩,
    customs kept kept obtainableToo obtainableToo rfl rfl⟩

end Fault

end ScriptValues
