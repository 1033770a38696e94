import ScriptValues.Value.Basic

/-!
# What the primitives do

A primitive looks at the number of its arguments first, then at the kind of the first argument, and
only then at what the argument holds. The members of a string are its bytes, each as a string of
its own. A member of an empty sequence, and the rest of one, is null and not a fault.
-/

namespace ScriptValues.Primitive

def count (kind : Tag) (members : Nat) : Except Fault Value :=
  if members < 0x8000000000000000 then .ok (.integer (Int64.ofNat members))
  else .error (.custom (kind.name ++ " too large"))

def lenOf : Value → Except Fault Value
  | .array items => count .array items.length
  | .string bytes => count .string bytes.length
  | value => .error (.unsupportedArgument len.name value.tag)

def firstOf : Value → Except Fault Value
  | .array [] | .string [] => .ok .null
  | .array (item :: _) => .ok item
  | .string (byte :: _) => .ok (.string [byte])
  | value => .error (.expectedSequence first.name value.tag)

def lastOf : Value → Except Fault Value
  | .array items => .ok (items.getLast?.getD .null)
  | .string bytes => .ok ((bytes.getLast?.map fun byte => .string [byte]).getD .null)
  | value => .error (.expectedSequence last.name value.tag)

def restOf : Value → Except Fault Value
  | .array [] | .string [] => .ok .null
  | .array (_ :: items) => .ok (.array items)
  | .string (_ :: bytes) => .ok (.string bytes)
  | value => .error (.expectedSequence rest.name value.tag)

def pushOnto (item : Value) : Value → Except Fault Value
  | .array items => .ok (.array (items ++ [item]))
  | value => .error (.expectedArray push.name value.tag)

def run : Primitive → List Value → Except Fault Value
  | len, [value] => lenOf value
  | first, [value] => firstOf value
  | last, [value] => lastOf value
  | rest, [value] => restOf value
  | push, [value, item] => pushOnto item value
  | p, args => .error (.wrongArity args.length p.arity)

theorem run_of_length_ne {p : Primitive} {args : List Value} (wrong : args.length ≠ p.arity) :
    p.run args = .error (.wrongArity args.length p.arity) := by
  match p, args with
  | push, [] | push, [_] | push, _ :: _ :: _ :: _ => rfl
  | len, [] | first, [] | last, [] | rest, [] => rfl
  | len, _ :: _ :: _ | first, _ :: _ :: _ | last, _ :: _ :: _ | rest, _ :: _ :: _ => rfl
  | len, [_] | first, [_] | last, [_] | rest, [_] | push, [_, _] => exact absurd rfl wrong

def reply (p : Primitive) (args : List Value) : Value :=
  .ofOutcome (p.run args)

end ScriptValues.Primitive
