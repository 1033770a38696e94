import ScriptValues.Assoc
import ScriptValues.Call

/-!
# Programs with registers

A program is a list of steps. Each step makes one value, from literals and from the values that
earlier steps stored in registers, and may store it in turn. An error value is a value like any
other, so every step is carried out; a step that calls what is no function makes an error value.
The only thing that can stop a program is a register that was never stored.
-/

namespace ScriptValues

abbrev Registers := Assoc String Value

inductive Template where
  | value (value : Value)
  | register (name : String)
  | array (items : List Template)
  deriving Repr

namespace Template

mutual

def fill (registers : Registers) : Template → Option Value
  | value v => some v
  | register name => registers.get? name
  | array items => (fillAll registers items).map Value.array

def fillAll (registers : Registers) : List Template → Option (List Value)
  | [] => some []
  | item :: items => do
    let value ← fill registers item
    let values ← fillAll registers items
    return value :: values

end

end Template

def Callee.fill (registers : Registers) : Callee Template → Option (Callee Value)
  | named name => some (named name)
  | held source => (source.fill registers).map held

inductive Action where
  | give (source : Template)
  | call (callee : Callee Template) (args : List Template)
  | compare (left right : Template)
  deriving Repr

def Action.perform (host : Host) (registers : Registers) : Action → Option Value
  | give source => source.fill registers
  | call callee args => do
    let callee ← callee.fill registers
    let args ← Template.fillAll registers args
    return match callee.resolve with
      | .ok f => f.reply host args
      | .error fault => .error fault
  | compare left right => do
    let left ← left.fill registers
    let right ← right.fill registers
    return .boolean (left == right)

theorem Action.perform_named_of_find? {name : String} {f : Native}
    (found : Catalogue.find? name = some f) (host : Host) (registers : Registers)
    (args : List Template) :
    (Action.call (.named name) args).perform host registers =
      (Template.fillAll registers args).map (f.reply host) := by
  simp only [perform, Callee.fill, Callee.resolve, Option.bind_eq_bind, Option.bind_some, found]
  cases Template.fillAll registers args <;> rfl

theorem Action.perform_named_of_find?_eq_none {name : String}
    (missing : Catalogue.find? name = none) (host : Host) (registers : Registers)
    (args : List Template) :
    (Action.call (.named name) args).perform host registers =
      (Template.fillAll registers args).map fun _ => .error (.unknownName name) := by
  simp only [perform, Callee.fill, Callee.resolve, Option.bind_eq_bind, Option.bind_some, missing]
  cases Template.fillAll registers args <;> rfl

structure Step where
  action : Action
  target : Option String
  deriving Repr

abbrev Program := List Step

structure Snapshot where
  value : Value
  registers : Registers
  deriving Repr

def Step.run (host : Host) (registers : Registers) (step : Step) : Option Snapshot := do
  let value ← step.action.perform host registers
  let registers :=
    match step.target with
    | some name => registers.put name value
    | none => registers
  return { value, registers }

def Program.run (host : Host) (registers : Registers) : Program → Option (List Snapshot)
  | [] => some []
  | step :: steps => do
    let snapshot ← step.run host registers
    let snapshots ← run host snapshot.registers steps
    return snapshot :: snapshots

end ScriptValues
