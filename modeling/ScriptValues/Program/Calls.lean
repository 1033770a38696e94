import ScriptValues.Program
import ScriptValues.Value.Structure

namespace ScriptValues

def Registers.values (registers : Registers) : List Value :=
  registers.entries.map Prod.snd

inductive Template.Plain (depth : Nat) : Template → Prop
  | value (v : Value) (shallow : v.depth ≤ depth) : Plain depth (.value v)
  | register (name : String) : Plain depth (.register name)

namespace Step

inductive Calls (depth : Nat) : Step → Prop
  | intro (p : Primitive) (args : List Template) (target : Option String)
      (plain : ∀ arg ∈ args, arg.Plain depth) : Calls depth ⟨.call (.named p.name) args, target⟩

def isPush : Step → Bool
  | ⟨.call (.named name) _, _⟩ => name == Primitive.push.name
  | _ => false

def pushItself (name : String) : Step where
  action := .call (.named Primitive.push.name) [.register name, .register name]
  target := some name

end Step

namespace Program

def pushes (program : Program) : Nat :=
  program.countP Step.isPush

def values (inputs : Registers) (snapshots : List Snapshot) : List Value :=
  inputs.values ++ snapshots.map Snapshot.value

end Program

end ScriptValues
