import ScriptValues.Call

/-!
# A loop that copies

A program that has only `len`, `first`, `rest` and `push` copies a sequence in a loop. It starts with
an empty array. As long as the sequence does not have length zero, it pushes the first member onto
the array, and goes on with the rest of the sequence. Nothing but the length ends the loop, which
may fail to end.
-/

namespace ScriptValues

structure Call where
  function : Native
  arguments : List Value
  deriving Repr

def Call.reply (host : Host) (call : Call) : Value :=
  call.function.reply host call.arguments

namespace CopyLoop

structure State where
  source : Value
  copy : Value
  deriving Repr

namespace State

def start (source : Value) : State where
  source := source
  copy := .array []

def measuring (state : State) : Call where
  function := Primitive.len.native
  arguments := [state.source]

def taking (state : State) : Call where
  function := Primitive.first.native
  arguments := [state.source]

def pushing (host : Host) (state : State) : Call where
  function := Primitive.push.native
  arguments := [state.copy, state.taking.reply host]

def resting (state : State) : Call where
  function := Primitive.rest.native
  arguments := [state.source]

def finished (host : Host) (state : State) : Bool :=
  state.measuring.reply host == .integer 0

def next (host : Host) (state : State) : State where
  source := state.resting.reply host
  copy := (state.pushing host).reply host

end State

/-- From the first state the loop ends in the last one, after so many turns and with these calls
made in this order. -/
inductive Ends (host : Host) : State → Nat → List Call → State → Prop
  | here {state : State} (finished : state.finished host = true) :
      Ends host state 0 [state.measuring] state
  | later {state final : State} {turns : Nat} {calls : List Call}
      (unfinished : state.finished host = false)
      (ends : Ends host (state.next host) turns calls final) :
      Ends host state (turns + 1)
        (state.measuring :: state.taking :: state.pushing host :: state.resting :: calls) final

end CopyLoop

end ScriptValues
