import ScriptValues.Catalogue
import ScriptValues.Primitive.Run

/-!
# Calls

A call hands arguments to a function value. `Native.invoke` tells a result from a fault;
`Native.reply` is the one value that the program sees, in which a fault has become an error value.
`Native.records` is what a call leaves in the diagnostics: that it was entered, and the fault if
there was one. An error value that a function returns as its result is no fault there.
-/

namespace ScriptValues

abbrev Host := Nat → List Value → Except Fault Value

inductive Record where
  | entered (function : String) (arguments : Nat)
  | failed (function : String) (message : String)
  deriving DecidableEq, Repr

inductive Level where
  | debug
  | trace
  deriving DecidableEq, Repr

namespace Record

def function : Record → String
  | entered function _ => function
  | failed function _ => function

def level : Record → Level
  | entered .. => .trace
  | failed .. => .debug

end Record

namespace Native

def invoke (host : Host) (f : Native) (args : List Value) : Except Fault Value :=
  match f.code with
  | .primitive p => p.run args
  | .host index => host index args

def reply (host : Host) (f : Native) (args : List Value) : Value :=
  .ofOutcome (f.invoke host args)

def records (host : Host) (f : Native) (args : List Value) : List Record :=
  .entered f.name args.length ::
    match f.invoke host args with
    | .ok _ => []
    | .error fault => [.failed f.name fault.message]

end Native

inductive Callee (α : Type) where
  | named (name : String)
  | held (source : α)
  deriving Repr

def Callee.resolve : Callee Value → Except Fault Native
  | named name =>
    match Catalogue.find? name with
    | some f => .ok f
    | none => .error (.unknownName name)
  | held (.builtin f) => .ok f
  | held value => .error (.notFunction value.tag)

end ScriptValues
