import ScriptValues.Tag
import ScriptValues.Text.Quoted

namespace ScriptValues

inductive Cause where
  | wrongArity (got want : Nat)
  | unsupportedArgument (function : String) (got : Tag)
  | expectedSequence (function : String) (got : Tag)
  | expectedArray (function : String) (got : Tag)
  | unusableKey (got : Tag)
  | custom (message : String)
  deriving DecidableEq, Repr

namespace Cause

def isCustom : Cause → Bool
  | custom _ => true
  | _ => false

def text : Cause → Text
  | wrongArity got want =>
    "wrong number of arguments. got=".toList ++ Text.natural got ++ ", want=".toList ++
      Text.natural want
  | unsupportedArgument function got =>
    "argument to `".toList ++ function.toList ++ "` not supported, got ".toList ++ got.name.toList
  | expectedSequence function got =>
    "argument to `".toList ++ function.toList ++ "` not supported, got ".toList ++
      got.name.toList ++ ", must be ARRAY or STRING".toList
  | expectedArray function got =>
    "argument to `".toList ++ function.toList ++ "` must be ARRAY, got ".toList ++ got.name.toList
  | unusableKey got => "unusable as hash key: ".toList ++ got.name.toList
  | custom message => message.toList

def debug : Cause → Text
  | wrongArity got want =>
    Text.record "WrongArgumentCount" [("got", Text.natural got), ("want", Text.natural want)]
  | unsupportedArgument function got => misplaced "UnsupportedArgument" function got
  | expectedSequence function got => misplaced "ExpectedSequence" function got
  | expectedArray function got => misplaced "ExpectedArray" function got
  | unusableKey got => Text.record "UnusableAsHashKey" [("got", got.debug)]
  | custom message => Text.record "Custom" [("message", Text.quote message.toList)]
where
  misplaced (head function : String) (got : Tag) : Text :=
    Text.record head [("builtin", Text.quote function.toList), ("got", got.debug)]

end Cause

structure Fault where
  cause : Cause
  message : String
  deriving DecidableEq, Repr

namespace Fault

def ofCause (cause : Cause) : Fault where
  cause := cause
  message := String.ofList cause.text

instance : Coe Cause Fault := ⟨ofCause⟩

def custom (message : String) : Fault where
  cause := .custom message
  message := message

def wrongArity (got want : Nat) : Fault :=
  ofCause (.wrongArity got want)

def unsupportedArgument (function : String) (got : Tag) : Fault :=
  ofCause (.unsupportedArgument function got)

def expectedSequence (function : String) (got : Tag) : Fault :=
  ofCause (.expectedSequence function got)

def expectedArray (function : String) (got : Tag) : Fault :=
  ofCause (.expectedArray function got)

def unusableKey (got : Tag) : Fault :=
  ofCause (.unusableKey got)

def unknownName (name : String) : Fault :=
  custom ("identifier not found: " ++ name)

def notFunction (got : Tag) : Fault :=
  custom ("not a function: " ++ got.name)

def text (fault : Fault) : Text :=
  fault.message.toList

def debug (fault : Fault) : Text :=
  Text.record "ErrorValue"
    [("kind", fault.cause.debug), ("message", Text.quote fault.message.toList)]

end Fault

end ScriptValues
