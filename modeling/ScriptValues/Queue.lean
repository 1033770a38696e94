import ScriptValues.Call

namespace ScriptValues.Queue

inductive Operation where
  | push (item : Value)
  | rest
  deriving Repr

namespace Operation

def apply (host : Host) (x : Value) : Operation → Value
  | push item => Primitive.push.native.reply host [x, item]
  | rest => Primitive.rest.native.reply host [x]

/-- The fault when the operation meets what it takes for no sequence. -/
def refusal (tag : Tag) : Operation → Fault
  | push _ => .expectedArray "push" tag
  | rest => .expectedSequence "rest" tag

end Operation

def run (host : Host) (x : Value) (operations : List Operation) : Value :=
  operations.foldl (Operation.apply host) x

def pushed : List Operation → List Value
  | [] => []
  | .push item :: operations => item :: pushed operations
  | .rest :: operations => pushed operations

def rests : List Operation → Nat
  | [] => 0
  | .push _ :: operations => rests operations
  | .rest :: operations => rests operations + 1

/-- The run never goes on with the rest of an empty array. -/
def Stocked (host : Host) (x : Value) (operations : List Operation) : Prop :=
  ∀ before after, operations = before ++ .rest :: after → run host x before ≠ .array []

end ScriptValues.Queue
