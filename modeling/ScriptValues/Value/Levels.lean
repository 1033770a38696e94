import ScriptValues.Value.Rendering
import ScriptValues.Value.Structure

namespace ScriptValues.Value

def renderWithin (render : Value → Text) (join : List Text → Text) : Nat → Value → Option Text
  | 0, array _ => none
  | levels + 1, array items =>
      (items.mapM fun item => renderWithin render join levels item).map join
  | _, value => some (render value)

def inspectWithin : Nat → Value → Option Text :=
  renderWithin inspect Text.bracketed

def debugWithin : Nat → Value → Option Text :=
  renderWithin debug fun parts => Text.applied "Array" (Text.bracketed parts)

def sameAllBy (test : Value → Value → Option Bool) : List Value → List Value → Option Bool
  | [], [] => some true
  | value :: values, other :: others => do
    if ← test value other then sameAllBy test values others else return false
  | _, _ => some false

def sameWithin : Nat → Value → Value → Option Bool
  | 0, array _, array _ => none
  | levels + 1, array items, array others =>
      sameAllBy (fun item other => sameWithin levels item other) items others
  | _, value, other => some (value == other)

structure Fits (levels : Nat) (a : Value) : Prop where
  inspect : a.inspectWithin levels = some a.inspect
  debug : a.debugWithin levels = some a.debug
  same : ∀ b, sameWithin levels a b = some (a == b)
  sameBehind : ∀ b, sameWithin levels b a = some (b == a)

end ScriptValues.Value
