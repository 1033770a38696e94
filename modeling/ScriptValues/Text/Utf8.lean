import ScriptValues.Text.Basic

/-!
# UTF-8

Encoding writes each character as one to four bytes. Decoding accepts every byte string: each
longest part that starts like the encoding of a character and is cut short, and each byte that
starts none, becomes one replacement character. The decoder takes one byte at a time; after the
first byte of a character it keeps the bounds that the next byte has to meet, so overlong forms,
surrogates and values past the last code point are left at the first byte that rules them out.
-/

namespace ScriptValues.Utf8

def encode (text : Text) : List UInt8 :=
  text.flatMap String.utf8EncodeChar

def replacement : Char := '\uFFFD'

inductive State where
  | start
  /-- Inside a character: the bits read so far make up `value`, the next byte has to lie between
  `low` and `high`, and `more` continuation bytes follow it. -/
  | pending (value more : Nat) (low high : UInt8)
  deriving DecidableEq, Repr

namespace State

def first (byte : UInt8) : Text × State :=
  if byte < 0x80 then ([Char.ofNat byte.toNat], start)
  else if 0xC2 ≤ byte ∧ byte ≤ 0xDF then ([], pending (byte.toNat - 0xC0) 0 0x80 0xBF)
  else if byte = 0xE0 then ([], pending 0 1 0xA0 0xBF)
  else if byte = 0xED then ([], pending 0xD 1 0x80 0x9F)
  else if 0xE1 ≤ byte ∧ byte ≤ 0xEF then ([], pending (byte.toNat - 0xE0) 1 0x80 0xBF)
  else if byte = 0xF0 then ([], pending 0 2 0x90 0xBF)
  else if 0xF1 ≤ byte ∧ byte ≤ 0xF3 then ([], pending (byte.toNat - 0xF0) 2 0x80 0xBF)
  else if byte = 0xF4 then ([], pending 4 2 0x80 0x8F)
  else ([replacement], start)

/-- What one more byte gives, and where it leads. A byte out of bounds ends the character that was
begun and is read again as a first byte. -/
def step : State → UInt8 → Text × State
  | start, byte => first byte
  | pending value more low high, byte =>
    if low ≤ byte ∧ byte ≤ high then
      let extended := value * 64 + (byte.toNat - 0x80)
      match more with
      | 0 => ([Char.ofNat extended], start)
      | more + 1 => ([], pending extended more 0x80 0xBF)
    else
      let (text, next) := first byte
      (replacement :: text, next)

def finish : State → Text
  | start => []
  | pending .. => [replacement]

def decode : State → List UInt8 → Text
  | state, [] => state.finish
  | state, byte :: bytes =>
    let (text, next) := state.step byte
    text ++ next.decode bytes

end State

def decode (bytes : List UInt8) : Text :=
  State.start.decode bytes

/-- A character that is cut short gives one replacement character, and the byte that cuts it short
is read again. -/
example : decode [0xE2, 0x82, 0x61] = [replacement, 'a'] := by decide

/-- Surrogates are ruled out at their second byte, so each of their bytes is replaced. -/
example : decode [0xED, 0xA0, 0x80] = [replacement, replacement, replacement] := by decide

end ScriptValues.Utf8
