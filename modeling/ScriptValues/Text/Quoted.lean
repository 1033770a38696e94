import ScriptValues.Text.Basic
import ScriptValues.Text.Unprintable
import ScriptValues.Text.DefaultIgnorable
import ScriptValues.Text.ExtendingMarks

/-!
# Quoted text

A quoted text stands between double quotes. Inside, the quote, the backslash and four controls are
written as a backslash and a letter; a character that is not fit to be shown is written by the
number of its code point, as a backslash, a `u`, and hexadecimal digits in curly brackets; every
other character stands for itself.
-/

namespace ScriptValues.Text

/-- Characters that a quoted text writes by their number: they have no glyph, or are not meant to
be shown, or are only a mark on the character before them. -/
def writtenByNumber (c : Char) : Bool :=
  CodePoints.unprintable.covers c.toNat || CodePoints.defaultIgnorable.covers c.toNat ||
    CodePoints.extendingMarks.covers c.toNat

def escapeLetter? : Char → Option Char
  | '\x00' => some '0'
  | '\t' => some 't'
  | '\n' => some 'n'
  | '\r' => some 'r'
  | '"' => some '"'
  | '\\' => some '\\'
  | _ => none

def escapeWith (numbered : Char → Bool) (c : Char) : Text :=
  match escapeLetter? c with
  | some letter => ['\\', letter]
  | none => if numbered c then '\\' :: 'u' :: '\x7b' :: (hex c.toNat ++ ['\x7d']) else [c]

def quoteWith (numbered : Char → Bool) (text : Text) : Text :=
  '"' :: (text.flatMap (escapeWith numbered) ++ ['"'])

def quote (text : Text) : Text :=
  quoteWith writtenByNumber text

example : quote ['a', '"', '\n', '\u0301'] =
    ['"', 'a', '\\', '"', '\\', 'n', '\\', 'u', '\x7b', '3', '0', '1', '\x7d', '"'] := by
  decide +kernel

end ScriptValues.Text
