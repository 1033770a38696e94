import ScriptValues.Proofs.Text.Delimited
import ScriptValues.Proofs.Text.Numeral
import ScriptValues.Text.Quoted

/-!
# Quoted texts are read back

Whichever characters are written by number, the escapes of single characters form a code in which no
word begins another, and none begins with a quote. So a quoted text shows where it ends, and what it
quotes (`quoteWith_append_inj`).
-/

namespace ScriptValues.Text

def meaning : Char → Char
  | '0' => '\x00'
  | 't' => '\t'
  | 'n' => '\n'
  | 'r' => '\r'
  | letter => letter

theorem meaning_of_escapeLetter? {c letter : Char} (named : escapeLetter? c = some letter) :
    meaning letter = c := by
  unfold escapeLetter? at named
  split at named <;> cases named <;> rfl

theorem escapeLetter?_ne_u (c : Char) : escapeLetter? c ≠ some 'u' := by
  unfold escapeLetter?
  split <;> decide

theorem ne_of_escapeLetter?_eq_none {c : Char} (plain : escapeLetter? c = none) :
    c ≠ '\\' ∧ c ≠ '"' := by
  constructor <;> rintro rfl <;> cases plain

inductive Escape (numbered : Char → Bool) (c : Char) : Prop
  | letter (letter : Char) (named : escapeLetter? c = some letter)
      (word : escapeWith numbered c = ['\\', letter])
  | number (word : escapeWith numbered c = '\\' :: 'u' :: '\x7b' :: (hex c.toNat ++ ['\x7d']))
  | self (plain : c ≠ '\\' ∧ c ≠ '"') (word : escapeWith numbered c = [c])

theorem escape (numbered : Char → Bool) (c : Char) : Escape numbered c := by
  cases named : escapeLetter? c with
  | some letter => exact .letter letter named (by simp [escapeWith, named])
  | none =>
      cases shown : numbered c with
      | true => exact .number (by simp [escapeWith, named, shown])
      | false => exact .self (ne_of_escapeLetter?_eq_none named) (by simp [escapeWith, named, shown])

theorem escapeWith_begins (numbered : Char → Bool) (c : Char) :
    ∃ first rest, escapeWith numbered c = first :: rest ∧ first ≠ '"' := by
  cases escape numbered c with
  | letter letter _ word => exact ⟨'\\', [letter], word, by decide⟩
  | number word => exact ⟨'\\', _, word, by decide⟩
  | self plain word => exact ⟨c, [], word, plain.2⟩

theorem closing_not_mem_hex (n : Nat) : '\x7d' ∉ hex n :=
  not_mem_hex (by decide) n

theorem escapeWith_prefixFree (numbered : Char → Bool) : PrefixFree (escapeWith numbered) := by
  rintro c d ⟨rest, equal⟩
  cases escape numbered c with
  | letter letter named word =>
      cases escape numbered d with
      | letter other namedToo wordToo =>
          simp only [word, wordToo, List.cons_append, List.cons.injEq] at equal
          obtain ⟨-, rfl, -⟩ := equal
          exact (meaning_of_escapeLetter? named).symm.trans (meaning_of_escapeLetter? namedToo)
      | number wordToo =>
          simp only [word, wordToo, List.cons_append, List.cons.injEq] at equal
          exact absurd (equal.2.1 ▸ named) (escapeLetter?_ne_u c)
      | self plain wordToo =>
          simp only [word, wordToo, List.cons_append, List.cons.injEq] at equal
          exact absurd equal.1.symm plain.1
  | number word =>
      cases escape numbered d with
      | letter other namedToo wordToo =>
          simp only [word, wordToo, List.cons_append, List.cons.injEq] at equal
          exact absurd (equal.2.1 ▸ namedToo) (escapeLetter?_ne_u d)
      | number wordToo =>
          simp only [word, wordToo, List.cons_append, List.cons.injEq, List.append_assoc,
            List.nil_append, true_and] at equal
          -- The bracket that closes the first number closes the second.
          have numbers := append_mark_inj (closing_not_mem_hex _) (closing_not_mem_hex _) equal
          exact Char.toNat_inj.mp (hex_injective numbers.1)
      | self plain wordToo =>
          simp only [word, wordToo, List.cons_append, List.cons.injEq] at equal
          exact absurd equal.1.symm plain.1
  | self plain word =>
      cases escape numbered d with
      | letter other _ wordToo =>
          simp only [word, wordToo, List.cons_append, List.cons.injEq] at equal
          exact absurd equal.1 plain.1
      | number wordToo =>
          simp only [word, wordToo, List.cons_append, List.cons.injEq] at equal
          exact absurd equal.1 plain.1
      | self _ wordToo =>
          simp only [word, wordToo, List.cons_append, List.cons.injEq] at equal
          exact equal.1

theorem quoteWith_append_inj {numbered : Char → Bool} {text other x y : Text}
    (equal : quoteWith numbered text ++ x = quoteWith numbered other ++ y) :
    text = other ∧ x = y := by
  simp only [quoteWith, List.cons_append, List.append_assoc, List.nil_append, List.cons.injEq,
    true_and] at equal
  exact (escapeWith_prefixFree numbered).flatMap_append_inj (escapeWith_begins numbered) equal

end ScriptValues.Text
