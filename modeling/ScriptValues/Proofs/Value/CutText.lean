import ScriptValues.Proofs.Primitive.Members
import ScriptValues.Proofs.Text.Cut
import ScriptValues.Value.Rendering

namespace ScriptValues.Value

theorem iterate_rest_string (host : Host) {bytes : List UInt8} {k : Nat}
    (within : k ≤ bytes.length) :
    (fun x => Primitive.rest.native.reply host [x])^[k] (string bytes) = string (bytes.drop k) :=
  Primitive.iterate_rest (.string bytes) (by rwa [members, length_letters])

/-- The rest of a text, taken as many times as its encoding has bytes at the most, is the string of
the last bytes. Between two characters it is printed as the characters that are left, so the whole
text and the empty one are printed as they are. Inside a character one replacement character is
printed for each byte of it that is left, and then the characters after it. -/
theorem inspect_iterate_rest_text (host : Host) (text : String) (k : Nat)
    (within : k ≤ (Utf8.encode text.toList).length) :
    let x := (fun x => Primitive.rest.native.reply host [x])^[k] (ofText text)
    x = string ((Utf8.encode text.toList).drop k) ∧
    (∀ before after, text.toList = before ++ after → (Utf8.encode before).length = k →
      x.inspect = after) ∧
    (∀ before c after, text.toList = before ++ c :: after → (Utf8.encode before).length < k →
      k < (Utf8.encode (before ++ [c])).length →
      x.inspect =
        List.replicate ((Utf8.encode (before ++ [c])).length - k) Utf8.replacement ++ after) ∧
    ((∃ before after, text.toList = before ++ after ∧ (Utf8.encode before).length = k) ∨
      ∃ before c after, text.toList = before ++ c :: after ∧ (Utf8.encode before).length < k ∧
        k < (Utf8.encode (before ++ [c])).length) ∧
    (k = 0 → x.inspect = text.toList) ∧
    (k = (Utf8.encode text.toList).length → x.inspect = []) := by
  intro x
  have left : x = string ((Utf8.encode text.toList).drop k) := iterate_rest_string host within
  have between : ∀ before after, text.toList = before ++ after →
      (Utf8.encode before).length = k → x.inspect = after := by
    rintro before after split rfl
    rw [left, split]
    exact Utf8.decode_drop_between before after
  refine ⟨left, between, ?_, Utf8.between_or_inside within, ?_, ?_⟩
  · intro before c after split past short
    rw [left, split]
    exact Utf8.decode_drop_inside past short
  · rintro rfl
    exact between [] text.toList rfl rfl
  · intro ending
    exact between text.toList [] (List.append_nil _).symm ending.symm

theorem inspect_iterate_rest_text_at_euro :
    let host : Host := fun _ _ => .ok .null
    let text := "a\u20ACb"
    let x (k : Nat) := (fun x => Primitive.rest.native.reply host [x])^[k] (ofText text)
    (2 ≤ (Utf8.encode text.toList).length ∧ x 2 = string [0x82, 0xAC, 0x62] ∧
      (text.toList = ['a'] ++ '\u20AC' :: ['b'] ∧ (Utf8.encode ['a']).length < 2 ∧
        2 < (Utf8.encode ['a', '\u20AC']).length ∧
        (x 2).inspect = [Utf8.replacement, Utf8.replacement, 'b'])) ∧
    (text.toList = ['a', '\u20AC'] ++ ['b'] ∧ (Utf8.encode ['a', '\u20AC']).length = 4 ∧
      (x 4).inspect = ['b']) ∧
    (x 0).inspect = text.toList ∧ (x 5).inspect = [] := by
  intro host text x
  have chars : text.toList = ['a', '\u20AC', 'b'] := by decide
  have size : (Utf8.encode text.toList).length = 5 := by decide
  have bytes : (Utf8.encode text.toList).drop 2 = [0x82, 0xAC, 0x62] := by decide
  have within (k : Nat) (small : k ≤ 5) : k ≤ (Utf8.encode text.toList).length := size ▸ small
  obtain ⟨left, -, inside, -⟩ := inspect_iterate_rest_text host text 2 (within 2 (by decide))
  obtain ⟨-, between, -⟩ := inspect_iterate_rest_text host text 4 (within 4 (by decide))
  obtain ⟨-, -, -, -, whole, -⟩ := inspect_iterate_rest_text host text 0 (within 0 (by decide))
  obtain ⟨-, -, -, -, -, nothing⟩ := inspect_iterate_rest_text host text 5 (within 5 (by decide))
  exact ⟨⟨within 2 (by decide), left.trans (congrArg string bytes), chars, by decide, by decide,
      inside ['a'] '\u20AC' ['b'] chars (by decide) (by decide)⟩,
    ⟨chars, by decide, between ['a', '\u20AC'] ['b'] chars (by decide)⟩, whole rfl,
    nothing size.symm⟩

end ScriptValues.Value
