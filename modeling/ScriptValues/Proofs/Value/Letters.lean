import ScriptValues.Proofs.Primitive.Members

namespace ScriptValues.Value

theorem replies_eq_of_members_eq (host : Host) {x y : Value} (left : x.IsSequence)
    (right : y.IsSequence) (same : x.members = y.members)
    (short : x.members.length < 0x8000000000000000) :
    Primitive.len.native.reply host [x] = Primitive.len.native.reply host [y] ∧
      Primitive.first.native.reply host [x] = Primitive.first.native.reply host [y] ∧
      Primitive.last.native.reply host [x] = Primitive.last.native.reply host [y] := by
  have counts : Primitive.lenOf x = Primitive.lenOf y := by
    rw [Primitive.lenOf_of_sequence left short, same,
      Primitive.lenOf_of_sequence right (same ▸ short)]
  have firsts : Primitive.firstOf x = Primitive.firstOf y := by
    rw [Primitive.firstOf_of_sequence left, same, Primitive.firstOf_of_sequence right]
  have lasts : Primitive.lastOf x = Primitive.lastOf y := by
    rw [Primitive.lastOf_of_sequence left, same, Primitive.lastOf_of_sequence right]
  exact ⟨congrArg ofOutcome counts, congrArg ofOutcome firsts, congrArg ofOutcome lasts⟩

/-- However many rests are taken of a string and of the array of its letters, one is the array of
the letters of the other, or both are null, or both are the same error. They have the same length,
the same first member and the same last one, or the same error in place of it. -/
theorem string_agrees_with_letters (host : Host) (bytes : List UInt8)
    (short : bytes.length < 0x8000000000000000) (k : Nat) :
    let rested (x : Value) := (fun x => Primitive.rest.native.reply host [x])^[k] x
    let text := rested (string bytes)
    let row := rested (array (letters bytes))
    (k ≤ bytes.length ∧ text = string (bytes.drop k) ∧ row = array (letters (bytes.drop k)) ∨
      k = bytes.length + 1 ∧ text = null ∧ row = null ∨
      bytes.length + 1 < k ∧ ∃ fault, text = error fault ∧ row = error fault) ∧
    Primitive.len.native.reply host [text] = Primitive.len.native.reply host [row] ∧
    Primitive.first.native.reply host [text] = Primitive.first.native.reply host [row] ∧
    Primitive.last.native.reply host [text] = Primitive.last.native.reply host [row] := by
  intro rested text row
  have size : (letters bytes).length = bytes.length := length_letters bytes
  rcases Nat.lt_or_ge bytes.length k with past | within
  · have same : text = row := by
      have textSpent : text = _ := Primitive.iterate_rest_of_lt host (.string bytes) (size ▸ past)
      have rowSpent : row = _ := Primitive.iterate_rest_of_lt host (.array _) (size ▸ past)
      exact textSpent.trans rowSpent.symm
    have spent := Primitive.iterate_rest_spent host (.array (letters bytes)) (size ▸ past)
    rw [members, size] at spent
    rw [same]
    refine ⟨.inr ?_, rfl, rfl, rfl⟩
    rcases spent with ⟨next, null⟩ | ⟨later, fault, failed⟩
    · exact .inl ⟨next, null, null⟩
    · exact .inr ⟨later, fault, failed, failed⟩
  · have left : text = string (bytes.drop k) :=
      Primitive.iterate_rest (.string bytes) (by rwa [members, size])
    have right : row = array (letters (bytes.drop k)) := by
      rw [letters_drop]
      exact Primitive.iterate_rest (.array (letters bytes)) (by rwa [members, size])
    refine ⟨.inl ⟨within, left, right⟩, ?_⟩
    rw [left, right]
    refine replies_eq_of_members_eq host (.string _) (.array _) rfl ?_
    rw [members, length_letters, List.length_drop]
    exact Nat.lt_of_le_of_lt (Nat.sub_le _ _) short

theorem string_agrees_with_letters_at_accent :
    let host : Host := fun _ _ => .ok .null
    let rested (k : Nat) (x : Value) := (fun x => Primitive.rest.native.reply host [x])^[k] x
    let bytes : List UInt8 := [0xC3, 0xA9]
    let text := string bytes
    let row := array [string [0xC3], string [0xA9]]
    bytes.length < 0x8000000000000000 ∧
    (rested 1 text = string [0xA9] ∧ rested 1 row = array [string [0xA9]] ∧
      Primitive.last.native.reply host [rested 1 text] =
        Primitive.last.native.reply host [rested 1 row]) ∧
    ∃ fault, rested 5 text = error fault ∧ rested 5 row = error fault := by
  intro host rested bytes text row
  have short : bytes.length < 0x8000000000000000 := by decide
  obtain ⟨inside, -, -, lasts⟩ := string_agrees_with_letters host bytes short 1
  obtain ⟨outside, -⟩ := string_agrees_with_letters host bytes short 5
  obtain ⟨-, left, right⟩ := inside.resolve_right (by simp [bytes])
  obtain ⟨-, failed⟩ := (outside.resolve_left (by simp [bytes])).resolve_left (by simp [bytes])
  exact ⟨short, ⟨left, right, lasts⟩, failed⟩

end ScriptValues.Value
