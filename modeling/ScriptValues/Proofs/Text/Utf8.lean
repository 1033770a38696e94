import ScriptValues.Text.Utf8

namespace ScriptValues.Utf8

namespace State

theorem decode_cons (state : State) (byte : UInt8) (bytes : List UInt8) :
    state.decode (byte :: bytes) = (state.step byte).1 ++ (state.step byte).2.decode bytes := rfl

theorem first_of_one : ∀ n < 0x80, first (UInt8.ofNat n) = ([Char.ofNat n], start) := by
  decide

theorem first_of_two : ∀ n < 0x20, 2 ≤ n →
    first (UInt8.ofNat (n + 0xC0)) = ([], pending n 0 0x80 0xBF) := by
  decide

theorem first_of_three : ∀ n < 0x10, first (UInt8.ofNat (n + 0xE0)) =
    ([], pending n 1 (if n = 0 then 0xA0 else 0x80) (if n = 0xD then 0x9F else 0xBF)) := by
  decide

theorem first_of_four : ∀ n < 5, first (UInt8.ofNat (n + 0xF0)) =
    ([], pending n 2 (if n = 0 then 0x90 else 0x80) (if n = 4 then 0x8F else 0xBF)) := by
  decide

theorem step_pending {value more bits : Nat} {low high : UInt8} (small : bits < 0x40)
    (above : low.toNat ≤ bits + 0x80) (below : bits + 0x80 ≤ high.toNat) :
    (pending value more low high).step (UInt8.ofNat (bits + 0x80)) =
      match more with
      | 0 => ([Char.ofNat (value * 0x40 + bits)], start)
      | more + 1 => ([], pending (value * 0x40 + bits) more 0x80 0xBF) := by
  have byte : (UInt8.ofNat (bits + 0x80)).toNat = bits + 0x80 := by
    rw [UInt8.toNat_ofNat']
    omega
  have within : low ≤ UInt8.ofNat (bits + 0x80) ∧ UInt8.ofNat (bits + 0x80) ≤ high := by
    rw [UInt8.le_iff_toNat_le, UInt8.le_iff_toNat_le, byte]
    exact ⟨above, below⟩
  have payload : (UInt8.ofNat (bits + 0x80)).toNat - 0x80 = bits := by
    rw [byte, Nat.add_sub_cancel]
  cases more with
  | zero => rw [step, if_pos within, payload]
  | succ more => rw [step, if_pos within, payload]

theorem decode_last {value bits : Nat} (small : bits < 0x40) (bytes : List UInt8) :
    (pending value 0 0x80 0xBF).decode (UInt8.ofNat (bits + 0x80) :: bytes) =
      Char.ofNat (value * 0x40 + bits) :: start.decode bytes := by
  rw [decode_cons, step_pending small (by simp) (by simp; omega)]
  rfl

theorem decode_inner {value more bits : Nat} {low high : UInt8} (small : bits < 0x40)
    (above : low.toNat ≤ bits + 0x80) (below : bits + 0x80 ≤ high.toNat) (bytes : List UInt8) :
    (pending value (more + 1) low high).decode (UInt8.ofNat (bits + 0x80) :: bytes) =
      (pending (value * 0x40 + bits) more 0x80 0xBF).decode bytes := by
  rw [decode_cons, step_pending small above below]
  rfl

end State

theorem decode_utf8EncodeChar_append (c : Char) (bytes : List UInt8) :
    State.start.decode (String.utf8EncodeChar c ++ bytes) = c :: State.start.decode bytes := by
  have scalar : c.toNat < 0xD800 ∨ 0xDFFF < c.toNat ∧ c.toNat < 0x110000 := c.valid
  have whole {n : Nat} (equal : n = c.toNat) : Char.ofNat n = c := by
    rw [equal, Char.ofNat_toNat]
  simp only [String.utf8EncodeChar, Char.toNat_val]
  generalize c.toNat = v at scalar whole
  split
  case isTrue one =>
    rw [List.cons_append, State.decode_cons, State.step, State.first_of_one v (by omega), whole rfl]
    rfl
  split
  case isTrue two =>
    rw [List.cons_append, State.decode_cons, State.step,
      State.first_of_two (v / 64 % 32) (by omega) (by omega)]
    change (State.pending _ _ _ _).decode _ = _
    rw [List.cons_append, State.decode_last (by omega), whole (by omega)]
    rfl
  split
  case isTrue three =>
    rw [List.cons_append, State.decode_cons, State.step,
      State.first_of_three (v / 4096 % 16) (by omega)]
    change (State.pending _ _ _ _).decode _ = _
    -- The second byte of E0 is A0 at the least, as the character is above 7FF; that of ED is 9F at
    -- the most, as the character is no surrogate.
    have above : (if v / 4096 % 16 = 0 then 0xA0 else 0x80 : UInt8).toNat ≤ v / 64 % 64 + 0x80 := by
      split <;> simp
      omega
    have below : v / 64 % 64 + 0x80 ≤ (if v / 4096 % 16 = 0xD then 0x9F else 0xBF : UInt8).toNat := by
      split <;> simp <;> omega
    rw [List.cons_append, State.decode_inner (by omega) above below,
      List.cons_append, State.decode_last (by omega), whole (by omega)]
    rfl
  case isFalse four =>
    rw [List.cons_append, State.decode_cons, State.step,
      State.first_of_four (v / 262144 % 8) (by omega)]
    change (State.pending _ _ _ _).decode _ = _
    -- The second byte of F0 is 90 at the least, and that of F4 is 8F at the most.
    have above : (if v / 262144 % 8 = 0 then 0x90 else 0x80 : UInt8).toNat ≤ v / 4096 % 64 + 0x80 := by
      split <;> simp
      omega
    have below : v / 4096 % 64 + 0x80 ≤ (if v / 262144 % 8 = 4 then 0x8F else 0xBF : UInt8).toNat := by
      split <;> simp <;> omega
    rw [List.cons_append, State.decode_inner (by omega) above below,
      List.cons_append, State.decode_inner (by omega) (by simp) (by simp; omega),
      List.cons_append, State.decode_last (by omega), whole (by omega)]
    rfl

theorem decode_encode_append (text : Text) (bytes : List UInt8) :
    State.start.decode (encode text ++ bytes) = text ++ State.start.decode bytes := by
  induction text with
  | nil => rfl
  | cons c text ih =>
      rw [encode, List.flatMap_cons, List.append_assoc, decode_utf8EncodeChar_append]
      exact congrArg (c :: ·) ih

theorem decode_encode (text : Text) : decode (encode text) = text := by
  have whole := decode_encode_append text []
  rwa [List.append_nil, State.decode, State.finish, List.append_nil] at whole

end ScriptValues.Utf8
