import ScriptValues.Proofs.Text.Utf8

/-!
# Encoded texts that are cut

An encoded text can be cut between any two bytes. What is left of the character that was cut are
continuation bytes; the decoder replaces each of them and then reads the characters after them as
they were written (`decode_drop_inside`).
-/

namespace ScriptValues.Utf8

theorem encode_append (text more : Text) : encode (text ++ more) = encode text ++ encode more :=
  List.flatMap_append

theorem encode_cons (c : Char) (text : Text) :
    encode (c :: text) = String.utf8EncodeChar c ++ encode text :=
  List.flatMap_cons

def IsContinuation (byte : UInt8) : Prop :=
  ∃ bits < 0x40, byte = UInt8.ofNat (bits + 0x80)

theorem isContinuation_of_mem_tail (c : Char) :
    ∀ byte ∈ (String.utf8EncodeChar c).tail, IsContinuation byte := by
  have payload (v : Nat) : IsContinuation (UInt8.ofNat (v % 0x40 + 0x80)) :=
    ⟨_, Nat.mod_lt v (by decide), rfl⟩
  simp only [String.utf8EncodeChar]
  split
  case isTrue one => exact nofun
  split
  case isTrue two => exact List.forall_mem_singleton.mpr (payload _)
  split
  case isTrue three =>
    exact List.forall_mem_cons.mpr ⟨payload _, List.forall_mem_singleton.mpr (payload _)⟩
  case isFalse four =>
    exact List.forall_mem_cons.mpr ⟨payload _,
      List.forall_mem_cons.mpr ⟨payload _, List.forall_mem_singleton.mpr (payload _)⟩⟩

theorem State.first_of_continuation : ∀ bits < 0x40,
    first (UInt8.ofNat (bits + 0x80)) = ([replacement], start) := by
  decide

theorem decode_continuations_append {bytes : List UInt8}
    (continuations : ∀ byte ∈ bytes, IsContinuation byte) (more : List UInt8) :
    State.start.decode (bytes ++ more) =
      List.replicate bytes.length replacement ++ State.start.decode more := by
  induction bytes with
  | nil => rfl
  | cons byte bytes ih =>
      obtain ⟨⟨bits, small, rfl⟩, later⟩ := List.forall_mem_cons.mp continuations
      rw [List.cons_append, State.decode_cons, State.step, State.first_of_continuation bits small,
        ih later]
      rfl

theorem decode_drop_between (before after : Text) :
    decode ((encode (before ++ after)).drop (encode before).length) = after := by
  rw [encode_append, List.drop_left, decode_encode]

theorem decode_drop_inside {before after : Text} {c : Char} {k : Nat}
    (past : (encode before).length < k) (short : k < (encode (before ++ [c])).length) :
    decode ((encode (before ++ c :: after)).drop k) =
      List.replicate ((encode (before ++ [c])).length - k) replacement ++ after := by
  -- The first byte of the character is gone at least, so only continuation bytes are left of it.
  obtain ⟨cut, rfl⟩ := Nat.exists_eq_add_of_lt past
  have width : (encode (before ++ [c])).length =
      (encode before).length + (String.utf8EncodeChar c).length := by
    rw [encode_append, List.length_append, encode_cons]
    simp [encode]
  have left : (encode (before ++ c :: after)).drop ((encode before).length + cut + 1) =
      (String.utf8EncodeChar c).tail.drop cut ++ encode after := by
    have inside : cut + 1 ≤ (String.utf8EncodeChar c).length := by omega
    rw [encode_append, encode_cons, Nat.add_assoc, List.drop_length_add_append,
      List.drop_append_of_le_length inside, List.drop_tail]
  have continuations : ∀ byte ∈ (String.utf8EncodeChar c).tail.drop cut, IsContinuation byte :=
    fun byte member => isContinuation_of_mem_tail c byte (List.mem_of_mem_drop member)
  have read := decode_continuations_append continuations (encode after)
  rw [List.length_drop, List.length_tail] at read
  have whole : State.start.decode (encode after) = after := decode_encode after
  rw [left, decode, read, whole, width]
  congr 2
  omega

theorem between_or_inside {text : Text} {k : Nat} (within : k ≤ (encode text).length) :
    (∃ before after, text = before ++ after ∧ (encode before).length = k) ∨
      ∃ before c after, text = before ++ c :: after ∧ (encode before).length < k ∧
        k < (encode (before ++ [c])).length := by
  induction text generalizing k with
  | nil => exact .inl ⟨[], [], rfl, (Nat.le_zero.mp within).symm⟩
  | cons c text ih =>
      rw [encode_cons, List.length_append] at within
      by_cases passed : (String.utf8EncodeChar c).length ≤ k
      · obtain ⟨cut, rfl⟩ := Nat.exists_eq_add_of_le passed
        rcases ih (Nat.le_of_add_le_add_left within) with
          ⟨before, after, rfl, here⟩ | ⟨before, d, after, rfl, past, short⟩
        · refine .inl ⟨c :: before, after, rfl, ?_⟩
          rw [encode_cons, List.length_append, here]
        · refine .inr ⟨c :: before, d, after, rfl, ?_, ?_⟩
          · rw [encode_cons, List.length_append]
            exact Nat.add_lt_add_left past _
          · rw [List.cons_append, encode_cons, List.length_append]
            exact Nat.add_lt_add_left short _
      · cases k with
        | zero => exact .inl ⟨[], c :: text, rfl, rfl⟩
        | succ k =>
            refine .inr ⟨[], c, text, rfl, Nat.succ_pos k, ?_⟩
            rw [List.nil_append, encode_cons, List.length_append]
            omega

end ScriptValues.Utf8
