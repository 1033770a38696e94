import Mathlib.Algebra.Group.Nat.Defs
import ScriptValues.Key.Basic

/-!
# Strings that share a key

Every step of the hash can be undone but the folded product, and every word is the folded product of
at least two pairs (`exists_two_foldedProducts`). So, whatever the blocks before it are, the last
block of a string can be chosen in two ways at least to get any given hash
(`exists_two_lastBlocks`).
-/

namespace ScriptValues

namespace StringHash

/-! ## Words -/

def bytesOf : Nat → Nat → List UInt8
  | 0, _ => []
  | width + 1, n => UInt8.ofNat n :: bytesOf width (n / 256)

theorem length_bytesOf (width n : Nat) : (bytesOf width n).length = width := by
  induction width generalizing n with
  | zero => rfl
  | succ width ih => rw [bytesOf, List.length_cons, ih]

theorem littleEndian_bytesOf (width n : Nat) : littleEndian (bytesOf width n) = n % 256 ^ width := by
  induction width generalizing n with
  | zero => rw [bytesOf, littleEndian, Nat.pow_zero, Nat.mod_one]
  | succ width ih =>
      have byte : (UInt8.ofNat n).toNat = n % 256 := UInt8.toNat_ofNat'
      have places : n % (256 * 256 ^ width) = n % 256 + 256 * (n / 256 % 256 ^ width) := Nat.mod_mul
      rw [bytesOf, littleEndian, ih, byte, Nat.pow_succ', places]

theorem word_bytesOf (w : UInt64) : word (bytesOf 8 w.toNat) = w := by
  have fits : w.toNat < 256 ^ 8 := w.toNat_lt
  rw [word, littleEndian_bytesOf, Nat.mod_eq_of_lt fits, UInt64.ofNat_toNat]

/-! ## Blocks -/

namespace Lanes

theorem absorb_append {count : Nat} {blocks : List UInt8} (size : blocks.length = 16 * count)
    (rest : List UInt8) (lanes : Lanes) :
    lanes.absorb count (blocks ++ rest) = lanes.absorb count blocks := by
  induction count generalizing blocks lanes with
  | zero => rfl
  | succ count ih =>
      have block : 16 ≤ blocks.length := by omega
      rw [absorb, absorb, List.take_append_of_le_length block, List.drop_append_of_le_length block,
        ih (by rw [List.length_drop]; omega)]

def lastBlock (lanes target : Lanes) : List UInt8 :=
  bytesOf 8 (lanes.first ^^^ target.first).toNat ++ bytesOf 8 (lanes.second ^^^ target.second).toNat

theorem length_lastBlock (lanes target : Lanes) : (lanes.lastBlock target).length = 16 := by
  rw [lastBlock, List.length_append, length_bytesOf, length_bytesOf]

theorem add_xor (lanes target : Lanes) :
    lanes.add (lanes.first ^^^ target.first) (lanes.second ^^^ target.second) = target := by
  simp only [add, ← UInt64.xor_assoc, UInt64.xor_self, UInt64.zero_xor]

end Lanes

theorem lanes_append {count : Nat} {blocks left right : List UInt8}
    (size : blocks.length = 16 * count) (sizeLeft : left.length = 8) (sizeRight : right.length = 8) :
    lanes (blocks ++ (left ++ right)) =
      (Lanes.seed.absorb count blocks).add (word left) (word right) := by
  have total : (blocks ++ (left ++ right)).length = 16 * count + 16 := by
    rw [List.length_append, List.length_append, size, sizeLeft, sizeRight]
  have last : (blocks ++ (left ++ right)).drop (16 * count) = left ++ right := List.drop_left' size
  have second : (blocks ++ (left ++ right)).drop (16 * count + 8) = right := by
    rw [← List.drop_drop, last, List.drop_left' sizeLeft]
  unfold lanes
  simp only [total]
  cases count with
  | zero =>
      -- One block alone is short enough to go into the lanes directly.
      obtain rfl : blocks = [] := List.length_eq_zero_iff.mp size
      rw [if_neg (by omega), if_pos (by omega), second, List.nil_append, List.take_left' sizeLeft]
      rfl
  | succ count =>
      have turns : (16 * (count + 1) + 16 - 1) / 16 = count + 1 := by omega
      have start : 16 * (count + 1) + 16 - 8 = 16 * (count + 1) + 8 := by omega
      rw [if_pos (by omega), turns, start, Nat.add_sub_cancel, last, second,
        List.take_left' sizeLeft, Lanes.absorb_append size]

theorem lanes_append_lastBlock {count : Nat} {blocks : List UInt8}
    (size : blocks.length = 16 * count) (target : Lanes) :
    lanes (blocks ++ (Lanes.seed.absorb count blocks).lastBlock target) = target := by
  rw [Lanes.lastBlock, lanes_append size (length_bytesOf _ _) (length_bytesOf _ _), word_bytesOf,
    word_bytesOf, Lanes.add_xor]

/-! ## Preimages -/

theorem foldedProduct_one (x : UInt64) : foldedProduct x 1 = x := by
  have high : x.toNat / UInt64.size = 0 := Nat.div_eq_of_lt x.toNat_lt
  simp [foldedProduct, high]

theorem one_foldedProduct (x : UInt64) : foldedProduct 1 x = x := by
  have high : x.toNat / UInt64.size = 0 := Nat.div_eq_of_lt x.toNat_lt
  simp [foldedProduct, high]

theorem exists_two_foldedProducts (w : UInt64) :
    ∃ p q : Lanes, p ≠ q ∧ foldedProduct p.first p.second = w ∧
      foldedProduct q.first q.second = w := by
  by_cases one : w = 1
  · -- Both factors are one here, in either order, but the square of half a word has no low half.
    subst one
    exact ⟨⟨1, 1⟩, ⟨0x100000000, 0x100000000⟩, by decide, by decide, by decide⟩
  · exact ⟨⟨w, 1⟩, ⟨1, w⟩, fun same => one (congrArg Lanes.first same), foldedProduct_one w,
      one_foldedProduct w⟩

theorem mul_multiplier_surjective (w : UInt64) : ∃ x, x * multiplier = w := by
  have inverse : 0x781494A55DAAED0D * multiplier = 1 := by decide
  exact ⟨w * 0x781494A55DAAED0D, by rw [UInt64.mul_assoc, inverse, UInt64.mul_one]⟩

theorem toBitVec_rotate (x : UInt64) : (rotate x).toBitVec = x.toBitVec.rotateLeft 26 := by
  simp [rotate, BitVec.rotateLeft, BitVec.rotateLeftAux]

theorem rotateLeft_rotateRight (x : BitVec 64) : (x.rotateRight 26).rotateLeft 26 = x := by
  apply BitVec.eq_of_getElem_eq
  intro i small
  rw [BitVec.getElem_rotateLeft]
  split
  case isTrue low =>
    rw [BitVec.getElem_rotateRight, dif_neg (by omega)]
    congr 1
    omega
  case isFalse high =>
    rw [BitVec.getElem_rotateRight, dif_pos (by omega)]
    congr 1
    omega

theorem rotate_surjective (w : UInt64) : ∃ x, rotate x = w := by
  refine ⟨⟨w.toBitVec.rotateRight 26⟩, UInt64.eq_of_toBitVec_eq ?_⟩
  rw [toBitVec_rotate, rotateLeft_rotateRight]

/-! ## Collisions -/

theorem exists_two_lanes (w : UInt64) (size : Nat) :
    ∃ p q : Lanes, p ≠ q ∧ ∀ bytes : List UInt8, bytes.length = size →
      (lanes bytes = p ∨ lanes bytes = q) → hash bytes = w := by
  obtain ⟨mixed, rfl⟩ := rotate_surjective w
  obtain ⟨digested, rfl⟩ := mul_multiplier_surjective mixed
  obtain ⟨p, q, different, left, right⟩ :=
    exists_two_foldedProducts (digested ^^^ UInt64.ofNat size)
  refine ⟨p, q, different, ?_⟩
  rintro bytes rfl (rfl | rfl)
  · rw [hash, digest, left, UInt64.xor_assoc, UInt64.xor_self, UInt64.xor_zero]
  · rw [hash, digest, right, UInt64.xor_assoc, UInt64.xor_self, UInt64.xor_zero]

theorem exists_two_lastBlocks {count : Nat} {blocks : List UInt8}
    (size : blocks.length = 16 * count) (w : UInt64) :
    ∃ left right : List UInt8, left ≠ right ∧ left.length = 16 ∧ right.length = 16 ∧
      hash (blocks ++ left) = w ∧ hash (blocks ++ right) = w := by
  obtain ⟨p, q, different, hashed⟩ := exists_two_lanes w (blocks.length + 16)
  have total (target : Lanes) :
      (blocks ++ (Lanes.seed.absorb count blocks).lastBlock target).length = blocks.length + 16 := by
    rw [List.length_append, Lanes.length_lastBlock]
  refine ⟨_, _, fun same => different ?_, Lanes.length_lastBlock _ p, Lanes.length_lastBlock _ q,
    hashed _ (total p) (.inl (lanes_append_lastBlock size p)),
    hashed _ (total q) (.inr (lanes_append_lastBlock size q))⟩
  rw [← lanes_append_lastBlock size p, same, lanes_append_lastBlock size q]

theorem exists_two_strings (w : UInt64) {blocks : Nat} (some : 0 < blocks) :
    ∃ s t : List UInt8, s ≠ t ∧ s.length = 16 * blocks ∧ t.length = 16 * blocks ∧
      hash s = w ∧ hash t = w := by
  obtain ⟨count, rfl⟩ := Nat.exists_eq_add_of_lt some
  have size : (List.replicate (16 * count) (0 : UInt8)).length = 16 * count := List.length_replicate
  obtain ⟨left, right, different, sizeLeft, sizeRight, first, second⟩ := exists_two_lastBlocks size w
  refine ⟨_, _, fun same => different (List.append_cancel_left same), ?_, ?_, first, second⟩
  · rw [List.length_append, size, sizeLeft]
    omega
  · rw [List.length_append, size, sizeRight]
    omega

end StringHash

namespace Value

theorem key?_string (bytes : List UInt8) :
    (string bytes).key? = some ⟨.string, StringHash.hash bytes⟩ := rfl

theorem exists_string_of_word (w : UInt64) : ∃ s, (string s).key? = some ⟨.string, w⟩ := by
  obtain ⟨s, -, -, -, -, hashed, -⟩ := StringHash.exists_two_strings w Nat.one_pos
  exact ⟨s, by rw [key?_string, hashed]⟩

/-- Every word belongs to the key of at least two strings of any positive number of blocks. So a
string of whole blocks shares its key with another one of its length, and the word of an integer or
a truth value is also that of a string, whose key differs by the tag alone. -/
theorem string_keys_cover_words :
    (∀ (w : UInt64) (blocks : Nat), 0 < blocks → ∃ s t : List UInt8, s ≠ t ∧
      s.length = 16 * blocks ∧ t.length = 16 * blocks ∧
      (string s).key? = some ⟨.string, w⟩ ∧ (string t).key? = some ⟨.string, w⟩) ∧
    (∀ s : List UInt8, 0 < s.length → 16 ∣ s.length →
      ∃ t, t ≠ s ∧ t.length = s.length ∧ (string t).key? = (string s).key?) ∧
    (∀ a : Value, a.tag = .integer ∨ a.tag = .boolean → ∃ key s, a.key? = some key ∧
      (string s).key? = some ⟨.string, key.word⟩ ∧ key.tag = a.tag ∧ key.tag ≠ .string) := by
  refine ⟨fun w blocks some => ?_, ?_, fun a kind => ?_⟩
  · obtain ⟨s, t, different, first, second, hashed, hashedToo⟩ := StringHash.exists_two_strings w some
    refine ⟨s, t, different, first, second, ?_, ?_⟩
    · rw [key?_string, hashed]
    · rw [key?_string, hashedToo]
  · rintro s positive ⟨blocks, size⟩
    obtain ⟨t, u, different, first, second, hashed, hashedToo⟩ :=
      StringHash.exists_two_strings (StringHash.hash s) (by omega : 0 < blocks)
    -- The two strings differ from each other, so one of them is not the given one.
    by_cases same : t = s
    · refine ⟨u, fun sameToo => different (same.trans sameToo.symm), second.trans size.symm, ?_⟩
      rw [key?_string, key?_string, hashedToo]
    · refine ⟨t, same, first.trans size.symm, ?_⟩
      rw [key?_string, key?_string, hashed]
  · cases a with
    | integer n =>
        obtain ⟨s, keyed⟩ := exists_string_of_word n.toUInt64
        exact ⟨⟨.integer, n.toUInt64⟩, s, rfl, keyed, rfl, nofun⟩
    | boolean b =>
        obtain ⟨s, keyed⟩ := exists_string_of_word (if b then 1 else 0)
        exact ⟨⟨.boolean, if b then 1 else 0⟩, s, rfl, keyed, rfl, nofun⟩
    | _ => rcases kind with kind | kind <;> cases kind

/-- The word for which one pair of factors is its own mirror image, a string of two blocks, and the
greatest word. -/
theorem string_keys_cover_words_at_mirror :
    let mirrored := StringHash.rotate ((1 ^^^ 16) * StringHash.multiplier)
    let zeros : List UInt8 := List.replicate 32 0
    (0 < 1 ∧ ∃ s t : List UInt8, s ≠ t ∧ s.length = 16 ∧ t.length = 16 ∧
      (string s).key? = some ⟨.string, mirrored⟩ ∧
        (string t).key? = some ⟨.string, mirrored⟩) ∧
    (0 < zeros.length ∧ 16 ∣ zeros.length ∧
      ∃ t, t ≠ zeros ∧ t.length = 32 ∧ (string t).key? = (string zeros).key?) ∧
    ((integer (-1)).tag = .integer ∧ (integer (-1)).key? = some ⟨.integer, 0xFFFFFFFFFFFFFFFF⟩ ∧
      ∃ s, (string s).key? = some ⟨.string, 0xFFFFFFFFFFFFFFFF⟩) := by
  intro mirrored zeros
  obtain ⟨pairs, partners, words⟩ := string_keys_cover_words
  have keyed : (integer (-1)).key? = some ⟨.integer, 0xFFFFFFFFFFFFFFFF⟩ := by decide
  obtain ⟨key, s, keyedToo, shared, -⟩ := words (integer (-1)) (.inl rfl)
  obtain rfl := Option.some.inj (keyed.symm.trans keyedToo)
  exact ⟨⟨Nat.one_pos, pairs mirrored 1 Nat.one_pos⟩,
    ⟨by decide, by decide, partners zeros (by decide) (by decide)⟩, rfl, keyed, s, shared⟩

end Value

end ScriptValues
