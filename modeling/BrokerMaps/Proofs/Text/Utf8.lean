import BrokerMaps.Proofs.Chunk.Partition
import BrokerMaps.Text.Utf8

/-!
# Reading back UTF-8

The bytes of an encoded character are all consumed when it is decoded, and give the character
again, so decoding is inverse to encoding. A cut between two characters leaves two texts that are
decoded on their own; only a cut through the bytes of a character does not.

## Main results

* `decode_encode`
* `flatMap_decode_chunkAt`: an encoded text that is cut into chunks, no cut being through a
  character, is the text that its chunks decode to.
-/
namespace BrokerMaps.Text.Utf8

/-! ## Bytes -/

theorem toNat_ofNat_of_lt {n : Nat} (small : n < 256) : (UInt8.ofNat n).toNat = n :=
  UInt8.toNat_ofNat_of_lt' small

theorem toNat_continuation (bits : Nat) : (continuation bits).toNat = 0x80 + bits % 64 :=
  toNat_ofNat_of_lt (by omega)

theorem payload_continuation (bits : Nat) : payload (continuation bits) = bits % 64 := by
  rw [payload, toNat_continuation]
  omega

theorem continues_continuation (bits : Nat) : continues (continuation bits) = true := by
  have bound := Nat.mod_lt bits (show 0 < 64 by decide)
  simp only [continues, within, toNat_continuation, Bool.and_eq_true, decide_eq_true_eq]
  omega

/-! ## Characters -/

/-- The code points of surrogates belong to no character. -/
theorem toNat_lt_or_gt (c : Char) :
    c.toNat < 0xd800 ∨ (0xdfff < c.toNat ∧ c.toNat < 0x110000) :=
  c.valid

theorem decode_single {c : Char} (small : c.toNat < 0x80) (rest : List UInt8) :
    decode (encodeChar c ++ rest) = c :: decode rest := by
  have byte : (UInt8.ofNat c.toNat).toNat = c.toNat := toNat_ofNat_of_lt (by omega)
  rw [encodeChar, if_pos small, List.singleton_append, decode.eq_def]
  simp only [byte, lead, if_pos small, Char.ofNat_toNat]

theorem decode_double {c : Char} (large : ¬ c.toNat < 0x80) (small : c.toNat < 0x800)
    (rest : List UInt8) : decode (encodeChar c ++ rest) = c :: decode rest := by
  have first : (UInt8.ofNat (0xc0 + c.toNat / 64)).toNat = 0xc0 + c.toNat / 64 :=
    toNat_ofNat_of_lt (by omega)
  have announced : lead (0xc0 + c.toNat / 64) = .double := by
    rw [lead, if_neg (by omega), if_neg (by omega), if_pos (by omega)]
  have code : (0xc0 + c.toNat / 64 - 0xc0) * 64 + c.toNat % 64 = c.toNat := by omega
  rw [encodeChar, if_neg large, if_pos small, List.cons_append, List.cons_append,
    List.nil_append, decode.eq_def]
  simp only [first, announced, continues_continuation, if_true, payload_continuation, code,
    Char.ofNat_toNat]

/-- The second byte of three is within the bounds that exclude overlong forms and surrogates. -/
theorem decode_triple {c : Char} (large : ¬ c.toNat < 0x800) (small : c.toNat < 0x10000)
    (rest : List UInt8) : decode (encodeChar c ++ rest) = c :: decode rest := by
  have first : (UInt8.ofNat (0xe0 + c.toNat / 4096)).toNat = 0xe0 + c.toNat / 4096 :=
    toNat_ofNat_of_lt (by omega)
  have noSurrogate := toNat_lt_or_gt c
  have announced : lead (0xe0 + c.toNat / 4096) =
      .triple (if 0xe0 + c.toNat / 4096 = 0xe0 then 0xa0 else 0x80)
        (if 0xe0 + c.toNat / 4096 = 0xed then 0x9f else 0xbf) := by
    rw [lead, if_neg (by omega), if_neg (by omega), if_neg (by omega), if_pos (by omega)]
  have second : within (if 0xe0 + c.toNat / 4096 = 0xe0 then 0xa0 else 0x80)
      (if 0xe0 + c.toNat / 4096 = 0xed then 0x9f else 0xbf)
      (continuation (c.toNat / 64)) = true := by
    simp only [within, toNat_continuation, Bool.and_eq_true, decide_eq_true_eq]
    split <;> split <;> omega
  have code : (0xe0 + c.toNat / 4096 - 0xe0) * 4096 + c.toNat / 64 % 64 * 64 + c.toNat % 64 =
      c.toNat := by omega
  rw [encodeChar, if_neg (by omega), if_neg large, if_pos small, List.cons_append,
    List.cons_append, List.cons_append, List.nil_append, decode.eq_def]
  simp only [first, announced, second, continues_continuation, if_true, payload_continuation, code,
    Char.ofNat_toNat]

/-- The second byte of four is within the bounds that exclude overlong forms and code points past
the last plane. -/
theorem decode_quadruple {c : Char} (large : ¬ c.toNat < 0x10000) (rest : List UInt8) :
    decode (encodeChar c ++ rest) = c :: decode rest := by
  have inRange := toNat_lt_or_gt c
  have first : (UInt8.ofNat (0xf0 + c.toNat / 262144)).toNat = 0xf0 + c.toNat / 262144 :=
    toNat_ofNat_of_lt (by omega)
  have announced : lead (0xf0 + c.toNat / 262144) =
      .quadruple (if 0xf0 + c.toNat / 262144 = 0xf0 then 0x90 else 0x80)
        (if 0xf0 + c.toNat / 262144 = 0xf4 then 0x8f else 0xbf) := by
    rw [lead, if_neg (by omega), if_neg (by omega), if_neg (by omega), if_neg (by omega),
      if_pos (by omega)]
  -- The first byte decides on the bounds of the second, so all combinations are looked at.
  have second : within (if 0xf0 + c.toNat / 262144 = 0xf0 then 0x90 else 0x80)
      (if 0xf0 + c.toNat / 262144 = 0xf4 then 0x8f else 0xbf)
      (continuation (c.toNat / 4096)) = true := by
    simp only [within, toNat_continuation, Bool.and_eq_true, decide_eq_true_eq]
    split <;> split <;> omega
  have code : (0xf0 + c.toNat / 262144 - 0xf0) * 262144 + c.toNat / 4096 % 64 * 4096
      + c.toNat / 64 % 64 * 64 + c.toNat % 64 = c.toNat := by omega
  rw [encodeChar, if_neg (by omega), if_neg (by omega), if_neg large, List.cons_append,
    List.cons_append, List.cons_append, List.cons_append, List.nil_append, decode.eq_def]
  simp only [first, announced, second, continues_continuation, if_true, payload_continuation, code,
    Char.ofNat_toNat]

/-- A character is read back from its bytes, whatever comes after them. -/
theorem decode_encodeChar_append (c : Char) (rest : List UInt8) :
    decode (encodeChar c ++ rest) = c :: decode rest := by
  by_cases one : c.toNat < 0x80
  · exact decode_single one rest
  · by_cases two : c.toNat < 0x800
    · exact decode_double one two rest
    · by_cases three : c.toNat < 0x10000
      · exact decode_triple two three rest
      · exact decode_quadruple three rest

/-! ## Texts -/

theorem encode_append (before after : List Char) :
    encode (before ++ after) = encode before ++ encode after :=
  List.flatMap_append

theorem decode_encode_append (cs : List Char) (rest : List UInt8) :
    decode (encode cs ++ rest) = cs ++ decode rest := by
  induction cs with
  | nil => rfl
  | cons c others ih =>
    have split : encode (c :: others) = encodeChar c ++ encode others := List.flatMap_cons
    rw [split, List.append_assoc, decode_encodeChar_append, ih, List.cons_append]

theorem length_encode_cons (c : Char) (rest : List Char) :
    (encode (c :: rest)).length = (encodeChar c).length + (encode rest).length := by
  simp [encode]

/-- Decoding gives back what was encoded. -/
theorem decode_encode (cs : List Char) : decode (encode cs) = cs := by
  have whole := decode_encode_append cs []
  rwa [List.append_nil, decode, List.append_nil] at whole

/-! ## Cuts -/

/-- A cut at the offset goes through the bytes of a character. -/
def Splits (cs : List Char) (offset : Nat) : Prop :=
  ∃ before c after, cs = before ++ c :: after ∧ (encode before).length < offset
    ∧ offset < (encode before).length + (encodeChar c).length

/-- A cut that goes through no character is between two texts. -/
theorem exists_append_of_not_splits {cs : List Char} {offset : Nat}
    (inside : offset ≤ (encode cs).length) (whole : ¬ Splits cs offset) :
    ∃ before after, cs = before ++ after ∧ (encode before).length = offset := by
  induction cs generalizing offset with
  | nil =>
    have nothing : (encode []).length = 0 := rfl
    exact ⟨[], [], rfl, by omega⟩
  | cons c rest ih =>
    -- The cut is at the beginning, or behind the first character and then one of the rest.
    by_cases start : offset = 0
    · exact ⟨[], c :: rest, rfl, start.symm⟩
    · have nothing : (encode []).length = 0 := rfl
      rw [length_encode_cons] at inside
      have past : (encodeChar c).length ≤ offset := by
        refine Nat.le_of_not_lt fun through => whole ⟨[], c, rest, rfl, ?_, ?_⟩ <;> omega
      have later : ¬ Splits rest (offset - (encodeChar c).length) := by
        rintro ⟨before, d, after, rfl, lower, upper⟩
        have longer := length_encode_cons c before
        refine whole ⟨c :: before, d, after, rfl, ?_, ?_⟩ <;> omega
      obtain ⟨before, after, rfl, here⟩ := ih (by omega) later
      have longer := length_encode_cons c before
      exact ⟨c :: before, after, rfl, by omega⟩

/-- A cut between two texts goes through no character. -/
theorem not_splits_append (before after : List Char) :
    ¬ Splits (before ++ after) (encode before).length := by
  rintro ⟨first, c, last, same, lower, upper⟩
  rcases List.append_eq_append_iff.mp same with ⟨between, isFirst, -⟩ | ⟨between, isBefore, rest⟩
  · -- The character would begin behind the cut.
    rw [isFirst, encode_append, List.length_append] at lower
    omega
  · cases between with
    | nil =>
      rw [isBefore, List.append_nil] at lower
      omega
    | cons d between =>
      -- The character would end before the cut.
      cases rest
      rw [isBefore, encode_append, List.length_append, length_encode_cons] at upper
      omega

/-- What comes before a cut that goes through no character is decoded on its own. -/
theorem decode_take_append {cs : List Char} {offset : Nat} (inside : offset ≤ (encode cs).length)
    (whole : ¬ Splits cs offset) (rest : List UInt8) :
    decode ((encode cs).take offset ++ rest) =
      decode ((encode cs).take offset) ++ decode rest := by
  obtain ⟨before, after, rfl, rfl⟩ := exists_append_of_not_splits inside whole
  rw [encode_append, List.take_left, decode_encode_append, decode_encode]

/-! ## Chunks -/

/-- No cut between two chunks goes through a character. -/
def Aligned (cs : List Char) (size : Nat) : Prop :=
  ∀ i, 1 ≤ i → i ≤ (encode cs).length / size → ¬ Splits cs (i * size)

/-- A text of bytes below 128 has no character that could be cut. -/
theorem aligned_of_ascii {cs : List Char} (ascii : ∀ c ∈ cs, c.toNat < 0x80) (size : Nat) :
    Aligned cs size := by
  rintro i - - ⟨before, c, after, rfl, lower, upper⟩
  have small := ascii c (by simp)
  rw [encodeChar, if_pos small, List.length_singleton] at upper
  omega

/-- A text in one chunk is not cut at all. -/
theorem aligned_of_lt {cs : List Char} {size : Nat} (single : (encode cs).length < size) :
    Aligned cs size := by
  intro i positive bound
  rw [Nat.div_eq_of_lt single] at bound
  omega

theorem flatMap_range_decode {cs : List Char} {size count : Nat} (aligned : Aligned cs size)
    (bound : count ≤ (encode cs).length / size + 1) :
    (List.range count).flatMap (fun i => decode (chunkAt (encode cs) size i)) =
      decode ((encode cs).take (count * size)) := by
  -- By induction on the number of chunks: the next one starts at a cut through no character.
  induction count with
  | zero => simp [decode]
  | succ count ih =>
    have inside : count * size ≤ (encode cs).length :=
      Nat.le_trans (Nat.mul_le_mul_right size (by omega)) (Nat.div_mul_le_self _ size)
    have uncut : ¬ Splits cs (count * size) := by
      by_cases start : count = 0
      · rintro ⟨before, c, after, -, lower, -⟩
        simp [start] at lower
      · exact aligned count (by omega) (by omega)
    have next : (encode cs).take ((count + 1) * size) =
        (encode cs).take (count * size) ++ chunkAt (encode cs) size count := by
      rw [Nat.add_mul, Nat.one_mul, List.take_add, chunkAt]
    rw [List.range_succ, List.flatMap_append, ih (by omega), next,
      decode_take_append inside uncut, List.flatMap_singleton]

/-- The chunks of an encoded text decode to its parts when no cut goes through a character. -/
theorem flatMap_decode_chunkAt {cs : List Char} {size : Nat} (positive : 0 < size)
    (aligned : Aligned cs size) :
    (List.range ((encode cs).length / size + 1)).flatMap
      (fun i => decode (chunkAt (encode cs) size i)) = cs := by
  have beyond : (encode cs).length ≤ ((encode cs).length / size + 1) * size := by
    have above := Nat.lt_div_mul_add positive (a := (encode cs).length)
    rw [Nat.add_mul, Nat.one_mul]
    omega
  rw [flatMap_range_decode aligned (Nat.le_refl _), List.take_of_length_le beyond, decode_encode]

end BrokerMaps.Text.Utf8
