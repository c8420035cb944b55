import BrokerMaps.Chunk.Span

/-!
# Chunks partition a body

Counting from zero, span `i` starts at `i` times the chunk size and covers a whole chunk or what is
left of the body, whichever is less. The parts of a body that its spans cover, one after the other,
are the body: no byte is lost and none is covered twice.
-/
namespace BrokerMaps

/-! ## Spans -/

/-- The span with `i` whole chunks before it. -/
def spanAt (length size i : Nat) : Span :=
  ⟨i + 1, i * size, (min size (length - i * size) : Nat)⟩

theorem min_sub_of_lt_div {length size i : Nat} (whole : i < length / size) :
    min size (length - i * size) = size := by
  have bound : (i + 1) * size ≤ length :=
    Nat.le_trans (Nat.mul_le_mul_right size whole) (Nat.div_mul_le_self length size)
  rw [Nat.add_mul] at bound
  omega

theorem min_sub_div (length : Nat) {size : Nat} (positive : 0 < size) :
    min size (length - length / size * size) = length % size := by
  have division := Nat.div_add_mod' length size
  have small := Nat.mod_lt length positive
  omega

/-- The spans of a length are those with none up to all of its whole chunks before them. -/
theorem chunkSpans_natCast (length : Nat) {size : Nat} (positive : 0 < size) :
    chunkSpans length size = (List.range (length / size + 1)).map (spanAt length size) := by
  have quotient : (length : Int).fdiv size = (length / size : Nat) := (Int.ofNat_fdiv ..).symm
  have remainder : (length : Int).fmod size = (length % size : Nat) := (Int.ofNat_fmod ..).symm
  rw [chunkSpans, quotient, remainder, Int.toNat_natCast, List.range_succ, List.map_append]
  congr 1
  -- The whole chunks, and the span that holds what remains.
  · refine List.map_congr_left fun i member => ?_
    have whole := min_sub_of_lt_div (List.mem_range.mp member)
    rw [spanAt, whole]
  · have last := min_sub_div length positive
    rw [List.map_singleton, spanAt, last]

/-! ## Parts -/

/-- The part of a body that the span with `i` whole chunks before it covers. -/
def chunkAt {α : Type} (body : List α) (size i : Nat) : List α := (body.drop (i * size)).take size

theorem length_chunkAt {α : Type} (body : List α) (size i : Nat) :
    (chunkAt body size i).length = min size (body.length - i * size) := by
  simp [chunkAt]

/-- Every part is a whole chunk, but for the last one. -/
theorem length_chunkAt_eq {α : Type} (body : List α) {size i : Nat} (positive : 0 < size)
    (inside : i < body.length / size + 1) :
    (chunkAt body size i).length =
      if i < body.length / size then size else body.length % size := by
  rw [length_chunkAt]
  split
  next whole => exact min_sub_of_lt_div whole
  next last =>
    have here : i = body.length / size := by omega
    rw [here, min_sub_div body.length positive]

/-- The first parts together are the beginning of the body. -/
theorem flatMap_range_chunkAt {α : Type} (body : List α) (size count : Nat) :
    (List.range count).flatMap (chunkAt body size) = body.take (count * size) := by
  induction count with
  | zero => simp
  | succ count ih =>
    rw [List.range_succ, List.flatMap_append, ih, Nat.add_mul, Nat.one_mul, List.take_add]
    simp [chunkAt]

/-- All parts together are the body. -/
theorem flatMap_chunkAt {α : Type} (body : List α) {size : Nat} (positive : 0 < size) :
    (List.range (body.length / size + 1)).flatMap (chunkAt body size) = body := by
  rw [flatMap_range_chunkAt]
  refine List.take_of_length_le ?_
  have beyond := Nat.lt_div_mul_add positive (a := body.length)
  rw [Nat.add_mul, Nat.one_mul]
  omega

theorem getElem?_map_range_eq_some_iff {α : Type} {f : Nat → α} {count i : Nat} {a : α} :
    ((List.range count).map f)[i]? = some a ↔ i < count ∧ f i = a := by
  rw [List.getElem?_map, Option.map_eq_some_iff]
  constructor
  · rintro ⟨j, counted, rfl⟩
    obtain ⟨inside, rfl⟩ : i < count ∧ i = j := by
      simpa [List.getElem?_eq_some_iff] using counted
    exact ⟨inside, rfl⟩
  · rintro ⟨inside, rfl⟩
    exact ⟨i, List.getElem?_range inside, rfl⟩

/-! ## Slices -/

private theorem slicePosition_natCast (length position : Nat) :
    slicePosition length position = min position length := by
  simp only [slicePosition]
  rw [if_neg (by omega), Int.toNat_natCast]

theorem sliceOf_natCast {α : Type} (items : List α) (start stop : Nat) :
    sliceOf items start stop = (items.drop start).take (stop - start) := by
  simp only [sliceOf, slicePosition_natCast]
  by_cases inside : start ≤ items.length
  · rw [Nat.min_eq_left inside, List.take_eq_take_iff, List.length_drop]
    omega
  · have nothing : items.drop start = [] := List.drop_eq_nil_of_le (by omega)
    simp [nothing, Nat.min_eq_right (show items.length ≤ start by omega)]

/-- The bytes of a span of a buffer that is read byte by byte are the part that it covers. -/
theorem sliceBytes_spanAt {body : Value} {kind : BufferKind} {bytes : List UInt8}
    (isBuffer : body.opened = .buffer kind bytes) (bytewise : kind.format = .byte)
    (size i : Nat) :
    body.sliceBytes (spanAt bytes.length size i).start
        ((spanAt bytes.length size i).start + (spanAt bytes.length size i).size) =
      .ok (chunkAt bytes size i) := by
  simp only [Value.sliceBytes, isBuffer, BufferKind.slice_of_bytewise bytewise, spanAt]
  rw [← Int.natCast_mul, ← Int.natCast_add, sliceOf_natCast, Nat.add_sub_cancel_left, chunkAt]
  congr 1
  rw [List.take_eq_take_iff, List.length_drop]
  omega

end BrokerMaps
