import BrokerMaps.Proofs.Chunk.Partition
import BrokerMaps.Proofs.Value.Writing
import Mathlib.Data.List.Nodup
import Mathlib.Data.List.Range

/-!
# The spans of a length

What the spans of a length are, told without regard to how they are counted: they are numbered from
one, each begins where the one before it ends, and every position of the length lies in exactly one
of them.

## Main result

`chunkLayout_spans`: every integer that is not negative is laid out in spans by every integer from
one on, and these spans partition it. A negative integer is refused, whatever it is divided by.

## Proof strategy

The spans are a range of numbers, each turned into the span that it stands for (`spanAt`), so what
holds of neighbours, of the first and of the last of them is read off the range. For the positions,
`covers_spanAt_iff` says that the span that covers a position is the one whose number is the
quotient of the position, and a range has every number once.
-/
namespace BrokerMaps

/-! ## Partitions -/

namespace Span

/-- A position lies in a span. -/
def Covers (span : Span) (position : Int) : Prop :=
  span.start ≤ position ∧ position < span.start + span.size

instance (span : Span) (position : Int) : Decidable (span.Covers position) :=
  inferInstanceAs (Decidable (_ ∧ _))

/-- Spans in order that cover a length in pieces of one size. The last one holds what remains, and
is there even when nothing remains. -/
structure Partition (length size : Int) (spans : List Span) : Prop where
  count : (spans.length : Int) = length.fdiv size + 1
  numbered : ∀ (i : Nat) (span : Span), spans[i]? = some span → span.index = i + 1
  atStart : ∃ first, spans.head? = some first ∧ first.start = 0
  adjacent : spans.IsChain fun span next => next.start = span.start + span.size
  whole : ∀ span ∈ spans.dropLast, span.size = size
  atEnd : ∃ last, spans.getLast? = some last ∧ last.start + last.size = length
    ∧ 0 ≤ last.size ∧ last.size < size ∧ (last.size = 0 ↔ size ∣ length)
  covered : ∀ position, 0 ≤ position → position < length →
    ∃ span, spans.filter (fun span => span.Covers position) = [span]
      ∧ span.index = position.fdiv size + 1

end Span

/-! ## Spans of a range -/

/-- A position lies in the span that has as many whole chunks before it as fit before the
position. -/
theorem covers_spanAt_iff {length size position : Nat} (positive : 0 < size)
    (inside : position < length) (i : Nat) :
    (spanAt length size i).Covers position ↔ i = position / size := by
  have unfolded : (spanAt length size i).Covers position ↔
      i * size ≤ position ∧ position < i * size + min size (length - i * size) := by
    simp only [Span.Covers, spanAt, ← Int.natCast_mul, ← Int.natCast_add, Int.ofNat_le,
      Int.ofNat_lt]
  rw [unfolded]
  constructor
  · rintro ⟨notBefore, before⟩
    symm
    apply Nat.div_eq_of_lt_le notBefore
    rw [Nat.add_mul]
    omega
  · rintro rfl
    have division := Nat.div_add_mod' position size
    have small := Nat.mod_lt position positive
    omega

/-- A number below a bound is found exactly once among all of them. -/
theorem filter_range_eq_singleton {count a : Nat} (below : a < count) :
    (List.range count).filter (· = a) = [a] := by
  have once : (List.range count).count a = 1 :=
    List.count_eq_one_of_mem List.nodup_range (List.mem_range.mpr below)
  have repeated := List.filter_beq (l := List.range count) a
  rw [once] at repeated
  exact repeated

theorem filter_covers_spanAt {length size position : Nat} (positive : 0 < size)
    (inside : position < length) :
    ((List.range (length / size + 1)).map (spanAt length size)).filter
        (fun span => span.Covers position) = [spanAt length size (position / size)] := by
  have counted : position / size < length / size + 1 :=
    Nat.lt_succ_of_le (Nat.div_le_div_right inside.le)
  -- Among the numbers of the spans the one that is sought comes up once, and so does its span.
  have covers : ((fun span => decide (span.Covers position)) ∘ spanAt length size) =
      fun i => decide (i = position / size) := by
    funext i
    simp only [Function.comp_apply, covers_spanAt_iff positive inside]
  rw [List.filter_map, covers, filter_range_eq_singleton counted, List.map_singleton]

/-- The last span ends where the length ends, and what it holds is less than a whole chunk. -/
theorem last_spanAt (length : Nat) {size : Nat} (positive : 0 < size) :
    let last := spanAt length size (length / size)
    last.start + last.size = length ∧ 0 ≤ last.size ∧ last.size < size
      ∧ (last.size = 0 ↔ (size : Int) ∣ length) := by
  intro last
  have remains : last.size = (length % size : Nat) := by
    simp only [last, spanAt, min_sub_div length positive]
  have start : last.start = (length / size * size : Nat) := (Int.natCast_mul ..).symm
  have division := Nat.div_add_mod' length size
  have small := Nat.mod_lt length positive
  rw [remains, start]
  refine ⟨by omega, by omega, by omega, ?_⟩
  rw [Int.natCast_eq_zero, Int.natCast_dvd_natCast]
  exact Nat.dvd_iff_mod_eq_zero.symm

theorem partition_chunkSpans (length : Nat) {size : Nat} (positive : 0 < size) :
    Span.Partition length size (chunkSpans length size) := by
  rw [chunkSpans_natCast length positive]
  constructor
  case count =>
    rw [← Int.ofNat_fdiv, List.length_map, List.length_range, Int.natCast_succ]
  case numbered =>
    intro i span found
    obtain ⟨-, rfl⟩ := getElem?_map_range_eq_some_iff.mp found
    rfl
  case atStart =>
    refine ⟨spanAt length size 0, ?_, ?_⟩
    · rw [List.range_succ_eq_map]
      rfl
    · simp [spanAt]
  case adjacent =>
    rw [List.isChain_map, List.isChain_range_succ]
    intro i member
    -- Only the last span may be shorter, and no other begins where it ends.
    have whole := min_sub_of_lt_div member
    simp only [spanAt, whole]
    rw [Int.natCast_succ, Int.add_mul, Int.one_mul]
  case whole =>
    intro span member
    rw [List.range_succ, List.map_append, List.map_singleton, List.dropLast_concat] at member
    obtain ⟨i, counted, rfl⟩ := List.mem_map.mp member
    simp only [spanAt, min_sub_of_lt_div (List.mem_range.mp counted)]
  case atEnd =>
    refine ⟨spanAt length size (length / size), ?_, last_spanAt length positive⟩
    rw [List.range_succ, List.map_append, List.map_singleton, List.getLast?_concat]
  case covered =>
    intro position notNegative inside
    lift position to Nat using notNegative
    refine ⟨_, filter_covers_spanAt positive (Int.ofNat_lt.mp inside), ?_⟩
    rw [← Int.ofNat_fdiv, spanAt]

/-! ## Layouts -/

/-- Integers lay each other out, as long as none is negative or zero. -/
theorem chunkLayout_of_integral {length chunkSize : Value} {n size : Nat} (positive : 0 < size)
    (counts : length.integral? = some (n : Int))
    (integral : chunkSize.integral? = some (size : Int)) :
    chunkLayout length chunkSize = .ok ⟨n, size, chunkSize⟩ := by
  have notNegative : length.lessThan 0 = .ok false := by
    simp [Value.lessThan, Value.number?_of_integral? counts, Number.lessInt]
  have counted : Value.countedBy length chunkSize = .ok ((n : Int), (size : Int)) := by
    simp only [Value.countedBy, counts, integral]
    rw [if_neg (by omega)]
  simp [chunkLayout, notNegative, counted, pure, Except.pure]

/-- Whether or not a negative integer is short enough to be shown, it is refused as a wrong
value. -/
theorem chunkLayout_negative {length : Value} {n : Int} (counts : length.integral? = some n)
    (negative : n < 0) (chunkSize : Value) :
    ∃ fault, chunkLayout length chunkSize = .error fault ∧ fault.kind = .value := by
  have isNegative : length.lessThan 0 = .ok true := by
    simp [Value.lessThan, Value.number?_of_integral? counts, Number.lessInt, negative]
  have plainly := Value.formatted_eq_plain (Value.not_object_of_integral counts)
  rw [chunkLayout, isNegative, Outcome.ok_bind, if_pos rfl, plainly]
  -- The fault shows the length, which for itself may be too long to be shown.
  cases shown : length.plain with
  | ok written => exact ⟨.negativeLength written, rfl, rfl⟩
  | error fault =>
    have tooLong := Value.plain_eq_error_of_integral counts shown
    exact ⟨fault, rfl, by rw [tooLong]; rfl⟩

/-- The size that a span is shown with counts as the size that it has. -/
theorem ChunkLayout.integral?_shownSize {n size : Nat} {chunkSize : Value} (positive : 0 < size)
    (integral : chunkSize.integral? = some (size : Int)) {shown : ShownSpan}
    (member : shown ∈ ChunkLayout.spans ⟨n, size, chunkSize⟩) :
    shown.shownSize.integral? = some shown.span.size := by
  obtain ⟨span, listed, rfl⟩ := List.mem_map.mp member
  obtain ⟨i, found⟩ := List.mem_iff_getElem?.mp listed
  have numbered := (partition_chunkSpans n positive).numbered i span found
  rw [chunkSpans_natCast n positive] at found
  obtain ⟨counted, rfl⟩ := getElem?_map_range_eq_some_iff.mp found
  simp only [ChunkLayout.shown]
  split
  next whole =>
    rw [numbered, ← Int.ofNat_fdiv] at whole
    rw [integral, spanAt, min_sub_of_lt_div (by omega)]
  next => rfl

/-- An integer that is not negative is laid out by an integer that is not below one in spans that
partition it, and a negative one is not laid out at all. -/
theorem chunkLayout_spans {length chunkSize : Value} {n : Int}
    (counts : length.integral? = some n) :
    (∀ size : Int, chunkSize.integral? = some size → 0 ≤ n → 1 ≤ size →
      ∃ layout, chunkLayout length chunkSize = .ok layout
        ∧ Span.Partition n size (layout.spans.map (·.span))
        ∧ ∀ shown ∈ layout.spans, shown.shownSize.integral? = some shown.span.size)
    ∧ (n < 0 → ∃ fault, chunkLayout length chunkSize = .error fault ∧ fault.kind = .value) := by
  constructor
  · intro size integral notNegative atLeastOne
    lift n to Nat using notNegative
    lift size to Nat using (by omega)
    have positive : 0 < size := by omega
    refine ⟨_, chunkLayout_of_integral positive counts integral, ?_,
      fun shown member => ChunkLayout.integral?_shownSize positive integral member⟩
    have spans : (ChunkLayout.spans ⟨n, size, chunkSize⟩).map (·.span) = chunkSpans n size := by
      rw [ChunkLayout.spans, List.map_map]
      exact List.map_id _
    rw [spans]
    exact partition_chunkSpans n positive
  · intro negative
    exact chunkLayout_negative counts negative chunkSize

/-- Seven bytes in threes: two whole chunks and one byte more. And no chunk size helps a negative
length. -/
theorem chunkLayout_spans_seven :
    (∃ layout, chunkLayout (.int 7) (.int 3) = .ok layout
      ∧ Span.Partition 7 3 (layout.spans.map (·.span))
      ∧ ∀ shown ∈ layout.spans, shown.shownSize.integral? = some shown.span.size)
    ∧ (∃ fault, chunkLayout (.int (-7)) (.int 0) = .error fault ∧ fault.kind = .value) :=
  ⟨(chunkLayout_spans rfl).1 3 rfl (by decide) (by decide), (chunkLayout_spans rfl).2 (by decide)⟩

end BrokerMaps
