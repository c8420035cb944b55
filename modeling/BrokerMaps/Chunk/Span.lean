import BrokerMaps.Value.Arithmetic
import BrokerMaps.Value.Printing

/-!
# Chunk spans

A body is divided into spans of one size, counted from one, and a last span that holds what
remains. The last span is always there, even when nothing remains, so a length has one span more
than it has whole chunks. Quotient and remainder are the ones that round down.
-/
namespace BrokerMaps

structure Span where
  index : Int
  start : Int
  size : Int
  deriving DecidableEq, Repr

/-- The spans of a length; `chunkSize` must not be zero. -/
def chunkSpans (length chunkSize : Int) : List Span :=
  let whole := length.fdiv chunkSize
  (List.range whole.toNat).map (fun i => ⟨i + 1, i * chunkSize, chunkSize⟩)
    ++ [⟨whole + 1, whole * chunkSize, length.fmod chunkSize⟩]

/-- The span that comes first, which is the only one of a length below the chunk size. -/
def firstSpan (length chunkSize : Int) : Span :=
  let whole := length.fdiv chunkSize
  if 0 < whole then ⟨1, 0, chunkSize⟩ else ⟨whole + 1, whole * chunkSize, length.fmod chunkSize⟩

theorem head?_chunkSpans (length chunkSize : Int) :
    (chunkSpans length chunkSize).head? = some (firstSpan length chunkSize) := by
  by_cases positive : 0 < length.fdiv chunkSize
  · obtain ⟨below, wholes⟩ : ∃ n, (length.fdiv chunkSize).toNat = n + 1 :=
      ⟨(length.fdiv chunkSize).toNat - 1, by omega⟩
    simp [chunkSpans, firstSpan, positive, wholes, List.range_succ_eq_map]
  · have noWhole : (length.fdiv chunkSize).toNat = 0 := by omega
    simp [chunkSpans, firstSpan, positive, noWhole]

/-! ## Layouts -/

/-- A span together with its size as it is shown: a whole chunk shows the chunk size as it was
given. -/
structure ShownSpan where
  span : Span
  shownSize : Value

/-- A length and a chunk size to count by, and the chunk size as it was given. -/
structure ChunkLayout where
  length : Int
  chunkSize : Int
  givenSize : Value

namespace ChunkLayout

def shown (layout : ChunkLayout) (span : Span) : ShownSpan :=
  ⟨span, if span.index ≤ layout.length.fdiv layout.chunkSize then layout.givenSize
    else .int span.size⟩

def first (layout : ChunkLayout) : ShownSpan :=
  layout.shown (firstSpan layout.length layout.chunkSize)

def spans (layout : ChunkLayout) : List ShownSpan :=
  (chunkSpans layout.length layout.chunkSize).map layout.shown

end ChunkLayout

/-- The layout of a length, where length and chunk size may be any values. -/
def chunkLayout (length chunkSize : Value) : Except Fault ChunkLayout := do
  if ← length.lessThan 0 then
    let shown ← length.formatted
    .error (.negativeLength shown)
  let (n, m) ← Value.countedBy length chunkSize
  return ⟨n, m, chunkSize⟩

end BrokerMaps
