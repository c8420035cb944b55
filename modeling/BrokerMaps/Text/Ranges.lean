/-!
# Character classes as ranges

A class of characters is kept as a table of closed code point ranges, as the Unicode data files
give it. Membership looks at every range, so a table needs no order to be read correctly; the
tables of this library are ascending and disjoint all the same.
-/
namespace BrokerMaps.Text

abbrev CodeRanges := List (Nat × Nat)

def CodeRanges.holds (ranges : CodeRanges) (code : Nat) : Bool :=
  ranges.any fun range => range.1 ≤ code && code ≤ range.2

theorem CodeRanges.holds_iff (ranges : CodeRanges) (code : Nat) :
    ranges.holds code = true ↔ ∃ range ∈ ranges, range.1 ≤ code ∧ code ≤ range.2 := by
  simp [CodeRanges.holds]

end BrokerMaps.Text
