import BrokerMaps.Text.Ranges

/-!
# Blanks

Two notions of white space are needed. `isBlank` is the Unicode one, used where a setting is
trimmed. `isAsciiBlank` is the narrower one that separates a number from its surroundings: the
information separators `U+001C` to `U+001F` are blanks of the first kind only.
-/
namespace BrokerMaps.Text

def blankRanges : CodeRanges := [
  (0x9, 0xd), (0x1c, 0x20), (0x85, 0x85), (0xa0, 0xa0), (0x1680, 0x1680), (0x2000, 0x200a),
  (0x2028, 0x2029), (0x202f, 0x202f), (0x205f, 0x205f), (0x3000, 0x3000)]

def isBlank (c : Char) : Bool := blankRanges.holds c.toNat

def isAsciiBlank (c : Char) : Bool :=
  c = ' ' || (9 ≤ c.toNat && c.toNat ≤ 13)

/-- Drops every leading and trailing character of the class. -/
def trim (isOuter : Char → Bool) (cs : List Char) : List Char :=
  ((cs.dropWhile isOuter).reverse.dropWhile isOuter).reverse

end BrokerMaps.Text
