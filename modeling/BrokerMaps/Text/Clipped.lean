import BrokerMaps.Text.Utf8

/-!
# Clipped texts

A text may be allowed only so many bytes. A longer one is clipped after the last byte that it may
have, and what is left of a character that the clipping went through shows as one replacement
character. A text that fits is not changed.
-/
namespace BrokerMaps.Text

def clipped (limit : Nat) (text : String) : String :=
  let bytes := Utf8.encode text.toList
  if bytes.length ≤ limit then text else String.ofList (Utf8.decode (bytes.take limit))

end BrokerMaps.Text
