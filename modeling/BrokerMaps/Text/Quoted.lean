import BrokerMaps.Text.Printable

/-!
# Quoted text

The diagnostic form of a text or of a run of bytes: one line of printable characters between
quotes, from which the content can be read back. Single quotes are used unless the content holds
a single quote and no double quote. The backslash and the quote in use are escaped by a backslash,
tab, line feed and carriage return have letters of their own, and everything else that is not
printable is written as a hexadecimal escape of the shortest of the three widths.
-/
namespace BrokerMaps.Text

/-- A number in hexadecimal, filled up with zeros to a fixed width. -/
def hexDigits (width value : Nat) : List Char :=
  (List.range width).reverse.map fun place => Nat.digitChar (value / Nat.pow 16 place % 16)

def singleQuote : Char := Char.ofNat 0x27
def doubleQuote : Char := '"'

def quoteFor (holdsSingle holdsDouble : Bool) : Char :=
  if holdsSingle && !holdsDouble then doubleQuote else singleQuote

def hexEscape (code : Nat) : List Char :=
  if code ≤ 0xff then '\\' :: 'x' :: hexDigits 2 code
  else if code ≤ 0xffff then '\\' :: 'u' :: hexDigits 4 code
  else '\\' :: 'U' :: hexDigits 8 code

/-- The escapes that a text and a run of bytes share. -/
def commonEscape? (quote : Char) (code : Nat) : Option (List Char) :=
  if code = quote.toNat || code = 0x5c then some ['\\', Char.ofNat code]
  else if code = 0x09 then some ['\\', 't']
  else if code = 0x0a then some ['\\', 'n']
  else if code = 0x0d then some ['\\', 'r']
  else none

def quotedChar (quote c : Char) : List Char :=
  match commonEscape? quote c.toNat with
  | some written => written
  | none => if isPrintable c then [c] else hexEscape c.toNat

def quotedByte (quote : Char) (byte : UInt8) : List Char :=
  match commonEscape? quote byte.toNat with
  | some written => written
  | none =>
    if 0x20 ≤ byte.toNat && byte.toNat < 0x7f then [Char.ofNat byte.toNat]
    else hexEscape byte.toNat

def quotedChars (cs : List Char) : List Char :=
  let quote := quoteFor (cs.contains singleQuote) (cs.contains doubleQuote)
  quote :: (cs.flatMap (quotedChar quote) ++ [quote])

/-- A text between quotes. -/
def quoted (text : String) : String := String.ofList (quotedChars text.toList)

def quoteForBytes (bytes : List UInt8) : Char :=
  quoteFor (bytes.contains 0x27) (bytes.contains 0x22)

/-- Bytes between quotes, marked by a leading `b`. -/
def quotedBytes (bytes : List UInt8) : String :=
  let quote := quoteForBytes bytes
  String.ofList ('b' :: quote :: (bytes.flatMap (quotedByte quote) ++ [quote]))

/-- The bytes of a changeable buffer choose their quotes alike, but a single quote among them is
escaped between double quotes too. -/
def quotedBuffer (bytes : List UInt8) : String :=
  let quote := quoteForBytes bytes
  String.ofList ('b' :: quote :: (bytes.flatMap (quotedByte singleQuote) ++ [quote]))

end BrokerMaps.Text
