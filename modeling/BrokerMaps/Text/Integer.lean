import BrokerMaps.Text.Blank
import BrokerMaps.Text.Digit

/-!
# Integers as text

Writing is the plain decimal form. Reading is more generous: blanks around the number, one sign,
decimal digits of any script, and single underscores between digits. Conversions in either
direction are refused above a fixed number of digits, so that no text can ask for quadratic work.
-/
namespace BrokerMaps.Text

def maxDigits : Nat := 4300

def digitsOf (n : Nat) : List Char := Nat.toDigits 10 n

def integerChars : Int → List Char
  | .ofNat n => digitsOf n
  | .negSucc n => '-' :: digitsOf (n + 1)

/-- Whether the decimal form stays within the digit limit. -/
def fitsDigits (n : Int) : Bool := n.natAbs < Nat.pow 10 maxDigits

/-- The decimal form of an integer; `none` above the digit limit. -/
def integerText? (n : Int) : Option String :=
  if fitsDigits n then some (String.ofList (integerChars n)) else none

/-- Reads foreign blanks and digits as their ASCII counterparts; what is neither cannot occur in a
number, and the question mark stands for it. -/
def toAsciiNumeral (c : Char) : Char :=
  if c.toNat < 127 then c
  else if isBlank c then ' '
  else
    match digitValue? c with
    | some value => Char.ofNat (0x30 + value)
    | none => '?'

def asciiDigitValue? (c : Char) : Option Nat :=
  if 0x30 ≤ c.toNat && c.toNat ≤ 0x39 then some (c.toNat - 0x30) else none

/-- A non-empty run of digits in which an underscore may stand between two digits. -/
def readDigits? : List Char → Option (List Nat)
  | [] => none
  | [c] => (asciiDigitValue? c).map ([·])
  -- What follows an underscore has to be a run again, so no underscore comes last or twice.
  | c :: '_' :: rest =>
    match asciiDigitValue? c, readDigits? rest with
    | some value, some values => some (value :: values)
    | _, _ => none
  | c :: rest =>
    match asciiDigitValue? c, readDigits? rest with
    | some value, some values => some (value :: values)
    | _, _ => none

def digitsValue (values : List Nat) : Nat := values.foldl (fun read value => 10 * read + value) 0

def readNatural? (cs : List Char) : Option Nat :=
  match readDigits? cs with
  | some values => if values.length ≤ maxDigits then some (digitsValue values) else none
  | none => none

def readSigned? : List Char → Option Int
  | '-' :: rest => (readNatural? rest).map fun n => -(n : Int)
  | '+' :: rest => (readNatural? rest).map Int.ofNat
  | cs => (readNatural? cs).map Int.ofNat

def readInteger? (text : String) : Option Int :=
  readSigned? (trim isAsciiBlank (text.toList.map toAsciiNumeral))

end BrokerMaps.Text
