import BrokerMaps.Binary64.Basic

/-!
# Leaves

What can be compared and digested without looking at parts. Numbers are exact here, whatever class
they are of, so leaves that are equal are one leaf.
-/
namespace BrokerMaps

/-- An exact number: an integer, or a double that is none. -/
inductive Number where
  | int (n : Int)
  | float (x : Binary64)
  deriving DecidableEq, Repr

namespace Number

/-- Doubles that are integers are read as such, so that equal numbers are one number. -/
def ofBinary64 (x : Binary64) : Number :=
  match x.toInt? with
  | some n => .int n
  | none => .float x

/-- Numerical equality, which only a NaN does not have with itself. -/
def equals : Number → Number → Bool
  | .int n, .int m => n = m
  | .float x, .float y => x.equals y
  | _, _ => false

def lessInt : Number → Int → Bool
  | .int n, m => n < m
  | .float x, m => x.lessInt m

end Number

/-- What can be digested without looking at parts. A NaN stands for itself alone, and so does an
application object that has no equality of its own. -/
inductive Leaf where
  | null
  | number (number : Number)
  | text (s : String)
  | bytes (bytes : List UInt8)
  | identity (identity? : Option Nat)
  deriving DecidableEq, Repr

/-- The leaf of a double: its number, or the object that a NaN is. -/
def Leaf.ofFloat (identity? : Option Nat) (x : Binary64) : Leaf :=
  match x with
  | .nan => .identity identity?
  | x => .number (Number.ofBinary64 x)

/-- What an application object sees of a value whose parts it does not look into. -/
def Leaf.whole : Leaf := .identity none

end BrokerMaps
