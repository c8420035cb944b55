import BrokerMaps.Value.Call
import BrokerMaps.Value.Equality

/-!
# Values as sequences

Iteration, length, truth, and the byte content of a slice. A sized body is the odd one out: its
length may be asked for, but any attempt to read it is refused.
-/
namespace BrokerMaps.Value

/-- One more than the greatest length that can be reported. -/
def lengthLimit : Int := Int.pow 2 63

def sizedLength (size : Int) : Except Fault Nat :=
  if size < 0 then shapeFault .lengthNegative
  else if lengthLimit ≤ size then shapeFault .lengthTooLarge
  else .ok size.toNat

/-- What iterating over a value yields. -/
def iterate (value : Value) : Except Fault (List Value) :=
  match value.opened with
  | .list _ items => .ok items
  | .tuple _ items => .ok items
  | .text s => .ok (s.toList.map fun c => .text (String.singleton c))
  | .buffer kind bytes => .ok ((kind.items bytes).map .int)
  | .table _ entries => .ok (entries.map (·.1))
  | .attributeList _ items => .ok (items.map .beanAttribute)
  | .sized _ _ => .error .contentWithheld
  | value => shapeFault (.notIterable value.className)

def length (value : Value) : Except Fault Nat :=
  match value.opened with
  | .list _ items => .ok items.length
  | .tuple _ items => .ok items.length
  | .text s => .ok s.length
  | .buffer kind bytes => .ok (kind.count bytes)
  | .table _ entries => .ok entries.length
  | .attributeList _ items => .ok items.length
  | .sized _ size => sizedLength size
  | value => shapeFault (.noLength value.className)

/-- The bytes that can be asked for at once. -/
def roomLimit : Nat := Nat.pow 2 35

/-- Refuses room for announced elements of a width in bytes when there is not that much. An
announcement that no length could come up to, next to what is held already, is not believed. -/
def checkRoom (width held announced : Nat) : Except Fault Unit :=
  if held + announced < lengthLimit && roomLimit ≤ width * announced then .error .outOfRoom
  else .ok ()

/-- The elements of a value, to be put behind those held already. Room for them is made first, so
the length is asked for where there is one to ask for. -/
def elementsBehind (width held : Nat) (value : Value) : Except Fault (List Value) :=
  match value.opened with
  | .sized _ size => do
    let announced ← sizedLength size
    checkRoom width held announced
    value.iterate
  | _ => value.iterate

/-- The bytes that an element of a list takes. -/
def elementWidth : Nat := 8

/-- The elements of a value as a list of their own. -/
def elements (value : Value) : Except Fault (List Value) := value.elementsBehind elementWidth 0

/-- Whether a value counts as true: null, zero and what is empty do not. An application object tells
for itself. -/
def truth (value : Value) : Except Fault Bool :=
  match value.opened with
  | .null => .ok false
  | .bool b => .ok b
  | .int n => .ok (n != 0)
  | .float _ x => .ok (!x.isZero)
  | .text s => .ok (!s.isEmpty)
  | .buffer kind bytes => .ok (kind.count bytes != 0)
  | .list _ items => .ok (!items.isEmpty)
  | .tuple _ items => .ok (!items.isEmpty)
  | .table _ entries => .ok (!entries.isEmpty)
  | .attributeList _ items => .ok (!items.isEmpty)
  | .sized _ size => (sizedLength size).map (· != 0)
  | .object held => held.truth
  | _ => .ok true

/-! ## Slices -/

/-- An element of a sequence read as a byte. -/
def toByte (item : Value) : Except Fault UInt8 :=
  match item.number?, item with
  -- A double counts as a number and is no index, even where it is whole.
  | some _, .float _ _ => shapeFault (.notAnInteger item.className)
  | some (.int n), _ =>
    if 0 ≤ n && n < 256 then .ok (UInt8.ofNat n.toNat) else shapeFault .bytesOutOfRange
  | _, _ => shapeFault (.notAnInteger item.className)

/-- The bytes of `body` from `start` up to `stop`, which count items. -/
def sliceBytes (body : Value) (start stop : Int) : Except Fault (List UInt8) :=
  match body.opened with
  | .buffer kind bytes => .ok (kind.slice bytes start stop)
  | .list _ items => (sliceOf items start stop).mapM toByte
  | .tuple _ items => (sliceOf items start stop).mapM toByte
  | .text _ => shapeFault .textWithoutEncoding
  | .table _ _ => shapeFault (.unhashable "slice")
  | .sized _ _ => .error .contentWithheld
  | value => shapeFault (.notSubscriptable value.className)

end BrokerMaps.Value
