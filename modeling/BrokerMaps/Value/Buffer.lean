import BrokerMaps.Value.Basic

/-!
# Buffers

What a buffer holds, counted, read and compared. Most buffers are read byte by byte. A view may take
several bytes for one number; then its length, its positions and what iterating over it yields are
in numbers, while a slice that is copied out of it is still so many bytes.
-/
namespace BrokerMaps

/-! ## Slices -/

/-- A slice position counts from the end when negative and is kept within the length. -/
def slicePosition (length : Nat) (position : Int) : Nat :=
  let fromStart := if position < 0 then position + length else position
  min fromStart.toNat length

def sliceOf {α : Type} (items : List α) (start stop : Int) : List α :=
  let first := slicePosition items.length start
  let last := slicePosition items.length stop
  (items.drop first).take (last - first)

/-! ## Items -/

/-- The number that bytes are, the least significant byte first. -/
def numberOfBytes (bytes : List UInt8) : Nat :=
  bytes.foldr (fun byte higher => byte.toNat + 256 * higher) 0

/-- The item that bytes are: a number whose highest bit may be its sign. -/
def itemOfBytes (signed : Bool) (bytes : List UInt8) : Int :=
  let number := numberOfBytes bytes
  let bound := Nat.pow 256 bytes.length
  if signed && bound ≤ 2 * number then number - bound else number

namespace BufferKind

/-- Only a view can read its bytes in another way than one by one. -/
def format : BufferKind → ItemFormat
  | .view form => form.format
  | _ => .byte

/-- How many items there are. -/
def count (kind : BufferKind) (bytes : List UInt8) : Nat :=
  match kind.format with
  | .byte => bytes.length
  | .wide further _ => bytes.length / (further + 2)

def items (kind : BufferKind) (bytes : List UInt8) : List Int :=
  match kind.format with
  | .byte => bytes.map fun byte => byte.toNat
  | .wide further signed =>
    (List.range (kind.count bytes)).map fun i =>
      itemOfBytes signed ((bytes.drop (i * (further + 2))).take (further + 2))

/-- The bytes of the items from one position up to another. -/
def slice (kind : BufferKind) (bytes : List UInt8) (start stop : Int) : List UInt8 :=
  match kind.format with
  | .byte => sliceOf bytes start stop
  | .wide further _ =>
    let first := slicePosition (kind.count bytes) start
    let last := slicePosition (kind.count bytes) stop
    (bytes.drop (first * (further + 2))).take ((last - first) * (further + 2))

theorem count_of_bytewise {kind : BufferKind} (bytewise : kind.format = .byte)
    (bytes : List UInt8) : kind.count bytes = bytes.length := by rw [count, bytewise]

theorem slice_of_bytewise {kind : BufferKind} (bytewise : kind.format = .byte)
    (bytes : List UInt8) (start stop : Int) :
    kind.slice bytes start stop = sliceOf bytes start stop := by rw [slice, bytewise]

/-- Whether two buffers have the same content: the same items. A byte array that comes first looks
at the bytes alone, however the other one reads them. -/
def sameContent (kind : BufferKind) (bytes : List UInt8) (other : BufferKind)
    (others : List UInt8) : Bool :=
  match kind, kind.format, other.format with
  | .byteArray, _, _ => bytes = others
  | _, .byte, .byte => bytes = others
  | _, _, _ => kind.items bytes = other.items others

end BufferKind
end BrokerMaps
