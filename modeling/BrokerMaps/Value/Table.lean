import BrokerMaps.Value.Arithmetic
import BrokerMaps.Value.Digest
import BrokerMaps.Value.Printing

/-!
# Ordered tables

A table keeps its keys in the order in which they were first set. Setting a key again replaces its
value and nothing else: place and first key stay. Only values with a digest can be keys.
-/
namespace BrokerMaps

namespace Table

/-- Sets a key whose digest is known to exist. -/
def insert (key value : Value) : Table → Table
  | [] => [(key, value)]
  | (first, held) :: rest =>
    if first.same key then (first, value) :: rest else (first, held) :: insert key value rest

def find? (key : Value) (table : Table) : Option Value :=
  (List.find? (fun entry => entry.1.same key) table).map (·.2)

/-- Sets entries one after the other. -/
def insertAll (table : Table) (entries : List (Value × Value)) : Table :=
  entries.foldl (fun built entry => insert entry.1 entry.2 built) table

def set (table : Table) (key value : Value) : Except Fault Table := do
  key.requireDigest
  return insert key value table

/-- The value of a key, null when the key is absent. -/
def get (table : Table) (key : Value) : Except Fault Value := do
  key.requireDigest
  return (find? key table).getD .null

/-- A key and a value out of one element of a sequence. -/
def pairOf (index : Nat) (element : Value) : Except Fault (Value × Value) :=
  match element.elements with
  | .ok [key, value] => .ok (key, value)
  | .ok items => Value.shapeFault (.pairLength index items.length)
  | .error fault =>
    if fault.kind = .type then Value.shapeFault (.pairNotSequence index) else .error fault

def ofPairsFrom (index : Nat) (table : Table) : List Value → Except Fault Table
  | [] => .ok table
  | element :: rest => do
    let (key, value) ← pairOf index element
    let table ← set table key value
    ofPairsFrom (index + 1) table rest

/-- A fresh table with the content of a table or of a sequence of pairs. Anything else that seems to
list its keys is asked for them. -/
def copyOf (value : Value) : Except Fault Table :=
  match value.opened with
  | .table _ entries => .ok entries
  | _ => do
    value.checkCallable "keys"
    let elements ← value.iterate
    ofPairsFrom 0 [] elements

end Table

namespace Value

/-! ## Values used as tables -/

/-- Refuses an index that no sequence could have. -/
def checkIndex (index : Int) : Except Fault Unit :=
  if lengthLimit ≤ index || index < -lengthLimit then shapeFault .indexTooLarge else .ok ()

/-- The place that an index stands for in a sequence; a negative one counts from the end. -/
def placeOf (owner : String) (length : Nat) (index : Int) : Except Fault Nat :=
  let fromStart := if index < 0 then index + length else index
  if 0 ≤ fromStart && fromStart < length then .ok fromStart.toNat
  else shapeFault (.indexOutOfRange owner)

/-- A value read as one byte of a byte array; here the wording of the range differs. -/
def toSingleByte (value : Value) : Except Fault UInt8 :=
  match value.toByte with
  | .error (.shape .bytesOutOfRange) => .error (.shape .byteOutOfRange)
  | result => result

/-- Sets a key in a value that is used as a table, or an index in one that is a sequence. -/
def assign (container key value : Value) : Except Fault Value :=
  match container.opened with
  | .table identity? entries => (Table.set entries key value).map (.table identity?)
  | .list identity? items =>
    match key.integral? with
    | some index => do
      checkIndex index
      let place ← placeOf "list assignment" items.length index
      return .list identity? (items.set place value)
    | none => shapeFault (.indexNotInteger "list" key.className)
  | .buffer .byteArray bytes =>
    match key.integral? with
    | some index => do
      checkIndex index
      let byte ← value.toSingleByte
      let place ← placeOf "bytearray" bytes.length index
      return .buffer .byteArray (bytes.set place byte)
    | none => shapeFault (.indexNotInteger "bytearray" key.className)
  -- A key of a store is a text, which is no place in a view that could be written to.
  | .buffer (.view form) _ =>
    shapeFault (if form.writable then .viewKeyNotSlice else .readOnlyMemory)
  | container => shapeFault (.noItemAssignment container.className)

/-- The value of a key in a value that is used as a table, null when the key is absent. -/
def lookup (container key : Value) : Except Fault Value :=
  match container.opened with
  | .table _ entries => Table.get entries key
  | _ => container.refuseCall "get"

end Value
end BrokerMaps
