import BrokerMaps.Value.Equality

/-!
# Digests

A value can be a key, or be put into a set, when it has a digest. Which digest is left open: a
`DigestScheme` says how leaves, sequences and unordered collections are digested, and asks only
that a collection's digest does not depend on its order. Leaves that are equal are one leaf here,
so every scheme gives equal leaves the same digest.

A sequence is digested element by element and the first element without a digest is the one
reported. A bean name digests its components as an unordered collection, and before its domain.
Values that can change have no digest. An application object tells for itself which leaf it is
digested as, and may fail to.
-/
namespace BrokerMaps

structure DigestScheme (δ : Type) where
  leaf : Leaf → δ
  sequence : List δ → δ
  collection : List δ → δ
  collection_perm : ∀ {left right : List δ}, left.Perm right → collection left = collection right

/-- The scheme that remembers nothing, used where only the existence of a digest matters. -/
def DigestScheme.blind : DigestScheme Unit where
  leaf _ := ()
  sequence _ := ()
  collection _ := ()
  collection_perm _ := rfl

/-- What a buffer without a digest is refused with. Of views only those have one that can change
nothing and are read byte by byte. -/
def BufferKind.digestFault? : BufferKind → Option ShapeFault
  | .bytes => none
  | .byteArray => some (.unhashable "bytearray")
  | .view ⟨_, true⟩ => some .writableView
  | .view ⟨.wide _ _, false⟩ => some .wideView
  | .view ⟨.byte, false⟩ => none

namespace Value

variable {δ : Type} (scheme : DigestScheme δ)

def unhashable (value : Value) : Except Fault δ := .error (.shape (.unhashable value.className))

mutual

def digest : Value → Except Fault δ
  | .null => .ok (scheme.leaf .null)
  | .bool b => .ok (scheme.leaf (.number (.int (if b then 1 else 0))))
  | .int n => .ok (scheme.leaf (.number (.int n)))
  | .float identity? x => .ok (scheme.leaf (.ofFloat identity? x))
  | .text s => .ok (scheme.leaf (.text s))
  | .buffer kind bytes =>
    match kind.digestFault? with
    | some fault => .error (.shape fault)
    | none => .ok (scheme.leaf (.bytes bytes))
  | .list identity? items => unhashable (.list identity? items)
  | .tuple _ items => do
    let digests ← digestAll items
    return scheme.sequence digests
  | .table identity? entries => unhashable (.table identity? entries)
  | .mode m => .ok (scheme.leaf (.number (.int m.toNat)))
  | .destination _ _ physicalName => do
    let inner ← digest physicalName
    return scheme.sequence [inner]
  | .beanName _ ⟨domain, components⟩ => do
    let digests ← digestComponents components
    let domain ← digest domain
    return scheme.sequence [domain, scheme.collection digests]
  | .beanInstance _ ⟨identity, reported⟩ => do
    let identity ← digest identity
    let reported ← digest reported
    return scheme.sequence [identity, reported]
  | .beanAttribute ⟨_, name, value⟩ => do
    let name ← digest name
    let value ← digest value
    return scheme.sequence [name, value]
  | .attributeList stamp items => unhashable (.attributeList stamp items)
  | .message stamp content => unhashable (.message stamp content)
  | .object held => held.digestLeaf.map scheme.leaf
  | .sized serial _ => .ok (scheme.leaf (.identity (some serial)))
  | .shared _ _ content _ => digest (content ())
  | .unread => .error .tooDeep

def digestAll : List Value → Except Fault (List δ)
  | [] => .ok []
  | item :: rest => do
    let first ← digest item
    let others ← digestAll rest
    return first :: others

def digestComponents : List (String × Value) → Except Fault (List δ)
  | [] => .ok []
  | (key, value) :: rest => do
    let value ← digest value
    let others ← digestComponents rest
    return scheme.sequence [scheme.leaf (.text key), value] :: others

end

/-- Refuses a value that has no digest. -/
def requireDigest (value : Value) : Except Fault Unit := digest DigestScheme.blind value

/-- For each value the place of the first one that is the same key. -/
def firstPlaces (values : List Value) : Except Fault (List Nat) := do
  values.forM requireDigest
  return values.map fun value => values.findIdx fun other => same other value

end Value
end BrokerMaps
