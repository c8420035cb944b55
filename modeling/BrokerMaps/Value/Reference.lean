import BrokerMaps.Value.Basic

/-!
# Shared objects inside values

Values are kept with the content of shared objects left out, so that what a holder sees is never
out of date. `refresh` puts the content in again wherever a value refers to a shared object,
`identify` leaves it out and gives every container and record an identity that has none yet. A value
without shared objects is not changed by the one, and a value whose parts are all identified and
refer to nothing is not changed by the other.

Content is put in as a function that is only run by whoever looks at the object, because an object
may hold itself. A delivery mode has no content that could change, but it may have been given extra
fields, and then it is put in with these.
-/
namespace BrokerMaps.Value

/-- A reference to a shared object whose content is left out. A delivery mode never changes, so it
stands for itself. -/
def reference (identity : Nat) (className : ClassName) : Value :=
  match DeliveryMode.ofNat? identity with
  | some m => .mode m
  | none => .shared identity className (fun _ => .unread) (fun _ => .unread)

/-- A delivery mode with the extra fields that it was given. -/
def modeWith (extra : Nat → String → Value) (m : DeliveryMode) : Value :=
  .shared m.toNat (Value.mode m).classOf (fun _ => .mode m) (extra m.toNat)

/-! ## Reading -/

section
variable (modeNow : DeliveryMode → Value) (content : Nat → Value) (extra : Nat → String → Value)

mutual

def refresh : Value → Value
  | .null => .null
  | .bool b => .bool b
  | .int n => .int n
  | .float identity? x => .float identity? x
  | .text s => .text s
  | .buffer kind bytes => .buffer kind bytes
  | .list identity? items => .list identity? (refreshAll items)
  | .tuple identity? items => .tuple identity? (refreshAll items)
  | .table identity? entries => .table identity? (refreshEntries entries)
  | .mode m => modeNow m
  | .destination stamp kind physicalName => .destination stamp kind (refresh physicalName)
  | .beanName stamp ⟨domain, components⟩ =>
    .beanName stamp ⟨refresh domain, refreshComponents components⟩
  | .beanInstance stamp ⟨identity, reported⟩ =>
    .beanInstance stamp ⟨refresh identity, refresh reported⟩
  | .beanAttribute item => .beanAttribute (refreshAttribute item)
  | .attributeList stamp items => .attributeList stamp (refreshAttributes items)
  | .message stamp content => .message stamp (refreshMessage content)
  | .object held => .object held
  | .sized serial size => .sized serial size
  | .shared identity className _ _ =>
    .shared identity className (fun _ => content identity) (extra identity)
  | .unread => .unread

def refreshAll : List Value → List Value
  | [] => []
  | item :: rest => refresh item :: refreshAll rest

def refreshEntries : List (Value × Value) → List (Value × Value)
  | [] => []
  | (key, value) :: rest => (refresh key, refresh value) :: refreshEntries rest

def refreshComponents : List (String × Value) → List (String × Value)
  | [] => []
  | (key, value) :: rest => (key, refresh value) :: refreshComponents rest

def refreshAttribute : Attribute Value → Attribute Value
  | ⟨stamp, name, value⟩ => ⟨stamp, refresh name, refresh value⟩

def refreshAttributes : List (Attribute Value) → List (Attribute Value)
  | [] => []
  | item :: rest => refreshAttribute item :: refreshAttributes rest

def refreshHeader : Header Value → Header Value
  | ⟨messageId, correlationId, deliveryMode, target, replyTo, expiration, priority, redelivered,
      timestamp, messageType, properties⟩ =>
    ⟨refresh messageId, refresh correlationId, refresh deliveryMode, refresh target,
      refresh replyTo, refresh expiration, refresh priority, refresh redelivered,
      refresh timestamp, refresh messageType, refresh properties⟩

def refreshPayload : Payload Value → Payload Value
  | .plain => .plain
  | .text content => .text (refresh content)
  | .bytes content => .bytes (refresh content)
  | .object content => .object (refresh content)
  | .map content => .map (refresh content)
  | .stream content => .stream (refresh content)

def refreshMessage : Message Value → Message Value
  | ⟨header, payload⟩ => ⟨refreshHeader header, refreshPayload payload⟩

end

end

/-! ## Keeping -/

/-- The identity of an object: the one it has, or else the next one that is free. -/
def identityOf (identity? : Option Nat) : StateM Nat Nat :=
  match identity? with
  | some identity => pure identity
  | none => fun next => (next, next + 1)

def stampOf (stamp : Stamp) : StateM Nat Stamp := do
  let identity ← identityOf stamp.identity?
  pure ⟨some identity, stamp.subclass?⟩

mutual

def identify : Value → StateM Nat Value
  | .list identity? items => do
    let identity ← identityOf identity?
    let items ← identifyAll items
    pure (.list (some identity) items)
  | .tuple identity? items => do
    let identity ← identityOf identity?
    let items ← identifyAll items
    pure (.tuple (some identity) items)
  | .table identity? entries => do
    let identity ← identityOf identity?
    let entries ← identifyEntries entries
    pure (.table (some identity) entries)
  | .destination stamp kind physicalName => do
    let stamp ← stampOf stamp
    let physicalName ← identify physicalName
    pure (.destination stamp kind physicalName)
  | .beanName stamp ⟨domain, components⟩ => do
    let stamp ← stampOf stamp
    let domain ← identify domain
    let components ← identifyComponents components
    pure (.beanName stamp ⟨domain, components⟩)
  | .beanInstance stamp ⟨identity, reported⟩ => do
    let stamp ← stampOf stamp
    let identity ← identify identity
    let reported ← identify reported
    pure (.beanInstance stamp ⟨identity, reported⟩)
  | .beanAttribute item => do
    let item ← identifyAttribute item
    pure (.beanAttribute item)
  | .attributeList stamp items => do
    let stamp ← stampOf stamp
    let items ← identifyAttributes items
    pure (.attributeList stamp items)
  | .message stamp content => do
    let stamp ← stampOf stamp
    let content ← identifyMessage content
    pure (.message stamp content)
  | .shared identity className _ _ => pure (reference identity className)
  | value => pure value

def identifyAll : List Value → StateM Nat (List Value)
  | [] => pure []
  | item :: rest => do
    let first ← identify item
    let others ← identifyAll rest
    pure (first :: others)

def identifyEntries : List (Value × Value) → StateM Nat (List (Value × Value))
  | [] => pure []
  | (key, value) :: rest => do
    let key ← identify key
    let value ← identify value
    let others ← identifyEntries rest
    pure ((key, value) :: others)

def identifyComponents : List (String × Value) → StateM Nat (List (String × Value))
  | [] => pure []
  | (key, value) :: rest => do
    let value ← identify value
    let others ← identifyComponents rest
    pure ((key, value) :: others)

def identifyAttribute : Attribute Value → StateM Nat (Attribute Value)
  | ⟨stamp, name, value⟩ => do
    let stamp ← stampOf stamp
    let name ← identify name
    let value ← identify value
    pure ⟨stamp, name, value⟩

def identifyAttributes : List (Attribute Value) → StateM Nat (List (Attribute Value))
  | [] => pure []
  | item :: rest => do
    let first ← identifyAttribute item
    let others ← identifyAttributes rest
    pure (first :: others)

def identifyHeader : Header Value → StateM Nat (Header Value)
  | ⟨messageId, correlationId, deliveryMode, target, replyTo, expiration, priority, redelivered,
      timestamp, messageType, properties⟩ => do
    let messageId ← identify messageId
    let correlationId ← identify correlationId
    let deliveryMode ← identify deliveryMode
    let target ← identify target
    let replyTo ← identify replyTo
    let expiration ← identify expiration
    let priority ← identify priority
    let redelivered ← identify redelivered
    let timestamp ← identify timestamp
    let messageType ← identify messageType
    let properties ← identify properties
    pure ⟨messageId, correlationId, deliveryMode, target, replyTo, expiration, priority,
      redelivered, timestamp, messageType, properties⟩

def identifyPayload : Payload Value → StateM Nat (Payload Value)
  | .plain => pure .plain
  | .text content => do
    let content ← identify content
    pure (.text content)
  | .bytes content => do
    let content ← identify content
    pure (.bytes content)
  | .object content => do
    let content ← identify content
    pure (.object content)
  | .map content => do
    let content ← identify content
    pure (.map content)
  | .stream content => do
    let content ← identify content
    pure (.stream content)

def identifyMessage : Message Value → StateM Nat (Message Value)
  | ⟨header, payload⟩ => do
    let header ← identifyHeader header
    let payload ← identifyPayload payload
    pure ⟨header, payload⟩

end

end BrokerMaps.Value
