/-!
# Messages

A message has eleven standard header fields, a store of custom properties among them, and a
payload of one of six kinds. The types are parametric in what a field holds: at run time that is
any application value, well-typed or not, because nothing checks a field when it is written.
-/
namespace BrokerMaps

inductive DeliveryMode where
  | nonPersistent
  | persistent
  deriving DecidableEq, Repr

/-- The number by which a delivery mode takes part in arithmetic and comparison. -/
def DeliveryMode.toNat : DeliveryMode → Nat
  | .nonPersistent => 1
  | .persistent => 2

def DeliveryMode.title : DeliveryMode → String
  | .nonPersistent => "NON_PERSISTENT"
  | .persistent => "PERSISTENT"

def DeliveryMode.all : List DeliveryMode := [.nonPersistent, .persistent]

def DeliveryMode.ofNat? (n : Nat) : Option DeliveryMode := all.find? fun mode => mode.toNat = n

def defaultPriority : Nat := 4

inductive MessageKind where
  | plain
  | text
  | bytes
  | object
  | map
  | stream
  deriving DecidableEq, Repr

def MessageKind.all : List MessageKind := [.plain, .text, .bytes, .object, .map, .stream]

/-- The class under which messages of a kind are known to operators. -/
def MessageKind.className : MessageKind → String
  | .plain => "Message"
  | .text => "TextMessage"
  | .bytes => "BytesMessage"
  | .object => "ObjectMessage"
  | .map => "MapMessage"
  | .stream => "StreamMessage"

structure Header (α : Type) where
  messageId : α
  correlationId : α
  deliveryMode : α
  destination : α
  replyTo : α
  expiration : α
  priority : α
  redelivered : α
  timestamp : α
  messageType : α
  properties : α

inductive Payload (α : Type) where
  | plain
  | text (text : α)
  | bytes (body : α)
  | object (payload : α)
  | map (fields : α)
  | stream (elements : α)

structure Message (α : Type) where
  header : Header α
  payload : Payload α

def Payload.kind {α : Type} : Payload α → MessageKind
  | .plain => .plain
  | .text _ => .text
  | .bytes _ => .bytes
  | .object _ => .object
  | .map _ => .map
  | .stream _ => .stream

def Message.kind {α : Type} (message : Message α) : MessageKind := message.payload.kind

/-! ## Fields by name -/

/-- The fields of a header in their fixed order, each under its name. -/
def Header.fields {α : Type} (header : Header α) : List (String × α) :=
  [("message_id", header.messageId), ("correlation_id", header.correlationId),
    ("delivery_mode", header.deliveryMode), ("destination", header.destination),
    ("reply_to", header.replyTo), ("expiration", header.expiration),
    ("priority", header.priority), ("redelivered", header.redelivered),
    ("timestamp", header.timestamp), ("message_type", header.messageType),
    ("properties", header.properties)]

def Payload.fields {α : Type} : Payload α → List (String × α)
  | .plain => []
  | .text content => [("text", content)]
  | .bytes content => [("body", content)]
  | .object content => [("payload", content)]
  | .map content => [("fields", content)]
  | .stream content => [("elements", content)]

def Message.fields {α : Type} (message : Message α) : List (String × α) :=
  message.header.fields ++ message.payload.fields

def Message.field? {α : Type} (message : Message α) (name : String) : Option α :=
  message.fields.lookup name

def Header.set? {α : Type} (header : Header α) (name : String) (value : α) : Option (Header α) :=
  match name with
  | "message_id" => some { header with messageId := value }
  | "correlation_id" => some { header with correlationId := value }
  | "delivery_mode" => some { header with deliveryMode := value }
  | "destination" => some { header with destination := value }
  | "reply_to" => some { header with replyTo := value }
  | "expiration" => some { header with expiration := value }
  | "priority" => some { header with priority := value }
  | "redelivered" => some { header with redelivered := value }
  | "timestamp" => some { header with timestamp := value }
  | "message_type" => some { header with messageType := value }
  | "properties" => some { header with properties := value }
  | _ => none

def Payload.set? {α : Type} (payload : Payload α) (name : String) (value : α) :
    Option (Payload α) :=
  match payload, name with
  | .text _, "text" => some (.text value)
  | .bytes _, "body" => some (.bytes value)
  | .object _, "payload" => some (.object value)
  | .map _, "fields" => some (.map value)
  | .stream _, "elements" => some (.stream value)
  | _, _ => none

/-- Replaces one field, if the message has a field of that name. -/
def Message.set? {α : Type} (message : Message α) (name : String) (value : α) :
    Option (Message α) :=
  match message.header.set? name value with
  | some header => some { message with header }
  | none => (message.payload.set? name value).map fun payload => { message with payload }

end BrokerMaps
