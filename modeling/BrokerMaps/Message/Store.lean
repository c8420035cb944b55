import BrokerMaps.Message.Basic
import BrokerMaps.Value.Table

/-!
# Building messages and their named entries

A message is built from named arguments over the defaults of its kind. Two of its fields are
stores with named entries: the custom properties of every message and the fields of a map message.
The names of entries must be non-empty texts. They are checked when the message is built and when
an entry is set, but nothing is checked when a whole field is replaced, so a store may turn out to
be no table at all; the operations then fail as that value does.
-/
namespace BrokerMaps

/-! ## Names of entries -/

/-- The operations on a store, by the names that a message without the store is reported to lack. -/
def EntryRole.setter : EntryRole → String
  | .property => "set_property"
  | .mapField => "set_object"

def EntryRole.getter : EntryRole → String
  | .property => "get_property"
  | .mapField => "get_object"

def EntryRole.lister : EntryRole → String
  | .property => "property_names"
  | .mapField => "map_names"

/-- Refuses a name that is not a non-empty text. -/
def EntryRole.checkName (role : EntryRole) (name : Value) : Except Fault Unit :=
  match name with
  | .text s => if s.isEmpty then refuse name else .ok ()
  | name => refuse name
where
  refuse (name : Value) : Except Fault Unit := do
    let shown ← name.quoted
    .error (.entryName role shown)

def EntryRole.checkNames (role : EntryRole) (store : Value) : Except Fault Unit := do
  let names ← store.iterate
  names.forM role.checkName

namespace Message

/-! ## Identifiers -/

/-- The identifier that a broker assigns for a number of 128 bits. -/
def identifier (bits : Nat) : String := "ID:" ++ String.ofList (Text.hexDigits 32 bits)

/-- The shape of an assigned identifier: 32 lower-case hexadecimal digits after a fixed lead. -/
def isIdentifier (text : String) : Bool :=
  match text.toList with
  | 'I' :: 'D' :: ':' :: digits =>
    digits.length = 32
      && digits.all fun c => ('0' ≤ c && c ≤ '9') || ('a' ≤ c && c ≤ 'f')
  | _ => false

/-! ## Building -/

def defaultHeader (messageId timestamp : Value) : Header Value where
  messageId := messageId
  correlationId := .null
  deliveryMode := .mode .persistent
  destination := .null
  replyTo := .null
  expiration := .int 0
  priority := .int defaultPriority
  redelivered := .bool false
  timestamp := timestamp
  messageType := .null
  properties := .table none []

def defaultPayload : MessageKind → Payload Value
  | .plain => .plain
  | .text => .text .null
  | .bytes => .bytes (.buffer .bytes [])
  | .object => .object .null
  | .map => .map (.table none [])
  | .stream => .stream (.list none [])

/-- A message of a kind with an identifier and a time and everything else by default. -/
def initial (kind : MessageKind) (messageId timestamp : Value) : Message Value :=
  ⟨defaultHeader messageId timestamp, defaultPayload kind⟩

def withArguments (message : Message Value) :
    List (String × Value) → Except Fault (Message Value)
  | [] => .ok message
  | (name, value) :: rest =>
    match message.set? name value with
    | some changed => withArguments changed rest
    | none => Value.shapeFault (.unexpectedArgument message.kind.className name)

/-- Property names are checked before the names of map fields. -/
def checkNames (message : Message Value) : Except Fault Unit := do
  EntryRole.property.checkNames message.header.properties
  match message.payload with
  | .map fields => EntryRole.mapField.checkNames fields
  | _ => .ok ()

/-- Builds a message from named arguments. A store may be an object that others hold too, and then
the message holds the same one. -/
def build (kind : MessageKind) (messageId timestamp : Value)
    (arguments : List (String × Value)) : Except Fault (Message Value) := do
  let message ← withArguments (initial kind messageId timestamp) arguments
  message.checkNames
  return message

/-! ## Custom properties and map fields -/

/-- The store of a role; only map messages have map fields. -/
def store? (role : EntryRole) (message : Message Value) : Option Value :=
  match role, message.payload with
  | .property, _ => some message.header.properties
  | .mapField, .map fields => some fields
  | .mapField, _ => none

/-- The store of a role as one of its methods finds it in a value, which need not be a message. -/
def storeThrough (role : EntryRole) (method : String) (owner : Value) : Except Fault Value :=
  match owner.opened with
  | .message _ content =>
    match content.store? role with
    | some store => do
      owner.checkCallable method
      return store
    | none => owner.refuseCall method
  | _ => owner.refuseCall method

def withStore (role : EntryRole) (message : Message Value) (store : Value) : Message Value :=
  match role, message.payload with
  | .property, _ => ⟨{ message.header with properties := store }, message.payload⟩
  | .mapField, .map _ => ⟨message.header, .map store⟩
  | .mapField, _ => message

/-- A store after setting one entry. -/
def setEntry (role : EntryRole) (store name value : Value) : Except Fault Value := do
  role.checkName name
  store.assign name value

/-- The value of an entry, null when there is none of that name. -/
def getEntry (store name : Value) : Except Fault Value := store.lookup name

/-- The names of a store's entries in the order in which they were first set. -/
def entryNames (store : Value) : Except Fault (List Value) := store.elements

/-- Sets an entry of a message that has a store of the role. -/
def set (role : EntryRole) (message : Message Value) (name value : Value) :
    Except Fault (Message Value) :=
  match message.store? role with
  | some store => (setEntry role store name value).map (message.withStore role)
  | none =>
    Value.shapeFault (.noAttribute message.kind.className role.setter)

end Message
end BrokerMaps
