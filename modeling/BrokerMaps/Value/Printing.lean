import BrokerMaps.Binary64.Decimal
import BrokerMaps.Text.Integer
import BrokerMaps.Value.Basic

/-!
# Text forms of values

A value has two text forms. The quoted form shows what a value is: texts between quotes, modes and
records by the names of their classes, and the parts of every container quoted in turn. The plain
form is the one that reaches operators: it differs for texts, which stand for themselves, for
modes, which show their number, for destinations and bean names, which show their address, and for
stream messages, which show an extract. An application object writes both forms itself and may
fail; an integer beyond the digit limit has neither form.

Where a value becomes a part of a longer text it is formatted. That is its plain form again, except
for an application object, which may write a third form for it.

The parts of a value are written in order and the first failure is the one reported. The plain form
of a bean name writes the components before the domain.

An object may hold itself. Quoting therefore knows the identities of the objects it is inside of,
and writes a hint for one that it meets again. The plain forms that differ from the quoted ones
know nothing of this: each of the parts they quote is quoted from scratch.
-/
namespace BrokerMaps.Value

def integerText (n : Int) : Except Fault String :=
  match Text.integerText? n with
  | some written => .ok written
  | none => .error (.shape .integerTooLong)

def commaSeparated (parts : List String) : String := String.intercalate ", " parts

/-- A record: the name of its class and its fields by name. -/
def recordText (path : String) (fields : List (String × String)) : String :=
  path ++ "(" ++ commaSeparated (fields.map fun field => field.1 ++ "=" ++ field.2) ++ ")"

def bufferText (kind : BufferKind) (bytes : List UInt8) : String :=
  match kind with
  | .bytes => Text.quotedBytes bytes
  | .byteArray => "bytearray(" ++ Text.quotedBuffer bytes ++ ")"
  | .view _ => "<memory>"

/-- A tuple of one element keeps a comma to be told from a value in brackets. -/
def tupleText (parts : List String) : String :=
  match parts with
  | [part] => "(" ++ part ++ ",)"
  | parts => "(" ++ commaSeparated parts ++ ")"

def modeText (mode : DeliveryMode) : String :=
  "<DeliveryMode." ++ mode.title ++ ": " ++ toString mode.toNat ++ ">"

def classPath (subclass? : Option Subclass) (base : String) : String :=
  match subclass? with
  | some subclass => subclass.name
  | none => base

def tableText (entries : List (String × String)) : String :=
  "\x7b" ++ commaSeparated (entries.map fun entry => entry.1 ++ ": " ++ entry.2) ++ "\x7d"

/-- Whether an object is being written already. -/
def isWithin (identity? : Option Nat) (within : List Nat) : Bool := identity?.any within.contains

/-- The objects being written once this one is among them. -/
def entering (identity? : Option Nat) (within : List Nat) : List Nat :=
  identity?.toList ++ within

/-! ## Quoted -/

mutual

/-- The quoted form inside of the objects with the given identities. -/
def quotedWithin (within : List Nat) : Value → Except Fault String
  | .null => .ok "None"
  | .bool b => .ok (if b then "True" else "False")
  | .int n => integerText n
  | .float _ x => .ok x.toText
  | .text s => .ok (Text.quoted s)
  | .buffer kind bytes => .ok (bufferText kind bytes)
  | .list identity? items =>
    if isWithin identity? within then .ok "[...]"
    else do
      let parts ← quotedAll (entering identity? within) items
      return "[" ++ commaSeparated parts ++ "]"
  | .tuple identity? items =>
    if isWithin identity? within then .ok "(...)"
    else do
      let parts ← quotedAll (entering identity? within) items
      return tupleText parts
  | .table identity? entries =>
    if isWithin identity? within then .ok "\x7b...\x7d"
    else do
      let parts ← quotedEntries (entering identity? within) entries
      return tableText parts
  | .mode m => .ok (modeText m)
  | .destination stamp kind physicalName =>
    if isWithin stamp.identity? within then .ok "..."
    else do
      let written ← quotedWithin (entering stamp.identity? within) physicalName
      return recordText (classPath stamp.subclass? kind.className) [("physical_name", written)]
  | .beanName stamp ⟨domain, components⟩ =>
    if isWithin stamp.identity? within then .ok "..."
    else do
      let domain ← quotedWithin (entering stamp.identity? within) domain
      let components ← quotedComponents (entering stamp.identity? within) components
      return recordText (classPath stamp.subclass? "ObjectName")
        [("domain", domain), ("key_properties", tableText components)]
  | .beanInstance stamp ⟨identity, reported⟩ =>
    if isWithin stamp.identity? within then .ok "..."
    else do
      let identity ← quotedWithin (entering stamp.identity? within) identity
      let reported ← quotedWithin (entering stamp.identity? within) reported
      return recordText (classPath stamp.subclass? "ObjectInstance")
        [("object_name", identity), ("class_name", reported)]
  | .beanAttribute item => quotedAttribute within item
  | .attributeList stamp items =>
    if isWithin stamp.identity? within then .ok "AttributeList([...])"
    else do
      let parts ← quotedAttributes (entering stamp.identity? within) items
      return "AttributeList([" ++ commaSeparated parts ++ "])"
  | .message stamp content =>
    if isWithin stamp.identity? within then .ok "..."
    else do
      let written ← quotedMessage (entering stamp.identity? within) content
      return recordText (classPath stamp.subclass? written.kind.className) written.fields
  | .object held => held.quotedText
  | .sized _ _ => .ok "<Sized>"
  | .shared _ _ content _ => quotedWithin within (content ())
  | .unread => .error .tooDeep

def quotedAll (within : List Nat) : List Value → Except Fault (List String)
  | [] => .ok []
  | item :: rest => do
    let first ← quotedWithin within item
    let others ← quotedAll within rest
    return first :: others

def quotedEntries (within : List Nat) :
    List (Value × Value) → Except Fault (List (String × String))
  | [] => .ok []
  | (key, value) :: rest => do
    let key ← quotedWithin within key
    let value ← quotedWithin within value
    let others ← quotedEntries within rest
    return (key, value) :: others

def quotedComponents (within : List Nat) :
    List (String × Value) → Except Fault (List (String × String))
  | [] => .ok []
  | (key, value) :: rest => do
    let value ← quotedWithin within value
    let others ← quotedComponents within rest
    return (Text.quoted key, value) :: others

def quotedAttribute (within : List Nat) : Attribute Value → Except Fault String
  | ⟨stamp, name, value⟩ =>
    if isWithin stamp.identity? within then .ok "..."
    else do
      let name ← quotedWithin (entering stamp.identity? within) name
      let value ← quotedWithin (entering stamp.identity? within) value
      return recordText (classPath stamp.subclass? "Attribute") [("name", name), ("value", value)]

def quotedAttributes (within : List Nat) : List (Attribute Value) → Except Fault (List String)
  | [] => .ok []
  | item :: rest => do
    let first ← quotedAttribute within item
    let others ← quotedAttributes within rest
    return first :: others

def quotedHeader (within : List Nat) : Header Value → Except Fault (Header String)
  | ⟨messageId, correlationId, deliveryMode, target, replyTo, expiration, priority,
      redelivered, timestamp, messageType, properties⟩ => do
    let messageId ← quotedWithin within messageId
    let correlationId ← quotedWithin within correlationId
    let deliveryMode ← quotedWithin within deliveryMode
    let target ← quotedWithin within target
    let replyTo ← quotedWithin within replyTo
    let expiration ← quotedWithin within expiration
    let priority ← quotedWithin within priority
    let redelivered ← quotedWithin within redelivered
    let timestamp ← quotedWithin within timestamp
    let messageType ← quotedWithin within messageType
    let properties ← quotedWithin within properties
    return ⟨messageId, correlationId, deliveryMode, target, replyTo, expiration, priority,
      redelivered, timestamp, messageType, properties⟩

def quotedPayload (within : List Nat) : Payload Value → Except Fault (Payload String)
  | .plain => .ok .plain
  | .text content => do
    let written ← quotedWithin within content
    return .text written
  | .bytes content => do
    let written ← quotedWithin within content
    return .bytes written
  | .object content => do
    let written ← quotedWithin within content
    return .object written
  | .map content => do
    let written ← quotedWithin within content
    return .map written
  | .stream content => do
    let written ← quotedWithin within content
    return .stream written

def quotedMessage (within : List Nat) : Message Value → Except Fault (Message String)
  | ⟨header, payload⟩ => do
    let header ← quotedHeader within header
    let payload ← quotedPayload within payload
    return ⟨header, payload⟩

end

def quoted (value : Value) : Except Fault String := quotedWithin [] value

/-! ## Plain -/

def isNull : Value → Bool
  | .null => true
  | _ => false

/-- The form of a value within a longer text, out of its plain form. -/
def formattedOr (value : Value) (written : Except Fault String) : Except Fault String :=
  match value.opened with
  | .object held => held.formatText
  | _ => written

mutual

def plain : Value → Except Fault String
  | .text s => .ok s
  | .mode m => .ok (toString m.toNat)
  | .destination _ kind physicalName => do
    let written ← formattedOr physicalName (plain physicalName)
    return kind.scheme ++ "://" ++ written
  | .beanName _ ⟨domain, components⟩ => do
    let parts ← plainComponents components
    let domain ← formattedOr domain (plain domain)
    return domain ++ ":" ++ String.intercalate "," parts
  | .message stamp ⟨⟨messageId, correlationId, deliveryMode, target, replyTo, expiration,
      priority, redelivered, timestamp, messageType, properties⟩, payload⟩ =>
    match payload with
    -- Of all messages only this one has a plain form of its own.
    | .stream elements => do
      let messageId ← quoted messageId
      let target ← formattedOr target (plain target)
      let elements ← quoted elements
      return recordText MessageKind.stream.className
        [("message_id", messageId), ("destination", target), ("elements", elements)]
    | payload =>
      quoted (.message stamp ⟨⟨messageId, correlationId, deliveryMode, target, replyTo,
        expiration, priority, redelivered, timestamp, messageType, properties⟩, payload⟩)
  | .object held => held.plainText
  | .shared _ _ content _ => plain (content ())
  | value => quoted value

/-- The components of a bean name that are not null, in order. -/
def plainComponents : List (String × Value) → Except Fault (List String)
  | [] => .ok []
  | (key, value) :: rest =>
    if value.isNull then plainComponents rest
    else do
      let first ← formattedOr value (plain value)
      let others ← plainComponents rest
      return (key ++ "=" ++ first) :: others

end

/-- The form of a value within a longer text. -/
def formatted (value : Value) : Except Fault String := value.formattedOr value.plain

/-- The text under which a value enters a property map: a truth value is `true` or `false`, every
other value has its plain form. -/
def mapText : Value → Except Fault String
  | .bool b => .ok (if b then "true" else "false")
  | value => plain value

end BrokerMaps.Value
