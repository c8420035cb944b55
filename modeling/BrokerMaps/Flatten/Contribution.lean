import BrokerMaps.Bean.AttributeList
import BrokerMaps.Bean.Name
import BrokerMaps.Message.Store
import BrokerMaps.Settings
import BrokerMaps.Value.Field

/-!
# Contributions

Flattening an object lists what it contributes to the property map, key by key and in order. The
map itself comes later, by setting the contributions one after the other; nothing here depends on
whether a key was contributed before.

A bean contributes its components or attributes under their own names. A message contributes its
header, its custom properties and its payload, in that order and each under a prefix of its own.
What is null contributes nothing. Most texts are written with `mapText` or `plain`; the text of a
text message, the physical names of destinations and the names of attributes are taken as they are.

A contribution is worked out in the order text, key, digest of the key, and the first failure ends
the whole list.
-/
namespace BrokerMaps

abbrev Contribution := Value × Value

/-! ## Shapes -/

/-- The nine shapes that can be flattened. -/
inductive Shape where
  | beanInstance
  | beanName
  | attributeList
  | message (kind : MessageKind)
  deriving DecidableEq, Repr

namespace Shape

def all : List Shape :=
  [.beanInstance, .beanName, .attributeList] ++ MessageKind.all.map .message

def className : Shape → ClassName
  | .beanInstance => Value.managementClass "ObjectInstance"
  | .beanName => Value.managementClass "ObjectName"
  | .attributeList => Value.managementClass "AttributeList"
  | .message kind => Value.messagingClass kind.className

/-- The name of the method that flattens a shape. -/
def method : Shape → String
  | .beanInstance => "transform_object_instance"
  | .beanName => "transform_object_name"
  | .attributeList => "transform_attribute_list"
  | .message .plain => "transform_message"
  | .message .text => "transform_text_message"
  | .message .bytes => "transform_bytes_message"
  | .message .object => "transform_object_message"
  | .message .map => "transform_map_message"
  | .message .stream => "transform_stream_message"

def ofMethod? (name : String) : Option Shape := all.find? fun shape => shape.method = name

/-- The shape of a value by its exact class; an instance of a derived class has none. -/
def of? (value : Value) : Option Shape :=
  match value.opened with
  | .beanInstance ⟨_, none⟩ _ => some .beanInstance
  | .beanName ⟨_, none⟩ _ => some .beanName
  | .attributeList ⟨_, none⟩ _ => some .attributeList
  | .message ⟨_, none⟩ content => some (.message content.kind)
  | _ => none

end Shape

/-- What flattens objects: its settings, and itself as an object, whose extra fields may stand in
the way of its own methods. -/
structure Flattener where
  settings : Settings
  itself : Value

/-- A flattener that has no extra fields. -/
def Settings.flattener (settings : Settings) : Flattener := ⟨settings, .null⟩

/-- Refuses a step of flattening that is a method which cannot be called. -/
def Flattener.checkStep (flattener : Flattener) (shape : Shape) : Except Fault Unit :=
  flattener.itself.checkCallable shape.method

namespace Flatten

/-- The contribution under a prefixed name, whose text may have failed already. -/
def entry (keyPrefix : Value) (name : Value) (text : Except Fault Value) :
    Except Fault Contribution := do
  let text ← text
  let key ← keyPrefix.plus name
  key.requireDigest
  return (key, text)

def asText (written : Except Fault String) : Except Fault Value := written.map .text

/-! ## Beans -/

/-- One named component; a null component contributes nothing. -/
def componentContribution? (component : String × Value) : Option (Except Fault Contribution) :=
  if component.2.isNull then none
  else some ((asText component.2.mapText).map fun text => (.text component.1, text))

def nameContributions (name : BeanName Value) : Except Fault (List Contribution) :=
  (name.components.filterMap componentContribution?).mapM id

/-- The contribution of an entry of a table that stands in for the components of a name. -/
def entryContributions (item : Value × Value) : Except Fault (List Contribution) :=
  if item.2.isNull then .ok []
  else do
    let text ← asText item.2.mapText
    -- The text comes first, and what it fails with hides what the key would fail with.
    let key ← item.1.plain
    return [(.text key, text)]

/-- Contributions of a value that is read as a bean name. -/
def beanNameContributions (value : Value) : Except Fault (List Contribution) :=
  match value with
  | .beanName _ name => nameContributions name
  | value => do
    let components ← value.field "key_property_list"
    match components.opened with
    | .table _ entries => do
      let lists ← entries.mapM entryContributions
      return lists.flatten
    | _ => components.refuseCall "items"

def beanInstanceContributions (flattener : Flattener) (value : Value) :
    Except Fault (List Contribution) := do
  let identity ← value.field "object_name"
  flattener.checkStep .beanName
  beanNameContributions identity

/-- Contributions of an attribute by name and value, which is looked at after the name. The
identity attribute stands for the components of the name it holds, which may be of a derived
class. -/
def attributeContributions (flattener : Flattener) (name : Value) (value : Except Fault Value) :
    Except Fault (List Contribution) := do
  let isIdentity ← name.equalTo (.text identityAttribute)
  let value ← value
  if isIdentity then
    match value with
    | .beanName _ identity => do
      flattener.checkStep .beanName
      nameContributions identity
    | value => .error (.identityNotAName value.className)
  else if value.isNull then return []
  else do
    let text ← asText value.mapText
    name.requireDigest
    return [(name, text)]

def attributeListContributions (flattener : Flattener) (value : Value) :
    Except Fault (List Contribution) := do
  let items ← value.iterate
  let lists ← items.mapM fun item => do
    let name ← item.field "name"
    attributeContributions flattener name (item.field "value")
  return lists.flatten

/-! ## Headers -/

def physicalName (target : Value) : Except Fault Value := target.field "physical_name"

/-- The text of a delivery mode, which is compared with the mode that it may be. -/
def deliveryText (deliveryMode : Value) : Except Fault Value := do
  let persistent ← deliveryMode.equalTo (.mode .persistent)
  return .text (if persistent then "persistent" else "non-persistent")

def plainText (value : Value) : Except Fault Value := asText value.plain

/-- An entry of a header: its name, the field it is read from, whether null leaves it out, and the
text that it contributes. -/
structure HeaderEntry where
  name : String
  field : String
  optional : Bool
  text : Value → Except Fault Value

/-- The entries of a header in their fixed order. -/
def headerEntries : List HeaderEntry :=
  [⟨"JMSCorrelationID", "correlation_id", true, plainText⟩,
    ⟨"JMSDeliveryMode", "delivery_mode", false, deliveryText⟩,
    ⟨"JMSDestination", "destination", true, physicalName⟩,
    ⟨"JMSExpiration", "expiration", false, plainText⟩,
    ⟨"JMSMessageID", "message_id", true, plainText⟩,
    ⟨"JMSPriority", "priority", false, plainText⟩,
    ⟨"JMSRedelivered", "redelivered", false, fun value => asText value.mapText⟩,
    ⟨"JMSReplyTo", "reply_to", true, physicalName⟩,
    ⟨"JMSTimestamp", "timestamp", false, plainText⟩,
    ⟨"JMSType", "message_type", true, plainText⟩]

/-- What a header entry of a message contributes. The message may be any value that has the
field. -/
def HeaderEntry.contributions (header : HeaderEntry) (settings : Settings) (message : Value) :
    Except Fault (List Contribution) := do
  let content ← message.field header.field
  if header.optional && content.isNull then return []
  else do
    let contribution ← entry settings.headerPrefix (.text header.name) (header.text content)
    return [contribution]

/-- The fields of a header are read and written one by one, so the first that is missing or cannot
be written is the one reported. -/
def headerContributions (settings : Settings) (message : Value) :
    Except Fault (List Contribution) := do
  let lists ← headerEntries.mapM (·.contributions settings message)
  return lists.flatten

/-! ## Stores -/

/-- The contribution of one entry of a store; a null entry contributes nothing. -/
def storedContribution (role : EntryRole) (keyPrefix owner store name : Value) :
    Except Fault (List Contribution) := do
  owner.checkCallable role.getter
  let value ← Message.getEntry store name
  if value.isNull then return []
  else do
    let contribution ← entry keyPrefix name (asText value.mapText)
    return [contribution]

/-- The contributions of a store, which the methods of the message it belongs to give access to. -/
def storeContributions (role : EntryRole) (keyPrefix owner : Value) :
    Except Fault (List Contribution) := do
  let store ← Message.storeThrough role role.lister owner
  let names ← Message.entryNames store
  let lists ← names.mapM (storedContribution role keyPrefix owner store)
  return lists.flatten

def headerAndCustom (settings : Settings) (message : Value) :
    Except Fault (List Contribution) := do
  let header ← headerContributions settings message
  let custom ← storeContributions .property settings.customPrefix message
  return header ++ custom

/-! ## Payloads -/

def textContributions (settings : Settings) (content : Value) :
    Except Fault (List Contribution) :=
  if content.isNull then .ok []
  else (entry settings.bodyPrefix (.text "JMSText") (.ok content)).map ([·])

/-- The key of a chunk; here the prefix is written out rather than added. -/
def chunkKey (settings : Settings) (index : Int) : Except Fault Value := do
  let lead ← settings.bodyPrefix.formatted
  return .text (lead ++ "JMSBytes:" ++ toString index)

def chunkContribution (settings : Settings) (body : Except Fault Value) (shown : ShownSpan) :
    Except Fault Contribution := do
  let body ← body
  let text ← settings.rendering.render body shown.span.start shown.span.size shown.shownSize
  let key ← chunkKey settings shown.span.index
  return (key, .text text)

/-- The chunks of a body whose length is known; the body itself is read chunk by chunk. There may be
very many spans, so a body that cannot be read at all is refused before they are listed. -/
def bytesContributions (settings : Settings) (length : Value) (body : Except Fault Value) :
    Except Fault (List Contribution) := do
  let layout ← chunkLayout length settings.chunkSize
  let _ ← chunkContribution settings body layout.first
  layout.spans.mapM (chunkContribution settings body)

/-- Only the class and the plain form of a payload object are exposed. -/
def objectContributions (settings : Settings) (payload : Value) :
    Except Fault (List Contribution) :=
  if payload.isNull then .ok []
  else do
    let className ← entry settings.bodyPrefix (.text "JMSObjectClass")
      (.ok (.text payload.classOf.qualified))
    let text ← entry settings.bodyPrefix (.text "JMSObjectString") (plainText payload)
    return [className, text]

def streamContributions (settings : Settings) (message : Value) :
    Except Fault (List Contribution) :=
  (entry settings.bodyPrefix (.text "JMSStreamMessage") (plainText message)).map ([·])

/-- The payload entries of a message read as one of a given kind. A stream is written as a whole,
so any message can be read as one. -/
def payloadContributions (settings : Settings) (kind : MessageKind) (message : Value) :
    Except Fault (List Contribution) :=
  match kind with
  | .plain => .ok []
  | .text => do
    let content ← message.field "text"
    textContributions settings content
  | .bytes => do
    let length ← message.field "body_length"
    bytesContributions settings length (message.field "body")
  | .object => do
    let payload ← message.field "payload"
    objectContributions settings payload
  | .map => storeContributions .mapField settings.bodyPrefix message
  | .stream => streamContributions settings message

/-- Header and custom properties come first, as a step of their own for every kind with a
payload. -/
def messageContributions (flattener : Flattener) (kind : MessageKind) (message : Value) :
    Except Fault (List Contribution) := do
  if kind != .plain then flattener.checkStep (.message .plain)
  let first ← headerAndCustom flattener.settings message
  let last ← payloadContributions flattener.settings kind message
  return first ++ last

end Flatten

/-- What a value contributes when it is read as being of a shape. -/
def Shape.contributions (flattener : Flattener) (shape : Shape) (value : Value) :
    Except Fault (List Contribution) :=
  match shape with
  | .beanInstance => Flatten.beanInstanceContributions flattener value
  | .beanName => Flatten.beanNameContributions value
  | .attributeList => Flatten.attributeListContributions flattener value
  | .message kind => Flatten.messageContributions flattener kind value

end BrokerMaps
