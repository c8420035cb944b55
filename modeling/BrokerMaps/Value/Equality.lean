import BrokerMaps.Value.Buffer

/-!
# Equality of values

Numbers are compared by value across truth values, integers, doubles and modes; buffers by
content across their kinds; tables regardless of order. A list is never a tuple. Records are equal
only when they are of exactly the same class, except that an attribute list equals any other with
the same items.

Inside a container, and wherever keys are compared, an object is the same as itself even when it is
not equal to itself: that is `same`, and it matters for a NaN and for an application object. `equal`
is the comparison of two values that stand by themselves. A shared object is compared by its
content, unless it is the very same object, which needs no look at content that may lead back to it.

An application object is asked whether it is equal to what it is compared with, and of two such
objects the first one is asked. An answer that fails counts as no inside a container. Where two
values are compared that stand by themselves, it fails the comparison, and that is `equalTo`.
-/
namespace BrokerMaps

namespace Value

/-- The number that a value is, if it is one. -/
def number? : Value → Option Number
  | .bool b => some (.int (if b then 1 else 0))
  | .int n => some (.int n)
  | .float _ x => some (Number.ofBinary64 x)
  | .mode m => some (.int m.toNat)
  | .shared _ _ content _ => number? (content ())
  | _ => none

def sameNumber (a b : Value) : Bool :=
  match a.number?, b.number? with
  | some x, some y => x.equals y
  | _, _ => false

/-- A value as an application object sees it that is compared with it. -/
def leaf : Value → Leaf
  | .null => .null
  | .bool b => .number (.int (if b then 1 else 0))
  | .int n => .number (.int n)
  | .float identity? x => .ofFloat identity? x
  | .text s => .text s
  | .buffer _ bytes => .bytes bytes
  | .mode m => .number (.int m.toNat)
  | .object held => held.leaf
  | _ => .whole

/-- Whether a value is an application object that says it is equal to a leaf. -/
def answers (leaf : Leaf) (value : Value) : Bool :=
  match value.opened with
  | .object held => held.answers leaf
  | _ => false

/-- Whether two values are one object. -/
def isSameObject (identity : Nat) : Value → Bool
  | .shared other _ _ _ => identity = other
  | _ => false

mutual

/-- The same object, or equal. -/
def same : Value → Value → Bool
  | .null, other =>
    match other with
    | .null => true
    | other => answers .null other
  | .text s, other =>
    match other with
    | .text t => s = t
    | other => answers (.text s) other
  | .buffer kind bytes, other =>
    match other.opened with
    | .buffer second others => kind.sameContent bytes second others
    | other => answers (.bytes bytes) other
  | .list _ items, other =>
    match other.opened with
    | .list _ others => sameAll items others
    | other => answers .whole other
  | .tuple _ items, other =>
    match other with
    | .tuple _ others => sameAll items others
    | other => answers .whole other
  | .table _ entries, other =>
    match other.opened with
    | .table _ others => entries.length = others.length && sameEntries entries others
    | other => answers .whole other
  | .destination stamp kind physicalName, other =>
    match other with
    | .destination stamp2 kind2 physicalName2 =>
      stamp.subclass? = stamp2.subclass? && kind = kind2 && same physicalName physicalName2
    | other => answers .whole other
  | .beanName stamp ⟨domain, components⟩, other =>
    match other with
    | .beanName stamp2 ⟨domain2, components2⟩ =>
      stamp.subclass? = stamp2.subclass? && same domain domain2
        && components.length = components2.length && sameComponents components components2
    | other => answers .whole other
  | .beanInstance stamp ⟨identity, reported⟩, other =>
    match other with
    | .beanInstance stamp2 ⟨identity2, reported2⟩ =>
      stamp.subclass? = stamp2.subclass? && same identity identity2 && same reported reported2
    | other => answers .whole other
  | .beanAttribute item, other =>
    match other with
    | .beanAttribute item2 => sameAttribute item item2
    | other => answers .whole other
  | .attributeList _ items, other =>
    match other.opened with
    | .attributeList _ items2 => sameAttributes items items2
    | other => answers .whole other
  | .message stamp content, other =>
    match other.opened with
    | .message stamp2 content2 =>
      stamp.subclass? = stamp2.subclass? && sameMessage content content2
    | other => answers .whole other
  | .object held, other =>
    match other.opened with
    | .object held2 => held.isSame held2 || held.answers held2.leaf
    | other => held.answers other.leaf
  | .sized serial _, other =>
    match other.opened with
    | .sized serial2 _ => serial = serial2
    | other => answers .whole other
  | .shared identity _ content _, other =>
    isSameObject identity other || same (content ()) other.opened
  | .unread, _ => false
  | .float identity? x, other =>
    match other with
    | .float identity2? y => x.equals y || (identity? = identity2? && x = y)
    | other => sameNumber (.float identity? x) other || answers (.ofFloat identity? x) other
  | .bool b, other => sameNumber (.bool b) other || answers (leaf (.bool b)) other
  | .int n, other => sameNumber (.int n) other || answers (leaf (.int n)) other
  | .mode m, other => sameNumber (.mode m) other || answers (leaf (.mode m)) other

def sameAll : List Value → List Value → Bool
  | [], others => others.isEmpty
  | item :: rest, others =>
    match others with
    | [] => false
    | other :: more => same item other && sameAll rest more

/-- Every entry occurs among the others. -/
def sameEntries : List (Value × Value) → List (Value × Value) → Bool
  | [], _ => true
  | (key, value) :: rest, others =>
    others.any (fun other => same key other.1 && same value other.2) && sameEntries rest others

def sameComponents : List (String × Value) → List (String × Value) → Bool
  | [], _ => true
  | (key, value) :: rest, others =>
    others.any (fun other => key = other.1 && same value other.2) && sameComponents rest others

def sameAttribute : Attribute Value → Attribute Value → Bool
  | ⟨stamp, name, value⟩, other =>
    stamp.subclass? = other.stamp.subclass? && same name other.name && same value other.value

def sameAttributes : List (Attribute Value) → List (Attribute Value) → Bool
  | [], others => others.isEmpty
  | item :: rest, others =>
    match others with
    | [] => false
    | other :: more => sameAttribute item other && sameAttributes rest more

def sameHeader : Header Value → Header Value → Bool
  | ⟨messageId, correlationId, deliveryMode, target, replyTo, expiration, priority, redelivered,
      timestamp, messageType, properties⟩, other =>
    same messageId other.messageId && same correlationId other.correlationId
      && same deliveryMode other.deliveryMode && same target other.destination
      && same replyTo other.replyTo && same expiration other.expiration
      && same priority other.priority && same redelivered other.redelivered
      && same timestamp other.timestamp && same messageType other.messageType
      && same properties other.properties

def samePayload : Payload Value → Payload Value → Bool
  | .plain, other =>
    match other with
    | .plain => true
    | _ => false
  | .text content, other =>
    match other with
    | .text content2 => same content content2
    | _ => false
  | .bytes content, other =>
    match other with
    | .bytes content2 => same content content2
    | _ => false
  | .object content, other =>
    match other with
    | .object content2 => same content content2
    | _ => false
  | .map content, other =>
    match other with
    | .map content2 => same content content2
    | _ => false
  | .stream content, other =>
    match other with
    | .stream content2 => same content content2
    | _ => false

def sameMessage : Message Value → Message Value → Bool
  | ⟨header, payload⟩, other => sameHeader header other.header && samePayload payload other.payload

end

/-- Equality of two values that stand by themselves. -/
def equal (a b : Value) : Bool :=
  match a.opened, b.opened with
  | .float _ x, .float _ y => x.equals y
  | .object held, other => held.answers other.leaf
  | _, _ => same a b

/-- The comparison of two values that stand by themselves, which fails where the application object
that is asked fails. -/
def equalTo (a b : Value) : Except Fault Bool :=
  match a.opened, b.opened with
  | .object held, other => held.equality other.leaf
  | other, .object held => held.equality other.leaf
  | _, _ => .ok (equal a b)

end Value
end BrokerMaps
