import BrokerMaps.Fault
import BrokerMaps.Message.Basic
import BrokerMaps.Value.Leaf

/-!
# Values

What the fields of beans and messages hold, and what a console is asked to transform: any
application value. Containers are ordered, a table keeps the order in which its keys were first
set, and a bean name keeps the order of its components.

It can matter which object a value is. Some objects are equal to nothing but themselves: a NaN, an
application object, a sized body. And an object met again while it is being written is only hinted
at. An identity is a number that no other object has; a value that nothing else can hold needs
none. A class derived by the application from one of the classes here has a number too, because two
derived classes of one name are not the same class.

An object that changes over time is held by several others at once. Its holders have a shared value
in its place: the identity and the class, which never change, and the content and the extra fields
as they are when the holder is read. Content that has not been read, or that lies deeper than any
writing could go, is `unread`, and whoever looks at it fails.
-/
namespace BrokerMaps

/-- How a class is known: the module it lives in, its path within the module, and its bare name. -/
structure ClassName where
  moduleName : String
  path : String
  name : String
  deriving DecidableEq, Repr

/-- The module and path of a class in one text. -/
def ClassName.qualified (className : ClassName) : String :=
  className.moduleName ++ "." ++ className.path

/-- A class as it shows itself. That a class is a basic one goes without saying. -/
def ClassName.shown (className : ClassName) : String :=
  if className.moduleName = "builtins" then className.path else className.qualified

/-- A class derived by the application. -/
structure Subclass where
  serial : Nat
  moduleName : String
  name : String
  deriving DecidableEq, Repr

def Subclass.className (subclass : Subclass) : ClassName :=
  ⟨subclass.moduleName, subclass.name, subclass.name⟩

/-- What an item of a view is: a byte, or a number that takes two bytes and possibly further ones,
the least significant first. -/
inductive ItemFormat where
  | byte
  | wide (further : Nat) (signed : Bool)
  deriving DecidableEq, Repr

/-- How a view reads the bytes that it is a view of, and whether it can change them. -/
structure ViewForm where
  format : ItemFormat
  writable : Bool
  deriving DecidableEq, Repr

/-- The form of a view of bytes that never change. -/
def ViewForm.ofBytes : ViewForm := ⟨.byte, false⟩

inductive BufferKind where
  | bytes
  | byteArray
  | view (form : ViewForm)
  deriving DecidableEq, Repr

inductive DestinationKind where
  | queue
  | topic
  | plain
  deriving DecidableEq, Repr

def DestinationKind.className : DestinationKind → String
  | .queue => "Queue"
  | .topic => "Topic"
  | .plain => "Destination"

/-- The scheme of the address form of a destination. -/
def DestinationKind.scheme : DestinationKind → String
  | .queue => "queue"
  | .topic => "topic"
  | .plain => "destination"

/-- An object of the application, seen only through its class and through what the application has
written for it. It shows itself quoted, plainly, and as a part of a longer text that is put
together. It answers whether it counts as true and whether it is equal to a leaf, and tells which
leaf it is digested as. All of these are code of the application, so they may disagree, and any of
them may fail. -/
structure AppObject where
  serial : Nat
  className : ClassName
  quotedText : Except Fault String
  plainText : Except Fault String
  formatText : Except Fault String
  truth : Except Fault Bool
  equality : Leaf → Except Fault Bool
  digestLeaf : Except Fault Leaf

namespace AppObject

/-- An object for which no more was written than its text forms: it is written plainly within a
longer text, counts as true, and is equal to itself alone. -/
def ordinary (serial : Nat) (className : ClassName) (quoted : String)
    (plain : Except Fault String) : AppObject where
  serial := serial
  className := className
  quotedText := .ok quoted
  plainText := plain
  formatText := plain
  truth := .ok true
  equality leaf := .ok (leaf = .identity (some serial))
  digestLeaf := .ok (.identity (some serial))

/-- The object as another one sees it that is compared with it. -/
def leaf (held : AppObject) : Leaf :=
  match held.digestLeaf with
  | .ok leaf => leaf
  | .error _ => .identity (some held.serial)

/-- Whether two are one object. It has one number, and with that one leaf. -/
def isSame (held other : AppObject) : Bool := held.serial = other.serial && held.leaf = other.leaf

/-- Whether an object says that it is equal to a leaf. An answer that fails says nothing. -/
def answers (held : AppObject) (leaf : Leaf) : Bool := (held.equality leaf).toOption.getD false

end AppObject

/-- The identity of a bean: a domain and named components in order. -/
structure BeanName (α : Type) where
  domain : α
  components : List (String × α)
  deriving DecidableEq, Repr

structure BeanInstance (α : Type) where
  beanName : α
  className : α

/-- Which object a record is, where that matters, and of which derived class, if it is of one. -/
structure Stamp where
  identity? : Option Nat
  subclass? : Option Subclass
  deriving DecidableEq, Repr

/-- The stamp of a record that nothing else holds yet. -/
def Stamp.fresh (subclass? : Option Subclass) : Stamp := ⟨none, subclass?⟩

/-- One named attribute of a bean. -/
structure Attribute (α : Type) where
  stamp : Stamp
  name : α
  value : α

inductive Value where
  | null
  | bool (b : Bool)
  | int (n : Int)
  | float (identity? : Option Nat) (x : Binary64)
  | text (s : String)
  | buffer (kind : BufferKind) (bytes : List UInt8)
  | list (identity? : Option Nat) (items : List Value)
  | tuple (identity? : Option Nat) (items : List Value)
  | table (identity? : Option Nat) (entries : List (Value × Value))
  | mode (mode : DeliveryMode)
  | destination (stamp : Stamp) (kind : DestinationKind) (physicalName : Value)
  | beanName (stamp : Stamp) (name : BeanName Value)
  | beanInstance (stamp : Stamp) (bean : BeanInstance Value)
  | beanAttribute (item : Attribute Value)
  | attributeList (stamp : Stamp) (items : List (Attribute Value))
  | message (stamp : Stamp) (message : Message Value)
  | object (object : AppObject)
  | sized (serial : Nat) (size : Int)
  /-- An object with other holders. A field that it does not have is an unread extra. -/
  | shared (identity : Nat) (className : ClassName) (content : Unit → Value)
      (extra : String → Value)
  | unread

instance : Inhabited Value := ⟨.null⟩

/-- An ordered table: no two keys are the same, and a key stands where it was first set. -/
abbrev Table := List (Value × Value)

namespace Value

/-! ## Classes -/

def builtinClass (name : String) : ClassName := ⟨"builtins", name, name⟩
def managementClass (name : String) : ClassName := ⟨"brokerconsole.management.types", name, name⟩
def messagingClass (name : String) : ClassName := ⟨"brokerconsole.messaging.types", name, name⟩

def bufferClass : BufferKind → String
  | .bytes => "bytes"
  | .byteArray => "bytearray"
  | .view _ => "memoryview"

/-- The class of an instance, which is the derived class when there is one. -/
def classOr (subclass? : Option Subclass) (base : ClassName) : ClassName :=
  match subclass? with
  | some subclass => subclass.className
  | none => base

def classOf : Value → ClassName
  | .null => builtinClass "NoneType"
  | .bool _ => builtinClass "bool"
  | .int _ => builtinClass "int"
  | .float _ _ => builtinClass "float"
  | .text _ => builtinClass "str"
  | .buffer kind _ => builtinClass (bufferClass kind)
  | .list _ _ => builtinClass "list"
  | .tuple _ _ => builtinClass "tuple"
  | .table _ _ => builtinClass "dict"
  | .mode _ => messagingClass "DeliveryMode"
  | .destination stamp kind _ => classOr stamp.subclass? (messagingClass kind.className)
  | .beanName stamp _ => classOr stamp.subclass? (managementClass "ObjectName")
  | .beanInstance stamp _ => classOr stamp.subclass? (managementClass "ObjectInstance")
  | .beanAttribute item => classOr item.stamp.subclass? (managementClass "Attribute")
  | .attributeList stamp _ => classOr stamp.subclass? (managementClass "AttributeList")
  | .message stamp content => classOr stamp.subclass? (messagingClass content.kind.className)
  | .object held => held.className
  | .sized _ _ => ⟨"app.model", "Sized", "Sized"⟩
  | .shared _ className _ _ => className
  | .unread => builtinClass "object"

/-- The bare name of the class of a value, as error texts show it. -/
def className (value : Value) : String := value.classOf.name

/-! ## Shared objects -/

/-- A value as whoever looks at it finds it. -/
def opened : Value → Value
  | .shared _ _ content _ => content ()
  | value => value

/-- An extra field that an object was given, if it was given one of that name. -/
def extraField? (value : Value) (name : String) : Option Value :=
  match value with
  | .shared _ _ _ extra =>
    match extra name with
    | .unread => none
    | given => some given
  | _ => none

/-- Which object a value is, where it has an identity. The two delivery modes are one object each
and go by their numbers. -/
def identity? : Value → Option Nat
  | .float identity? _ => identity?
  | .mode m => some m.toNat
  | .list identity? _ => identity?
  | .tuple identity? _ => identity?
  | .table identity? _ => identity?
  | .destination stamp _ _ => stamp.identity?
  | .beanName stamp _ => stamp.identity?
  | .beanInstance stamp _ => stamp.identity?
  | .beanAttribute item => item.stamp.identity?
  | .attributeList stamp _ => stamp.identity?
  | .message stamp _ => stamp.identity?
  | .object held => some held.serial
  | .sized serial _ => some serial
  | .shared identity _ _ _ => some identity
  | _ => none

/-- Whether an object can change or be given extra fields after it was built, so that its holders
have to share it. -/
def isChangeable : Value → Bool
  | .list _ _ => true
  | .table _ _ => true
  | .attributeList _ _ => true
  | .message _ _ => true
  | .buffer .byteArray _ => true
  | .object _ => true
  | .sized _ _ => true
  | _ => false

end Value
end BrokerMaps
