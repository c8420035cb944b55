import BrokerMaps.Bean.AttributeList
import BrokerMaps.Bean.Name
import BrokerMaps.Message.Store

/-!
# Construction by class name

Building a destination, a bean record or an attribute list from the list of its arguments, as an
instance of the class itself or of a class derived from it. The number of arguments is checked
before anything else and reported in the name of the class itself, counting the object under
construction.
-/
namespace BrokerMaps.Value

/-- Refuses a name that no class of the application can have. -/
def checkClassName (name : String) : Except Fault Unit :=
  if name.toList.contains '\x00' then shapeFault .unusableClassName else .ok ()

/-- The classes that are built from a list of arguments. -/
inductive Constructible where
  | destination (kind : DestinationKind)
  | beanName
  | beanInstance
  | beanAttribute
  | attributeList
  deriving DecidableEq, Repr

namespace Constructible

def all : List Constructible :=
  [.destination .queue, .destination .topic, .destination .plain, .beanName, .beanInstance,
    .beanAttribute, .attributeList]

def className : Constructible → String
  | .destination kind => kind.className
  | .beanName => "ObjectName"
  | .beanInstance => "ObjectInstance"
  | .beanAttribute => "Attribute"
  | .attributeList => "AttributeList"

def ofClassName? (name : String) : Option Constructible := all.find? (·.className = name)

def missing (target : Constructible) (argument : String) : Except Fault Value :=
  shapeFault (.missingArgument target.className argument)

def tooMany (target : Constructible) (least most given : Nat) : Except Fault Value :=
  shapeFault (.tooManyArguments target.className (least + 1) (most + 1) (given + 1))

/-- Builds an instance; `subclass?` is the derived class, if any. -/
def build (target : Constructible) (subclass? : Option Subclass) (arguments : List Value) :
    Except Fault Value :=
  match target, arguments with
  | .destination kind, [physical] => .ok (.destination (.fresh subclass?) kind physical)
  | .destination kind, [] => missing (.destination kind) "physical_name"
  | .destination kind, arguments => tooMany (.destination kind) 1 1 arguments.length
  | .beanName, [] => missing .beanName "domain"
  | .beanName, [domain] =>
    (BeanName.build domain (.table none [])).map (.beanName (.fresh subclass?))
  | .beanName, [domain, components] =>
    (BeanName.build domain components).map (.beanName (.fresh subclass?))
  | .beanName, arguments => tooMany .beanName 1 2 arguments.length
  | .beanInstance, [] => missing .beanInstance "object_name"
  | .beanInstance, [identity] => .ok (.beanInstance (.fresh subclass?) ⟨identity, .null⟩)
  | .beanInstance, [identity, reported] =>
    .ok (.beanInstance (.fresh subclass?) ⟨identity, reported⟩)
  | .beanInstance, arguments => tooMany .beanInstance 1 2 arguments.length
  | .beanAttribute, [] => missing .beanAttribute "name"
  | .beanAttribute, [name] => .ok (.beanAttribute ⟨.fresh subclass?, name, .null⟩)
  | .beanAttribute, [name, value] => .ok (.beanAttribute ⟨.fresh subclass?, name, value⟩)
  | .beanAttribute, arguments => tooMany .beanAttribute 1 2 arguments.length
  | .attributeList, [] => .ok (.attributeList (.fresh subclass?) [])
  | .attributeList, [items] => (AttributeItems.build items).map (.attributeList (.fresh subclass?))
  | .attributeList, arguments => tooMany .attributeList 0 1 arguments.length

end Constructible
end BrokerMaps.Value
