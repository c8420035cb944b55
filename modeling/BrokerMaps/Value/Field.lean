import BrokerMaps.Bean.Name

/-!
# Fields by name

Reading and replacing a field of a value by the field's name. The fields of beans and destinations
are frozen, and so are the name and the number of a delivery mode. The fields of messages can be
replaced by anything at all. An object of a class that the application derived or wrote takes extra
fields of any other name, and so does a delivery mode. The methods of such an object give way to an
extra field; the methods of every other object are read-only. A method that is read like a field
shows which object it belongs to.
-/
namespace BrokerMaps.Value

/-! ## Methods -/

/-- The methods of every sequence that can grow. -/
def growingMethods : List String :=
  ["append", "clear", "copy", "count", "extend", "index", "insert", "pop", "remove", "reverse"]

def tableMethods : List String :=
  ["clear", "copy", "get", "items", "keys", "pop", "popitem", "setdefault", "update", "values"]

/-- The methods that messages of a kind have besides those of all messages. -/
def kindMethods : MessageKind → List String
  | .map => ["map_names", "get_object", "set_object"]
  | .stream => ["write"]
  | _ => []

/-- The methods of a list, a table and the like. -/
def builtinMethods : Value → List String
  | .list _ _ => "sort" :: growingMethods
  | .tuple _ _ => ["count", "index"]
  | .table _ _ => tableMethods
  | .buffer .byteArray _ => growingMethods
  | _ => []

/-- The methods of a bean or a message, each with the class that it comes from. -/
def ownMethods : Value → List (String × String)
  | .beanName _ _ => [("parse", "ObjectName"), ("get_key_property", "ObjectName")]
  | .attributeList _ _ =>
    ["append", "extend", "as_list"].map fun method => (method, "AttributeList")
  | .message _ content =>
    ["get_property", "property_names", "set_property"].map (fun method => (method, "Message"))
      ++ (kindMethods content.kind).map fun method => (method, content.kind.className)
  | _ => []

/-- The methods of the class of a value. -/
def methods (value : Value) : List String :=
  value.opened.builtinMethods ++ value.opened.ownMethods.map (·.1)

/-- Reading a name is reading from the class; every other method belongs to an object. -/
def methodHolder (value : Value) (method : String) : Except Fault String :=
  if method = "parse" then .ok ("<class '" ++ value.classOf.shown ++ "'>") else value.quoted

/-- A method read like a field, if it comes from one of the classes here. -/
def methodField (value : Value) (name : String) : Except Fault Value :=
  match value.ownMethods.lookup name with
  | some owner => do
    let holder ← value.methodHolder name
    let shown := "<bound method " ++ owner ++ "." ++ name ++ " of " ++ holder ++ ">"
    return .object (.ordinary 0 (builtinClass "method") shown (.ok shown))
  | none => shapeFault (.noAttribute value.className name)

/-! ## Reading -/

/-- A field that every object of the class has. -/
def ownField (value : Value) (name : String) : Except Fault Value :=
  match value, name with
  | .mode m, "name" => .ok (.text m.title)
  | .mode m, "value" => .ok (.int m.toNat)
  | .destination _ _ physical, "physical_name" => .ok physical
  | .destination _ kind _, "scheme" => .ok (.text kind.scheme)
  | .beanName _ held, "domain" => .ok held.domain
  | .beanName _ held, "key_properties" => .ok (.table none held.toTable)
  | .beanName _ held, "key_property_list" => .ok (.table none held.toTable)
  | .beanInstance _ bean, "object_name" => .ok bean.beanName
  | .beanInstance _ bean, "class_name" => .ok bean.className
  | .beanAttribute item, "name" => .ok item.name
  | .beanAttribute item, "value" => .ok item.value
  | .attributeList _ items, "_items" => .ok (.list none (items.map .beanAttribute))
  | .message _ ⟨_, .bytes body⟩, "body_length" => body.length.map fun length => .int length
  | .message stamp content, name =>
    match content.field? name with
    | some held => .ok held
    | none => methodField (.message stamp content) name
  | value, name => methodField value name

/-- A field of a value; an extra field counts when the class has none of that name. -/
def field (value : Value) (name : String) : Except Fault Value :=
  match value.extraField? name with
  | some given => .ok given
  | none => value.opened.ownField name

/-! ## Calls -/

/-- Refuses a call of a method that the value does not offer. An extra field of the method's name
stands in its way, but that is noticed only when it is called. -/
def checkOffers (value : Value) (method : String) : Except Fault Unit :=
  if value.methods.contains method || (value.extraField? method).isSome then .ok ()
  else shapeFault (.noAttribute value.className method)

/-! ## Writing -/

/-- The names of the frozen fields of a value; `none` when its fields are not frozen. -/
def frozenFields? : Value → Option (List String)
  | .destination _ _ _ => some ["physical_name"]
  | .beanName _ _ => some ["domain", "key_properties"]
  | .beanInstance _ _ => some ["object_name", "class_name"]
  | .beanAttribute _ => some ["name", "value"]
  | _ => none

/-- Whether a value takes fields that its class does not have. -/
def takesExtras : Value → Bool
  | .attributeList stamp _ => stamp.subclass?.isSome
  | .message stamp _ => stamp.subclass?.isSome
  | .mode _ => true
  | .object _ => true
  | .sized _ _ => true
  | _ => false

/-- The value after replacing a field; `none` when the field is an extra one and the value itself
stays as it is. -/
def setField (value : Value) (name : String) (replacement : Value) :
    Except Fault (Option Value) :=
  match value.frozenFields? with
  | some fields =>
    if fields.contains name then shapeFault (.frozenField name) else shapeFault .unknownFrozenField
  | none =>
    match value with
    | .message stamp content =>
      match content.set? name replacement with
      | some changed => .ok (some (.message stamp changed))
      | none =>
        if content.kind = .bytes && name = "body_length" then
          shapeFault (.noSetter value.classOf.path name)
        else addField value name
    | .mode m =>
      if ["name", "value"].contains name then shapeFault (.fixedMember name)
      else addField (.mode m) name
    | value => addField value name
where
  addField (value : Value) (name : String) : Except Fault (Option Value) :=
    if value.takesExtras then .ok none
    else if value.methods.contains name then
      shapeFault (.readOnlyAttribute value.className name)
    else shapeFault (.noAttribute value.className name)

end BrokerMaps.Value
