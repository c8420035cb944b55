import BrokerMaps.Workspace.Basic

/-!
# Working with objects

Operations on the objects of a workspace by name. Fields of messages and items of attribute lists
may themselves be shared objects; then it is the shared object that changes.
-/
namespace BrokerMaps.Workspace

/-- Changes the object that a value refers to. -/
def replace (value changed : Value) : WorkspaceM Unit :=
  match value with
  | .shared identity _ _ _ => setObject identity changed
  | _ => pure ()

/-! ## Fields -/

/-- An object that shows no more of what it stands for than a text. -/
def standIn (className : ClassName) (shown : String) : Value :=
  .object (.ordinary 0 className shown (.ok shown))

/-- What can be read of a filter. -/
def linkField (workspace : Workspace) (link : Link) (field : String) : Except Fault Value :=
  match field, link with
  | "settings", .flattening _ settings _ _ => do
    let shown ← (settings.mapValues workspace.look).quoted
    return standIn ⟨"brokerconsole.settings", "FilterSettings", "FilterSettings"⟩ shown
  | "next_filter", .flattening next _ _ _ => .ok (workspace.look next)
  | "next_filter", .identity next => .ok (workspace.look next)
  | field, link => Value.shapeFault (.noAttribute link.kind.classOf.name field)

/-- A field of a value; what it was given takes precedence over what it has. -/
def getField (name field : String) : WorkspaceM Value := do
  let value ← valueOf name
  let workspace ← get
  match value.identity?.map fun identity => workspace.extraAt identity field with
  | none | some .unread =>
    match workspace.part? value with
    | some (.filter link) => MonadExcept.ofExcept (workspace.linkField link field)
    | _ => MonadExcept.ofExcept (value.field field)
  | some given => pure (workspace.look given)

/-- Refuses to replace what a filter shows of itself. -/
def checkSettable (value : Value) (field : String) : WorkspaceM Unit := do
  match (← get).part? value with
  | some part =>
    if part.properties.contains field then throw (.shape (.noSetter value.className field))
    else pure ()
  | none => pure ()

/-- Replaces a field and reads it again. -/
def setField (name field : String) (replacement : Value) : WorkspaceM Value := do
  let value ← valueOf name
  checkSettable value field
  match ← MonadExcept.ofExcept (value.opened.setField field replacement) with
  | some changed => replace value changed
  | none =>
    match value.identity? with
    | some identity => setExtra identity field replacement
    | none => pure ()
  getField name field

/-! ## Stores of messages -/

/-- The store of a role, found through a method of what a name stands for. -/
def storeIn (role : EntryRole) (owner : Value) (method : String) : WorkspaceM Value :=
  MonadExcept.ofExcept (Message.storeThrough role method owner)

/-- Sets an entry of a store, in the shared object when the store is one. -/
def setEntry (role : EntryRole) (name : String) (key value : Value) : WorkspaceM Unit := do
  let owner ← receiver name role.setter
  let store ← storeIn role owner role.setter
  let changed ← MonadExcept.ofExcept (Message.setEntry role store key value)
  match store, owner.opened with
  -- A store with other holders changes for all of them; any other is part of its message.
  | .shared _ _ _ _, _ => replace store changed
  | _, .message stamp content => replace owner (.message stamp (content.withStore role changed))
  | _, _ => pure ()

/-- The whole store of a role as it is now. -/
def entries (role : EntryRole) (name : String) : WorkspaceM Value := do
  let store ← storeIn role (← valueOf name) role.setter
  pure store.opened

def getEntry (role : EntryRole) (name : String) (key : Value) : WorkspaceM Value := do
  let owner ← receiver name role.getter
  let store ← storeIn role owner role.getter
  MonadExcept.ofExcept (Message.getEntry store key)

def entryNames (role : EntryRole) (name : String) : WorkspaceM (List Value) := do
  let owner ← receiver name role.lister
  let store ← storeIn role owner role.lister
  MonadExcept.ofExcept (Message.entryNames store)

/-! ## Sequences that grow -/

/-- A sequence with one more element. -/
def appended (sequence element : Value) : Except Fault Value := do
  sequence.checkCallable "append"
  match sequence.opened with
  | .list identity? items => return .list identity? (items ++ [element])
  | .attributeList stamp items => do
    let longer ← AttributeItems.append items element
    return .attributeList stamp longer
  | .buffer .byteArray bytes => do
    let byte ← element.toSingleByte
    return .buffer .byteArray (bytes ++ [byte])
  | _ => sequence.refuseCall "append"

/-- Writes one element to a stream message and answers with all of them. -/
def write (name : String) (element : Value) : WorkspaceM Value := do
  let owner ← receiver name "write"
  match owner.opened with
  | .message stamp ⟨header, .stream elements⟩ =>
    let changed ← MonadExcept.ofExcept (appended elements element)
    match elements with
    | .shared _ _ _ _ => replace elements changed
    | _ => replace owner (.message stamp ⟨header, .stream changed⟩)
    getField name "elements"
  | _ => lacks owner "write"

/-- The items of an attribute list when a name stands for one. -/
def attributeItems? (workspace : Workspace) (name : String) : Option AttributeItems :=
  match (workspace.names.lookup name).map fun kept => (workspace.look kept).opened with
  | some (.attributeList _ items) => some items
  | _ => none

/-- The items of an attribute list. What becomes of a copy of them leaves the list as it is. -/
def copyOfItems (name : String) : WorkspaceM AttributeItems := do
  let owner ← receiver name "as_list"
  match owner.opened with
  | .attributeList _ items => pure items
  | _ => lacks owner "as_list"

/-- Appends to a sequence and answers with all its items, if it is an attribute list. -/
def append (name : String) (element : Value) : WorkspaceM AttributeItems := do
  let owner ← receiver name "append"
  let changed ← MonadExcept.ofExcept (appended owner element)
  replace owner changed
  copyOfItems name

/-- The bytes that a byte array is extended by. -/
def extendingBytes (value : Value) : Except Fault (List UInt8) :=
  match value.opened with
  -- A buffer is copied as it is, however it reads its bytes.
  | .buffer _ bytes => .ok bytes
  | _ =>
    match value.elementsBehind 1 0 with
    | .ok elements => elements.mapM Value.toSingleByte
    | .error (.shape (.notIterable found)) => Value.shapeFault (.cannotExtend "bytearray" found)
    | .error fault => .error fault

/-- A sequence with the elements of a value, up to the first that it refuses. -/
def extended (sequence value : Value) : Except Fault (Value × Option Fault) :=
  match sequence.opened with
  | .list identity? items => do
    let more ← value.elementsBehind Value.elementWidth items.length
    return (.list identity? (items ++ more), none)
  | .attributeList stamp items => do
    if let .ok (_ :: _) := value.iterate then sequence.checkCallable "append"
    -- Being the same object matters here, not being equal.
    let itself := sequence.identity?.isSome && sequence.identity? = value.identity?
    let (longer, fault?) :=
      if itself then AttributeItems.extendByItself items else AttributeItems.extend items value
    return (.attributeList stamp longer, fault?)
  | .buffer .byteArray bytes => do
    let added ← extendingBytes value
    return (.buffer .byteArray (bytes ++ added), none)
  | _ => sequence.refuseCall "extend"

/-- Extends a sequence and answers with all its items, if it is an attribute list. What was appended
before a failure stays. -/
def extend (name : String) (value : Value) : WorkspaceM AttributeItems := do
  let owner ← receiver name "extend"
  let (changed, fault?) ← MonadExcept.ofExcept (extended owner value)
  replace owner changed
  match fault? with
  | some fault => throw fault
  | none => copyOfItems name

/-! ## Bean names -/

/-- What is seen after a copy of a name's components was changed. -/
structure EditedCopy where
  copy : Table
  written : String
  held : Value

/-- The value of a component, null when there is none of that name. -/
def component (owner key : Value) : Except Fault Value :=
  match owner with
  | .beanName _ held => held.component key
  | owner => owner.refuseCall "get_key_property"

/-- Sets a key in what a value gives as its components, which for a name is a copy. -/
def editCopy (name : String) (key value : Value) : WorkspaceM EditedCopy := do
  let copy ← getField name "key_property_list"
  let changed ← MonadExcept.ofExcept (copy.assign key value)
  replace copy changed
  let owner ← valueOf name
  match changed with
  | .table _ entries =>
    let written ← MonadExcept.ofExcept owner.plain
    let held ← MonadExcept.ofExcept (component owner key)
    pure ⟨entries, written, held⟩
  | changed => lacks changed "items"

/-- Sets a key in what a name was built from, and answers with the name's own components. -/
def editOrigin (name : String) (origin key value : Value) :
    WorkspaceM (List (String × Value)) := do
  let changed ← MonadExcept.ofExcept (origin.assign key value)
  replace origin changed
  match ← valueOf name with
  | .beanName _ held => pure held.components
  | other => lacks other "key_property_list"

end BrokerMaps.Workspace
