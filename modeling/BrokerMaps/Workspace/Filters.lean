import BrokerMaps.Workspace.Basic

/-!
# Working with filters, writers and sinks

Operations on the filters of a workspace and on the console they report to. A filter can be given
anything as its writer, its sink or the next filter. A writer that counts as false when it is to be
used is as good as none, a sink is so when it counts as false from the start, and what is unfit
fails when it is used.

A filter is used as it is at that time: its chain is followed from value to value, and every extra
field that stands in the way of a step is taken along.
-/
namespace BrokerMaps.Workspace

/-! ## Writers -/

def addWriter (name : String) (writer : Writer) : WorkspaceM Unit := do
  let workspace ← get
  let (number, console) := workspace.console.addWriter writer
  set { workspace with console := console }
  bindPart name writer.classOf (.writer number)

/-- Installs a value as the writer to use where no other is named. -/
def install (name : String) : WorkspaceM Unit := do
  let kept ← identified (← valueOf name)
  modify fun workspace => { workspace with installed? := some kept }

/-- Writes one line through what a name stands for, or through the installed writer. -/
def printLine (text : Value) (name? : Option String) : WorkspaceM Unit := do
  let workspace ← get
  let writer? ← name?.mapM fun name => do
    pure (workspace.writerEndpoint (← valueOf name))
  onConsole do Console.writeLine ((← get).route writer?) text

/-- What a stream writer has written so far. -/
def output (name : String) : WorkspaceM String := do
  let value ← valueOf name
  let workspace ← get
  let number? := (workspace.part? value).bind Part.writer?
  match number?.bind fun number => workspace.console.writers[number]? with
  | some (.stream lines) => pure (Console.streamText lines)
  | _ => throw (.unknownVariable name)

/-! ## Sinks -/

def addSink (name : String) (sink : Sink) : WorkspaceM Unit := do
  let workspace ← get
  let (number, console) := workspace.console.addSink sink
  set { workspace with console := console }
  bindPart name sink.classOf (.sink number)

/-- The sink that a name stands for, if it stands for one. -/
def sink? (name : String) : WorkspaceM (Option Sink) := do
  let value ← valueOf name
  let workspace ← get
  let number? := (workspace.part? value).bind Part.sink?
  pure (number?.bind fun number => workspace.console.sinks[number]?)

/-- Counters under a namespace, in the registry of another sink when one is named. -/
def addCounters (name nameSpace : String) (sharedWith? : Option String) : WorkspaceM Unit := do
  let shared? ← sharedWith?.mapM fun other => do
    match ← sink? other with
    | some (.counters registry _) => pure registry
    | _ => throw (.unknownVariable other)
  let number ← onConsole (Console.addCounters nameSpace shared?)
  match (← get).console.sinks[number]? with
  | some sink => bindPart name sink.classOf (.sink number)
  | none => pure ()

/-- Counts under a name. What is recorded may be shared objects. -/
def count (name : String) (request : Increment) : WorkspaceM Unit := do
  let endpoint := (← get).sinkEndpoint (← valueOf name)
  let amount ← identified request.amount
  let tags? ← request.tags?.mapM fun tags => tags.mapM fun tag => do
    pure (tag.1, ← identified tag.2)
  match ← sink? name with
  | some (.recording _) => onConsole (Console.count (some endpoint) ⟨request.name, amount, tags?⟩)
  | _ => onConsole (Console.count (some endpoint) request)

/-- What a sink has recorded: requests, or the families of its registry. -/
inductive Samples where
  | requests (requests : List Increment)
  | families (families : Registry)

def samples (name : String) : WorkspaceM Samples := do
  let found? ← sink? name
  let workspace ← get
  match found? with
  | some (.recording requests) =>
    pure (.requests (requests.map fun request =>
      { request with
        amount := workspace.look request.amount
        tags? := request.tags?.map fun tags =>
          tags.map fun tag => (tag.1, workspace.look tag.2) }))
  | some (.counters registry _) =>
    pure (.families (workspace.console.registries[registry]?.getD []))
  | _ => pure (.requests [])

/-! ## Building filters -/

def addLink (name : String) (link : Link) : WorkspaceM Unit :=
  bindPart name link.kind.classOf (.filter link)

/-- A filter that answers with fixed elements. -/
def addFixed (name : String) (results : List Value) : WorkspaceM Unit := do
  let kept ← results.mapM identified
  addLink name (.fixed kept)

/-- A filter that answers with the elements that a value has now. What becomes of the value later
is nothing to the filter. -/
def addFixedFrom (name : String) (results : Value) : WorkspaceM Unit := do
  let items ← MonadExcept.ofExcept results.iterate
  addFixed name items

/-- A filter that keeps what the next one answers; null is no next filter. -/
def addIdentity (name : String) (next : Value) : WorkspaceM Unit := do
  let kept ← identified next
  addLink name (.identity kept)

/-- A flattening filter. Its settings hold the values that they were given. -/
def addFlattening (name : String) (next : Value) (settings : Settings) (writer sink : Value) :
    WorkspaceM Unit := do
  let counts ← MonadExcept.ofExcept sink.truth
  let headerPrefix ← identified settings.headerPrefix
  let customPrefix ← identified settings.customPrefix
  let bodyPrefix ← identified settings.bodyPrefix
  let chunkSize ← identified settings.chunkSize
  let next ← identified next
  let writer ← identified writer
  let sink ← identified sink
  let kept := { settings with headerPrefix, customPrefix, bodyPrefix, chunkSize }
  addLink name (.flattening next kept writer (if counts then some sink else none))

/-! ## Filters as they are now -/

/-- The writer of a filter; none when the value counts as false. -/
def ownWriter? (workspace : Workspace) (value : Value) : Option Endpoint :=
  match value.truth with
  | .ok false => none
  | .ok true => some (workspace.writerEndpoint value)
  | .error fault => some (.error fault)

/-- The filter that a value is, as it is queried; null is none. A filter is built after the next
one, so a chain is no longer than there are parts. -/
def nextFilter? (workspace : Workspace) (filterAt : Value → Option Link → Filter)
    (next : Value) : Option Filter :=
  let value := workspace.look next
  if value.isNull then none
  else
    match value.checkCallable "query", workspace.part? value with
    | .error fault, _ => some (.unfit fault)
    | .ok _, some (.filter link) => some (filterAt value (some link))
    | .ok _, _ => some (filterAt value none)

/-- A filter and those after it; a value that is no filter fails when it is queried. -/
def filterAt (workspace : Workspace) : Nat → Value → Option Link → Filter
  -- Never reached: the count starts above the number of parts.
  | 0, _, _ => .unfit .tooDeep
  | links + 1, itself, link? =>
    match link? with
    | some (.fixed results) => .fixed (results.map workspace.look)
    | some (.identity next) =>
      .identity itself (workspace.nextFilter? (filterAt workspace links) next)
    | some (.flattening next settings writer sink?) =>
      .flattening
        { flattener := ⟨settings.mapValues workspace.look, itself⟩
          writer? := workspace.ownWriter? (workspace.look writer)
          sink? := sink?.map fun sink => workspace.sinkEndpoint (workspace.look sink) }
        (workspace.nextFilter? (filterAt workspace links) next)
    | none => .unfit (.shape (.noAttribute itself.className "query"))

/-- A filter as it is now, provided that a method of it can be called. -/
def filterOf (name method : String) : WorkspaceM Filter := do
  let value ← receiver name method
  let workspace ← get
  match workspace.part? value with
  | some (.filter link) => pure (workspace.filterAt (workspace.parts.length + 1) value (some link))
  | _ => lacks value method

/-! ## Using filters -/

def transform (name : String) (value : Value) : WorkspaceM (Option Value) := do
  let filter ← filterOf name "transform_element"
  onConsole (filter.transformElement value)

def transformList (name : String) (values : Value) : WorkspaceM (List Value) := do
  let filter ← filterOf name "transform_list"
  onConsole (filter.transformList values)

def query (name : String) : WorkspaceM (List Value) := do
  let filter ← filterOf name "query"
  onConsole filter.query

/-- Queries a filter and keeps the list that it answers with under a name. The list is new each
time. -/
def queryInto (name answer : String) : WorkspaceM (List Value) := do
  let results ← query name
  bindValue answer (.list none results)
  pure results

/-- The answer of a call: one value or nothing, or the list of a list method. -/
inductive CallResult where
  | one (value? : Option Value)
  | many (values : List Value)

/-- Calls a method of a filter by its name. -/
def call (name method : String) (value : Value) : WorkspaceM CallResult := do
  let filter ← filterOf name method
  match filter, Shape.ofMethod? method, method with
  | .flattening config _, some shape, _ =>
    let map ← onConsole (Filter.flattenDirectly config.flattener shape value)
    pure (.one (some (.table none map)))
  | _, _, "transform_element" => .one <$> transform name value
  | _, _, "transform_list" => .many <$> transformList name value
  | _, _, "query" => .many <$> query name
  | _, _, _ => lacks (← valueOf name) method

/-- The classes that a filter can transform, in order. -/
def supportedTypes (name : String) : WorkspaceM (List String) := do
  let _ ← filterOf name "supported_types"
  pure (Shape.all.map fun shape => shape.className.qualified)

end BrokerMaps.Workspace
