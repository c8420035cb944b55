import BrokerMaps.Console.Basic

/-!
# Chains of filters

A query runs down a chain of filters to the one that answers it, and the answer comes back up, each
filter transforming the elements one after the other. An element that is transformed to nothing is
dropped; the first failure ends the whole query, with the effects of the elements before it.

The last filter answers every query with the elements it was given at the start. A chain may also
end in something that is no filter, which shows when it is queried.

The steps that a filter takes on the way are methods of its own. A filter is an object too, and one
of its extra fields may stand in the way of such a step; then everything before the step is done,
and the query fails at it.
-/
namespace BrokerMaps

/-! ## Kinds of filters -/

inductive FilterKind where
  | fixed
  | identity
  | flattening
  deriving DecidableEq, Repr

namespace FilterKind

def classOf : FilterKind → ClassName
  | .fixed => ⟨"brokerconsole.filters.base", "StaticQueryFilter", "StaticQueryFilter"⟩
  | .identity => ⟨"app.model", "IdentityFilter", "IdentityFilter"⟩
  | .flattening =>
    ⟨"brokerconsole.filters.map_transform", "MapTransformFilter", "MapTransformFilter"⟩

/-- Whether filters of a kind have a method of a name. -/
def offers (kind : FilterKind) (method : String) : Bool :=
  match kind with
  | .fixed => method = "query"
  | .identity => ["query", "transform_list", "transform_element"].contains method
  | .flattening =>
    ["query", "transform_list", "transform_element", "supported_types"].contains method
      || (Shape.ofMethod? method).isSome

/-- What can be read of a filter of a kind without calling a method. -/
def properties : FilterKind → List String
  | .flattening => ["next_filter", "settings"]
  | .identity => ["next_filter"]
  | .fixed => []

end FilterKind

/-! ## Filters -/

/-- What the flattening filter works with. Without a writer it uses the installed one. -/
structure FlattenConfig where
  flattener : Flattener
  writer? : Option Endpoint
  sink? : Option Endpoint

inductive Filter where
  | fixed (results : List Value)
  /-- Keeps every element as it is; `itself` is the filter as an object. -/
  | identity (itself : Value) (next? : Option Filter)
  | flattening (config : FlattenConfig) (next? : Option Filter)
  /-- Something that cannot be queried. -/
  | unfit (fault : Fault)

namespace Filter

/-- Transforms one object and delivers the report. -/
def FlattenConfig.transform (config : FlattenConfig) (value : Value) :
    ConsoleM (Option PropertyMap) :=
  Console.deliver config.writer? config.sink? (config.flattener.report value)

def noSuchMethod {α : Type} (kind : FilterKind) (name : String) : ConsoleM α :=
  throw (.shape (.noAttribute kind.classOf.name name))

/-- Refuses a step that an extra field of the filter stands in the way of. -/
def checkStep (filter : Filter) (method : String) : ConsoleM Unit :=
  match filter with
  | .identity itself _ => MonadExcept.ofExcept (itself.checkCallable method)
  | .flattening config _ => MonadExcept.ofExcept (config.flattener.itself.checkCallable method)
  | _ => pure ()

/-- Transforms one element; nothing is `none`. -/
def transformElement (filter : Filter) (element : Value) : ConsoleM (Option Value) :=
  match filter with
  | .flattening config _ => do
    let map? ← FlattenConfig.transform config element
    pure (map?.map (.table none))
  | .identity _ _ => pure (if element.isNull then none else some element)
  | .fixed _ => noSuchMethod .fixed "transform_element"
  | .unfit fault => throw fault

/-- Transforms elements in order and keeps what is not nothing. -/
def transformAll (filter : Filter) : List Value → ConsoleM (List Value)
  | [] => pure []
  | element :: rest => do
    checkStep filter "transform_element"
    let first ← transformElement filter element
    let others ← transformAll filter rest
    pure (first.toList ++ others)

/-- Transforms what iterating over a value yields. -/
def transformList (filter : Filter) (elements : Value) : ConsoleM (List Value) := do
  let items ← MonadExcept.ofExcept elements.iterate
  transformAll filter items

/-- What a filter makes of the answer of the next one. -/
def transformAnswer (filter : Filter) (answer : List Value) : ConsoleM (List Value) := do
  checkStep filter "transform_list"
  transformAll filter answer

def noNextFilter {α : Type} (kind : FilterKind) : ConsoleM α :=
  throw (.noNextFilter kind.classOf.name)

def query : Filter → ConsoleM (List Value)
  | .fixed results => pure results
  | .identity _ none => noNextFilter .identity
  | .identity itself (some next) => do
    let answer ← query next
    transformAnswer (.identity itself (some next)) answer
  | .flattening _ none => noNextFilter .flattening
  | .flattening config (some next) => do
    let answer ← query next
    transformAnswer (.flattening config (some next)) answer
  | .unfit fault => throw fault

/-- Reads a value as being of a shape and logs what that logs, with none of the other effects of
transforming it. -/
def flattenDirectly (flattener : Flattener) (shape : Shape) (value : Value) :
    ConsoleM PropertyMap := do
  let flattened ← MonadExcept.ofExcept (flattenAs flattener shape value)
  modify (·.logAll flattened.records)
  pure flattened.map

end Filter
end BrokerMaps
