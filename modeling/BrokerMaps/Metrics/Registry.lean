import BrokerMaps.Metrics.Library

/-!
# Registries

A registry holds counters in the order in which they were registered. A counter claims three series
names; it can be registered only if none of them is taken. Amounts are added as doubles.
-/
namespace BrokerMaps

abbrev Registry := List Family

namespace Family

/-- Creates a label value at zero, unless it has a number already. -/
def touch (family : Family) (value : String) : Family :=
  if known : value ∈ family.samples.map (·.1) then family
  else
    { family with
      samples := family.samples ++ [(value, .zero)]
      distinct := by
        rw [List.map_append, List.nodup_append]
        refine ⟨family.distinct, by simp, ?_⟩
        simp only [List.map_singleton, List.mem_singleton, forall_eq]
        rintro label isThere rfl
        exact known isThere }

def addTo (family : Family) (value : String) (amount : Binary64) : Family :=
  { family with
    samples := family.samples.map fun sample =>
      (sample.1, if sample.1 = value then sample.2.add amount else sample.2)
    distinct := by simpa [Function.comp_def] using family.distinct }

/-- The number that a label value has, if it is there. -/
def number? (family : Family) (label : String) : Option Binary64 := family.samples.lookup label

end Family

namespace Registry

def claims (registry : Registry) : List String := registry.flatMap Family.claims

/-- The counter with a base name. -/
def family? (registry : Registry) (base : String) : Option Family :=
  registry.find? fun family => family.base = base

/-- The number that a counter has for a label value, if the label value is there. -/
def sample? (registry : Registry) (base label : String) : Option Binary64 :=
  (registry.family? base).bind (·.number? label)

/-- Registers one family; nothing changes when a name is taken. -/
def register (registry : Registry) (family : Family) : Except Fault Registry :=
  if family.claims.any fun name => (claims registry).contains name then
    .error (.metric .seriesAlreadyClaimed)
  else .ok (registry ++ [family])

/-- Changes the counter with a base name. -/
def update (registry : Registry) (base : String) (change : Family → Family) : Registry :=
  match registry with
  | [] => []
  | family :: rest =>
    if family.base = base then change family :: rest else family :: update rest base change

/-- The amount of an increment as a double. The sign is looked at first. -/
def amountOf (amount : Value) : Except Fault Binary64 := do
  if ← amount.lessThan 0 then
    .error (.metric .negativeIncrement)
  match amount.toBinary64? with
  | some converted => converted
  | none => Value.unsupported "+=" (.float none .zero) amount

/-- Registries as a library of counters has them. -/
def library : CounterLibrary Registry where
  register registry nameSpace spec := registry.register (.ofSpec nameSpace spec)
  labels registry base label := registry.update base (·.touch label)
  increase registry base label amount :=
    (amountOf amount).map fun number => registry.update base (·.addTo label number)
  amountOf := amountOf
  extended registry nameSpace spec := registry ++ [.ofSpec nameSpace spec]
  added registry base label number := registry.update base (·.addTo label number)
  Claims registry name := name ∈ registry.claims
  Has registry base := (registry.family? base).isSome
  number? := sample?

/-- Registers the three counters under a namespace. -/
def registerCounters (registry : Registry) (nameSpace : String) : Registry × Option Fault :=
  library.registerCounters registry nameSpace

/-- One increment on the counters of a namespace: the registry afterwards, and the fault if it was
refused. -/
def increment (registry : Registry) (nameSpace : String) (request : Increment) :
    Registry × Option Fault :=
  library.increment registry nameSpace request

end Registry
end BrokerMaps
