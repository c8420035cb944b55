import BrokerMaps.Metrics.Counter

/-!
# A library of counters

The counters of the transform are kept by a library, in registries of a type of its own. What is
used of it is registering a counter, asking a counter for a label value and increasing the number of
that, and `CounterLibrary` has an operation for each. `CounterLibrary.Lawful` is what is documented
of these operations and relied on.

The counters are registered one after the other, and what was registered before a failure stays.
Asking for a label value creates it before the amount is looked at, so a refused increment can leave
a new series behind.
-/
namespace BrokerMaps

/-- A library of counters, as far as it is used. A counter is known by its base name in the registry
that it was registered in. -/
structure CounterLibrary (σ : Type) where
  /-- Registers a counter under a namespace. -/
  register : σ → String → CounterSpec → Except Fault σ
  /-- Asks the counter with a base name for a label value. -/
  labels : σ → String → String → σ
  /-- Increases the number that the counter with a base name has for a label value. -/
  increase : σ → String → String → Value → Except Fault σ
  /-- An amount as it is added to a number, if it is one that can be. -/
  amountOf : Value → Except Fault Binary64
  /-- A registry with one more counter. -/
  extended : σ → String → CounterSpec → σ
  /-- A registry in which a number has become greater by an amount. -/
  added : σ → String → String → Binary64 → σ
  /-- A series name is claimed in a registry. -/
  Claims : σ → String → Prop
  /-- There is a counter with a base name. -/
  Has : σ → String → Prop
  /-- The number that the counter with a base name has for a label value. -/
  number? : σ → String → String → Option Binary64

namespace CounterLibrary

variable {σ : Type}

/-- What is documented of a library of counters. -/
structure Lawful (library : CounterLibrary σ) : Prop where
  /-- A counter with a name that is claimed is refused, and nothing is registered. -/
  register_of_claimed {state nameSpace spec name} :
    name ∈ (Family.ofSpec nameSpace spec).claims → library.Claims state name →
      library.register state nameSpace spec = .error (.metric .seriesAlreadyClaimed)
  /-- Any other counter is registered. -/
  register_of_free {state nameSpace spec} :
    (∀ name ∈ (Family.ofSpec nameSpace spec).claims, ¬ library.Claims state name) →
      library.register state nameSpace spec = .ok (library.extended state nameSpace spec)
  /-- A counter claims its base name and what the numbers and the times of its creation are shown
  under, and no other name. -/
  claims_extended {state nameSpace spec name} :
    library.Claims (library.extended state nameSpace spec) name ↔
      library.Claims state name ∨ name ∈ (Family.ofSpec nameSpace spec).claims
  has_extended {state nameSpace spec base} :
    library.Has (library.extended state nameSpace spec) base ↔
      library.Has state base ∨ base = Family.baseName nameSpace spec.name
  /-- A counter has no label values before any is asked for. -/
  number?_extended {state nameSpace spec} :
    library.number? (library.extended state nameSpace spec) = library.number? state
  number?_of_not_has {state base label} :
    ¬ library.Has state base → library.number? state base label = none
  claims_of_has {state base} : library.Has state base → library.Claims state base
  /-- A label value is created at zero when it is first asked for. -/
  number?_labels {state base label} :
    library.Has state base → library.number? (library.labels state base label) base label =
      some ((library.number? state base label).getD .zero)
  /-- No other number changes. -/
  number?_labels_of_ne {state base label other sought} :
    (other, sought) ≠ (base, label) →
      library.number? (library.labels state base label) other sought =
        library.number? state other sought
  /-- A label value that is there is not created again. -/
  labels_of_isSome {state base label} :
    (library.number? state base label).isSome → library.labels state base label = state
  claims_labels {state base label} :
    library.Claims (library.labels state base label) = library.Claims state
  has_labels {state base label} :
    library.Has (library.labels state base label) = library.Has state
  /-- A negative amount is refused. -/
  amountOf_of_negative {amount} :
    amount.lessThan 0 = .ok true →
      library.amountOf amount = .error (.metric .negativeIncrement)
  amountOf_one : library.amountOf (.int 1) = .ok .one
  /-- A refused amount changes nothing. -/
  increase_of_refused {state base label amount fault} :
    library.amountOf amount = .error fault →
      library.increase state base label amount = .error fault
  increase_of_accepted {state base label amount number} :
    library.amountOf amount = .ok number →
      library.increase state base label amount = .ok (library.added state base label number)
  /-- What is added is added to one number. -/
  number?_added {state base label other sought amount} :
    library.number? (library.added state base label amount) other sought =
      (library.number? state other sought).map fun number =>
        if (other, sought) = (base, label) then number.add amount else number
  claims_added {state base label amount} :
    library.Claims (library.added state base label amount) = library.Claims state
  has_added {state base label amount} :
    library.Has (library.added state base label amount) = library.Has state

/-! ## Counting with a library -/

/-- Registers counters in order up to the first failure, keeping those before it. -/
def registerAll (library : CounterLibrary σ) (state : σ) (nameSpace : String) :
    List CounterSpec → σ × Option Fault
  | [] => (state, none)
  | spec :: rest =>
    match library.register state nameSpace spec with
    | .ok larger => library.registerAll larger nameSpace rest
    | .error fault => (state, some fault)

/-- Registers the three counters under a namespace. -/
def registerCounters (library : CounterLibrary σ) (state : σ) (nameSpace : String) :
    σ × Option Fault :=
  library.registerAll state nameSpace transformCounters

def specOf (name : String) : Except Fault CounterSpec :=
  match transformCounters.find? fun spec => spec.name = name with
  | some spec => .ok spec
  | none => .error (.metric (.unknownMetric name))

def labelValueOf (spec : CounterSpec) (tags? : Option (List (String × Value))) :
    Except Fault String :=
  match (tags?.getD []).lookup spec.label with
  | none | some .null => .error (.metric (.missingTag spec.name spec.label))
  | some value => value.plain

/-- One increment on the counters of a namespace: the registry afterwards, and the fault if it was
refused. -/
def increment (library : CounterLibrary σ) (state : σ) (nameSpace : String)
    (request : Increment) : σ × Option Fault :=
  match specOf request.name with
  | .error fault => (state, some fault)
  | .ok spec =>
    match labelValueOf spec request.tags? with
    | .error fault => (state, some fault)
    | .ok value =>
      let base := Family.baseName nameSpace spec.name
      -- From here on the label value is there, even if the amount is refused.
      let touched := library.labels state base value
      match library.increase touched base value request.amount with
      | .error fault => (touched, some fault)
      | .ok larger => (larger, none)

end CounterLibrary
end BrokerMaps
