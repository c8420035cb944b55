import BrokerMaps.Proofs.Metrics.Registries

/-!
# Refused increments

An increment names a label value of a counter before its amount is looked at. A request that names
none is refused and leaves the registry as it is. One that is refused for its amount has asked for
the label value by then, so the label value has a number from then on, which is zero if it is new.

## Main result

`Registry.increment_refused`: in every state that increments lead to, a label value has a number
exactly when a request named it, and the number is what the accepted ones add up to. What a refused
request changes is at most that the label value it names is there, at zero.

## Proof strategy

What the requests of a run make of a number is told from the laws of the library
(`CounterLibrary.Lawful.number?_afterIncrements`), and registries obey them (`Registry.lawful`).
-/
namespace BrokerMaps

/-- What requests make the number of a label value: nothing where none of them names it, and
otherwise the amounts that could be counted, added up in their order. -/
def Increment.total? (spec : CounterSpec) (label : String) (requests : List Increment) :
    Option Binary64 :=
  Registry.library.total? spec label requests

namespace Registry

variable {registry : Registry} {nameSpace : String} {spec : CounterSpec} {label : String}
  {fault : Fault}

/-- The registry after requests to the counters of a namespace, whether they were refused or
not. -/
def afterIncrements (registry : Registry) (nameSpace : String) (requests : List Increment) :
    Registry :=
  requests.foldl (fun now request => (now.increment nameSpace request).1) registry

/-- All counters of a namespace are there after requests to them, and were there before. -/
theorem has_afterIncrements (succeeds : (registerCounters registry nameSpace).2 = none)
    (known : spec ∈ transformCounters) (requests : List Increment) :
    library.Has (((registerCounters registry nameSpace).1).afterIncrements nameSpace requests)
      (Family.baseName nameSpace spec.name) := by
  have isThere := (lawful.counts_registerCounters known succeeds).has
  exact (congrFun (lawful.has_afterIncrements _ nameSpace requests) _).mpr isThere

/-- Newly registered counters have no numbers, so after requests they have what these add up to. -/
theorem sample?_afterIncrements (succeeds : (registerCounters registry nameSpace).2 = none)
    (known : spec ∈ transformCounters) (requests : List Increment) :
    (((registerCounters registry nameSpace).1).afterIncrements nameSpace requests).sample?
        (Family.baseName nameSpace spec.name) label = Increment.total? spec label requests := by
  have counts := lawful.counts_registerCounters known succeeds
  exact lawful.number?_afterIncrements known counts.has (counts.number? label) requests

/-- In every state that increments of newly registered counters lead to, refused ones among them, a
label value has a number exactly when a request named it, and the number is what the amounts that
could be counted add up to. An increment is refused because it names no label value, and then it
changes nothing, or for its amount, as a negative one is. Then it leaves every number as it is and
puts the label value that it names there, at zero, unless it was there before, in which case
nothing has changed. -/
theorem increment_refused {start : Registry}
    (succeeds : (registerCounters start nameSpace).2 = none) (requests : List Increment) :
    let reached := (registerCounters start nameSpace).1.afterIncrements nameSpace requests
    (∀ spec ∈ transformCounters, ∀ label,
      reached.sample? (Family.baseName nameSpace spec.name) label
        = Increment.total? spec label requests)
    ∧ ∀ request : Increment,
      let after := (reached.increment nameSpace request).1
      (∀ fault, (reached.increment nameSpace request).2 = some fault ↔
        request.NamesNone fault
          ∨ (∃ spec label, request.Names spec label) ∧ amountOf request.amount = .error fault)
      ∧ (∀ fault, request.NamesNone fault → after = reached)
      ∧ (request.amount.lessThan 0 = .ok true →
        amountOf request.amount = .error (.metric .negativeIncrement))
      ∧ ∀ spec label fault, request.Names spec label → amountOf request.amount = .error fault →
        (∀ base other, after.sample? base other =
          if base = Family.baseName nameSpace spec.name ∧ other = label then
            some ((reached.sample? base other).getD .zero)
          else reached.sample? base other)
        ∧ (after = reached
          ↔ (reached.sample? (Family.baseName nameSpace spec.name) label).isSome) := by
  intro reached
  refine ⟨fun spec known label => sample?_afterIncrements succeeds known requests,
    fun request => ⟨fun fault => lawful.increment_eq_some_iff, ?_, amountOf_of_negative, ?_⟩⟩
  · intro fault none
    have unchanged := library.increment_of_target_error none.target_eq reached nameSpace
    exact congrArg Prod.fst unchanged
  · intro spec label fault names unfit
    -- The label value was asked for before the amount was looked at, and nothing takes it back.
    have has := has_afterIncrements succeeds names.known requests
    have named := Increment.target_eq_ok_iff.mpr names
    have asked := lawful.increment_of_target named reached nameSpace
    have after : (reached.increment nameSpace request).1
        = library.labels reached (Family.baseName nameSpace spec.name) label := by
      rw [increment, asked]
      simp only [library, unfit]
    rw [after]
    exact ⟨lawful.number?_labels_eq has label, lawful.labels_eq_iff has⟩

/-- A map message was counted, and a negative amount is refused for two kinds of messages. -/
theorem increment_refused_twice :
    let start := (registerCounters [] "broker").1
    let reached := start.afterIncrements "broker" [countOnce transformedTotal "kind" "MapMessage"]
    let refused := fun kind : String =>
      reached.increment "broker" ⟨transformedTotal, .int (-1), some [("kind", .text kind)]⟩
    (registerCounters [] "broker").2 = none
      ∧ (refused "MapMessage").1 = reached
      ∧ reached.sample? "broker_map_transform" "MapMessage" = some .one
      ∧ (refused "TextMessage").1.sample? "broker_map_transform" "TextMessage" = some .zero
      ∧ reached.sample? "broker_map_transform" "TextMessage" = none := by
  have succeeds : (registerCounters [] "broker").2 = none := by decide
  have known : transformCounters[0] ∈ transformCounters := by decide
  obtain ⟨totals, refusals⟩ :=
    increment_refused succeeds [countOnce transformedTotal "kind" "MapMessage"]
  have base : Family.baseName "broker" transformCounters[0].name = "broker_map_transform" := by
    decide
  have named : ∀ kind : String, Increment.Names
      ⟨transformedTotal, .int (-1), some [("kind", .text kind)]⟩ transformCounters[0] kind :=
    fun kind => ⟨known, rfl, .text kind, rfl, nofun, rfl⟩
  have first := totals _ known "MapMessage"
  have second := totals _ known "TextMessage"
  -- The amount is refused for both label values, of which only the first was there before.
  have negative := fun kind : String => (refusals
    ⟨transformedTotal, .int (-1), some [("kind", .text kind)]⟩).2.2.2 _ _ _ (named kind) rfl
  have firstTotal : Increment.total? transformCounters[0] "MapMessage"
      [countOnce transformedTotal "kind" "MapMessage"] = some .one := by decide +kernel
  have secondTotal : Increment.total? transformCounters[0] "TextMessage"
      [countOnce transformedTotal "kind" "MapMessage"] = none := by decide +kernel
  rw [base, firstTotal] at first
  rw [base, secondTotal] at second
  refine ⟨succeeds, (negative "MapMessage").2.mpr ?_, first, ?_, second⟩
  · rw [base, first]
    rfl
  · rw [(negative "TextMessage").1, base, if_pos ⟨rfl, rfl⟩, second]
    rfl

/-- A negative amount is refused and leaves a label value behind that was not there before. -/
theorem increment_negative_leaves_zero :
    let before := (registerCounters [] "broker").1
    let refused :=
      before.increment "broker" ⟨transformedTotal, .int (-1), some [("kind", .text "Message")]⟩
    refused.2 = some (.metric .negativeIncrement)
      ∧ before.sample? "broker_map_transform" "Message" = none
      ∧ refused.1.sample? "broker_map_transform" "Message" = some .zero := by
  decide +kernel

end Registry
end BrokerMaps
