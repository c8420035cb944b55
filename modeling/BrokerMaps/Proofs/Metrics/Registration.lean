import BrokerMaps.Proofs.Console.Counting

/-!
# Registering the counters of a namespace

The counters of a namespace are registered one after the other, and what was registered before a
failure stays. Still a registry that holds such counters only is never left with some of the
counters of a namespace: the first of them is refused when the namespace is there already, and none
of them is when it is new.

## Main result

`Console.addCounters_all_or_none`: after any uses of sinks, a registry that was empty at first holds
the counters of the namespaces under which adapters were built, all of each. Another adapter is
refused exactly when there is one under its namespace, and then nothing has changed.

## Proof strategy

A series name tells the namespace that claims it, so the names claimed in a registry tell which
namespaces it has (`CounterLibrary.ClaimedBy`), and by the laws of the library those of a namespace
are all registered or none of them is. That the counters in a registry are those of the namespaces
under which adapters were built is kept by each use, and so by any number of uses.
-/
namespace BrokerMaps

namespace Registry

variable {registry : Registry} {spaces : List String} {nameSpace : String}

/-- The counters of a namespace. -/
def countersOf (nameSpace : String) : Registry := transformCounters.map (Family.ofSpec nameSpace)

/-- A registry holds the counters of namespaces, all of each, and no others. -/
structure FilledBy (registry : Registry) (spaces : List String) : Prop where
  claimed : library.ClaimedBy registry spaces
  counters : registry.map Family.blank = spaces.flatMap countersOf

theorem extendedAll_eq (registry : Registry) (nameSpace : String) :
    library.extendedAll registry nameSpace = registry ++ countersOf nameSpace := by
  simp [CounterLibrary.extendedAll, library, countersOf, transformCounters]

theorem filledBy_nil : FilledBy [] [] := ⟨fun _ => by simp [library, claims], rfl⟩

theorem FilledBy.append (filled : registry.FilledBy spaces) (nameSpace : String) :
    (registry ++ countersOf nameSpace).FilledBy (spaces ++ [nameSpace]) where
  claimed := extendedAll_eq registry nameSpace ▸
    lawful.claimedBy_extendedAll filled.claimed nameSpace
  counters := by
    have blank : (countersOf nameSpace).map Family.blank = countersOf nameSpace := rfl
    rw [List.map_append, filled.counters, blank, List.flatMap_append, List.flatMap_singleton]

/-- Counting leaves the registered counters as they are, whether it is refused or not. -/
theorem FilledBy.increment (filled : registry.FilledBy spaces) (nameSpace : String)
    (request : Increment) : (registry.increment nameSpace request).1.FilledBy spaces :=
  ⟨lawful.claimedBy_increment filled.claimed nameSpace request,
    (map_blank_increment registry nameSpace request).trans filled.counters⟩

/-- The counters of a new namespace are all registered. -/
theorem FilledBy.registerCounters_of_new (filled : registry.FilledBy spaces)
    (new : nameSpace ∉ spaces) :
    registry.registerCounters nameSpace = (registry ++ countersOf nameSpace, none) :=
  extendedAll_eq registry nameSpace ▸ lawful.registerCounters_of_new filled.claimed new

/-- Where the namespace is there already, none of its counters is registered. -/
theorem FilledBy.registerCounters_of_taken (filled : registry.FilledBy spaces)
    (taken : nameSpace ∈ spaces) :
    registry.registerCounters nameSpace
      = (registry, some (.metric .seriesAlreadyClaimed)) :=
  lawful.registerCounters_of_taken filled.claimed taken

end Registry

/-! ## Uses of sinks -/

/-- What is done with the sinks of a console: adapters are built that count under a namespace, in a
registry of their own or in the one with the number given, and increments are passed on. -/
inductive SinkUse where
  | build (nameSpace : String) (shared? : Option Nat)
  | increment (sink? : Option Endpoint) (request : Increment)

namespace Console

variable {console : Console} {number : Nat} {spaces : List String} {registry : Registry}

/-- The console after a use, whether it succeeded or not. -/
def afterSinkUse (console : Console) : SinkUse → Console
  | .build nameSpace shared? => (console.answer (addCounters nameSpace shared?)).2
  | .increment sink? request => (console.answer (count sink? request)).2

def afterSinkUses (console : Console) (uses : List SinkUse) : Console :=
  uses.foldl afterSinkUse console

/-- The namespace of an adapter that a use builds in the registry with a number. -/
def builds? (console : Console) (number : Nat) : SinkUse → Option String
  | .build nameSpace shared? =>
    if shared? = some number ∧ (console.answer (addCounters nameSpace shared?)).1.isOk then
      some nameSpace
    else none
  | .increment _ _ => none

/-- The namespaces under which uses have built adapters in the registry with a number, in order. -/
def built (console : Console) (number : Nat) : List SinkUse → List String
  | [] => []
  | use :: rest =>
    (console.builds? number use).toList ++ (console.afterSinkUse use).built number rest

/-- The registry with a number is there, and filled by namespaces of which no two are the same. -/
structure HasRegistry (console : Console) (number : Nat) (spaces : List String)
    (registry : Registry) : Prop where
  held : console.registries[number]? = some registry
  filled : registry.FilledBy spaces
  distinct : spaces.Nodup

/-! ## One use -/

theorem snd_answer_addCounters_registries (console : Console) (nameSpace : String)
    (shared? : Option Nat) :
    (console.answer (addCounters nameSpace shared?)).2.registries
      = console.enlarged nameSpace shared? := by
  rw [answer_addCounters]
  split <;> rfl

theorem enlarged_some (held : console.registries[number]? = some registry) (nameSpace : String) :
    console.enlarged nameSpace (some number)
      = console.registries.set number (registry.registerCounters nameSpace).1 := by
  have shared : (console.registriesFor (some number))[number]?.getD [] = registry := by
    rw [getElem?_registriesFor held]
    rfl
  simp only [enlarged, numberFor, Option.getD_some, shared]
  rfl

theorem HasRegistry.answer_addCounters_of_taken
    (has : console.HasRegistry number spaces registry) {nameSpace : String}
    (taken : nameSpace ∈ spaces) :
    console.answer (addCounters nameSpace (some number))
      = (.error (.metric .seriesAlreadyClaimed), console) := by
  have refused := has.filled.registerCounters_of_taken taken
  obtain ⟨inRange, same⟩ := List.getElem?_eq_some_iff.mp has.held
  have unchanged : console.enlarged nameSpace (some number) = console.registries := by
    rw [enlarged_some has.held, refused, ← same, List.set_getElem_self]
  rw [answer_addCounters]
  simp only [numberFor, Option.getD_some, getElem?_registriesFor has.held, refused, unchanged]

theorem HasRegistry.answer_addCounters_of_new
    (has : console.HasRegistry number spaces registry) {nameSpace : String}
    (new : nameSpace ∉ spaces) :
    console.answer (addCounters nameSpace (some number)) =
      (.ok console.sinks.length,
        { console with
          registries := console.registries.set number (registry ++ Registry.countersOf nameSpace)
          sinks := console.sinks ++ [.counters number nameSpace] }) := by
  have registers := has.filled.registerCounters_of_new new
  rw [answer_addCounters]
  simp only [numberFor, Option.getD_some, getElem?_registriesFor has.held,
    enlarged_some has.held, registers]

/-- What is built in another registry leaves this one as it is. -/
theorem getElem?_enlarged_of_ne (held : console.registries[number]? = some registry)
    {shared? : Option Nat} (elsewhere : shared? ≠ some number) (nameSpace : String) :
    (console.enlarged nameSpace shared?)[number]? = some registry := by
  have other : console.numberFor shared? ≠ number := by
    cases shared? with
    | none => exact Nat.ne_of_gt (List.getElem?_eq_some_iff.mp held).1
    | some there => exact fun same => elsewhere (congrArg some same)
  rw [enlarged, List.getElem?_set_ne other, getElem?_registriesFor held]

/-- An increment changes one registry at most, and leaves the namespaces as they are. -/
theorem HasRegistry.counted (has : console.HasRegistry number spaces registry)
    (sink? : Option Endpoint) (request : Increment) :
    ∃ after, (console.counted sink? request).HasRegistry number spaces after := by
  unfold Console.counted
  split
  next sink =>
    split
    next => exact ⟨registry, has.held, has.filled, has.distinct⟩
    next there nameSpace found =>
      by_cases here : there = number
      · subst here
        have inRange := (List.getElem?_eq_some_iff.mp has.held).1
        refine ⟨(registry.increment nameSpace request).1, ?_, has.filled.increment _ _,
          has.distinct⟩
        simp only [has.held, Option.getD_some, List.getElem?_set_self inRange]
      · exact ⟨registry, (List.getElem?_set_ne here).trans has.held, has.filled, has.distinct⟩
    next => exact ⟨registry, has⟩
  next => exact ⟨registry, has⟩

/-- A use adds the namespace of the adapter that it builds, if it builds one. -/
theorem HasRegistry.afterSinkUse (has : console.HasRegistry number spaces registry)
    (use : SinkUse) :
    ∃ after, (console.afterSinkUse use).HasRegistry number
      (spaces ++ (console.builds? number use).toList) after := by
  cases use with
  | increment sink? request =>
    rw [builds?, Option.toList_none, List.append_nil, Console.afterSinkUse, answer_count]
    exact has.counted sink? request
  | build nameSpace shared? =>
    by_cases here : shared? = some number
    · subst here
      -- Here all three counters are registered, or none of them is.
      by_cases taken : nameSpace ∈ spaces
      · have refused := has.answer_addCounters_of_taken taken
        have nothing : console.builds? number (.build nameSpace (some number)) = none :=
          if_neg fun both => by rw [refused] at both; cases both.2
        rw [nothing, Console.afterSinkUse, refused, Option.toList_none, List.append_nil]
        exact ⟨registry, has⟩
      · have inRange := (List.getElem?_eq_some_iff.mp has.held).1
        have registers := has.answer_addCounters_of_new taken
        have builds : console.builds? number (.build nameSpace (some number)) = some nameSpace :=
          if_pos ⟨rfl, by rw [registers]; rfl⟩
        rw [builds, Console.afterSinkUse, registers, Option.toList_some]
        have distinct : (spaces ++ [nameSpace]).Nodup :=
          List.concat_eq_append ▸ has.distinct.concat taken
        exact ⟨_, List.getElem?_set_self inRange, has.filled.append nameSpace, distinct⟩
    · -- What is built over another registry is not seen at this one.
      have elsewhere : console.builds? number (.build nameSpace shared?) = none :=
        if_neg fun both => here both.1
      rw [elsewhere, Option.toList_none, List.append_nil]
      refine ⟨registry, ?_, has.filled, has.distinct⟩
      rw [Console.afterSinkUse, snd_answer_addCounters_registries]
      exact getElem?_enlarged_of_ne has.held here nameSpace

/-! ## Any uses -/

theorem HasRegistry.afterSinkUses (has : console.HasRegistry number spaces registry)
    (uses : List SinkUse) :
    ∃ after, (console.afterSinkUses uses).HasRegistry number (spaces ++ console.built number uses)
      after := by
  induction uses generalizing console spaces registry with
  | nil => exact ⟨registry, by rw [built, List.append_nil]; exact has⟩
  | cons use rest ih =>
    obtain ⟨between, here⟩ := has.afterSinkUse use
    obtain ⟨after, later⟩ := ih here
    rw [List.append_assoc] at later
    exact ⟨after, later⟩

/-- After any uses of sinks, a registry that was empty at first holds the counters of the namespaces
under which adapters were built in it, all of each and no others. No two of the namespaces are the
same: another adapter is refused exactly when there is one under its namespace. Then nothing has
changed, and otherwise all counters of the namespace are registered. -/
theorem addCounters_all_or_none {console : Console} {number : Nat}
    (empty : console.registries[number]? = some []) (uses : List SinkUse) :
    let reached := console.afterSinkUses uses
    let spaces := console.built number uses
    ∃ registry, reached.registries[number]? = some registry
      ∧ registry.map Family.blank = spaces.flatMap Registry.countersOf
      ∧ spaces.Nodup
      ∧ ∀ nameSpace,
        ((∃ fault, (reached.answer (addCounters nameSpace (some number))).1 = .error fault)
          ↔ nameSpace ∈ spaces)
        ∧ (nameSpace ∈ spaces → reached.answer (addCounters nameSpace (some number))
          = (.error (.metric .seriesAlreadyClaimed), reached))
        ∧ (nameSpace ∉ spaces → reached.answer (addCounters nameSpace (some number)) =
          (.ok reached.sinks.length,
            { reached with
              registries :=
                reached.registries.set number (registry ++ Registry.countersOf nameSpace)
              sinks := reached.sinks ++ [.counters number nameSpace] })) := by
  intro reached spaces
  have start : console.HasRegistry number [] [] := ⟨empty, Registry.filledBy_nil, .nil⟩
  obtain ⟨registry, has⟩ := start.afterSinkUses uses
  rw [List.nil_append] at has
  refine ⟨registry, has.held, has.filled.counters, has.distinct, fun nameSpace => ⟨⟨?_, ?_⟩,
    has.answer_addCounters_of_taken, has.answer_addCounters_of_new⟩⟩
  · rintro ⟨fault, refused⟩
    by_contra new
    rw [has.answer_addCounters_of_new new] at refused
    cases refused
  · intro taken
    exact ⟨_, congrArg Prod.fst (has.answer_addCounters_of_taken taken)⟩

/-- Of two namespaces, one begins with the other and goes on like the name of a counter. -/
theorem addCounters_all_or_none_nested :
    let console : Console := { fresh 10 with registries := [[]] }
    let uses : List SinkUse := [.build "app" (some 0), .build "app_map_transform" (some 0),
      .increment (some (.ok 0)) (countOnce failedTotal "kind" "MapMessage"),
      .build "app" (some 0)]
    let reached := console.afterSinkUses uses
    console.built 0 uses = ["app", "app_map_transform"]
      ∧ reached.answer (addCounters "app" (some 0))
        = (.error (.metric .seriesAlreadyClaimed), reached)
      ∧ ∃ sink, (reached.answer (addCounters "app_total" (some 0))).1 = .ok sink := by
  intro console uses reached
  have built : console.built 0 uses = ["app", "app_map_transform"] := by decide +kernel
  have empty : console.registries[0]? = some [] := rfl
  obtain ⟨registry, -, -, -, further⟩ := addCounters_all_or_none empty uses
  have old := (further "app").2.1
  have new := (further "app_total").2.2
  rw [built] at old new
  exact ⟨built, old (by decide), _, congrArg Prod.fst (new (by decide))⟩

end Console
end BrokerMaps
