import BrokerMaps.Proofs.Workspace.Parts

/-!
# Chains of filters in a workspace

A filter holds the next one by its identity, down to the one that answers with the elements it was
given. Whoever queries it follows the chain as it stands in the workspace at that time.

## Main results

* `holds_addFixedFrom`, `holds_addFlattening`: building filters builds a chain that the workspace
  holds.
* `Holds.keeps`: a workspace that keeps what lasts goes on to hold the chain.
* `answer_query`: a query follows the chain to its filters as they are now, and runs them.
-/
namespace BrokerMaps

/-- Filters put in front of one another, each with the value that stands for it, down to the one
that answers with elements of its own. -/
inductive Chain where
  | fixed (itself : Value) (elements : List Value)
  | identity (itself : Value) (next : Chain)
  | flattening (itself : Value) (settings : Settings) (writer : Value) (sink? : Option Value)
      (next : Chain)

namespace Chain

/-- The value that stands for the first filter. -/
def itself : Chain → Value
  | .fixed itself _ => itself
  | .identity itself _ => itself
  | .flattening itself _ _ _ _ => itself

/-- The first filter as it was built. -/
def link : Chain → Link
  | .fixed _ elements => .fixed elements
  | .identity _ next => .identity next.itself
  | .flattening _ settings writer sink? next => .flattening next.itself settings writer sink?

def length : Chain → Nat
  | .fixed _ _ => 1
  | .identity _ next => next.length + 1
  | .flattening _ _ _ _ next => next.length + 1

/-- What a flattening filter of a workspace works with when it is used. -/
def configNow (workspace : Workspace) (itself : Value) (settings : Settings) (writer : Value)
    (sink? : Option Value) : FlattenConfig where
  flattener := ⟨settings.mapValues workspace.look, workspace.look itself⟩
  writer? := workspace.ownWriter? (workspace.look writer)
  sink? := sink?.map fun sink => workspace.sinkEndpoint (workspace.look sink)

/-- The filters of a chain as they are when it is used. -/
def now (workspace : Workspace) : Chain → Filter
  | .fixed _ elements => .fixed (elements.map workspace.look)
  | .identity itself next => .identity (workspace.look itself) (some (next.now workspace))
  | .flattening itself settings writer sink? next =>
    .flattening (configNow workspace itself settings writer sink?) (some (next.now workspace))

end Chain

namespace Workspace

/-! ## Chains that a workspace holds -/

/-- A value stands for a filter as it was built. -/
def StandsFor (workspace : Workspace) (value : Value) (link : Link) : Prop :=
  ∃ identity className held, firstIdentity ≤ identity ∧ value = .reference identity className
    ∧ workspace.objects.lookup identity = some (.object held) ∧ held.truth = .ok true
    ∧ workspace.parts.lookup held.serial = some (.filter link)
    ∧ ∀ method ∈ Filter.stepMethods, workspace.extras.lookup (identity, method) = none

/-- Each filter of a chain holds what stands for the next one. -/
def Links (workspace : Workspace) : Chain → Prop
  | .fixed itself elements => workspace.StandsFor itself (.fixed elements)
  | .identity itself next =>
    workspace.StandsFor itself (.identity next.itself) ∧ workspace.Links next
  | .flattening itself settings writer sink? next =>
    workspace.StandsFor itself (.flattening next.itself settings writer sink?)
      ∧ workspace.Links next

/-- A workspace holds the filters of a chain, and no fewer parts than there are filters. -/
structure Holds (workspace : Workspace) (chain : Chain) : Prop where
  links : workspace.Links chain
  short : chain.length ≤ workspace.parts.length

variable {workspace before after : Workspace} {lasting : String → Prop} {name : String}
  {chain : Chain} {value : Value} {link : Link}

theorem Links.standsFor (links : workspace.Links chain) :
    workspace.StandsFor chain.itself chain.link := by
  cases chain with
  | fixed itself elements => exact links
  | identity itself next => exact links.1
  | flattening itself settings writer sink? next => exact links.1

theorem StandsFor.denotes (stands : workspace.StandsFor value link) :
    workspace.Denotes value (.filter link) := stands

theorem StandsFor.keeps (stands : before.StandsFor value link)
    (keeps : before.Keeps lasting after) : after.StandsFor value link :=
  stands.denotes.keeps keeps

theorem Links.keeps (links : before.Links chain) (keeps : before.Keeps lasting after) :
    after.Links chain := by
  induction chain with
  | fixed itself elements => exact StandsFor.keeps links keeps
  | identity itself next ih => exact ⟨links.1.keeps keeps, ih links.2⟩
  | flattening itself settings writer sink? next ih => exact ⟨links.1.keeps keeps, ih links.2⟩

theorem Holds.keeps (holds : before.Holds chain) (keeps : before.Keeps lasting after) :
    after.Holds chain where
  links := holds.links.keeps keeps
  short := Nat.le_trans holds.short keeps.count

/-! ## Following a chain -/

/-- Whoever looks at a value that stands for a filter finds the object and no field in the way. -/
theorem StandsFor.look (stands : workspace.StandsFor value link) :
    workspace.part? (workspace.look value) = some (.filter link)
      ∧ (workspace.look value).isNull = false
      ∧ Filter.Unhindered (workspace.look value) :=
  ⟨stands.denotes.finds.isPart, stands.denotes.finds.notNull,
    fun _ isStep => stands.denotes.finds.checkCallable isStep⟩

theorem StandsFor.nextFilter? (stands : workspace.StandsFor value link)
    (filterAt : Value → Option Link → Filter) :
    workspace.nextFilter? filterAt value = some (filterAt (workspace.look value) (some link)) := by
  obtain ⟨part, notNull, free⟩ := stands.look
  simp only [Workspace.nextFilter?, notNull, free "query" (by decide), part]
  rfl

theorem Links.nextFilter? (links : workspace.Links chain)
    {filterAt : Value → Option Link → Filter}
    (found : filterAt (workspace.look chain.itself) (some chain.link) = chain.now workspace) :
    workspace.nextFilter? filterAt chain.itself = some (chain.now workspace) := by
  rw [links.standsFor.nextFilter?, found]

/-- Following a chain finds its filters, where there are enough steps for all of them. -/
theorem filterAt_eq (links : workspace.Links chain) {steps : Nat} (enough : chain.length ≤ steps) :
    workspace.filterAt steps (workspace.look chain.itself) (some chain.link)
      = chain.now workspace := by
  induction chain generalizing steps with
  | fixed itself elements =>
    -- Even the last filter takes one step, so there is one.
    obtain ⟨fewer, rfl⟩ := Nat.exists_eq_add_of_le' enough
    rfl
  | identity itself next ih =>
    obtain ⟨fewer, rfl⟩ := Nat.exists_eq_add_of_le' enough
    have found := links.2.nextFilter? (ih links.2 (Nat.le_add_left next.length fewer))
    exact congrArg (Filter.identity (workspace.look itself)) found
  | flattening itself settings writer sink? next ih =>
    obtain ⟨fewer, rfl⟩ := Nat.exists_eq_add_of_le' enough
    have found := links.2.nextFilter? (ih links.2 (Nat.le_add_left next.length fewer))
    exact congrArg
      (Filter.flattening (Chain.configNow workspace itself settings writer sink?)) found

theorem answer_filterOf (holds : workspace.Holds chain)
    (named : workspace.names.lookup name = some chain.itself) :
    workspace.answer (filterOf name "query") = (.ok (chain.now workspace), workspace) := by
  have stands := holds.links.standsFor
  have offered : (Part.filter chain.link).offers "query" = true := by cases chain <;> rfl
  have received := stands.denotes.answer_receiver named (.head _) offered
  rw [filterOf, answer_bind_of_ok received, answer_bind_of_ok answer_get]
  simp only [stands.look.1]
  -- As many steps are allowed as there are parts, and one more.
  rw [filterAt_eq holds.links (Nat.le_succ_of_le holds.short)]
  rfl

/-- A query of a chain is a run of its filters on the console of the workspace. -/
theorem answer_query (holds : workspace.Holds chain)
    (named : workspace.names.lookup name = some chain.itself) :
    workspace.answer (query name) =
      let run :=
        (workspace.console.install workspace.installedWriter).answer (chain.now workspace).query
      (run.1, { workspace with console := run.2 }) := by
  rw [query, answer_bind_of_ok (answer_filterOf holds named), answer_onConsole]
  rfl

/-! ## Building a chain -/

theorem answer_mapM_identified (items : List Value) :
    workspace.answer (items.mapM identified) =
      let numbered := (Value.identifyAll items).run workspace.nextIdentity
      (.ok numbered.1, { workspace with nextIdentity := numbered.2 }) := by
  induction items generalizing workspace with
  | nil => rfl
  | cons item rest ih =>
    rw [List.mapM_cons, answer_bind_of_ok (answer_identified item), answer_bind_of_ok ih]
    rfl

/-- A filter with fixed elements holds those that iterating over a value yields when the filter is
built. -/
theorem holds_addFixedFrom (orderly : workspace.Orderly) {source : Value} {items : List Value}
    (iterates : source.iterate = .ok items) (name : String) :
    ∃ built itself, workspace.answer (addFixedFrom name source) = (.ok (), built)
      ∧ built.Orderly ∧ built.names.lookup name = some itself
      ∧ built.Holds
        (.fixed itself ((Value.identifyAll items).run workspace.nextIdentity).1) := by
  have listed : workspace.answer (MonadExcept.ofExcept source.iterate)
      = (.ok items, workspace) := by
    rw [iterates]
    rfl
  have grows := Value.grows_identifyAll items workspace.nextIdentity
  -- The elements are given their numbers before the filter is given its own.
  have numbered : ({ workspace with
      nextIdentity := ((Value.identifyAll items).run workspace.nextIdentity).2 }).Orderly :=
    orderly.of_same grows rfl rfl rfl
  obtain ⟨built, built_eq, adds⟩ :=
    exists_answer_bindPart numbered name FilterKind.fixed.classOf
      (.filter (.fixed ((Value.identifyAll items).run workspace.nextIdentity).1))
  obtain ⟨itself, named, stands⟩ := adds.named
  refine ⟨built, itself, ?_, adds.orderly, named, stands, ?_⟩
  · rw [addFixedFrom, answer_bind_of_ok listed, addFixed,
      answer_bind_of_ok (answer_mapM_identified items), ← built_eq]
    rfl
  · rw [Chain.length, adds.count]
    exact Nat.le_add_left 1 _

/-- A flattening filter put in front of a chain makes a longer chain, with what it was given. -/
theorem holds_addFlattening (orderly : workspace.Orderly) (holds : workspace.Holds chain)
    (name : String) (settings : Settings) (writer : Value) {sink : Value} {counts : Bool}
    (truth : sink.truth = .ok counts) :
    ∃ built itself settings' writer' sink',
      workspace.answer
          (addFlattening name (workspace.look chain.itself) settings writer sink) = (.ok (), built)
      ∧ settings.KeptAs settings' ∧ writer.KeptAs writer' ∧ sink.KeptAs sink'
      ∧ built.Orderly ∧ built.names.lookup name = some itself
      ∧ built.Holds
        (.flattening itself settings' writer' (if counts then some sink' else none) chain) := by
  obtain ⟨built, next, settings', writer', sink', built_eq, nextKept, settingsKept, writerKept,
    sinkKept, adds⟩ := exists_answer_addFlattening orderly name (workspace.look chain.itself)
      settings writer truth
  -- The next filter is referred to as the chain refers to it.
  obtain rfl := holds.links.standsFor.denotes.eq_of_keptAs nextKept
  obtain ⟨itself, named, above⟩ := adds.named
  refine ⟨built, itself, settings', writer', sink', built_eq, settingsKept, writerKept, sinkKept,
    adds.orderly, named, ⟨above, holds.links.keeps adds.keeps⟩, ?_⟩
  rw [Chain.length, adds.count]
  exact Nat.succ_le_succ holds.short

end Workspace
end BrokerMaps
