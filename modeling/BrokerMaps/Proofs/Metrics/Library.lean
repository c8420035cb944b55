import BrokerMaps.Metrics.Library
import BrokerMaps.Proofs.Metrics.Counters
import BrokerMaps.Proofs.Outcome
import Mathlib.Data.List.Induction

/-!
# Counting with a library

What becomes of the counters of a namespace when they are registered and incremented, whatever the
library is that keeps them. All of it is told from what is documented of the library.

## Main results

* `Lawful.number?_increment`: an increment changes the number of the label value that it names, if
  it names one, and no other.
* `Lawful.number?_afterIncrements`: the number of a label value after any requests is what those of
  them that name it add up to.
* `Lawful.registerCounters_of_new`, `Lawful.registerCounters_of_taken`: the counters of a namespace
  are all registered or none of them is.

## Proof strategy

A base name comes from one namespace and one counter (`Family.baseName_inj`), so what a request does
to the counter that it names cannot be seen at another one. The names that are claimed tell which
namespaces there are (`ClaimedBy`), and those of one namespace are all claimed or all free.
-/
namespace BrokerMaps

open Outcome (bind_eq_ok_iff bind_eq_error_iff)

/-! ## Requests -/

namespace Increment

/-- A request names a label value of a counter: the counter by its name, and the label value by the
text of the tag for the label. -/
structure Names (request : Increment) (spec : CounterSpec) (label : String) : Prop where
  known : spec ∈ transformCounters
  named : spec.name = request.name
  tagged : ∃ value, (request.tags?.getD []).lookup spec.label = some value ∧ value ≠ .null
    ∧ value.plain = .ok label

/-- Why a request names no label value. -/
inductive NamesNone (request : Increment) : Fault → Prop
  | unknown (absent : ∀ spec ∈ transformCounters, spec.name ≠ request.name) :
    NamesNone request (.metric (.unknownMetric request.name))
  | untagged {spec : CounterSpec} (known : spec ∈ transformCounters)
      (named : spec.name = request.name)
      (missing : ∀ value, (request.tags?.getD []).lookup spec.label = some value → value = .null) :
    NamesNone request (.metric (.missingTag request.name spec.label))
  | unwritable {spec : CounterSpec} {value : Value} {fault : Fault}
      (known : spec ∈ transformCounters) (named : spec.name = request.name)
      (tagged : (request.tags?.getD []).lookup spec.label = some value) (given : value ≠ .null)
      (fails : value.plain = .error fault) : NamesNone request fault

/-- The label value that a request names, with its counter. -/
def target (request : Increment) : Except Fault (CounterSpec × String) := do
  let spec ← CounterLibrary.specOf request.name
  let label ← CounterLibrary.labelValueOf spec request.tags?
  return (spec, label)

variable {request : Increment} {spec : CounterSpec} {label : String} {fault : Fault}

theorem specOf_eq_ok_iff {name : String} :
    CounterLibrary.specOf name = .ok spec ↔ spec ∈ transformCounters ∧ spec.name = name := by
  constructor
  · intro found
    unfold CounterLibrary.specOf at found
    split at found
    next spec sought =>
      cases found
      exact ⟨List.mem_of_find?_eq_some sought, by simpa using List.find?_some sought⟩
    next => cases found
  · rintro ⟨known, rfl⟩
    revert spec
    decide

theorem labelValueOf_eq_ok_iff {tags? : Option (List (String × Value))} :
    CounterLibrary.labelValueOf spec tags? = .ok label ↔
      ∃ value, (tags?.getD []).lookup spec.label = some value ∧ value ≠ .null
        ∧ value.plain = .ok label := by
  unfold CounterLibrary.labelValueOf
  split
  next missing => simp [missing]
  next null => simp [null]
  next value given found =>
    have notNull : value ≠ .null := given
    simp [found, notNull]

theorem target_eq_ok_iff : request.target = .ok (spec, label) ↔ request.Names spec label := by
  simp only [target, bind_eq_ok_iff, specOf_eq_ok_iff, labelValueOf_eq_ok_iff]
  constructor
  · rintro ⟨spec, ⟨known, named⟩, label, tagged, same⟩
    cases same
    exact ⟨known, named, tagged⟩
  · rintro ⟨known, named, tagged⟩
    exact ⟨spec, ⟨known, named⟩, label, tagged, rfl⟩

theorem NamesNone.target_eq (none : request.NamesNone fault) : request.target = .error fault := by
  cases none with
  | unknown absent =>
    have sought : transformCounters.find? (fun spec => spec.name = request.name) = none :=
      List.find?_eq_none.mpr fun spec known named => absent spec known (of_decide_eq_true named)
    rw [target, CounterLibrary.specOf, sought]
    rfl
  | @untagged spec known named missing =>
    rw [target, specOf_eq_ok_iff.mpr ⟨known, named⟩, Outcome.ok_bind, CounterLibrary.labelValueOf]
    cases tagged : (request.tags?.getD []).lookup spec.label with
    | none => rw [← named]; rfl
    | some value => rw [missing value tagged, ← named]; rfl
  | @unwritable spec value fault known named tagged given fails =>
    rw [target, specOf_eq_ok_iff.mpr ⟨known, named⟩, Outcome.ok_bind, CounterLibrary.labelValueOf,
      tagged]
    split
    next absent => cases absent
    next isNull => exact absurd (Option.some.inj isNull) given
    next value same => cases same; rw [fails]; rfl

theorem target_eq_error_iff : request.target = .error fault ↔ request.NamesNone fault := by
  refine ⟨fun fails => ?_, NamesNone.target_eq⟩
  -- The counter is looked up first, then the tag, and last the tag is written.
  rcases bind_eq_error_iff.mp fails with unknown | ⟨spec, found, rest⟩
  · unfold CounterLibrary.specOf at unknown
    split at unknown
    next => cases unknown
    next absent =>
      cases unknown
      refine .unknown fun spec known named => ?_
      exact List.find?_eq_none.mp absent spec known (decide_eq_true named)
  · obtain ⟨known, named⟩ := specOf_eq_ok_iff.mp found
    rcases bind_eq_error_iff.mp rest with unlabelled | ⟨label, -, succeeds⟩
    · unfold CounterLibrary.labelValueOf at unlabelled
      split at unlabelled
      next missing =>
        cases unlabelled
        rw [named]
        exact .untagged known named (by simp [missing])
      next null =>
        cases unlabelled
        rw [named]
        exact .untagged known named (by simp [null])
      next value given tagged => exact .unwritable known named tagged given unlabelled
    · cases succeeds

theorem target_countOnce (known : spec ∈ transformCounters) (label : String) :
    (countOnce spec.name spec.label label).target = .ok (spec, label) :=
  target_eq_ok_iff.mpr ⟨known, rfl, .text label, by simp [countOnce], nofun, rfl⟩

end Increment

namespace CounterLibrary

variable {σ : Type} {library : CounterLibrary σ} {state : σ} {nameSpace other base label : String}
  {request : Increment} {spec counter : CounterSpec} {spaces : List String} {fault : Fault}

/-! ## One increment -/

/-- The amount of a request, if it is one that can be counted. -/
def amount? (library : CounterLibrary σ) (request : Increment) : Option Binary64 :=
  (library.amountOf request.amount).toOption

/-- A request that names no label value is refused and changes nothing. -/
theorem increment_of_target_error (library : CounterLibrary σ)
    (fails : request.target = .error fault) (state : σ) (nameSpace : String) :
    library.increment state nameSpace request = (state, some fault) := by
  unfold Increment.target at fails
  unfold increment
  cases found : specOf request.name with
  | error unknown =>
    rw [found] at fails
    cases fails
    rfl
  | ok spec =>
    rw [found, Outcome.ok_bind] at fails
    cases tagged : labelValueOf spec request.tags? with
    | error missing =>
      rw [tagged] at fails
      cases fails
      simp only [tagged]
    | ok label =>
      rw [tagged] at fails
      cases fails

namespace Lawful

variable (laws : library.Lawful)

include laws

/-- A request that names a label value makes sure that it is there, and then adds its amount, if it
has one. -/
theorem increment_of_target (names : request.target = .ok (spec, label)) (state : σ)
    (nameSpace : String) :
    library.increment state nameSpace request =
      let base := Family.baseName nameSpace spec.name
      let touched := library.labels state base label
      match library.amountOf request.amount with
      | .error fault => (touched, some fault)
      | .ok amount => (library.added touched base label amount, none) := by
  unfold Increment.target at names
  obtain ⟨found, specified, rest⟩ := bind_eq_ok_iff.mp names
  obtain ⟨written, labelled, same⟩ := bind_eq_ok_iff.mp rest
  cases same
  cases paid : library.amountOf request.amount with
  | error fault =>
    simp only [increment, specified, labelled, laws.increase_of_refused paid]
  | ok amount =>
    simp only [increment, specified, labelled, laws.increase_of_accepted paid]

/-- An increment is refused for one of two reasons. -/
theorem increment_eq_some_iff :
    (library.increment state nameSpace request).2 = some fault ↔
      request.NamesNone fault
        ∨ (∃ spec label, request.Names spec label)
          ∧ library.amountOf request.amount = .error fault := by
  rw [← Increment.target_eq_error_iff]
  simp only [← Increment.target_eq_ok_iff]
  cases names : request.target with
  | error none => simp [library.increment_of_target_error names]
  | ok target =>
    obtain ⟨spec, label⟩ := target
    rw [laws.increment_of_target names]
    cases library.amountOf request.amount <;> simp

/-- A counter of the transform can always be incremented once more. -/
theorem increment_countOnce (known : spec ∈ transformCounters) (state : σ)
    (nameSpace label : String) :
    (library.increment state nameSpace (countOnce spec.name spec.label label)).2 = none := by
  have one : library.amountOf (countOnce spec.name spec.label label).amount = .ok .one :=
    laws.amountOf_one
  rw [laws.increment_of_target (Increment.target_countOnce known label)]
  simp only [one]

/-- Counting registers nothing, whether it is refused or not. -/
theorem registers_nothing (state : σ) (nameSpace : String) (request : Increment) :
    library.Has (library.increment state nameSpace request).1 = library.Has state
      ∧ library.Claims (library.increment state nameSpace request).1 = library.Claims state := by
  cases names : request.target with
  | error fault =>
    rw [library.increment_of_target_error names]
    exact ⟨rfl, rfl⟩
  | ok target =>
    rw [laws.increment_of_target names]
    cases library.amountOf request.amount with
    | error fault => exact ⟨laws.has_labels, laws.claims_labels⟩
    | ok amount =>
      exact ⟨laws.has_added.trans laws.has_labels, laws.claims_added.trans laws.claims_labels⟩

/-- Asking a counter for a label value puts it there, and no other. -/
theorem number?_labels_eq (has : library.Has state base) (label other sought : String) :
    library.number? (library.labels state base label) other sought =
      if other = base ∧ sought = label then some ((library.number? state other sought).getD .zero)
      else library.number? state other sought := by
  split
  next here =>
    obtain ⟨rfl, rfl⟩ := here
    exact laws.number?_labels has
  next elsewhere =>
    exact laws.number?_labels_of_ne fun same => elsewhere (Prod.mk.inj same)

/-- Asking for a label value changes nothing just when it is there already. -/
theorem labels_eq_iff (has : library.Has state base) :
    library.labels state base label = state ↔ (library.number? state base label).isSome := by
  refine ⟨fun same => ?_, laws.labels_of_isSome⟩
  have created : library.number? (library.labels state base label) base label = _ :=
    laws.number?_labels has
  rw [same] at created
  rw [created]
  rfl

/-- What an increment makes of the number of a label value of a counter. -/
theorem number?_increment (known : counter ∈ transformCounters)
    (has : library.Has state (Family.baseName other counter.name)) (nameSpace : String)
    (request : Increment) (label : String) :
    library.number? (library.increment state nameSpace request).1
        (Family.baseName other counter.name) label =
      if nameSpace = other ∧ request.target.toOption = some (counter, label) then
        some ((library.amount? request).toList.foldl .add
          ((library.number? state (Family.baseName other counter.name) label).getD .zero))
      else library.number? state (Family.baseName other counter.name) label := by
  cases names : request.target with
  | error fault =>
    rw [library.increment_of_target_error names]
    exact (if_neg fun both => nomatch both.2).symm
  | ok target =>
    obtain ⟨spec, value⟩ := target
    obtain ⟨known', -, -⟩ := Increment.target_eq_ok_iff.mp names
    have meant : (Except.ok (spec, value) : Except Fault _).toOption = some (counter, label)
        ↔ spec = counter ∧ value = label := by simp [Except.toOption]
    rw [laws.increment_of_target names, amount?]
    simp only [meant]
    by_cases here : nameSpace = other ∧ spec = counter ∧ value = label
    · obtain ⟨rfl, rfl, rfl⟩ := here
      cases library.amountOf request.amount <;>
        simp [laws.number?_added, laws.number?_labels has, Except.toOption]
    · -- A base name tells the namespace and the counter, so another number is meant.
      have elsewhere : (Family.baseName other counter.name, label)
          ≠ (Family.baseName nameSpace spec.name, value) := by
        intro same
        obtain ⟨bases, rfl⟩ := Prod.mk.inj same
        obtain ⟨rfl, rfl⟩ := Family.baseName_inj known known' bases
        exact here ⟨rfl, rfl, rfl⟩
      rw [if_neg here]
      cases library.amountOf request.amount with
      | error fault => exact laws.number?_labels_of_ne elsewhere
      | ok amount =>
        simp only [laws.number?_added, laws.number?_labels_of_ne elsewhere, if_neg elsewhere,
          Option.map_id']

end Lawful

/-! ## Runs of increments -/

/-- A registry after requests to the counters of a namespace, whether they were refused or not. -/
def afterIncrements (library : CounterLibrary σ) (state : σ) (nameSpace : String)
    (requests : List Increment) : σ :=
  requests.foldl (fun now request => (library.increment now nameSpace request).1) state

/-- The requests that name a label value of a counter. -/
def naming (spec : CounterSpec) (label : String) (requests : List Increment) : List Increment :=
  requests.filter fun request => request.target.toOption = some (spec, label)

/-- What requests make the number of a label value: nothing where none of them names it, and
otherwise the amounts that could be counted, added up in their order. -/
def total? (library : CounterLibrary σ) (spec : CounterSpec) (label : String)
    (requests : List Increment) : Option Binary64 :=
  if naming spec label requests = [] then none
  else some (((naming spec label requests).filterMap library.amount?).foldl .add .zero)

theorem afterIncrements_concat (library : CounterLibrary σ) (state : σ) (nameSpace : String)
    (requests : List Increment) (request : Increment) :
    library.afterIncrements state nameSpace (requests ++ [request]) =
      (library.increment (library.afterIncrements state nameSpace requests) nameSpace
        request).1 := by
  rw [afterIncrements, List.foldl_append]
  rfl

theorem naming_concat (requests : List Increment) :
    naming spec label (requests ++ [request]) =
      naming spec label requests ++ if request.target.toOption = some (spec, label) then [request]
        else [] := by
  rw [naming, List.filter_append]
  split
  next names => simp [naming, names]
  next other => simp [naming, other]

/-- The last request counts for the label value that it names, and for no other. -/
theorem total?_concat (library : CounterLibrary σ) (requests : List Increment) :
    library.total? spec label (requests ++ [request]) =
      if request.target.toOption = some (spec, label) then
        some ((library.amount? request).toList.foldl .add
          ((library.total? spec label requests).getD .zero))
      else library.total? spec label requests := by
  rw [total?, naming_concat]
  split
  next names =>
    -- A label value that was not there starts at zero, and so does the sum.
    have sum : (library.total? spec label requests).getD .zero
        = ((naming spec label requests).filterMap library.amount?).foldl .add .zero := by
      rw [total?]
      split
      next empty => rw [empty]; rfl
      next => rfl
    have last : [request].filterMap library.amount? = (library.amount? request).toList := by
      cases found : library.amount? request <;> simp [found]
    rw [if_neg (List.append_ne_nil_of_right_ne_nil _ (List.cons_ne_nil _ _)), sum,
      List.filterMap_append, List.foldl_append, last]
  next => rw [List.append_nil, total?]

/-- A counter has a number for just the label values that were counted, which is how often each of
them was. -/
structure Counts (library : CounterLibrary σ) (state : σ) (base : String) (times : String → Nat) :
    Prop where
  has : library.Has state base
  number? : ∀ label, library.number? state base label =
    if times label = 0 then none else some (.tally (times label))

namespace Lawful

variable (laws : library.Lawful)

include laws

theorem has_afterIncrements (state : σ) (nameSpace : String) (requests : List Increment) :
    library.Has (library.afterIncrements state nameSpace requests) = library.Has state := by
  induction requests generalizing state with
  | nil => rfl
  | cons request rest ih => exact (ih _).trans (laws.registers_nothing state nameSpace request).1

/-- What requests make of a number that is not there before them. -/
theorem number?_afterIncrements (known : counter ∈ transformCounters)
    (has : library.Has state (Family.baseName nameSpace counter.name))
    (new : library.number? state (Family.baseName nameSpace counter.name) label = none)
    (requests : List Increment) :
    library.number? (library.afterIncrements state nameSpace requests)
        (Family.baseName nameSpace counter.name) label
      = library.total? counter label requests := by
  -- The last request is the one that acts on what the others have led to.
  induction requests using List.reverseRecOn with
  | nil => exact new
  | append_singleton rest request ih =>
    have still : library.Has (library.afterIncrements state nameSpace rest)
        (Family.baseName nameSpace counter.name) := by rwa [laws.has_afterIncrements]
    rw [afterIncrements_concat, laws.number?_increment known still, ih, total?_concat]
    simp only [true_and]

/-- An increment by one counts once more, where it names the label value of a counter. -/
theorem counts_increment (known : counter ∈ transformCounters) (known' : spec ∈ transformCounters)
    {times : String → Nat}
    (counts : library.Counts state (Family.baseName other counter.name) times)
    (nameSpace label : String) :
    library.Counts (library.increment state nameSpace (countOnce spec.name spec.label label)).1
      (Family.baseName other counter.name) fun value =>
        (if nameSpace = other ∧ spec = counter ∧ label = value then 1 else 0) + times value where
  has := by
    rw [(laws.registers_nothing state nameSpace _).1]
    exact counts.has
  number? value := by
    have one : library.amount? (countOnce spec.name spec.label label) = some .one := by
      rw [amount?, countOnce, laws.amountOf_one]
      rfl
    rw [laws.number?_increment known counts.has, counts.number?, one,
      Increment.target_countOnce known']
    simp only [Except.toOption, Option.some.injEq, Prod.mk.injEq, Option.toList_some,
      List.foldl_cons, List.foldl_nil]
    split
    next =>
      -- The first of the ones is added to zero.
      rw [Nat.add_comm, if_neg (Nat.succ_ne_zero _), Binary64.tally]
      split
      next none => rw [none, Option.getD_none, Binary64.tally]
      next => rw [Option.getD_some]
    next => rw [Nat.zero_add]

end Lawful

/-! ## Registering -/

/-- A registry with all counters of a namespace besides those that it has. -/
def extendedAll (library : CounterLibrary σ) (state : σ) (nameSpace : String) : σ :=
  transformCounters.foldl (fun now spec => library.extended now nameSpace spec) state

/-- The names that are claimed are those of the counters of namespaces. -/
def ClaimedBy (library : CounterLibrary σ) (state : σ) (spaces : List String) : Prop :=
  ∀ name, library.Claims state name ↔
    ∃ nameSpace ∈ spaces, ∃ spec ∈ transformCounters, name ∈ (Family.ofSpec nameSpace spec).claims

namespace Lawful

variable (laws : library.Lawful)

include laws

/-- A counter that is registered is one more. -/
theorem eq_extended {larger : σ} (registered : library.register state nameSpace spec = .ok larger) :
    larger = library.extended state nameSpace spec := by
  by_cases free : ∀ name ∈ (Family.ofSpec nameSpace spec).claims, ¬ library.Claims state name
  · rw [laws.register_of_free free] at registered
    exact (Except.ok.inj registered).symm
  · push Not at free
    obtain ⟨name, isOwn, claimed⟩ := free
    rw [laws.register_of_claimed isOwn claimed] at registered
    cases registered

/-- Registering brings in no numbers, and leaves the counters that are there. -/
theorem registers_only (state : σ) (nameSpace : String) (specs : List CounterSpec) :
    library.number? (library.registerAll state nameSpace specs).1 = library.number? state
      ∧ ∀ base, library.Has state base →
        library.Has (library.registerAll state nameSpace specs).1 base := by
  induction specs generalizing state with
  | nil => exact ⟨rfl, fun _ has => has⟩
  | cons spec rest ih =>
    rw [registerAll]
    split
    next larger registered =>
      obtain rfl := laws.eq_extended registered
      obtain ⟨numbers, counters⟩ := ih (library.extended state nameSpace spec)
      exact ⟨numbers.trans laws.number?_extended,
        fun base has => counters base (laws.has_extended.mpr (.inl has))⟩
    next => exact ⟨rfl, fun _ has => has⟩

/-- Counters that were registered are there and were not there before. -/
theorem has_of_registerAll {specs : List CounterSpec}
    (succeeds : (library.registerAll state nameSpace specs).2 = none) :
    ∀ spec ∈ specs,
      library.Has (library.registerAll state nameSpace specs).1
          (Family.baseName nameSpace spec.name)
        ∧ ¬ library.Has state (Family.baseName nameSpace spec.name) := by
  induction specs generalizing state with
  | nil => nofun
  | cons spec rest ih =>
    rw [registerAll] at succeeds ⊢
    split at succeeds
    next larger registered =>
      obtain rfl := laws.eq_extended registered
      refine List.forall_mem_cons.mpr ⟨⟨?_, fun has => ?_⟩, fun later member => ?_⟩
      · exact (laws.registers_only _ nameSpace rest).2 _ (laws.has_extended.mpr (.inr rfl))
      · -- The base name is claimed where there is the counter.
        have refused := laws.register_of_claimed (.head _) (laws.claims_of_has has)
        rw [refused] at registered
        cases registered
      · obtain ⟨isThere, new⟩ := ih succeeds later member
        exact ⟨isThere, fun has => new (laws.has_extended.mpr (.inl has))⟩
    next => cases succeeds

/-- Counters that were registered have no label values yet. -/
theorem counts_registerCounters (known : spec ∈ transformCounters)
    (succeeds : (library.registerCounters state nameSpace).2 = none) :
    library.Counts (library.registerCounters state nameSpace).1
      (Family.baseName nameSpace spec.name) fun _ => 0 := by
  obtain ⟨isThere, absent⟩ := laws.has_of_registerAll succeeds spec known
  refine ⟨isThere, fun label => ?_⟩
  rw [registerCounters, (laws.registers_only state nameSpace transformCounters).1]
  exact laws.number?_of_not_has absent

/-- A counter that was there before others were registered still counts as it did. -/
theorem counts_of_counts {times : String → Nat} (counts : library.Counts state base times)
    (nameSpace : String) :
    library.Counts (library.registerCounters state nameSpace).1 base times := by
  obtain ⟨numbers, counters⟩ := laws.registers_only state nameSpace transformCounters
  refine ⟨counters base counts.has, fun label => ?_⟩
  rw [registerCounters, numbers]
  exact counts.number? label

/-- Counters that claim names of their own are all registered. -/
theorem registerAll_of_free {specs : List CounterSpec}
    (free : ∀ spec ∈ specs, ∀ name ∈ (Family.ofSpec nameSpace spec).claims,
      ¬ library.Claims state name)
    (apart : specs.Pairwise fun one other => ∀ name ∈ (Family.ofSpec nameSpace other).claims,
      name ∉ (Family.ofSpec nameSpace one).claims) :
    library.registerAll state nameSpace specs =
      (specs.foldl (fun now spec => library.extended now nameSpace spec) state, none) := by
  induction specs generalizing state with
  | nil => rfl
  | cons spec rest ih =>
    obtain ⟨here, later⟩ := List.forall_mem_cons.mp free
    obtain ⟨others, apart⟩ := List.pairwise_cons.mp apart
    have stillFree : ∀ other ∈ rest, ∀ name ∈ (Family.ofSpec nameSpace other).claims,
        ¬ library.Claims (library.extended state nameSpace spec) name := by
      intro other member name isOwn claimed
      exact (laws.claims_extended.mp claimed).elim (later other member name isOwn)
        (others other member name isOwn)
    rw [registerAll, laws.register_of_free here]
    exact ih stillFree apart

theorem claims_foldl_extended {name : String} (specs : List CounterSpec) :
    library.Claims (specs.foldl (fun now spec => library.extended now nameSpace spec) state) name ↔
      library.Claims state name
        ∨ ∃ spec ∈ specs, name ∈ (Family.ofSpec nameSpace spec).claims := by
  induction specs generalizing state with
  | nil => simp
  | cons spec rest ih =>
    rw [List.foldl_cons, ih, laws.claims_extended, or_assoc]
    simp only [List.mem_cons, or_and_right, exists_or, exists_eq_left]

/-- The counters of a new namespace are all registered. -/
theorem registerCounters_of_new (claimed : library.ClaimedBy state spaces)
    (new : nameSpace ∉ spaces) :
    library.registerCounters state nameSpace = (library.extendedAll state nameSpace, none) := by
  have distinct : transformCounters.Nodup := by decide
  refine laws.registerAll_of_free ?_ (distinct.imp_of_mem ?_)
  · intro spec known name isOwn isClaimed
    obtain ⟨other, isThere, counter, known', isToo⟩ := (claimed name).mp isClaimed
    obtain ⟨rfl, -⟩ := Family.eq_of_mem_claims known known' isOwn isToo
    exact new isThere
  · intro one other known known' differ name isOwn isToo
    exact differ (Family.eq_of_mem_claims known known' isToo isOwn).2

/-- Where the namespace is there already, the first of its counters is refused. -/
theorem registerCounters_of_taken (claimed : library.ClaimedBy state spaces)
    (taken : nameSpace ∈ spaces) :
    library.registerCounters state nameSpace
      = (state, some (.metric .seriesAlreadyClaimed)) := by
  have isClaimed : ∀ spec ∈ transformCounters,
      library.Claims state (Family.baseName nameSpace spec.name) :=
    fun spec known => (claimed _).mpr ⟨nameSpace, taken, spec, known, .head _⟩
  have refused := laws.register_of_claimed (.head _) (isClaimed _ (.head _))
  rw [registerCounters, transformCounters, registerAll, refused]

theorem claimedBy_extendedAll (claimed : library.ClaimedBy state spaces) (nameSpace : String) :
    library.ClaimedBy (library.extendedAll state nameSpace) (spaces ++ [nameSpace]) := by
  intro name
  rw [extendedAll, laws.claims_foldl_extended, claimed name]
  simp only [List.mem_append, List.mem_singleton, or_and_right, exists_or, exists_eq_left]

theorem claimedBy_increment (claimed : library.ClaimedBy state spaces) (nameSpace : String)
    (request : Increment) :
    library.ClaimedBy (library.increment state nameSpace request).1 spaces := by
  intro name
  rw [(laws.registers_nothing state nameSpace request).2]
  exact claimed name

end Lawful

end CounterLibrary
end BrokerMaps
