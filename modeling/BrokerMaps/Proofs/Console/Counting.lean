import BrokerMaps.Proofs.Console.Transparency

/-!
# Counters that count the calls of a run

Flattening filters that share counters, each with its own flattener and writers, are called one
after the other. There can be other filters in the run, with counters under another namespace of the
same registry or in another registry.

## Main result

`Console.answerAll_counters`: no increment of the run is refused, the run is the one that it is with
silent sinks, and afterwards each counter has a number for just the label values that calls of the
run count at, which is the number of these calls.

## Proof strategy

An increment counts up one label value of one counter, and which one that is follows from the place
of the sink and the outcome of the call. One call thus turns counters that show how often each label
value was counted into counters that do so for one call more, and the run follows by induction.
-/
namespace BrokerMaps

/-! ## Counters -/

/-- The number of a registry and the namespace that a sink counts under. -/
def Sink.under? : Sink → Option (Nat × String)
  | .counters number nameSpace => some (number, nameSpace)
  | _ => none

namespace Console

variable {console other : Console} {sink? writer? : Option Endpoint}

/-- The number of a registry and the namespace that an endpoint counts under. -/
def countsUnder? (console : Console) (sink? : Option Endpoint) : Option (Nat × String) :=
  match sink? with
  | some (.ok sink) => console.sinks[sink]?.bind Sink.under?
  | _ => none

/-- A counter of the registry with a number. -/
def family? (console : Console) (number : Nat) (base : String) : Option Family :=
  (console.registries[number]?.getD []).family? base

/-- How often each label value of a counter of the registry with a number was counted. -/
def Counts (console : Console) (number : Nat) (base : String) (times : String → Nat) : Prop :=
  Registry.library.Counts (console.registries[number]?.getD []) base times

theorem CountsAlike.countsUnder? (same : console.CountsAlike other) (sink? : Option Endpoint) :
    other.countsUnder? sink? = console.countsUnder? sink? := by
  simp only [Console.countsUnder?, same.sinks]

theorem CountsAlike.counts (same : console.CountsAlike other) {number : Nat} {base : String}
    {times : String → Nat} (counts : console.Counts number base times) :
    other.Counts number base times := by
  rwa [Counts, same.registries]

/-- Where something is counted there is a registry. -/
theorem Counts.exists_registry {number : Nat} {base : String} {times : String → Nat}
    (counts : console.Counts number base times) :
    ∃ registry, console.registries[number]? = some registry
      ∧ Registry.library.Counts registry base times := by
  rw [Counts] at counts
  cases held : console.registries[number]? with
  | none =>
    rw [held] at counts
    cases counts.has
  | some registry =>
    rw [held] at counts
    exact ⟨registry, rfl, counts⟩

/-- No increment moves a counter. -/
theorem countsUnder?_counted (console : Console) (sink? at? : Option Endpoint)
    (request : Increment) :
    (console.counted sink? request).countsUnder? at? = console.countsUnder? at? := by
  unfold counted
  split
  next sink =>
    split
    next requests recording =>
      -- The sink in that place records one more request and is a recording sink still.
      match at? with
      | none => rfl
      | some (.error fault) => rfl
      | some (.ok place) =>
        simp only [countsUnder?, List.getElem?_set]
        split
        next here =>
          subst here
          rw [recording]
          split <;> rfl
        next => rfl
    next => rfl
    next => rfl
  next => rfl

theorem countsUnder?_eq_some_iff {number : Nat} {nameSpace : String} :
    console.countsUnder? sink? = some (number, nameSpace) ↔
      ∃ sink, sink? = some (.ok sink)
        ∧ console.sinks[sink]? = some (.counters number nameSpace) := by
  match sink? with
  | none => simp [countsUnder?]
  | some (.error fault) => simp [countsUnder?]
  | some (.ok sink) =>
    simp only [countsUnder?]
    cases found : console.sinks[sink]? with
    | none => simp [found]
    | some held => cases held <;> simp [found, Sink.under?]

theorem registries_counted_of_none (elsewhere : console.countsUnder? sink? = none)
    (request : Increment) : (console.counted sink? request).registries = console.registries := by
  unfold counted
  split
  next =>
    split
    next => rfl
    next found => cases (countsUnder?_eq_some_iff.mpr ⟨_, rfl, found⟩).symm.trans elsewhere
    next => rfl
  next => rfl

/-- An increment by one counts once more where the endpoint counts, at the label value of the
counter. -/
theorem Counts.counted {spec counter : CounterSpec} (known : counter ∈ transformCounters)
    (known' : spec ∈ transformCounters) {number : Nat} {nameSpace : String} {times : String → Nat}
    (counts : console.Counts number (Family.baseName nameSpace counter.name) times)
    (sink? : Option Endpoint) (label : String) :
    (console.counted sink? (countOnce spec.name spec.label label)).Counts number
      (Family.baseName nameSpace counter.name) fun value =>
        (if console.countsUnder? sink? = some (number, nameSpace) ∧ spec = counter ∧ label = value
          then 1 else 0) + times value := by
  cases counting : console.countsUnder? sink? with
  | none =>
    rw [Counts, registries_counted_of_none counting]
    simpa [Counts] using counts
  | some place =>
    obtain ⟨place, under⟩ := place
    obtain ⟨sink, rfl, found⟩ := countsUnder?_eq_some_iff.mp counting
    obtain ⟨registry, held, here⟩ := counts.exists_registry
    simp only [Counts, Console.counted, found, List.getElem?_set, Option.some.injEq, Prod.mk.injEq,
      and_assoc]
    by_cases same : place = number
    · subst same
      have inside : place < console.registries.length := (List.getElem?_eq_some_iff.mp held).1
      simp only [if_true, inside, held, Option.getD_some, true_and]
      exact Registry.lawful.counts_increment known known' here under label
    · simpa [same, held] using here

end Console

/-! ## Calls -/

namespace Call

/-- Whether what comes of a call counts at a label value of a counter. -/
def marks (name label : String) (call : Call) : Bool :=
  match call.outcome with
  | .ok (some _) => name = transformedTotal && call.value.className = label
  | .ok none => name = unsupportedTotal && call.value.classOf.qualified = label
  | .error _ => name = failedTotal && call.value.className = label

theorem exists_marks (call : Call) :
    ∃ spec ∈ transformCounters, ∃ label,
      call.report.increment = countOnce spec.name spec.label label
        ∧ ∀ counter ∈ transformCounters, ∀ other,
          call.marks counter.name other = decide (counter = spec ∧ label = other) := by
  have names : ∀ spec ∈ transformCounters, ∀ counter ∈ transformCounters,
      counter.name = spec.name ↔ counter = spec := by decide
  rw [report_increment_eq]
  unfold marks
  match call.outcome with
  | .ok (some map) =>
    refine ⟨_, .head _, _, rfl, fun counter known other => ?_⟩
    simp [← names _ (.head _) counter known]
  | .ok none =>
    refine ⟨_, .tail _ (.head _), _, rfl, fun counter known other => ?_⟩
    simp [← names _ (.tail _ (.head _)) counter known]
  | .error fault =>
    refine ⟨_, .tail _ (.tail _ (.head _)), _, rfl, fun counter known other => ?_⟩
    simp [← names _ (.tail _ (.tail _ (.head _))) counter known]

end Call

namespace Console

variable {console : Console} {calls : List Call} {sink? : Option Endpoint} {number : Nat}
  {nameSpace : String} {counter : CounterSpec}

/-- A call counts at the counter and the label value that its outcome marks. -/
theorem Counts.answer {call : Call} (fit : call.HasSink) (known : counter ∈ transformCounters)
    {times : String → Nat}
    (counts : console.Counts number (Family.baseName nameSpace counter.name) times) :
    (console.answer (Filter.FlattenConfig.transform call.config call.value)).2.Counts number
      (Family.baseName nameSpace counter.name) fun label =>
        (if console.countsUnder? call.config.sink? = some (number, nameSpace)
          ∧ call.marks counter.name label then 1 else 0) + times label := by
  obtain ⟨spec, known', label, increments, marks⟩ := call.exists_marks
  have alike := countsAlike_answer_deliver fit console call.config.writer? call.config.flattener
    call.value
  have counted := counts.counted known known' call.config.sink? label
  rw [← increments] at counted
  have after := alike.counts counted
  simp only [eq_comm (a := spec)] at after
  simp only [marks counter known, decide_eq_true_eq]
  exact after

/-- Calls move no counter. -/
theorem countsUnder?_answer {call : Call} (fit : call.HasSink) (sink? : Option Endpoint) :
    (console.answer (Filter.FlattenConfig.transform call.config call.value)).2.countsUnder? sink?
      = console.countsUnder? sink? := by
  have alike := countsAlike_answer_deliver fit console call.config.writer? call.config.flattener
    call.value
  exact (alike.countsUnder? sink?).trans (countsUnder?_counted _ _ _ _)

theorem countsUnder?_answerAll (fit : ∀ call ∈ calls, call.HasSink) (sink? : Option Endpoint) :
    (console.answerAll calls).2.countsUnder? sink? = console.countsUnder? sink? := by
  induction calls generalizing console with
  | nil => rfl
  | cons call rest ih =>
    obtain ⟨here, later⟩ := List.forall_mem_cons.mp fit
    exact (ih later).trans (countsUnder?_answer here sink?)

/-- How many calls of a run count at a label value of a counter that an endpoint counts under. -/
def timesCounted (console : Console) (sink? : Option Endpoint) (name label : String)
    (calls : List Call) : Nat :=
  calls.countP fun call =>
    console.countsUnder? call.config.sink? = console.countsUnder? sink? ∧ call.marks name label

theorem Counts.answerAll (fit : ∀ call ∈ calls, call.HasSink) (known : counter ∈ transformCounters)
    (under : console.countsUnder? sink? = some (number, nameSpace)) {times : String → Nat}
    (counts : console.Counts number (Family.baseName nameSpace counter.name) times) :
    (console.answerAll calls).2.Counts number (Family.baseName nameSpace counter.name) fun label =>
      console.timesCounted sink? counter.name label calls + times label := by
  induction calls generalizing console times with
  | nil =>
    simp only [timesCounted, List.countP_nil, Nat.zero_add]
    exact counts
  | cons call rest ih =>
    obtain ⟨here, later⟩ := List.forall_mem_cons.mp fit
    have still := (countsUnder?_answer here sink?).trans under
    have countsThen := ih later still (counts.answer here known)
    -- The later calls count where they counted before this one.
    simp only [timesCounted, countsUnder?_answer here, under] at countsThen
    simp only [timesCounted, List.countP_cons, decide_eq_true_eq, Nat.add_assoc, under]
    exact countsThen

/-! ## Adding counters -/

/-- The registries of a console, with a new one at the end unless one of them is shared. -/
def registriesFor (console : Console) (shared? : Option Nat) : List Registry :=
  if shared?.isSome then console.registries else console.registries ++ [[]]

/-- The number of the registry that is shared, or else of the new one. -/
def numberFor (console : Console) (shared? : Option Nat) : Nat :=
  shared?.getD console.registries.length

/-- The registries of a console after counters were added to one of them. -/
def enlarged (console : Console) (nameSpace : String) (shared? : Option Nat) : List Registry :=
  (console.registriesFor shared?).set (console.numberFor shared?)
    (Registry.registerCounters ((console.registriesFor shared?)[console.numberFor shared?]?.getD [])
      nameSpace).1

theorem answer_addCounters (console : Console) (nameSpace : String) (shared? : Option Nat) :
    console.answer (addCounters nameSpace shared?) =
      match (Registry.registerCounters
        ((console.registriesFor shared?)[console.numberFor shared?]?.getD []) nameSpace).2 with
      | some fault =>
        (.error fault, { console with registries := console.enlarged nameSpace shared? })
      | none =>
        (.ok console.sinks.length,
          { console with
            registries := console.enlarged nameSpace shared?
            sinks := console.sinks ++ [.counters (console.numberFor shared?) nameSpace] }) := by
  rw [addCounters, answer_bind_of_ok answer_get]
  simp only [registriesFor, numberFor, enlarged]
  cases (Registry.registerCounters
      ((if shared?.isSome then console.registries else console.registries ++ [[]])[
        shared?.getD console.registries.length]?.getD []) nameSpace).2 with
  | some fault => rfl
  | none => rfl

theorem getElem?_registriesFor {number : Nat} {registry : Registry}
    (held : console.registries[number]? = some registry) (shared? : Option Nat) :
    (console.registriesFor shared?)[number]? = some registry := by
  rw [registriesFor]
  split
  · exact held
  · rw [List.getElem?_append_left (List.getElem?_eq_some_iff.mp held).1, held]

/-- A console still has the counters of another, each in its place. -/
structure KeepsCounters (console after : Console) : Prop where
  countsUnder? : ∀ {sink? under}, console.countsUnder? sink? = some under →
    after.countsUnder? sink? = some under
  counts : ∀ {number base times}, console.Counts number base times → after.Counts number base times

theorem Counts.enlarged {number : Nat} {base : String} {times : String → Nat}
    (counts : console.Counts number base times) (nameSpace : String) (shared? : Option Nat) :
    Registry.library.Counts ((console.enlarged nameSpace shared?)[number]?.getD []) base times := by
  obtain ⟨registry, held, here⟩ := counts.exists_registry
  have still := getElem?_registriesFor held shared?
  have inRange := (List.getElem?_eq_some_iff.mp still).1
  rw [Console.enlarged, List.getElem?_set]
  split
  next same =>
    rw [same, still, if_pos inRange]
    exact Registry.lawful.counts_of_counts here nameSpace
  next =>
    rw [still]
    exact here

/-- Counters that were there stay, whether others can be added or not. -/
theorem keepsCounters_addCounters (console : Console) (nameSpace : String) (shared? : Option Nat) :
    console.KeepsCounters (console.answer (addCounters nameSpace shared?)).2 := by
  rw [answer_addCounters]
  split
  next =>
    exact ⟨fun under => under, fun counts => counts.enlarged nameSpace shared?⟩
  next =>
    refine ⟨fun {sink? under} counts => ?_, fun counts => counts.enlarged nameSpace shared?⟩
    obtain ⟨number, other⟩ := under
    obtain ⟨sink, rfl, held⟩ := countsUnder?_eq_some_iff.mp counts
    refine countsUnder?_eq_some_iff.mpr ⟨sink, rfl, ?_⟩
    exact (List.getElem?_append_left (List.getElem?_eq_some_iff.mp held).1).trans held

/-- Counters that were added are there and have no label values yet. -/
theorem counts_addCounters {nameSpace : String} {shared? : Option Nat} {sink : Nat}
    {ready : Console}
    (inRange : ∀ number, shared? = some number → number < console.registries.length)
    (added : console.answer (addCounters nameSpace shared?) = (.ok sink, ready)) :
    ready.countsUnder? (some (.ok sink)) = some (console.numberFor shared?, nameSpace)
      ∧ ∀ counter ∈ transformCounters,
        ready.Counts (console.numberFor shared?) (Family.baseName nameSpace counter.name)
          fun _ => 0 := by
  rw [answer_addCounters] at added
  split at added
  next => cases added
  next registered =>
    cases added
    have open? : console.numberFor shared? < (console.registriesFor shared?).length := by
      cases shared? with
      | none => simp [numberFor, registriesFor]
      | some number => exact inRange number rfl
    refine ⟨countsUnder?_eq_some_iff.mpr ⟨_, rfl, by simp⟩, fun counter known => ?_⟩
    simp only [Counts, enlarged, List.getElem?_set_self open?]
    exact Registry.lawful.counts_registerCounters known registered

/-- A console after more counters were added, or could not be added. -/
def addAllCounters (console : Console) (adapters : List (String × Option Nat)) : Console :=
  adapters.foldl (fun console adapter => (console.answer (addCounters adapter.1 adapter.2)).2)
    console

theorem keepsCounters_addAllCounters (console : Console) (adapters : List (String × Option Nat)) :
    console.KeepsCounters (console.addAllCounters adapters) := by
  induction adapters generalizing console with
  | nil => exact ⟨id, id⟩
  | cons adapter rest ih =>
    have here := keepsCounters_addCounters console adapter.1 adapter.2
    have later := ih (console.answer (addCounters adapter.1 adapter.2)).2
    exact ⟨fun counts => later.countsUnder? (here.countsUnder? counts),
      fun counts => later.counts (here.counts counts)⟩

/-! ## Runs with counters -/

/-- What a counter shows that a sink counts with. -/
def samples? (console : Console) (sink : Nat) (name : String) :
    Option (List (String × Binary64)) :=
  (console.countsUnder? (some (.ok sink))).bind fun under =>
    (console.family? under.1 (Family.baseName under.2 name)).map (·.samples)

/-- Where nothing is counted: in a silent sink, or because there is none. -/
def IsSilent (console : Console) (sink? : Option Endpoint) : Prop :=
  sink? = none ∨ ∃ sink, sink? = some (.ok sink) ∧ console.sinks[sink]? = some .silent

/-- Counters are added, others may be added after them, and then there is a run of calls. No sink
refuses what a call counts, and with silent sinks in the place of all sinks the run has the same
results and shows the same on the console. At each counter the label values are those that calls of
the run count at, with as many ones added up as there are such calls; what is counted under another
namespace or in another registry makes no difference. Up to the greatest whole number that doubles
hold without a gap, that is how many calls there are. -/
theorem answerAll_counters {first : Console} {shared? : Option Nat} {sink : Nat}
    (inRange : ∀ number, shared? = some number → number < console.registries.length)
    (added : console.answer (addCounters nameSpace shared?) = (.ok sink, first))
    (adapters : List (String × Option Nat)) (fit : ∀ call ∈ calls, call.HasSink) :
    let ready := first.addAllCounters adapters
    (∀ before call later, calls = before ++ call :: later →
        ((ready.answerAll before).2.logAll call.report.records).refusal? call.config.sink?
          call.report.increment = none)
      ∧ (∀ silent?, ready.IsSilent silent? →
          seen (ready.answerAll calls)
            = seen (ready.answerAll (calls.map (Call.onSink silent?))))
      ∧ (∀ counter ∈ transformCounters, ∃ samples,
          (ready.answerAll calls).2.samples? sink counter.name = some samples
            ∧ (samples.map (·.1)).Nodup
            ∧ ∀ label, samples.lookup label =
              let times := ready.timesCounted (some (.ok sink)) counter.name label calls
              if times = 0 then none else some (.tally times))
      ∧ ∀ n ≤ Binary64.exactLimit, (Binary64.tally n).toInt? = some (n : Int) := by
  intro ready
  obtain ⟨under, fresh⟩ := counts_addCounters inRange added
  have keeps := keepsCounters_addAllCounters first adapters
  refine ⟨?_, ?_, ?_, fun n small => Binary64.toInt?_tally small⟩
  · rintro before call later rfl
    exact refusal?_report (fit call (by simp)) _ _ _
  · intro silent? silent
    -- A silent sink refuses nothing, so the run over silent sinks is one that fits, too.
    have quiet : ∀ call ∈ calls.map (Call.onSink silent?), call.HasSink := by
      rintro _ member fault same
      obtain ⟨call, -, rfl⟩ := List.mem_map.mp member
      obtain rfl | ⟨_, rfl, -⟩ := silent <;> cases same
    rw [seen_answerAll fit, seen_answerAll quiet, List.map_map]
    rfl
  · intro counter known
    have counts := (keeps.counts (fresh counter known)).answerAll fit known
      (keeps.countsUnder? under)
    obtain ⟨family, found⟩ := Option.isSome_iff_exists.mp counts.has
    refine ⟨family.samples, ?_, family.distinct, fun label => ?_⟩
    · rw [samples?, countsUnder?_answerAll fit, keeps.countsUnder? under, Option.bind_some, family?,
        found]
      rfl
    · have number := counts.number? label
      simp only [Registry.library, Registry.sample?, found] at number
      exact number

/-- Of a number and two bean names, with other counters in the same registry. -/
theorem answerAll_counters_shared :
    let config : FlattenConfig := ⟨Settings.default.flattener, none, some (.ok 0)⟩
    let name : Value := .beanName ⟨none, none⟩ ⟨.text "broker", [("type", .text "Queue")]⟩
    let calls : List Call := [⟨config, .int 42⟩, ⟨config, name⟩, ⟨config, name⟩]
    ∃ first, (fresh 10).answer (addCounters "app" none) = (.ok 0, first)
      ∧ ∃ samples,
        ((first.addAllCounters [("probe", some 0)]).answerAll calls).2.samples? 0 transformedTotal
            = some samples
          ∧ samples.lookup "ObjectName" = some (.tally 2)
          ∧ samples.lookup "builtins.int" = none := by
  intro config name calls
  have registered : (Registry.registerCounters [] "app").2.isNone = true := by decide +kernel
  have added : ∃ first, (fresh 10).answer (addCounters "app" none) = (.ok 0, first) := by
    rw [answer_addCounters]
    have none : (Registry.registerCounters
        (((fresh 10).registriesFor none)[(fresh 10).numberFor none]?.getD []) "app").2 = none :=
      Option.isNone_iff_eq_none.mp registered
    rw [none]
    exact ⟨_, rfl⟩
  obtain ⟨first, added⟩ := added
  have fit : ∀ call ∈ calls, call.HasSink := by
    simp [calls, config, Call.HasSink]
  have own : ∀ number, (none : Option Nat) = some number → number < (fresh 10).registries.length :=
    nofun
  obtain ⟨-, -, counted, -⟩ := answerAll_counters own added [("probe", some 0)] fit
  obtain ⟨samples, shows, -, numbers⟩ := counted _ (.head _)
  -- The number counts at another counter, and the two names count under their class.
  have times : ∀ label, (first.addAllCounters [("probe", some 0)]).timesCounted (some (.ok 0))
      transformedTotal label calls = if "ObjectName" = label then 2 else 0 := by
    intro label
    have unsupported : Call.marks transformedTotal label ⟨config, .int 42⟩ = false := rfl
    have transformed : Call.marks transformedTotal label ⟨config, name⟩
        = decide ("ObjectName" = label) := rfl
    simp only [timesCounted, calls, config, List.countP_cons, List.countP_nil, unsupported,
      transformed, true_and, decide_eq_true_eq, decide_false, Bool.false_eq_true, if_false]
    split <;> rfl
  refine ⟨first, added, samples, shows, ?_, ?_⟩
  · rw [numbers, times]
    rfl
  · rw [numbers, times]
    rfl

end Console
end BrokerMaps
