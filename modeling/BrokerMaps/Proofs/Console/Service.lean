import BrokerMaps.Proofs.Console.Effects
import BrokerMaps.Proofs.Flatten.Reports
import BrokerMaps.Proofs.Metrics.Registries

/-!
# Writers and sinks that do not fail

A console accepts an effect when it performs it without a fault. Which increments and lines a
console accepts is settled by how it is set up: a sink takes every increment that the flattening
filter makes unless something unfit stands in its place, and a writer takes every line unless it is
missing, unfit, or passes lines on at what is no level. No effect changes that setup, so a console
that serves a filter goes on to do so.

## Main results

* `accepts_increment_iff`, `performs_line_iff`: which increments and lines a console accepts.
* `Serves.of_does`: a console still serves every filter that it served before.
* `Serves.answer_transform`: transforming an object on a console that serves the filter performs the
  effects of the report and answers with its outcome.
-/
namespace BrokerMaps

/-- Whether a writer can write lines: one that passes them on needs a level to do so. -/
def Writer.TakesLines : Writer → Prop
  | .logging _ level => (Level.ofValue? level).isSome
  | _ => True

namespace Console

variable {console after : Console} {sink? writer? : Option Endpoint}

/-- An effect that a console performs without a fault. -/
def Accepts (console : Console) (effect : Effect) : Prop := ∃ after, console.Performs effect after

@[simp] theorem performs_record_iff {record : LogRecord} :
    console.Performs (.record record) after ↔ after = console.log record := by
  have logged : console.answer (Effect.record record).perform = (.ok (), console.log record) := rfl
  rw [Performs, logged, Prod.mk.injEq]
  exact ⟨fun same => same.2.symm, fun same => ⟨rfl, same.symm⟩⟩

@[simp] theorem log_installed (console : Console) (record : LogRecord) :
    (console.log record).installed = console.installed := by
  unfold log
  split <;> rfl

@[simp] theorem log_writers (console : Console) (record : LogRecord) :
    (console.log record).writers = console.writers := by
  unfold log
  split <;> rfl

@[simp] theorem log_sinks (console : Console) (record : LogRecord) :
    (console.log record).sinks = console.sinks := by
  unfold log
  split <;> rfl

/-! ## Increments -/

/-- A console after an increment was passed on to a sink. A sink that refuses may have changed. -/
def counted (console : Console) (sink? : Option Endpoint) (request : Increment) : Console :=
  match sink? with
  | some (.ok sink) =>
    match console.sinks[sink]? with
    | some (.recording requests) =>
      { console with sinks := console.sinks.set sink (.recording (requests ++ [request])) }
    | some (.counters number nameSpace) =>
      let registry := console.registries[number]?.getD []
      { console with
        registries :=
          console.registries.set number (Registry.increment registry nameSpace request).1 }
    | _ => console
  | _ => console

/-- The fault that a sink refuses an increment with. -/
def refusal? (console : Console) (sink? : Option Endpoint) (request : Increment) : Option Fault :=
  match sink? with
  | none => none
  | some (.error fault) => some fault
  | some (.ok sink) =>
    match console.sinks[sink]? with
    | some (.counters number nameSpace) =>
      (Registry.increment (console.registries[number]?.getD []) nameSpace request).2
    | _ => none

theorem answer_count (console : Console) (sink? : Option Endpoint) (request : Increment) :
    console.answer (count sink? request) =
      (match console.refusal? sink? request with
        | none => .ok ()
        | some fault => .error fault, console.counted sink? request) := by
  match sink? with
  | none => rfl
  | some (.error fault) => rfl
  | some (.ok sink) =>
    rw [count, answer_bind_of_ok (answer_ofExcept (.ok sink)), answer_bind_of_ok answer_get]
    simp only [refusal?, counted]
    match console.sinks[sink]? with
    | none => rfl
    | some .silent => rfl
    | some (.recording requests) => rfl
    | some (.counters number nameSpace) =>
      simp only
      rw [answer_bind_of_ok (answer_set _)]
      split <;> simp only [*] <;> rfl

theorem performs_increment_iff {request : Increment} :
    console.Performs (.increment sink? request) after ↔
      console.refusal? sink? request = none ∧ after = console.counted sink? request := by
  have passedOn : console.answer (Effect.increment sink? request).perform = _ :=
    answer_count console sink? request
  rw [Performs, passedOn, Prod.mk.injEq, eq_comm (b := after)]
  cases console.refusal? sink? request <;> simp

/-- A count of the flattening filter is refused only by what is no sink at all. -/
theorem accepts_increment_iff {spec : CounterSpec} (known : spec ∈ transformCounters)
    {value : String} :
    console.Accepts (.increment sink? (countOnce spec.name spec.label value)) ↔
      ∀ fault, sink? ≠ some (.error fault) := by
  have refused : console.Accepts (.increment sink? (countOnce spec.name spec.label value)) ↔
      console.refusal? sink? (countOnce spec.name spec.label value) = none := by
    simp only [Accepts, performs_increment_iff, exists_and_left, exists_eq, and_true]
  rw [refused]
  match sink? with
  | none => simp [refusal?]
  | some (.error fault) => simp [refusal?]
  | some (.ok sink) =>
    simp only [refusal?, ne_eq, Option.some.injEq, reduceCtorEq, not_false_eq_true, implies_true,
      iff_true]
    split
    · exact Registry.lawful.increment_countOnce known _ _ _
    · rfl

@[simp] theorem counted_installed (console : Console) (sink? : Option Endpoint)
    (request : Increment) : (console.counted sink? request).installed = console.installed := by
  unfold counted
  split
  · split <;> rfl
  · rfl

@[simp] theorem counted_writers (console : Console) (sink? : Option Endpoint)
    (request : Increment) : (console.counted sink? request).writers = console.writers := by
  unfold counted
  split
  · split <;> rfl
  · rfl

/-! ## Lines -/

/-- A console after a writer with a number wrote a line. -/
def written (console : Console) (number : Nat) (writer : Writer) (line : String) : Console :=
  match writer with
  | .standard => { console with standardLines := console.standardLines ++ [line] }
  | .stream lines =>
    { console with writers := console.writers.set number (.stream (lines ++ [line])) }
  | .logging logger level =>
    match Level.ofValue? level with
    | some level => console.log ⟨logger, level, line⟩
    | none => console

/-- Lines for an endpoint go to a writer that is there and takes them. -/
structure Routes (console : Console) (writer? : Option Endpoint) (number : Nat) (writer : Writer) :
    Prop where
  route : console.route writer? = .ok number
  found : console.writers[number]? = some writer
  takes : writer.TakesLines

theorem answer_line (console : Console) (writer? : Option Endpoint) (line : String) :
    console.answer (Effect.line writer? line).perform =
      console.answer (writeLine (console.route writer?) (.text line)) :=
  answer_bind_of_ok answer_get

theorem Routes.answer_line {number : Nat} {writer : Writer}
    (routes : console.Routes writer? number writer) (line : String) :
    console.answer (Effect.line writer? line).perform
      = (.ok (), console.written number writer line) := by
  have plain : Value.plain (.text line) = .ok line := by simp [Value.plain]
  rw [Console.answer_line, routes.route, writeLine,
    answer_bind_of_ok (answer_ofExcept (.ok number)), answer_bind_of_ok answer_get, routes.found]
  cases writer with
  | standard => rfl
  | stream lines => rfl
  | logging logger level =>
    obtain ⟨known, isLevel⟩ := Option.isSome_iff_exists.mp routes.takes
    simp only [isLevel, written]
    split
    next => simp only [plain]; rfl
    next dropped => simp only [log, if_neg dropped]; rfl

/-- A line that goes to no writer is refused before anything is written. -/
theorem answer_line_of_not_routes
    (unrouted : ∀ number writer, ¬ console.Routes writer? number writer) (line : String) :
    ∃ fault, console.answer (Effect.line writer? line).perform = (.error fault, console) := by
  rw [answer_line]
  cases route : console.route writer? with
  | error fault => exact ⟨fault, rfl⟩
  | ok number =>
    rw [writeLine, answer_bind_of_ok (answer_ofExcept (.ok number)), answer_bind_of_ok answer_get]
    cases found : console.writers[number]? with
    | none => exact ⟨_, rfl⟩
    | some writer =>
      cases writer with
      | standard => exact absurd ⟨route, found, trivial⟩ (unrouted _ _)
      | stream lines => exact absurd ⟨route, found, trivial⟩ (unrouted _ _)
      | logging logger level =>
        have noLevel : Level.ofValue? level = none :=
          Option.not_isSome_iff_eq_none.mp fun takes => unrouted _ _ ⟨route, found, takes⟩
        simp only [noLevel]
        exact ⟨_, rfl⟩

theorem performs_line_iff {line : String} :
    console.Performs (.line writer? line) after ↔
      ∃ number writer, console.Routes writer? number writer
        ∧ after = console.written number writer line := by
  constructor
  · intro done
    by_cases routed : ∃ number writer, console.Routes writer? number writer
    · obtain ⟨number, writer, routes⟩ := routed
      rw [Performs, routes.answer_line] at done
      exact ⟨number, writer, routes, (Prod.mk.inj done).2.symm⟩
    · simp only [not_exists] at routed
      obtain ⟨fault, refused⟩ := answer_line_of_not_routes routed line
      rw [Performs, refused] at done
      cases done
  · rintro ⟨number, writer, routes, rfl⟩
    exact routes.answer_line line

@[simp] theorem written_installed (console : Console) (number : Nat) (writer : Writer)
    (line : String) : (console.written number writer line).installed = console.installed := by
  unfold written
  split
  · rfl
  · rfl
  · split <;> simp

@[simp] theorem written_sinks (console : Console) (number : Nat) (writer : Writer)
    (line : String) : (console.written number writer line).sinks = console.sinks := by
  unfold written
  split
  · rfl
  · rfl
  · split <;> simp

/-! ## What does not change -/

/-- The same writer is installed, and what takes lines goes on to do so. -/
structure KeepsWriters (console after : Console) : Prop where
  installed : after.installed = console.installed
  takesLines : ∀ {number : Nat} {writer : Writer},
    console.writers[number]? = some writer → writer.TakesLines →
      ∃ now : Writer, after.writers[number]? = some now ∧ now.TakesLines

theorem keepsWriters_of_eq (installed : after.installed = console.installed)
    (writers : after.writers = console.writers) : KeepsWriters console after where
  installed := installed
  takesLines {_ writer} found takes := ⟨writer, writers ▸ found, takes⟩

theorem keepsWriters_written {number : Nat} {writer : Writer} {line : String}
    (found : console.writers[number]? = some writer) :
    KeepsWriters console (console.written number writer line) := by
  cases writer with
  | standard => exact keepsWriters_of_eq rfl rfl
  | logging logger level =>
    refine keepsWriters_of_eq (written_installed _ _ _ _) ?_
    simp only [written]
    split <;> simp
  | stream lines =>
    refine ⟨rfl, fun {other held} there takes => ?_⟩
    by_cases same : other = number
    -- The writer that wrote the line is the same stream with one line more.
    · subst same
      have inRange : other < console.writers.length := (List.getElem?_eq_some_iff.mp found).1
      exact ⟨.stream (lines ++ [line]), List.getElem?_set_self inRange, trivial⟩
    · exact ⟨held, (List.getElem?_set_ne (Ne.symm same)).trans there, takes⟩

/-- No effect takes a writer away. -/
theorem Performs.keepsWriters {effect : Effect} (done : console.Performs effect after) :
    KeepsWriters console after := by
  cases effect with
  | record logged =>
    rw [performs_record_iff] at done
    subst done
    exact keepsWriters_of_eq (log_installed _ _) (log_writers _ _)
  | increment sink? request =>
    obtain ⟨-, rfl⟩ := performs_increment_iff.mp done
    exact keepsWriters_of_eq (counted_installed _ _ _) (counted_writers _ _ _)
  | line writer? text =>
    obtain ⟨number, writer, routes, rfl⟩ := performs_line_iff.mp done
    exact keepsWriters_written routes.found

theorem KeepsWriters.accepts_line (keeps : KeepsWriters console after) {line : String}
    (accepted : console.Accepts (.line writer? line)) : after.Accepts (.line writer? line) := by
  obtain ⟨_, done⟩ := accepted
  obtain ⟨number, writer, routes, -⟩ := performs_line_iff.mp done
  obtain ⟨now, found, takes⟩ := keeps.takesLines routes.found routes.takes
  have route : after.route writer? = .ok number := by
    rw [← routes.route, Console.route, Console.route, keeps.installed]
  exact ⟨_, performs_line_iff.mpr ⟨number, now, ⟨route, found, takes⟩, rfl⟩⟩

/-! ## Serving a filter -/

/-- A console serves a flattening filter when neither what the filter counts nor the lines that it
writes can fail. -/
structure Serves (console : Console) (config : FlattenConfig) : Prop where
  counts : ∀ spec ∈ transformCounters, ∀ value,
    console.Accepts (.increment config.sink? (countOnce spec.name spec.label value))
  lines : ∀ line, console.Accepts (.line config.writer? line)

theorem Serves.of_performs {config : FlattenConfig} {effect : Effect}
    (serves : console.Serves config) (done : console.Performs effect after) :
    after.Serves config where
  counts spec known value := by
    have fit := (accepts_increment_iff known).mp (serves.counts spec known value)
    exact (accepts_increment_iff known).mpr fit
  lines line := done.keepsWriters.accepts_line (serves.lines line)

/-- What a console serves it still serves after any effects, its own or those of other filters. -/
theorem Serves.of_does {config : FlattenConfig} {effects : List Effect}
    (serves : console.Serves config) (done : console.Does effects after) :
    after.Serves config := by
  induction done with
  | nothing => exact serves
  | next here _ ih => exact ih (serves.of_performs here)

end Console

/-- The effects that a flattening filter can have. -/
inductive FlattenConfig.MayDo (config : FlattenConfig) : Effect → Prop
  | record {logged : LogRecord} : config.MayDo (.record logged)
  | increment {spec : CounterSpec} (known : spec ∈ transformCounters) (value : String) :
      config.MayDo (.increment config.sink? (countOnce spec.name spec.label value))
  | line {text : String} : config.MayDo (.line config.writer? text)

namespace Console

variable {console after : Console} {config : FlattenConfig}

theorem Serves.accepts {effect : Effect} (serves : console.Serves config)
    (mayDo : config.MayDo effect) : console.Accepts effect := by
  cases mayDo with
  | record => exact ⟨_, performs_record_iff.mpr rfl⟩
  | increment known value => exact serves.counts _ known value
  | line => exact serves.lines _

theorem Serves.exists_does {effects : List Effect} (serves : console.Serves config)
    (each : ∀ effect ∈ effects, config.MayDo effect) : ∃ after, console.Does effects after := by
  induction effects generalizing console with
  | nil => exact ⟨console, .nothing⟩
  | cons effect rest ih =>
    obtain ⟨here, later⟩ := List.forall_mem_cons.mp each
    obtain ⟨between, done⟩ := serves.accepts here
    obtain ⟨after, others⟩ := ih (serves.of_performs done) later
    exact ⟨after, .next done others⟩

/-- Where lines go to the standard output, every filter is served that names no writer and no sink
of its own. -/
theorem serves_of_standard {number : Nat} (installed : console.installed = .ok number)
    (found : console.writers[number]? = some .standard) (flattener : Flattener) :
    console.Serves ⟨flattener, none, none⟩ where
  counts _ known _ := (accepts_increment_iff known).mpr nofun
  lines _ := ⟨_, performs_line_iff.mpr ⟨number, .standard, ⟨installed, found, trivial⟩, rfl⟩⟩

theorem serves_fresh (level : Int) (flattener : Flattener) :
    (fresh level).Serves ⟨flattener, none, none⟩ := serves_of_standard rfl rfl flattener

end Console

/-! ## Transforming an object -/

/-- Every report counts once, at one of the counters of the transform. -/
theorem report_increment (flattener : Flattener) (value : Value) :
    ∃ spec ∈ transformCounters, ∃ label,
      (flattener.report value).increment = countOnce spec.name spec.label label := by
  obtain ⟨-, same⟩ | ⟨_, _, -, -, same⟩ | ⟨_, _, -, -, same⟩ := flattener.report_cases value
  · exact ⟨_, .tail _ (.head _), _, by rw [same]; rfl⟩
  · exact ⟨_, .head _, _, by rw [same]; rfl⟩
  · exact ⟨_, .tail _ (.tail _ (.head _)), _, by rw [same]; rfl⟩

theorem mayDo_report (config : FlattenConfig) (value : Value) :
    ∀ effect ∈ (config.flattener.report value).effects config.writer? config.sink?,
      config.MayDo effect := by
  intro effect member
  simp only [Report.effects, Report.entries, List.mem_append, List.mem_map, List.mem_singleton,
    Option.mem_toList, Option.map_eq_some_iff] at member
  obtain ((⟨_, -, rfl⟩ | rfl) | ⟨_, -, rfl⟩) | ⟨_, -, rfl⟩ := member
  · exact .record
  · obtain ⟨spec, known, label, counts⟩ := report_increment config.flattener value
    rw [counts]
    exact .increment known label
  · exact .record
  · exact .line

theorem Console.Serves.answer_transform {console : Console} {config : FlattenConfig}
    (serves : console.Serves config) (value : Value) :
    ∃ after,
      console.Does ((config.flattener.report value).effects config.writer? config.sink?) after
      ∧ console.answer (Filter.FlattenConfig.transform config value)
        = ((config.flattener.report value).outcome, after) := by
  obtain ⟨after, done⟩ := serves.exists_does (mayDo_report config value)
  exact ⟨after, done, Console.answer_deliver done⟩

end BrokerMaps
