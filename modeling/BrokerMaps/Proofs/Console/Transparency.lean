import BrokerMaps.Proofs.Console.Accounting

/-!
# What sinks make no difference to

A report passes one increment on to a sink. What the console shows, its lines and its records, and
what is answered do not depend on the sink, as long as something that counts stands in its place.
Conversely nothing but increments changes what sinks and registries hold.

## Main results

* `Console.seen_answerAll`: a run has the results, and shows on the console, what it has and shows
  without any sinks.
* `Console.countsAlike_answer_deliver`: a report counts its increment and nothing else.

## Proof strategy

The part of a console that shows is a console without sinks and registries, so that both runs can
be compared with one and the same run on it.
-/
namespace BrokerMaps

namespace Console

variable {α : Type} {console other : Console} {sink? writer? : Option Endpoint}

/-! ## What is seen of a run -/

/-- A console without its sinks and registries: what was written and logged, and what will be. -/
def shown (console : Console) : Console := { console with sinks := [], registries := [] }

/-- The result of a run and what it shows on the console. -/
def seen (run : α × Console) : α × Console := (run.1, run.2.shown)

theorem shown_log (console : Console) (record : LogRecord) :
    (console.log record).shown = console.shown.log record := by
  have keeps : console.shown.keeps record.level = console.keeps record.level := rfl
  rw [log, log, keeps]
  split <;> rfl

theorem shown_logAll (console : Console) (records : List LogRecord) :
    (console.logAll records).shown = console.shown.logAll records := by
  induction records generalizing console with
  | nil => rfl
  | cons record rest ih =>
    exact (ih (console.log record)).trans (congrArg (logAll · rest) (shown_log console record))

theorem shown_counted (console : Console) (sink? : Option Endpoint) (request : Increment) :
    (console.counted sink? request).shown = console.shown := by
  unfold counted
  split
  · split <;> rfl
  · rfl

/-- Where a line goes and whether it is taken depends on what a console shows. -/
theorem seen_answer_line (console : Console) (writer? : Option Endpoint) (line : String) :
    seen (console.answer (Effect.line writer? line).perform) =
      console.shown.answer (Effect.line writer? line).perform := by
  have route : console.shown.route writer? = console.route writer? := rfl
  rw [answer_line, answer_line, route]
  cases console.route writer? with
  | error fault => rfl
  | ok number =>
    have writers : console.shown.writers = console.writers := rfl
    rw [writeLine, answer_bind_of_ok (answer_ofExcept (.ok number)), answer_bind_of_ok answer_get,
      answer_bind_of_ok (answer_ofExcept (.ok number)), answer_bind_of_ok answer_get, writers]
    cases console.writers[number]? with
    | none => rfl
    | some writer =>
      cases writer with
      | standard => rfl
      | stream lines => rfl
      | logging logger level =>
        -- A logging writer drops lines below a threshold, which is the same for both consoles.
        cases isLevel : Level.ofValue? level with
        | none => simp only [isLevel]; rfl
        | some known =>
          have keeps : console.shown.keeps known = console.keeps known := rfl
          simp only [isLevel, keeps, Value.plain]
          split
          next => exact Prod.ext rfl (shown_log console ⟨logger, known, line⟩)
          next => rfl

theorem seen_answer_bind_ofExcept {operation : ConsoleM Unit}
    (same : seen (console.answer operation) = console.shown.answer operation)
    (outcome : Except Fault α) :
    seen (console.answer (do operation; MonadExcept.ofExcept outcome)) =
      console.shown.answer (do operation; MonadExcept.ofExcept outcome) := by
  cases run : console.answer operation with
  | mk result after =>
    rw [run] at same
    cases result with
    | ok a =>
      rw [answer_bind_of_ok run, answer_bind_of_ok same.symm, answer_ofExcept, answer_ofExcept]
      rfl
    | error fault =>
      rw [answer_bind_of_error run, answer_bind_of_error same.symm]
      rfl

/-! ## Reports -/

/-- A console after the entries of a report. -/
def entered (console : Console) (sink? : Option Endpoint) (report : Report) : Console :=
  ((console.logAll report.records).counted sink? report.increment).logAll report.closing

theorem shown_entered (console : Console) (sink? : Option Endpoint) (report : Report) :
    (console.entered sink? report).shown = console.shown.entered none report := by
  rw [entered, shown_logAll, shown_counted, shown_logAll]
  rfl

/-- No sink refuses what a report counts, in whatever state the console is. -/
theorem refusal?_report (fit : ∀ fault, sink? ≠ some (.error fault)) (console : Console)
    (flattener : Flattener) (value : Value) :
    console.refusal? sink? (flattener.report value).increment = none := by
  obtain ⟨spec, known, label, counts⟩ := report_increment flattener value
  have accepted : console.Accepts (.increment sink? (countOnce spec.name spec.label label)) :=
    (accepts_increment_iff known).mpr fit
  obtain ⟨after, done⟩ := accepted
  rw [counts]
  exact (performs_increment_iff.mp done).1

/-- Once its entries are made, a report has its line to write and its outcome to give. -/
theorem answer_deliver_report (fit : ∀ fault, sink? ≠ some (.error fault)) (console : Console)
    (writer? : Option Endpoint) (flattener : Flattener) (value : Value) :
    console.answer (deliver writer? sink? (flattener.report value)) =
      match (flattener.report value).line? with
      | none => ((flattener.report value).outcome, console.entered sink? (flattener.report value))
      | some line => (console.entered sink? (flattener.report value)).answer (do
          (Effect.line writer? line).perform
          MonadExcept.ofExcept (flattener.report value).outcome) := by
  refine answer_deliver_of_entries ?_
  have counts := performs_increment_iff.mpr
    ⟨refusal?_report fit (console.logAll (flattener.report value).records) flattener value, rfl⟩
  exact ((does_records_iff.mpr rfl).append (.next counts .nothing)).append
    (does_records_iff.mpr rfl)

/-- Delivering a report shows what it shows without a sink. -/
theorem seen_answer_deliver (fit : ∀ fault, sink? ≠ some (.error fault)) (console : Console)
    (writer? : Option Endpoint) (flattener : Flattener) (value : Value) :
    seen (console.answer (deliver writer? sink? (flattener.report value))) =
      console.shown.answer (deliver writer? none (flattener.report value)) := by
  have noSink : ∀ fault, (none : Option Endpoint) ≠ some (.error fault) := nofun
  rw [answer_deliver_report fit, answer_deliver_report noSink, ← shown_entered]
  cases (flattener.report value).line? with
  | none => rfl
  | some line =>
    exact seen_answer_bind_ofExcept (seen_answer_line _ writer? line) _

/-! ## What counts -/

/-- Consoles with the same sinks and registries. -/
structure CountsAlike (console other : Console) : Prop where
  sinks : other.sinks = console.sinks
  registries : other.registries = console.registries

theorem CountsAlike.trans {last : Console} (first : console.CountsAlike other)
    (second : other.CountsAlike last) : console.CountsAlike last :=
  ⟨second.sinks.trans first.sinks, second.registries.trans first.registries⟩

theorem countsAlike_log (console : Console) (record : LogRecord) :
    console.CountsAlike (console.log record) := by
  unfold log
  split <;> exact ⟨rfl, rfl⟩

theorem countsAlike_logAll (console : Console) (records : List LogRecord) :
    console.CountsAlike (console.logAll records) := by
  induction records generalizing console with
  | nil => exact ⟨rfl, rfl⟩
  | cons record rest ih => exact (countsAlike_log console record).trans (ih (console.log record))

theorem countsAlike_written (console : Console) (number : Nat) (writer : Writer) (line : String) :
    console.CountsAlike (console.written number writer line) := by
  cases writer with
  | standard => exact ⟨rfl, rfl⟩
  | stream lines => exact ⟨rfl, rfl⟩
  | logging logger level =>
    rw [written]
    split
    next => exact countsAlike_log _ _
    next => exact ⟨rfl, rfl⟩

theorem countsAlike_answer_line (console : Console) (writer? : Option Endpoint) (line : String) :
    console.CountsAlike (console.answer (Effect.line writer? line).perform).2 := by
  by_cases routed : ∃ number writer, console.Routes writer? number writer
  · obtain ⟨number, writer, routes⟩ := routed
    rw [routes.answer_line line]
    exact countsAlike_written console number writer line
  · simp only [not_exists] at routed
    obtain ⟨fault, refused⟩ := answer_line_of_not_routes routed line
    rw [refused]
    exact ⟨rfl, rfl⟩

theorem CountsAlike.counted (same : console.CountsAlike other) (sink? : Option Endpoint)
    (request : Increment) :
    (console.counted sink? request).CountsAlike (other.counted sink? request) := by
  unfold Console.counted
  rw [same.sinks, same.registries]
  split
  · split
    · exact ⟨rfl, rfl⟩
    · exact ⟨rfl, rfl⟩
    · exact same
  · exact same

/-- A report counts its increment and nothing else, whatever becomes of its line. -/
theorem countsAlike_answer_deliver (fit : ∀ fault, sink? ≠ some (.error fault)) (console : Console)
    (writer? : Option Endpoint) (flattener : Flattener) (value : Value) :
    (console.counted sink? (flattener.report value).increment).CountsAlike
      (console.answer (deliver writer? sink? (flattener.report value))).2 := by
  have entered : (console.counted sink? (flattener.report value).increment).CountsAlike
      (console.entered sink? (flattener.report value)) :=
    ((countsAlike_logAll console _).counted sink? _).trans (countsAlike_logAll _ _)
  rw [answer_deliver_report fit]
  cases (flattener.report value).line? with
  | none => exact entered
  | some line =>
    simp only
    rw [snd_answer_bind_ofExcept]
    exact entered.trans (countsAlike_answer_line _ writer? line)

end Console

/-! ## Runs -/

namespace Call

/-- The call on the same filter with something else in the place of its sink. -/
def onSink (sink? : Option Endpoint) (call : Call) : Call :=
  { call with config := { call.config with sink? } }

/-- Something that counts can be used in the place of the sink, or there is none. -/
def HasSink (call : Call) : Prop := ∀ fault, call.config.sink? ≠ some (.error fault)

end Call

namespace Console

variable {console : Console} {calls : List Call}

/-- A run shows what it shows without any sinks. -/
theorem seen_answerAll (fit : ∀ call ∈ calls, call.HasSink) :
    seen (console.answerAll calls) = console.shown.answerAll (calls.map (Call.onSink none)) := by
  induction calls generalizing console with
  | nil => rfl
  | cons call rest ih =>
    obtain ⟨here, later⟩ := List.forall_mem_cons.mp fit
    have first : seen (console.answer (Filter.FlattenConfig.transform call.config call.value)) =
        console.shown.answer
          (Filter.FlattenConfig.transform (call.onSink none).config (call.onSink none).value) :=
      seen_answer_deliver here console call.config.writer? call.config.flattener call.value
    rw [List.map_cons, answerAll, answerAll, ← first]
    cases console.answer (Filter.FlattenConfig.transform call.config call.value) with
    | mk result between =>
      have others : seen (between.answerAll rest) = _ := ih later
      simp only [seen] at others ⊢
      rw [← others]

end Console
end BrokerMaps
