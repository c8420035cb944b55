import BrokerMaps.Metrics.Registry

/-!
# Console

Where diagnostic lines, log records and counts end up. A console has writers, of which one is
installed as the one to use where no other is named; a log that drops records below its threshold;
and sinks for increments. A line goes to exactly one writer. A stream writer adds one newline, a
logging writer passes the text on as a record of its own logger and level.

Anything can be put in the place of a writer or a sink. What is unfit for it fails when it is used
and not before, so a line or a count is sent to an endpoint: a writer or a sink by its number, or
else a fault.

Every operation answers with a result or a fault and with the console afterwards, so what was
written before a fault stays written.
-/
namespace BrokerMaps

inductive Writer where
  /-- Writes to the standard output. -/
  | standard
  /-- Writes to a stream of its own. -/
  | stream (lines : List String)
  /-- Passes lines on to a logger at a level, which may be any value. -/
  | logging (logger : String) (level : Value)

inductive Sink where
  | silent
  | recording (requests : List Increment)
  /-- Counters of a namespace in the registry with this number. -/
  | counters (registry : Nat) (nameSpace : String)

def Writer.classOf : Writer → ClassName
  | .standard | .stream _ =>
    ⟨"brokerconsole.console.writer", "StreamOutputWriter", "StreamOutputWriter"⟩
  | .logging _ _ =>
    ⟨"brokerconsole.console.writer", "LoggingOutputWriter", "LoggingOutputWriter"⟩

def Sink.classOf : Sink → ClassName
  | .silent => ⟨"brokerconsole.filters.metrics", "NoOpTransformMetrics", "NoOpTransformMetrics"⟩
  | .recording _ => ⟨"app.model", "RecordingTransformMetrics", "RecordingTransformMetrics"⟩
  | .counters _ _ =>
    ⟨"brokerconsole.filters.metrics", "PrometheusTransformMetrics", "PrometheusTransformMetrics"⟩

/-- A writer or a sink by its number, or the fault that whoever uses it meets instead. -/
abbrev Endpoint := Except Fault Nat

structure Console where
  threshold : Int
  records : List LogRecord
  standardLines : List String
  writers : List Writer
  installed : Endpoint
  sinks : List Sink
  registries : List Registry

abbrev ConsoleM (α : Type) := ExceptT Fault (StateM Console) α

namespace Console

/-- The level that a log uses when none is set for it. -/
def unsetThreshold : Int := 30

/-- A console with the standard output installed and a log that drops what is below a level. -/
def fresh (level : Int) : Console where
  threshold := if level = 0 then unsetThreshold else level
  records := []
  standardLines := []
  writers := [.standard]
  installed := .ok 0
  sinks := []
  registries := []

/-- Lines as a stream shows them, each followed by one newline. -/
def streamText (lines : List String) : String := String.join (lines.map (· ++ "\n"))

/-- Whether the log keeps a record of a level. -/
def keeps (console : Console) (level : Level) : Bool :=
  0 < level.toInt && console.threshold ≤ level.toInt

def log (console : Console) (record : LogRecord) : Console :=
  if console.keeps record.level then { console with records := console.records ++ [record] }
  else console

def logAll (console : Console) (records : List LogRecord) : Console :=
  records.foldl log console

/-! ## Writers -/

def addWriter (console : Console) (writer : Writer) : Nat × Console :=
  (console.writers.length, { console with writers := console.writers ++ [writer] })

def install (console : Console) (writer : Endpoint) : Console :=
  { console with installed := writer }

/-- Writes one line through a writer. A logging writer writes the text out only when its level is
kept. -/
def writeLine (endpoint : Endpoint) (text : Value) : ConsoleM Unit := do
  let writer ← MonadExcept.ofExcept endpoint
  let console ← get
  match console.writers[writer]? with
  | none => throw (.unknownVariable "")
  | some .standard =>
    let line ← MonadExcept.ofExcept text.formatted
    set { console with standardLines := console.standardLines ++ [line] }
  | some (.stream lines) =>
    let line ← MonadExcept.ofExcept text.formatted
    set { console with writers := console.writers.set writer (.stream (lines ++ [line])) }
  | some (.logging logger level) =>
    match Level.ofValue? level with
    | none => throw (.shape .levelNotInteger)
    | some level =>
      if console.keeps level then
        let line ← MonadExcept.ofExcept text.plain
        set (console.log ⟨logger, level, line⟩)

/-- The writer that a line goes to: the one named, or else the one installed now. -/
def route (console : Console) (writer? : Option Endpoint) : Endpoint :=
  writer?.getD console.installed

/-! ## Sinks -/

def addSink (console : Console) (sink : Sink) : Nat × Console :=
  (console.sinks.length, { console with sinks := console.sinks ++ [sink] })

/-- Passes one increment on to a sink; without a sink nothing is counted. -/
def count (sink? : Option Endpoint) (request : Increment) : ConsoleM Unit := do
  match sink? with
  | none => pure ()
  | some endpoint =>
    let sink ← MonadExcept.ofExcept endpoint
    let console ← get
    match console.sinks[sink]? with
    | none | some .silent => pure ()
    | some (.recording requests) =>
      set { console with sinks := console.sinks.set sink (.recording (requests ++ [request])) }
    | some (.counters number nameSpace) =>
      let registry := console.registries[number]?.getD []
      let (changed, fault?) := Registry.increment registry nameSpace request
      set { console with registries := console.registries.set number changed }
      match fault? with
      | some fault => throw fault
      | none => pure ()

/-- Counters under a namespace in a registry of their own, or in the one with the number given.
What was registered before a failure stays. -/
def addCounters (nameSpace : String) (shared? : Option Nat) : ConsoleM Nat := do
  let console ← get
  let number := shared?.getD console.registries.length
  let registries := if shared?.isSome then console.registries else console.registries ++ [[]]
  let (changed, fault?) := Registry.registerCounters (registries[number]?.getD []) nameSpace
  let console := { console with registries := registries.set number changed }
  match fault? with
  | some fault =>
    set console
    throw fault
  | none =>
    let (sink, console) := console.addSink (.counters number nameSpace)
    set console
    pure sink

/-! ## Reports -/

/-- Delivers a report: its records to the log, its increment to the sink, the closing records, its
line to one writer, and then its outcome. -/
def deliver (writer? sink? : Option Endpoint) (report : Report) :
    ConsoleM (Option PropertyMap) := do
  modify (·.logAll report.records)
  count sink? report.increment
  modify (·.logAll report.closing)
  match report.line? with
  | some line => writeLine ((← get).route writer?) (.text line)
  | none => pure ()
  match report.outcome with
  | .ok result => pure result
  | .error fault => throw fault

end Console
end BrokerMaps
