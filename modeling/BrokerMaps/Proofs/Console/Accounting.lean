import BrokerMaps.Proofs.Console.Service

/-!
# What a run of transforms accounts for

Objects are given to flattening filters one after the other, and a failed transform does not end the
run. The filters may differ in everything but one sink, which records what is counted.

## Main result

`answerAll_accounts`: every call makes one increment of one, at the counter that belongs to what
comes of flattening the object, so the three counters together count the calls. Where the writers
take lines, an object that has no shape is reported with one warning and one line, and no other
object is.

The first calls of a run are a run, so all of this holds at every point of it.
-/
namespace BrokerMaps

/-! ## Calls -/

/-- An object given to a flattening filter. -/
structure Call where
  config : FlattenConfig
  value : Value

namespace Call

def report (call : Call) : Report := call.config.flattener.report call.value

/-- What comes of flattening the object. -/
def outcome (call : Call) : Except Fault (Option PropertyMap) := call.report.outcome

/-- The increment that is due for a result. -/
def increment (call : Call) : Except Fault (Option PropertyMap) → Increment
  | .ok (some _) => countOnce transformedTotal "kind" call.value.className
  | .ok none => countOnce unsupportedTotal "type" call.value.classOf.qualified
  | .error _ => countOnce failedTotal "kind" call.value.className

def warning (call : Call) : LogRecord :=
  ⟨flattenLogger, .number warningLevel,
    "No map transform registered for type " ++ call.value.classOf.qualified⟩

def line (call : Call) : String :=
  "Unable to transform mbean of type: " ++ call.value.classOf.qualified
    ++ ". No corresponding transformToMap method found."

def success (call : Call) (map : PropertyMap) : LogRecord :=
  ⟨flattenLogger, .number debugLevel,
    "Transformed " ++ call.value.className ++ " into " ++ toString map.length ++ " properties"⟩

/-- Only a bytes message logs anything while it is read. -/
def readingRecords (call : Call) : List LogRecord :=
  if Shape.of? call.value = some (.message .bytes) then
    splitRecords call.config.flattener.settings call.value
  else []

/-- The effects that are due for a result. -/
def effects (call : Call) (result : Except Fault (Option PropertyMap)) : List Effect :=
  let counts := Effect.increment call.config.sink? (call.increment result)
  match result with
  | .ok (some map) => call.readingRecords.map .record ++ [counts, .record (call.success map)]
  | .ok none => [.record call.warning, counts, .line call.config.writer? call.line]
  | .error _ => [counts]

theorem report_increment_eq (call : Call) :
    call.report.increment = call.increment call.outcome := by
  rw [outcome, report]
  obtain ⟨-, same⟩ | ⟨_, _, -, -, same⟩ | ⟨_, _, -, -, same⟩ :=
    call.config.flattener.report_cases call.value <;>
  · rw [same]
    rfl

theorem report_effects_eq (call : Call) :
    call.report.effects call.config.writer? call.config.sink? = call.effects call.outcome := by
  rw [outcome, report]
  obtain ⟨-, same⟩ | ⟨shape, flattened, known, flattens, same⟩ | ⟨_, _, -, -, same⟩ :=
    call.config.flattener.report_cases call.value
  · rw [same]
    rfl
  · have records : flattened.records = call.readingRecords := by
      obtain ⟨contributions, -, flat⟩ := Outcome.bind_eq_ok_iff.mp flattens
      cases flat
      simp only [readingRecords, known, Option.some.injEq]
    rw [same]
    simp [Report.effects, Report.entries, transformedReport, effects, increment, success, records]
  · rw [same]
    rfl

end Call

/-! ## What a sink recorded -/

/-- The sum of what was counted under a name. -/
def totalOf (name : String) : List Increment → Nat
  | [] => 0
  | request :: rest =>
    (if request.name = name then (request.amount.integral?.getD 0).toNat else 0) + totalOf name rest

theorem totalOf_cons (name : String) (request : Increment) (rest : List Increment) :
    totalOf name (request :: rest) = totalOf name [request] + totalOf name rest := by
  simp only [totalOf, Nat.add_zero]

/-- The increments that are due for a run. -/
def dueIncrements (calls : List Call) : List Increment :=
  calls.map fun call => call.increment call.outcome

theorem dueIncrements_cons (call : Call) (rest : List Call) :
    dueIncrements (call :: rest) = call.increment call.outcome :: dueIncrements rest := rfl

/-- The effects that are due for a run. -/
def dueEffects (calls : List Call) : List Effect :=
  calls.flatMap fun call => call.effects call.outcome

theorem dueEffects_cons (call : Call) (rest : List Call) :
    dueEffects (call :: rest) = call.effects call.outcome ++ dueEffects rest := rfl

def Effect.isLine : Effect → Bool
  | .line _ _ => true
  | _ => false

/-- Each call counts at one of the three counters, and by one. -/
theorem totalOf_dueIncrements (calls : List Call) :
    totalOf transformedTotal (dueIncrements calls) + totalOf unsupportedTotal (dueIncrements calls)
      + totalOf failedTotal (dueIncrements calls) = calls.length := by
  induction calls with
  | nil => rfl
  | cons call rest ih =>
    have one : ∀ result,
        totalOf transformedTotal [call.increment result]
          + totalOf unsupportedTotal [call.increment result]
          + totalOf failedTotal [call.increment result] = 1
      | .ok (some _) => rfl
      | .ok none => rfl
      | .error _ => rfl
    have here := one call.outcome
    rw [dueIncrements_cons, totalOf_cons transformedTotal, totalOf_cons unsupportedTotal,
      totalOf_cons failedTotal, List.length_cons]
    omega

/-- There are as many lines as there are objects that were counted as unsupported. -/
theorem countP_isLine_dueEffects (calls : List Call) :
    (dueEffects calls).countP Effect.isLine = totalOf unsupportedTotal (dueIncrements calls) := by
  induction calls with
  | nil => rfl
  | cons call rest ih =>
    have one : ∀ result,
        (call.effects result).countP Effect.isLine
          = totalOf unsupportedTotal [call.increment result]
      | .ok (some map) => by
        -- However many records there are, none of them is a line.
        have noLine : totalOf unsupportedTotal [call.increment (.ok (some map))] = 0 := rfl
        simp [Call.effects, noLine, Effect.isLine, Function.comp_def]
      | .ok none => rfl
      | .error _ => rfl
    rw [dueEffects_cons, List.countP_append, one, ih, dueIncrements_cons, ← totalOf_cons]

/-! ## Runs -/

/-- The results of calls made one after the other, and the console that they leave behind. -/
def Console.answerAll (console : Console) :
    List Call → List (Except Fault (Option PropertyMap)) × Console
  | [] => ([], console)
  | call :: rest =>
    let (result, between) := console.answer (Filter.FlattenConfig.transform call.config call.value)
    let (results, after) := between.answerAll rest
    (result :: results, after)

namespace Console

variable {console after : Console} {sink : Nat} {requests : List Increment}

theorem sinks_counted_recording
    (recording : console.sinks[sink]? = some (.recording requests)) (request : Increment) :
    (console.counted (some (.ok sink)) request).sinks[sink]?
      = some (.recording (requests ++ [request])) := by
  have inRange : sink < console.sinks.length := (List.getElem?_eq_some_iff.mp recording).1
  simp only [counted, recording]
  exact List.getElem?_set_self inRange

theorem logAll_sinks (console : Console) (records : List LogRecord) :
    (console.logAll records).sinks = console.sinks := by
  induction records generalizing console with
  | nil => rfl
  | cons record rest ih => exact (ih (console.log record)).trans (log_sinks console record)

/-- Writing a line leaves the sinks alone, whether it succeeds or not. -/
theorem sinks_answer_line (console : Console) (writer? : Option Endpoint) (line : String) :
    (console.answer (Effect.line writer? line).perform).2.sinks = console.sinks := by
  by_cases routed : ∃ number writer, console.Routes writer? number writer
  · obtain ⟨number, writer, routes⟩ := routed
    rw [routes.answer_line line]
    exact written_sinks console number writer line
  · simp only [not_exists] at routed
    obtain ⟨fault, refused⟩ := answer_line_of_not_routes routed line
    rw [refused]

/-- Whatever becomes of its line, a report leaves its increment with a sink that records. -/
theorem sinks_answer_deliver (recording : console.sinks[sink]? = some (.recording requests))
    (writer? : Option Endpoint) (report : Report) :
    (console.answer (deliver writer? (some (.ok sink)) report)).2.sinks[sink]?
      = some (.recording (requests ++ [report.increment])) := by
  have still : (console.logAll report.records).sinks[sink]? = some (.recording requests) := by
    rw [logAll_sinks, recording]
  have counts : (console.logAll report.records).Performs
      (.increment (some (.ok sink)) report.increment) _ :=
    performs_increment_iff.mpr ⟨by simp only [refusal?, still], rfl⟩
  have entries : console.Does (report.entries (some (.ok sink))) _ :=
    ((does_records_iff.mpr rfl).append (.next counts .nothing)).append (does_records_iff.mpr rfl)
  -- What comes after the increment, the line included, leaves the sinks alone.
  have recorded := sinks_counted_recording still report.increment
  rw [answer_deliver_of_entries entries]
  cases report.line? with
  | none => rw [logAll_sinks, recorded]
  | some line =>
    simp only
    rw [snd_answer_bind_ofExcept, sinks_answer_line, logAll_sinks, recorded]

/-- Whatever the writers do, each call leaves the increment that is due with the shared sink. -/
theorem sinks_answerAll {calls : List Call}
    (shared : ∀ call ∈ calls, call.config.sink? = some (.ok sink))
    (recording : console.sinks[sink]? = some (.recording requests)) :
    (console.answerAll calls).2.sinks[sink]?
      = some (.recording (requests ++ dueIncrements calls)) := by
  induction calls generalizing console requests with
  | nil => rw [dueIncrements, List.map_nil, List.append_nil]; exact recording
  | cons call rest ih =>
    obtain ⟨here, later⟩ := List.forall_mem_cons.mp shared
    have counted := sinks_answer_deliver recording call.config.writer? call.report
    rw [← here, call.report_increment_eq] at counted
    have others := ih later counted
    rw [List.append_assoc] at others
    exact others

/-- On a console that serves the filters, each call gives what comes of flattening its object and
has the effects that are due for that. -/
theorem answerAll_of_serves {calls : List Call}
    (serves : ∀ call ∈ calls, console.Serves call.config) :
    ∃ after, console.answerAll calls = (calls.map Call.outcome, after)
      ∧ console.Does (dueEffects calls) after := by
  induction calls generalizing console with
  | nil => exact ⟨console, rfl, .nothing⟩
  | cons call rest ih =>
    obtain ⟨here, later⟩ := List.forall_mem_cons.mp serves
    obtain ⟨between, done, answered⟩ := here.answer_transform call.value
    -- The filters of the later calls are still served after the effects of this one.
    obtain ⟨after, others, doneLater⟩ := ih fun other member => (later other member).of_does done
    have due : console.Does (call.effects call.outcome) between :=
      call.report_effects_eq ▸ done
    refine ⟨after, ?_, due.append doneLater⟩
    simp only [answerAll, answered, others]
    rfl

/-- In a run of calls on filters that share one sink which records, each call makes one increment of
one, at the counter for what comes of flattening its object, and so the totals of the three counters
add up to the number of calls. Where the writers take lines, that is also the result of the call,
and the call does what is due for its result, so there are as many lines as were counted as
unsupported. -/
theorem answerAll_accounts {calls : List Call}
    (shared : ∀ call ∈ calls, call.config.sink? = some (.ok sink))
    (recording : console.sinks[sink]? = some (.recording requests)) :
    ∃ results after, console.answerAll calls = (results, after)
      ∧ after.sinks[sink]? = some (.recording (requests ++ dueIncrements calls))
      ∧ totalOf transformedTotal (dueIncrements calls)
        + totalOf unsupportedTotal (dueIncrements calls)
        + totalOf failedTotal (dueIncrements calls) = calls.length
      ∧ ((∀ call ∈ calls, ∀ line, console.Accepts (.line call.config.writer? line)) →
          results = calls.map Call.outcome
            ∧ console.Does (dueEffects calls) after
            ∧ (dueEffects calls).countP Effect.isLine
              = totalOf unsupportedTotal (dueIncrements calls)) := by
  refine ⟨_, _, rfl, sinks_answerAll shared recording, totalOf_dueIncrements calls, fun lines => ?_⟩
  -- The shared sink takes every count, so it is only the lines that could have failed.
  have serves : ∀ call ∈ calls, console.Serves call.config := by
    intro call member
    refine ⟨fun spec known value => ?_, lines call member⟩
    rw [shared call member]
    exact (accepts_increment_iff known).mpr nofun
  obtain ⟨after, answered, done⟩ := answerAll_of_serves serves
  rw [answered]
  exact ⟨rfl, done, countP_isLine_dueEffects calls⟩

/-- A number, which cannot be flattened, and a bean name, which can. -/
theorem answerAll_accounts_mixed :
    let config : FlattenConfig := ⟨Settings.default.flattener, none, some (.ok 0)⟩
    let console : Console := { fresh 10 with sinks := [.recording []] }
    let name : Value := .beanName ⟨none, none⟩ ⟨.text "broker", [("type", .text "Queue")]⟩
    let calls : List Call := [⟨config, .int 42⟩, ⟨config, name⟩]
    ∃ after,
      console.answerAll calls =
          ([.ok none, .ok (some [(.text "type", .text "Queue")])], after)
        ∧ after.sinks[0]? =
          some (.recording
            [countOnce unsupportedTotal "type" "builtins.int",
              countOnce transformedTotal "kind" "ObjectName"])
        ∧ console.Does (dueEffects calls) after := by
  intro config console name calls
  have shared : ∀ call ∈ calls, call.config.sink? = some (.ok 0) := by simp [calls, config]
  have recording : console.sinks[0]? = some (.recording []) := rfl
  obtain ⟨results, after, answered, recorded, -, served⟩ := answerAll_accounts shared recording
  have lines : ∀ call ∈ calls, ∀ line, console.Accepts (.line call.config.writer? line) := by
    intro call member line
    have installed : call.config.writer? = none := by
      simp only [calls, List.mem_cons, List.not_mem_nil, or_false] at member
      rcases member with rfl | rfl <;> rfl
    rw [installed]
    exact ⟨_, performs_line_iff.mpr ⟨0, .standard, ⟨rfl, rfl, trivial⟩, rfl⟩⟩
  obtain ⟨rfl, done, -⟩ := served lines
  exact ⟨after, answered, recorded, done⟩

end Console
end BrokerMaps
