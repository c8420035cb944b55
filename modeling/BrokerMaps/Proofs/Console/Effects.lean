import BrokerMaps.Console.Chain
import BrokerMaps.Proofs.Outcome

/-!
# Effects of operations on a console

An operation answers with a result or a fault and leaves a console behind. What it does on the way
is a list of effects, each of which is one record for the log, one increment for a sink, or one line
for a writer. `Does` relates the consoles before and after effects that are performed one after the
other and without a fault.

## Main result

`answer_deliver`: when the effects of a report can be performed, delivering it performs just these
and answers with the outcome of the report. `answer_deliver_of_entries` says the same of all that
comes before the line of a report, and leaves the line open.
-/
namespace BrokerMaps

/-- One thing that an operation does to the world around it. -/
inductive Effect where
  | record (logged : LogRecord)
  | increment (sink? : Option Endpoint) (request : Increment)
  | line (writer? : Option Endpoint) (text : String)

namespace Console

/-- The result or fault of an operation, and the console it leaves behind. -/
def answer {α : Type} (console : Console) (operation : ConsoleM α) : Except Fault α × Console :=
  operation.run.run console

variable {α β : Type} {console between after : Console}

@[simp] theorem answer_pure (a : α) : console.answer (pure a) = (.ok a, console) := rfl

@[simp] theorem answer_throw (fault : Fault) :
    console.answer (throw fault : ConsoleM α) = (.error fault, console) := rfl

@[simp] theorem answer_get : console.answer get = (.ok console, console) := rfl

@[simp] theorem answer_set (next : Console) : console.answer (set next) = (.ok (), next) := rfl

@[simp] theorem answer_modify (change : Console → Console) :
    console.answer (modify change) = (.ok (), change console) := rfl

@[simp] theorem answer_ofExcept (outcome : Except Fault α) :
    console.answer (MonadExcept.ofExcept outcome) = (outcome, console) := by
  cases outcome <;> rfl

theorem answer_bind_of_ok {operation : ConsoleM α} {next : α → ConsoleM β} {a : α}
    (succeeds : console.answer operation = (.ok a, between)) :
    console.answer (operation >>= next) = between.answer (next a) :=
  Outcome.run_bind_of_ok succeeds

theorem answer_bind_of_error {operation : ConsoleM α} {next : α → ConsoleM β} {fault : Fault}
    (fails : console.answer operation = (.error fault, between)) :
    console.answer (operation >>= next) = (.error fault, between) :=
  Outcome.run_bind_of_error fails

/-- An outcome that is given at the end leaves the console as it is. -/
theorem snd_answer_bind_ofExcept (console : Console) (operation : ConsoleM Unit)
    (outcome : Except Fault α) :
    (console.answer (do operation; MonadExcept.ofExcept outcome)).2
      = (console.answer operation).2 := by
  cases run : console.answer operation with
  | mk result between =>
    cases result with
    | ok a => rw [answer_bind_of_ok run, answer_ofExcept]
    | error fault => rw [answer_bind_of_error run]

end Console

/-! ## Performing effects -/

def Effect.perform : Effect → ConsoleM Unit
  | .record logged => modify (·.log logged)
  | .increment sink? request => Console.count sink? request
  | .line writer? text => do Console.writeLine ((← get).route writer?) (.text text)

namespace Console

/-- An effect is performed without a fault. -/
def Performs (console : Console) (effect : Effect) (after : Console) : Prop :=
  console.answer effect.perform = (.ok (), after)

/-- Effects are performed one after the other, each without a fault. -/
inductive Does : Console → List Effect → Console → Prop
  | nothing {console : Console} : Does console [] console
  | next {console between after : Console} {effect : Effect} {rest : List Effect}
      (here : console.Performs effect between) (later : Does between rest after) :
      Does console (effect :: rest) after

variable {console between after : Console}

theorem Does.append {first second : List Effect} (here : console.Does first between)
    (later : between.Does second after) : console.Does (first ++ second) after := by
  induction here with
  | nothing => exact later
  | next step _ ih => exact .next step (ih later)

theorem does_append_iff {first second : List Effect} :
    console.Does (first ++ second) after ↔
      ∃ between, console.Does first between ∧ between.Does second after := by
  constructor
  · intro done
    induction first generalizing console with
    | nil => exact ⟨console, .nothing, done⟩
    | cons effect rest ih =>
      cases done with
      | next step others =>
        obtain ⟨between, here, later⟩ := ih others
        exact ⟨between, .next step here, later⟩
  · rintro ⟨between, here, later⟩
    exact here.append later

/-- A log takes every record, whether it keeps it or not. -/
theorem does_records_iff {records : List LogRecord} :
    console.Does (records.map .record) after ↔ after = console.logAll records := by
  induction records generalizing console with
  | nil =>
    constructor
    · intro done
      cases done
      rfl
    · rintro rfl
      exact .nothing
  | cons record rest ih =>
    constructor
    · intro done
      cases done with
      | next step later =>
        cases step
        exact ih.mp later
    · intro logged
      exact .next rfl (ih.mpr logged)

end Console

/-! ## Reports -/

/-- What delivering a report does before its line: its records, its increment, and the closing
records. -/
def Report.entries (sink? : Option Endpoint) (report : Report) : List Effect :=
  report.records.map .record ++ [.increment sink? report.increment] ++ report.closing.map .record

/-- What delivering a report does. -/
def Report.effects (writer? sink? : Option Endpoint) (report : Report) : List Effect :=
  report.entries sink? ++ (report.line?.map (.line writer?)).toList

namespace Console

variable {console between after : Console} {writer? sink? : Option Endpoint} {report : Report}

/-- Once the entries of a report are made, there is its line to write and its outcome to give. -/
theorem answer_deliver_of_entries (done : console.Does (report.entries sink?) between) :
    console.answer (deliver writer? sink? report) =
      match report.line? with
      | none => (report.outcome, between)
      | some line => between.answer (do
          (Effect.line writer? line).perform
          MonadExcept.ofExcept report.outcome) := by
  obtain ⟨counted, first, closing⟩ := does_append_iff.mp done
  obtain ⟨logged, records, increment⟩ := does_append_iff.mp first
  rw [does_records_iff] at records closing
  subst records closing
  cases increment with
  | next step rest =>
    cases rest
    have counts : (console.logAll report.records).answer (count sink? report.increment)
        = (.ok (), counted) := step
    rw [deliver, answer_bind_of_ok (answer_modify _), answer_bind_of_ok counts,
      answer_bind_of_ok (answer_modify _)]
    cases report.line? <;> cases report.outcome <;> rfl

/-- Delivering a report performs its effects and answers with its outcome. -/
theorem answer_deliver (done : console.Does (report.effects writer? sink?) after) :
    console.answer (deliver writer? sink? report) = (report.outcome, after) := by
  obtain ⟨between, entries, line⟩ := does_append_iff.mp done
  rw [answer_deliver_of_entries entries]
  cases written : report.line? with
  | none =>
    rw [written] at line
    cases line
    rfl
  | some text =>
    rw [written] at line
    cases line with
    | next shows rest =>
      cases rest
      exact (answer_bind_of_ok shows).trans (answer_ofExcept report.outcome)

end Console
end BrokerMaps
