import BrokerMaps.Proofs.Console.Batches
import BrokerMaps.Proofs.Console.Transparency

/-!
# Lines and the writers they come to

A line is delivered to the writer that is named, or else to the one that is installed at the time.
What a console then holds is told by the deliveries alone: a stream has the lines that were
delivered to it, the standard output those that were delivered to any writer of its own, and the log
has one record for each line that was delivered to a logging writer, between the records that were
logged directly.

## Main results

* `Console.HasTaken.does`: effects add to what a console has taken what they deliver and log.
* `deliveries_dueEffects`: flattening objects delivers one line for each that has no shape.
* `Console.Batch.exists_does`: of a list, these are the objects before the first that fails.

## Proof strategy

Effects are addressed first, so that each line names the number of its writer. Who is installed
makes no difference any more, and each effect changes one place.
-/
namespace BrokerMaps

/-! ## Deliveries -/

/-- A line on its way to the writer with a number. -/
structure Delivery where
  writer : Nat
  line : String
  deriving DecidableEq, Repr

/-- The lines that are delivered to the writer with a number. -/
def linesTo (number : Nat) (deliveries : List Delivery) : List String :=
  (deliveries.filter fun delivery => delivery.writer = number).map (·.line)

namespace Writer

/-- A writer after lines were delivered to it. Only a stream keeps them itself. -/
def withLines (lines : List String) : Writer → Writer
  | .stream before => .stream (before ++ lines)
  | writer => writer

/-- The line that comes to the standard output when a writer writes it. -/
def standardLine? (line : String) : Writer → Option String
  | .standard => some line
  | _ => none

/-- The record that a writer passes a line on as. -/
def record? (line : String) : Writer → Option LogRecord
  | .logging logger level => (Level.ofValue? level).map (⟨logger, ·, line⟩)
  | _ => none

theorem withLines_nil (writer : Writer) : writer.withLines [] = writer := by
  cases writer with
  | stream before => rw [withLines, List.append_nil]
  | standard => rfl
  | logging logger level => rfl

theorem withLines_withLines (first second : List String) (writer : Writer) :
    (writer.withLines first).withLines second = writer.withLines (first ++ second) := by
  cases writer with
  | stream before => simp only [withLines, List.append_assoc]
  | standard => rfl
  | logging logger level => rfl

theorem takesLines_withLines {writer : Writer} (lines : List String) :
    (writer.withLines lines).TakesLines ↔ writer.TakesLines := by
  cases writer <;> exact Iff.rfl

@[simp] theorem standardLine?_withLines (lines : List String) (line : String) (writer : Writer) :
    (writer.withLines lines).standardLine? line = writer.standardLine? line := by
  cases writer <;> rfl

@[simp] theorem record?_withLines (lines : List String) (line : String) (writer : Writer) :
    (writer.withLines lines).record? line = writer.record? line := by
  cases writer <;> rfl

end Writer

namespace Effect

/-- An effect with a line for no writer in particular addressed to the one that is installed. -/
def addressed (installed : Nat) : Effect → Effect
  | .line none text => .line (some (.ok installed)) text
  | effect => effect

/-- The delivery of a line that is addressed. -/
def delivery? : Effect → Option Delivery
  | .line (some (.ok number)) text => some ⟨number, text⟩
  | _ => none

/-- What an effect passes on to the log, where writers were built as given. -/
def records (built : List Writer) : Effect → List LogRecord
  | .record logged => [logged]
  | .line (some (.ok number)) text => (built[number]?.bind (Writer.record? text)).toList
  | _ => []

end Effect

def deliveries (effects : List Effect) : List Delivery := effects.filterMap Effect.delivery?

theorem deliveries_append (first second : List Effect) :
    deliveries (first ++ second) = deliveries first ++ deliveries second := List.filterMap_append

theorem linesTo_append (number : Nat) (first second : List Delivery) :
    linesTo number (first ++ second) = linesTo number first ++ linesTo number second := by
  rw [linesTo, List.filter_append, List.map_append]
  rfl

namespace Console

variable {console after : Console} {kept : Level → Bool} {built : List Writer} {effect : Effect}
  {effects : List Effect} {installed number : Nat} {writer : Writer} {record : LogRecord}

/-! ## Addressing -/

theorem performs_addressed_iff (installs : console.installed = .ok installed) :
    console.Performs (effect.addressed installed) after ↔ console.Performs effect after := by
  cases effect with
  | record logged => exact Iff.rfl
  | increment sink? request => exact Iff.rfl
  | line writer? text =>
    cases writer? with
    | some endpoint => exact Iff.rfl
    | none =>
      have route : console.route none = console.route (some (.ok installed)) := installs
      rw [Effect.addressed, Performs, Performs, answer_line, answer_line, route]

/-- Which writer is installed does not change on the way, so all effects can be addressed at
once. -/
theorem Does.addressed (done : console.Does effects after)
    (installs : console.installed = .ok installed) :
    console.Does (effects.map (.addressed installed)) after := by
  induction done with
  | nothing => exact .nothing
  | next here _ ih =>
    exact .next ((performs_addressed_iff installs).mpr here)
      (ih (here.keepsWriters.installed.trans installs))

/-! ## What a console has taken -/

/-- What a console holds after effects that began with nothing written and writers as they were
built. Its log keeps records of some levels and drops the others. -/
structure HasTaken (console : Console) (kept : Level → Bool) (built : List Writer)
    (effects : List Effect) : Prop where
  keeps : console.keeps = kept
  writers : ∀ number, console.writers[number]? =
    built[number]?.map (Writer.withLines (linesTo number (deliveries effects)))
  standardLines : console.standardLines =
    (deliveries effects).filterMap fun delivery =>
      built[delivery.writer]?.bind (Writer.standardLine? delivery.line)
  records : console.records =
    (effects.flatMap (Effect.records built)).filter fun record => kept record.level
  inRange : ∀ delivery ∈ deliveries effects, delivery.writer < built.length

theorem log_records (console : Console) (record : LogRecord) :
    (console.log record).records =
      console.records ++ [record].filter fun record => console.keeps record.level := by
  rw [log, List.filter_singleton]
  cases console.keeps record.level
  · exact (List.append_nil _).symm
  · rfl

theorem log_standardLines (console : Console) (record : LogRecord) :
    (console.log record).standardLines = console.standardLines := by
  unfold log
  split <;> rfl

theorem log_keeps (console : Console) (record : LogRecord) :
    (console.log record).keeps = console.keeps := by
  unfold log
  split <;> rfl

/-- Neither the sinks nor the writer that is installed make a difference to what was taken. -/
theorem HasTaken.of_same (taken : console.HasTaken kept built effects)
    (writers : after.writers = console.writers)
    (standardLines : after.standardLines = console.standardLines)
    (keeps : after.keeps = console.keeps) (records : after.records = console.records) :
    after.HasTaken kept built effects :=
  ⟨keeps.trans taken.keeps, fun number => writers ▸ taken.writers number,
    standardLines.trans taken.standardLines, records.trans taken.records, taken.inRange⟩

/-- An effect that delivers nothing only adds its records to the log. -/
theorem HasTaken.of_no_delivery (taken : console.HasTaken kept built effects)
    (none : effect.delivery? = none) (writers : after.writers = console.writers)
    (standardLines : after.standardLines = console.standardLines)
    (keeps : after.keeps = console.keeps)
    (records : after.records = console.records
      ++ (effect.records built).filter fun record => console.keeps record.level) :
    after.HasTaken kept built (effects ++ [effect]) := by
  have same : deliveries (effects ++ [effect]) = deliveries effects := by
    rw [deliveries_append, deliveries, deliveries, List.filterMap_cons_none none,
      List.filterMap_nil, List.append_nil]
  refine ⟨keeps.trans taken.keeps, fun number => ?_, ?_, ?_, ?_⟩
  · rw [writers, same, taken.writers]
  · rw [standardLines, same, taken.standardLines]
  · rw [records, taken.keeps, taken.records, List.flatMap_append, List.flatMap_singleton,
      List.filter_append]
  · rw [same]
    exact taken.inRange

/-! ## Writing a line -/

theorem written_standardLines (console : Console) (number : Nat) (writer : Writer)
    (line : String) : (console.written number writer line).standardLines =
      console.standardLines ++ (writer.standardLine? line).toList := by
  cases writer with
  | standard => rfl
  | stream lines => exact (List.append_nil _).symm
  | logging logger level =>
    have nothing : (Writer.logging logger level).standardLine? line = none := rfl
    rw [nothing, Option.toList_none, List.append_nil, written]
    split
    · exact log_standardLines _ _
    · rfl

theorem written_keeps (console : Console) (number : Nat) (writer : Writer) (line : String) :
    (console.written number writer line).keeps = console.keeps := by
  cases writer with
  | standard => rfl
  | stream lines => rfl
  | logging logger level =>
    rw [written]
    split
    · exact log_keeps _ _
    · rfl

theorem written_records (console : Console) (number : Nat) (writer : Writer) (line : String) :
    (console.written number writer line).records = console.records
      ++ (writer.record? line).toList.filter fun record => console.keeps record.level := by
  cases writer with
  | standard => exact (List.append_nil _).symm
  | stream lines => exact (List.append_nil _).symm
  | logging logger level =>
    rw [written, Writer.record?]
    cases Level.ofValue? level with
    | none => exact (List.append_nil _).symm
    | some known => exact log_records _ _

theorem getElem?_written (found : console.writers[number]? = some writer) (line : String)
    (place : Nat) :
    (console.written number writer line).writers[place]? =
      if number = place then some (writer.withLines [line]) else console.writers[place]? := by
  -- Only a stream keeps its lines; all other writers stay as they are.
  have same : writer.withLines [line] = writer → (console.written number writer line).writers
      = console.writers → (console.written number writer line).writers[place]? =
        if number = place then some (writer.withLines [line]) else console.writers[place]? := by
    intro unchanged writers
    rw [writers, unchanged]
    split
    next here => rw [← here, found]
    next => rfl
  cases writer with
  | standard => exact same rfl rfl
  | logging logger level =>
    refine same rfl ?_
    rw [written]
    split
    · exact log_writers _ _
    · rfl
  | stream lines =>
    have inRange : number < console.writers.length := (List.getElem?_eq_some_iff.mp found).1
    simp only [written, List.getElem?_set, inRange, if_true, Writer.withLines]

/-- A line comes to its writer, and to no other. -/
theorem HasTaken.written (taken : console.HasTaken kept built effects)
    (found : console.writers[number]? = some writer) (line : String) :
    (console.written number writer line).HasTaken kept built
      (effects ++ [.line (some (.ok number)) line]) := by
  have delivers : deliveries (effects ++ [.line (some (.ok number)) line])
      = deliveries effects ++ [⟨number, line⟩] := deliveries_append _ _
  -- The writer that is found is the one that was built, with the lines that it has by now.
  have isThere := (taken.writers number).symm.trans found
  obtain ⟨first, isBuilt, rfl⟩ := Option.map_eq_some_iff.mp isThere
  refine ⟨(written_keeps _ _ _ _).trans taken.keeps, fun place => ?_, ?_, ?_, ?_⟩
  · rw [getElem?_written found, delivers, linesTo_append]
    split
    next here =>
      subst here
      have own : linesTo number [⟨number, line⟩] = [line] := by simp [linesTo]
      rw [isBuilt, Writer.withLines_withLines, own]
      rfl
    next elsewhere =>
      have other : linesTo place [⟨number, line⟩] = [] := by simp [linesTo, elsewhere]
      rw [other, List.append_nil, taken.writers]
  · rw [written_standardLines, delivers, List.filterMap_append, taken.standardLines]
    simp only [Writer.standardLine?_withLines, List.filterMap_cons, List.filterMap_nil, isBuilt,
      Option.bind_some]
    cases first.standardLine? line <;> rfl
  · have logs : Effect.records built (.line (some (.ok number)) line)
        = (first.record? line).toList := by rw [Effect.records, isBuilt]; rfl
    rw [written_records, taken.keeps, taken.records, Writer.record?_withLines,
      List.flatMap_append, List.flatMap_singleton, List.filter_append, logs]
  · rw [delivers]
    refine List.forall_mem_append.mpr ⟨taken.inRange, List.forall_mem_singleton.mpr ?_⟩
    exact (List.getElem?_eq_some_iff.mp isBuilt).1

/-- An effect that is performed adds to what a console has taken what it delivers and logs. -/
theorem HasTaken.performs (taken : console.HasTaken kept built effects)
    (done : console.Performs (effect.addressed installed) after) :
    after.HasTaken kept built (effects ++ [effect.addressed installed]) := by
  cases effect with
  | record logged =>
    obtain rfl := performs_record_iff.mp done
    exact taken.of_no_delivery rfl (log_writers _ _) (log_standardLines _ _) (log_keeps _ _)
      (log_records _ _)
  | increment sink? request =>
    obtain ⟨-, rfl⟩ := performs_increment_iff.mp done
    have same := shown_counted console sink? request
    exact taken.of_no_delivery rfl (congrArg Console.writers same :)
      (congrArg Console.standardLines same :) (congrArg Console.keeps same :)
      ((congrArg Console.records same :).trans (List.append_nil _).symm)
  | line writer? text =>
    -- A line for no writer goes to the installed one, and a line for what is no writer is never
    -- printed.
    have isAddressed : ∃ number, (Effect.line writer? text).addressed installed
        = .line (some (.ok number)) text := by
      match writer? with
      | none => exact ⟨installed, rfl⟩
      | some (.ok number) => exact ⟨number, rfl⟩
      | some (.error fault) =>
        obtain ⟨number, writer, routes, -⟩ := performs_line_iff.mp done
        cases routes.route
    obtain ⟨number, same⟩ := isAddressed
    rw [same] at done ⊢
    obtain ⟨there, writer, routes, rfl⟩ := performs_line_iff.mp done
    cases routes.route
    exact taken.written routes.found text

/-- So does any number of effects. -/
theorem HasTaken.does {more : List Effect} (taken : console.HasTaken kept built effects)
    (done : console.Does (more.map (.addressed installed)) after) :
    after.HasTaken kept built (effects ++ more.map (.addressed installed)) := by
  induction more generalizing console effects with
  | nil =>
    cases done
    rw [List.map_nil, List.append_nil]
    exact taken
  | cons effect rest ih =>
    cases done with
    | next here later =>
      -- The rest is addressed already, so it does not matter to whom lines would go from here on.
      have others := ih (taken.performs here) later
      rw [List.append_assoc] at others
      exact others

/-! ## New writers -/

theorem HasTaken.length_writers (taken : console.HasTaken kept built effects) :
    console.writers.length = built.length := by
  have ends : ∀ number, console.writers.length ≤ number ↔ built.length ≤ number := by
    intro number
    rw [← List.getElem?_eq_none_iff, ← List.getElem?_eq_none_iff, taken.writers,
      Option.map_eq_none_iff]
  exact Nat.le_antisymm ((ends _).mpr (Nat.le_refl _)) ((ends _).mp (Nat.le_refl _))

/-- Nothing was ever delivered to a writer that is not there yet. -/
theorem HasTaken.linesTo_length (taken : console.HasTaken kept built effects) :
    linesTo built.length (deliveries effects) = [] := by
  refine List.map_eq_nil_iff.mpr (List.filter_eq_nil_iff.mpr fun delivery member isThere => ?_)
  exact Nat.ne_of_lt (taken.inRange delivery member) (of_decide_eq_true isThere)

theorem mem_deliveries {text : String} (member : Effect.line (some (.ok number)) text ∈ effects) :
    ⟨number, text⟩ ∈ deliveries effects := List.mem_filterMap.mpr ⟨_, member, rfl⟩

/-- What was delivered before a writer was added has nothing to do with it. -/
theorem HasTaken.records_concat (taken : console.HasTaken kept built effects) (writer : Writer) :
    effects.flatMap (Effect.records (built ++ [writer])) =
      effects.flatMap (Effect.records built) := by
  refine List.flatMap_congr fun effect member => ?_
  unfold Effect.records
  split
  next => rfl
  next number text =>
    rw [List.getElem?_append_left (taken.inRange _ (mem_deliveries member))]
  next => rfl

theorem HasTaken.addWriter (taken : console.HasTaken kept built effects) (writer : Writer) :
    (console.addWriter writer).2.HasTaken kept (built ++ [writer]) effects where
  keeps := taken.keeps
  writers number := by
    have added : (console.addWriter writer).2.writers = console.writers ++ [writer] := rfl
    rw [added]
    -- No line has come to the new writer yet, and there is no writer beyond it.
    rcases Nat.lt_trichotomy number built.length with older | rfl | beyond
    · rw [List.getElem?_append_left older,
        List.getElem?_append_left (taken.length_writers ▸ older), taken.writers]
    · rw [List.getElem?_concat_length, taken.linesTo_length, ← taken.length_writers,
        List.getElem?_concat_length, Option.map_some, Writer.withLines_nil]
    · have nothing : ∀ writers : List Writer, writers.length = built.length →
          (writers ++ [writer])[number]? = none := fun writers length => by
        rw [List.getElem?_eq_none_iff, List.length_append, List.length_singleton, length]
        exact beyond
      rw [nothing _ rfl, nothing _ taken.length_writers, Option.map_none]
  standardLines := by
    refine taken.standardLines.trans (List.filterMap_congr fun delivery member => ?_)
    rw [List.getElem?_append_left (taken.inRange delivery member)]
  records := by
    rw [taken.records_concat]
    exact taken.records
  inRange delivery member := by
    rw [List.length_append]
    exact Nat.lt_add_right _ (taken.inRange delivery member)

end Console

/-! ## Flattening -/

/-- The line about a value that has no shape, for the writer with a number. -/
def complaint? (number : Nat) (value : Value) : Option Delivery :=
  match Shape.of? value with
  | none => some ⟨number, unsupportedLine value.classOf.qualified⟩
  | some _ => none

/-- What is logged directly is logged by the flattening filter. -/
def OwnRecords (effects : List Effect) : Prop :=
  ∀ logged, Effect.record logged ∈ effects → logged.logger = flattenLogger

theorem OwnRecords.append {first second : List Effect} (here : OwnRecords first)
    (later : OwnRecords second) : OwnRecords (first ++ second) :=
  fun logged member => (List.mem_append.mp member).elim (here logged) (later logged)

theorem ownRecords_splitRecords (settings : Settings) (value : Value) :
    ∀ record ∈ splitRecords settings value, record.logger = flattenLogger := by
  unfold splitRecords
  split
  next => exact List.forall_mem_singleton.mpr rfl
  next => exact nofun

theorem OwnRecords.addressed {effects : List Effect} (own : OwnRecords effects) (installed : Nat) :
    OwnRecords (effects.map (.addressed installed)) := by
  intro logged member
  obtain ⟨effect, there, same⟩ := List.mem_map.mp member
  match effect with
  | .record record =>
    obtain rfl : record = logged := Effect.record.inj same
    exact own record there
  | .increment sink? request => cases same
  | .line none text => cases same
  | .line (some endpoint) text => cases same

theorem ownRecords_effects (call : Call) :
    ∀ result, OwnRecords (call.effects result)
  | .ok (some map) => fun logged member => by
    have isOwn : logged ∈ call.readingRecords ∨ logged = call.success map := by
      simpa [Call.effects] using member
    obtain reading | rfl := isOwn
    · unfold Call.readingRecords at reading
      split at reading
      · exact ownRecords_splitRecords _ _ logged reading
      · cases reading
    · rfl
  | .ok none => fun logged member => by
    obtain rfl : logged = call.warning := by simpa [Call.effects] using member
    rfl
  | .error fault => fun logged member => by simp [Call.effects] at member

theorem ownRecords_dueEffects (calls : List Call) : OwnRecords (dueEffects calls) := by
  intro logged member
  obtain ⟨call, -, there⟩ := List.mem_flatMap.mp member
  exact ownRecords_effects call call.outcome logged there

/-- What another logger than that of the flattening filter has logged came through the writers. -/
theorem OwnRecords.filter_records {effects : List Effect} (own : OwnRecords effects)
    (built : List Writer) {accepts : LogRecord → Bool}
    (others : ∀ record, record.logger = flattenLogger → accepts record = false) :
    (effects.flatMap (Effect.records built)).filter accepts =
      ((deliveries effects).filterMap fun delivery =>
        built[delivery.writer]?.bind (Writer.record? delivery.line)).filter accepts := by
  induction effects with
  | nil => rfl
  | cons effect rest ih =>
    have later := ih fun logged member => own logged (.tail _ member)
    have here : (Effect.records built effect).filter accepts =
        ((deliveries [effect]).filterMap fun delivery =>
          built[delivery.writer]?.bind (Writer.record? delivery.line)).filter accepts := by
      -- Only a line that came to a writer leaves a record of another logger.
      match effect with
      | .record logged =>
        rw [Effect.records, List.filter_singleton, others logged (own logged (.head _))]
        rfl
      | .increment sink? request => rfl
      | .line none text => rfl
      | .line (some (.error fault)) text => rfl
      | .line (some (.ok number)) text =>
        have delivers : deliveries [.line (some (.ok number)) text] = [⟨number, text⟩] := rfl
        rw [delivers, List.filterMap_cons, List.filterMap_nil, Effect.records]
        cases built[number]?.bind (Writer.record? text) <;> rfl
    have onward : deliveries (effect :: rest) = deliveries [effect] ++ deliveries rest :=
      deliveries_append [effect] rest
    rw [List.flatMap_cons, List.filter_append, here, later, onward, List.filterMap_append,
      List.filter_append]

section Calls

variable {own? : Option Nat} (installed : Nat)

/-- A call complains of its object if that has no shape, and delivers nothing else. -/
theorem deliveries_effects (call : Call) (writes : call.config.writer? = own?.map .ok) :
    deliveries ((call.effects call.outcome).map (.addressed installed))
      = (complaint? (own?.getD installed) call.value).toList := by
  have recordsOnly : ∀ records : List LogRecord,
      deliveries ((records.map Effect.record).map (.addressed installed)) = [] := fun records => by
    rw [List.map_map]
    exact List.filterMap_eq_nil_iff.mpr fun effect member => by
      obtain ⟨record, -, rfl⟩ := List.mem_map.mp member
      rfl
  rw [Call.outcome, Call.report, complaint?]
  obtain ⟨shapeless, same⟩ | ⟨shape, flattened, known, -, same⟩ | ⟨shape, fault, known, -, same⟩ :=
    call.config.flattener.report_cases call.value
  · rw [same, shapeless]
    simp only [unsupportedReport, Call.effects, writes]
    cases own? <;> rfl
  · rw [same, known]
    simp only [transformedReport, Call.effects, List.map_append, deliveries_append, recordsOnly]
    rfl
  · rw [same, known]
    rfl

/-- Flattening objects one after the other delivers one line for each that has no shape. -/
theorem deliveries_dueEffects {config : FlattenConfig} (writes : config.writer? = own?.map .ok)
    (elements : List Value) :
    deliveries ((dueEffects (Filter.singly config elements)).map (.addressed installed))
      = elements.filterMap (complaint? (own?.getD installed)) := by
  induction elements with
  | nil => rfl
  | cons element rest ih =>
    have first := deliveries_effects installed (Call.mk config element) writes
    rw [Filter.singly, List.map_cons, dueEffects_cons, List.map_append, deliveries_append, first,
      List.filterMap_cons]
    rw [Filter.singly] at ih
    rw [ih]
    cases complaint? (own?.getD installed) element <;> rfl

end Calls

/-- Of an object that fails there is nothing to complain, for it has a shape. -/
theorem complaint?_of_error {call : Call} {fault : Fault} (fails : call.outcome = .error fault)
    (number : Nat) : complaint? number call.value = none := by
  rw [Call.outcome, Call.report] at fails
  obtain ⟨-, same⟩ | ⟨shape, _, known, -, -⟩ | ⟨shape, _, known, -, -⟩ :=
    call.config.flattener.report_cases call.value
  · rw [same] at fails
    cases fails
  · rw [complaint?, known]
  · rw [complaint?, known]

/-- The elements of a list that are flattened before one of them fails. -/
def FlattenConfig.passed (config : FlattenConfig) (elements : List Value) : List Value :=
  elements.takeWhile fun element => (Call.mk config element).outcome.isOk

/-- Either all elements pass, or there is a first one that fails. -/
theorem passed_cases (config : FlattenConfig) (elements : List Value) :
    (∃ results : List (Option PropertyMap), config.passed elements = elements
        ∧ (Filter.singly config elements).map Call.outcome = results.map .ok)
      ∨ ∃ before element later fault, ∃ results : List (Option PropertyMap),
        elements = before ++ element :: later ∧ config.passed elements = before
          ∧ (Filter.singly config before).map Call.outcome = results.map .ok
          ∧ (Call.mk config element).outcome = .error fault := by
  induction elements with
  | nil => exact .inl ⟨[], rfl, rfl⟩
  | cons element rest ih =>
    cases here : (Call.mk config element).outcome with
    | error fault =>
      -- Nothing after the first that fails is looked at.
      have stops : config.passed (element :: rest) = [] := by
        rw [FlattenConfig.passed, List.takeWhile_cons, here]
        rfl
      exact .inr ⟨[], element, rest, fault, [], rfl, stops, rfl, here⟩
    | ok map? =>
      have goesOn : config.passed (element :: rest) = element :: config.passed rest := by
        rw [FlattenConfig.passed, List.takeWhile_cons, here]
        rfl
      have also : ∀ {passed : List Value} {results : List (Option PropertyMap)},
          (Filter.singly config passed).map Call.outcome = results.map .ok →
            (Filter.singly config (element :: passed)).map Call.outcome
              = (map? :: results).map .ok := fun others => by
        rw [Filter.singly, List.map_cons, List.map_cons, here, List.map_cons, ← others]
        rfl
      obtain ⟨results, all, others⟩ | ⟨before, first, later, fault, results, rfl, passed, others,
        fails⟩ := ih
      · exact .inl ⟨map? :: results, by rw [goesOn, all], also others⟩
      · exact .inr ⟨element :: before, first, later, fault, map? :: results, rfl,
          by rw [goesOn, passed], also others, fails⟩

/-- On a console that serves the filter, a batch does what is due for the elements up to the one
that fails, and there is nothing to complain of that one. -/
theorem Console.Batch.exists_does {console : Console} {config : FlattenConfig}
    {elements : List Value} {run : Except Fault (List Value) × Console}
    (batch : console.Batch config elements run) (serves : console.Serves config) :
    ∃ tried, console.Does (dueEffects (Filter.singly config tried)) run.2
      ∧ ∀ number, tried.filterMap (complaint? number)
        = (config.passed elements).filterMap (complaint? number) := by
  obtain ⟨results, all, outcomes⟩ | ⟨before, element, later, fault, results, split, passed,
    outcomes, fails⟩ := passed_cases config elements
  · obtain ⟨after, rfl, done⟩ := batch.performs serves results outcomes
    exact ⟨elements, done, fun number => by rw [all]⟩
  · obtain ⟨after, rfl, -, done⟩ :=
      batch.performsUntil serves before element later results fault split outcomes fails
    refine ⟨before ++ [element], done, fun number => ?_⟩
    have nothing : [element].filterMap (complaint? number) = [] :=
      List.filterMap_cons_none (complaint?_of_error fails number)
    rw [passed, List.filterMap_append, nothing, List.append_nil]

end BrokerMaps
