import BrokerMaps.Proofs.Workspace.Chains
import BrokerMaps.Proofs.Workspace.Switchboards

/-!
# Lines while writers are installed

Writers are added and installed, filters are built with writers of their own or without, lines are
printed, and objects are transformed one by one or in lists, in any order. Who gets a line is
settled when it is written: the writer that the filter was given, or else the one that was installed
last by then.

## Main result

`lines_after_uses`

## Proof strategy

A switchboard follows the uses. After each of them the workspace still matches it, and the lines
that were due are those that the effects of the use deliver, so what the console has taken is told
from the lines alone.
-/
namespace BrokerMaps.Workspace

/-! ## Reports -/

/-- The elements of a list that a filter comes to before it fails at one. -/
def handled (workspace : Workspace) (filter : String) (values : Value) : List Value :=
  match values.iterate with
  | .ok elements =>
    elements.takeWhile fun element => (workspace.answer (transform filter element)).1.isOk
  | .error _ => []

/-- The lines that a use reports, each for the writer that it should come to. -/
def reports (workspace : Workspace) (board : Switchboard) : LineUse → List Delivery
  | .printLine line => [⟨board.installed, line⟩]
  | .transform filter value => (complaint? (board.reportsTo filter) value).toList
  | .transformList filter values =>
    (workspace.handled filter values).filterMap (complaint? (board.reportsTo filter))
  | _ => []

/-- The lines that are reported in the course of uses. -/
def reportsOf (workspace : Workspace) (board : Switchboard) : List LineUse → List Delivery
  | [] => []
  | use :: rest =>
    workspace.reports board use ++ (workspace.lineUse use).reportsOf (board.after use) rest

variable {workspace : Workspace} {kept : Level → Bool} {board : Switchboard}
  {effects : List Effect} {name : String} {own? : Option Nat}

/-! ## Writing -/

/-- The console with the writer that is installed made known to it. -/
def consoleNow (workspace : Workspace) : Console :=
  workspace.console.install workspace.installedWriter

theorem answer_onConsole_eq {α : Type} {operation : ConsoleM α} {result : Except Fault α}
    {console : Console} (ran : workspace.consoleNow.answer operation = (result, console)) :
    workspace.answer (onConsole operation) = (result, { workspace with console }) := by
  have run : operation.run.run (workspace.console.install workspace.installedWriter)
      = (result, console) := ran
  rw [answer_onConsole, run]

theorem Matches.route_none (matched : workspace.Matches kept board effects) :
    workspace.consoleNow.route none = .ok board.installed := matched.installs.installedWriter

/-- The effects of a use are addressed to the writer that is installed at the time. -/
theorem Matches.does (matched : workspace.Matches kept board effects) {done : List Effect}
    {console : Console} (does : workspace.consoleNow.Does done console) :
    ({ workspace with console }).Matches kept board
      (effects ++ done.map (Effect.addressed board.installed)) := by
  have taken : workspace.consoleNow.HasTaken kept board.writers effects :=
    matched.taken.of_same rfl rfl rfl rfl
  exact matched.onConsole (taken.does (does.addressed matched.route_none))

/-- Lines for a writer that is there are written. -/
theorem Matches.accepts_line (matched : workspace.Matches kept board effects) {number : Nat}
    {writer? : Option Endpoint} (route : workspace.consoleNow.route writer? = .ok number)
    (there : number < board.writers.length) (line : String) :
    workspace.consoleNow.Accepts (.line writer? line) := by
  have found : workspace.consoleNow.writers[number]?
      = some (board.writers[number].withLines (linesTo number (deliveries effects))) := by
    rw [consoleNow, Console.install, matched.taken.writers, List.getElem?_eq_getElem there]
    rfl
  -- Whatever the writer has by now, it takes lines as it did when it was added.
  have takes := matched.sound.takesLines board.writers[number] (List.getElem_mem there)
  exact ⟨_, Console.performs_line_iff.mpr
    ⟨number, _, ⟨route, found, (Writer.takesLines_withLines _).mpr takes⟩, rfl⟩⟩

theorem Matches.printLine (matched : workspace.Matches kept board effects) (line : String) :
    (workspace.lineUse (.printLine line)).Matches kept board
      (effects ++ [.line (some (.ok board.installed)) line]) := by
  obtain ⟨console, done⟩ := matched.accepts_line matched.route_none matched.sound.installed line
  have ran : workspace.answer (Workspace.printLine (.text line) none)
      = (.ok (), { workspace with console }) := by
    rw [Workspace.printLine, answer_bind_of_ok answer_get, Option.mapM_none, pure_bind]
    exact answer_onConsole_eq done
  rw [lineUse, ran]
  exact matched.does (.next done .nothing)

/-! ## Filters in use -/

/-- A flattening filter is found under a name, with its own writer or none, nothing stands in its
way, and the console serves it. -/
structure FindsFilter (workspace : Workspace) (name : String) (own? : Option Nat)
    (config : FlattenConfig) (next? : Option Filter) : Prop where
  found : ∀ method ∈ Filter.stepMethods,
    workspace.answer (filterOf name method) = (.ok (.flattening config next?), workspace)
  writes : config.writer? = own?.map .ok
  serves : workspace.consoleNow.Serves config
  free : Filter.Unhindered config.flattener.itself

/-- A filter is served whether it has a writer of its own or not. -/
theorem Matches.serves (matched : workspace.Matches kept board effects) {config : FlattenConfig}
    (writes : config.writer? = own?.map .ok) (there : ∀ own ∈ own?, own < board.writers.length)
    (fit : ∀ fault, config.sink? ≠ some (.error fault)) : workspace.consoleNow.Serves config where
  counts _ known _ := (Console.accepts_increment_iff known).mpr fit
  lines line := by
    rw [writes]
    cases own? with
    | none => exact matched.accepts_line matched.route_none matched.sound.installed line
    | some own => exact matched.accepts_line rfl (there own rfl) line

theorem Matches.exists_findsFilter (matched : workspace.Matches kept board effects)
    (isFilter : board.parties.lookup name = some (.filter own?)) :
    ∃ config next?, workspace.FindsFilter name own? config next? := by
  obtain ⟨value, named, next, settings, writer, sink?, denotes, holds, counts⟩ :=
    matched.named name _ isFilter
  have finds := denotes.finds
  have fit : ∀ fault, (Chain.configNow workspace value settings writer sink?).sink?
      ≠ some (.error fault) := by
    intro fault unfit
    obtain ⟨sink, isSink, refuses⟩ := Option.map_eq_some_iff.mp unfit
    obtain ⟨number, denotes⟩ := counts sink isSink
    rw [denotes.sinkEndpoint] at refuses
    cases refuses
  have serves := matched.serves holds.ownWriter?
    (fun own isOwn => matched.sound.lt_of_lookup isFilter isOwn) fit
  refine ⟨Chain.configNow workspace value settings writer sink?,
    workspace.nextFilter? (filterAt workspace workspace.parts.length) next, fun method isStep => ?_,
    holds.ownWriter?, serves, fun method isStep => finds.checkCallable isStep⟩
  have offered : (Part.filter (.flattening next settings writer sink?)).offers method = true := by
    simp only [Filter.stepMethods, List.mem_cons, List.not_mem_nil, or_false] at isStep
    obtain rfl | rfl | rfl := isStep <;> rfl
  rw [filterOf, answer_bind_of_ok (denotes.answer_receiver named isStep offered),
    answer_bind_of_ok answer_get]
  -- One step of following the chain finds the filter itself; the next ones are not asked.
  simp only [finds.isPart, filterAt]
  rfl

namespace FindsFilter

variable {config : FlattenConfig} {next? : Option Filter}
  (finds : workspace.FindsFilter name own? config next?)

include finds

/-- An object that is transformed does what is due for it. -/
theorem exists_transform (value : Value) :
    ∃ result console,
      workspace.answer (transform name value) = (result, { workspace with console })
        ∧ result.isOk = (Call.mk config value).outcome.isOk
        ∧ workspace.consoleNow.Does (dueEffects (Filter.singly config [value])) console := by
  obtain ⟨console, done, transformed⟩ := finds.serves.answer_transform value
  have due : workspace.consoleNow.Does (dueEffects (Filter.singly config [value])) console := by
    rw [Filter.singly, List.map_singleton, dueEffects, List.flatMap_singleton]
    exact (Call.mk config value).report_effects_eq ▸ done
  -- The answer is the outcome of the report, with the map as a value of the workspace.
  have answered : ∃ result, result.isOk = (Call.mk config value).outcome.isOk
      ∧ workspace.consoleNow.answer (Filter.transformElement (.flattening config next?) value)
        = (result, console) := by
    rw [Call.outcome, Call.report]
    cases outcome : (config.flattener.report value).outcome with
    | ok map? =>
      rw [outcome] at transformed
      exact ⟨.ok (map?.map (.table none)), rfl, Console.answer_bind_of_ok transformed⟩
    | error fault =>
      rw [outcome] at transformed
      exact ⟨.error fault, rfl, Console.answer_bind_of_error transformed⟩
  obtain ⟨result, same, ran⟩ := answered
  refine ⟨result, console, ?_, same, due⟩
  rw [transform, answer_bind_of_ok (finds.found _ (by decide))]
  exact answer_onConsole_eq ran

/-- The elements of a list that are handled are those that would pass if they were transformed
alone. -/
theorem handled_eq {values : Value} {elements : List Value}
    (iterates : values.iterate = .ok elements) :
    workspace.handled name values = config.passed elements := by
  have same : ∀ element, (workspace.answer (transform name element)).1.isOk
      = (Call.mk config element).outcome.isOk := fun element => by
    obtain ⟨result, console, answered, same, -⟩ := finds.exists_transform element
    rw [answered, same]
  simp only [handled, iterates, same]
  rfl

/-- A list that is transformed does what is due for the elements up to the first that fails. -/
theorem exists_transformList (values : Value) :
    ∃ result console tried,
      workspace.answer (transformList name values) = (result, { workspace with console })
        ∧ workspace.consoleNow.Does (dueEffects (Filter.singly config tried)) console
        ∧ ∀ number, tried.filterMap (complaint? number)
          = (workspace.handled name values).filterMap (complaint? number) := by
  cases iterates : values.iterate with
  | error fault =>
    -- What is no list is refused before any filter is asked.
    have refused : workspace.consoleNow.answer
        (Filter.transformList (.flattening config next?) values)
        = (.error fault, workspace.consoleNow) := by
      rw [Filter.transformList, iterates]
      rfl
    refine ⟨.error fault, workspace.consoleNow, [], ?_, .nothing, fun number => ?_⟩
    · rw [transformList, answer_bind_of_ok (finds.found _ (by decide))]
      exact answer_onConsole_eq refused
    · rw [handled, iterates]
  | ok elements =>
    cases ran : workspace.consoleNow.answer (Filter.transformList (.flattening config next?) values)
      with
    | mk result console =>
      have batch : workspace.consoleNow.Batch config elements (result, console) :=
        ran ▸ Filter.batch_transformList finds.free workspace.consoleNow iterates
      obtain ⟨tried, done, complaints⟩ := batch.exists_does finds.serves
      refine ⟨result, console, tried, ?_, done, fun number => ?_⟩
      · rw [transformList, answer_bind_of_ok (finds.found _ (by decide))]
        exact answer_onConsole_eq ran
      · rw [complaints, finds.handled_eq iterates]

end FindsFilter

/-! ## Every use -/

/-- What is due for some objects delivers what there is to complain of them. -/
theorem Matches.complaints (matched : workspace.Matches kept board effects)
    (isFilter : board.parties.lookup name = some (.filter own?)) {config : FlattenConfig}
    (writes : config.writer? = own?.map .ok) {tried : List Value} {console : Console}
    (done : workspace.consoleNow.Does (dueEffects (Filter.singly config tried)) console) :
    ∃ more, deliveries more = tried.filterMap (complaint? (board.reportsTo name))
      ∧ OwnRecords more ∧ ({ workspace with console }).Matches kept board (effects ++ more) := by
  refine ⟨_, ?_, (ownRecords_dueEffects _).addressed board.installed, matched.does done⟩
  rw [deliveries_dueEffects board.installed writes, Switchboard.reportsTo_eq isFilter]

/-- A use that is allowed reports its lines, each to the writer that it should come to, and the
workspace goes on to match the switchboard. -/
theorem Matches.lineUse (matched : workspace.Matches kept board effects) {use : LineUse}
    (allowed : board.Allows use) :
    ∃ more, deliveries more = workspace.reports board use ∧ OwnRecords more
      ∧ (workspace.lineUse use).Matches kept (board.after use) (effects ++ more) := by
  -- Most uses report nothing, and then it is enough that the workspace still matches.
  have silent : (workspace.lineUse use).Matches kept (board.after use) effects →
      workspace.reports board use = [] →
        ∃ more, deliveries more = workspace.reports board use ∧ OwnRecords more
          ∧ (workspace.lineUse use).Matches kept (board.after use) (effects ++ more) :=
    fun goesOn nothing => ⟨[], nothing.symm, nofun, (List.append_nil effects).symm ▸ goesOn⟩
  cases use with
  | addWriter name writer => exact silent (matched.addWriter name allowed) rfl
  | addSink name sink => exact silent (matched.addSink name sink) rfl
  | addFilter name next settings writer? sink? =>
    exact silent (matched.addFilter name next settings allowed) rfl
  | install writer => exact silent (matched.install allowed) rfl
  | printLine line => exact ⟨_, rfl, by simp [OwnRecords], matched.printLine line⟩
  | transform filter value =>
    obtain ⟨own?, isFilter⟩ := allowed
    obtain ⟨config, next?, finds⟩ := matched.exists_findsFilter isFilter
    obtain ⟨result, console, answered, -, done⟩ := finds.exists_transform value
    obtain ⟨more, delivers, own, goesOn⟩ := matched.complaints isFilter finds.writes done
    refine ⟨more, ?_, own, ?_⟩
    · rw [delivers, reports, List.filterMap_cons, List.filterMap_nil]
      cases complaint? (board.reportsTo filter) value <;> rfl
    · rw [Workspace.lineUse, answered]
      exact goesOn
  | transformList filter values =>
    obtain ⟨own?, isFilter⟩ := allowed
    obtain ⟨config, next?, finds⟩ := matched.exists_findsFilter isFilter
    obtain ⟨result, console, tried, answered, done, complaints⟩ := finds.exists_transformList values
    obtain ⟨more, delivers, own, goesOn⟩ := matched.complaints isFilter finds.writes done
    refine ⟨more, ?_, own, ?_⟩
    · rw [delivers, complaints, reports]
    · rw [Workspace.lineUse, answered]
      exact goesOn

theorem Matches.afterLineUses {uses : List LineUse} (matched : workspace.Matches kept board effects)
    (allowed : board.AllowsAll uses) :
    ∃ more, deliveries more = workspace.reportsOf board uses ∧ OwnRecords more
      ∧ (workspace.afterLineUses uses).Matches kept (board.afterAll uses) (effects ++ more) := by
  induction uses generalizing workspace board effects with
  | nil => exact ⟨[], rfl, nofun, (List.append_nil effects).symm ▸ matched⟩
  | cons use rest ih =>
    obtain ⟨first, delivered, own, goesOn⟩ := matched.lineUse allowed.1
    obtain ⟨later, others, ownLater, last⟩ := ih goesOn allowed.2
    refine ⟨first ++ later, ?_, own.append ownLater, List.append_assoc _ _ _ ▸ last⟩
    rw [deliveries_append, delivered, others, reportsOf]

theorem matches_fresh (level : Int) :
    (fresh level).Matches (Console.fresh level).keeps .fresh [] where
  orderly := orderly_fresh level
  named := nofun
  installs := rfl
  sound := ⟨List.forall_mem_singleton.mpr trivial, Nat.zero_lt_one, nofun⟩
  taken := by
    refine ⟨rfl, fun number => ?_, rfl, rfl, nofun⟩
    cases number with
    | zero => rfl
    | succ number => rfl

/-- What a stream writer shows is what was delivered to it, one newline after each line. -/
theorem Matches.answer_output (matched : workspace.Matches kept board effects) {number : Nat}
    {lines : List String} (isWriter : board.parties.lookup name = some (.writer number))
    (isStream : board.writers[number]? = some (.stream lines)) :
    workspace.answer (output name) =
      (.ok (Console.streamText (lines ++ linesTo number (deliveries effects))), workspace) := by
  obtain ⟨value, named, denotes⟩ := matched.named name _ isWriter
  have isPart : workspace.part? (workspace.look value) = some (.writer number) :=
    Denotes.finds denotes |>.isPart
  have now : workspace.console.writers[number]?
      = some (.stream (lines ++ linesTo number (deliveries effects))) := by
    rw [matched.taken.writers, isStream]
    rfl
  rw [output, answer_bind_of_ok (answer_valueOf named), answer_bind_of_ok answer_get]
  simp only [isPart, Option.bind_some, Part.writer?, now]
  rfl

/-- Every line that is reported in the course of uses that are allowed goes to one writer: the own
writer of the filter that reports it, or else the one that was installed last before, which is the
standard output if none was. A stream has just the lines that were reported to it, in order, and
shows each with one newline after it. The standard output has those for any writer to it. In the
log, a line that was reported to a logging writer is a record with the text as it is, and these
records stand in order between those that the filters log themselves; under any other logger there
are no others. -/
theorem lines_after_uses (level : Int) {uses : List LineUse}
    (allowed : Switchboard.fresh.AllowsAll uses) :
    let reached := (fresh level).afterLineUses uses
    let board := Switchboard.fresh.afterAll uses
    let reports := (fresh level).reportsOf .fresh uses
    (∀ report ∈ reports, report.writer < board.writers.length)
    ∧ (∀ number, reached.console.writers[number]? =
        board.writers[number]?.map (Writer.withLines (linesTo number reports)))
    ∧ (∀ name number lines, board.parties.lookup name = some (.writer number) →
        board.writers[number]? = some (.stream lines) →
          reached.answer (output name) =
            (.ok (String.join ((lines ++ linesTo number reports).map (· ++ "\n"))), reached))
    ∧ reached.console.standardLines = reports.filterMap (fun report =>
        board.writers[report.writer]?.bind (Writer.standardLine? report.line))
    ∧ (∀ logger, logger ≠ flattenLogger →
        reached.console.records.filter (fun record => record.logger = logger) =
          (reports.filterMap fun report =>
            board.writers[report.writer]?.bind (Writer.record? report.line)).filter
              fun record => record.logger = logger && (Console.fresh level).keeps record.level)
    ∧ ∃ effects, deliveries effects = reports
        ∧ (∀ logged, Effect.record logged ∈ effects → logged.logger = flattenLogger)
        ∧ reached.console.records = (effects.flatMap (Effect.records board.writers)).filter
          fun record => (Console.fresh level).keeps record.level := by
  obtain ⟨effects, delivers, own, reached⟩ := (matches_fresh level).afterLineUses allowed
  rw [List.nil_append] at reached
  rw [← delivers]
  refine ⟨reached.taken.inRange, reached.taken.writers, ?_, reached.taken.standardLines, ?_,
    effects, rfl, own, reached.taken.records⟩
  · exact fun name number lines isWriter isStream => reached.answer_output isWriter isStream
  · intro logger other
    rw [reached.taken.records, List.filter_filter]
    refine own.filter_records _ fun record isOwn => ?_
    rw [isOwn, decide_eq_false (Ne.symm other), Bool.false_and]

/-- A filter without a writer of its own is built first and reports to three writers in turn. The
list ends at an element that cannot be written, and what comes after it is not reported. -/
def rerouted : List LineUse :=
  let unwritable : Value := .object <|
    .ordinary 0 ⟨"app.model", "Gauge", "Gauge"⟩ "<Gauge>" (.error (.raised .value "no reading"))
  [.addWriter "file" (.stream []), .addWriter "log" (.logging "brokerconsole.console" (.int 30)),
    .addFilter "plain" .null .default none none, .transform "plain" (.int 42),
    .install "log", .printLine "100%s", .addFilter "own" .null .default (some "file") none,
    .transform "own" (.text "x"), .transform "plain" (.list none []), .install "file",
    .transformList "plain" (.list none [.bool true,
      .beanName ⟨none, none⟩ ⟨.text "broker", [("type", unwritable)]⟩, .int 7])]

theorem lines_after_uses_rerouted :
    let reached := (fresh 10).afterLineUses rerouted
    Switchboard.fresh.AllowsAll rerouted
      ∧ reached.console.standardLines = [unsupportedLine "builtins.int"]
      ∧ reached.answer (output "file") =
        (.ok (unsupportedLine "builtins.str" ++ "\n" ++ unsupportedLine "builtins.bool" ++ "\n"),
          reached)
      ∧ reached.console.records.filter (fun record => record.logger = "brokerconsole.console") =
        [⟨"brokerconsole.console", .number 30, "100%s"⟩,
          ⟨"brokerconsole.console", .number 30, unsupportedLine "builtins.list"⟩] := by
  have allowed : Switchboard.fresh.AllowsAll rerouted := by
    refine ⟨trivial, rfl, ⟨nofun, nofun⟩, ⟨none, rfl⟩, ⟨2, rfl⟩, trivial, ⟨?_, nofun⟩,
      ⟨some 1, rfl⟩, ⟨none, rfl⟩, ⟨1, rfl⟩, ⟨none, rfl⟩, trivial⟩
    exact fun name isFile => ⟨1, Option.some.inj isFile ▸ rfl⟩
  have reports : (fresh 10).reportsOf .fresh rerouted =
      [⟨0, unsupportedLine "builtins.int"⟩, ⟨2, "100%s"⟩, ⟨1, unsupportedLine "builtins.str"⟩,
        ⟨2, unsupportedLine "builtins.list"⟩, ⟨1, unsupportedLine "builtins.bool"⟩] := by
    decide +kernel
  obtain ⟨-, -, streams, standard, logged, -⟩ := lines_after_uses 10 allowed
  rw [reports] at streams standard logged
  refine ⟨allowed, standard, (streams "file" 1 [] rfl rfl).trans ?_,
    (logged _ (by decide)).trans (by decide +kernel)⟩
  exact Prod.ext (congrArg Except.ok (by decide +kernel)) rfl

end BrokerMaps.Workspace
