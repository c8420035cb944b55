import BrokerMaps.Proofs.Console.Deliveries
import BrokerMaps.Proofs.Workspace.Parts

/-!
# Switchboards

A switchboard notes what names stand for, writers, sinks and flattening filters, and which writer is
installed. A workspace is used in ways that a switchboard can follow: parts are added, writers are
installed, lines are printed, and objects are transformed.

## Main results

`Matches.addWriter`, `Matches.addSink`, `Matches.addFilter`, `Matches.install`: where a workspace
matches a switchboard, it matches the changed one after such a use.

## Proof strategy

What a filter holds is found again as long as the workspace keeps what lasts, so a new part changes
what its own name stands for and nothing else.
-/
namespace BrokerMaps

/-! ## Switchboards -/

/-- What a name stands for, as far as lines are concerned. -/
inductive Party where
  | writer (number : Nat)
  | sink
  /-- A flattening filter with a writer of its own, or without. -/
  | filter (own? : Option Nat)

/-- The writers in the order in which they were added, each as it was then, what the names stand
for, and the number of the writer that is installed. -/
structure Switchboard where
  writers : List Writer
  parties : List (String × Party)
  installed : Nat

/-- What can be done in any order. A filter is built with a writer and a sink that are named, or
with none; it can be put in front of anything. -/
inductive LineUse where
  | addWriter (name : String) (writer : Writer)
  | addSink (name : String) (sink : Sink)
  | addFilter (name : String) (next : Value) (settings : Settings) (writer? sink? : Option String)
  | install (writer : String)
  | printLine (line : String)
  | transform (filter : String) (value : Value)
  | transformList (filter : String) (values : Value)

namespace Party

def writer? : Party → Option Nat
  | .writer number => some number
  | _ => none

/-- The number of the writer that a party is or has. -/
def number? : Party → Option Nat
  | .writer number => some number
  | .sink => none
  | .filter own? => own?

end Party

namespace Switchboard

/-- Nothing is named yet, and the standard output is installed. -/
def fresh : Switchboard := ⟨[.standard], [], 0⟩

/-- The number of the writer that a name stands for. -/
def writer? (board : Switchboard) (name : String) : Option Nat :=
  (board.parties.lookup name).bind Party.writer?

/-- The number of the writer that a filter reports to. -/
def reportsTo (board : Switchboard) (filter : String) : Nat :=
  match board.parties.lookup filter with
  | some (.filter (some own)) => own
  | _ => board.installed

/-- Names stand for what is used under them, and writers that are added can write lines. -/
def Allows (board : Switchboard) : LineUse → Prop
  | .addWriter _ writer => writer.TakesLines
  | .addSink _ _ => True
  | .addFilter _ _ _ writer? sink? =>
    (∀ name ∈ writer?, ∃ number, board.parties.lookup name = some (.writer number))
      ∧ ∀ name ∈ sink?, board.parties.lookup name = some .sink
  | .install writer => ∃ number, board.parties.lookup writer = some (.writer number)
  | .printLine _ => True
  | .transform filter _ => ∃ own?, board.parties.lookup filter = some (.filter own?)
  | .transformList filter _ => ∃ own?, board.parties.lookup filter = some (.filter own?)

def after (board : Switchboard) : LineUse → Switchboard
  | .addWriter name writer =>
    { board with
      writers := board.writers ++ [writer]
      parties := (name, .writer board.writers.length) :: board.parties }
  | .addSink name _ => { board with parties := (name, .sink) :: board.parties }
  | .addFilter name _ _ writer? _ =>
    { board with parties := (name, .filter (writer?.bind board.writer?)) :: board.parties }
  | .install writer => { board with installed := (board.writer? writer).getD board.installed }
  | .printLine _ => board
  | .transform _ _ => board
  | .transformList _ _ => board

def afterAll (board : Switchboard) (uses : List LineUse) : Switchboard := uses.foldl after board

/-- Each use is allowed when its turn comes. -/
def AllowsAll (board : Switchboard) : List LineUse → Prop
  | [] => True
  | use :: rest => board.Allows use ∧ (board.after use).AllowsAll rest

end Switchboard

namespace Workspace

/-! ## Uses -/

/-- What is named, or null. -/
def namedOrNull : Option String → WorkspaceM Value
  | some name => valueOf name
  | none => pure .null

/-- The workspace after a use, whether it succeeded or not. -/
def lineUse (workspace : Workspace) : LineUse → Workspace
  | .addWriter name writer => (workspace.answer (addWriter name writer)).2
  | .addSink name sink => (workspace.answer (addSink name sink)).2
  | .addFilter name next settings writer? sink? =>
    (workspace.answer (do
      let writer ← namedOrNull writer?
      let sink ← namedOrNull sink?
      addFlattening name next settings writer sink)).2
  | .install writer => (workspace.answer (install writer)).2
  | .printLine line => (workspace.answer (printLine (.text line) none)).2
  | .transform filter value => (workspace.answer (transform filter value)).2
  | .transformList filter values => (workspace.answer (transformList filter values)).2

def afterLineUses (workspace : Workspace) (uses : List LineUse) : Workspace :=
  uses.foldl lineUse workspace

/-! ## Workspaces that match a switchboard -/

/-- What a filter holds as its writer. -/
def HoldsWriter (workspace : Workspace) (value : Value) : Option Nat → Prop
  | none => value = .null
  | some number => workspace.Denotes value (.writer number)

/-- A value stands for a party. -/
def Presents (workspace : Workspace) (value : Value) : Party → Prop
  | .writer number => workspace.Denotes value (.writer number)
  | .sink => ∃ number, workspace.Denotes value (.sink number)
  | .filter own? =>
    ∃ next settings writer sink?,
      workspace.Denotes value (.filter (.flattening next settings writer sink?))
        ∧ workspace.HoldsWriter writer own?
        ∧ ∀ sink ∈ sink?, ∃ number, workspace.Denotes sink (.sink number)

/-- What was installed as the writer to use. The standard output is, before anything was. -/
def Installs (workspace : Workspace) (number : Nat) : Prop :=
  match workspace.installed? with
  | none => number = 0
  | some value => workspace.Denotes value (.writer number)

end Workspace

namespace Switchboard

/-- Only writers that are there and take lines are installed or held. -/
structure Sound (board : Switchboard) : Prop where
  takesLines : ∀ writer ∈ board.writers, writer.TakesLines
  installed : board.installed < board.writers.length
  held : ∀ entry ∈ board.parties, ∀ number ∈ entry.2.number?, number < board.writers.length

variable {board : Switchboard} {name : String} {number : Nat} {party : Party}

theorem writer?_eq_some_iff :
    board.writer? name = some number ↔ board.parties.lookup name = some (.writer number) := by
  rw [writer?, Option.bind_eq_some_iff]
  constructor
  · rintro ⟨party, known, isWriter⟩
    cases party with
    | writer there => rw [known, Option.some.inj isWriter]
    | sink => cases isWriter
    | filter own? => cases isWriter
  · exact fun known => ⟨_, known, rfl⟩

theorem Sound.lt_of_lookup (sound : board.Sound) (known : board.parties.lookup name = some party)
    (isNumber : party.number? = some number) : number < board.writers.length := by
  obtain ⟨front, back, split, -⟩ := List.lookup_eq_some_iff.mp known
  exact sound.held (name, party) (by simp [split]) number isNumber

theorem reportsTo_eq {own? : Option Nat} (known : board.parties.lookup name = some (.filter own?)) :
    board.reportsTo name = own?.getD board.installed := by
  rw [reportsTo, known]
  cases own? <;> rfl

end Switchboard

namespace Workspace

/-- A workspace in which every name stands for what a switchboard says, and whose console has taken
some effects and keeps the records of some levels. -/
structure Matches (workspace : Workspace) (kept : Level → Bool) (board : Switchboard)
    (effects : List Effect) : Prop where
  orderly : workspace.Orderly
  named : ∀ name party, board.parties.lookup name = some party →
    ∃ value, workspace.names.lookup name = some value ∧ workspace.Presents value party
  installs : workspace.Installs board.installed
  sound : board.Sound
  taken : workspace.console.HasTaken kept board.writers effects

variable {workspace before after : Workspace} {kept : Level → Bool} {board : Switchboard}
  {effects : List Effect} {lasting : String → Prop} {name : String} {value : Value} {party : Party}
  {own? : Option Nat}

theorem HoldsWriter.keeps (holds : before.HoldsWriter value own?)
    (keeps : before.Keeps lasting after) : after.HoldsWriter value own? := by
  cases own? with
  | none => exact holds
  | some number => exact Denotes.keeps holds keeps

/-- A writer that is held counts as true, and null does not. -/
theorem HoldsWriter.ownWriter? (holds : workspace.HoldsWriter value own?) :
    workspace.ownWriter? (workspace.look value) = own?.map .ok := by
  cases own? with
  | none =>
    obtain rfl : value = .null := holds
    obtain ⟨depth, look_eq⟩ := workspace.exists_look_eq
    have seen : workspace.look .null = .null := look_eq .null
    rw [seen]
    rfl
  | some number =>
    have isWriter : workspace.Denotes value (.writer number) := holds
    rw [Workspace.ownWriter?, isWriter.finds.truth, isWriter.writerEndpoint]
    rfl

theorem Presents.keeps (presents : before.Presents value party)
    (keeps : before.Keeps lasting after) : after.Presents value party := by
  cases party with
  | writer number => exact Denotes.keeps presents keeps
  | sink =>
    obtain ⟨number, denotes⟩ := presents
    exact ⟨number, denotes.keeps keeps⟩
  | filter own? =>
    obtain ⟨next, settings, writer, sink?, denotes, holds, counts⟩ := presents
    refine ⟨next, settings, writer, sink?, denotes.keeps keeps, holds.keeps keeps,
      fun sink isSink => ?_⟩
    obtain ⟨number, denotes⟩ := counts sink isSink
    exact ⟨number, denotes.keeps keeps⟩

theorem Installs.keeps {number : Nat} (installs : before.Installs number)
    (keeps : before.Keeps lasting after) (same : after.installed? = before.installed?) :
    after.Installs number := by
  unfold Installs at *
  rw [same]
  split
  next none => rwa [none] at installs
  next value some =>
    rw [some] at installs
    exact Denotes.keeps installs keeps

theorem Installs.installedWriter {number : Nat} (installs : workspace.Installs number) :
    workspace.installedWriter = .ok number := by
  unfold Installs at installs
  unfold Workspace.installedWriter
  split
  next value some =>
    rw [some] at installs
    exact Denotes.writerEndpoint installs
  next none =>
    rw [none] at installs
    rw [installs]

/-! ## New parts -/

/-- Whatever the console comes to, the names stand for what they stood for. -/
theorem Matches.onConsole (matched : workspace.Matches kept board effects) {console : Console}
    {more : List Effect} (taken : console.HasTaken kept board.writers more) :
    ({ workspace with console }).Matches kept board more where
  orderly := matched.orderly.of_same (Nat.le_refl _) rfl rfl rfl
  named := matched.named
  installs := matched.installs
  sound := matched.sound
  taken := taken

/-- A new part that stands for a party does so under its name, and every other name stands for what
it stood for. -/
theorem Matches.adds (matched : workspace.Matches kept board effects) {part : Part}
    (adds : workspace.Adds name part after)
    (presents : ∀ {itself}, after.Denotes itself part → after.Presents itself party)
    (held : ∀ number ∈ party.number?, number < board.writers.length) :
    after.Matches kept { board with parties := (name, party) :: board.parties } effects where
  orderly := adds.orderly
  named other found known := by
    rw [List.lookup_cons] at known
    -- The name stands for the new part from now on, whatever it stood for.
    cases same : other == name with
    | true =>
      rw [same] at known
      obtain rfl := Option.some.inj known
      obtain rfl := eq_of_beq same
      obtain ⟨itself, named, denotes⟩ := adds.named
      exact ⟨itself, named, presents denotes⟩
    | false =>
      rw [same] at known
      obtain ⟨value, named, standing⟩ := matched.named other found known
      exact ⟨value, (adds.keeps.named other (ne_of_beq_false same)).trans named,
        standing.keeps adds.keeps⟩
  installs := matched.installs.keeps adds.keeps adds.installed
  sound := ⟨matched.sound.takesLines, matched.sound.installed,
    List.forall_mem_cons.mpr ⟨held, matched.sound.held⟩⟩
  taken := by
    rw [adds.console]
    exact matched.taken

theorem Matches.addWriter (matched : workspace.Matches kept board effects) (name : String)
    {writer : Writer} (takes : writer.TakesLines) :
    (workspace.lineUse (.addWriter name writer)).Matches kept (board.after (.addWriter name writer))
      effects := by
  have longer : board.writers.length < (board.writers ++ [writer]).length := by
    rw [List.length_append]
    exact Nat.lt_succ_self _
  -- The writer is there before there is a name for it.
  let extended : Switchboard := { board with writers := board.writers ++ [writer] }
  have sound : extended.Sound :=
    ⟨List.forall_mem_append.mpr ⟨matched.sound.takesLines, List.forall_mem_singleton.mpr takes⟩,
      Nat.lt_trans matched.sound.installed longer,
      fun entry member number isHeld =>
        Nat.lt_trans (matched.sound.held entry member number isHeld) longer⟩
  let grown : Workspace := { workspace with console := (workspace.console.addWriter writer).2 }
  have grows : grown.Matches kept extended effects :=
    ⟨matched.orderly.of_same (Nat.le_refl _) rfl rfl rfl, matched.named, matched.installs, sound,
      matched.taken.addWriter writer⟩
  obtain ⟨built, built_eq, adds⟩ := exists_answer_bindPart grows.orderly name writer.classOf
    (.writer board.writers.length)
  have ran : workspace.answer (Workspace.addWriter name writer) = (.ok (), built) := by
    rw [← built_eq, ← matched.taken.length_writers]
    rfl
  rw [lineUse, ran]
  exact grows.adds adds (fun denotes => denotes)
    fun number isNumber => Option.mem_some.mp isNumber ▸ longer

theorem Matches.addSink (matched : workspace.Matches kept board effects) (name : String)
    (sink : Sink) :
    (workspace.lineUse (.addSink name sink)).Matches kept (board.after (.addSink name sink))
      effects := by
  let grown : Workspace := { workspace with console := (workspace.console.addSink sink).2 }
  have grows : grown.Matches kept board effects :=
    matched.onConsole (matched.taken.of_same rfl rfl rfl rfl)
  obtain ⟨built, built_eq, adds⟩ := exists_answer_bindPart grows.orderly name sink.classOf
    (.sink workspace.console.sinks.length)
  have ran : workspace.answer (Workspace.addSink name sink) = (.ok (), built) := by
    rw [← built_eq]
    rfl
  rw [lineUse, ran]
  exact grows.adds adds (fun denotes => ⟨_, denotes⟩) nofun

theorem Matches.exists_named_writer (matched : workspace.Matches kept board effects)
    {writer? : Option String}
    (known : ∀ name ∈ writer?, ∃ number, board.parties.lookup name = some (.writer number)) :
    ∃ value, workspace.answer (namedOrNull writer?) = (.ok value, workspace)
      ∧ ∀ {held}, value.KeptAs held → workspace.HoldsWriter held (writer?.bind board.writer?) := by
  cases writer? with
  | none => exact ⟨.null, rfl, fun ⟨_, isNull⟩ => isNull.symm⟩
  | some name =>
    obtain ⟨number, isWriter⟩ := known name rfl
    obtain ⟨value, named, denotes⟩ := matched.named name _ isWriter
    refine ⟨workspace.look value, answer_valueOf named, fun isKept => ?_⟩
    rw [Option.bind_some, Switchboard.writer?_eq_some_iff.mpr isWriter,
      Denotes.eq_of_keptAs denotes isKept]
    exact denotes

theorem Matches.exists_named_sink (matched : workspace.Matches kept board effects)
    {sink? : Option String} (known : ∀ name ∈ sink?, board.parties.lookup name = some .sink) :
    ∃ value counts, workspace.answer (namedOrNull sink?) = (.ok value, workspace)
      ∧ value.truth = .ok counts
      ∧ ∀ {held}, value.KeptAs held → ∀ sink ∈ (if counts then some held else none),
        ∃ number, workspace.Denotes sink (.sink number) := by
  cases sink? with
  | none => exact ⟨.null, false, rfl, rfl, fun _ => nofun⟩
  | some name =>
    obtain ⟨value, named, number, denotes⟩ := matched.named name _ (known name rfl)
    refine ⟨workspace.look value, true, answer_valueOf named, denotes.finds.truth,
      fun isKept sink isSink => ⟨number, ?_⟩⟩
    obtain rfl := Option.some.inj isSink
    rw [denotes.eq_of_keptAs isKept]
    exact denotes

theorem Matches.addFilter (matched : workspace.Matches kept board effects) (name : String)
    (next : Value) (settings : Settings) {writer? sink? : Option String}
    (allowed : board.Allows (.addFilter name next settings writer? sink?)) :
    (workspace.lineUse (.addFilter name next settings writer? sink?)).Matches kept
      (board.after (.addFilter name next settings writer? sink?)) effects := by
  obtain ⟨writer, foundWriter, holds⟩ := matched.exists_named_writer allowed.1
  obtain ⟨sink, counts, foundSink, truth, sinks⟩ := matched.exists_named_sink allowed.2
  obtain ⟨built, next', settings', writer', sink', built_eq, -, -, writerKept, sinkKept, adds⟩ :=
    exists_answer_addFlattening matched.orderly name next settings writer truth
  rw [lineUse, answer_bind_of_ok foundWriter, answer_bind_of_ok foundSink, built_eq]
  refine matched.adds adds (fun denotes => ?_) fun number isOwn => ?_
  · refine ⟨next', settings', writer', _, denotes, (holds writerKept).keeps adds.keeps,
      fun sink isSink => ?_⟩
    obtain ⟨number, denotes⟩ := sinks sinkKept sink isSink
    exact ⟨number, denotes.keeps adds.keeps⟩
  · -- The filter's own writer is one that was added before.
    obtain ⟨own, isNamed, isWriter⟩ := Option.bind_eq_some_iff.mp isOwn
    exact matched.sound.lt_of_lookup (Switchboard.writer?_eq_some_iff.mp isWriter) rfl

/-! ## Installing -/

theorem Matches.install (matched : workspace.Matches kept board effects) {writer : String}
    (allowed : board.Allows (.install writer)) :
    (workspace.lineUse (.install writer)).Matches kept (board.after (.install writer)) effects := by
  obtain ⟨number, isWriter⟩ := allowed
  obtain ⟨value, named, denotes⟩ := matched.named writer _ isWriter
  have same : workspace.answer (identified (workspace.look value)) = (.ok value, workspace) := by
    rw [answer_identified, Denotes.identify_look denotes]
  have ran : workspace.answer (Workspace.install writer)
      = (.ok (), { workspace with installed? := some value }) := by
    rw [Workspace.install, answer_bind_of_ok (answer_valueOf named), answer_bind_of_ok same]
    rfl
  rw [lineUse, ran, Switchboard.after, Switchboard.writer?_eq_some_iff.mpr isWriter]
  exact ⟨matched.orderly.of_same (Nat.le_refl _) rfl rfl rfl, matched.named, denotes,
    ⟨matched.sound.takesLines, matched.sound.lt_of_lookup isWriter rfl, matched.sound.held⟩,
    matched.taken⟩

end Workspace
end BrokerMaps
