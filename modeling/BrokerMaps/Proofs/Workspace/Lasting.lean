import BrokerMaps.Proofs.Outcome
import BrokerMaps.Proofs.Value.Identities
import BrokerMaps.Workspace.Filters
import BrokerMaps.Workspace.Objects

/-!
# What lasts in a workspace

Using a workspace gives new objects identities of their own, binds names, and appends to lists,
attribute lists and byte arrays. Every other object keeps its content, the objects that stand for
parts of the library among them, and so do the parts themselves.

## Main results

* `leadsTo_queryInto`, `leadsTo_append`, `leadsTo_extend`: whatever a use of the workspace comes
  to, it keeps the parts, the objects that cannot grow, the extra fields, and every name but the one
  that it binds.
* `leadsTo_bindPart`: so does a new writer, sink or filter.

## Proof strategy

Identities are given out in order, and those in use lie below the next one (`Orderly`), so a new
object never hides an older one. What is replaced is found to be a sequence that can grow, by
whoever looks at it, and then it is kept as one (`canGrow_of_look`).
-/
namespace BrokerMaps

/-- A sequence that more can be appended to. -/
def Value.CanGrow : Value → Prop
  | .list _ _ | .attributeList _ _ | .buffer .byteArray _ => True
  | _ => False

namespace Workspace

/-! ## Answers -/

/-- The result or fault of an operation, and the workspace it leaves behind. -/
def answer {α : Type} (workspace : Workspace) (operation : WorkspaceM α) :
    Except Fault α × Workspace :=
  operation.run.run workspace

variable {α β : Type} {workspace between after : Workspace}

@[simp] theorem answer_pure (a : α) : workspace.answer (pure a) = (.ok a, workspace) := rfl

@[simp] theorem answer_throw (fault : Fault) :
    workspace.answer (throw fault : WorkspaceM α) = (.error fault, workspace) := rfl

@[simp] theorem answer_get : workspace.answer get = (.ok workspace, workspace) := rfl

@[simp] theorem answer_set (next : Workspace) : workspace.answer (set next) = (.ok (), next) := rfl

@[simp] theorem answer_ofExcept (outcome : Except Fault α) :
    workspace.answer (MonadExcept.ofExcept outcome) = (outcome, workspace) := by
  cases outcome <;> rfl

theorem answer_bind_of_ok {operation : WorkspaceM α} {next : α → WorkspaceM β} {a : α}
    (succeeds : workspace.answer operation = (.ok a, between)) :
    workspace.answer (operation >>= next) = between.answer (next a) :=
  Outcome.run_bind_of_ok succeeds

theorem answer_bind_of_error {operation : WorkspaceM α} {next : α → WorkspaceM β} {fault : Fault}
    (fails : workspace.answer operation = (.error fault, between)) :
    workspace.answer (operation >>= next) = (.error fault, between) :=
  Outcome.run_bind_of_error fails

theorem exists_of_answer_bind {operation : WorkspaceM α} {next : α → WorkspaceM β} {b : β}
    (succeeds : workspace.answer (operation >>= next) = (.ok b, after)) :
    ∃ a between, workspace.answer operation = (.ok a, between)
      ∧ between.answer (next a) = (.ok b, after) :=
  Outcome.exists_of_run_bind succeeds

/-- What the console comes to is kept, and nothing else changes. -/
theorem answer_onConsole (operation : ConsoleM α) :
    workspace.answer (onConsole operation) =
      let run := operation.run.run (workspace.console.install workspace.installedWriter)
      (run.1, { workspace with console := run.2 }) := by
  rw [onConsole, answer_bind_of_ok answer_get]
  cases run : operation.run.run (workspace.console.install workspace.installedWriter) with
  | mk result console =>
    simp only [run]
    rw [answer_bind_of_ok (answer_set _), answer_ofExcept]

theorem answer_identified (value : Value) :
    workspace.answer (identified value) =
      (.ok (value.identify.run workspace.nextIdentity).1,
        { workspace with nextIdentity := (value.identify.run workspace.nextIdentity).2 }) := rfl

/-! ## What is kept -/

/-- Identities are given out in order, above those of the delivery modes. -/
structure Orderly (workspace : Workspace) : Prop where
  room : firstIdentity ≤ workspace.nextIdentity
  objects : ∀ object ∈ workspace.objects, object.1 < workspace.nextIdentity
  parts : ∀ part ∈ workspace.parts, part.1 < workspace.nextIdentity
  extras : ∀ extra ∈ workspace.extras, extra.1.1 < workspace.nextIdentity

theorem orderly_fresh (level : Int) : (fresh level).Orderly where
  room := Nat.le_refl _
  objects := nofun
  parts := nofun
  extras := nofun

/-- No part is lost, an object changes only if it can grow, no extra field comes or goes, and some
of the names stand for what they stood for. -/
structure Keeps (lasting : String → Prop) (before after : Workspace) : Prop where
  parts : ∀ {serial part}, before.parts.lookup serial = some part →
    after.parts.lookup serial = some part
  count : before.parts.length ≤ after.parts.length
  objects : ∀ {identity content}, before.objects.lookup identity = some content →
    ¬ content.CanGrow → after.objects.lookup identity = some content
  extras : after.extras = before.extras
  named : ∀ name, lasting name → after.names.lookup name = before.names.lookup name

/-- What an orderly workspace is led to is orderly, and keeps what lasts. -/
def LeadsTo (lasting : String → Prop) (before after : Workspace) : Prop :=
  before.Orderly → after.Orderly ∧ before.Keeps lasting after

variable {lasting : String → Prop}

theorem LeadsTo.refl (workspace : Workspace) : workspace.LeadsTo lasting workspace :=
  fun orderly => ⟨orderly, fun found => found, Nat.le_refl _, fun found _ => found, rfl,
    fun _ _ => rfl⟩

theorem LeadsTo.trans (here : workspace.LeadsTo lasting between)
    (there : between.LeadsTo lasting after) : workspace.LeadsTo lasting after := by
  intro orderly
  obtain ⟨still, first⟩ := here orderly
  obtain ⟨last, second⟩ := there still
  exact ⟨last, fun found => second.parts (first.parts found), Nat.le_trans first.count second.count,
    fun found lasts => second.objects (first.objects found lasts) lasts,
    second.extras.trans first.extras,
    fun name lasts => (second.named name lasts).trans (first.named name lasts)⟩

/-- Nothing can have been given to an object that is not there yet. -/
theorem Orderly.lookup_extras (orderly : workspace.Orderly) (field : String) :
    workspace.extras.lookup (workspace.nextIdentity, field) = none := by
  refine List.lookup_eq_none_iff.mpr fun extra member => bne_iff_ne.mpr fun same => ?_
  have older := orderly.extras extra member
  rw [← same] at older
  exact Nat.lt_irrefl _ older

/-- Giving out identities without use leaves a workspace orderly. -/
theorem Orderly.of_same (orderly : workspace.Orderly)
    (next : workspace.nextIdentity ≤ after.nextIdentity)
    (objects : after.objects = workspace.objects) (parts : after.parts = workspace.parts)
    (extras : after.extras = workspace.extras) : after.Orderly where
  room := Nat.le_trans orderly.room next
  objects object member := Nat.lt_of_lt_of_le (orderly.objects object (objects ▸ member)) next
  parts part member := Nat.lt_of_lt_of_le (orderly.parts part (parts ▸ member)) next
  extras extra member := Nat.lt_of_lt_of_le (orderly.extras extra (extras ▸ member)) next

/-- Identities may be given out without use, and the console may change. -/
theorem leadsTo_of_same (next : workspace.nextIdentity ≤ after.nextIdentity)
    (objects : after.objects = workspace.objects) (parts : after.parts = workspace.parts)
    (extras : after.extras = workspace.extras) (names : after.names = workspace.names) :
    workspace.LeadsTo lasting after := by
  intro orderly
  refine ⟨orderly.of_same next objects parts extras, ?_, Nat.le_of_eq (by rw [parts]), ?_, extras,
    fun _ _ => by rw [names]⟩
  · exact fun found => parts ▸ found
  · exact fun found _ => objects ▸ found

theorem leadsTo_onConsole (operation : ConsoleM α) :
    workspace.LeadsTo lasting (workspace.answer (onConsole operation)).2 := by
  rw [answer_onConsole]
  exact leadsTo_of_same (Nat.le_refl _) rfl rfl rfl rfl

theorem leadsTo_bind {operation : WorkspaceM α} {next : α → WorkspaceM β}
    (here : workspace.LeadsTo lasting (workspace.answer operation).2)
    (later : ∀ a between, workspace.answer operation = (.ok a, between) →
      between.LeadsTo lasting (between.answer (next a)).2) :
    workspace.LeadsTo lasting (workspace.answer (operation >>= next)).2 := by
  cases run : workspace.answer operation with
  | mk result between =>
    rw [run] at here
    cases result with
    | ok a =>
      rw [answer_bind_of_ok run]
      exact here.trans (later a between run)
    | error fault =>
      rw [answer_bind_of_error run]
      exact here

/-! ## New objects -/

theorem lookup_cons_of_lt {γ : Type} {entries : List (Nat × γ)} {next key : Nat} {found new : γ}
    (below : ∀ entry ∈ entries, entry.1 < next) (isFound : entries.lookup key = some found) :
    ((next, new) :: entries).lookup key = some found := by
  obtain ⟨front, back, rfl, -⟩ := List.lookup_eq_some_iff.mp isFound
  have before : key < next := below (key, found) (by simp)
  have other : (key == next) = false := beq_false_of_ne (Nat.ne_of_lt before)
  rw [List.lookup_cons, other, isFound]

/-- A new object has the next identity, and so has the part that it stands for, if it stands for
one. -/
theorem leadsTo_of_new {content : Value} {bound : String × Value} (other : ¬ lasting bound.1)
    (next : workspace.nextIdentity < after.nextIdentity)
    (objects : after.objects = (workspace.nextIdentity, content) :: workspace.objects)
    (parts : after.parts = workspace.parts
      ∨ ∃ part, after.parts = (workspace.nextIdentity, part) :: workspace.parts)
    (extras : after.extras = workspace.extras) (names : after.names = bound :: workspace.names) :
    workspace.LeadsTo lasting after := by
  intro orderly
  have room : firstIdentity ≤ after.nextIdentity :=
    Nat.le_trans orderly.room (Nat.le_of_lt next)
  have older : ∀ object ∈ workspace.objects, object.1 < after.nextIdentity :=
    fun object member => Nat.lt_trans (orderly.objects object member) next
  have olderParts : ∀ part ∈ workspace.parts, part.1 < after.nextIdentity :=
    fun part member => Nat.lt_trans (orderly.parts part member) next
  have named : ∀ name, lasting name → after.names.lookup name = workspace.names.lookup name := by
    obtain ⟨there, held⟩ := bound
    intro name lasts
    have differs : (name == there) = false :=
      beq_false_of_ne fun same => other (same ▸ lasts)
    rw [names, List.lookup_cons, differs]
  have olderExtras : ∀ extra ∈ after.extras, extra.1.1 < after.nextIdentity :=
    fun extra member => Nat.lt_trans (orderly.extras extra (extras ▸ member)) next
  have newest : ∀ object ∈ after.objects, object.1 < after.nextIdentity := by
    rw [objects]
    exact List.forall_mem_cons.mpr ⟨next, older⟩
  have keepsObjects : ∀ {identity held}, workspace.objects.lookup identity = some held →
      ¬ held.CanGrow → after.objects.lookup identity = some held := by
    intro identity held found _
    rw [objects, lookup_cons_of_lt orderly.objects found]
  -- A list brings no part with it, a filter, a writer or a sink does.
  obtain same | ⟨new, more⟩ := parts
  · refine ⟨⟨room, newest, same ▸ olderParts, olderExtras⟩, ?_, Nat.le_of_eq (by rw [same]),
      keepsObjects, extras, named⟩
    intro serial part found
    rw [same, found]
  · refine ⟨⟨room, newest, ?_, olderExtras⟩, ?_, ?_, keepsObjects, extras, named⟩
    · rw [more]
      exact List.forall_mem_cons.mpr ⟨next, olderParts⟩
    · intro serial part found
      rw [more, lookup_cons_of_lt orderly.parts found]
    · rw [more]
      exact Nat.le_succ _

/-- A list that nothing else holds is a new object. -/
theorem answer_bindValue_list (bound : String) (items : List Value) :
    workspace.answer (bindValue bound (.list none items)) =
      let numbered := (Value.identifyAll items).run (workspace.nextIdentity + 1)
      (.ok (), { workspace with
        nextIdentity := numbered.2
        objects := (workspace.nextIdentity, .list (some workspace.nextIdentity) numbered.1)
          :: workspace.objects
        names := (bound, .reference workspace.nextIdentity (Value.builtinClass "list"))
          :: workspace.names }) := rfl

theorem answer_bindPart (bound : String) (className : ClassName) (part : Part) :
    workspace.answer (bindPart bound className part) =
      let shown := objectText className
      (.ok (), { workspace with
        nextIdentity := workspace.nextIdentity + 1
        objects := (workspace.nextIdentity,
          .object (.ordinary workspace.nextIdentity className shown (.ok shown)))
            :: workspace.objects
        names := (bound, .reference workspace.nextIdentity className) :: workspace.names
        parts := (workspace.nextIdentity, part) :: workspace.parts }) := rfl

theorem leadsTo_bindValue_list {bound : String} (other : ¬ lasting bound) (items : List Value) :
    workspace.LeadsTo lasting (workspace.answer (bindValue bound (.list none items))).2 := by
  rw [answer_bindValue_list]
  exact leadsTo_of_new other (Value.grows_identifyAll items (workspace.nextIdentity + 1)) rfl
    (.inl rfl) rfl rfl

theorem leadsTo_bindPart {bound : String} (other : ¬ lasting bound) (className : ClassName)
    (part : Part) :
    workspace.LeadsTo lasting (workspace.answer (bindPart bound className part)).2 := by
  rw [answer_bindPart]
  exact leadsTo_of_new other (Nat.lt_succ_self _) rfl (.inr ⟨_, rfl⟩) rfl rfl

/-! ## Reading -/

/-- An operation that only looks at the workspace. -/
def Reads (operation : WorkspaceM α) : Prop :=
  ∀ workspace : Workspace, (workspace.answer operation).2 = workspace

theorem reads_pure (a : α) : Reads (pure a) := fun _ => rfl

theorem reads_get : Reads get := fun _ => rfl

theorem reads_throw (fault : Fault) : Reads (throw fault : WorkspaceM α) := fun _ => rfl

theorem reads_ofExcept (outcome : Except Fault α) :
    Reads (MonadExcept.ofExcept outcome : WorkspaceM α) := fun _ => by rw [answer_ofExcept]

theorem reads_bind {operation : WorkspaceM α} {next : α → WorkspaceM β} (here : Reads operation)
    (later : ∀ a, Reads (next a)) : Reads (operation >>= next) := by
  intro workspace
  cases run : workspace.answer operation with
  | mk result between =>
    have same : between = workspace := by rw [← here workspace, run]
    subst same
    cases result with
    | ok a => rw [answer_bind_of_ok run, later a]
    | error fault => rw [answer_bind_of_error run]

theorem Reads.leadsTo {operation : WorkspaceM α} (reads : Reads operation) :
    workspace.LeadsTo lasting (workspace.answer operation).2 := by
  rw [reads workspace]
  exact .refl workspace

theorem Reads.eq {operation : WorkspaceM α} (reads : Reads operation) {result : Except Fault α}
    (run : workspace.answer operation = (result, after)) : after = workspace := by
  rw [← reads workspace, run]

theorem reads_valueOf (bound : String) : Reads (valueOf bound) :=
  reads_bind reads_get fun workspace => by
    split
    · exact reads_pure _
    · exact reads_throw _

theorem reads_checkMethod (bound method : String) : Reads (checkMethod bound method) :=
  reads_bind (reads_valueOf bound) fun value => reads_bind reads_get fun workspace => by
    split
    · split
      · exact reads_pure _
      · exact reads_throw _
    · exact reads_ofExcept _

theorem reads_receiver (bound method : String) : Reads (receiver bound method) :=
  reads_bind (reads_checkMethod bound method) fun _ => reads_bind (reads_valueOf bound) fun value =>
    reads_bind (reads_ofExcept _) fun _ => reads_pure value

theorem eq_look_of_valueOf {bound : String} {value : Value}
    (found : workspace.answer (valueOf bound) = (.ok value, after)) :
    ∃ kept, workspace.names.lookup bound = some kept ∧ value = workspace.look kept := by
  rw [valueOf, answer_bind_of_ok answer_get] at found
  cases named : workspace.names.lookup bound with
  | none => simp [named] at found
  | some kept =>
    simp only [named, answer_pure, Prod.mk.injEq, Except.ok.injEq] at found
    exact ⟨kept, rfl, found.1.symm⟩

/-- What is received is what a name stands for. -/
theorem eq_look_of_receiver {bound method : String} {value : Value}
    (receives : workspace.answer (receiver bound method) = (.ok value, after)) :
    ∃ kept, workspace.names.lookup bound = some kept ∧ value = workspace.look kept := by
  obtain ⟨_, between, checks, rest⟩ := exists_of_answer_bind receives
  obtain rfl := (reads_checkMethod bound method).eq checks
  obtain ⟨named, between, values, rest⟩ := exists_of_answer_bind rest
  obtain ⟨_, between, -, last⟩ := exists_of_answer_bind rest
  obtain ⟨rfl, -⟩ : value = named ∧ after = between := by simpa [eq_comm] using last
  exact eq_look_of_valueOf values

theorem reads_filterOf (bound method : String) : Reads (filterOf bound method) :=
  reads_bind (reads_receiver bound method) fun value => reads_bind reads_get fun workspace => by
    split
    · exact reads_pure _
    · exact reads_throw _

theorem reads_copyOfItems (bound : String) : Reads (copyOfItems bound) :=
  reads_bind (reads_receiver bound "as_list") fun owner => by
    split
    · exact reads_pure _
    · exact reads_throw _

/-! ## Changing objects -/

theorem refuseCall_ne_ok {γ : Type} {value : Value} {method : String} {c : γ} :
    (value.refuseCall method : Except Fault γ) ≠ .ok c := by
  intro calls
  obtain ⟨-, -, refused⟩ := Outcome.bind_eq_ok_iff.mp calls
  cases refused

theorem canGrow_of_appended {sequence element changed : Value}
    (appends : appended sequence element = .ok changed) : sequence.opened.CanGrow := by
  obtain ⟨-, -, appends⟩ := Outcome.bind_eq_ok_iff.mp appends
  unfold Value.CanGrow
  split at appends <;> simp_all [refuseCall_ne_ok]

theorem canGrow_of_extended {sequence value : Value} {changed : Value × Option Fault}
    (extends' : extended sequence value = .ok changed) : sequence.opened.CanGrow := by
  unfold extended at extends'
  unfold Value.CanGrow
  split at extends' <;> simp_all [refuseCall_ne_ok]

/-- An object that stands for a part holds nothing that is put in. -/
theorem refreshed_object (depth : Nat) (held : AppObject) :
    workspace.refreshed depth (.object held) = .object held := by
  cases depth <;> rfl

/-- Looking goes down at least once. -/
theorem exists_look_eq (workspace : Workspace) :
    ∃ depth, ∀ value, workspace.look value =
      let content identity := workspace.refreshed depth (workspace.objectAt identity)
      let extra identity name := workspace.refreshed depth (workspace.extraAt identity name)
      value.refresh (workspace.modeNow extra) content extra := by
  have down : workspace.depth = 999 + 3 * (workspace.objects.length + 2) + 1 := by
    rw [depth, nestingLimit]
    omega
  exact ⟨999 + 3 * (workspace.objects.length + 2), fun value => by rw [look, down, refreshed]⟩

theorem canGrow_of_refreshed {depth : Nat} {content : Value}
    (grows : (workspace.refreshed depth content).CanGrow) : content.CanGrow := by
  cases content with
  | list identity? items => trivial
  | attributeList stamp items => trivial
  | buffer kind bytes => cases depth <;> exact grows
  | mode m =>
    cases depth with
    | zero => exact grows
    | succ depth =>
      simp only [refreshed, Value.refresh, modeNow] at grows
      split at grows <;> exact grows
  | _ => cases depth <;> exact grows

/-- What is found to grow, by whoever looks at it, is kept as something that can. -/
theorem canGrow_of_look {kept held : Value} {identity : Nat} {className : ClassName}
    {content : Unit → Value} {extra : String → Value}
    (looks : workspace.look kept = .shared identity className content extra)
    (grows : (content ()).CanGrow) (found : workspace.objects.lookup identity = some held) :
    held.CanGrow := by
  obtain ⟨depth, look_eq⟩ := workspace.exists_look_eq
  rw [look_eq] at looks
  cases kept with
  | shared there className _ _ =>
    cases looks
    have seen : workspace.objectAt identity = held := by rw [objectAt, found, Option.getD_some]
    simp only [seen] at grows
    exact canGrow_of_refreshed grows
  | mode m =>
    -- A delivery mode that was given extra fields is shared too, and cannot grow.
    rw [Value.refresh, modeNow] at looks
    split at looks <;> cases looks
    exact absurd grows id
  | _ => simp [Value.refresh] at looks

theorem answer_setObject (identity : Nat) (content : Value) :
    workspace.answer (setObject identity content) =
      let numbered := content.identify.run workspace.nextIdentity
      (.ok (), { workspace with
        nextIdentity := numbered.2
        objects := workspace.objects.map fun object =>
          if object.1 = identity then (identity, numbered.1) else object }) := rfl

theorem lookup_map_of_ne {γ : Type} {entries : List (Nat × γ)} {changed key : Nat} {new : γ}
    (other : key ≠ changed) :
    (entries.map fun entry => if entry.1 = changed then (changed, new) else entry).lookup key
      = entries.lookup key := by
  induction entries with
  | nil => rfl
  | cons entry rest ih =>
    obtain ⟨there, content⟩ := entry
    rw [List.map_cons]
    by_cases same : there = changed
    -- An entry that is replaced stands under the same key, so no other key finds it.
    · have differs : (key == changed) = false := beq_false_of_ne other
      simp only [same, if_true, List.lookup_cons, differs, ih]
    · simp only [same, if_false, List.lookup_cons, ih]

theorem leadsTo_setObject {identity : Nat}
    (grown : ∀ held, workspace.objects.lookup identity = some held → held.CanGrow)
    (content : Value) :
    workspace.LeadsTo lasting (workspace.answer (setObject identity content)).2 := by
  rw [answer_setObject]
  intro orderly
  have grows := content.grows_identify workspace.nextIdentity
  refine ⟨⟨Nat.le_trans orderly.room grows, ?_, ?_, ?_⟩, fun found => found, Nat.le_refl _, ?_, rfl,
    fun _ _ => rfl⟩
  · intro object member
    obtain ⟨before, there, rfl⟩ := List.mem_map.mp member
    have below := Nat.lt_of_lt_of_le (orderly.objects before there) grows
    split
    next same => exact same ▸ below
    next => exact below
  · exact fun part member => Nat.lt_of_lt_of_le (orderly.parts part member) grows
  · exact fun extra member => Nat.lt_of_lt_of_le (orderly.extras extra member) grows
  · intro other held found lasts
    have differs : other ≠ identity := fun same => lasts (grown held (same ▸ found))
    rw [lookup_map_of_ne differs, found]

/-- A sequence that grows changes in its place, if it has one. -/
theorem leadsTo_replace {kept changed : Value} (grows : (workspace.look kept).opened.CanGrow) :
    workspace.LeadsTo lasting (workspace.answer (replace (workspace.look kept) changed)).2 := by
  cases looks : workspace.look kept with
  | shared identity className content extra =>
    rw [looks] at grows
    exact leadsTo_setObject (fun held => canGrow_of_look looks grows) changed
  | _ => exact .refl workspace

/-! ## Uses -/

theorem leadsTo_query (asked : String) :
    workspace.LeadsTo lasting (workspace.answer (query asked)).2 :=
  leadsTo_bind (reads_filterOf asked "query").leadsTo fun filter _ _ =>
    leadsTo_onConsole filter.query

theorem leadsTo_queryInto {bound : String} (other : ¬ lasting bound) (asked : String) :
    workspace.LeadsTo lasting (workspace.answer (queryInto asked bound)).2 :=
  leadsTo_bind (leadsTo_query asked) fun results _ _ =>
    leadsTo_bind (leadsTo_bindValue_list other results) fun _ _ _ => (reads_pure results).leadsTo

theorem leadsTo_append (grown : String) (element : Value) :
    workspace.LeadsTo lasting (workspace.answer (append grown element)).2 := by
  refine leadsTo_bind (reads_receiver grown "append").leadsTo fun owner between receives => ?_
  obtain rfl := (reads_receiver grown "append").eq receives
  obtain ⟨kept, -, rfl⟩ := eq_look_of_receiver receives
  -- Nothing is replaced unless the appending was allowed, and then the object can grow.
  refine leadsTo_bind (reads_ofExcept _).leadsTo fun changed between appends => ?_
  obtain rfl := (reads_ofExcept _).eq appends
  rw [answer_ofExcept] at appends
  have grows := canGrow_of_appended (Prod.mk.inj appends).1
  exact leadsTo_bind (leadsTo_replace grows) fun _ _ _ => (reads_copyOfItems grown).leadsTo

theorem leadsTo_extend (grown : String) (value : Value) :
    workspace.LeadsTo lasting (workspace.answer (extend grown value)).2 := by
  refine leadsTo_bind (reads_receiver grown "extend").leadsTo fun owner between receives => ?_
  obtain rfl := (reads_receiver grown "extend").eq receives
  obtain ⟨kept, -, rfl⟩ := eq_look_of_receiver receives
  refine leadsTo_bind (reads_ofExcept _).leadsTo fun changed between grew => ?_
  obtain rfl := (reads_ofExcept _).eq grew
  rw [answer_ofExcept] at grew
  have grows := canGrow_of_extended (Prod.mk.inj grew).1
  refine leadsTo_bind (leadsTo_replace grows) fun _ _ _ => ?_
  -- What was appended before a failure stays, and nothing else changes after it.
  split
  · exact (reads_throw _).leadsTo
  · exact (reads_copyOfItems grown).leadsTo

end Workspace
end BrokerMaps
