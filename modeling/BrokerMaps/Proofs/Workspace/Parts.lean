import BrokerMaps.Proofs.Console.Batches
import BrokerMaps.Proofs.Workspace.Lasting

/-!
# What stands for a part

A writer, a sink or a filter is held by a reference to the object that stands for it. As long as no
extra field stands in the way, whoever looks at the reference finds the part and can call it, and
whoever is given what was found holds the same reference.

## Main results

* `Denotes.keeps`: a workspace that keeps what lasts has the part under the same reference.
* `exists_answer_bindPart`: a new part stands under its name.
* `exists_answer_addFlattening`: a flattening filter is built whatever it is given, provided that
  what it is given as a sink counts as true or false.
-/
namespace BrokerMaps

/-- The methods that a part is called by while it is used. -/
def Part.calledMethods : Part → List String
  | .writer _ => [writerMethod]
  | .sink _ => [sinkMethod]
  | .filter _ => Filter.stepMethods

/-- A value as something in a workspace holds it: what had no identity was given one, and what is
shared is referred to. -/
def Value.KeptAs (given kept : Value) : Prop := ∃ next, (given.identify.run next).1 = kept

structure Settings.KeptAs (given kept : Settings) : Prop where
  headerPrefix : given.headerPrefix.KeptAs kept.headerPrefix
  customPrefix : given.customPrefix.KeptAs kept.customPrefix
  bodyPrefix : given.bodyPrefix.KeptAs kept.bodyPrefix
  chunkSize : given.chunkSize.KeptAs kept.chunkSize
  rendering : kept.rendering = given.rendering

namespace Workspace

/-- A value stands for a part, with an object that counts as true, and no extra field is in the way
of its methods. -/
def Denotes (workspace : Workspace) (value : Value) (part : Part) : Prop :=
  ∃ identity className held, firstIdentity ≤ identity ∧ value = .reference identity className
    ∧ workspace.objects.lookup identity = some (.object held) ∧ held.truth = .ok true
    ∧ workspace.parts.lookup held.serial = some part
    ∧ ∀ method ∈ part.calledMethods, workspace.extras.lookup (identity, method) = none

variable {workspace before after : Workspace} {lasting : String → Prop} {name method : String}
  {value : Value} {part : Part}

theorem Denotes.keeps (denotes : before.Denotes value part) (keeps : before.Keeps lasting after) :
    after.Denotes value part := by
  obtain ⟨identity, className, held, room, isReference, object, truth, known, free⟩ := denotes
  exact ⟨identity, className, held, room, isReference, keeps.objects object id, truth,
    keeps.parts known, keeps.extras ▸ free⟩

/-! ## Looking -/

theorem reference_of_room {identity : Nat} (room : firstIdentity ≤ identity)
    (className : ClassName) :
    Value.reference identity className
      = .shared identity className (fun _ => .unread) (fun _ => .unread) := by
  have noMode : DeliveryMode.ofNat? identity = none := by
    refine List.find?_eq_none.mpr fun mode _ => ?_
    have above : mode.toNat < identity := Nat.lt_of_lt_of_le (by cases mode <;> decide) room
    simpa using Nat.ne_of_lt above
  rw [Value.reference, noMode]

/-- What is found in the place of a part: the object that stands for it, which counts as true, with
no field in the way of its methods. -/
structure Finds (workspace : Workspace) (found : Value) (part : Part) : Prop where
  isPart : workspace.part? found = some part
  notNull : found.isNull = false
  truth : found.truth = .ok true
  free : ∀ method ∈ part.calledMethods, found.extraField? method = none

/-- Whoever looks at a value that stands for a part finds it. -/
theorem Denotes.finds (denotes : workspace.Denotes value part) :
    workspace.Finds (workspace.look value) part := by
  obtain ⟨identity, className, held, room, rfl, object, truth, known, free⟩ := denotes
  obtain ⟨depth, look_eq⟩ := workspace.exists_look_eq
  have seen : workspace.objectAt identity = .object held := by rw [objectAt, object]; rfl
  rw [look_eq, reference_of_room room, Value.refresh]
  refine ⟨?_, rfl, ?_, fun method called => ?_⟩
  · simp only [part?, Value.opened, seen, refreshed_object, known]
  · simp only [Value.truth, Value.opened, seen, refreshed_object, truth]
  · have none : workspace.refreshed depth (workspace.extraAt identity method) = .unread := by
      rw [extraAt, free method called]
      cases depth <;> rfl
    simp only [Value.extraField?, none]

theorem Finds.checkCallable (finds : workspace.Finds value part)
    (called : method ∈ part.calledMethods) : value.checkCallable method = .ok () := by
  rw [Value.checkCallable, finds.free method called]

/-- Whoever is given what stands for a part holds a reference to it. -/
theorem Denotes.identify_look (denotes : workspace.Denotes value part) (next : Nat) :
    (workspace.look value).identify.run next = (value, next) := by
  obtain ⟨identity, className, held, room, rfl, -⟩ := denotes
  obtain ⟨depth, look_eq⟩ := workspace.exists_look_eq
  rw [look_eq, reference_of_room room, Value.refresh, Value.identify, reference_of_room room]
  rfl

/-! ## Calling -/

theorem answer_valueOf (named : workspace.names.lookup name = some value) :
    workspace.answer (valueOf name) = (.ok (workspace.look value), workspace) := by
  rw [valueOf, answer_bind_of_ok answer_get, named]
  rfl

/-- What stands for a part can be asked for a method of its own. -/
theorem Denotes.answer_receiver (denotes : workspace.Denotes value part)
    (named : workspace.names.lookup name = some value) (called : method ∈ part.calledMethods)
    (offered : part.offers method = true) :
    workspace.answer (receiver name method) = (.ok (workspace.look value), workspace) := by
  have finds := denotes.finds
  have found := answer_valueOf named
  have checked : workspace.answer (checkMethod name method) = (.ok (), workspace) := by
    rw [checkMethod, answer_bind_of_ok found, answer_bind_of_ok answer_get]
    simp only [finds.isPart, offered, Bool.true_or, if_true]
    rfl
  have callable : workspace.answer (MonadExcept.ofExcept
      ((workspace.look value).checkCallable method)) = (.ok (), workspace) := by
    rw [finds.checkCallable called]
    rfl
  rw [receiver, answer_bind_of_ok checked, answer_bind_of_ok found, answer_bind_of_ok callable]
  rfl

theorem Denotes.writerEndpoint {number : Nat}
    (denotes : workspace.Denotes value (.writer number)) :
    workspace.writerEndpoint (workspace.look value) = .ok number := by
  have finds := denotes.finds
  rw [Workspace.writerEndpoint, endpoint, finds.free Part.writerMethod (.head _), finds.isPart]
  rfl

theorem Denotes.sinkEndpoint {number : Nat} (denotes : workspace.Denotes value (.sink number)) :
    workspace.sinkEndpoint (workspace.look value) = .ok number := by
  have finds := denotes.finds
  rw [Workspace.sinkEndpoint, endpoint, finds.free Part.sinkMethod (.head _), finds.isPart]
  rfl

/-! ## New parts -/

/-- A new part stands under a name, and nothing else changes but that identities are given out. -/
structure Adds (before : Workspace) (name : String) (part : Part) (after : Workspace) : Prop where
  orderly : after.Orderly
  keeps : before.Keeps (· ≠ name) after
  count : after.parts.length = before.parts.length + 1
  named : ∃ itself, after.names.lookup name = some itself ∧ after.Denotes itself part
  installed : after.installed? = before.installed?
  console : after.console = before.console

theorem exists_answer_bindPart (orderly : workspace.Orderly) (name : String)
    (className : ClassName) (part : Part) :
    ∃ built, workspace.answer (bindPart name className part) = (.ok (), built)
      ∧ workspace.Adds name part built := by
  have leads : workspace.LeadsTo (· ≠ name)
      (workspace.answer (bindPart name className part)).2 :=
    leadsTo_bindPart (fun differs => differs rfl) className part
  obtain ⟨still, keeps⟩ := leads orderly
  exact ⟨_, rfl, still, keeps, rfl, ⟨.reference workspace.nextIdentity className,
    List.lookup_cons_self, _, _, _, orderly.room, rfl, List.lookup_cons_self, rfl,
    List.lookup_cons_self, fun method _ => orderly.lookup_extras method⟩, rfl, rfl⟩

theorem Adds.of_next {next : Nat}
    (adds : ({ workspace with nextIdentity := next }).Adds name part after) :
    workspace.Adds name part after :=
  ⟨adds.orderly, ⟨adds.keeps.parts, adds.keeps.count, adds.keeps.objects, adds.keeps.extras,
    adds.keeps.named⟩, adds.count, adds.named, adds.installed, adds.console⟩

theorem exists_answer_identified (workspace : Workspace) (given : Value) :
    ∃ kept next, given.KeptAs kept ∧ workspace.nextIdentity ≤ next
      ∧ workspace.answer (identified given)
        = (.ok kept, { workspace with nextIdentity := next }) :=
  ⟨_, _, ⟨workspace.nextIdentity, rfl⟩, given.grows_identify workspace.nextIdentity,
    answer_identified given⟩

/-- What stands for a part is kept as it is. -/
theorem Denotes.eq_of_keptAs (denotes : workspace.Denotes value part) {kept : Value}
    (isKept : (workspace.look value).KeptAs kept) : kept = value := by
  obtain ⟨next, rfl⟩ := isKept
  rw [denotes.identify_look]

/-- A flattening filter holds what it was given, and a sink only if that counts as true. -/
theorem exists_answer_addFlattening (orderly : workspace.Orderly) (name : String) (next : Value)
    (settings : Settings) (writer : Value) {sink : Value} {counts : Bool}
    (truth : sink.truth = .ok counts) :
    ∃ built next' settings' writer' sink',
      workspace.answer (addFlattening name next settings writer sink) = (.ok (), built)
      ∧ next.KeptAs next' ∧ settings.KeptAs settings' ∧ writer.KeptAs writer' ∧ sink.KeptAs sink'
      ∧ workspace.Adds name (.filter (.flattening next' settings' writer'
        (if counts then some sink' else none))) built := by
  have counted : workspace.answer (MonadExcept.ofExcept sink.truth) = (.ok counts, workspace) := by
    rw [truth]
    rfl
  -- Each of the values is kept in turn, and may take up some identities.
  obtain ⟨header, first, headerKept, le₁, run₁⟩ :=
    exists_answer_identified workspace settings.headerPrefix
  obtain ⟨custom, second, customKept, le₂, run₂⟩ :=
    exists_answer_identified { workspace with nextIdentity := first } settings.customPrefix
  obtain ⟨body, third, bodyKept, le₃, run₃⟩ :=
    exists_answer_identified { workspace with nextIdentity := second } settings.bodyPrefix
  obtain ⟨size, fourth, sizeKept, le₄, run₄⟩ :=
    exists_answer_identified { workspace with nextIdentity := third } settings.chunkSize
  obtain ⟨next', fifth, nextKept, le₅, run₅⟩ :=
    exists_answer_identified { workspace with nextIdentity := fourth } next
  obtain ⟨writer', sixth, writerKept, le₆, run₆⟩ :=
    exists_answer_identified { workspace with nextIdentity := fifth } writer
  obtain ⟨sink', last, sinkKept, le₇, run₇⟩ :=
    exists_answer_identified { workspace with nextIdentity := sixth } sink
  have grows : workspace.nextIdentity ≤ last := by
    simp only at le₂ le₃ le₄ le₅ le₆ le₇
    omega
  have numbered : ({ workspace with nextIdentity := last }).Orderly :=
    orderly.of_same grows rfl rfl rfl
  let link : Link := .flattening next' ⟨header, custom, body, size, settings.rendering⟩ writer'
    (if counts then some sink' else none)
  obtain ⟨built, built_eq, adds⟩ :=
    exists_answer_bindPart numbered name link.kind.classOf (.filter link)
  refine ⟨built, next', ⟨header, custom, body, size, settings.rendering⟩, writer', sink', ?_,
    nextKept, ⟨headerKept, customKept, bodyKept, sizeKept, rfl⟩, writerKept, sinkKept,
    adds.of_next⟩
  rw [addFlattening, answer_bind_of_ok counted, answer_bind_of_ok run₁, answer_bind_of_ok run₂,
    answer_bind_of_ok run₃, answer_bind_of_ok run₄, answer_bind_of_ok run₅,
    answer_bind_of_ok run₆, answer_bind_of_ok run₇, ← built_eq]
  rfl

end Workspace
end BrokerMaps
