import BrokerMaps.Proofs.Value.Kept
import BrokerMaps.Proofs.Workspace.Chains

/-!
# Shared objects under names

A list or a message is kept apart, and a name refers to it. Whoever asks for the name finds the
content as it is now, and what is put in its place is kept in turn, with what was found in it as it
was kept before.
-/
namespace BrokerMaps

/-- What an attribute becomes when something in a workspace holds it. -/
def Attribute.KeptAs (given kept : Attribute Value) : Prop :=
  ∃ next, ((Value.identifyAttribute given).run next).1 = kept

namespace Workspace

variable {workspace : Workspace} {name method : String} {identity : Nat} {content value : Value}

/-! ## Looking -/

/-- Looking puts in what is found of the shared objects, one step less deep. -/
theorem exists_refreshed_succ_eq (workspace : Workspace) (depth : Nat) :
    ∃ (modeNow : DeliveryMode → Value) (extra : Nat → String → Value),
      (∀ m, (modeNow m).identify = pure (.mode m))
      ∧ ∀ value, workspace.refreshed (depth + 1) value
        = value.refresh modeNow
          (fun identity => workspace.refreshed depth (workspace.objectAt identity)) extra := by
  refine ⟨_, _, fun m => ?_, fun _ => rfl⟩
  rw [modeNow]
  split
  · cases m <;> rfl
  · rfl

/-- Down to any depth, looking at a value puts something in for what is shared, and is found to be
kept as the value is. -/
theorem exists_refreshed_eq (workspace : Workspace) (depth : Nat) :
    ∃ (modeNow : DeliveryMode → Value) (content : Nat → Value) (extra : Nat → String → Value),
      (∀ m, (modeNow m).identify = pure (.mode m))
      ∧ ∀ value, workspace.refreshed depth value = value.refresh modeNow content extra := by
  cases depth with
  | zero => exact ⟨.mode, fun _ => .unread, fun _ _ => .unread, fun _ => rfl, fun _ => rfl⟩
  | succ depth =>
    obtain ⟨modeNow, extra, modes, refreshed_eq⟩ := workspace.exists_refreshed_succ_eq depth
    exact ⟨modeNow, _, extra, modes, refreshed_eq⟩

theorem identify_refreshed (workspace : Workspace) (depth : Nat) (value : Value) :
    (workspace.refreshed depth value).identify = value.identify := by
  obtain ⟨modeNow, content, extra, modes, refreshed_eq⟩ := workspace.exists_refreshed_eq depth
  rw [refreshed_eq, Value.identify_refresh modes]

/-! ## What a name stands for -/

/-- A name stands for a shared object with a content that is kept as it is, and the object was given
no extra fields. -/
structure Stands (workspace : Workspace) (name : String) (identity : Nat) (content : Value) :
    Prop where
  room : firstIdentity ≤ identity
  below : identity < workspace.nextIdentity
  named : ∃ className, workspace.names.lookup name = some (.reference identity className)
  object : workspace.objects.lookup identity = some content
  kept : content.IsKept
  free : ∀ field, workspace.extras.lookup (identity, field) = none

/-- Looking goes down at least twice, so what a found object holds is looked at too. -/
theorem exists_answer_valueOf (room : firstIdentity ≤ identity) {className : ClassName}
    (named : workspace.names.lookup name = some (.reference identity className)) :
    ∃ depth, workspace.answer (valueOf name)
      = (.ok (.shared identity className
          (fun _ => workspace.refreshed (depth + 1) (workspace.objectAt identity))
          (fun field => workspace.refreshed (depth + 1) (workspace.extraAt identity field))),
        workspace) := by
  have down : workspace.depth = 998 + 3 * (workspace.objects.length + 2) + 1 + 1 := by
    rw [depth, nestingLimit]
    omega
  refine ⟨998 + 3 * (workspace.objects.length + 2), ?_⟩
  rw [answer_valueOf named, look, down, refreshed, reference_of_room room, Value.refresh]

/-- Whoever asks for the name finds the content as it is now. -/
theorem Stands.exists_valueOf (stands : workspace.Stands name identity content) :
    ∃ depth className extra,
      workspace.answer (valueOf name)
        = (.ok (.shared identity className (fun _ => workspace.refreshed (depth + 1) content)
          extra), workspace)
      ∧ ∀ field, extra field = .unread := by
  obtain ⟨className, named⟩ := stands.named
  obtain ⟨depth, found⟩ := exists_answer_valueOf stands.room named
  have seen : workspace.objectAt identity = content := by rw [objectAt, stands.object]; rfl
  rw [seen] at found
  refine ⟨depth, className, _, found, fun field => ?_⟩
  have none : workspace.extraAt identity field = .unread := by
    rw [extraAt, stands.free field]
    rfl
  simp only [none]
  rfl

/-- A method that the class offers can be called, if no extra field is in its place. -/
theorem answer_receiver_of_found (found : workspace.answer (valueOf name) = (.ok value, workspace))
    (noPart : workspace.part? value = none) (offered : value.methods.contains method = true)
    (free : value.extraField? method = none) :
    workspace.answer (receiver name method) = (.ok value, workspace) := by
  have checked : workspace.answer (checkMethod name method) = (.ok (), workspace) := by
    rw [checkMethod, answer_bind_of_ok found, answer_bind_of_ok answer_get]
    simp only [noPart, answer_ofExcept, Value.checkOffers, offered, Bool.true_or, if_true]
  have callable : workspace.answer (MonadExcept.ofExcept (value.checkCallable method))
      = (.ok (), workspace) := by
    rw [answer_ofExcept, Value.checkCallable, free]
  rw [receiver, answer_bind_of_ok checked, answer_bind_of_ok found, answer_bind_of_ok callable,
    answer_pure]

/-- A method that the class does not offer is refused, if no extra field is in its place. -/
theorem answer_receiver_of_not_offered
    (found : workspace.answer (valueOf name) = (.ok value, workspace))
    (noPart : workspace.part? value = none) (lacks : value.methods.contains method = false)
    (free : value.extraField? method = none) :
    workspace.answer (receiver name method)
      = (.error (.shape (.noAttribute value.className method)), workspace) := by
  have checked : workspace.answer (checkMethod name method)
      = (.error (.shape (.noAttribute value.className method)), workspace) := by
    rw [checkMethod, answer_bind_of_ok found, answer_bind_of_ok answer_get]
    simp only [noPart, answer_ofExcept, Value.checkOffers, lacks, free, Option.isSome_none,
      Bool.or_self, Bool.false_eq_true, if_false, Value.shapeFault]
  rw [receiver, answer_bind_of_error checked]

/-! ## Changing what a name stands for -/

theorem lookup_map_self {γ : Type} {entries : List (Nat × γ)} {changed : Nat} {old new : γ}
    (found : entries.lookup changed = some old) :
    (entries.map fun entry => if entry.1 = changed then (changed, new) else entry).lookup changed
      = some new := by
  induction entries with
  | nil => cases found
  | cons entry rest ih =>
    obtain ⟨there, held⟩ := entry
    by_cases same : there = changed
    · simp only [List.map_cons, same, if_true, List.lookup_cons_self]
    · have differs : (changed == there) = false := beq_false_of_ne fun equal => same equal.symm
      rw [List.lookup_cons, differs] at found
      simp only [List.map_cons, same, if_false, List.lookup_cons, differs]
      exact ih found

/-- The object whose content is replaced has the new content. -/
theorem Stands.setObject (stands : workspace.Stands name identity content)
    (changed : Value) :
    (workspace.answer (setObject identity changed)).2.Stands name identity
      (changed.identify.run workspace.nextIdentity).1 where
  room := stands.room
  below := Nat.lt_of_lt_of_le stands.below (changed.grows_identify workspace.nextIdentity)
  named := stands.named
  object := lookup_map_self stands.object
  kept := Value.isKept_identify changed workspace.nextIdentity
  free := stands.free

theorem Stands.setObject_of_ne (stands : workspace.Stands name identity content)
    {other : Nat} (differs : identity ≠ other) (changed : Value) :
    (workspace.answer (Workspace.setObject other changed)).2.Stands name identity content where
  room := stands.room
  below := Nat.lt_of_lt_of_le stands.below (changed.grows_identify workspace.nextIdentity)
  named := stands.named
  object := (lookup_map_of_ne differs).trans stands.object
  kept := stands.kept
  free := stands.free

/-! ## New objects -/

/-- An object that can change, with an identity of its own, is kept apart under it. -/
theorem answer_bindValue_of_changeable {kept : Value} {next : Nat}
    (identifies : value.identify.run workspace.nextIdentity = (kept, next))
    (changeable : kept.isChangeable = true) (itself : kept.identity? = some identity)
    (bound : String) :
    workspace.answer (bindValue bound value) = (.ok (), { workspace with
      nextIdentity := next
      objects := (identity, kept) :: workspace.objects
      names := (bound, .reference identity kept.classOf) :: workspace.names }) := by
  have holds : workspace.answer (held value)
      = (.ok (.reference identity kept.classOf), { workspace with
        nextIdentity := next
        objects := (identity, kept) :: workspace.objects }) := by
    rw [held, answer_bind_of_ok (answer_identified value), identifies, if_pos changeable, itself]
    rfl
  rw [bindValue, answer_bind_of_ok holds]
  rfl

/-- A new object that can change stands under its name, and nothing was given to it yet. -/
theorem stands_bindValue (orderly : workspace.Orderly) {kept : Value} {next : Nat}
    (identifies : value.identify.run workspace.nextIdentity = (kept, next))
    (changeable : kept.isChangeable = true) (new : kept.identity? = some workspace.nextIdentity)
    (grows : workspace.nextIdentity < next) (name : String) :
    (workspace.answer (bindValue name value)).2.Stands name workspace.nextIdentity kept := by
  have isKept : kept.IsKept := by
    have ensured := Value.isKept_identify value workspace.nextIdentity
    rwa [identifies] at ensured
  rw [answer_bindValue_of_changeable identifies changeable new]
  exact ⟨orderly.room, grows, ⟨_, List.lookup_cons_self⟩, List.lookup_cons_self, isKept,
    orderly.lookup_extras⟩

/-- A list that is kept under another name is another object. -/
theorem Stands.exists_bindValue_list (stands : workspace.Stands name identity content)
    {bound : String} (other : name ≠ bound) (items : List Value) :
    ∃ between new className,
      workspace.answer (bindValue bound (.list none items)) = (.ok (), between)
      ∧ firstIdentity ≤ new ∧ identity ≠ new
      ∧ between.names.lookup bound = some (.reference new className)
      ∧ between.Stands name identity content := by
  have differs : (name == bound) = false := beq_false_of_ne other
  have older : (identity == workspace.nextIdentity) = false :=
    beq_false_of_ne (Nat.ne_of_lt stands.below)
  have grows := Value.grows_identifyAll items (workspace.nextIdentity + 1)
  refine ⟨_, workspace.nextIdentity, _, answer_bindValue_list bound items,
    Nat.le_trans stands.room (Nat.le_of_lt stands.below), Nat.ne_of_lt stands.below,
    List.lookup_cons_self, stands.room, Nat.lt_trans stands.below grows, ?_, ?_, stands.kept,
    stands.free⟩
  · simpa only [List.lookup_cons, differs] using stands.named
  · simpa only [List.lookup_cons, older] using stands.object

end Workspace
end BrokerMaps
