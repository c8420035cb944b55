import BrokerMaps.Proofs.Flatten.StoreSections
import BrokerMaps.Proofs.Message.EntryNames
import BrokerMaps.Proofs.Workspace.MessageStores

/-!
# Uses of the stores of a message

Entries of a message are set after it was built, under names that are fit for entries and under
names that are not.

## Main result

* `entries_after_uses`: building a message is refused for an unfit name alone. After any uses of a
  message that was built, each store lists its names in the order in which they were set first, each
  with the value that it was set to last, and flattening the message lists the entries that are not
  null.

## Proof strategy

One use sets what it brings in and leaves all else as it was (`HoldsStores.entryUse`), so any number
of uses set what they bring in one after the other.
-/
namespace BrokerMaps

/-- Something given is found as it is kept, now that a workspace holds it. -/
def Value.FoundAs (given found : Value) : Prop := ∃ kept, given.KeptAs kept ∧ found.FoundOf kept

/-- A simple value is found as it was given. -/
theorem Value.FoundAs.eq_of_isSimple {given found : Value} (foundAs : given.FoundAs found)
    (simple : given.IsSimple) : found = given := by
  obtain ⟨kept, ⟨next, rfl⟩, isFound⟩ := foundAs
  rw [Value.FoundOf, identify_of_isSimple simple] at isFound
  have same : (found.identify.run 0).1 = given := by
    rw [isFound]
    rfl
  exact (eq_of_identify_isSimple (by rwa [same])).symm.trans same

namespace Workspace

variable {workspace : Workspace} {name : String} {owner : Nat} {stamp : Stamp}
  {content : Message Value} {role : EntryRole} {store message key value : Value}
  {place? : EntryRole → Option Nat} {entries given : EntryRole → List (String × Value)}

/-! ## Uses of stores -/

/-- An attempt to set an entry in a store of a message. -/
structure EntryUse where
  role : EntryRole
  key : Value
  value : Value

namespace EntryUse

def run (name : String) (use : EntryUse) : WorkspaceM Unit :=
  setEntry use.role name use.key use.value

/-- The entry that a use brings into the store of a role. -/
def accepted? (role : EntryRole) (use : EntryUse) : Option (String × Value) :=
  match use.key with
  | .text s => if use.role = role ∧ s ≠ "" then some (s, use.value) else none
  | _ => none

theorem accepted?_of_not_fits {use : EntryUse} (unfit : ¬ use.key.FitsEntry) (role : EntryRole) :
    use.accepted? role = none := by
  unfold accepted?
  split
  next s isText => exact if_neg fun fits => unfit ⟨s, isText, fits.2⟩
  next => rfl

theorem accepted?_of_ne {use : EntryUse} (other : use.role ≠ role) : use.accepted? role = none := by
  unfold accepted?
  split
  next s isText => exact if_neg fun fits => other fits.1
  next => rfl

theorem accepted?_self {use : EntryUse} {s : String} (isText : use.key = .text s)
    (notEmpty : s ≠ "") : use.accepted? use.role = some (s, use.value) := by
  rw [accepted?, isText]
  exact if_pos ⟨rfl, notEmpty⟩

theorem ne_empty_of_accepted (role : EntryRole) (uses : List EntryUse) :
    ∀ entry ∈ uses.filterMap (·.accepted? role), entry.1 ≠ "" := by
  intro entry member
  obtain ⟨use, -, accepts⟩ := List.mem_filterMap.mp member
  unfold accepted? at accepts
  split at accepts
  next s isText =>
    split at accepts
    next fits =>
      cases accepts
      exact fits.2
    next => cases accepts
  next => cases accepts

end EntryUse

/-- The workspace after uses of the stores of a message, whether they succeeded or not. -/
def afterEntryUses (workspace : Workspace) (name : String) (uses : List EntryUse) : Workspace :=
  uses.foldl (fun now use => (now.answer (use.run name)).2) workspace

theorem HoldsStores.setEntry_unchanged
    (holds : workspace.HoldsStores name owner stamp content place? entries) {use : EntryUse}
    (refused : ¬ use.key.FitsEntry ∨ content.store? use.role = none) :
    (workspace.answer (use.run name)).2 = workspace := by
  obtain ⟨found, seen, message, foundOf, -, finds⟩ := holds.findsMessage
  cases hasFound : found.store? use.role with
  | none =>
    obtain ⟨fault, fails⟩ := finds.answer_setEntry_of_lacking hasFound use.key use.value
    rw [EntryUse.run, fails]
  | some store =>
    obtain ⟨storeKept, has⟩ := exists_store_of_kind foundOf.kind hasFound
    have unfit : ¬ use.key.FitsEntry := by
      refine refused.resolve_right fun none => ?_
      rw [has] at none
      cases none
    have fails := finds.answer_setEntry_of_refused hasFound
      (EntryRole.checkName_of_not_fits unfit use.role) use.value
    rw [EntryUse.run, fails]

/-- One use sets the entry that it brings in, and leaves all else as it was. -/
theorem HoldsStores.entryUse
    (holds : workspace.HoldsStores name owner stamp content place? entries)
    (keeps : ∀ {role store}, content.store? role = some store →
      Table.Matched Value.KeptAs (given role) (entries role)) (use : EntryUse) :
    ∃ changed entriesAfter, changed.kind = content.kind
      ∧ (∀ {role store}, changed.store? role = some store → Table.Matched Value.KeptAs
        (Table.setAllNamed (given role) (use.accepted? role).toList) (entriesAfter role))
      ∧ (workspace.answer (use.run name)).2.HoldsStores name owner stamp changed place?
        entriesAfter := by
  -- A use is refused for its name, or because the message has no store for it.
  by_cases refused : ¬ use.key.FitsEntry ∨ content.store? use.role = none
  · rw [holds.setEntry_unchanged refused]
    refine ⟨content, entries, rfl, fun {role store} has => ?_, holds⟩
    have ignored : use.accepted? role = none := by
      rcases refused with unfit | lacks
      · exact EntryUse.accepted?_of_not_fits unfit role
      · refine EntryUse.accepted?_of_ne fun same => ?_
        rw [same, has] at lacks
        cases lacks
    rw [ignored]
    exact keeps has
  · obtain ⟨fits, has⟩ := not_or.mp refused
    obtain ⟨s, isText, notEmpty⟩ := not_not.mp fits
    obtain ⟨store, has⟩ := Option.ne_none_iff_exists'.mp has
    obtain ⟨after, changed, valueKept, sets, keptAs, kinds, holdsAfter⟩ :=
      holds.answer_setEntry has notEmpty use.value
    rw [EntryUse.run, isText, sets]
    refine ⟨changed, _, kinds, fun {role store} hasAfter => ?_, holdsAfter⟩
    obtain ⟨before, hasBefore⟩ := exists_store_of_kind kinds hasAfter
    by_cases same : role = use.role
    · subst same
      rw [EntryUse.accepted?_self isText notEmpty, Function.update_self]
      exact (keeps hasBefore).setNamed s keptAs
    · rw [EntryUse.accepted?_of_ne (Ne.symm same), Function.update_of_ne same]
      exact keeps hasBefore

theorem HoldsStores.afterEntryUses
    (holds : workspace.HoldsStores name owner stamp content place? entries)
    (keeps : ∀ {role store}, content.store? role = some store →
      Table.Matched Value.KeptAs (given role) (entries role)) (uses : List EntryUse) :
    ∃ changed entriesAfter, changed.kind = content.kind
      ∧ (∀ {role store}, changed.store? role = some store → Table.Matched Value.KeptAs
        (Table.setAllNamed (given role) (uses.filterMap (·.accepted? role))) (entriesAfter role))
      ∧ (workspace.afterEntryUses name uses).HoldsStores name owner stamp changed place?
        entriesAfter := by
  induction uses generalizing workspace content entries given with
  | nil => exact ⟨content, entries, rfl, keeps, holds⟩
  | cons use rest ih =>
    obtain ⟨between, entriesBetween, kinds, keepsBetween, holdsBetween⟩ :=
      holds.entryUse keeps use
    obtain ⟨changed, entriesAfter, kindsAfter, keepsAfter, holdsAfter⟩ :=
      ih holdsBetween keepsBetween
    refine ⟨changed, entriesAfter, kindsAfter.trans kinds, fun {role store} has => ?_, holdsAfter⟩
    have split : (use :: rest).filterMap (·.accepted? role)
        = (use.accepted? role).toList ++ rest.filterMap (·.accepted? role) := by
      rw [List.filterMap_cons]
      cases use.accepted? role <;> rfl
    rw [split, Table.setAllNamed_append]
    exact keepsAfter has

/-! ## Every look at the stores -/

/-- What the methods of a message show of the store of a role. -/
structure ShowsEntries (workspace : Workspace) (name : String) (role : EntryRole)
    (current : List (String × Value)) : Prop where
  listed : workspace.answer (entryNames role name)
    = (.ok (current.map fun entry => .text entry.1), workspace)
  named : ∀ entry ∈ current, entry.1 ≠ ""
  distinct : (current.map (·.1)).Nodup
  read : ∀ s, workspace.answer (getEntry role name (.text s))
    = (.ok ((current.lookup s).getD .null), workspace)
  readOther : ∀ key, key.IsNoText → workspace.answer (getEntry role name key)
    = (key.requireDigest.map fun _ => .null, workspace)
  sets : ∀ key value, key.FitsEntry → ∃ after,
    workspace.answer (setEntry role name key value) = (.ok (), after)
  refuses : ∀ key value, ¬ key.FitsEntry → ∃ fault,
    workspace.answer (setEntry role name key value) = (.error fault, workspace)
      ∧ ∀ shown, key.quoted = .ok shown → fault = .entryName role shown

/-- The names of entries are in the order in which they were set first, and each has the value that
it was set to last. -/
structure FollowsHistory (history current : List (String × Value)) : Prop where
  ordered : current.map (·.1) = (history.map (·.1)).eraseDups
  last : ∀ s, Option.Rel Value.FoundAs (history.reverse.lookup s) (current.lookup s)

/-- Under any accepted settings with prefixes none of which begins with another, a message is
flattened to a map exactly when its header, its properties and its payload can be listed, and then
the map lists these. Entries that are null are left out. -/
def FlattensEntries (kind : MessageKind) (message : Value)
    (current : EntryRole → List (String × Value)) : Prop :=
  ∀ draft settings header custom body map, Settings.check draft = .ok settings →
    settings.HasTexts header custom body → [header, custom, body].Pairwise Incomparable →
    ((settings.flattener.report message).outcome = .ok (some map) ↔
      ∃ first own last, map = Table.ofNamed (first ++ own ++ last)
        ∧ Flatten.headerContributions settings message = .ok (Table.ofNamed first)
        ∧ Plan.ListsEntries custom (current .property) own
        ∧ if kind = .map then Plan.ListsEntries body (current .mapField) last
          else Flatten.payloadContributions settings kind message = .ok (Table.ofNamed last))

theorem FollowsHistory.exists_lookup {history current : List (String × Value)} {s : String}
    {given : Value} (follows : FollowsHistory history current)
    (isLast : history.reverse.lookup s = some given) :
    ∃ value, current.lookup s = some value ∧ given.FoundAs value := by
  have related := follows.last s
  rw [isLast] at related
  cases isCurrent : current.lookup s with
  | none =>
    rw [isCurrent] at related
    cases related
  | some value =>
    rw [isCurrent] at related
    cases related with
    | some foundAs => exact ⟨value, rfl, foundAs⟩

theorem followsHistory_of_matched {history current : List (String × Value)}
    (foundAs : Table.Matched Value.FoundAs (Table.setAllNamed [] history) current) :
    FollowsHistory history current where
  ordered := by rw [← foundAs.names_eq, Table.map_fst_setAllNamed]
  last s := by
    have related := foundAs.lookup s
    rwa [Table.lookup_setAllNamed, List.lookup_nil, Option.or_none] at related

/-- No name is empty when none was that was set. -/
theorem ne_empty_of_matched {history current : List (String × Value)}
    (foundAs : Table.Matched Value.FoundAs (Table.setAllNamed [] history) current)
    (named : ∀ entry ∈ history, entry.1 ≠ "") : ∀ entry ∈ current, entry.1 ≠ "" := by
  intro entry member
  have among : entry.1 ∈ current.map (·.1) := List.mem_map_of_mem member
  rw [← foundAs.names_eq, Table.map_fst_setAllNamed, List.mem_eraseDups] at among
  obtain ⟨first, inHistory, same⟩ := List.mem_map.mp among
  exact same ▸ named first inHistory

theorem FindsMessage.showsEntries {seen : EntryRole → List (String × Value)}
    {contentKept : Message Value}
    (finds : workspace.FindsMessage name owner stamp content place? seen message)
    (holds : workspace.HoldsStores name owner stamp contentKept place? entries)
    (kinds : content.kind = contentKept.kind) (has : content.store? role = some store)
    (named : ∀ entry ∈ seen role, entry.1 ≠ "") (distinct : ((seen role).map (·.1)).Nodup) :
    workspace.ShowsEntries name role (seen role) where
  listed := finds.answer_entryNames has
  named := named
  distinct := distinct
  read s := by
    rw [finds.answer_getEntry has, Table.get, Value.requireDigest_text, Table.find?_ofNamed]
    rfl
  readOther key noText := by
    rw [finds.answer_getEntry has, Table.get,
      Table.find?_of_isNoText (Table.textKeyed_ofNamed _) noText]
    cases key.requireDigest <;> rfl
  sets key value fits := by
    obtain ⟨storeKept, hasKept⟩ := exists_store_of_kind kinds has
    obtain ⟨s, rfl, notEmpty⟩ := fits
    obtain ⟨after, changed, valueKept, sets, -⟩ := holds.answer_setEntry hasKept notEmpty value
    exact ⟨after, sets⟩
  refuses key value unfit :=
    ⟨role.refusal key,
      finds.answer_setEntry_of_refused has (EntryRole.checkName_of_not_fits unfit role) value,
      fun _ writes => EntryRole.refusal_eq writes role⟩

theorem FindsEntries.isStore {found : List (String × Value)} {place? : Option Nat}
    (finds : FindsEntries found place? store) (distinct : (found.map (·.1)).Nodup) :
    store.IsStore ∧ store.named = found := by
  obtain ⟨itself, opened⟩ := finds.opened
  have named := Value.named_of_opened opened
  exact ⟨⟨⟨some itself, by rw [named, opened]⟩, by rwa [named]⟩, named⟩

theorem FindsMessage.isMessage
    (finds : workspace.FindsMessage name owner stamp content place? entries message)
    (underived : stamp.subclass? = none) : message.IsMessage content := by
  obtain ⟨identity?, subclass?⟩ := stamp
  obtain rfl : subclass? = none := underived
  obtain ⟨className, extra, rfl, free⟩ := finds.isShared
  exact ⟨⟨identity?, rfl⟩, fun method => by simp only [Value.extraField?, free method]⟩

theorem exists_fields_of_kind (isMap : content.kind = .map) :
    ∃ fields, content.payload = .map fields := by
  obtain ⟨header, payload⟩ := content
  cases payload <;> cases isMap
  exact ⟨_, rfl⟩

theorem FindsMessage.flattensEntries
    (finds : workspace.FindsMessage name owner stamp content place? entries message)
    (underived : stamp.subclass? = none)
    (distinct : ∀ {role store}, content.store? role = some store →
      ((entries role).map (·.1)).Nodup) :
    FlattensEntries content.kind message entries := by
  have isMessage := finds.isMessage underived
  have properties : content.store? .property = some content.header.properties := rfl
  have stores : ∀ {role store}, content.store? role = some store →
      store.IsStore ∧ store.named = entries role :=
    fun has => (finds.stores has).isStore (distinct has)
  have fieldsOf : ∀ {fields}, content.payload = .map fields →
      content.store? .mapField = some fields := fun isMap => by simp [Message.store?, isMap]
  have hasStores : content.HasStores :=
    ⟨(stores properties).1, fun _ isMap => (stores (fieldsOf isMap)).1⟩
  intro draft settings header custom body map accepted texts separate
  rw [Flatten.report_message_iff accepted texts separate isMessage hasStores, (stores properties).2]
  refine exists_congr fun first => exists_congr fun own => exists_congr fun last =>
    and_congr_right fun _ => and_congr_right fun _ => and_congr_right fun _ => ?_
  split
  next isMapKind =>
    obtain ⟨fields, isMap⟩ := exists_fields_of_kind isMapKind
    obtain ⟨isStore, sameEntries⟩ := stores (fieldsOf isMap)
    rw [isMapKind, Flatten.payloadContributions_map_iff texts isMessage isMap isStore, sameEntries]
  next => rfl

/-- The names in a store are not empty when they are fit. -/
theorem ne_empty_of_fits (fits : ∀ role key, content.Names role key → key.FitsEntry)
    (isStore : store.IsStore) (has : content.store? role = some store) :
    ∀ entry ∈ store.named, entry.1 ≠ "" := by
  intro entry member
  obtain ⟨identity?, opened⟩ := isStore.opened
  have iterates : store.iterate = .ok ((Table.ofNamed store.named).map (·.1)) := by
    rw [Value.iterate, opened]
  have among : Value.text entry.1 ∈ (Table.ofNamed store.named).map (·.1) := by
    rw [Table.keys_ofNamed]
    exact List.mem_map_of_mem (List.mem_map_of_mem member)
  obtain ⟨s, isText, notEmpty⟩ := fits role _ ⟨store, _, has, iterates, among⟩
  exact Value.text.inj isText ▸ notEmpty

/-- What is found of a message after uses of its stores: each store has what it was given, and after
that what the uses have brought in. -/
theorem exists_findsMessage_after_uses {start : Workspace} (orderly : start.Orderly)
    (stores : content.HasStores)
    (gives : ∀ role store, content.store? role = some store → start.Gives store)
    (apart : content.StoresApart) (name : String) (subclass? : Option Subclass)
    (uses : List EntryUse) :
    let reached := (start.answer (bindValue name (.message (.fresh subclass?) content))).2
      |>.afterEntryUses name uses
    let stamp : Stamp := ⟨some start.nextIdentity, subclass?⟩
    ∃ place? changed entries found current message,
      reached.HoldsStores name start.nextIdentity stamp changed place? entries
        ∧ reached.FindsMessage name start.nextIdentity stamp found place? current message
        ∧ found.kind = changed.kind ∧ found.kind = content.kind
        ∧ ∀ {role store}, content.store? role = some store → Table.Matched Value.FoundAs
          (Table.setAllNamed [] (store.named ++ uses.filterMap (·.accepted? role)))
          (current role) := by
  intro reached stamp
  obtain ⟨contentKept, place?, entries, kindKept, keepsGiven, holdsGiven⟩ :=
    exists_holdsStores_bindValue orderly name subclass? stores (gives _ _) apart
  -- Nothing is given for a store that the message does not have.
  let given role := ((content.store? role).map Value.named).getD []
  have given_eq : ∀ {role store}, content.store? role = some store → given role = store.named :=
    fun has => by simp only [given, has, Option.map_some, Option.getD_some]
  have keepsFirst : ∀ {role store}, contentKept.store? role = some store →
      Table.Matched Value.KeptAs (given role) (entries role) := by
    intro role store hasKept
    obtain ⟨store, has⟩ := exists_store_of_kind kindKept hasKept
    rw [given_eq has]
    exact keepsGiven has
  obtain ⟨changed, entriesAfter, kindAfter, keepsAfter, holdsAfter⟩ :=
    holdsGiven.afterEntryUses keepsFirst uses
  obtain ⟨found, current, message, foundOf, matched, finds⟩ := holdsAfter.findsMessage
  refine ⟨place?, changed, entriesAfter, found, current, message, holdsAfter, finds, foundOf.kind,
    (foundOf.kind.trans kindAfter).trans kindKept, fun {role store} has => ?_⟩
  obtain ⟨storeAfter, hasAfter⟩ := exists_store_of_kind (kindAfter.trans kindKept).symm has
  rw [Table.setAllNamed_append, Table.setAllNamed_of_nodup (stores.isStore has).names_nodup,
    ← given_eq has]
  exact (keepsAfter hasAfter).comp (matched role) fun keptAs isFound => ⟨_, keptAs, isFound⟩

end Workspace
end BrokerMaps
