import BrokerMaps.Proofs.Message.EntryNames
import BrokerMaps.Proofs.Message.Kept
import BrokerMaps.Proofs.Workspace.Shared

/-!
# Stores of messages in a workspace

A workspace keeps a message apart. The entries of one of its stores are kept in the message, unless
the store is an object apart that others hold too. Whoever asks for the message finds the entries as
they are now, and setting one of them puts the others back as they were kept.

## Main results

* `FindsMessage.answer_entryNames`, `FindsMessage.answer_getEntry`: what the methods of a message
  read of a store.
* `HoldsStores.answer_setEntry`: what becomes of the stores when an entry is set.
-/
namespace BrokerMaps

/-- The methods that work on a store. -/
def EntryRole.methods (role : EntryRole) : List String := [role.setter, role.getter, role.lister]

/-- No object is the store of two roles. -/
def Message.StoresApart (content : Message Value) : Prop :=
  ∀ {first second store other identity}, content.store? first = some store →
    content.store? second = some other → store.identity? = some identity →
    other.identity? = some identity → first = second

namespace Workspace

variable {workspace : Workspace} {name method : String} {owner : Nat} {stamp : Stamp}
  {content : Message Value} {role : EntryRole} {store : Value}

/-! ## What is kept -/

/-- Named entries are kept as a store, in the message or in an object apart. -/
inductive HoldsEntries (workspace : Workspace) (owner : Nat) (entries : List (String × Value)) :
    Option Nat → Value → Prop
  | inside (itself : Nat) :
      HoldsEntries workspace owner entries none (.table (some itself) (Table.ofNamed entries))
  | apart {there itself : Nat} (className : ClassName) (room : firstIdentity ≤ there)
      (other : owner ≠ there)
      (object : workspace.objects.lookup there
        = some (.table (some itself) (Table.ofNamed entries))) :
      HoldsEntries workspace owner entries (some there) (.reference there className)

/-- A name stands for a message with named entries in its stores. No two stores are one object. -/
structure HoldsStores (workspace : Workspace) (name : String) (owner : Nat) (stamp : Stamp)
    (content : Message Value) (place? : EntryRole → Option Nat)
    (entries : EntryRole → List (String × Value)) : Prop where
  stands : workspace.Stands name owner (.message stamp content)
  stores : ∀ {role store}, content.store? role = some store →
    workspace.HoldsEntries owner (entries role) (place? role) store
  kept : ∀ role, ∀ entry ∈ entries role, entry.2.IsKept
  apart : ∀ {first second there}, place? first = some there → place? second = some there →
    first = second

/-! ## What is found -/

/-- Named entries are found in a store. -/
inductive FindsEntries (entries : List (String × Value)) : Option Nat → Value → Prop
  | inside (itself : Nat) :
      FindsEntries entries none (.table (some itself) (Table.ofNamed entries))
  | apart (there itself : Nat) (className : ClassName) (extra : String → Value) :
      FindsEntries entries (some there)
        (.shared there className (fun _ => .table (some itself) (Table.ofNamed entries)) extra)

/-- What is found under the name of a message, and the entries as they are now. -/
structure FindsMessage (workspace : Workspace) (name : String) (owner : Nat) (stamp : Stamp)
    (content : Message Value) (place? : EntryRole → Option Nat)
    (entries : EntryRole → List (String × Value)) (message : Value) : Prop where
  found : workspace.answer (valueOf name) = (.ok message, workspace)
  isShared : ∃ className extra,
    message = .shared owner className (fun _ => .message stamp content) extra
      ∧ ∀ field, extra field = .unread
  stores : ∀ {role store}, content.store? role = some store →
    FindsEntries (entries role) (place? role) store

variable {place? : EntryRole → Option Nat} {entries seen : EntryRole → List (String × Value)}
  {found : Message Value} {message key value : Value} {fault : Fault}

/-- A store in the message is looked at with the message, and one apart is one step deeper. -/
theorem HoldsEntries.exists_findsEntries {kept : List (String × Value)} {place? : Option Nat}
    (holds : workspace.HoldsEntries owner kept place? store)
    (isKept : ∀ entry ∈ kept, entry.2.IsKept) {modeNow : DeliveryMode → Value}
    (modes : ∀ m, (modeNow m).identify = pure (.mode m)) (extra : Nat → String → Value)
    (depth : Nat) :
    ∃ seen, Table.Matched Value.FoundOf seen kept
      ∧ FindsEntries seen place? (store.refresh modeNow
        (fun identity => workspace.refreshed depth (workspace.objectAt identity)) extra) := by
  cases holds with
  | inside itself =>
    obtain ⟨seen, listed, matched⟩ := Value.exists_refreshEntries_ofNamed modes
      (fun identity => workspace.refreshed depth (workspace.objectAt identity)) extra isKept
    refine ⟨seen, matched, ?_⟩
    rw [Value.refresh, listed]
    exact .inside itself
  | @apart there itself className room other object =>
    -- A store of its own is reached through a reference, so it is looked at one step deeper.
    obtain ⟨modeBelow, below, extraBelow, modesBelow, refreshed_eq⟩ :=
      workspace.exists_refreshed_eq depth
    obtain ⟨seen, listed, matched⟩ :=
      Value.exists_refreshEntries_ofNamed modesBelow below extraBelow isKept
    have atThere : workspace.objectAt there = .table (some itself) (Table.ofNamed kept) := by
      rw [objectAt, object]
      rfl
    refine ⟨seen, matched, ?_⟩
    rw [reference_of_room room, Value.refresh, atThere, refreshed_eq, Value.refresh, listed]
    exact .apart there itself className _

theorem HoldsStores.findsMessage
    (holds : workspace.HoldsStores name owner stamp content place? entries) :
    ∃ (found : Message Value) (seen : EntryRole → List (String × Value)) (message : Value),
      found.FoundOf content ∧ (∀ role, Table.Matched Value.FoundOf (seen role) (entries role))
      ∧ workspace.FindsMessage name owner stamp found place? seen message := by
  obtain ⟨depth, className, extraNow, valueOf_eq, free⟩ := holds.stands.exists_valueOf
  obtain ⟨modeNow, extra, modes, refreshed_succ⟩ := workspace.exists_refreshed_succ_eq depth
  -- Each store is found with its entries as they are now, under the names that it is kept with.
  have stores : ∀ role, ∃ seen, Table.Matched Value.FoundOf seen (entries role)
      ∧ ∀ store, content.store? role = some store → FindsEntries seen (place? role)
        (store.refresh modeNow
          (fun identity => workspace.refreshed depth (workspace.objectAt identity)) extra) := by
    intro role
    cases has : content.store? role with
    | none => exact ⟨_, Table.matched_same_iff.mpr (holds.kept role), nofun⟩
    | some store =>
      obtain ⟨seen, matched, finds⟩ :=
        (holds.stores has).exists_findsEntries (holds.kept role) modes extra depth
      exact ⟨seen, matched, fun _ same => Option.some.inj same ▸ finds⟩
  choose seen matched finds using stores
  rw [refreshed_succ, Value.refresh] at valueOf_eq
  refine ⟨_, seen, _, Message.foundOf_refreshMessage modes
    (Message.fieldsKept_of_isKept holds.stands.kept), matched, valueOf_eq,
    ⟨className, extraNow, rfl, free⟩, fun {role store} has => ?_⟩
  rw [Message.store?_refreshMessage, Option.map_eq_some_iff] at has
  obtain ⟨kept, hasKept, rfl⟩ := has
  exact finds role kept hasKept

/-! ## Reading -/

theorem FindsEntries.opened {found : List (String × Value)} {place? : Option Nat}
    (finds : FindsEntries found place? store) :
    ∃ itself, store.opened = .table (some itself) (Table.ofNamed found) := by
  cases finds with
  | inside itself => exact ⟨itself, rfl⟩
  | apart there itself className extra => exact ⟨itself, rfl⟩

/-- A message that has a store has the methods that work on it. -/
theorem contains_methods (has : content.store? role = some store) (offered : method ∈ role.methods)
    (opened : message.opened = .message stamp content) :
    message.methods.contains method = true := by
  rw [Value.methods, opened, List.contains_iff_mem]
  obtain ⟨header, payload⟩ := content
  cases role with
  | property =>
    change method ∈ ["set_property", "get_property", "property_names"] at offered
    simp only [List.mem_cons, List.not_mem_nil, or_false] at offered
    obtain rfl | rfl | rfl := offered <;> simp [Value.ownMethods]
  | mapField =>
    cases payload <;> cases has
    change method ∈ ["set_object", "get_object", "map_names"] at offered
    simp only [List.mem_cons, List.not_mem_nil, or_false] at offered
    obtain rfl | rfl | rfl := offered <;>
      simp [Value.ownMethods, Value.kindMethods, Message.kind, Payload.kind]

theorem FindsMessage.receiver
    (finds : workspace.FindsMessage name owner stamp content place? entries message)
    (has : content.store? role = some store) (offered : method ∈ role.methods) :
    workspace.answer (receiver name method) = (.ok message, workspace) := by
  obtain ⟨className, extra, rfl, free⟩ := finds.isShared
  refine answer_receiver_of_found finds.found rfl (contains_methods has offered rfl) ?_
  simp only [Value.extraField?, free method]

theorem FindsMessage.storeIn
    (finds : workspace.FindsMessage name owner stamp content place? entries message)
    (has : content.store? role = some store) (method : String) :
    workspace.answer (storeIn role message method) = (.ok store, workspace) := by
  obtain ⟨className, extra, rfl, free⟩ := finds.isShared
  rw [Workspace.storeIn, answer_ofExcept, Message.storeThrough]
  simp only [Value.opened, has, Value.checkCallable, Value.extraField?, free method]
  rfl

theorem FindsMessage.answer_entryNames
    (finds : workspace.FindsMessage name owner stamp content place? entries message)
    (has : content.store? role = some store) :
    workspace.answer (entryNames role name)
      = (.ok ((entries role).map fun entry => .text entry.1), workspace) := by
  rw [entryNames, answer_bind_of_ok (finds.receiver has (by simp [EntryRole.methods])),
    answer_bind_of_ok (finds.storeIn has role.lister), answer_ofExcept]
  obtain ⟨itself, opened⟩ := (finds.stores has).opened
  simp [Message.entryNames, Value.elements, Value.elementsBehind, Value.iterate, opened,
    Table.ofNamed, Function.comp_def]

theorem FindsMessage.answer_getEntry
    (finds : workspace.FindsMessage name owner stamp content place? entries message)
    (has : content.store? role = some store) (key : Value) :
    workspace.answer (getEntry role name key)
      = (Table.get (Table.ofNamed (entries role)) key, workspace) := by
  rw [getEntry, answer_bind_of_ok (finds.receiver has (by simp [EntryRole.methods])),
    answer_bind_of_ok (finds.storeIn has role.getter), answer_ofExcept]
  obtain ⟨itself, opened⟩ := (finds.stores has).opened
  rw [Message.getEntry, Value.lookup, opened]

/-! ## Setting -/

/-- A name that is refused leaves everything as it is. -/
theorem FindsMessage.answer_setEntry_of_refused
    (finds : workspace.FindsMessage name owner stamp content place? entries message)
    (has : content.store? role = some store) (refused : role.checkName key = .error fault)
    (value : Value) :
    workspace.answer (setEntry role name key value) = (.error fault, workspace) := by
  have fails : workspace.answer (MonadExcept.ofExcept (Message.setEntry role store key value))
      = (.error fault, workspace) := by
    rw [answer_ofExcept, Message.setEntry, refused]
    rfl
  rw [setEntry, answer_bind_of_ok (finds.receiver has (by simp [EntryRole.methods])),
    answer_bind_of_ok (finds.storeIn has role.setter), answer_bind_of_error fails]

/-- A message without the store has no method that sets an entry in it. -/
theorem FindsMessage.answer_setEntry_of_lacking
    (finds : workspace.FindsMessage name owner stamp content place? entries message)
    (lacks : content.store? role = none) (key value : Value) :
    ∃ fault, workspace.answer (setEntry role name key value) = (.error fault, workspace) := by
  obtain ⟨className, extra, rfl, free⟩ := finds.isShared
  have notOffered : (Value.shared owner className (fun _ => .message stamp content)
      extra).methods.contains role.setter = false := by
    obtain ⟨header, payload⟩ := content
    cases role with
    | property => cases lacks
    | mapField => cases payload <;> first | rfl | cases lacks
  have fails := answer_receiver_of_not_offered finds.found rfl notOffered
    (by simp only [Value.extraField?, free role.setter])
  exact ⟨_, by rw [setEntry, answer_bind_of_error fails]⟩

theorem exists_store_of_kind {first second : Message Value} (same : first.kind = second.kind)
    (has : first.store? role = some store) : ∃ other, second.store? role = some other := by
  obtain ⟨header, payload⟩ := first
  obtain ⟨otherHeader, otherPayload⟩ := second
  cases role with
  | property => exact ⟨_, rfl⟩
  | mapField =>
    cases payload <;> cases has
    cases otherPayload <;> cases same
    exact ⟨_, rfl⟩

/-- A store with one more entry set is a table again. -/
theorem FindsEntries.setEntry {found : List (String × Value)} {place? : Option Nat}
    (finds : FindsEntries found place? store) (role : EntryRole) {s : String} (notEmpty : s ≠ "")
    (value : Value) :
    ∃ itself, Message.setEntry role store (.text s) value
      = .ok (.table (some itself) (Table.ofNamed (Table.setNamed s value found))) := by
  obtain ⟨itself, opened⟩ := finds.opened
  have fits : role.checkName (.text s) = .ok () :=
    EntryRole.checkName_of_fits ⟨s, rfl, notEmpty⟩ role
  refine ⟨itself, ?_⟩
  rw [Message.setEntry, fits, Outcome.ok_bind, Value.assign, opened, ← Table.insert_ofNamed]
  simp only [Table.set, Value.requireDigest_text]
  rfl

/-- What is found of a store, with one more entry set, is kept as the store is, with that entry. -/
theorem identify_setNamed {found kept : List (String × Value)}
    (matched : Table.Matched Value.FoundOf found kept) (itself : Nat) (s : String)
    (value : Value) :
    (Value.table (some itself) (Table.ofNamed (Table.setNamed s value found))).identify = (do
      let valueKept ← value.identify
      pure (.table (some itself) (Table.ofNamed (Table.setNamed s valueKept kept)))) := by
  rw [Value.identify, Value.identifyEntries_setNamed matched]
  simp only [Value.identityOf, pure_bind, bind_assoc]

/-- Only the object apart matters for the entries in it. -/
theorem HoldsEntries.of_objects {entries : List (String × Value)} {place? : Option Nat}
    {after : Workspace} (holds : workspace.HoldsEntries owner entries place? store)
    (same : ∀ there, place? = some there → owner ≠ there →
      after.objects.lookup there = workspace.objects.lookup there) :
    after.HoldsEntries owner entries place? store := by
  cases holds with
  | inside itself => exact .inside itself
  | apart className room notOwner object =>
    exact .apart className room notOwner ((same _ rfl notOwner).trans object)

/-- An entry stays where it is when some other object changes. -/
theorem HoldsEntries.setObject_of_ne {entries : List (String × Value)} {place? : Option Nat}
    (holds : workspace.HoldsEntries owner entries place? store) {other : Nat}
    (differs : place? ≠ some other) (changed : Value) :
    (workspace.answer (setObject other changed)).2.HoldsEntries owner entries place? store :=
  holds.of_objects fun _ place _ =>
    lookup_map_of_ne fun same => differs (place.trans (congrArg some same))

theorem HoldsEntries.place_ne_owner {entries : List (String × Value)} {place? : Option Nat}
    (holds : workspace.HoldsEntries owner entries place? store) : place? ≠ some owner := by
  cases holds with
  | inside itself => exact nofun
  | apart className room notOwner object => exact fun same => notOwner (Option.some.inj same).symm

/-- Setting an entry to a value that is kept leaves all entries kept. -/
theorem HoldsStores.kept_update
    (holds : workspace.HoldsStores name owner stamp content place? entries) (role : EntryRole)
    (s : String) {valueKept : Value} (isKept : valueKept.IsKept) (other : EntryRole) :
    ∀ entry ∈ Function.update entries role (Table.setNamed s valueKept (entries role)) other,
      entry.2.IsKept := by
  by_cases same : other = role
  · subst same
    rw [Function.update_self]
    have before : Table.Matched Value.FoundOf (entries other) (entries other) :=
      Table.matched_same_iff.mpr (holds.kept other)
    exact Table.matched_same_iff.mp (before.setNamed s isKept)
  · rw [Function.update_of_ne same]
    exact holds.kept other

section
variable {foundStore : Value} {itself : Nat} {seenEntries : List (String × Value)}

/-- A store that is part of its message changes with it. -/
theorem HoldsStores.setObject_owner
    (holds : workspace.HoldsStores name owner stamp content place? entries)
    (has : content.store? role = some store) (inside : place? role = none)
    (foundOf : found.FoundOf content) (hasFound : found.store? role = some foundStore)
    (matched : Table.Matched Value.FoundOf seenEntries (entries role)) (s : String)
    (value : Value) :
    let valueKept := (value.identify.run workspace.nextIdentity).1
    let entriesKept := Table.setNamed s valueKept (entries role)
    let changed := Value.table (some itself) (Table.ofNamed (Table.setNamed s value seenEntries))
    (workspace.answer
        (setObject owner (.message stamp (found.withStore role changed)))).2.HoldsStores name owner
      stamp (content.withStore role (.table (some itself) (Table.ofNamed entriesKept))) place?
      (Function.update entries role entriesKept) := by
  intro valueKept entriesKept changed
  have stamped := (Value.isKept_message_iff.mp holds.stands.kept).1
  have identifies : (Value.message stamp (found.withStore role changed)).identify = (do
      let valueKept ← value.identify
      pure (.message stamp (content.withStore role
        (.table (some itself) (Table.ofNamed (Table.setNamed s valueKept (entries role))))))) := by
    rw [Value.identify, Value.stampOf_eq_pure_iff.mpr stamped,
      Message.identify_withStore foundOf hasFound, identify_setNamed matched]
    simp only [pure_bind, bind_assoc]
  refine ⟨?_, fun {other _} hasOther => ?_,
    holds.kept_update role s (Value.isKept_identify value workspace.nextIdentity), holds.apart⟩
  · have stands := holds.stands.setObject (.message stamp (found.withStore role changed))
    rwa [identifies] at stands
  · by_cases same : other = role
    · subst same
      rw [Message.store?_withStore_self has] at hasOther
      cases hasOther
      rw [inside, Function.update_self]
      exact .inside itself
    · -- The other store is seen as before, wherever it is.
      rw [Message.store?_withStore_of_ne same] at hasOther
      rw [Function.update_of_ne same]
      have other := holds.stores hasOther
      exact other.setObject_of_ne other.place_ne_owner _

/-- A store apart changes by itself. -/
theorem HoldsStores.setObject_apart
    (holds : workspace.HoldsStores name owner stamp content place? entries)
    (has : content.store? role = some store) {there : Nat} (apart : place? role = some there)
    (matched : Table.Matched Value.FoundOf seenEntries (entries role)) (s : String)
    (value : Value) :
    let valueKept := (value.identify.run workspace.nextIdentity).1
    let changed := Value.table (some itself) (Table.ofNamed (Table.setNamed s value seenEntries))
    (workspace.answer (setObject there changed)).2.HoldsStores name owner stamp content place?
      (Function.update entries role (Table.setNamed s valueKept (entries role))) := by
  intro valueKept changed
  have holdsStore := holds.stores has
  have notOwner : owner ≠ there := fun same =>
    holdsStore.place_ne_owner (apart.trans (congrArg some same.symm))
  refine ⟨holds.stands.setObject_of_ne notOwner changed, fun {other _} hasOther => ?_,
    holds.kept_update role s (Value.isKept_identify value workspace.nextIdentity), holds.apart⟩
  -- The other store is not in the same place, so it stays as it was.
  by_cases same : other = role
  · subst same
    rw [Option.some.inj (hasOther.symm.trans has), Function.update_self]
    rw [apart] at holdsStore ⊢
    cases holdsStore with
    | apart className room notOwner object =>
      have identifies : (changed.identify.run workspace.nextIdentity).1
          = .table (some itself) (Table.ofNamed (Table.setNamed s valueKept (entries other))) := by
        rw [identify_setNamed matched]
        rfl
      exact .apart className room notOwner
        ((lookup_map_self object).trans (congrArg some identifies))
  · rw [Function.update_of_ne same]
    exact (holds.stores hasOther).setObject_of_ne (fun there => same (holds.apart there apart)) _

end

/-- An entry under a name that is a non-empty text is set, in the store of its role and nowhere
else. -/
theorem HoldsStores.answer_setEntry
    (holds : workspace.HoldsStores name owner stamp content place? entries)
    (has : content.store? role = some store) {s : String} (notEmpty : s ≠ "") (value : Value) :
    ∃ (after : Workspace) (changed : Message Value) (valueKept : Value),
      workspace.answer (setEntry role name (.text s) value) = (.ok (), after)
      ∧ value.KeptAs valueKept ∧ changed.kind = content.kind
      ∧ after.HoldsStores name owner stamp changed place?
        (Function.update entries role (Table.setNamed s valueKept (entries role))) := by
  obtain ⟨found, seen, message, foundOf, matched, finds⟩ := holds.findsMessage
  obtain ⟨foundStore, hasFound⟩ := exists_store_of_kind foundOf.kind.symm has
  have findsStore := finds.stores hasFound
  obtain ⟨itself, sets⟩ := findsStore.setEntry role notEmpty value
  have changes : workspace.answer (MonadExcept.ofExcept
      (Message.setEntry role foundStore (.text s) value))
      = (.ok (.table (some itself) (Table.ofNamed (Table.setNamed s value (seen role)))),
        workspace) := by
    rw [answer_ofExcept, sets]
  have keptAs : value.KeptAs (value.identify.run workspace.nextIdentity).1 := ⟨_, rfl⟩
  rw [setEntry, answer_bind_of_ok (finds.receiver hasFound (by simp [EntryRole.methods])),
    answer_bind_of_ok (finds.storeIn hasFound role.setter), answer_bind_of_ok changes]
  obtain ⟨className, extra, rfl, free⟩ := finds.isShared
  -- A store in the message is put back with the message, and one apart by itself.
  cases place : place? role with
  | none =>
    rw [place] at findsStore
    cases findsStore with
    | inside => exact ⟨_, _, _, rfl, keptAs, Message.kind_withStore role _ content,
        holds.setObject_owner has place foundOf hasFound (matched role) s value⟩
  | some there =>
    rw [place] at findsStore
    cases findsStore with
    | apart => exact ⟨_, _, _, rfl, keptAs, rfl,
        holds.setObject_apart has place (matched role) s value⟩

/-! ## New messages -/

/-- A store that can be given to a message: a dictionary of its own, or one that is found under a
name. -/
def Gives (workspace : Workspace) (store : Value) : Prop :=
  (∃ identity? table, store = .table identity? table)
    ∨ ∃ name there dictionary, workspace.Stands name there dictionary
      ∧ workspace.answer (valueOf name) = (.ok store, workspace)

/-- A table with named entries is kept as one. -/
theorem exists_kept_ofNamed (identity? : Option Nat) (given : List (String × Value)) (next : Nat) :
    ∃ itself kept, ((Value.table identity? (Table.ofNamed given)).identify.run next).1
        = .table (some itself) (Table.ofNamed kept)
      ∧ Table.Matched Value.KeptAs given kept ∧ ∀ entry ∈ kept, entry.2.IsKept := by
  obtain ⟨kept, listed, keptAs, isKept⟩ := Value.kept_identifyEntries_ofNamed given
    ((Value.identityOf identity?).run next).2
  refine ⟨((Value.identityOf identity?).run next).1, kept, ?_, keptAs, isKept⟩
  rw [← listed]
  rfl

/-- A store that a new message is given is kept where its entries were. -/
theorem Gives.exists_holdsEntries (gives : workspace.Gives store) (isStore : store.IsStore)
    (next : Nat) :
    ∃ place? kept, Table.Matched Value.KeptAs store.named kept
      ∧ (∀ entry ∈ kept, entry.2.IsKept)
      ∧ (∀ there, place? = some there → store.identity? = some there)
      ∧ workspace.HoldsEntries workspace.nextIdentity kept place? (store.identify.run next).1 := by
  obtain ⟨identity?, opened⟩ := isStore.opened
  obtain ⟨itself, kept, keeps, keptAs, isKept⟩ := exists_kept_ofNamed identity? store.named next
  obtain ⟨own?, table, rfl⟩ | ⟨other, there, dictionary, stands, found⟩ := gives
  · have isTable : Value.table own? table
        = .table identity? (Table.ofNamed (Value.table own? table).named) := opened
    refine ⟨none, kept, keptAs, isKept, nofun, ?_⟩
    rw [isTable, keeps]
    exact .inside itself
  · obtain ⟨depth, className, extra, foundNow, -⟩ := stands.exists_valueOf
    obtain rfl := Except.ok.inj (congrArg Prod.fst (found.symm.trans foundNow))
    -- What is found in the dictionary is kept as the dictionary is.
    have same : dictionary = .table (some itself) (Table.ofNamed kept) := by
      rw [← keeps, ← opened, Value.opened, identify_refreshed, stands.kept]
      rfl
    have isReference : ((Value.shared there className (fun _ =>
        workspace.refreshed (depth + 1) dictionary) extra).identify.run next).1
        = .reference there className := rfl
    rw [isReference]
    exact ⟨some there, kept, keptAs, isKept, fun _ there => there,
      .apart className stands.room (Nat.ne_of_gt stands.below) (same ▸ stands.object)⟩

/-- The store of a role is kept, if there is one, where what was given for it was. -/
theorem exists_holdsEntries_of_rel {given? kept? : Option Value}
    (gives : ∀ store, given? = some store → workspace.Gives store ∧ store.IsStore)
    (related : Option.Rel (fun store storeKept => ∃ next, (store.identify.run next).1 = storeKept)
      given? kept?) :
    ∃ place? kept, (∀ entry ∈ kept, entry.2.IsKept)
      ∧ (∀ there, place? = some there → ∃ store, given? = some store
        ∧ store.identity? = some there)
      ∧ ∀ store storeKept, given? = some store → kept? = some storeKept →
        Table.Matched Value.KeptAs store.named kept
          ∧ workspace.HoldsEntries workspace.nextIdentity kept place? storeKept := by
  cases related with
  | none => exact ⟨none, [], nofun, nofun, nofun⟩
  | @some store storeKept keeps =>
    obtain ⟨next, rfl⟩ := keeps
    obtain ⟨isGiven, isStore⟩ := gives store rfl
    obtain ⟨place?, kept, keptAs, isKept, itself, holds⟩ :=
      isGiven.exists_holdsEntries isStore next
    refine ⟨place?, kept, isKept, fun there place => ⟨store, rfl, itself there place⟩, ?_⟩
    rintro _ _ ⟨⟩ ⟨⟩
    exact ⟨keptAs, holds⟩

/-- A new message stands under its name, with the entries of the stores that it was given. -/
theorem exists_holdsStores_bindValue (orderly : workspace.Orderly) (name : String)
    (subclass? : Option Subclass) (stores : content.HasStores)
    (gives : ∀ {role store}, content.store? role = some store → workspace.Gives store)
    (apart : content.StoresApart) :
    ∃ contentKept place? entries, contentKept.kind = content.kind
      ∧ (∀ {role store}, content.store? role = some store →
        Table.Matched Value.KeptAs store.named (entries role))
      ∧ (workspace.answer (bindValue name (.message (.fresh subclass?) content))).2.HoldsStores
        name workspace.nextIdentity ⟨some workspace.nextIdentity, subclass?⟩ contentKept place?
        entries := by
  let numbered := (Value.identifyMessage content).run (workspace.nextIdentity + 1)
  have identifies : (Value.message (.fresh subclass?) content).identify.run workspace.nextIdentity
      = (.message ⟨some workspace.nextIdentity, subclass?⟩ numbered.1, numbered.2) := rfl
  obtain ⟨-, kinds, storesKept⟩ :=
    Message.kept_identifyMessage content (workspace.nextIdentity + 1)
  have given : ∀ role store, content.store? role = some store →
      workspace.Gives store ∧ store.IsStore := fun _ _ has => ⟨gives has, stores.isStore has⟩
  -- A store that was found in the workspace stays where it is, and a new one becomes part of the
  -- message.
  have places := fun role => exists_holdsEntries_of_rel (given role) (storesKept role)
  choose place? entries isKept placed held using places
  refine ⟨numbered.1, place?, entries, kinds, fun {role store} has => ?_,
    stands_bindValue orderly identifies rfl rfl
      (Value.grows_identifyMessage content (workspace.nextIdentity + 1)) name,
    fun {role store} hasKept => ?_, isKept, fun {first second there} placeFirst placeSecond => ?_⟩
  · obtain ⟨storeKept, hasKept⟩ := exists_store_of_kind kinds.symm has
    exact (held role store storeKept has hasKept).1
  · obtain ⟨given, has⟩ := exists_store_of_kind kinds hasKept
    rw [answer_bindValue_of_changeable identifies rfl rfl]
    refine (held role given store has hasKept).2.of_objects fun there _ other => ?_
    have differs : (there == workspace.nextIdentity) = false := beq_false_of_ne other.symm
    rw [List.lookup_cons, differs]
  · obtain ⟨store, has, itself⟩ := placed first there placeFirst
    obtain ⟨other, hasOther, otherItself⟩ := placed second there placeSecond
    exact apart has hasOther itself otherItself

end Workspace
end BrokerMaps
