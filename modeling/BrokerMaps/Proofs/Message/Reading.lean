import BrokerMaps.Flatten.Contribution
import BrokerMaps.Proofs.Outcome
import BrokerMaps.Proofs.Value.TextKeys

/-!
# Reading messages

A message of one of the six classes takes no extra fields, so each of its fields reads as what the
message holds and each of its methods can be called. A store with named entries lists their names in
order and gives for each name the value of its entry.
-/
namespace BrokerMaps

open Outcome (bind_eq_ok_iff)

/-! ## Messages -/

/-- A value that is a message of exactly the class of its kind, be it held by others or not. -/
structure Value.IsMessage (value : Value) (content : Message Value) : Prop where
  opened : ∃ identity?, value.opened = .message ⟨identity?, none⟩ content
  extraField? : ∀ name, value.extraField? name = none

namespace Value.IsMessage

variable {value : Value} {content : Message Value}

theorem shapeOf (isMessage : value.IsMessage content) :
    Shape.of? value = some (.message content.kind) := by
  obtain ⟨identity?, opened⟩ := isMessage.opened
  simp [Shape.of?, opened]

theorem checkCallable (isMessage : value.IsMessage content) (method : String) :
    value.checkCallable method = .ok () := by
  rw [Value.checkCallable, isMessage.extraField? method]

theorem field (isMessage : value.IsMessage content) {name : String} {held : Value}
    (other : name ≠ "body_length") (found : content.field? name = some held) :
    value.field name = .ok held := by
  obtain ⟨identity?, opened⟩ := isMessage.opened
  rw [Value.field, isMessage.extraField? name, opened]
  unfold ownField
  -- Only the length of a bytes message is not a field that the message holds.
  split <;> simp_all

theorem field_body_length (isMessage : value.IsMessage content) {body : Value}
    (isBytes : content.payload = .bytes body) :
    value.field "body_length" = body.length.map fun length => .int length := by
  obtain ⟨identity?, opened⟩ := isMessage.opened
  obtain ⟨header, payload⟩ := content
  cases isBytes
  rw [Value.field, isMessage.extraField?, opened]
  cases known : body.length <;> simp [ownField, known, pure, Except.pure]

theorem field_body (isMessage : value.IsMessage content) {body : Value}
    (isBytes : content.payload = .bytes body) : value.field "body" = .ok body := by
  obtain ⟨header, payload⟩ := content
  cases isBytes
  exact isMessage.field (by decide) rfl

theorem storeThrough (isMessage : value.IsMessage content) {role : EntryRole} {store : Value}
    (found : content.store? role = some store) (method : String) :
    Message.storeThrough role method value = .ok store := by
  obtain ⟨identity?, opened⟩ := isMessage.opened
  simp only [Message.storeThrough, opened, found, isMessage.checkCallable]
  rfl

end Value.IsMessage

/-! ## Stores -/

/-- The entries of a table that go by a name. -/
def Value.named (store : Value) : List (String × Value) :=
  match store.opened with
  | .table _ entries => entries.filterMap fun entry =>
    match entry.1 with
    | .text name => some (name, entry.2)
    | _ => none
  | _ => []

/-- A table as it comes from setting keys. -/
def Value.IsTable (store : Value) : Prop :=
  ∃ identity? entries, store.opened = .table identity? entries ∧ Table.Distinct entries

/-- A table all of whose entries go by a name, no two by the same. -/
structure Value.IsStore (store : Value) : Prop where
  opened : ∃ identity?, store.opened = .table identity? (Table.ofNamed store.named)
  names_nodup : (store.named.map (·.1)).Nodup

namespace Value

variable {store : Value}

theorem named_of_opened {identity? : Option Nat} {entries : List (String × Value)}
    (opened : store.opened = .table identity? (Table.ofNamed entries)) :
    store.named = entries := by
  rw [named, opened]
  simp [Table.ofNamed, List.filterMap_map]

/-- The names of a table that was filled key by key are fit for entries when the check of them
succeeds. -/
theorem isStore_of_checkNames {role : EntryRole} (isTable : store.IsTable)
    (checked : role.checkNames store = .ok ()) : store.IsStore := by
  obtain ⟨identity?, entries, opened, distinct⟩ := isTable
  have keys : store.iterate = .ok (entries.map (·.1)) := by simp [iterate, opened]
  rw [EntryRole.checkNames, keys, Outcome.ok_bind, Outcome.forM_eq_ok_iff] at checked
  have texts : Table.TextKeyed entries := by
    intro entry member
    have fit := checked entry.1 (List.mem_map_of_mem member)
    unfold EntryRole.checkName at fit
    split at fit
    next name isText => exact ⟨name, isText⟩
    next =>
      obtain ⟨_, -, refused⟩ := bind_eq_ok_iff.mp fit
      cases refused
  obtain ⟨named, rfl⟩ := Table.exists_eq_ofNamed texts
  have same := named_of_opened opened
  have nodup := Table.distinct_ofNamed_iff.mp distinct
  exact ⟨⟨identity?, by rw [same, opened]⟩, by rwa [same]⟩

namespace IsStore

theorem entryNames (isStore : store.IsStore) :
    Message.entryNames store = .ok (store.named.map fun entry => .text entry.1) := by
  obtain ⟨identity?, opened⟩ := isStore.opened
  simp [Message.entryNames, elements, elementsBehind, iterate, opened, Table.ofNamed,
    Function.comp_def]

theorem getEntry (isStore : store.IsStore) {entry : String × Value}
    (member : entry ∈ store.named) : Message.getEntry store (.text entry.1) = .ok entry.2 := by
  obtain ⟨identity?, opened⟩ := isStore.opened
  have found : store.named.lookup entry.1 = some entry.2 :=
    Table.lookup_of_mem isStore.names_nodup member
  have digest : (Value.text entry.1).requireDigest = .ok () := by
    simp [requireDigest, Value.digest, DigestScheme.blind]
  simp [Message.getEntry, lookup, opened, Table.get, digest, Table.find?_ofNamed, found, pure,
    Except.pure]

end IsStore
end Value

/-- Every store of a message is one whose entries go by names. -/
structure Message.HasStores (content : Message Value) : Prop where
  properties : content.header.properties.IsStore
  fields : ∀ fields, content.payload = .map fields → fields.IsStore

theorem Message.HasStores.isStore {content : Message Value} (stores : content.HasStores)
    {role : EntryRole} {store : Value} (found : content.store? role = some store) :
    store.IsStore := by
  unfold store? at found
  split at found
  next => cases found; exact stores.properties
  next fields isMap => cases found; exact stores.fields _ isMap
  next => cases found

/-- A message that is built with tables for its stores has stores: their names were checked. -/
theorem Message.hasStores_of_build {kind : MessageKind} {messageId timestamp : Value}
    {arguments : List (String × Value)} {content : Message Value}
    (built : build kind messageId timestamp arguments = .ok content)
    (tables : ∀ role store, content.store? role = some store → store.IsTable) :
    content.HasStores := by
  obtain ⟨message, -, checking⟩ := bind_eq_ok_iff.mp built
  obtain ⟨_, checked, same⟩ := bind_eq_ok_iff.mp checking
  cases same
  obtain ⟨_, properties, payload⟩ := bind_eq_ok_iff.mp checked
  -- The names of properties are checked first, and those of map fields only where there are any.
  refine ⟨?_, fun fields isMap => ?_⟩
  · exact Value.isStore_of_checkNames (tables .property _ rfl) properties
  · rw [isMap] at payload
    have found : content.store? .mapField = some fields := by simp [store?, isMap]
    exact Value.isStore_of_checkNames (tables .mapField fields found) payload

end BrokerMaps
