import BrokerMaps.Proofs.Flatten.Precedence
import BrokerMaps.Proofs.Value.NamedEntries

/-!
# The sections of stores

The custom section of a flattened message lists the properties that are not null, in the order of
the store, and so does the body of a map message with its fields. How large chunks are matters only
where the body has chunks, so any settings that were accepted will do.

## Main results

* `report_message_iff`: what a message is flattened to, under any accepted settings.
* `Plan.write_store_iff`: what the section of a store lists.
-/
namespace BrokerMaps

namespace Plan

open Flatten (asText)

theorem store_eq_map_filter (entries : List (String × Value)) :
    store entries = (entries.filter fun entry => !entry.2.isNull).map
      fun entry => (entry.1, asText entry.2.mapText) := by
  rw [store]
  induction entries with
  | nil => rfl
  | cons entry rest ih =>
    rw [List.flatMap_cons, ih, unlessNull, List.filter_cons]
    cases entry.2.isNull <;> rfl

/-- The section of a store lists the entries that are not null, each under its name behind the
prefix and with its text. -/
def ListsEntries (lead : String) (entries pairs : List (String × Value)) : Prop :=
  List.Forall₂ (fun entry pair => pair.1 = lead ++ entry.1 ∧ asText entry.2.mapText = .ok pair.2)
    (entries.filter fun entry => !entry.2.isNull) pairs

theorem write_store_iff {lead : String} {entries pairs : List (String × Value)} :
    (store entries).write lead = .ok pairs ↔ ListsEntries lead entries pairs := by
  rw [write_eq_ok_iff, store_eq_map_filter, List.forall₂_map_left_iff, ListsEntries]

end Plan

namespace Flatten

open Outcome (bind_eq_ok_iff)

variable {draft : Settings.Draft} {settings : Settings} {header custom body : String}
  {value : Value} {content : Message Value} {map : PropertyMap}

/-- The names in a store are keys that differ. -/
theorem holdsKeys_of_hasStores (stores : content.HasStores) :
    content.HoldsKeys fun _ => .null := by
  intro role store found identity? entries opened
  obtain ⟨own?, openedAs⟩ := (stores.isStore found).opened
  rw [opened] at openedAs
  cases openedAs
  refine ⟨fun entry member => ?_, Table.distinct_ofNamed_iff.mpr (stores.isStore found).names_nodup⟩
  obtain ⟨s, isText⟩ := Table.textKeyed_ofNamed _ entry member
  rw [isText]
  exact .text s

/-- Under any accepted settings with texts as prefixes, a message contributes its three sections one
after the other. -/
theorem messageContributions_eq_ok_iff {list : List Contribution}
    (accepted : Settings.check draft = .ok settings)
    (texts : settings.HasTexts header custom body) (isMessage : value.IsMessage content)
    (stores : content.HasStores) :
    messageContributions settings.flattener content.kind value = .ok list ↔
      ∃ first own last, list = Table.ofNamed (first ++ own ++ last)
        ∧ headerContributions settings value = .ok (Table.ofNamed first)
        ∧ (Plan.store content.header.properties.named).write custom = .ok own
        ∧ payloadContributions settings content.kind value = .ok (Table.ofNamed last) := by
  have headed := headerContributions_eq texts.header isMessage
  have properties : content.store? .property = some content.header.properties := rfl
  have owned := storeContributions_eq custom isMessage properties stores.properties
  rw [← texts.custom] at owned
  rw [messageContributions_flattener, headerAndCustom]
  constructor
  · intro listed
    obtain ⟨_, opened, rest⟩ := bind_eq_ok_iff.mp listed
    obtain ⟨_, paid, made⟩ := bind_eq_ok_iff.mp rest
    obtain ⟨_, listedHeader, owning⟩ := bind_eq_ok_iff.mp opened
    obtain ⟨_, listedOwn, joined⟩ := bind_eq_ok_iff.mp owning
    cases made
    cases joined
    -- The prefixes are texts, so the keys of each section are texts.
    obtain ⟨plan, -, closed⟩ := payloadContributions_of_ok accepted texts.body isMessage
      (holdsKeys_of_hasStores stores) paid
    obtain ⟨first, -, rfl⟩ := Plan.contributions_eq_ok_iff.mp (headed.symm.trans listedHeader)
    obtain ⟨own, written, rfl⟩ := Plan.contributions_eq_ok_iff.mp (owned.symm.trans listedOwn)
    obtain ⟨last, -, rfl⟩ := Plan.contributions_eq_ok_iff.mp closed
    exact ⟨first, own, last, by simp [Table.ofNamed], listedHeader, written, paid⟩
  · rintro ⟨first, own, last, rfl, listedHeader, written, paid⟩
    have listedOwn := owned.trans (Plan.contributions_eq_ok_iff.mpr ⟨own, written, rfl⟩)
    rw [listedHeader, listedOwn, paid]
    simp [Table.ofNamed, pure, Except.pure]

/-- A message is flattened to a map exactly when its three sections can be listed, and then the map
lists them one after the other. -/
theorem report_message_iff (accepted : Settings.check draft = .ok settings)
    (texts : settings.HasTexts header custom body)
    (separate : [header, custom, body].Pairwise Incomparable)
    (isMessage : value.IsMessage content) (stores : content.HasStores) :
    (settings.flattener.report value).outcome = .ok (some map) ↔
      ∃ first own last, map = Table.ofNamed (first ++ own ++ last)
        ∧ headerContributions settings value = .ok (Table.ofNamed first)
        ∧ Plan.ListsEntries custom content.header.properties.named own
        ∧ payloadContributions settings content.kind value = .ok (Table.ofNamed last) := by
  simp only [← Plan.write_store_iff]
  rw [← messageContributions_eq_ok_iff accepted texts isMessage stores,
    outcome_report isMessage.shapeOf, Shape.contributions]
  -- No two of the sections have a key in common, so each key is new when its turn comes.
  have as_listed : ∀ list,
      messageContributions settings.flattener content.kind value = .ok list →
        Table.insertAll [] (withNewKeys list) = list := by
    intro list listed
    obtain ⟨first, own, last, plan, rfl, sections⟩ := sections_of_ok accepted texts isMessage
      (holdsKeys_of_hasStores stores) listed
    have written := Plan.message_eq_ok_iff.mpr ⟨first, own, last, plan, rfl, sections⟩
    have distinct : Table.Distinct ([] ++ Table.ofNamed (first ++ own ++ last)) :=
      Table.distinct_ofNamed_iff.mpr (Plan.nodup_keys_message separate stores written)
    rw [withNewKeys_ofNamed, Table.insertAll_eq_append distinct, List.nil_append]
  cases listed : messageContributions settings.flattener content.kind value with
  | error fault => simp
  | ok list => simp [as_listed list listed]

/-- The body of a map message is the section of its fields. -/
theorem payloadContributions_map_iff {fields : Value} {last : List (String × Value)}
    (texts : settings.HasTexts header custom body) (isMessage : value.IsMessage content)
    (isMap : content.payload = .map fields) (isStore : fields.IsStore) :
    payloadContributions settings .map value = .ok (Table.ofNamed last) ↔
      Plan.ListsEntries body fields.named last := by
  have found : content.store? .mapField = some fields := by simp [Message.store?, isMap]
  rw [payloadContributions, texts.body, storeContributions_eq body isMessage found isStore,
    Plan.contributions_eq_ok_iff]
  simp only [Table.ofNamed_injective.eq_iff, exists_eq_right', Plan.write_store_iff]

end Flatten
end BrokerMaps
