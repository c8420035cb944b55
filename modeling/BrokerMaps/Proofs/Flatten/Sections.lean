import BrokerMaps.Proofs.Flatten.Layout
import BrokerMaps.Proofs.Flatten.Reports
import Mathlib.Data.List.Nodup

/-!
# The sections of a flattened message

## Main result

`Flatten.report_sections`: where none of the three prefixes begins with another, the map of a
message lists its header, its custom properties and its body, pair by pair in the planned order.

## Proof strategy

Setting keys one after the other gives back their list when no key comes up twice. Two keys of one
section differ because their names do: the names of header fields are fixed, those of a store are
the keys of a table, and those of chunks are numbered. Two keys of different sections differ because
equal keys would make one of the two prefixes the beginning of the other.
-/
namespace BrokerMaps

/-! ## Keys -/

/-- None of two texts begins with the other. -/
def Incomparable (a b : String) : Prop := ¬ a.toList <+: b.toList ∧ ¬ b.toList <+: a.toList

instance (a b : String) : Decidable (Incomparable a b) := inferInstanceAs (Decidable (_ ∧ _))

theorem Incomparable.append_ne_append {a b : String} (separate : Incomparable a b)
    (s t : String) : a ++ s ≠ b ++ t := by
  intro same
  -- Two beginnings of one text begin one with the other.
  have lists : a.toList ++ s.toList = b.toList ++ t.toList := by
    rw [← String.toList_append, ← String.toList_append, same]
  have first : a.toList <+: b.toList ++ t.toList := ⟨s.toList, lists⟩
  have second : b.toList <+: b.toList ++ t.toList := List.prefix_append _ _
  exact (List.prefix_or_prefix_of_prefix first second).elim separate.1 separate.2

theorem Incomparable.disjoint_keys {a b : String} (separate : Incomparable a b)
    (left right : List String) : List.Disjoint (left.map (a ++ ·)) (right.map (b ++ ·)) := by
  intro key inLeft inRight
  obtain ⟨s, -, isLeft⟩ := List.mem_map.mp inLeft
  obtain ⟨t, -, isRight⟩ := List.mem_map.mp inRight
  exact separate.append_ne_append s t (isLeft.trans isRight.symm)

namespace Plan

def names (plan : Plan) : List String := plan.map (·.1)

theorem keys_of_write {lead : String} {plan : Plan} {pairs : List (String × Value)}
    (written : plan.write lead = .ok pairs) :
    pairs.map (·.1) = plan.names.map (lead ++ ·) := by
  have related := write_eq_ok_iff.mp written
  clear written
  induction related with
  | nil => rfl
  | cons here _ ih => simp [here.1, ih, names]

theorem nodup_keys (lead : String) {names : List String} (nodup : names.Nodup) :
    (names.map (lead ++ ·)).Nodup :=
  nodup.map fun _ _ same => (String.append_right_inj lead).mp same

/-! ## Names -/

theorem names_unlessNull_sublist (content : Value) (name : String) (text : Except Fault Value) :
    (unlessNull content name text).names.Sublist [name] := by
  rw [unlessNull]
  split
  · exact List.nil_sublist _
  · exact List.Sublist.refl _

theorem names_flatMap_sublist {α : Type} {xs : List α} {plan : α → Plan} {name : α → String}
    (named : ∀ x ∈ xs, (plan x).names.Sublist [name x]) :
    (names (xs.flatMap plan)).Sublist (xs.map name) := by
  induction xs with
  | nil => exact List.Sublist.refl _
  | cons x rest ih =>
    obtain ⟨here, later⟩ := List.forall_mem_cons.mp named
    have split : names ((x :: rest).flatMap plan) =
        (plan x).names ++ names (rest.flatMap plan) := by simp [names]
    rw [split]
    exact here.append (ih later)

theorem nodup_names_header (content : Message Value) : (header content.header).names.Nodup := by
  have fixed : (Flatten.headerEntries.map (·.name)).Nodup := by decide
  rw [Flatten.header_eq_flatMap]
  refine (names_flatMap_sublist fun entry _ => ?_).nodup fixed
  cases content.field? entry.field with
  | none => exact List.nil_sublist _
  | some held =>
    rw [Option.map_some, Option.getD_some, Flatten.HeaderEntry.plan]
    split
    · exact names_unlessNull_sublist held entry.name (entry.text held)
    · exact List.Sublist.refl _

theorem nodup_names_store {entries : List (String × Value)}
    (nodup : (entries.map (·.1)).Nodup) : (store entries).names.Nodup :=
  (names_flatMap_sublist fun entry _ =>
    names_unlessNull_sublist entry.2 entry.1 (Flatten.asText entry.2.mapText)).nodup nodup

theorem chunkName_injective : Function.Injective chunkName := by
  intro i j same
  have shown : Nat.toDigits 10 (i + 1) = Nat.toDigits 10 (j + 1) := by
    simpa [chunkName, ← String.toList_inj] using same
  have number := congrArg (Nat.ofDigitChars 10 · 0) shown
  simpa using number

theorem nodup_names_chunks (settings : Settings) (body : Value) (length size : Nat) :
    (chunks settings body length size).names.Nodup := by
  have numbered : (chunks settings body length size).names =
      (List.range (length / size + 1)).map chunkName := by simp [names, chunks]
  rw [numbered]
  exact List.nodup_range.map chunkName_injective

theorem nodup_names_payload {settings : Settings} {size : Nat} {message : Value}
    {held : Payload Value} {plan : Plan}
    (distinct : ∀ fields, held = .map fields → (fields.named.map (·.1)).Nodup)
    (planned : payload settings size message held = .ok plan) : plan.names.Nodup := by
  cases held with
  | plain =>
    cases planned
    exact List.nodup_nil
  | text content =>
    cases planned
    exact (names_unlessNull_sublist content "JMSText" (.ok content)).nodup (List.nodup_singleton _)
  | bytes body =>
    rw [payload] at planned
    cases known : body.length with
    | error fault =>
      rw [known] at planned
      cases planned
    | ok length =>
      rw [known] at planned
      cases planned
      exact nodup_names_chunks settings body length size
  | object content =>
    cases planned
    -- Either entry is left out for a null, so the names are part of a fixed list.
    have both := (names_unlessNull_sublist content "JMSObjectClass"
      (.ok (.text content.classOf.qualified))).append
        (names_unlessNull_sublist content "JMSObjectString" (Flatten.plainText content))
    have fixed : (["JMSObjectClass"] ++ ["JMSObjectString"]).Nodup := by decide
    rw [names, List.map_append]
    exact both.nodup fixed
  | map fields =>
    cases planned
    exact nodup_names_store (distinct fields rfl)
  | stream elements =>
    cases planned
    exact List.nodup_singleton _

/-! ## Messages -/

/-- The keys of the three sections of a message are all different. -/
theorem nodup_keys_message {settings : Settings} {header custom body : String} {size : Nat}
    {value : Value} {content : Message Value} {pairs : List (String × Value)}
    (separate : [header, custom, body].Pairwise Incomparable) (stores : content.HasStores)
    (written : message settings header custom body size value content = .ok pairs) :
    (pairs.map (·.1)).Nodup := by
  obtain ⟨first, own, last, plan, rfl, headed, owned, planned, closed⟩ :=
    message_eq_ok_iff.mp written
  obtain ⟨hc, hb, cb⟩ : Incomparable header custom ∧ Incomparable header body
      ∧ Incomparable custom body := by simpa [and_assoc] using separate
  rw [List.map_append, List.map_append, keys_of_write headed, keys_of_write owned,
    keys_of_write closed]
  have firstKeys := nodup_keys header (nodup_names_header content)
  have ownKeys := nodup_keys custom (nodup_names_store stores.properties.names_nodup)
  have fields := fun fields isMap => (stores.fields fields isMap).names_nodup
  have lastKeys := nodup_keys body (nodup_names_payload fields planned)
  refine (firstKeys.append ownKeys (hc.disjoint_keys _ _)).append lastKeys ?_
  exact List.disjoint_append_left.mpr ⟨hb.disjoint_keys _ _, cb.disjoint_keys _ _⟩

end Plan

namespace Flatten

/-- Setting the contributions of a message one after the other lists its sections. -/
theorem outcome_report_message {settings : Settings} {header custom body : String} {size : Nat}
    {value : Value} {content : Message Value}
    (texts : settings.HasTexts header custom body) (positive : 0 < size)
    (integral : settings.chunkSize.integral? = some (size : Int))
    (separate : [header, custom, body].Pairwise Incomparable)
    (isMessage : value.IsMessage content) (stores : content.HasStores) :
    (settings.flattener.report value).outcome =
      match Plan.message settings header custom body size value content with
      | .ok pairs => .ok (some (Table.ofNamed pairs))
      | .error fault => .error (wrapFault value.className fault) := by
  have contributed := messageContributions_eq texts positive integral isMessage stores
  rw [outcome_report isMessage.shapeOf, Shape.contributions, contributed]
  cases written : Plan.message settings header custom body size value content with
  | error fault => rfl
  | ok pairs =>
    -- Without a key that comes up twice, setting the pairs gives them back.
    have distinct : Table.Distinct ([] ++ Table.ofNamed pairs) :=
      Table.distinct_ofNamed_iff.mpr (Plan.nodup_keys_message separate stores written)
    have listed : Table.insertAll [] (Table.ofNamed pairs) = Table.ofNamed pairs :=
      Table.insertAll_eq_append distinct
    simp [withNewKeys_ofNamed, listed]

/-- Under prefixes none of which begins with another, a message is flattened to a map exactly when
its header, its custom properties and its body can be written, and then the map lists the three: the
planned names in their order, each under the prefix of its section and with its text. -/
theorem report_sections {draft : Settings.Draft} {settings : Settings} {size : Int}
    {header custom body : String} {kind : MessageKind} {messageId timestamp : Value}
    {arguments : List (String × Value)} {content : Message Value} {value : Value}
    {map : PropertyMap} (accepted : Settings.check draft = .ok settings)
    (integral : settings.chunkSize.integral? = some size)
    (texts : settings.HasTexts header custom body)
    (separate : [header, custom, body].Pairwise Incomparable)
    (built : Message.build kind messageId timestamp arguments = .ok content)
    (tables : ∀ role store, content.store? role = some store → store.IsTable)
    (isMessage : value.IsMessage content) :
    (settings.flattener.report value).outcome = .ok (some map) ↔
      ∃ first own last plan,
        map = Table.ofNamed (first ++ own ++ last)
          ∧ (Plan.header content.header).write header = .ok first
          ∧ (Plan.store content.header.properties.named).write custom = .ok own
          ∧ Plan.payload settings size.toNat value content.payload = .ok plan
          ∧ plan.write body = .ok last := by
  have stores := Message.hasStores_of_build built tables
  have bound := Settings.one_le_of_check accepted integral
  obtain ⟨size, rfl⟩ := Int.eq_ofNat_of_zero_le (show 0 ≤ size by omega)
  rw [outcome_report_message texts (show 0 < size by omega) integral separate isMessage stores,
    Int.toNat_natCast]
  constructor
  · intro succeeds
    cases written : Plan.message settings header custom body size value content with
    | error fault =>
      rw [written] at succeeds
      cases succeeds
    | ok pairs =>
      rw [written] at succeeds
      cases succeeds
      obtain ⟨first, own, last, plan, rfl, sections⟩ := Plan.message_eq_ok_iff.mp written
      exact ⟨first, own, last, plan, rfl, sections⟩
  · rintro ⟨first, own, last, plan, rfl, sections⟩
    rw [Plan.message_eq_ok_iff.mpr ⟨first, own, last, plan, rfl, sections⟩]

/-- A map message with one property and one field, and a property that is null. -/
def colored : Message Value :=
  ⟨{ Message.defaultHeader (.text "ID:1") (.int 5) with
      properties := .table none [(.text "color", .text "red"), (.text "gone", .null)] },
    .map (.table none [(.text "n", .bool true)])⟩

/-- Under the default settings the sections of a message are told apart by their prefixes. -/
theorem report_sections_colored :
    ∃ map,
      (Settings.default.flattener.report (.message (.fresh none) colored)).outcome = .ok (some map)
        ∧ map.map (·.1) =
          ["JMS_HEADER_FIELD:JMSDeliveryMode", "JMS_HEADER_FIELD:JMSExpiration",
            "JMS_HEADER_FIELD:JMSMessageID", "JMS_HEADER_FIELD:JMSPriority",
            "JMS_HEADER_FIELD:JMSRedelivered", "JMS_HEADER_FIELD:JMSTimestamp",
            "JMS_CUSTOM_FIELD:color", "JMS_BODY_FIELD:n"].map Value.text := by
  have built : Message.build .map (.text "ID:1") (.int 5)
      [("properties", colored.header.properties),
        ("fields", .table none [(.text "n", .bool true)])] = .ok colored := rfl
  have tables : ∀ role store, colored.store? role = some store → store.IsTable := by
    rintro (_ | _) store found <;> cases found <;>
      exact ⟨none, _, rfl, by simp [Table.Distinct]⟩
  have texts : Settings.default.HasTexts "JMS_HEADER_FIELD:" "JMS_CUSTOM_FIELD:"
      "JMS_BODY_FIELD:" := ⟨rfl, rfl, rfl⟩
  have separate : ["JMS_HEADER_FIELD:", "JMS_CUSTOM_FIELD:", "JMS_BODY_FIELD:"].Pairwise
      Incomparable := by decide
  have isMessage : (Value.message (.fresh none) colored).IsMessage colored :=
    ⟨⟨none, rfl⟩, fun _ => rfl⟩
  have integral : Settings.default.chunkSize.integral? = some ((2147483647 : Nat) : Int) := rfl
  have fits : (Plan.message Settings.default "JMS_HEADER_FIELD:" "JMS_CUSTOM_FIELD:"
      "JMS_BODY_FIELD:" 2147483647 (.message (.fresh none) colored) colored).isOk = true := by
    decide +kernel
  have outcome := outcome_report_message texts (by decide) integral separate isMessage
    (Message.hasStores_of_build built tables)
  obtain ⟨pairs, written⟩ := Outcome.exists_of_isOk fits
  rw [written] at outcome
  obtain ⟨first, own, last, plan, listed, header, custom, planned, body⟩ :=
    (report_sections Settings.check_default integral texts separate built tables isMessage).mp
      outcome
  refine ⟨_, outcome, ?_⟩
  cases planned
  rw [listed, Table.keys_ofNamed]
  simp only [List.map_append, Plan.keys_of_write header, Plan.keys_of_write custom,
    Plan.keys_of_write body]
  rfl

end Flatten
end BrokerMaps
