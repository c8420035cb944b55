import BrokerMaps.Proofs.Flatten.Layout
import BrokerMaps.Proofs.Flatten.Reports
import BrokerMaps.Proofs.Message.Types

/-!
# What keeps a message from being flattened

A field is written only where it is not null, and each in its own way: a target of messages gives
its physical name, a delivery mode is compared with the mode that it may be, a truth value is
written in its own words, and most other fields are written plainly. A body is asked for its length,
and its content is read only where the rendering shows it. `Message.Obstructed` lists what can go
wrong, field by field. Nothing else can.

## Main result

`Flatten.report_fails_iff`: flattening a message fails exactly when it is obstructed, and a message
whose fields have their declared types is not.

## Proof strategy

A message is written section by section from a plan of named texts, so it fails when one of the
planned texts does. Which texts these are is read off the plan of each section.
-/
namespace BrokerMaps

open Outcome (Fails fails_map_iff fails_mapM_iff)

/-! ## Obstacles -/

/-- What can go wrong with a field of the header or with a property. -/
inductive Header.Obstructed (header : Header Value) : Prop
  | destination (given : header.destination ≠ .null)
      (nameless : ¬ header.destination.HasPhysicalName)
  | replyTo (given : header.replyTo ≠ .null) (nameless : ¬ header.replyTo.HasPhysicalName)
  | deliveryMode (unanswered : Fails (header.deliveryMode.equalTo (.int 2)))
  | correlationId (given : header.correlationId ≠ .null)
      (unwritable : Fails header.correlationId.plain)
  | messageId (given : header.messageId ≠ .null) (unwritable : Fails header.messageId.plain)
  | messageType (given : header.messageType ≠ .null)
      (unwritable : Fails header.messageType.plain)
  | expiration (unwritable : Fails header.expiration.plain)
  | priority (unwritable : Fails header.priority.plain)
  | timestamp (unwritable : Fails header.timestamp.plain)
  | redelivered (noTruth : ∀ b, header.redelivered ≠ .bool b)
      (unwritable : Fails header.redelivered.plain)
  | property {entry : String × Value} (member : entry ∈ header.properties.named)
      (given : entry.2 ≠ .null) (unwritable : Fails entry.2.plain)

/-- What can go wrong with a payload. -/
inductive Payload.Obstructed (settings : Settings) (header : Header Value) : Payload Value → Prop
  | length {body : Value} (unknown : Fails body.length) :
      Payload.Obstructed settings header (.bytes body)
  | chunk {body : Value} {length size i : Nat} (known : body.length = .ok length)
      (integral : settings.chunkSize.integral? = some (size : Int))
      (shown : settings.rendering = .text ∨ settings.rendering = .base64)
      (inside : i < length / size + 1)
      (unreadable : Fails (body.sliceBytes (spanAt length size i).start
        ((spanAt length size i).start + (spanAt length size i).size))) :
      Payload.Obstructed settings header (.bytes body)
  | object {held : Value} (given : held ≠ .null) (unwritable : Fails held.plain) :
      Payload.Obstructed settings header (.object held)
  | field {fields : Value} {entry : String × Value} (member : entry ∈ fields.named)
      (given : entry.2 ≠ .null) (unwritable : Fails entry.2.plain) :
      Payload.Obstructed settings header (.map fields)
  | stream {elements : Value}
      (unwritable : Fails header.messageId.quoted ∨ Fails header.destination.formatted
        ∨ Fails elements.quoted) :
      Payload.Obstructed settings header (.stream elements)

/-- What can go wrong with a message. -/
def Message.Obstructed (settings : Settings) (content : Message Value) : Prop :=
  content.header.Obstructed ∨ content.payload.Obstructed settings content.header

/-! ## Plans with a text that fails -/

namespace Plan

open Flatten (plainText physicalName asText)

def HasFault (plan : Plan) : Prop := ∃ planned ∈ plan, Fails planned.2

@[simp] theorem fails_write_iff {lead : String} {plan : Plan} :
    Fails (plan.write lead) ↔ plan.HasFault := by
  simp [write, HasFault, fails_mapM_iff]

theorem hasFault_append_iff {first second : Plan} :
    HasFault (first ++ second) ↔ first.HasFault ∨ second.HasFault := by
  simp only [HasFault, List.mem_append, or_and_right, exists_or]

theorem hasFault_singleton_iff {name : String} {text : Except Fault Value} :
    HasFault [(name, text)] ↔ Fails text := by
  simp [HasFault]

theorem hasFault_unlessNull_iff {content : Value} {name : String} {text : Except Fault Value} :
    (unlessNull content name text).HasFault ↔ content ≠ .null ∧ Fails text := by
  rw [unlessNull]
  split
  next null =>
    rw [Value.isNull_eq_true_iff] at null
    simp [HasFault, null]
  next given =>
    rw [Value.isNull_eq_true_iff] at given
    simp [hasFault_singleton_iff, given]

theorem hasFault_flatMap_iff {α : Type} {xs : List α} {plan : α → Plan} :
    HasFault (xs.flatMap plan) ↔ ∃ x ∈ xs, (plan x).HasFault := by
  simp only [HasFault, List.mem_flatMap]
  constructor
  · rintro ⟨planned, ⟨x, inXs, here⟩, fails⟩
    exact ⟨x, inXs, planned, here, fails⟩
  · rintro ⟨x, inXs, planned, here, fails⟩
    exact ⟨planned, ⟨x, inXs, here⟩, fails⟩

/-- Three sections are written unless one of them has a text that fails, or the last cannot be
planned at all. -/
theorem fails_message_iff {settings : Settings} {header custom body : String} {size : Nat}
    {value : Value} {content : Message Value} :
    Fails (message settings header custom body size value content) ↔
      (Plan.header content.header).HasFault
        ∨ (store content.header.properties.named).HasFault
        ∨ Fails (payload settings size value content.payload)
        ∨ ∃ plan, payload settings size value content.payload = .ok plan ∧ plan.HasFault := by
  rw [message, ← fails_write_iff, ← fails_write_iff]
  cases (Plan.header content.header).write header with
  | error fault => simp
  | ok first =>
    cases (store content.header.properties.named).write custom with
    | error fault => simp
    | ok own =>
      cases payload settings size value content.payload with
      | error fault => simp
      | ok plan =>
        have closing : plan.HasFault ↔ Fails (plan.write body) := fails_write_iff.symm
        cases written : plan.write body with
        | error fault => simp [closing, written]
        | ok last => simp [closing, written, pure, Except.pure]

/-! ## Sections -/

theorem fails_physicalName_iff {target : Value} :
    Fails (physicalName target) ↔ ¬ target.HasPhysicalName := Value.fails_field_physicalName_iff

theorem hasFault_store_iff {entries : List (String × Value)} :
    (store entries).HasFault ↔ ∃ entry ∈ entries, entry.2 ≠ .null ∧ Fails entry.2.plain := by
  simp only [store, hasFault_flatMap_iff, hasFault_unlessNull_iff, asText, fails_map_iff,
    Value.fails_mapText_iff]

theorem hasFault_header_iff {content : Header Value} :
    (header content).HasFault ∨ (store content.properties.named).HasFault
      ↔ content.Obstructed := by
  have plain : ∀ value, Fails (plainText value) ↔ Fails value.plain := fun _ => fails_map_iff
  have redelivered : Fails (asText content.redelivered.mapText) ↔
      (∀ b, content.redelivered ≠ .bool b) ∧ Fails content.redelivered.plain := by
    rw [asText, fails_map_iff, Value.fails_mapText_iff]
    refine ⟨fun fails => ⟨?_, fails⟩, fun fails => fails.2⟩
    -- A truth value is always written.
    rintro b isTruth
    rw [isTruth] at fails
    simp [Value.plain, Value.quoted, Value.quotedWithin] at fails
  rw [hasFault_store_iff]
  simp only [header, hasFault_append_iff, hasFault_unlessNull_iff, hasFault_singleton_iff, plain,
    redelivered, fails_physicalName_iff, fails_map_iff, or_assoc]
  constructor
  · rintro (⟨given, fails⟩ | unanswered | ⟨given, nameless⟩ | fails | ⟨given, fails⟩ | fails
      | ⟨noTruth, fails⟩ | ⟨given, nameless⟩ | fails | ⟨given, fails⟩
      | ⟨entry, member, given, fails⟩)
    · exact .correlationId given fails
    · exact .deliveryMode unanswered
    · exact .destination given nameless
    · exact .expiration fails
    · exact .messageId given fails
    · exact .priority fails
    · exact .redelivered noTruth fails
    · exact .replyTo given nameless
    · exact .timestamp fails
    · exact .messageType given fails
    · exact .property member given fails
  · intro obstructed
    cases obstructed with
    | destination given nameless => simp [given, nameless]
    | replyTo given nameless => simp [given, nameless]
    | deliveryMode unanswered => simp [unanswered]
    | correlationId given fails => simp [given, fails]
    | messageId given fails => simp [given, fails]
    | messageType given fails => simp [given, fails]
    | expiration fails => simp [fails]
    | priority fails => simp [fails]
    | timestamp fails => simp [fails]
    | redelivered noTruth fails => simp [noTruth, fails]
    | property member given fails =>
      simp only [← or_assoc]
      exact .inr ⟨_, member, given, fails⟩

/-! ## Payloads -/

/-- The size of a chunk can be written, the given size of a whole one as well as what remains. -/
theorem isShortInteger_shownSize {settings : Settings} {length size i : Nat}
    (integral : settings.chunkSize.integral? = some (size : Int))
    (reportable : (length : Int) < Value.lengthLimit) :
    (if i < length / size then settings.chunkSize
      else .int (length % size : Nat)).IsShortInteger := by
  split
  next whole =>
    have one : 1 * size ≤ length / size * size := Nat.mul_le_mul_right size (by omega)
    have small : size ≤ length := by
      have division := Nat.div_mul_le_self length size
      omega
    exact Value.isShortInteger_of_lt_lengthLimit integral (by omega)
  next =>
    have small := Nat.mod_le length size
    exact Value.isShortInteger_of_lt_lengthLimit rfl (by omega)

theorem fails_render_iff {rendering : Rendering} {body shownSize : Value} {start size : Int}
    (short : shownSize.IsShortInteger) :
    Fails (rendering.render body start size shownSize) ↔
      (rendering = .text ∨ rendering = .base64) ∧ Fails (body.sliceBytes start (start + size)) := by
  cases rendering with
  | text =>
    cases read : body.sliceBytes start (start + size) <;>
      simp [Rendering.render, read, pure, Except.pure]
  | base64 =>
    cases read : body.sliceBytes start (start + size) <;>
      simp [Rendering.render, read, pure, Except.pure]
  | length => simpa [Rendering.render] using short.not_fails_plain

theorem hasFault_chunks_iff {settings : Settings} {body : Value} {length size : Nat}
    (integral : settings.chunkSize.integral? = some (size : Int))
    (reportable : (length : Int) < Value.lengthLimit) :
    (chunks settings body length size).HasFault ↔
      ∃ i < length / size + 1, (settings.rendering = .text ∨ settings.rendering = .base64)
        ∧ Fails (body.sliceBytes (spanAt length size i).start
          ((spanAt length size i).start + (spanAt length size i).size)) := by
  have listed : (chunks settings body length size).HasFault ↔
      ∃ i < length / size + 1, Fails (chunkText settings body length size i) := by
    simp [chunks, HasFault]
  rw [listed]
  refine exists_congr fun i => and_congr_right fun _ => ?_
  rw [chunkText, asText, fails_map_iff]
  exact fails_render_iff (isShortInteger_shownSize integral reportable)

/-- A payload cannot be planned, or what is planned for it cannot be written. -/
theorem fault_payload_iff {settings : Settings} {size : Nat} {value : Value}
    {header : Header Value} {held : Payload Value}
    (integral : settings.chunkSize.integral? = some (size : Int))
    (isMessage : value.IsMessage ⟨header, held⟩)
    (reportable : ∀ body length, held = .bytes body → body.length = .ok length →
      (length : Int) < Value.lengthLimit) :
    (Fails (payload settings size value held)
        ∨ ∃ plan, payload settings size value held = .ok plan ∧ plan.HasFault)
      ↔ held.Obstructed settings header := by
  have planned : ∀ plan, payload settings size value held = .ok plan →
      ((Fails (payload settings size value held)
          ∨ ∃ plan, payload settings size value held = .ok plan ∧ plan.HasFault)
        ↔ plan.HasFault) := by
    intro plan isPlan
    simp [isPlan]
  cases held with
  | plain =>
    rw [planned [] rfl]
    exact ⟨nofun, nofun⟩
  | text content =>
    rw [planned _ rfl, hasFault_unlessNull_iff]
    exact ⟨fun fails => absurd fails.2 (Outcome.not_fails_ok content), nofun⟩
  | bytes body =>
    cases known : body.length with
    | error fault =>
      have unknown : Fails body.length := ⟨fault, known⟩
      simp [payload, known, Payload.Obstructed.length unknown]
    | ok length =>
      have isPlan : payload settings size value (.bytes body) =
          .ok (chunks settings body length size) := by simp [payload, known]
      rw [planned _ isPlan, hasFault_chunks_iff integral (reportable body length rfl known)]
      constructor
      · rintro ⟨i, inside, shown, unreadable⟩
        exact .chunk known integral shown inside unreadable
      · intro obstructed
        cases obstructed with
        | length unknown => simp [known] at unknown
        | chunk again same shown inside unreadable =>
          -- The length and the chunk size are the ones at hand.
          cases known.symm.trans again
          cases Int.ofNat_inj.mp (Option.some.inj (integral.symm.trans same))
          exact ⟨_, inside, shown, unreadable⟩
  | object content =>
    rw [planned _ rfl]
    simp only [hasFault_append_iff, hasFault_unlessNull_iff, Outcome.not_fails_ok, and_false,
      false_or, plainText, asText, fails_map_iff]
    constructor
    · rintro ⟨given, unwritable⟩
      exact .object given unwritable
    · intro obstructed
      cases obstructed with
      | object given unwritable => exact ⟨given, unwritable⟩
  | map fields =>
    rw [planned _ rfl, hasFault_store_iff]
    constructor
    · rintro ⟨entry, member, given, unwritable⟩
      exact .field member given unwritable
    · intro obstructed
      cases obstructed with
      | field member given unwritable => exact ⟨_, member, given, unwritable⟩
  | stream elements =>
    obtain ⟨identity?, opens⟩ := isMessage.opened
    rw [planned _ rfl, hasFault_singleton_iff, plainText, asText, fails_map_iff,
      Value.plain_of_opened_message opens, Value.fails_plain_stream_iff]
    constructor
    · exact .stream
    · intro obstructed
      cases obstructed with
      | stream unwritable => exact unwritable

/-- Writing the sections of a message fails exactly when the message is obstructed. -/
theorem fails_message_iff_obstructed {settings : Settings} {header custom body : String}
    {size : Nat} {value : Value} {content : Message Value}
    (integral : settings.chunkSize.integral? = some (size : Int))
    (isMessage : value.IsMessage content)
    (reportable : ∀ body length, content.payload = .bytes body → body.length = .ok length →
      (length : Int) < Value.lengthLimit) :
    Fails (message settings header custom body size value content) ↔
      content.Obstructed settings := by
  rw [fails_message_iff, ← or_assoc, hasFault_header_iff,
    fault_payload_iff integral isMessage reportable, Message.Obstructed]

end Plan

/-! ## Declared types -/

theorem Header.WellTyped.not_obstructed {header : Header Value} (typed : header.WellTyped) :
    ¬ header.Obstructed := by
  intro obstructed
  cases obstructed with
  | destination given nameless => exact nameless (typed.destination.hasPhysicalName given)
  | replyTo given nameless => exact nameless (typed.replyTo.hasPhysicalName given)
  | deliveryMode unanswered =>
    obtain ⟨mode, isMode⟩ := typed.deliveryMode
    exact Value.not_fails_equalTo_int isMode 2 unanswered
  | correlationId given fails => exact typed.correlationId.not_fails_plain fails
  | messageId given fails => exact typed.messageId.not_fails_plain fails
  | messageType given fails => exact typed.messageType.not_fails_plain fails
  | expiration fails => exact typed.expiration.not_fails_plain fails
  | priority fails => exact typed.priority.not_fails_plain fails
  | timestamp fails => exact typed.timestamp.not_fails_plain fails
  | redelivered noTruth fails =>
    obtain ⟨b, isTruth⟩ := typed.redelivered
    exact noTruth b isTruth
  | property member given fails =>
    exact (typed.properties.primitive _ member).not_fails_plain fails

theorem Payload.WellTyped.not_obstructed {payload : Payload Value} (typed : payload.WellTyped)
    {header : Header Value} (headed : header.WellTyped) (settings : Settings) :
    ¬ payload.Obstructed settings header := by
  intro obstructed
  cases typed with
  | plain => cases obstructed
  | text isText => cases obstructed
  | bytes reportable =>
    cases obstructed with
    -- Bytes have a length, and every slice of them is bytes.
    | length unknown => simp [Value.length, Value.opened] at unknown
    | chunk known integral shown inside unreadable =>
      simp [Value.sliceBytes, Value.opened] at unreadable
  | object writable =>
    cases obstructed with
    | object given fails => exact writable fails
  | map primitive =>
    cases obstructed with
    | field member given fails => exact (primitive.primitive _ member).not_fails_plain fails
  | stream opens primitive =>
    cases obstructed with
    | stream fails =>
      obtain fails | fails | fails := fails
      · exact headed.messageId.not_fails_quoted fails
      · exact headed.destination.not_fails_formatted fails
      · exact Value.not_fails_quoted_of_opened_list opens primitive fails

theorem Message.WellTyped.not_obstructed {content : Message Value} (typed : content.WellTyped)
    (settings : Settings) : ¬ content.Obstructed settings := by
  rintro (inHeader | inPayload)
  · exact typed.header.not_obstructed inHeader
  · exact typed.payload.not_obstructed typed.header settings inPayload

theorem Message.WellTyped.length_lt {content : Message Value} (typed : content.WellTyped) :
    ∀ body length, content.payload = .bytes body → body.length = .ok length →
      (length : Int) < Value.lengthLimit := by
  intro body length isBytes known
  have payload := typed.payload
  rw [isBytes] at payload
  cases payload with
  | bytes reportable =>
    cases known
    exact reportable

/-! ## Reports -/

namespace Flatten

variable {settings : Settings} {header custom body : String} {size : Nat} {value : Value}
  {content : Message Value}

/-- Flattening a message fails when its sections cannot be written. -/
theorem fails_report_iff (texts : settings.HasTexts header custom body) (positive : 0 < size)
    (integral : settings.chunkSize.integral? = some (size : Int))
    (isMessage : value.IsMessage content) (stores : content.HasStores)
    (reportable : ∀ body length, content.payload = .bytes body → body.length = .ok length →
      (length : Int) < Value.lengthLimit) :
    Fails (settings.flattener.report value).outcome ↔ content.Obstructed settings := by
  have contributed := messageContributions_eq texts positive integral isMessage stores
  have sections : Fails (Plan.message settings header custom body size value content) ↔
      content.Obstructed settings :=
    Plan.fails_message_iff_obstructed integral isMessage reportable
  rw [← sections, outcome_report isMessage.shapeOf, Shape.contributions, contributed]
  cases Plan.message settings header custom body size value content <;> simp

/-- A message is either flattened to a map or it fails. -/
theorem exists_map_of_not_fails (isMessage : value.IsMessage content)
    (succeeds : ¬ Fails (settings.flattener.report value).outcome) :
    ∃ map, (settings.flattener.report value).outcome = .ok (some map) := by
  rw [outcome_report isMessage.shapeOf] at succeeds ⊢
  cases read : Shape.contributions settings.flattener (.message content.kind) value with
  | ok contributions => exact ⟨_, rfl⟩
  | error fault => simp [read] at succeeds

/-- A message that was built with tables for its stores fails to be flattened exactly when one of
its fields is in the way, under accepted settings with texts for prefixes and an integer for the
chunk size. Where all fields have their declared types none is, and the message becomes a map. No
body is longer than what can be reported as a length. -/
theorem report_fails_iff {draft : Settings.Draft} {settings : Settings} {size : Int}
    {header custom body : String} {kind : MessageKind} {messageId timestamp : Value}
    {arguments : List (String × Value)} {content : Message Value} {value : Value}
    (accepted : Settings.check draft = .ok settings)
    (integral : settings.chunkSize.integral? = some size)
    (texts : settings.HasTexts header custom body)
    (built : Message.build kind messageId timestamp arguments = .ok content)
    (tables : ∀ role store, content.store? role = some store → store.IsTable)
    (isMessage : value.IsMessage content)
    (reportable : ∀ body length, content.payload = .bytes body → body.length = .ok length →
      (length : Int) < Value.lengthLimit) :
    ((∃ fault, (settings.flattener.report value).outcome = .error fault)
        ↔ content.Obstructed settings)
      ∧ (content.WellTyped →
          ∃ map, (settings.flattener.report value).outcome = .ok (some map)) := by
  have stores := Message.hasStores_of_build built tables
  have bound := Settings.one_le_of_check accepted integral
  obtain ⟨size, rfl⟩ := Int.eq_ofNat_of_zero_le (show 0 ≤ size by omega)
  have fails := fails_report_iff texts (show 0 < size by omega) integral isMessage stores
    reportable
  refine ⟨fails, fun typed => exists_map_of_not_fails isMessage ?_⟩
  rw [fails]
  exact typed.not_obstructed settings

/-- An object message by its payload. -/
def carrying (payload : Value) : Message Value :=
  ⟨Message.defaultHeader (.text "ID:1") (.int 5), .object payload⟩

/-- A payload that cannot be written keeps a message from being flattened, and without it the
message is flattened. -/
theorem report_fails_iff_payload :
    let gauge : Value := .object <|
      .ordinary 1 ⟨"app.model", "Gauge", "Gauge"⟩ "<Gauge>" (.error (.raised .value "no reading"))
    (∃ fault, (Settings.default.flattener.report
        (.message (.fresh none) (carrying gauge))).outcome = .error fault)
      ∧ ∃ map, (Settings.default.flattener.report
        (.message (.fresh none) (carrying .null))).outcome = .ok (some map) := by
  intro gauge
  have integral : Settings.default.chunkSize.integral? = some 2147483647 := rfl
  have texts : Settings.default.HasTexts "JMS_HEADER_FIELD:" "JMS_CUSTOM_FIELD:"
      "JMS_BODY_FIELD:" := ⟨rfl, rfl, rfl⟩
  have built : ∀ payload, Message.build .object (.text "ID:1") (.int 5) [("payload", payload)]
      = .ok (carrying payload) := fun _ => rfl
  have tables : ∀ payload role store, (carrying payload).store? role = some store →
      store.IsTable := by
    rintro payload (_ | _) store found <;> cases found
    exact ⟨none, [], rfl, .nil⟩
  have isMessage : ∀ payload,
      (Value.message (.fresh none) (carrying payload)).IsMessage (carrying payload) :=
    fun _ => ⟨⟨none, rfl⟩, fun _ => rfl⟩
  -- The two messages differ in nothing but the payload.
  have flattens : ∀ payload, _ := fun payload =>
    report_fails_iff Settings.check_default integral texts (built payload) (tables payload)
      (isMessage payload) nofun
  have store : (Value.table none []).HoldsPrimitives := ⟨⟨⟨none, rfl⟩, .nil⟩, nofun⟩
  have headed : Header.WellTyped (Message.defaultHeader (.text "ID:1") (.int 5)) :=
    Header.wellTyped_default (by decide) store
  exact ⟨(flattens gauge).1.mpr (.inr (.object nofun ⟨_, rfl⟩)),
    (flattens .null).2 ⟨headed, .object Value.IsPrimitive.null.not_fails_plain⟩⟩

/-- An object that cannot tell whether it is equal to anything. -/
def incomparable : AppObject :=
  { AppObject.ordinary 1 ⟨"app.model", "Signal", "Signal"⟩ "<Signal>" (.ok "<Signal>") with
    equality := fun _ => .error (.raised .value "no comparison") }

/-- An object that is no destination but was given a physical name. -/
def route : Value :=
  .shared 2 ⟨"app.model", "Route", "Route"⟩
    (fun _ => .object (.ordinary 2 ⟨"app.model", "Route", "Route"⟩ "<Route>" (.ok "<Route>")))
    fun name => if name = "physical_name" then .text "q" else .unread

/-- A message by its delivery mode and its destination. -/
def sending (deliveryMode target : Value) : Message Value :=
  ⟨{ Message.defaultHeader (.text "ID:1") (.int 5) with deliveryMode, destination := target },
    .plain⟩

/-- A message whose delivery mode cannot be compared is not flattened, although everything else is
of its declared type. And a message is flattened that goes to what is no destination. -/
theorem report_fails_iff_incomparable :
    (sending (.mode .persistent) .null).WellTyped
      ∧ (∃ fault, (Settings.default.flattener.report
          (.message (.fresh none) (sending (.object incomparable) .null))).outcome = .error fault)
      ∧ (∀ stamp kind name, route.opened ≠ .destination stamp kind name)
      ∧ ∃ map, (Settings.default.flattener.report
          (.message (.fresh none) (sending (.mode .persistent) route))).outcome
            = .ok (some map) := by
  have store : (Value.table none []).HoldsPrimitives := ⟨⟨⟨none, rfl⟩, .nil⟩, nofun⟩
  refine ⟨⟨Header.wellTyped_default (by decide) store, .plain⟩, ?_, nofun, ?_⟩
  · have texts : Settings.default.HasTexts "JMS_HEADER_FIELD:" "JMS_CUSTOM_FIELD:"
        "JMS_BODY_FIELD:" := ⟨rfl, rfl, rfl⟩
    have isMessage : (Value.message (.fresh none) (sending (.object incomparable) .null)).IsMessage
        (sending (.object incomparable) .null) := ⟨⟨none, rfl⟩, fun _ => rfl⟩
    have stores : (sending (.object incomparable) .null).HasStores := ⟨store.isStore, nofun⟩
    have unanswered : Fails ((sending (.object incomparable) .null).header.deliveryMode.equalTo
        (.int 2)) := ⟨.raised .value "no comparison", rfl⟩
    exact (fails_report_iff texts (show 0 < 2147483647 by decide) rfl isMessage stores nofun).mpr
      (.inl (.deliveryMode unanswered))
  · have known : Shape.of? (.message (.fresh none) (sending (.mode .persistent) route)) =
        some (.message .plain) := rfl
    exact exists_outcome_of_isOk known (by decide +kernel)

end Flatten
end BrokerMaps
