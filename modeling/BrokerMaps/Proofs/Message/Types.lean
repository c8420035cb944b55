import BrokerMaps.Proofs.Message.Reading
import BrokerMaps.Proofs.Value.Writing

/-!
# Messages whose fields have their declared types

A header holds texts, targets, a delivery mode, short integers and a truth value, of which texts and
targets may be missing. The entries of a store, and the elements of a stream, are primitive values.
The payload of an object message can be any object that can be written. Nothing checks any of this
when a message is built.
-/
namespace BrokerMaps

open Outcome (Fails)

namespace Value

def IsOptionalText (value : Value) : Prop := value = .null ∨ ∃ s, value = .text s

/-- A destination that is named by a text, or null. -/
def IsOptionalTarget (value : Value) : Prop :=
  value = .null ∨ ∃ stamp kind name, value = .destination stamp kind (.text name)

/-- A store whose entries are primitive values. -/
structure HoldsPrimitives (store : Value) : Prop where
  isStore : store.IsStore
  primitive : ∀ entry ∈ store.named, entry.2.IsPrimitive

theorem IsOptionalText.not_fails_plain {value : Value} (isText : value.IsOptionalText) :
    ¬ Fails value.plain := by
  obtain rfl | ⟨s, rfl⟩ := isText
  · exact IsPrimitive.null.not_fails_plain
  · exact (IsPrimitive.text s).not_fails_plain

theorem IsOptionalText.not_fails_quoted {value : Value} (isText : value.IsOptionalText) :
    ¬ Fails value.quoted := by
  obtain rfl | ⟨s, rfl⟩ := isText
  · exact IsPrimitive.null.not_fails_quotedWithin []
  · exact (IsPrimitive.text s).not_fails_quotedWithin []

theorem IsOptionalTarget.hasPhysicalName {value : Value} (isTarget : value.IsOptionalTarget)
    (given : value ≠ .null) : value.HasPhysicalName := by
  obtain rfl | ⟨stamp, kind, name, rfl⟩ := isTarget
  · exact absurd rfl given
  · exact .inl ⟨stamp, kind, .text name, rfl⟩

theorem IsOptionalTarget.not_fails_formatted {value : Value} (isTarget : value.IsOptionalTarget) :
    ¬ Fails value.formatted := by
  obtain rfl | ⟨stamp, kind, name, rfl⟩ := isTarget
  · exact IsPrimitive.null.not_fails_plain
  · exact Outcome.not_fails_ok (kind.scheme ++ "://" ++ name)

/-- Comparing a mode with a number never fails. -/
theorem not_fails_equalTo_int {value : Value} {mode : DeliveryMode}
    (isMode : value.opened = .mode mode) (n : Int) : ¬ Fails (value.equalTo (.int n)) := by
  rw [equalTo, isMode]
  exact Outcome.not_fails_ok _

end Value

structure Header.WellTyped (header : Header Value) : Prop where
  messageId : header.messageId.IsOptionalText
  correlationId : header.correlationId.IsOptionalText
  deliveryMode : ∃ mode, header.deliveryMode.opened = .mode mode
  destination : header.destination.IsOptionalTarget
  replyTo : header.replyTo.IsOptionalTarget
  expiration : header.expiration.IsShortInteger
  priority : header.priority.IsShortInteger
  redelivered : ∃ b, header.redelivered = .bool b
  timestamp : header.timestamp.IsShortInteger
  messageType : header.messageType.IsOptionalText
  properties : header.properties.HoldsPrimitives

/-- The defaults of a header have their declared types, whatever properties it is given. -/
theorem Header.wellTyped_default {messageId : String} {timestamp : Nat} {properties : Value}
    (reportable : (timestamp : Int) < Value.lengthLimit) (primitive : properties.HoldsPrimitives) :
    { Message.defaultHeader (.text messageId) (.int timestamp) with properties }.WellTyped :=
  have short : ∀ n : Nat, (n : Int) < Value.lengthLimit → (Value.int n).IsShortInteger :=
    fun _ => Value.isShortInteger_of_lt_lengthLimit rfl
  { messageId := .inr ⟨messageId, rfl⟩, correlationId := .inl rfl, deliveryMode := ⟨_, rfl⟩
    destination := .inl rfl, replyTo := .inl rfl, expiration := short 0 (by decide)
    priority := short defaultPriority (by decide), redelivered := ⟨false, rfl⟩
    timestamp := short timestamp reportable, messageType := .inl rfl, properties := primitive }

inductive Payload.WellTyped : Payload Value → Prop
  | plain : Payload.WellTyped .plain
  | text {content : Value} (isText : content.IsOptionalText) : Payload.WellTyped (.text content)
  | bytes {body : List UInt8} (reportable : (body.length : Int) < Value.lengthLimit) :
      Payload.WellTyped (.bytes (.buffer .bytes body))
  | object {held : Value} (writable : ¬ Fails held.plain) : Payload.WellTyped (.object held)
  | map {fields : Value} (primitive : fields.HoldsPrimitives) : Payload.WellTyped (.map fields)
  | stream {elements : Value} {identity? : Option Nat} {items : List Value}
      (opens : elements.opened = .list identity? items)
      (primitive : ∀ item ∈ items, item.IsPrimitive) : Payload.WellTyped (.stream elements)

structure Message.WellTyped (content : Message Value) : Prop where
  header : content.header.WellTyped
  payload : content.payload.WellTyped

theorem Message.WellTyped.hasStores {content : Message Value} (typed : content.WellTyped) :
    content.HasStores where
  properties := typed.header.properties.isStore
  fields fields isMap := by
    have payload := typed.payload
    rw [isMap] at payload
    cases payload with
    | map primitive => exact primitive.isStore

end BrokerMaps
