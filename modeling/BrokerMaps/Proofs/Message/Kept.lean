import BrokerMaps.Message.Store
import BrokerMaps.Proofs.Value.NamedEntries

/-!
# Messages that are kept

A message is kept with all its fields. What is found of it has its fields found where they are kept,
and putting another store in changes nothing else in how it is kept.

## Main results

* `Message.identify_withStore`: what is found of a message, with another store in it, is kept as it
  was, but for that store.
* `Message.kept_identifyMessage`: a message that is kept has its fields kept, the stores among them.
-/
namespace BrokerMaps

section
open Value

variable {found kept : Header Value}

/-- A header with new properties is kept as it was, but for these. -/
theorem identifyHeader_properties (isFound : Table.Matched FoundOf found.fields kept.fields)
    (changed : Value) :
    identifyHeader { found with properties := changed } = (do
      let changedKept ← changed.identify
      pure { kept with properties := changedKept }) := by
  obtain ⟨f₁, f₂, f₃, f₄, f₅, f₆, f₇, f₈, f₉, f₁₀, f₁₁⟩ := found
  obtain ⟨k₁, k₂, k₃, k₄, k₅, k₆, k₇, k₈, k₉, k₁₀, k₁₁⟩ := kept
  simp only [Table.Matched, Header.fields, List.forall₂_cons, FoundOf, true_and] at isFound
  obtain ⟨h₁, h₂, h₃, h₄, h₅, h₆, h₇, h₈, h₉, h₁₀, -⟩ := isFound
  simp only [identifyHeader, h₁, h₂, h₃, h₄, h₅, h₆, h₇, h₈, h₉, h₁₀, pure_bind]

theorem identifyHeader_of_found (isFound : Table.Matched FoundOf found.fields kept.fields) :
    identifyHeader found = pure kept := by
  have properties : found.properties.identify = pure kept.properties := by
    simp only [Table.Matched, Header.fields, List.forall₂_cons, FoundOf] at isFound
    exact isFound.2.2.2.2.2.2.2.2.2.2.1.2
  have same := identifyHeader_properties isFound found.properties
  rwa [properties, pure_bind] at same

theorem identifyPayload_of_found {found kept : Payload Value}
    (isFound : Table.Matched FoundOf found.fields kept.fields) (kinds : found.kind = kept.kind) :
    identifyPayload found = pure kept := by
  cases found <;> cases kept <;> cases kinds
  case plain.refl => rfl
  all_goals
    simp only [Table.Matched, Payload.fields, List.forall₂_cons, FoundOf] at isFound
    rw [identifyPayload, isFound.1.2, pure_bind]

end

namespace Message

open Value

/-- Each field is kept. -/
def FieldsKept (content : Message Value) : Prop := ∀ field ∈ content.fields, field.2.IsKept

/-- A message whose fields are found where those of another are kept. -/
structure FoundOf (found kept : Message Value) : Prop where
  header : Table.Matched Value.FoundOf found.header.fields kept.header.fields
  payload : Table.Matched Value.FoundOf found.payload.fields kept.payload.fields
  kind : found.payload.kind = kept.payload.kind

variable {found kept : Message Value} {role : EntryRole} {store : Value}

theorem identify_withStore (isFound : found.FoundOf kept) (has : found.store? role = some store)
    (changed : Value) :
    identifyMessage (found.withStore role changed) = (do
      let changedKept ← changed.identify
      pure (kept.withStore role changedKept)) := by
  obtain ⟨header, payload⟩ := found
  obtain ⟨headerKept, payloadKept⟩ := kept
  obtain ⟨headerFound, payloadFound, kinds⟩ := isFound
  cases role with
  | property =>
    simp only [withStore, identifyMessage, identifyHeader_properties headerFound,
      identifyPayload_of_found payloadFound kinds, bind_assoc, pure_bind]
  | mapField =>
    cases payload <;> cases has
    cases payloadKept <;> cases kinds
    simp only [withStore, identifyMessage, identifyHeader_of_found headerFound, identifyPayload,
      bind_assoc, pure_bind]

theorem store?_withStore_self (has : found.store? role = some store) (changed : Value) :
    (found.withStore role changed).store? role = some changed := by
  obtain ⟨header, payload⟩ := found
  cases role with
  | property => rfl
  | mapField => cases payload <;> cases has; rfl

theorem store?_withStore_of_ne {other : EntryRole} (differ : other ≠ role)
    (changed : Value) (message : Message Value) :
    (message.withStore role changed).store? other = message.store? other := by
  obtain ⟨header, payload⟩ := message
  cases role <;> cases other
  case property.property | mapField.mapField => exact absurd rfl differ
  all_goals cases payload <;> rfl

theorem kind_withStore (role : EntryRole) (changed : Value) (message : Message Value) :
    (message.withStore role changed).kind = message.kind := by
  obtain ⟨header, payload⟩ := message
  cases role <;> cases payload <;> rfl

/-- What is found where a message is kept has its stores found where they are kept. -/
theorem store?_refreshMessage (modeNow : DeliveryMode → Value) (content : Nat → Value)
    (extra : Nat → String → Value) (message : Message Value) (role : EntryRole) :
    (refreshMessage modeNow content extra message).store? role
      = (message.store? role).map (refresh modeNow content extra) := by
  obtain ⟨⟨⟩, payload⟩ := message
  cases role <;> cases payload <;> rfl

theorem foundOf_refreshMessage {modeNow : DeliveryMode → Value} {content : Nat → Value}
    {extra : Nat → String → Value} (modes : ∀ m, (modeNow m).identify = pure (.mode m))
    (isKept : kept.FieldsKept) : (refreshMessage modeNow content extra kept).FoundOf kept := by
  have again : ∀ field ∈ kept.fields,
      Value.FoundOf (refresh modeNow content extra field.2) field.2 :=
    fun field member => (identify_refresh modes field.2).trans (isKept field member)
  obtain ⟨header, payload⟩ := kept
  obtain ⟨headerKept, payloadKept⟩ := List.forall_mem_append.mp again
  refine ⟨?_, ?_, ?_⟩
  · cases header
    exact Table.matched_map_left headerKept
  · cases payload <;> exact Table.matched_map_left payloadKept
  · cases payload <;> rfl

/-- What becomes of a value when it is kept. -/
theorem ensures_identify (value : Value) :
    Ensures (fun kept => kept.IsKept ∧ ∃ next, (value.identify.run next).1 = kept)
      value.identify :=
  fun next => ⟨isKept_identify value next, next, rfl⟩

theorem kept_identifyHeader (header : Header Value) :
    Ensures (fun kept => (∀ field ∈ kept.fields, field.2.IsKept)
      ∧ ∃ next, (header.properties.identify.run next).1 = kept.properties)
      (identifyHeader header) := by
  obtain ⟨messageId, correlationId, deliveryMode, target, replyTo, expiration, priority,
    redelivered, timestamp, messageType, properties⟩ := header
  rw [identifyHeader]
  refine ensures_bind (isKept_identify messageId) fun _ kept₁ =>
    ensures_bind (isKept_identify correlationId) fun _ kept₂ =>
    ensures_bind (isKept_identify deliveryMode) fun _ kept₃ =>
    ensures_bind (isKept_identify target) fun _ kept₄ =>
    ensures_bind (isKept_identify replyTo) fun _ kept₅ =>
    ensures_bind (isKept_identify expiration) fun _ kept₆ =>
    ensures_bind (isKept_identify priority) fun _ kept₇ =>
    ensures_bind (isKept_identify redelivered) fun _ kept₈ =>
    ensures_bind (isKept_identify timestamp) fun _ kept₉ =>
    ensures_bind (isKept_identify messageType) fun _ kept₁₀ =>
    ensures_bind (ensures_identify properties) fun _ kept₁₁ => ensures_pure ⟨?_, kept₁₁.2⟩
  simp only [Header.fields, List.forall_mem_cons, kept₁, kept₂, kept₃, kept₄, kept₅, kept₆, kept₇,
    kept₈, kept₉, kept₁₀, kept₁₁.1, true_and]
  exact nofun

theorem kept_identifyPayload (payload : Payload Value) (header headerKept : Header Value) :
    Ensures (fun kept => (∀ field ∈ kept.fields, field.2.IsKept) ∧ kept.kind = payload.kind
      ∧ Option.Rel (fun store storeKept => ∃ next, (store.identify.run next).1 = storeKept)
        (store? .mapField ⟨header, payload⟩) (store? .mapField ⟨headerKept, kept⟩))
      (identifyPayload payload) := by
  cases payload with
  | plain => exact ensures_pure ⟨nofun, rfl, .none⟩
  | map fields =>
    rw [identifyPayload]
    exact ensures_bind (ensures_identify fields) fun _ kept =>
      ensures_pure ⟨List.forall_mem_singleton.mpr kept.1, rfl, .some kept.2⟩
  | text content | bytes content | object content | stream content =>
    rw [identifyPayload]
    exact ensures_bind (isKept_identify content) fun _ kept =>
      ensures_pure ⟨List.forall_mem_singleton.mpr kept, rfl, .none⟩

/-- Every field of a message is kept once the message is, and the stores among them. -/
theorem kept_identifyMessage (message : Message Value) :
    Ensures (fun kept => kept.FieldsKept ∧ kept.kind = message.kind ∧ ∀ role,
      Option.Rel (fun store storeKept => ∃ next, (store.identify.run next).1 = storeKept)
        (message.store? role) (kept.store? role)) (identifyMessage message) := by
  obtain ⟨header, payload⟩ := message
  rw [identifyMessage]
  refine ensures_bind (kept_identifyHeader header) fun headerKept headerIsKept =>
    ensures_bind (kept_identifyPayload payload header headerKept) fun payloadKept payloadIsKept =>
    ensures_pure ⟨List.forall_mem_append.mpr ⟨headerIsKept.1, payloadIsKept.1⟩,
      payloadIsKept.2.1, fun role => ?_⟩
  cases role with
  | property => exact .some headerIsKept.2
  | mapField => exact payloadIsKept.2.2

theorem fieldsKept_of_isKept {stamp : Stamp} (isKept : (Value.message stamp kept).IsKept) :
    kept.FieldsKept := by
  have ensured := (kept_identifyMessage kept 0).1
  rwa [(Value.isKept_message_iff.mp isKept).2] at ensured

end Message
end BrokerMaps
