import BrokerMaps.Value.Reference

/-!
# Giving out identities

A value that is to be kept gets an identity for every container and record in it that has none yet,
each the next that is free. The count of those given out only goes up, so what is given out once is
never given out again.

## Main result

`grows_identify`
-/
namespace BrokerMaps.Value

/-- A step of numbering never goes back to a number that it has passed. -/
def Grows {α : Type} (numbering : StateM Nat α) : Prop :=
  ∀ next, next ≤ (numbering.run next).2

variable {α β : Type} {numbering : StateM Nat α} {others : α → StateM Nat β}

theorem grows_pure (a : α) : Grows (pure a) := fun _ => Nat.le_refl _

theorem grows_bind (here : Grows numbering) (later : ∀ a, Grows (others a)) :
    Grows (numbering >>= others) := fun next =>
  Nat.le_trans (here next) (later (numbering.run next).1 (numbering.run next).2)

theorem grows_identityOf (identity? : Option Nat) : Grows (identityOf identity?) := by
  cases identity? with
  | none => exact fun next => Nat.le_succ next
  | some identity => exact grows_pure identity

theorem grows_stampOf (stamp : Stamp) : Grows (stampOf stamp) :=
  grows_bind (grows_identityOf _) fun _ => grows_pure _

-- The cases follow those of `identify` and its companions: identities for the parts, in order.
mutual

theorem grows_identify : ∀ value : Value, Grows (identify value)
  -- Numbers are taken for the value and then for its parts, and none is ever given back.
  | .list identity? items => by
    rw [identify]
    exact grows_bind (grows_identityOf _) fun _ => grows_bind (grows_identifyAll items) fun _ =>
      grows_pure _
  | .tuple identity? items => by
    rw [identify]
    exact grows_bind (grows_identityOf _) fun _ => grows_bind (grows_identifyAll items) fun _ =>
      grows_pure _
  | .table identity? entries => by
    rw [identify]
    exact grows_bind (grows_identityOf _) fun _ =>
      grows_bind (grows_identifyEntries entries) fun _ => grows_pure _
  | .destination stamp kind physicalName => by
    rw [identify]
    exact grows_bind (grows_stampOf _) fun _ => grows_bind (grows_identify physicalName) fun _ =>
      grows_pure _
  | .beanName stamp ⟨domain, components⟩ => by
    rw [identify]
    exact grows_bind (grows_stampOf _) fun _ => grows_bind (grows_identify domain) fun _ =>
      grows_bind (grows_identifyComponents components) fun _ => grows_pure _
  | .beanInstance stamp ⟨identity, reported⟩ => by
    rw [identify]
    exact grows_bind (grows_stampOf _) fun _ => grows_bind (grows_identify identity) fun _ =>
      grows_bind (grows_identify reported) fun _ => grows_pure _
  | .beanAttribute item => by
    rw [identify]
    exact grows_bind (grows_identifyAttribute item) fun _ => grows_pure _
  | .attributeList stamp items => by
    rw [identify]
    exact grows_bind (grows_stampOf _) fun _ => grows_bind (grows_identifyAttributes items) fun _ =>
      grows_pure _
  | .message stamp content => by
    rw [identify]
    exact grows_bind (grows_stampOf _) fun _ => grows_bind (grows_identifyMessage content) fun _ =>
      grows_pure _
  | .shared identity className _ _ => by
    rw [identify]
    exact grows_pure _
  | .null | .bool _ | .int _ | .float _ _ | .text _ | .buffer _ _ | .mode _ | .object _
  | .sized _ _ | .unread => by
    simp only [identify]
    exact grows_pure _

theorem grows_identifyAll : ∀ items : List Value, Grows (identifyAll items)
  | [] => by
    rw [identifyAll]
    exact grows_pure _
  | item :: rest => by
    rw [identifyAll]
    exact grows_bind (grows_identify item) fun _ => grows_bind (grows_identifyAll rest) fun _ =>
      grows_pure _

theorem grows_identifyEntries : ∀ entries : List (Value × Value), Grows (identifyEntries entries)
  | [] => by
    rw [identifyEntries]
    exact grows_pure _
  | (key, value) :: rest => by
    rw [identifyEntries]
    exact grows_bind (grows_identify key) fun _ => grows_bind (grows_identify value) fun _ =>
      grows_bind (grows_identifyEntries rest) fun _ => grows_pure _

theorem grows_identifyComponents :
    ∀ components : List (String × Value), Grows (identifyComponents components)
  | [] => by
    rw [identifyComponents]
    exact grows_pure _
  | (key, value) :: rest => by
    rw [identifyComponents]
    exact grows_bind (grows_identify value) fun _ =>
      grows_bind (grows_identifyComponents rest) fun _ => grows_pure _

theorem grows_identifyAttribute : ∀ item : Attribute Value, Grows (identifyAttribute item)
  | ⟨stamp, name, value⟩ => by
    rw [identifyAttribute]
    exact grows_bind (grows_stampOf _) fun _ => grows_bind (grows_identify name) fun _ =>
      grows_bind (grows_identify value) fun _ => grows_pure _

theorem grows_identifyAttributes :
    ∀ items : List (Attribute Value), Grows (identifyAttributes items)
  | [] => by
    rw [identifyAttributes]
    exact grows_pure _
  | item :: rest => by
    rw [identifyAttributes]
    exact grows_bind (grows_identifyAttribute item) fun _ =>
      grows_bind (grows_identifyAttributes rest) fun _ => grows_pure _

theorem grows_identifyHeader : ∀ header : Header Value, Grows (identifyHeader header)
  | ⟨messageId, correlationId, deliveryMode, target, replyTo, expiration, priority, redelivered,
      timestamp, messageType, properties⟩ => by
    rw [identifyHeader]
    exact grows_bind (grows_identify messageId) fun _ =>
      grows_bind (grows_identify correlationId) fun _ =>
      grows_bind (grows_identify deliveryMode) fun _ =>
      grows_bind (grows_identify target) fun _ =>
      grows_bind (grows_identify replyTo) fun _ =>
      grows_bind (grows_identify expiration) fun _ =>
      grows_bind (grows_identify priority) fun _ =>
      grows_bind (grows_identify redelivered) fun _ =>
      grows_bind (grows_identify timestamp) fun _ =>
      grows_bind (grows_identify messageType) fun _ =>
      grows_bind (grows_identify properties) fun _ => grows_pure _

theorem grows_identifyPayload : ∀ payload : Payload Value, Grows (identifyPayload payload)
  | .plain => by
    rw [identifyPayload]
    exact grows_pure _
  | .text content | .bytes content | .object content | .map content | .stream content => by
    rw [identifyPayload]
    exact grows_bind (grows_identify content) fun _ => grows_pure _

theorem grows_identifyMessage : ∀ content : Message Value, Grows (identifyMessage content)
  | ⟨header, payload⟩ => by
    rw [identifyMessage]
    exact grows_bind (grows_identifyHeader header) fun _ =>
      grows_bind (grows_identifyPayload payload) fun _ => grows_pure _

end

end BrokerMaps.Value
