import BrokerMaps.Value.Reference

/-!
# Values as they are kept

A workspace keeps a value with an identity for every container and record in it, and with the
content of shared objects left out. Whoever looks at it finds that content put in, and what is found
is kept as it was kept before.

## Main results

* `identify_refresh`: what is found is kept as the same value.
* `isKept_identify`: a value that is kept once is kept as it is from then on.
-/
namespace BrokerMaps.Value

/-! ## Looking at what is kept -/

section
variable {modeNow : DeliveryMode → Value} {content : Nat → Value} {extra : Nat → String → Value}
  (modes : ∀ m, identify (modeNow m) = pure (.mode m))

include modes

-- Only the first companion asks for it directly, all the others do through that one.
set_option linter.unusedSectionVars false

-- The cases follow those of `refresh`. What is shared is referred to again, whatever was put in.
mutual

theorem identify_refresh :
    ∀ value : Value, (value.refresh modeNow content extra).identify = value.identify
  -- Looking changes what a reference shows and never which number it has, so it comes down to the
  -- parts.
  | .list identity? items => by
    rw [refresh, identify, identify, identifyAll_refreshAll items]
  | .tuple identity? items => by
    rw [refresh, identify, identify, identifyAll_refreshAll items]
  | .table identity? entries => by
    rw [refresh, identify, identify, identifyEntries_refreshEntries entries]
  | .mode m => by
    rw [refresh, modes m]
    rfl
  | .destination stamp kind physicalName => by
    rw [refresh, identify, identify, identify_refresh physicalName]
  | .beanName stamp ⟨domain, components⟩ => by
    rw [refresh, identify, identify, identify_refresh domain,
      identifyComponents_refreshComponents components]
  | .beanInstance stamp ⟨identity, reported⟩ => by
    rw [refresh, identify, identify, identify_refresh identity, identify_refresh reported]
  | .beanAttribute item => by
    rw [refresh, identify, identify, identifyAttribute_refreshAttribute item]
  | .attributeList stamp items => by
    rw [refresh, identify, identify, identifyAttributes_refreshAttributes items]
  | .message stamp held => by
    rw [refresh, identify, identify, identifyMessage_refreshMessage held]
  | .shared identity className _ _ => by
    rw [refresh, identify, identify]
  | .null | .bool _ | .int _ | .float _ _ | .text _ | .buffer _ _ | .object _ | .sized _ _
  | .unread => by
    rw [refresh]

theorem identifyAll_refreshAll : ∀ items : List Value,
    identifyAll (refreshAll modeNow content extra items) = identifyAll items
  | [] => by rw [refreshAll]
  | item :: rest => by
    rw [refreshAll, identifyAll, identifyAll, identify_refresh item, identifyAll_refreshAll rest]

theorem identifyEntries_refreshEntries : ∀ entries : List (Value × Value),
    identifyEntries (refreshEntries modeNow content extra entries) = identifyEntries entries
  | [] => by rw [refreshEntries]
  | (key, value) :: rest => by
    rw [refreshEntries, identifyEntries, identifyEntries, identify_refresh key,
      identify_refresh value, identifyEntries_refreshEntries rest]

theorem identifyComponents_refreshComponents : ∀ components : List (String × Value),
    identifyComponents (refreshComponents modeNow content extra components)
      = identifyComponents components
  | [] => by rw [refreshComponents]
  | (key, value) :: rest => by
    rw [refreshComponents, identifyComponents, identifyComponents, identify_refresh value,
      identifyComponents_refreshComponents rest]

theorem identifyAttribute_refreshAttribute : ∀ item : Attribute Value,
    identifyAttribute (refreshAttribute modeNow content extra item) = identifyAttribute item
  | ⟨stamp, name, value⟩ => by
    rw [refreshAttribute, identifyAttribute, identifyAttribute, identify_refresh name,
      identify_refresh value]

theorem identifyAttributes_refreshAttributes : ∀ items : List (Attribute Value),
    identifyAttributes (refreshAttributes modeNow content extra items) = identifyAttributes items
  | [] => by rw [refreshAttributes]
  | item :: rest => by
    rw [refreshAttributes, identifyAttributes, identifyAttributes,
      identifyAttribute_refreshAttribute item, identifyAttributes_refreshAttributes rest]

theorem identifyHeader_refreshHeader : ∀ header : Header Value,
    identifyHeader (refreshHeader modeNow content extra header) = identifyHeader header
  | ⟨messageId, correlationId, deliveryMode, target, replyTo, expiration, priority, redelivered,
      timestamp, messageType, properties⟩ => by
    rw [refreshHeader, identifyHeader, identifyHeader, identify_refresh messageId,
      identify_refresh correlationId, identify_refresh deliveryMode, identify_refresh target,
      identify_refresh replyTo, identify_refresh expiration, identify_refresh priority,
      identify_refresh redelivered, identify_refresh timestamp, identify_refresh messageType,
      identify_refresh properties]

theorem identifyPayload_refreshPayload : ∀ payload : Payload Value,
    identifyPayload (refreshPayload modeNow content extra payload) = identifyPayload payload
  | .plain => by rw [refreshPayload]
  | .text held | .bytes held | .object held | .map held | .stream held => by
    rw [refreshPayload, identifyPayload, identifyPayload, identify_refresh held]

theorem identifyMessage_refreshMessage : ∀ message : Message Value,
    identifyMessage (refreshMessage modeNow content extra message) = identifyMessage message
  | ⟨header, payload⟩ => by
    rw [refreshMessage, identifyMessage, identifyMessage, identifyHeader_refreshHeader header,
      identifyPayload_refreshPayload payload]

end

end

/-! ## Keeping what is kept -/

/-- A value with all its identities given out, and with nothing in it that would be left out. -/
def IsKept (value : Value) : Prop := value.identify = pure value

/-- Whatever number it starts at, a numbering comes to something good. -/
def Ensures {α : Type} (good : α → Prop) (numbering : StateM Nat α) : Prop :=
  ∀ next, good (numbering.run next).1

section
variable {α β : Type} {good : α → Prop} {fine : β → Prop} {numbering : StateM Nat α}
  {others : α → StateM Nat β}

theorem ensures_pure {a : α} (isGood : good a) : Ensures good (pure a) := fun _ => isGood

theorem ensures_bind (here : Ensures good numbering)
    (later : ∀ a, good a → Ensures fine (others a)) : Ensures fine (numbering >>= others) :=
  fun next => later _ (here next) (numbering.run next).2

end

theorem ensures_identityOf (identity? : Option Nat) :
    Ensures (fun _ => True) (identityOf identity?) := fun _ => trivial

theorem isKept_stampOf (stamp : Stamp) :
    Ensures (fun kept => stampOf kept = pure kept) (stampOf stamp) := fun _ => rfl

theorem isKept_reference (identity : Nat) (className : ClassName) :
    IsKept (reference identity className) := by
  rw [reference]
  split
  next => rfl
  next none => rw [IsKept, identify, reference, none]

-- The cases follow those of `identify`. What is put together from kept parts is kept.
mutual

theorem isKept_identify : ∀ value : Value, Ensures IsKept (identify value)
  -- A value gets its own number first and then its parts get theirs. None of them is given another
  -- one later, so neither is the value.
  | .list identity? items => by
    rw [identify]
    refine ensures_bind (ensures_identityOf _) fun _ _ =>
      ensures_bind (isKept_identifyAll items) fun _ kept => ensures_pure ?_
    rw [IsKept, identify, kept]
    rfl
  | .tuple identity? items => by
    rw [identify]
    refine ensures_bind (ensures_identityOf _) fun _ _ =>
      ensures_bind (isKept_identifyAll items) fun _ kept => ensures_pure ?_
    rw [IsKept, identify, kept]
    rfl
  | .table identity? entries => by
    rw [identify]
    refine ensures_bind (ensures_identityOf _) fun _ _ =>
      ensures_bind (isKept_identifyEntries entries) fun _ kept => ensures_pure ?_
    rw [IsKept, identify, kept]
    rfl
  | .destination stamp kind physicalName => by
    rw [identify]
    refine ensures_bind (isKept_stampOf stamp) fun _ stamped =>
      ensures_bind (isKept_identify physicalName) fun _ kept => ensures_pure ?_
    rw [IsKept, identify, stamped, kept]
    rfl
  | .beanName stamp ⟨domain, components⟩ => by
    rw [identify]
    refine ensures_bind (isKept_stampOf stamp) fun _ stamped =>
      ensures_bind (isKept_identify domain) fun _ kept =>
      ensures_bind (isKept_identifyComponents components) fun _ keptAll => ensures_pure ?_
    rw [IsKept, identify, stamped, kept, keptAll]
    rfl
  | .beanInstance stamp ⟨identity, reported⟩ => by
    rw [identify]
    refine ensures_bind (isKept_stampOf stamp) fun _ stamped =>
      ensures_bind (isKept_identify identity) fun _ kept =>
      ensures_bind (isKept_identify reported) fun _ keptToo => ensures_pure ?_
    rw [IsKept, identify, stamped, kept, keptToo]
    rfl
  | .beanAttribute item => by
    rw [identify]
    refine ensures_bind (isKept_identifyAttribute item) fun _ kept => ensures_pure ?_
    rw [IsKept, identify, kept]
    rfl
  | .attributeList stamp items => by
    rw [identify]
    refine ensures_bind (isKept_stampOf stamp) fun _ stamped =>
      ensures_bind (isKept_identifyAttributes items) fun _ kept => ensures_pure ?_
    rw [IsKept, identify, stamped, kept]
    rfl
  | .message stamp content => by
    rw [identify]
    refine ensures_bind (isKept_stampOf stamp) fun _ stamped =>
      ensures_bind (isKept_identifyMessage content) fun _ kept => ensures_pure ?_
    rw [IsKept, identify, stamped, kept]
    rfl
  | .shared identity className _ _ => by
    rw [identify]
    exact ensures_pure (isKept_reference identity className)
  | .null | .bool _ | .int _ | .float _ _ | .text _ | .buffer _ _ | .mode _ | .object _
  | .sized _ _ | .unread => ensures_pure rfl

theorem isKept_identifyAll : ∀ items : List Value,
    Ensures (fun kept => identifyAll kept = pure kept) (identifyAll items)
  | [] => by
    rw [identifyAll]
    exact ensures_pure rfl
  | item :: rest => by
    rw [identifyAll]
    refine ensures_bind (isKept_identify item) fun _ kept =>
      ensures_bind (isKept_identifyAll rest) fun _ keptRest => ensures_pure ?_
    rw [identifyAll, kept, keptRest]
    rfl

theorem isKept_identifyEntries : ∀ entries : List (Value × Value),
    Ensures (fun kept => identifyEntries kept = pure kept) (identifyEntries entries)
  | [] => by
    rw [identifyEntries]
    exact ensures_pure rfl
  | (key, value) :: rest => by
    rw [identifyEntries]
    refine ensures_bind (isKept_identify key) fun _ keptKey =>
      ensures_bind (isKept_identify value) fun _ kept =>
      ensures_bind (isKept_identifyEntries rest) fun _ keptRest => ensures_pure ?_
    rw [identifyEntries, keptKey, kept, keptRest]
    rfl

theorem isKept_identifyComponents : ∀ components : List (String × Value),
    Ensures (fun kept => identifyComponents kept = pure kept) (identifyComponents components)
  | [] => by
    rw [identifyComponents]
    exact ensures_pure rfl
  | (key, value) :: rest => by
    rw [identifyComponents]
    refine ensures_bind (isKept_identify value) fun _ kept =>
      ensures_bind (isKept_identifyComponents rest) fun _ keptRest => ensures_pure ?_
    rw [identifyComponents, kept, keptRest]
    rfl

theorem isKept_identifyAttribute : ∀ item : Attribute Value,
    Ensures (fun kept => identifyAttribute kept = pure kept) (identifyAttribute item)
  | ⟨stamp, name, value⟩ => by
    rw [identifyAttribute]
    refine ensures_bind (isKept_stampOf stamp) fun _ stamped =>
      ensures_bind (isKept_identify name) fun _ keptName =>
      ensures_bind (isKept_identify value) fun _ kept => ensures_pure ?_
    rw [identifyAttribute, stamped, keptName, kept]
    rfl

theorem isKept_identifyAttributes : ∀ items : List (Attribute Value),
    Ensures (fun kept => identifyAttributes kept = pure kept) (identifyAttributes items)
  | [] => by
    rw [identifyAttributes]
    exact ensures_pure rfl
  | item :: rest => by
    rw [identifyAttributes]
    refine ensures_bind (isKept_identifyAttribute item) fun _ kept =>
      ensures_bind (isKept_identifyAttributes rest) fun _ keptRest => ensures_pure ?_
    rw [identifyAttributes, kept, keptRest]
    rfl

theorem isKept_identifyHeader : ∀ header : Header Value,
    Ensures (fun kept => identifyHeader kept = pure kept) (identifyHeader header)
  | ⟨messageId, correlationId, deliveryMode, target, replyTo, expiration, priority, redelivered,
      timestamp, messageType, properties⟩ => by
    rw [identifyHeader]
    refine ensures_bind (isKept_identify messageId) fun _ kept₁ =>
      ensures_bind (isKept_identify correlationId) fun _ kept₂ =>
      ensures_bind (isKept_identify deliveryMode) fun _ kept₃ =>
      ensures_bind (isKept_identify target) fun _ kept₄ =>
      ensures_bind (isKept_identify replyTo) fun _ kept₅ =>
      ensures_bind (isKept_identify expiration) fun _ kept₆ =>
      ensures_bind (isKept_identify priority) fun _ kept₇ =>
      ensures_bind (isKept_identify redelivered) fun _ kept₈ =>
      ensures_bind (isKept_identify timestamp) fun _ kept₉ =>
      ensures_bind (isKept_identify messageType) fun _ kept₁₀ =>
      ensures_bind (isKept_identify properties) fun _ kept₁₁ => ensures_pure ?_
    rw [identifyHeader, kept₁, kept₂, kept₃, kept₄, kept₅, kept₆, kept₇, kept₈, kept₉, kept₁₀,
      kept₁₁]
    rfl

theorem isKept_identifyPayload : ∀ payload : Payload Value,
    Ensures (fun kept => identifyPayload kept = pure kept) (identifyPayload payload)
  | .plain => by
    rw [identifyPayload]
    exact ensures_pure rfl
  | .text content | .bytes content | .object content | .map content | .stream content => by
    rw [identifyPayload]
    refine ensures_bind (isKept_identify content) fun _ kept => ensures_pure ?_
    rw [identifyPayload, kept]
    rfl

theorem isKept_identifyMessage : ∀ message : Message Value,
    Ensures (fun kept => identifyMessage kept = pure kept) (identifyMessage message)
  | ⟨header, payload⟩ => by
    rw [identifyMessage]
    refine ensures_bind (isKept_identifyHeader header) fun _ keptHeader =>
      ensures_bind (isKept_identifyPayload payload) fun _ kept => ensures_pure ?_
    rw [identifyMessage, keptHeader, kept]
    rfl

end

/-! ## Values that are kept as they are -/

/-- A value that is neither an object of its own nor made of parts. -/
def IsSimple : Value → Prop
  | .null | .bool _ | .int _ | .text _ | .buffer _ _ => True
  | _ => False

theorem identify_of_isSimple {value : Value} (simple : value.IsSimple) :
    value.identify = pure value := by
  cases value with
  | null | bool | int | text | buffer => rfl
  | _ => exact simple.elim

/-- Nothing else is kept as a simple value is. -/
theorem eq_of_identify_isSimple {value : Value} {next : Nat}
    (simple : (value.identify.run next).1.IsSimple) : (value.identify.run next).1 = value := by
  cases value with
  | null | bool | int | text | buffer => rfl
  | shared there className _ _ =>
    have isReference : (reference there className).IsSimple := simple
    rw [reference] at isReference
    split at isReference <;> exact isReference.elim
  | _ => exact False.elim simple

/-! ## Records that are kept -/

theorem identifyAttributes_eq_mapM (items : List (Attribute Value)) :
    identifyAttributes items = items.mapM identifyAttribute := by
  induction items with
  | nil => rfl
  | cons item rest ih => rw [identifyAttributes, List.mapM_cons, ih]

theorem identifyAttributes_append (front back : List (Attribute Value)) :
    identifyAttributes (front ++ back) = (do
      let first ← identifyAttributes front
      let others ← identifyAttributes back
      pure (first ++ others)) := by
  simp only [identifyAttributes_eq_mapM, List.mapM_append]

theorem refreshAttributes_eq_map (modeNow : DeliveryMode → Value) (content : Nat → Value)
    (extra : Nat → String → Value) (items : List (Attribute Value)) :
    refreshAttributes modeNow content extra items
      = items.map (refreshAttribute modeNow content extra) := by
  induction items with
  | nil => rfl
  | cons item rest ih => rw [refreshAttributes, List.map_cons, ih]

/-- A numbering whose result is known gives out no identity. -/
theorem eq_pure_iff {α : Type} {numbering : StateM Nat α} {a : α} :
    numbering = pure a ↔ ∀ next, numbering.run next = (a, next) :=
  ⟨fun same _ => same ▸ rfl, fun same => funext same⟩

/-- A stamp with an identity is kept as it is. -/
theorem stampOf_eq_pure_iff {stamp : Stamp} :
    stampOf stamp = pure stamp ↔ stamp.identity?.isSome = true := by
  obtain ⟨identity?, subclass?⟩ := stamp
  cases identity? with
  | none =>
    refine ⟨fun same => ?_, nofun⟩
    have given : (stampOf ⟨none, subclass?⟩).run 0 = (⟨some 0, subclass?⟩, 1) := rfl
    rw [eq_pure_iff.mp same 0] at given
    cases given
  | some identity => exact ⟨fun _ => rfl, fun _ => rfl⟩

/-- A record is kept when its stamp has an identity and its content is kept. -/
theorem isKept_of_stamp {α : Type} {stamp : Stamp} {content : α} {numbering : StateM Nat α}
    {record : Stamp → α → Value}
    (injective : ∀ {s t a b}, record s a = record t b → s = t ∧ a = b) :
    (do let stamp ← stampOf stamp
        let content ← numbering
        pure (record stamp content)) = pure (record stamp content)
      ↔ stamp.identity?.isSome = true ∧ numbering = pure content := by
  constructor
  · intro kept
    have ran : ∀ next, record ((stampOf stamp).run next).1
        (numbering.run ((stampOf stamp).run next).2).1 = record stamp content
        ∧ (numbering.run ((stampOf stamp).run next).2).2 = next :=
      fun next => Prod.mk.inj (eq_pure_iff.mp kept next)
    have stamped : stamp.identity?.isSome = true := by
      rw [← (injective (ran 0).1).1]
      rfl
    have same := stampOf_eq_pure_iff.mpr stamped
    refine ⟨stamped, eq_pure_iff.mpr fun next => ?_⟩
    obtain ⟨found, count⟩ := ran next
    rw [same] at found count
    exact Prod.ext (injective found).2 count
  · rintro ⟨stamped, kept⟩
    rw [stampOf_eq_pure_iff.mpr stamped, kept]
    rfl

theorem isKept_attributeList_iff {stamp : Stamp} {items : List (Attribute Value)} :
    IsKept (.attributeList stamp items)
      ↔ stamp.identity?.isSome = true ∧ identifyAttributes items = pure items := by
  rw [IsKept, identify]
  exact isKept_of_stamp fun same => Value.attributeList.inj same

theorem isKept_message_iff {stamp : Stamp} {message : Message Value} :
    IsKept (.message stamp message)
      ↔ stamp.identity?.isSome = true ∧ identifyMessage message = pure message := by
  rw [IsKept, identify]
  exact isKept_of_stamp fun same => Value.message.inj same

end BrokerMaps.Value
