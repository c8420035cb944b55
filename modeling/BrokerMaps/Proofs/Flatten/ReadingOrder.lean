import BrokerMaps.Proofs.Flatten.Layout

/-!
# The order in which an object is read

Whatever is flattened is read step by step: a field is read, its content is written as a text, a
prefix is put in front of a name, and the key that comes out is used. Each of these steps can fail.
`Shape.steps` lists the steps for an object of a shape, in the order in which they are taken and
without regard to what they contribute. A step that needs the result of another one is listed only
where that one succeeds; the steps for different entries do not depend on each other.

## Main result

`Shape.steps_leadsTo`: reading an object fails exactly when one of its steps does, and then with the
fault of the first one that does.
-/
namespace BrokerMaps

open Outcome (LeadsTo andThen fault? leadsTo_nil leadsTo_singleton leadsTo_andThen
  leadsTo_andThen_of_fault?_eq leadsTo_mapM)

/-- Steps in a row, each with what becomes of it. -/
abbrev Steps := List (Except Fault Unit)

namespace Flatten

/-! ## Steps -/

/-- The text comes first, then the key, and then the use of the key. -/
def entrySteps {α : Type} (keyPrefix name : Value) (text : Except Fault α) : Steps :=
  andThen text fun _ => andThen (keyPrefix.plus name) fun key => [key.requireDigest]

/-- Of the components of a name only the values can fail, and a null one is left alone. -/
def componentSteps (component : String × Value) : Steps :=
  if component.2.isNull then [] else andThen component.2.mapText fun _ => []

def nameSteps (name : BeanName Value) : Steps := name.components.flatMap componentSteps

/-- An entry of a table that stands in for the components of a name. -/
def standInSteps (item : Value × Value) : Steps :=
  if item.2.isNull then []
  else andThen item.2.mapText fun _ => andThen item.1.plain fun _ => []

/-- A value that is read as a name is asked for its components first. -/
def beanNameSteps (value : Value) : Steps :=
  match value with
  | .beanName _ name => nameSteps name
  | value =>
    andThen (value.field "key_property_list") fun components =>
      match components.opened with
      | .table _ entries => entries.flatMap standInSteps
      | _ => [components.refuseCall "items"]

def beanInstanceSteps (flattener : Flattener) (value : Value) : Steps :=
  andThen (value.field "object_name") fun identity =>
    flattener.checkStep .beanName :: beanNameSteps identity

/-- The name of an attribute is read, and compared with that of identities, before its value. -/
def attributeSteps (flattener : Flattener) (item : Value) : Steps :=
  andThen (item.field "name") fun name =>
    andThen (name.equalTo (.text identityAttribute)) fun isIdentity =>
    andThen (item.field "value") fun value =>
      if isIdentity then
        match value with
        | .beanName _ identity => flattener.checkStep .beanName :: nameSteps identity
        | value => [.error (.identityNotAName value.className)]
      else if value.isNull then []
      else andThen value.mapText fun _ => [name.requireDigest]

def attributeListSteps (flattener : Flattener) (value : Value) : Steps :=
  andThen value.iterate fun items => items.flatMap (attributeSteps flattener)

/-- A header field whose entry is there whatever it holds. -/
def fieldSteps (settings : Settings) (message : Value) (field name : String)
    (text : Value → Except Fault Value) : Steps :=
  andThen (message.field field) fun content =>
    entrySteps settings.headerPrefix (.text name) (text content)

/-- A header field whose entry is left out when it is null. -/
def optionalFieldSteps (settings : Settings) (message : Value) (field name : String)
    (text : Value → Except Fault Value) : Steps :=
  andThen (message.field field) fun content =>
    if content.isNull then [] else entrySteps settings.headerPrefix (.text name) (text content)

def headerSteps (settings : Settings) (message : Value) : Steps :=
  optionalFieldSteps settings message "correlation_id" "JMSCorrelationID" plainText
    ++ fieldSteps settings message "delivery_mode" "JMSDeliveryMode" deliveryText
    ++ optionalFieldSteps settings message "destination" "JMSDestination" physicalName
    ++ fieldSteps settings message "expiration" "JMSExpiration" plainText
    ++ optionalFieldSteps settings message "message_id" "JMSMessageID" plainText
    ++ fieldSteps settings message "priority" "JMSPriority" plainText
    ++ fieldSteps settings message "redelivered" "JMSRedelivered" (asText ·.mapText)
    ++ optionalFieldSteps settings message "reply_to" "JMSReplyTo" physicalName
    ++ fieldSteps settings message "timestamp" "JMSTimestamp" plainText
    ++ optionalFieldSteps settings message "message_type" "JMSType" plainText

/-- The names of a store are listed as a whole, and then each entry is looked up and written. -/
def storeSteps (role : EntryRole) (keyPrefix owner : Value) : Steps :=
  andThen (Message.storeThrough role role.lister owner) fun store =>
    andThen (Message.entryNames store) fun names =>
      names.flatMap fun name =>
        owner.checkCallable role.getter :: andThen (Message.getEntry store name) fun value =>
          if value.isNull then [] else entrySteps keyPrefix name value.mapText

/-- The content of a chunk comes before the prefix of its key. -/
def chunkSteps (settings : Settings) (body : Except Fault Value) (shown : ShownSpan) : Steps :=
  andThen body fun body =>
    andThen (settings.rendering.render body shown.span.start shown.span.size shown.shownSize)
      fun _ => andThen settings.bodyPrefix.formatted fun _ => []

def payloadSteps (settings : Settings) (kind : MessageKind) (message : Value) : Steps :=
  match kind with
  | .plain => []
  | .text =>
    andThen (message.field "text") fun content =>
      if content.isNull then [] else entrySteps settings.bodyPrefix (.text "JMSText") (.ok content)
  | .bytes =>
    andThen (message.field "body_length") fun length =>
      andThen (chunkLayout length settings.chunkSize) fun layout =>
        layout.spans.flatMap (chunkSteps settings (message.field "body"))
  | .object =>
    andThen (message.field "payload") fun payload =>
      if payload.isNull then []
      else entrySteps settings.bodyPrefix (.text "JMSObjectClass") (.ok payload.classOf.qualified)
        ++ entrySteps settings.bodyPrefix (.text "JMSObjectString") payload.plain
  | .map => storeSteps .mapField settings.bodyPrefix message
  | .stream => entrySteps settings.bodyPrefix (.text "JMSStreamMessage") message.plain

/-- Header, custom properties and payload are read in this order. -/
def messageSteps (flattener : Flattener) (kind : MessageKind) (message : Value) : Steps :=
  (if kind = .plain then [] else [flattener.checkStep (.message .plain)])
    ++ headerSteps flattener.settings message
    ++ storeSteps .property flattener.settings.customPrefix message
    ++ payloadSteps flattener.settings kind message

end Flatten

def Shape.steps (flattener : Flattener) (shape : Shape) (value : Value) : Steps :=
  match shape with
  | .beanInstance => Flatten.beanInstanceSteps flattener value
  | .beanName => Flatten.beanNameSteps value
  | .attributeList => Flatten.attributeListSteps flattener value
  | .message kind => Flatten.messageSteps flattener kind value

namespace Flatten

/-! ## Entries -/

private theorem fault?_asText (written : Except Fault String) :
    fault? written = fault? (asText written) := by
  cases written <;> rfl

/-- How a text is wrapped does not matter for what can fail. -/
theorem entrySteps_leadsTo {α : Type} {text : Except Fault α} {wrapped : Except Fault Value}
    (same : fault? text = fault? wrapped) (keyPrefix name : Value) :
    LeadsTo (entrySteps keyPrefix name text) (entry keyPrefix name wrapped) := by
  refine leadsTo_andThen_of_fault?_eq same fun _ written => ?_
  refine leadsTo_andThen fun key _ => ?_
  exact (leadsTo_singleton key.requireDigest).map fun _ => (key, written)

/-- An entry that is left out when it is null. -/
theorem unlessSteps_leadsTo {skipped : Prop} [Decidable skipped] {steps : Steps}
    {step : Except Fault Contribution} (taken : LeadsTo steps step) :
    LeadsTo (if skipped then [] else steps)
      (if skipped then return [] else do
        let contribution ← step
        return [contribution]) := by
  split
  · exact leadsTo_nil []
  · exact taken.map ([·])

/-- Steps for items one by one are steps for what the items contribute together. -/
theorem flattenSteps_leadsTo {α : Type} {xs : List α} {steps : α → Steps}
    {list : α → Except Fault (List Contribution)}
    (each : ∀ x ∈ xs, LeadsTo (steps x) (list x)) :
    LeadsTo (xs.flatMap steps) (do
      let lists ← xs.mapM list
      return lists.flatten) :=
  (leadsTo_mapM each).map List.flatten

/-! ## Beans -/

theorem nameSteps_leadsTo (name : BeanName Value) :
    LeadsTo (nameSteps name) (nameContributions name) := by
  obtain ⟨domain, components⟩ := name
  rw [nameSteps, nameContributions]
  induction components with
  | nil => exact leadsTo_nil []
  | cons component rest ih =>
    rw [List.flatMap_cons, componentSteps]
    by_cases null : component.2.isNull = true
    · -- A null component is neither read nor contributed.
      have skipped : componentContribution? component = none := by
        rw [componentContribution?, if_pos null]
      rw [if_pos null, List.nil_append, List.filterMap_cons_none skipped]
      exact ih
    · have written : componentContribution? component =
          some ((asText component.2.mapText).map fun text => (.text component.1, text)) := by
        rw [componentContribution?, if_neg null]
      rw [if_neg null, List.filterMap_cons_some written, List.mapM_cons, id_eq]
      have here : LeadsTo (andThen component.2.mapText fun _ => [])
          ((asText component.2.mapText).map fun text => (Value.text component.1, text)) := by
        cases component.2.mapText <;> rfl
      exact here.append fun _ _ => ih.map _

theorem standInSteps_leadsTo (item : Value × Value) :
    LeadsTo (standInSteps item) (entryContributions item) := by
  rw [standInSteps, entryContributions]
  split
  · exact leadsTo_nil []
  · refine leadsTo_andThen_of_fault?_eq (fault?_asText _) fun _ _ => ?_
    exact leadsTo_andThen fun key _ => leadsTo_nil _

/-- A refused call has no result, of whatever type the result would be. -/
theorem refuseCall_leadsTo {α : Type} (value : Value) (method : String) :
    LeadsTo [value.refuseCall method] (value.refuseCall method : Except Fault α) := by
  unfold Value.refuseCall
  cases value.checkCallable method <;> rfl

theorem beanNameSteps_leadsTo (value : Value) :
    LeadsTo (beanNameSteps value) (beanNameContributions value) := by
  -- Whatever is no name is asked for its components all the same.
  have standIn : LeadsTo
      (andThen (value.field "key_property_list") fun components =>
        match components.opened with
        | .table _ entries => entries.flatMap standInSteps
        | _ => [components.refuseCall "items"])
      (do
        let components ← value.field "key_property_list"
        match components.opened with
        | .table _ entries => do
          let lists ← entries.mapM entryContributions
          return lists.flatten
        | _ => components.refuseCall "items") := by
    refine leadsTo_andThen fun components _ => ?_
    cases components.opened with
    | table identity? entries => exact flattenSteps_leadsTo fun item _ => standInSteps_leadsTo item
    | _ => exact refuseCall_leadsTo components "items"
  cases value with
  | beanName stamp name => exact nameSteps_leadsTo name
  | _ => exact standIn

theorem beanInstanceSteps_leadsTo (flattener : Flattener) (value : Value) :
    LeadsTo (beanInstanceSteps flattener value) (beanInstanceContributions flattener value) := by
  refine leadsTo_andThen fun identity _ => ?_
  exact (leadsTo_singleton (flattener.checkStep .beanName)).append fun _ _ =>
    beanNameSteps_leadsTo identity

theorem attributeSteps_leadsTo (flattener : Flattener) (item : Value) :
    LeadsTo (attributeSteps flattener item) (do
      let name ← item.field "name"
      attributeContributions flattener name (item.field "value")) := by
  refine leadsTo_andThen fun name _ => leadsTo_andThen fun isIdentity _ => ?_
  refine leadsTo_andThen fun value _ => ?_
  split
  next =>
    cases value with
    | beanName stamp identity =>
      exact (leadsTo_singleton (flattener.checkStep .beanName)).append fun _ _ =>
        nameSteps_leadsTo identity
    | _ => rfl
  next =>
    split
    · exact leadsTo_nil []
    · refine leadsTo_andThen_of_fault?_eq (fault?_asText _) fun _ _ => ?_
      exact (leadsTo_singleton name.requireDigest).map _

theorem attributeListSteps_leadsTo (flattener : Flattener) (value : Value) :
    LeadsTo (attributeListSteps flattener value) (attributeListContributions flattener value) :=
  leadsTo_andThen fun _ _ =>
    flattenSteps_leadsTo fun item _ => attributeSteps_leadsTo flattener item

/-! ## Messages -/

theorem headerEntrySteps_leadsTo (settings : Settings) (message : Value) (header : HeaderEntry) :
    LeadsTo
      (if header.optional then
        optionalFieldSteps settings message header.field header.name header.text
      else fieldSteps settings message header.field header.name header.text)
      (header.contributions settings message) := by
  obtain ⟨name, field, optional, text⟩ := header
  cases optional with
  | true =>
    refine leadsTo_andThen fun content _ => ?_
    exact unlessSteps_leadsTo (entrySteps_leadsTo rfl _ _)
  | false =>
    refine leadsTo_andThen fun content _ => ?_
    exact (entrySteps_leadsTo rfl _ _).map ([·])

theorem headerSteps_leadsTo (settings : Settings) (message : Value) :
    LeadsTo (headerSteps settings message) (headerContributions settings message) := by
  have listed : headerSteps settings message = headerEntries.flatMap fun header =>
      if header.optional then
        optionalFieldSteps settings message header.field header.name header.text
      else fieldSteps settings message header.field header.name header.text := by
    simp [headerSteps, headerEntries]
  rw [listed]
  exact flattenSteps_leadsTo fun header _ => headerEntrySteps_leadsTo settings message header

theorem storeSteps_leadsTo (role : EntryRole) (keyPrefix owner : Value) :
    LeadsTo (storeSteps role keyPrefix owner) (storeContributions role keyPrefix owner) := by
  refine leadsTo_andThen fun store _ => leadsTo_andThen fun names _ => ?_
  refine flattenSteps_leadsTo fun name _ => ?_
  refine (leadsTo_singleton (owner.checkCallable role.getter)).append fun _ _ => ?_
  refine leadsTo_andThen fun value _ => ?_
  exact unlessSteps_leadsTo (entrySteps_leadsTo (fault?_asText _) _ _)

theorem chunkSteps_leadsTo (settings : Settings) (body : Except Fault Value) (shown : ShownSpan) :
    LeadsTo (chunkSteps settings body shown) (chunkContribution settings body shown) := by
  refine leadsTo_andThen fun body _ => leadsTo_andThen fun text _ => ?_
  -- The number of the chunk, which goes into the key as well, is always there.
  have keyed : LeadsTo (andThen settings.bodyPrefix.formatted fun _ => [])
      (chunkKey settings shown.span.index) := leadsTo_andThen fun lead _ => leadsTo_nil _
  exact keyed.map fun key => (key, Value.text text)

theorem payloadSteps_leadsTo (settings : Settings) (kind : MessageKind) (message : Value) :
    LeadsTo (payloadSteps settings kind message) (payloadContributions settings kind message) := by
  cases kind with
  | plain => exact leadsTo_nil []
  | text =>
    refine leadsTo_andThen fun content _ => ?_
    unfold textContributions
    split
    · exact leadsTo_nil []
    · exact (entrySteps_leadsTo rfl _ _).map ([·])
  | bytes =>
    refine leadsTo_andThen fun length _ => ?_
    rw [bytesContributions_eq_mapM]
    refine leadsTo_andThen fun layout _ => ?_
    exact leadsTo_mapM fun shown _ => chunkSteps_leadsTo settings (message.field "body") shown
  | object =>
    refine leadsTo_andThen fun payload _ => ?_
    unfold objectContributions
    split
    · exact leadsTo_nil []
    · -- The class is read before the text of the payload, which may fail.
      have className := entrySteps_leadsTo (fault?_asText (.ok payload.classOf.qualified))
        settings.bodyPrefix (.text "JMSObjectClass")
      have text := entrySteps_leadsTo (fault?_asText payload.plain) settings.bodyPrefix
        (.text "JMSObjectString")
      exact className.append fun first _ => text.map fun second => [first, second]
  | map => exact storeSteps_leadsTo .mapField settings.bodyPrefix message
  | stream => exact (entrySteps_leadsTo (fault?_asText _) _ _).map ([·])

theorem messageSteps_leadsTo (flattener : Flattener) (kind : MessageKind) (message : Value) :
    LeadsTo (messageSteps flattener kind message)
      (messageContributions flattener kind message) := by
  have header := headerSteps_leadsTo flattener.settings message
  have custom := storeSteps_leadsTo .property flattener.settings.customPrefix message
  have payload := payloadSteps_leadsTo flattener.settings kind message
  have first : LeadsTo
      (headerSteps flattener.settings message
        ++ storeSteps .property flattener.settings.customPrefix message)
      (headerAndCustom flattener.settings message) :=
    header.append fun before _ => custom.map fun after => before ++ after
  have all := first.append fun before _ => payload.map fun after => before ++ after
  by_cases plain : kind = .plain
  · subst plain
    exact all
  · rw [messageSteps, if_neg plain, List.append_assoc, List.append_assoc, ← List.append_assoc _ _
      (payloadSteps flattener.settings kind message)]
    -- Any other kind first looks up the step for plain messages.
    have guarded := (leadsTo_singleton (flattener.checkStep (.message .plain))).append
      fun _ _ => all
    have called : (kind != .plain) = true := bne_iff_ne.mpr plain
    unfold messageContributions
    rw [if_pos called]
    exact guarded

end Flatten

/-- Reading an object fails exactly when one of its steps does, and with the fault of the first one
that does. -/
theorem Shape.steps_leadsTo (flattener : Flattener) (shape : Shape) (value : Value) :
    LeadsTo (shape.steps flattener value) (shape.contributions flattener value) := by
  cases shape with
  | beanInstance => exact Flatten.beanInstanceSteps_leadsTo flattener value
  | beanName => exact Flatten.beanNameSteps_leadsTo value
  | attributeList => exact Flatten.attributeListSteps_leadsTo flattener value
  | message kind => exact Flatten.messageSteps_leadsTo flattener kind value

end BrokerMaps
