import BrokerMaps.Proofs.Flatten.Layout
import BrokerMaps.Proofs.Flatten.Reports

/-!
# Texts in a property map

Most of what goes into a property map is written as a text on the way, under a key that is a text.
A few things are taken as they are: the names of attributes and of stored entries, the text of a
text message, and the physical names of destinations. The names of stored entries are checked when a
message is built. Nothing checks that the others are texts.

## Main results

* `report_textual`: the keys and values of a map are texts when all that is taken as it is, is text.
* `report_text_unchanged`: the text of a text message is in the map as the very value that it is.
-/
namespace BrokerMaps

open Outcome (Gives bind_eq_ok_iff gives_ok gives_error gives_bind gives_mapM gives_flatten
  gives_unless)

def Value.IsText (value : Value) : Prop := ∃ s, value = .text s

/-! ## Maps of texts -/

namespace Table

/-- Every key and every value is a text. -/
def Textual (table : Table) : Prop := ∀ entry ∈ table, entry.1.IsText ∧ entry.2.IsText

theorem Textual.append {first second : Table} (here : Textual first) (later : Textual second) :
    Textual (first ++ second) := List.forall_mem_append.mpr ⟨here, later⟩

theorem textual_insert {table : Table} {key value : Value} (texts : Textual table)
    (isKey : key.IsText) (isValue : value.IsText) : Textual (insert key value table) := by
  induction table with
  | nil => exact List.forall_mem_singleton.mpr ⟨isKey, isValue⟩
  | cons entry rest ih =>
    obtain ⟨first, others⟩ := List.forall_mem_cons.mp texts
    rw [insert]
    split
    · exact List.forall_mem_cons.mpr ⟨⟨first.1, isValue⟩, others⟩
    · exact List.forall_mem_cons.mpr ⟨first, ih others⟩

theorem textual_insertAll {table entries : Table} (texts : Textual table)
    (more : Textual entries) : Textual (insertAll table entries) := by
  induction entries generalizing table with
  | nil => exact texts
  | cons entry rest ih =>
    obtain ⟨⟨isKey, isValue⟩, others⟩ := List.forall_mem_cons.mp more
    exact ih (textual_insert texts isKey isValue) others

end Table

theorem textual_withNewKeys {contributions : List Contribution}
    (texts : Table.Textual contributions) : Table.Textual (withNewKeys contributions) := by
  obtain ⟨named, rfl⟩ := Table.exists_eq_ofNamed fun entry member => (texts entry member).1
  rwa [withNewKeys_ofNamed]

/-! ## What is taken as it is -/

/-- The names that go into keys as they are: those of attributes, of custom properties and of map
fields. -/
def Value.bareNames (value : Value) : List Value :=
  ((value.iterate.toOption.getD []).filterMap fun item => (item.field "name").toOption)
    ++ [EntryRole.property, EntryRole.mapField].flatMap fun role =>
      (Message.storeThrough role role.lister value >>= Message.entryNames).toOption.getD []

/-- The values that go into a map as they are: the text of a text message, unless it is null, and
the physical names of destinations. -/
def Value.bareTexts (value : Value) : List Value :=
  ((value.field "text").toOption.toList.filter fun content => !content.isNull)
    ++ ["destination", "reply_to"].flatMap fun target =>
      (value.field target >>= Flatten.physicalName).toOption.toList

/-- All that is taken as it is, is a text. -/
structure Value.BareTextual (value : Value) : Prop where
  names : ∀ name ∈ value.bareNames, name.IsText
  texts : ∀ content ∈ value.bareTexts, content.IsText

namespace Value.BareTextual

variable {value : Value}

theorem attributeName (bare : value.BareTextual) {items : List Value} {item name : Value}
    (iterates : value.iterate = .ok items) (member : item ∈ items)
    (named : item.field "name" = .ok name) : name.IsText := by
  refine bare.names name (List.mem_append_left _ ?_)
  rw [iterates]
  exact List.mem_filterMap.mpr ⟨item, member, by rw [named]; rfl⟩

theorem entryName (bare : value.BareTextual) {role : EntryRole} {store name : Value}
    {names : List Value} (found : Message.storeThrough role role.lister value = .ok store)
    (listed : Message.entryNames store = .ok names) (member : name ∈ names) : name.IsText := by
  refine bare.names name (List.mem_append_right _ ?_)
  refine List.mem_flatMap.mpr ⟨role, by cases role <;> simp, ?_⟩
  rw [found, Outcome.ok_bind, listed]
  exact member

theorem text (bare : value.BareTextual) {content : Value} (read : value.field "text" = .ok content)
    (present : content.isNull = false) : content.IsText := by
  refine bare.texts content (List.mem_append_left _ ?_)
  rw [read]
  exact List.mem_filter.mpr ⟨List.mem_singleton.mpr rfl, by rw [present]; rfl⟩

theorem physicalName (bare : value.BareTextual) {target : String} {destination name : Value}
    (isTarget : target ∈ ["destination", "reply_to"]) (read : value.field target = .ok destination)
    (named : Flatten.physicalName destination = .ok name) : name.IsText := by
  refine bare.texts name (List.mem_append_right _ (List.mem_flatMap.mpr ⟨target, isTarget, ?_⟩))
  rw [read, Outcome.ok_bind, named]
  exact List.mem_singleton.mpr rfl

end Value.BareTextual

/-- The names of the entries of a message that was built with stores are texts. -/
theorem Value.IsMessage.isText_of_mem_bareNames {value : Value} {content : Message Value}
    (isMessage : value.IsMessage content) (stores : content.HasStores) :
    ∀ name ∈ value.bareNames, name.IsText := by
  obtain ⟨identity?, opened⟩ := isMessage.opened
  -- A message is no list of attributes, so all names are those of stored entries.
  have noItems : value.iterate.toOption = none := by
    simp [Value.iterate, opened, Value.shapeFault, Except.toOption]
  have texts : ∀ role, Outcome.Gives
      (Message.storeThrough role role.lister value >>= Message.entryNames)
      fun names => ∀ name ∈ names, name.IsText := by
    intro role
    refine gives_bind fun store found => ?_
    have isStore : store.IsStore := by
      cases has : content.store? role with
      | none => simp [Message.storeThrough, opened, has, Value.refuseCall, Value.shapeFault,
          isMessage.checkCallable] at found
      | some held =>
        rw [isMessage.storeThrough has] at found
        cases found
        exact stores.isStore has
    rw [isStore.entryNames]
    refine gives_ok fun name member => ?_
    obtain ⟨entry, -, rfl⟩ := List.mem_map.mp member
    exact ⟨entry.1, rfl⟩
  intro name member
  rw [Value.bareNames, noItems, Option.getD_none, List.filterMap_nil, List.nil_append] at member
  obtain ⟨role, -, listed⟩ := List.mem_flatMap.mp member
  cases names : (Message.storeThrough role role.lister value >>= Message.entryNames) with
  | error fault =>
    rw [names] at listed
    cases listed
  | ok all =>
    rw [names] at listed
    exact texts role all names name listed

namespace Flatten

/-! ## Text keys -/

theorem entry_key (lead : String) (name : Value) (text : Except Fault Value) :
    Gives (entry (.text lead) name text) fun contribution => ∃ s, contribution.1 = .text s := by
  refine gives_bind fun written _ => gives_bind fun key added => gives_bind fun _ _ => gives_ok ?_
  have isText : (Value.text lead).opened = .text lead := rfl
  rw [Value.plus, isText] at added
  cases found : name.opened <;> rw [found] at added <;> cases added
  exact ⟨_, rfl⟩

theorem textKeyed_headerContributions {settings : Settings} {lead : String}
    (isLead : settings.headerPrefix = .text lead) (message : Value) :
    Gives (headerContributions settings message) Table.TextKeyed := by
  refine gives_flatten fun header _ => gives_bind fun content _ => ?_
  rw [isLead]
  exact gives_unless (entry_key lead _ _)

theorem textKeyed_storeContributions (role : EntryRole) (lead : String) (owner : Value) :
    Gives (storeContributions role (.text lead) owner) Table.TextKeyed := by
  refine gives_bind fun store _ => gives_bind fun names _ => gives_flatten fun name _ => ?_
  refine gives_bind fun _ _ => gives_bind fun value _ => ?_
  exact gives_unless (entry_key lead _ _)

theorem textKeyed_headerAndCustom {settings : Settings} {header custom body : String}
    (texts : settings.HasTexts header custom body) (message : Value) :
    Gives (headerAndCustom settings message) Table.TextKeyed := by
  refine gives_bind fun first headed => gives_bind fun own owned => gives_ok ?_
  rw [texts.custom] at owned
  exact List.forall_mem_append.mpr
    ⟨textKeyed_headerContributions texts.header message first headed,
      textKeyed_storeContributions .property custom message own owned⟩

/-! ## Contributions of texts -/

theorem isText_asText (written : Except Fault String) : Gives (asText written) Value.IsText := by
  cases written with
  | error fault => exact gives_error
  | ok s => exact gives_ok ⟨s, rfl⟩

/-- Whatever a text can be added to, the sum is a text. -/
theorem isText_plus (keyPrefix : Value) (name : String) :
    Gives (keyPrefix.plus (.text name)) Value.IsText := by
  intro key added
  have isText : (Value.text name).opened = .text name := rfl
  have noInteger : (Value.text name).integral? = none := by simp [Value.integral?]
  have noDouble : (Value.text name).toBinary64? = none := by simp [Value.toBinary64?, noInteger]
  rw [Value.plus, isText] at added
  cases left : keyPrefix.opened with
  | text s =>
    rw [left] at added
    cases added
    exact ⟨_, rfl⟩
  | buffer kind bytes =>
    rw [left] at added
    cases kind <;> cases added
  | list | tuple =>
    rw [left] at added
    cases added
  | _ =>
    -- Arithmetic needs a number on the right as well.
    rw [left] at added
    simp only [noInteger, noDouble] at added
    split at added
    next impossible => cases impossible
    next =>
      split at added
      next impossible => cases impossible
      next => cases added

theorem textual_entry {keyPrefix name : Value} {text : Except Fault Value} (named : name.IsText)
    (written : Gives text Value.IsText) :
    Gives (entry keyPrefix name text) fun contribution =>
      contribution.1.IsText ∧ contribution.2.IsText := by
  obtain ⟨s, rfl⟩ := named
  refine gives_bind fun v wrote => gives_bind fun key added => gives_bind fun _ _ => gives_ok ?_
  exact ⟨isText_plus keyPrefix s key added, written v wrote⟩

theorem textual_nameContributions (name : BeanName Value) :
    Gives (nameContributions name) Table.Textual := by
  refine gives_mapM fun step among => ?_
  obtain ⟨component, -, contributes⟩ := List.mem_filterMap.mp among
  unfold componentContribution? at contributes
  split at contributes
  · cases contributes
  · cases contributes
    exact (isText_asText _).map fun text isText => ⟨⟨component.1, rfl⟩, isText⟩

theorem textual_entryContributions (item : Value × Value) :
    Gives (entryContributions item) Table.Textual := by
  unfold entryContributions
  split
  · exact gives_ok (List.forall_mem_nil _)
  · refine gives_bind fun text wrote => gives_bind fun key _ => gives_ok ?_
    exact List.forall_mem_singleton.mpr ⟨⟨key, rfl⟩, isText_asText _ text wrote⟩

theorem textual_beanNameContributions (value : Value) :
    Gives (beanNameContributions value) Table.Textual := by
  unfold beanNameContributions
  split
  · exact textual_nameContributions _
  · refine gives_bind fun components _ => ?_
    split
    · exact gives_flatten fun item _ => textual_entryContributions item
    · exact gives_bind fun _ _ => gives_error

theorem textual_attributeContributions {name : Value} (named : name.IsText)
    (flattener : Flattener) (value : Except Fault Value) :
    Gives (attributeContributions flattener name value) Table.Textual := by
  refine gives_bind fun isIdentity _ => gives_bind fun value _ => ?_
  split
  -- The identity attribute stands for the components of the name that it holds.
  · split
    · exact gives_bind fun _ _ => textual_nameContributions _
    · exact gives_error
  · split
    · exact gives_ok (List.forall_mem_nil _)
    · refine gives_bind fun text wrote => gives_bind fun _ _ => gives_ok ?_
      exact List.forall_mem_singleton.mpr ⟨named, isText_asText _ text wrote⟩

theorem textual_attributeListContributions {value : Value} (bare : value.BareTextual)
    (flattener : Flattener) :
    Gives (attributeListContributions flattener value) Table.Textual := by
  refine gives_bind fun items iterates => gives_flatten fun item member => ?_
  refine gives_bind fun name named => ?_
  exact textual_attributeContributions (bare.attributeName iterates member named) flattener _

/-- Every header entry but those of the two destinations writes a text. -/
theorem isText_of_mem_headerEntries {header : HeaderEntry} (member : header ∈ headerEntries) :
    (∀ content, Gives (header.text content) Value.IsText)
      ∨ header.text = physicalName ∧ header.field ∈ ["destination", "reply_to"] := by
  have plain : ∀ content, Gives (plainText content) Value.IsText := fun _ => isText_asText _
  have delivery : ∀ content, Gives (deliveryText content) Value.IsText :=
    fun _ => gives_bind fun _ _ => gives_ok ⟨_, rfl⟩
  have truth : ∀ content : Value, Gives (asText content.mapText) Value.IsText :=
    fun _ => isText_asText _
  -- One case for each of the ten entries, in their order.
  simp only [headerEntries, List.mem_cons, List.not_mem_nil, or_false] at member
  rcases member with rfl | rfl | rfl | rfl | rfl | rfl | rfl | rfl | rfl | rfl
  · exact .inl plain
  · exact .inl delivery
  · exact .inr ⟨rfl, by simp⟩
  · exact .inl plain
  · exact .inl plain
  · exact .inl plain
  · exact .inl truth
  · exact .inr ⟨rfl, by simp⟩
  · exact .inl plain
  · exact .inl plain

theorem textual_headerContributions {value : Value} (bare : value.BareTextual)
    (settings : Settings) : Gives (headerContributions settings value) Table.Textual := by
  refine gives_flatten fun header member => gives_bind fun content read => ?_
  refine gives_unless (textual_entry ⟨header.name, rfl⟩ ?_)
  obtain writes | ⟨names, isTarget⟩ := isText_of_mem_headerEntries member
  · exact writes content
  · rw [names]
    exact fun name named => bare.physicalName isTarget read named

theorem textual_storeContributions {value : Value} (bare : value.BareTextual) (role : EntryRole)
    (keyPrefix : Value) : Gives (storeContributions role keyPrefix value) Table.Textual := by
  refine gives_bind fun store found => gives_bind fun names listed => ?_
  refine gives_flatten fun name member => gives_bind fun _ _ => gives_bind fun content _ => ?_
  exact gives_unless (textual_entry (bare.entryName found listed member) (isText_asText _))

theorem textual_chunkContribution (settings : Settings) (body : Except Fault Value)
    (shown : ShownSpan) :
    Gives (chunkContribution settings body shown) fun contribution =>
      contribution.1.IsText ∧ contribution.2.IsText := by
  refine gives_bind fun body _ => gives_bind fun text _ => gives_bind fun key keyed => ?_
  obtain ⟨lead, -, same⟩ := bind_eq_ok_iff.mp keyed
  cases same
  exact gives_ok ⟨⟨_, rfl⟩, ⟨text, rfl⟩⟩

theorem textual_payloadContributions {value : Value} (bare : value.BareTextual)
    (settings : Settings) (kind : MessageKind) :
    Gives (payloadContributions settings kind value) Table.Textual := by
  cases kind with
  | plain => exact gives_ok (List.forall_mem_nil _)
  | text =>
    refine gives_bind fun content read => ?_
    unfold textContributions
    split
    next => exact gives_ok (List.forall_mem_nil _)
    next present =>
      -- A text payload is taken as it is, so here it matters that it is a text.
      have isText := bare.text read (Bool.eq_false_iff.mpr present)
      refine (textual_entry ⟨_, rfl⟩ (gives_ok isText)).map fun _ texts => ?_
      exact List.forall_mem_singleton.mpr texts
  | bytes =>
    refine gives_bind fun length _ => ?_
    rw [bytesContributions_eq_mapM]
    exact gives_bind fun layout _ => gives_mapM fun shown _ =>
      textual_chunkContribution settings _ shown
  | object =>
    refine gives_bind fun payload _ => ?_
    unfold objectContributions
    split
    · exact gives_ok (List.forall_mem_nil _)
    · refine gives_bind fun className classed => gives_bind fun text wrote => gives_ok ?_
      have first := textual_entry ⟨_, rfl⟩ (gives_ok ⟨_, rfl⟩) className classed
      have second := textual_entry ⟨_, rfl⟩ (isText_asText _) text wrote
      exact List.forall_mem_cons.mpr ⟨first, List.forall_mem_singleton.mpr second⟩
  | map => exact textual_storeContributions bare .mapField settings.bodyPrefix
  | stream =>
    refine (textual_entry ⟨_, rfl⟩ (isText_asText _)).map fun _ texts => ?_
    exact List.forall_mem_singleton.mpr texts

theorem textual_messageContributions {value : Value} (bare : value.BareTextual)
    (flattener : Flattener) (kind : MessageKind) :
    Gives (messageContributions flattener kind value) Table.Textual := by
  have own : Gives (headerAndCustom flattener.settings value) Table.Textual := by
    refine gives_bind fun header headed => gives_bind fun custom owned => gives_ok ?_
    exact (textual_headerContributions bare _ header headed).append
      (textual_storeContributions bare .property _ custom owned)
  have all : Gives (do
      let first ← headerAndCustom flattener.settings value
      let last ← payloadContributions flattener.settings kind value
      return first ++ last) Table.Textual := by
    refine gives_bind fun first found => gives_bind fun last paid => gives_ok ?_
    exact (own first found).append (textual_payloadContributions bare _ kind last paid)
  unfold messageContributions
  split
  · exact gives_bind fun _ _ => all
  · exact all

end Flatten

theorem Shape.textual_contributions {value : Value} (bare : value.BareTextual)
    (flattener : Flattener) (shape : Shape) :
    Gives (shape.contributions flattener value) Table.Textual := by
  cases shape with
  | beanInstance =>
    exact gives_bind fun identity _ => gives_bind fun _ _ =>
      Flatten.textual_beanNameContributions identity
  | beanName => exact Flatten.textual_beanNameContributions value
  | attributeList => exact Flatten.textual_attributeListContributions bare flattener
  | message kind => exact Flatten.textual_messageContributions bare flattener kind

namespace Flatten

/-! ## Maps -/

/-- Where all that is taken as it is, is a text, a map has texts only. -/
theorem report_textual {flattener : Flattener} {value : Value} {map : PropertyMap}
    (bare : value.BareTextual) (flattened : (flattener.report value).outcome = .ok (some map)) :
    ∀ entry ∈ map, entry.1.IsText ∧ entry.2.IsText := by
  obtain ⟨shape, contributions, -, listed, rfl⟩ := exists_contributions flattened
  have texts := Shape.textual_contributions bare flattener shape contributions listed
  exact Table.textual_insertAll (List.forall_mem_nil _) (textual_withNewKeys texts)

/-- A text message of which everything but the text is fixed. -/
def greeting (text : Value) : Message Value :=
  ⟨Message.defaultHeader (.text "ID:1") (.int 5), .text text⟩

/-- A text message that holds a text has a map of texts. -/
theorem report_textual_greeting :
    let message : Value := .message (.fresh none) (greeting (.text "hello"))
    ∃ map,
      (Settings.default.flattener.report message).outcome = .ok (some map)
        ∧ ∀ entry ∈ map, entry.1.IsText ∧ entry.2.IsText := by
  intro message
  have isMessage : message.IsMessage (greeting (.text "hello")) := ⟨⟨none, rfl⟩, fun _ => rfl⟩
  have built : Message.build .text (.text "ID:1") (.int 5) [("text", .text "hello")] =
      .ok (greeting (.text "hello")) := rfl
  have tables : ∀ role store, (greeting (.text "hello")).store? role = some store →
      store.IsTable := by
    rintro (_ | _) store found <;> cases found
    exact ⟨none, [], rfl, .nil⟩
  have bare : message.BareTextual := by
    refine ⟨isMessage.isText_of_mem_bareNames (Message.hasStores_of_build built tables), ?_⟩
    exact List.forall_mem_singleton.mpr ⟨"hello", rfl⟩
  have reads : (Shape.contributions Settings.default.flattener (.message .text) message).isOk
      = true := by decide +kernel
  obtain ⟨map, flattened⟩ := exists_outcome_of_isOk isMessage.shapeOf reads
  exact ⟨map, flattened, report_textual bare flattened⟩

end Flatten

/-! ## The text of a text message -/

theorem Table.find?_insert_self {key : Value} (same : key.same key = true) (value : Value)
    (table : Table) : find? key (insert key value table) = some value := by
  induction table with
  | nil => rw [insert, find?_cons, if_pos same]
  | cons entry rest ih =>
    rw [insert]
    split
    next here => rw [find?_cons, if_pos here]
    next other => rw [find?_cons, if_neg other, ih]

theorem withNewKeys_append_text (first : List Contribution) (key : String) (value : Value) :
    withNewKeys (first ++ [(.text key, value)]) = withNewKeys first ++ [(.text key, value)] := by
  simp [withNewKeys, List.zipIdx_append, newKey]

namespace Flatten

/-- The text of a text message comes last, and it is in the map as the very value that it is. -/
theorem report_text_unchanged {flattener : Flattener} {value content : Value} {body : String}
    {map : PropertyMap} (isBody : flattener.settings.bodyPrefix = .text body)
    (known : Shape.of? value = some (.message .text)) (read : value.field "text" = .ok content)
    (present : content.isNull = false)
    (flattened : (flattener.report value).outcome = .ok (some map)) :
    Table.find? (.text (body ++ "JMSText")) map = some content := by
  have last : payloadContributions flattener.settings .text value =
      .ok [(.text (body ++ "JMSText"), content)] := by
    rw [payloadContributions, read, Outcome.ok_bind, textContributions, present,
      if_neg Bool.false_ne_true, isBody, entry_text]
    rfl
  obtain ⟨shape, contributions, shaped, listed, rfl⟩ := exists_contributions flattened
  cases known.symm.trans shaped
  obtain ⟨_, -, rest⟩ := bind_eq_ok_iff.mp listed
  obtain ⟨first, -, rest⟩ := bind_eq_ok_iff.mp rest
  rw [last] at rest
  cases rest
  rw [withNewKeys_append_text, Table.insertAll_append]
  exact Table.find?_insert_self (by simp) content _

/-- A number in the place of the text stays a number. -/
theorem report_text_unchanged_number :
    let message : Value := .message (.fresh none) (greeting (.int 5))
    ∃ map,
      (Settings.default.flattener.report message).outcome = .ok (some map)
        ∧ ¬ ∀ entry ∈ map, entry.1.IsText ∧ entry.2.IsText := by
  intro message
  have known : Shape.of? message = some (.message .text) := rfl
  have reads : (Shape.contributions Settings.default.flattener (.message .text) message).isOk
      = true := by decide +kernel
  obtain ⟨map, flattened⟩ := exists_outcome_of_isOk known reads
  refine ⟨map, flattened, fun texts => ?_⟩
  have found := report_text_unchanged rfl known rfl rfl flattened
  obtain ⟨entry, first, isNumber⟩ := Option.map_eq_some_iff.mp found
  obtain ⟨s, isText⟩ := (texts entry (List.mem_of_find?_eq_some first)).2
  rw [isText] at isNumber
  cases isNumber

end Flatten
end BrokerMaps
