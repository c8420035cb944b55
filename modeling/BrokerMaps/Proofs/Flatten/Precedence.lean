import BrokerMaps.Proofs.Flatten.Sections
import BrokerMaps.Proofs.Value.KeyForms

/-!
# Precedence between the sections of a message

The three prefixes need not tell the sections of a message apart. Where keys of different sections
are the same text, the section that is written later has the last word: the body over the custom
properties, and these over the header. A key stays where it came up first.

Custom properties and map fields are tables as a rule, but the field that holds them can be replaced
by anything, and a table can have keys that are no texts. Such a message is flattened only where
nothing is to be read there: what is no table has to be empty, and under a key that is no text there
has to be null.

## Main result

`Flatten.report_precedence`
-/
namespace BrokerMaps

open Outcome (bind_eq_ok_iff)

/-! ## Stores of any kind -/

/-- A table with keys no two of which are the same, or no table at all. -/
def Value.HoldsKeys (objects : Nat → Value) (store : Value) : Prop :=
  ∀ identity? entries, store.opened = .table identity? entries →
    Table.Keyed (Value.IsKey objects) entries ∧ Table.Distinct entries

/-- The stores of a message are as they can come to be. -/
def Message.HoldsKeys (objects : Nat → Value) (content : Message Value) : Prop :=
  ∀ role store, content.store? role = some store → store.HoldsKeys objects

namespace Value

theorem named_of_not_table {store : Value}
    (noTable : ∀ identity? entries, store.opened ≠ .table identity? entries) :
    store.named = [] := by
  unfold named
  split
  next identity? entries opened => exact absurd opened (noTable identity? entries)
  next => rfl

theorem ofNamed_named_sublist {store : Value} {identity? : Option Nat} {entries : Table}
    (opened : store.opened = .table identity? entries) :
    (Table.ofNamed store.named).Sublist entries := by
  rw [named, opened]
  clear opened
  simp only
  induction entries with
  | nil => exact List.Sublist.refl []
  | cons entry rest ih =>
    obtain ⟨key, value⟩ := entry
    cases key with
    | text name => exact ih.cons_cons _
    | _ => exact ih.cons _

/-- The names in a store are all different. -/
theorem HoldsKeys.nodup_names {objects : Nat → Value} {store : Value}
    (holds : store.HoldsKeys objects) : (store.named.map (·.1)).Nodup := by
  by_cases isTable : ∃ identity? entries, store.opened = .table identity? entries
  · obtain ⟨identity?, entries, opened⟩ := isTable
    rw [← Table.distinct_ofNamed_iff]
    exact (holds identity? entries opened).2.sublist (ofNamed_named_sublist opened)
  · simp only [not_exists] at isTable
    rw [named_of_not_table isTable]
    exact List.nodup_nil

/-- A key that opens as a text is one. -/
theorem IsKey.eq_text_of_opened {objects : Nat → Value} {key : Value} (isKey : IsKey objects key)
    {s : String} (opened : key.opened = .text s) : key = .text s := by
  cases isKey <;> simp_all [Value.opened]

end Value

namespace Flatten

/-- What an entry of a table plans for its key. -/
def storedPlan (entry : Value × Value) : Plan :=
  match entry.1 with
  | .text name => Plan.unlessNull entry.2 name (asText entry.2.mapText)
  | _ => []

theorem store_eq_flatMap {store : Value} {identity? : Option Nat} {entries : Table}
    (opened : store.opened = .table identity? entries) :
    Plan.store store.named = entries.flatMap storedPlan := by
  rw [Value.named, opened, Plan.store]
  clear opened
  simp only
  induction entries with
  | nil => rfl
  | cons entry rest ih =>
    obtain ⟨key, value⟩ := entry
    rw [List.flatMap_cons, ← ih]
    cases key <;> rfl

theorem getEntry_of_mem {objects : Nat → Value} {store : Value} {identity? : Option Nat}
    {entries : Table} {entry : Value × Value} {value : Value} (holds : store.HoldsKeys objects)
    (opened : store.opened = .table identity? entries) (member : entry ∈ entries)
    (read : Message.getEntry store entry.1 = .ok value) : value = entry.2 := by
  obtain ⟨keyed, distinct⟩ := holds identity? entries opened
  have found := Table.find?_of_mem (Value.toldBy_keyForm objects) keyed distinct member
  rw [Message.getEntry, Value.lookup, opened] at read
  obtain ⟨_, -, made⟩ := bind_eq_ok_iff.mp read
  cases made
  rw [found, Option.getD_some]

theorem getEntry_of_not_table {store name value : Value}
    (noTable : ∀ identity? entries, store.opened ≠ .table identity? entries) :
    Message.getEntry store name ≠ .ok value := by
  intro read
  rw [Message.getEntry, Value.lookup] at read
  split at read
  next identity? entries opened => exact noTable identity? entries opened
  next =>
    obtain ⟨_, -, refused⟩ := bind_eq_ok_iff.mp read
    cases refused

/-- A name that is no text can be added to no prefix. -/
theorem entry_of_not_text {lead : String} {name : Value} {text : Except Fault Value}
    {contribution : Contribution} (other : ∀ s, name.opened ≠ .text s) :
    entry (.text lead) name text ≠ .ok contribution := by
  intro made
  obtain ⟨_, -, later⟩ := bind_eq_ok_iff.mp made
  obtain ⟨key, added, -⟩ := bind_eq_ok_iff.mp later
  have isText : (Value.text lead).opened = .text lead := rfl
  rw [Value.plus, isText] at added
  cases found : name.opened <;> rw [found] at added <;> cases added
  exact other _ found

theorem storedContribution_of_ok {objects : Nat → Value} {role : EntryRole} {lead : String}
    {owner store : Value} {content : Message Value} {identity? : Option Nat} {entries : Table}
    {entry : Value × Value} {list : List Contribution} (isMessage : owner.IsMessage content)
    (holds : store.HoldsKeys objects) (opened : store.opened = .table identity? entries)
    (member : entry ∈ entries)
    (listed : storedContribution role (.text lead) owner store entry.1 = .ok list) :
    Plan.contributions lead (storedPlan entry) = .ok list := by
  obtain ⟨key, value⟩ := entry
  have isKey := (holds identity? entries opened).1 _ member
  obtain ⟨_, -, reading⟩ := bind_eq_ok_iff.mp listed
  obtain ⟨found, read, rest⟩ := bind_eq_ok_iff.mp reading
  obtain rfl := getEntry_of_mem holds opened member read
  by_cases isText : ∃ s, key = .text s
  · obtain ⟨s, rfl⟩ := isText
    rw [← listed, storedContribution_text role lead isMessage read]
    rfl
  · have noPlan : storedPlan (key, found) = [] := by
      unfold storedPlan
      split
      next s isName => exact absurd ⟨s, isName⟩ isText
      next => rfl
    -- Without a text for a key, only null can have been read.
    split at rest
    next => rw [noPlan, ← rest]; rfl
    next =>
      obtain ⟨contribution, made, -⟩ := bind_eq_ok_iff.mp rest
      refine absurd made (entry_of_not_text fun s opens => isText ⟨s, ?_⟩)
      exact isKey.eq_text_of_opened opens

theorem storeContributions_of_ok {objects : Nat → Value} {role : EntryRole} {lead : String}
    {owner store : Value} {content : Message Value} {list : List Contribution}
    (isMessage : owner.IsMessage content) (found : content.store? role = some store)
    (holds : store.HoldsKeys objects)
    (listed : storeContributions role (.text lead) owner = .ok list) :
    Plan.contributions lead (Plan.store store.named) = .ok list := by
  rw [storeContributions, isMessage.storeThrough found, Outcome.ok_bind] at listed
  obtain ⟨names, named, rest⟩ := bind_eq_ok_iff.mp listed
  obtain ⟨lists, traversed, made⟩ := bind_eq_ok_iff.mp rest
  cases made
  by_cases isTable : ∃ identity? entries, store.opened = .table identity? entries
  · obtain ⟨identity?, entries, opened⟩ := isTable
    have keys : Message.entryNames store = .ok (entries.map (·.1)) := by
      simp [Message.entryNames, Value.elements, Value.elementsBehind, Value.iterate, opened]
    cases named.symm.trans keys
    rw [List.mapM_map] at traversed
    rw [store_eq_flatMap opened]
    exact Plan.contributions_flatMap_of_ok traversed fun entry member here =>
      storedContribution_of_ok isMessage holds opened member
  · simp only [not_exists] at isTable
    rw [Value.named_of_not_table isTable]
    cases names with
    | nil =>
      cases traversed
      rfl
    | cons name others =>
      -- What is no table cannot be asked for the value under a name.
      rw [List.mapM_cons] at traversed
      obtain ⟨first, listed, -⟩ := bind_eq_ok_iff.mp traversed
      obtain ⟨_, -, reading⟩ := bind_eq_ok_iff.mp listed
      obtain ⟨value, read, -⟩ := bind_eq_ok_iff.mp reading
      exact absurd read (getEntry_of_not_table isTable)

/-! ## Sections -/

/-- The number of bytes to a chunk, where the chunk size is one that can be counted by. -/
def chunkBytes (settings : Settings) : Nat := (settings.chunkSize.integral?.getD 0).toNat

/-- Chunks were listed only if the chunk size can be counted by. -/
theorem counted_of_ok {draft : Settings.Draft} {settings : Settings} {length : Nat}
    {body : Except Fault Value} {list : List Contribution}
    (accepted : Settings.check draft = .ok settings)
    (listed : bytesContributions settings (.int length) body = .ok list) :
    0 < chunkBytes settings
      ∧ settings.chunkSize.integral? = some (chunkBytes settings : Int) := by
  obtain ⟨layout, laid, -⟩ := bind_eq_ok_iff.mp listed
  obtain ⟨size, integral⟩ :=
    exists_integral_of_chunkLayout length (Outcome.not_fails_iff.mpr ⟨layout, laid⟩)
  have bound := Settings.one_le_of_check accepted integral
  have same : chunkBytes settings = size.toNat := by rw [chunkBytes, integral, Option.getD_some]
  rw [same, integral, Int.toNat_of_nonneg (by omega)]
  exact ⟨by omega, rfl⟩

theorem payloadContributions_of_ok {draft : Settings.Draft} {settings : Settings}
    {objects : Nat → Value} {lead : String} {value : Value} {content : Message Value}
    {list : List Contribution} (accepted : Settings.check draft = .ok settings)
    (isLead : settings.bodyPrefix = .text lead) (isMessage : value.IsMessage content)
    (holds : content.HoldsKeys objects)
    (listed : payloadContributions settings content.kind value = .ok list) :
    ∃ plan, Plan.payload settings (chunkBytes settings) value content.payload = .ok plan
      ∧ Plan.contributions lead plan = .ok list := by
  -- Where there are chunks at all, the body was measured and could be divided.
  have counted : ∀ body, content.payload = .bytes body →
      0 < chunkBytes settings
        ∧ settings.chunkSize.integral? = some (chunkBytes settings : Int) := by
    intro body isBytes
    have isKind : content.kind = .bytes := by rw [Message.kind, isBytes]; rfl
    rw [isKind] at listed
    obtain ⟨length, read, chunked⟩ := bind_eq_ok_iff.mp listed
    rw [isMessage.field_body_length isBytes] at read
    cases known : body.length with
    | error fault =>
      rw [known] at read
      cases read
    | ok n =>
      rw [known] at read
      cases read
      exact counted_of_ok accepted chunked
  have stored : ∀ fields, content.payload = .map fields →
      storeContributions .mapField (.text lead) value =
        Plan.contributions lead (Plan.store fields.named) := by
    intro fields isMap
    have isKind : content.kind = .map := by rw [Message.kind, isMap]; rfl
    have found : content.store? .mapField = some fields := by simp [Message.store?, isMap]
    rw [isKind, payloadContributions, isLead] at listed
    rw [listed, storeContributions_of_ok isMessage found (holds _ _ found) listed]
  rw [payloadContributions_eq_of isLead isMessage counted stored] at listed
  exact bind_eq_ok_iff.mp listed

/-- The names in the body section of a message are all different. -/
theorem nodup_keys_body {settings : Settings} {objects : Nat → Value} {body : String} {size : Nat}
    {value : Value} {content : Message Value} {plan : Plan} {last : List (String × Value)}
    (holds : content.HoldsKeys objects)
    (planned : Plan.payload settings size value content.payload = .ok plan)
    (closed : plan.write body = .ok last) : (last.map (·.1)).Nodup := by
  have distinct : ∀ fields, content.payload = .map fields → (fields.named.map (·.1)).Nodup := by
    intro fields isMap
    have found : content.store? .mapField = some fields := by simp [Message.store?, isMap]
    exact (holds _ _ found).nodup_names
  rw [Plan.keys_of_write closed]
  exact Plan.nodup_keys body (Plan.nodup_names_payload distinct planned)

/-- A message that is flattened contributes its three sections, one after the other. -/
theorem sections_of_ok {draft : Settings.Draft} {settings : Settings} {objects : Nat → Value}
    {header custom body : String} {value : Value} {content : Message Value}
    {list : List Contribution} (accepted : Settings.check draft = .ok settings)
    (texts : settings.HasTexts header custom body) (isMessage : value.IsMessage content)
    (holds : content.HoldsKeys objects)
    (listed : messageContributions settings.flattener content.kind value = .ok list) :
    ∃ first own last plan,
      list = Table.ofNamed (first ++ own ++ last)
        ∧ (Plan.header content.header).write header = .ok first
        ∧ (Plan.store content.header.properties.named).write custom = .ok own
        ∧ Plan.payload settings (chunkBytes settings) value content.payload = .ok plan
        ∧ plan.write body = .ok last := by
  rw [messageContributions_flattener] at listed
  obtain ⟨_, opened, rest⟩ := bind_eq_ok_iff.mp listed
  obtain ⟨_, paid, made⟩ := bind_eq_ok_iff.mp rest
  obtain ⟨_, headed, owning⟩ := bind_eq_ok_iff.mp opened
  obtain ⟨_, owned, joined⟩ := bind_eq_ok_iff.mp owning
  cases made
  cases joined
  rw [headerContributions_eq texts.header isMessage, Plan.contributions_eq_ok_iff] at headed
  rw [texts.custom] at owned
  have stored := storeContributions_of_ok isMessage rfl (holds .property _ rfl) owned
  obtain ⟨plan, planned, closed⟩ :=
    payloadContributions_of_ok accepted texts.body isMessage holds paid
  obtain ⟨first, headed, rfl⟩ := headed
  obtain ⟨own, written, rfl⟩ := Plan.contributions_eq_ok_iff.mp stored
  obtain ⟨last, ended, rfl⟩ := Plan.contributions_eq_ok_iff.mp closed
  exact ⟨first, own, last, plan, by simp [Table.ofNamed], headed, written, planned, ended⟩

/-! ## Maps -/

/-- Under any prefixes the map of a message is what its three sections set one after the other, and
each key has the value of the last pair with it. No pair of the body is lost or altered, and a
header field is only replaced by a property or a body entry under the very same key. -/
theorem report_precedence {draft : Settings.Draft} {settings : Settings} {objects : Nat → Value}
    {header custom body : String} {value : Value} {content : Message Value} {map : PropertyMap}
    (accepted : Settings.check draft = .ok settings)
    (texts : settings.HasTexts header custom body) (isMessage : value.IsMessage content)
    (holds : content.HoldsKeys objects)
    (flattened : (settings.flattener.report value).outcome = .ok (some map)) :
    ∃ first own last plan,
      (Plan.header content.header).write header = .ok first
        ∧ (Plan.store content.header.properties.named).write custom = .ok own
        ∧ Plan.payload settings (chunkBytes settings) value content.payload = .ok plan
        ∧ plan.write body = .ok last
        ∧ Table.LastWins (Table.ofNamed (first ++ own ++ last)) map
        ∧ (∀ pair ∈ last, Table.find? (.text pair.1) map = some pair.2)
        ∧ ∀ pair ∈ first, Table.find? (.text pair.1) map = some pair.2
          ∨ ∃ later ∈ own ++ last, later.1 = pair.1
            ∧ Table.find? (.text pair.1) map = some later.2 := by
  obtain ⟨shape, contributions, known, listed, rfl⟩ := exists_contributions flattened
  cases isMessage.shapeOf.symm.trans known
  obtain ⟨first, own, last, plan, rfl, headed, owned, planned, closed⟩ :=
    sections_of_ok accepted texts isMessage holds listed
  have headerKeys : (first.map (·.1)).Nodup := by
    rw [Plan.keys_of_write headed]
    exact Plan.nodup_keys header (Plan.nodup_names_header content)
  have bodyKeys := nodup_keys_body holds planned closed
  rw [withNewKeys_ofNamed]
  refine ⟨first, own, last, plan, headed, owned, planned, closed, ?_, ?_, ?_⟩
  · exact Table.lastWins_insertAll Value.toldBy_text (Table.textKeyed_ofNamed _)
  · intro pair member
    -- The body is set last, and no two of its pairs have one key.
    have built : Table.ofNamed (first ++ own ++ last) =
        Table.ofNamed (first ++ own) ++ Table.ofNamed last := by simp [Table.ofNamed]
    have before := Table.textKeyed_insertAll (List.forall_mem_nil _) (first ++ own)
    rw [built, Table.insertAll_append]
    exact Table.find?_insertAll_of_mem before bodyKeys member
  · intro pair member
    rw [List.append_assoc]
    exact Table.find?_insertAll_or_later (List.forall_mem_nil _) headerKeys member

/-- A text message with properties that go by the name of a header field and by that of the text. -/
def overlaid : Message Value :=
  ⟨{ Message.defaultHeader (.text "ID:1") (.int 5) with
      properties := .table none
        [(.text "JMSPriority", .text "high"), (.text "JMSText", .text "early")] },
    .text (.text "late")⟩

/-- Without any prefixes a property replaces a header field, and the text replaces a property. -/
theorem report_precedence_unprefixed :
    let settings : Settings := ⟨.text "", .text "", .text "", .int 2, .text⟩
    ∃ map,
      (settings.flattener.report (.message (.fresh none) overlaid)).outcome = .ok (some map)
        ∧ Table.find? (.text "JMSPriority") map = some (.text "high")
        ∧ Table.find? (.text "JMSText") map = some (.text "late") := by
  intro settings
  have accepted : Settings.check ⟨.text "", .text "", .text "", .int 2, .text "text"⟩ =
      .ok settings := rfl
  have isMessage : (Value.message (.fresh none) overlaid).IsMessage overlaid :=
    ⟨⟨none, rfl⟩, fun _ => rfl⟩
  have holds : overlaid.HoldsKeys fun _ => .null := by
    rintro (_ | _) store found <;> cases found
    rintro identity? entries opened
    cases opened
    refine ⟨?_, ?_⟩
    · exact List.forall_mem_cons.mpr ⟨.text _, List.forall_mem_singleton.mpr (.text _)⟩
    · simp [Table.Distinct]
  have reads : (Shape.contributions settings.flattener (.message .text)
      (.message (.fresh none) overlaid)).isOk = true := by decide +kernel
  obtain ⟨map, flattened⟩ := exists_outcome_of_isOk isMessage.shapeOf reads
  obtain ⟨first, own, last, plan, headed, owned, planned, closed, wins, ends, -⟩ :=
    report_precedence accepted ⟨rfl, rfl, rfl⟩ isMessage holds flattened
  cases owned
  cases planned
  cases closed
  refine ⟨map, flattened, ?_, ends _ List.mem_cons_self⟩
  -- The property comes after the header field with its name, and nothing with that name comes
  -- later.
  have split : Table.ofNamed (first ++ [("JMSPriority", .text "high"), ("JMSText", .text "early")]
      ++ [("JMSText", .text "late")]) =
        Table.ofNamed first ++ (.text "JMSPriority", .text "high") ::
          [(.text "JMSText", .text "early"), (.text "JMSText", .text "late")] := by
    simp [Table.ofNamed]
  exact wins.values _ _ _ _ split (by simp)

end Flatten
end BrokerMaps
