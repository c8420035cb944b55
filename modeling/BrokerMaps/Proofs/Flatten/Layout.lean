import BrokerMaps.Flatten.Report
import BrokerMaps.Proofs.Chunk.Spans
import BrokerMaps.Proofs.Message.Reading
import BrokerMaps.Proofs.Settings

/-!
# The layout of a flattened message

A flattened message has three sections: the header, the custom properties and the body. A section is
planned as named texts in a fixed order, and writing it puts its prefix in front of every name. The
first text that cannot be written is the failure of the whole.

`Plan.header`, `Plan.store` and `Plan.payload` say what the sections are, field by field and without
regard to how a message is read. Flattening a message is the same as writing these plans one after
the other.
-/
namespace BrokerMaps

open Outcome (bind_eq_ok_iff)

/-! ## Plans -/

/-- Named texts in order, each of which may fail. -/
abbrev Plan := List (String × Except Fault Value)

namespace Plan

open Flatten (asText physicalName plainText)

/-- The names under a prefix, with their texts. -/
def write (lead : String) (plan : Plan) : Except Fault (List (String × Value)) :=
  plan.mapM fun planned => planned.2.map fun text => (lead ++ planned.1, text)

def contributions (lead : String) (plan : Plan) : Except Fault (List Contribution) :=
  (plan.write lead).map Table.ofNamed

theorem contributions_eq_ok_iff {lead : String} {plan : Plan} {list : List Contribution} :
    contributions lead plan = .ok list ↔
      ∃ pairs, plan.write lead = .ok pairs ∧ list = Table.ofNamed pairs := by
  rw [contributions]
  cases plan.write lead <;> simp [eq_comm]

theorem contributions_singleton (lead name : String) (text : Except Fault Value) :
    contributions lead [(name, text)] =
      text.map fun written => [(Value.text (lead ++ name), written)] := by
  cases text <;> rfl

theorem contributions_append (lead : String) (first second : Plan) :
    contributions lead (first ++ second) =
      (do
        let before ← contributions lead first
        let after ← contributions lead second
        return before ++ after) := by
  simp only [contributions, write, List.mapM_append]
  cases first.mapM fun planned => planned.2.map fun text => (lead ++ planned.1, text) with
  | error fault => rfl
  | ok before =>
    cases second.mapM fun planned => planned.2.map fun text => (lead ++ planned.1, text) with
    | error fault => rfl
    | ok after => simp [Table.ofNamed, pure, Except.pure]

/-- Lists of contributions that are planned one by one are planned as a whole. -/
theorem contributions_flatMap {α : Type} {lead : String} {xs : List α}
    {list : α → Except Fault (List Contribution)} {plan : α → Plan}
    (planned : ∀ x ∈ xs, list x = contributions lead (plan x)) :
    (do
      let lists ← xs.mapM list
      return lists.flatten) = contributions lead (xs.flatMap plan) := by
  induction xs with
  | nil => rfl
  | cons x rest ih =>
    obtain ⟨here, later⟩ := List.forall_mem_cons.mp planned
    rw [List.flatMap_cons, contributions_append, ← ih later, ← here, List.mapM_cons]
    cases list x with
    | error fault => rfl
    | ok first => cases rest.mapM list <;> simp [pure, Except.pure]

/-- Lists that are planned one by one where they can be listed are then planned as a whole. -/
theorem contributions_flatMap_of_ok {α : Type} {lead : String} {xs : List α}
    {list : α → Except Fault (List Contribution)} {plan : α → Plan}
    {lists : List (List Contribution)} (listed : xs.mapM list = .ok lists)
    (planned : ∀ x ∈ xs, ∀ here, list x = .ok here → contributions lead (plan x) = .ok here) :
    contributions lead (xs.flatMap plan) = .ok lists.flatten := by
  have related := Outcome.mapM_eq_ok_iff.mp listed
  clear listed
  induction related with
  | nil => rfl
  | cons here _ ih =>
    obtain ⟨first, later⟩ := List.forall_mem_cons.mp planned
    rw [List.flatMap_cons, contributions_append, first _ here, ih later]
    rfl

/-- Contributions that are planned one by one are planned as a whole. -/
theorem mapM_eq_contributions {α : Type} {lead : String} {xs : List α}
    {step : α → Except Fault Contribution} {plan : α → String × Except Fault Value}
    (planned : ∀ x ∈ xs, step x =
      (plan x).2.map fun text => (.text (lead ++ (plan x).1), text)) :
    xs.mapM step = contributions lead (xs.map plan) := by
  induction xs with
  | nil => rfl
  | cons x rest ih =>
    obtain ⟨here, later⟩ := List.forall_mem_cons.mp planned
    have split : plan x :: rest.map plan = [((plan x).1, (plan x).2)] ++ rest.map plan := rfl
    rw [List.map_cons, split, contributions_append, contributions_singleton, ← ih later,
      List.mapM_cons, here]
    cases (plan x).2 with
    | error fault => rfl
    | ok text => cases rest.mapM step <;> rfl

/-- A name that is left out when its field is null. -/
def unlessNull (content : Value) (name : String) (text : Except Fault Value) : Plan :=
  if content.isNull then [] else [(name, text)]

/-- A written plan has the planned names in order, each with its text. -/
theorem write_eq_ok_iff {lead : String} {plan : Plan} {pairs : List (String × Value)} :
    plan.write lead = .ok pairs ↔
      List.Forall₂ (fun planned pair => pair.1 = lead ++ planned.1 ∧ planned.2 = .ok pair.2)
        plan pairs := by
  have step : ∀ (planned : String × Except Fault Value) (pair : String × Value),
      (planned.2.map fun text => (lead ++ planned.1, text)) = .ok pair ↔
        pair.1 = lead ++ planned.1 ∧ planned.2 = .ok pair.2 := by
    rintro ⟨name, text⟩ ⟨key, written⟩
    cases text <;> simp [Prod.ext_iff, eq_comm]
  rw [write, Outcome.mapM_eq_ok_iff]
  simp only [step]

/-! ## Sections -/

/-- The header fields in their fixed order. A delivery mode is told from its number. -/
def header (fields : Header Value) : Plan :=
  unlessNull fields.correlationId "JMSCorrelationID" (plainText fields.correlationId)
    ++ [("JMSDeliveryMode", (fields.deliveryMode.equalTo (.int 2)).map fun persistent =>
      .text (if persistent then "persistent" else "non-persistent"))]
    ++ unlessNull fields.destination "JMSDestination" (physicalName fields.destination)
    ++ [("JMSExpiration", plainText fields.expiration)]
    ++ unlessNull fields.messageId "JMSMessageID" (plainText fields.messageId)
    ++ [("JMSPriority", plainText fields.priority)]
    ++ [("JMSRedelivered", asText fields.redelivered.mapText)]
    ++ unlessNull fields.replyTo "JMSReplyTo" (physicalName fields.replyTo)
    ++ [("JMSTimestamp", plainText fields.timestamp)]
    ++ unlessNull fields.messageType "JMSType" (plainText fields.messageType)

/-- The entries of a store in their order. -/
def store (entries : List (String × Value)) : Plan :=
  entries.flatMap fun entry => unlessNull entry.2 entry.1 (asText entry.2.mapText)

def chunkName (i : Nat) : String := "JMSBytes:" ++ toString (i + 1)

/-- The text of the chunk with `i` whole chunks before it. The size of a whole chunk is shown as it
was given. -/
def chunkText (settings : Settings) (body : Value) (length size i : Nat) : Except Fault Value :=
  asText <| settings.rendering.render body (spanAt length size i).start
    (spanAt length size i).size
    (if i < length / size then settings.chunkSize else .int (length % size : Nat))

/-- The chunks of a body, one more than there are whole ones. -/
def chunks (settings : Settings) (body : Value) (length size : Nat) : Plan :=
  (List.range (length / size + 1)).map fun i =>
    (chunkName i, chunkText settings body length size i)

/-- The payload of a message, which for a bytes message depends on the length of its body. -/
def payload (settings : Settings) (size : Nat) (message : Value) :
    Payload Value → Except Fault Plan
  | .plain => .ok []
  | .text content => .ok (unlessNull content "JMSText" (.ok content))
  | .bytes body => body.length.map fun length => chunks settings body length size
  | .object held => .ok <|
    unlessNull held "JMSObjectClass" (.ok (.text held.classOf.qualified))
      ++ unlessNull held "JMSObjectString" (plainText held)
  | .map fields => .ok (store fields.named)
  | .stream _ => .ok [("JMSStreamMessage", plainText message)]

/-- The three sections of a message, each under its prefix. -/
def message (settings : Settings) (header custom body : String) (size : Nat) (message : Value)
    (content : Message Value) : Except Fault (List (String × Value)) := do
  let first ← write header (Plan.header content.header)
  let own ← write custom (store content.header.properties.named)
  let plan ← payload settings size message content.payload
  let last ← write body plan
  return first ++ own ++ last

theorem message_eq_ok_iff {settings : Settings} {header custom body : String} {size : Nat}
    {value : Value} {content : Message Value} {pairs : List (String × Value)} :
    message settings header custom body size value content = .ok pairs ↔
      ∃ first own last plan,
        pairs = first ++ own ++ last
          ∧ (Plan.header content.header).write header = .ok first
          ∧ (store content.header.properties.named).write custom = .ok own
          ∧ payload settings size value content.payload = .ok plan
          ∧ plan.write body = .ok last := by
  simp only [message, bind_eq_ok_iff, pure, Except.pure, Except.ok.injEq]
  constructor
  · rintro ⟨first, headed, own, owned, plan, planned, last, closed, rfl⟩
    exact ⟨first, own, last, plan, rfl, headed, owned, planned, closed⟩
  · rintro ⟨first, own, last, plan, rfl, headed, owned, planned, closed⟩
    exact ⟨first, headed, own, owned, plan, planned, last, closed, rfl⟩

end Plan

namespace Flatten

/-! ## Entries -/

theorem entry_text (lead name : String) (text : Except Fault Value) :
    entry (.text lead) (.text name) text =
      text.map fun written => (Value.text (lead ++ name), written) := by
  cases text with
  | error fault => rfl
  | ok written =>
    simp [entry, Value.plus, Value.opened, Value.requireDigest, Value.digest, pure, Except.pure]

private theorem contributions_unlessNull (lead name : String) (content : Value)
    (text : Except Fault Value) :
    Plan.contributions lead (Plan.unlessNull content name text) =
      if content.isNull then .ok []
      else (entry (.text lead) (.text name) text).map ([·]) := by
  rw [Plan.unlessNull, entry_text]
  split
  · rfl
  · rw [Plan.contributions_singleton]
    cases text <;> rfl

/-! ## Header -/

/-- What a header entry plans for the content of its field. -/
def HeaderEntry.plan (header : HeaderEntry) (content : Value) : Plan :=
  if header.optional then Plan.unlessNull content header.name (header.text content)
  else [(header.name, header.text content)]

theorem HeaderEntry.contributions_eq {settings : Settings} {message content : Value}
    {lead : String} (header : HeaderEntry) (isLead : settings.headerPrefix = .text lead)
    (read : message.field header.field = .ok content) :
    header.contributions settings message = Plan.contributions lead (header.plan content) := by
  rw [HeaderEntry.contributions, HeaderEntry.plan, read, isLead]
  simp only [Outcome.ok_bind]
  cases header.optional with
  | true =>
    rw [if_pos rfl, contributions_unlessNull, Bool.true_and]
    rfl
  | false =>
    rw [if_neg Bool.false_ne_true, Bool.false_and, if_neg Bool.false_ne_true, entry_text,
      Plan.contributions_singleton]
    cases header.text content <;> rfl

theorem deliveryText_eq (deliveryMode : Value) :
    deliveryText deliveryMode = (deliveryMode.equalTo (.int 2)).map fun persistent =>
      .text (if persistent then "persistent" else "non-persistent") := by
  rw [deliveryText, Value.equalTo_mode, DeliveryMode.toNat]
  cases deliveryMode.equalTo (.int 2) <;> rfl

/-- Every header entry reads one of the fields that all messages have. -/
private theorem field?_headerEntries (content : Message Value) :
    ∀ entry ∈ headerEntries, entry.field ≠ "body_length"
      ∧ ∃ held, content.field? entry.field = some held := by
  simp only [headerEntries, List.forall_mem_cons]
  refine ⟨?_, ?_, ?_, ?_, ?_, ?_, ?_, ?_, ?_, ?_, by simp⟩ <;> exact ⟨by decide, _, rfl⟩

/-- The header section is what its entries plan, one after the other. -/
theorem header_eq_flatMap (content : Message Value) :
    Plan.header content.header = headerEntries.flatMap fun entry =>
      ((content.field? entry.field).map entry.plan).getD [] := by
  rw [Plan.header, ← deliveryText_eq]
  simp only [headerEntries, List.flatMap_cons, List.flatMap_nil, List.append_nil,
    List.append_assoc]
  rfl

theorem headerContributions_eq {settings : Settings} {message : Value} {content : Message Value}
    {lead : String} (isLead : settings.headerPrefix = .text lead)
    (isMessage : message.IsMessage content) :
    headerContributions settings message =
      Plan.contributions lead (Plan.header content.header) := by
  have planned : ∀ entry ∈ headerEntries, entry.contributions settings message =
      Plan.contributions lead (((content.field? entry.field).map entry.plan).getD []) := by
    intro entry member
    obtain ⟨other, held, found⟩ := field?_headerEntries content entry member
    rw [entry.contributions_eq isLead (isMessage.field other found), found]
    rfl
  rw [headerContributions, Plan.contributions_flatMap planned, header_eq_flatMap]

/-! ## Stores -/

theorem storedContribution_text (role : EntryRole) (lead : String) {owner store value : Value}
    {content : Message Value} (isMessage : owner.IsMessage content) {name : String}
    (read : Message.getEntry store (.text name) = .ok value) :
    storedContribution role (.text lead) owner store (.text name) =
      Plan.contributions lead (Plan.unlessNull value name (asText value.mapText)) := by
  rw [storedContribution, isMessage.checkCallable, read, contributions_unlessNull]
  rfl

theorem storeContributions_eq {role : EntryRole} (lead : String) {owner store : Value}
    {content : Message Value} (isMessage : owner.IsMessage content)
    (found : content.store? role = some store) (isStore : store.IsStore) :
    storeContributions role (.text lead) owner =
      Plan.contributions lead (Plan.store store.named) := by
  have planned := fun stored (member : stored ∈ store.named) =>
    storedContribution_text role lead isMessage (isStore.getEntry member)
  rw [storeContributions, isMessage.storeThrough found, Outcome.ok_bind, isStore.entryNames,
    Outcome.ok_bind, List.mapM_map, Plan.store, ← Plan.contributions_flatMap planned]
  rfl

/-! ## Payloads -/

theorem textContributions_eq {settings : Settings} {lead : String}
    (isLead : settings.bodyPrefix = .text lead) (content : Value) :
    textContributions settings content =
      Plan.contributions lead (Plan.unlessNull content "JMSText" (.ok content)) := by
  rw [textContributions, isLead, contributions_unlessNull]

theorem objectContributions_eq {settings : Settings} {lead : String}
    (isLead : settings.bodyPrefix = .text lead) (held : Value) :
    objectContributions settings held =
      Plan.contributions lead
        (Plan.unlessNull held "JMSObjectClass" (.ok (.text held.classOf.qualified))
          ++ Plan.unlessNull held "JMSObjectString" (plainText held)) := by
  rw [objectContributions, isLead, Plan.contributions_append, contributions_unlessNull,
    contributions_unlessNull]
  split
  · rfl
  · simp only [entry_text]
    cases plainText held <;> rfl

theorem streamContributions_eq {settings : Settings} {lead : String}
    (isLead : settings.bodyPrefix = .text lead) (message : Value) :
    streamContributions settings message =
      Plan.contributions lead [("JMSStreamMessage", plainText message)] := by
  rw [streamContributions, isLead, entry_text, Plan.contributions_singleton]
  cases plainText message <;> rfl

theorem chunkContribution_eq {settings : Settings} {lead : String}
    (isLead : settings.bodyPrefix = .text lead) (body : Value) (shown : ShownSpan) :
    chunkContribution settings (.ok body) shown =
      (asText (settings.rendering.render body shown.span.start shown.span.size
        shown.shownSize)).map fun text =>
          (.text (lead ++ ("JMSBytes:" ++ toString shown.span.index)), text) := by
  have leads : settings.bodyPrefix.formatted = .ok lead := by rw [isLead]; rfl
  rw [chunkContribution, chunkKey, leads, Outcome.ok_bind, ← String.append_assoc]
  cases settings.rendering.render body shown.span.start shown.span.size shown.shownSize <;> rfl

theorem chunkLayout_natCast {settings : Settings} {size : Nat} (positive : 0 < size)
    (integral : settings.chunkSize.integral? = some (size : Int)) (length : Nat) :
    chunkLayout (.int length) settings.chunkSize = .ok ⟨length, size, settings.chunkSize⟩ :=
  chunkLayout_of_integral positive rfl integral

/-- Nothing but an integer can be counted by. -/
theorem exists_integral_of_chunkLayout (length : Nat) {chunkSize : Value}
    (divides : ¬ Outcome.Fails (chunkLayout (.int length) chunkSize)) :
    ∃ n, chunkSize.integral? = some n := by
  cases integral : chunkSize.integral? with
  | some n => exact ⟨n, rfl⟩
  | none =>
    have notNegative : (Value.int length).lessThan 0 = .ok false := by
      simp [Value.lessThan, Value.number?, Number.lessInt]
    rw [chunkLayout, notNegative, Outcome.ok_bind] at divides
    obtain ⟨counts, counted, -⟩ := Outcome.not_fails_bind_iff.mp divides
    -- A quotient that involves a double is no number of chunks.
    exfalso
    unfold Value.countedBy at counted
    rw [integral] at counted
    split at counted
    next => simp_all
    next =>
      split at counted
      next x y _ _ =>
        obtain ⟨_, -, later⟩ := bind_eq_ok_iff.mp counted
        obtain ⟨y, -, last⟩ := bind_eq_ok_iff.mp later
        cases zero : y.isZero <;> simp [zero, Value.shapeFault] at last
      next => cases counted

/-- A span contributes what is planned for the chunk it stands for, shown size included. -/
private theorem chunkContribution_shown {settings : Settings} {lead : String} {size : Nat}
    (isLead : settings.bodyPrefix = .text lead) (positive : 0 < size) (body : Value)
    (length i : Nat) (member : i ∈ List.range (length / size + 1)) :
    chunkContribution settings (.ok body)
        (ChunkLayout.shown ⟨length, size, settings.chunkSize⟩ (spanAt length size i)) =
      (Plan.chunkText settings body length size i).map fun text =>
        (.text (lead ++ Plan.chunkName i), text) := by
  have quotient : (length : Int).fdiv size = (length / size : Nat) := (Int.ofNat_fdiv ..).symm
  have index : toString (spanAt length size i).index = toString (i + 1) := rfl
  have whole : ((spanAt length size i).index ≤ (length : Int).fdiv size) ↔ i < length / size := by
    rw [quotient]
    exact Int.ofNat_le.trans Nat.succ_le_iff
  have shownSize : (ChunkLayout.shown ⟨length, size, settings.chunkSize⟩
      (spanAt length size i)).shownSize =
        if i < length / size then settings.chunkSize else .int (length % size : Nat) := by
    simp only [ChunkLayout.shown, whole]
    split
    · rfl
    -- The only span that is no whole chunk is the last one, which shows what remains.
    next last =>
      have here : i = length / size := by
        have bound := List.mem_range.mp member
        omega
      rw [spanAt, here, min_sub_div length positive]
  rw [chunkContribution_eq isLead, shownSize, Plan.chunkText, Plan.chunkName, ← index]
  rfl

/-- What is refused before the chunks are listed is what the first of them would be refused for. -/
theorem bytesContributions_eq_mapM (settings : Settings) (length : Value)
    (body : Except Fault Value) :
    bytesContributions settings length body =
      (do
        let layout ← chunkLayout length settings.chunkSize
        layout.spans.mapM (chunkContribution settings body)) := by
  unfold bytesContributions
  cases chunkLayout length settings.chunkSize with
  | error fault => rfl
  | ok layout =>
    have first : layout.spans.head? = some layout.first := by
      rw [ChunkLayout.spans, List.head?_map, head?_chunkSpans]
      rfl
    obtain ⟨rest, isCons⟩ := List.head?_eq_some_iff.mp first
    rw [Outcome.ok_bind, Outcome.ok_bind, isCons, List.mapM_cons]
    cases chunkContribution settings body layout.first <;> rfl

theorem bytesContributions_eq {settings : Settings} {lead : String} {size : Nat}
    (isLead : settings.bodyPrefix = .text lead) (positive : 0 < size)
    (integral : settings.chunkSize.integral? = some (size : Int)) (length : Nat) (body : Value) :
    bytesContributions settings (.int length) (.ok body) =
      Plan.contributions lead (Plan.chunks settings body length size) := by
  have spans : ChunkLayout.spans ⟨length, size, settings.chunkSize⟩ =
      (List.range (length / size + 1)).map fun i =>
        ChunkLayout.shown ⟨length, size, settings.chunkSize⟩ (spanAt length size i) := by
    rw [ChunkLayout.spans, chunkSpans_natCast length positive, List.map_map]
    rfl
  have all : (ChunkLayout.spans ⟨length, size, settings.chunkSize⟩).mapM
      (chunkContribution settings (.ok body)) =
        Plan.contributions lead (Plan.chunks settings body length size) := by
    rw [spans, List.mapM_map]
    exact Plan.mapM_eq_contributions (chunkContribution_shown isLead positive body length)
  rw [← all, bytesContributions_eq_mapM, chunkLayout_natCast positive integral, Outcome.ok_bind]

/-- The payload entries of a message are those planned for it. How large the chunks are matters for
a bytes message only, and how the fields are stored for a map message. -/
theorem payloadContributions_eq_of {settings : Settings} {message : Value}
    {content : Message Value} {lead : String} {size : Nat}
    (isLead : settings.bodyPrefix = .text lead) (isMessage : message.IsMessage content)
    (counted : ∀ body, content.payload = .bytes body →
      0 < size ∧ settings.chunkSize.integral? = some (size : Int))
    (stored : ∀ fields, content.payload = .map fields →
      storeContributions .mapField (.text lead) message =
        Plan.contributions lead (Plan.store fields.named)) :
    payloadContributions settings content.kind message =
      (do
        let plan ← Plan.payload settings size message content.payload
        Plan.contributions lead plan) := by
  obtain ⟨header, payload⟩ := content
  cases payload with
  | plain => rfl
  | text text =>
    have read : message.field "text" = .ok text := isMessage.field (by decide) rfl
    have listed := textContributions_eq isLead text
    simp [payloadContributions, Message.kind, Payload.kind, read, listed, Plan.payload]
  | bytes body =>
    have read := isMessage.field_body rfl
    have length := isMessage.field_body_length rfl
    obtain ⟨positive, integral⟩ := counted body rfl
    have listed := fun length => bytesContributions_eq isLead positive integral length body
    simp only [payloadContributions, Message.kind, Payload.kind, Plan.payload, read, length]
    -- A body without a length fails on both sides, before anything is divided.
    cases body.length with
    | error fault => rfl
    | ok length => exact listed length
  | object held =>
    have read : message.field "payload" = .ok held := isMessage.field (by decide) rfl
    have listed := objectContributions_eq isLead held
    simp [payloadContributions, Message.kind, Payload.kind, read, listed, Plan.payload]
  | map fields =>
    have listed := stored fields rfl
    simp [payloadContributions, Message.kind, Payload.kind, isLead, listed, Plan.payload]
  | stream elements =>
    have listed := streamContributions_eq isLead message
    simp [payloadContributions, Message.kind, Payload.kind, listed, Plan.payload]

theorem payloadContributions_eq {settings : Settings} {message : Value}
    {content : Message Value} {lead : String} {size : Nat}
    (isLead : settings.bodyPrefix = .text lead) (positive : 0 < size)
    (integral : settings.chunkSize.integral? = some (size : Int))
    (isMessage : message.IsMessage content)
    (isStore : ∀ fields, content.payload = .map fields → fields.IsStore) :
    payloadContributions settings content.kind message =
      (do
        let plan ← Plan.payload settings size message content.payload
        Plan.contributions lead plan) := by
  refine payloadContributions_eq_of isLead isMessage (fun _ _ => ⟨positive, integral⟩) ?_
  intro fields isMap
  have found : content.store? .mapField = some fields := by simp [Message.store?, isMap]
  exact storeContributions_eq lead isMessage found (isStore fields isMap)

/-! ## Messages -/

/-- Nothing stands in the way of the methods of a flattener without extra fields. -/
theorem messageContributions_flattener (settings : Settings) (kind : MessageKind)
    (message : Value) :
    messageContributions settings.flattener kind message =
      (do
        let first ← headerAndCustom settings message
        let last ← payloadContributions settings kind message
        return first ++ last) := by
  -- For a plain message the step is not taken at all, and every other one takes it in vain.
  cases kind <;> rfl

theorem headerAndCustom_eq {settings : Settings} {message : Value} {content : Message Value}
    {header custom body : String} (texts : settings.HasTexts header custom body)
    (isMessage : message.IsMessage content) (stores : content.HasStores) :
    headerAndCustom settings message =
      (do
        let first ← Plan.contributions header (Plan.header content.header)
        let own ← Plan.contributions custom (Plan.store content.header.properties.named)
        return first ++ own) := by
  rw [headerAndCustom, headerContributions_eq texts.header isMessage, texts.custom,
    storeContributions_eq custom isMessage rfl stores.properties]

/-- A message contributes what its three sections are, one after the other. -/
theorem messageContributions_eq {settings : Settings} {message : Value} {content : Message Value}
    {header custom body : String} {size : Nat} (texts : settings.HasTexts header custom body)
    (positive : 0 < size) (integral : settings.chunkSize.integral? = some (size : Int))
    (isMessage : message.IsMessage content) (stores : content.HasStores) :
    messageContributions settings.flattener content.kind message =
      (Plan.message settings header custom body size message content).map Table.ofNamed := by
  rw [messageContributions_flattener, headerAndCustom_eq texts isMessage stores,
    payloadContributions_eq texts.body positive integral isMessage stores.fields, Plan.message]
  simp only [Plan.contributions]
  -- Both sides work through the sections in one order and stop at the same fault.
  cases Plan.write header (Plan.header content.header) with
  | error fault => rfl
  | ok first =>
    simp only [Outcome.ok_bind, Except.map]
    cases Plan.write custom (Plan.store content.header.properties.named) with
    | error fault => rfl
    | ok own =>
      simp only [Outcome.ok_bind]
      cases Plan.payload settings size message content.payload with
      | error fault => rfl
      | ok plan =>
        simp only [Outcome.ok_bind]
        cases Plan.write body plan with
        | error fault => rfl
        | ok last => simp [Table.ofNamed, pure, Except.pure]

end Flatten
end BrokerMaps
