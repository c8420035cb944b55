import BrokerMaps.Proofs.Flatten.Failures

/-!
# Settings that fit every message

Settings fit when every message whose fields have their declared types becomes a map under them. The
check of the settings looks at the chunk size and at the rendering; the prefixes of the keys and the
division of a body take part only when a message is flattened.

## Main result

`Settings.check_fits`: arguments that can be compared and shown are refused with a settings fault or
accepted, and accepted arguments give settings that fit when they are of their declared types. Of
arguments of built-in classes no others do.

## Proof strategy

That settings of the declared types fit is read off from what keeps a message from being flattened.
For the other direction there is one message for each argument: it needs a sum of the prefix and a
text, or the quotient of a length and the chunk size, and has nothing else that could fail.
-/
namespace BrokerMaps

open Outcome (Fails not_fails_iff not_fails_bind_iff not_fails_of_mapM fails_map_iff)

/-! ## Arguments -/

namespace Settings

/-- Every message whose fields have their declared types becomes a map. -/
def Fit (settings : Settings) : Prop :=
  ∀ value content, value.IsMessage content → content.WellTyped →
    ∃ map, (settings.flattener.report value).outcome = .ok (some map)

/-- The prefixes are texts and the chunk size is an integer. -/
structure Draft.WellTyped (draft : Draft) : Prop where
  headerPrefix : ∃ s, draft.headerPrefix.opened = .text s
  customPrefix : ∃ s, draft.customPrefix.opened = .text s
  bodyPrefix : ∃ s, draft.bodyPrefix.opened = .text s
  chunkSize : ∃ n, draft.chunkSize.integral? = some n

/-- None of the arguments is an object of the application, which could be added to texts and could
divide lengths in ways of its own. -/
structure Draft.IsBuiltin (draft : Draft) : Prop where
  headerPrefix : ∀ held, draft.headerPrefix.opened ≠ .object held
  customPrefix : ∀ held, draft.customPrefix.opened ≠ .object held
  bodyPrefix : ∀ held, draft.bodyPrefix.opened ≠ .object held
  chunkSize : ∀ held, draft.chunkSize.opened ≠ .object held

/-- The chunk size compares, and what is refused can be shown. -/
structure Draft.Checkable (draft : Draft) : Prop where
  compares : ¬ Fails (draft.chunkSize.lessThan 1)
  chunkSize : draft.chunkSize.lessThan 1 = .ok true → ¬ Fails draft.chunkSize.formatted
  rendering : Rendering.ofValue? draft.rendering = none → ¬ Fails draft.rendering.formatted

/-- Nothing but a settings fault comes of a check that can compare and show what it looks at. -/
theorem check_cases {draft : Draft} (checkable : draft.Checkable) :
    (∃ fault, check draft = .error fault ∧ fault.kind = .settings)
      ∨ ∃ settings, check draft = .ok settings := by
  obtain ⟨below, compared⟩ := not_fails_iff.mp checkable.compares
  rw [check, compared]
  cases below with
  | true =>
    obtain ⟨shown, written⟩ := not_fails_iff.mp (checkable.chunkSize compared)
    exact .inl ⟨.settings (.chunkSizeTooSmall shown), by simp [written], rfl⟩
  | false =>
    cases known : Rendering.ofValue? draft.rendering with
    | some rendering => exact .inr ⟨_, by simp; rfl⟩
    | none =>
      obtain ⟨shown, written⟩ := not_fails_iff.mp (checkable.rendering known)
      exact .inl ⟨.settings (.unknownRendering shown), by simp [written], rfl⟩

/-- The renderer of an accepted name is there. -/
theorem lookup_of_check {draft : Draft} {settings : Settings}
    (accepted : check draft = .ok settings) :
    Rendering.lookup draft.rendering = .ok settings.rendering := by
  obtain ⟨-, rendering, known, rfl⟩ := check_eq_ok_iff.mp accepted
  cases named : draft.rendering with
  | text s =>
    rw [named] at known
    simp [Rendering.lookup, Value.requireDigest, Value.digest, known, pure, Except.pure]
  | _ =>
    rw [named] at known
    cases known

/-- The settings with their prefixes spelled out as texts. -/
def spelled (settings : Settings) (header custom body : String) : Settings :=
  { settings with
    headerPrefix := .text header, customPrefix := .text custom, bodyPrefix := .text body }

end Settings

/-! ## Settings of the declared types -/

namespace Flatten

variable {settings : Settings} {header custom body : String}

/-- A prefix takes part in a sum as the text that it is found to be. -/
theorem entry_of_opened {keyPrefix : Value} {lead : String} (opens : keyPrefix.opened = .text lead)
    (name : Value) (text : Except Fault Value) :
    entry keyPrefix name text = entry (.text lead) name text := by
  have sum : keyPrefix.plus name = (Value.text lead).plus name := by
    simp only [Value.plus, opens]
    rfl
  simp only [entry, sum]

theorem formatted_of_opened_text {value : Value} {s : String} (opens : value.opened = .text s) :
    value.formatted = .ok s := by
  rw [Value.formatted_eq_plain (by simp [opens])]
  cases value with
  | shared identity className content extra =>
    have same : content () = .text s := opens
    rw [Value.plain, same, Value.plain]
  | text t =>
    cases opens
    rfl
  | _ => cases opens

theorem messageContributions_spelled (isHeader : settings.headerPrefix.opened = .text header)
    (isCustom : settings.customPrefix.opened = .text custom)
    (isBody : settings.bodyPrefix.opened = .text body) (kind : MessageKind) (value : Value) :
    messageContributions settings.flattener kind value =
      messageContributions (settings.spelled header custom body).flattener kind value := by
  -- A prefix is only added to a name or written out, and for both only what it opens to counts.
  have headed : headerContributions settings value =
      headerContributions (settings.spelled header custom body) value := by
    simp only [headerContributions, HeaderEntry.contributions, entry_of_opened isHeader,
      Settings.spelled]
  have stored : ∀ role lead keyPrefix, keyPrefix.opened = .text lead →
      storeContributions role keyPrefix value = storeContributions role (.text lead) value := by
    intro role lead keyPrefix opens
    have each : ∀ store, storedContribution role keyPrefix value store =
        storedContribution role (.text lead) value store := fun store => funext fun name => by
      simp only [storedContribution, entry_of_opened opens]
    simp only [storeContributions, each]
  have chunked : ∀ found, chunkContribution settings found =
      chunkContribution (settings.spelled header custom body) found :=
    fun found => funext fun shown => by
      have spelledOut : (Value.text body).formatted = .ok body := rfl
      simp only [chunkContribution, chunkKey, formatted_of_opened_text isBody, Settings.spelled,
        spelledOut]
  have closed : payloadContributions settings kind value =
      payloadContributions (settings.spelled header custom body) kind value := by
    cases kind with
    | plain => rfl
    | text =>
      simp only [payloadContributions, textContributions, entry_of_opened isBody,
        Settings.spelled]
    | bytes =>
      simp only [payloadContributions, bytesContributions, chunked]
      rfl
    | object =>
      simp only [payloadContributions, objectContributions, entry_of_opened isBody,
        Settings.spelled]
    | map => exact stored .mapField body _ isBody
    | stream =>
      simp only [payloadContributions, streamContributions, entry_of_opened isBody,
        Settings.spelled]
  rw [messageContributions_flattener, messageContributions_flattener, headerAndCustom,
    headerAndCustom, headed, stored .property custom _ isCustom, closed]
  rfl

end Flatten

namespace Settings

theorem Draft.WellTyped.fit {draft : Draft} {settings : Settings} (typed : draft.WellTyped)
    (accepted : check draft = .ok settings) : settings.Fit := by
  obtain ⟨header, isHeader⟩ := typed.headerPrefix
  obtain ⟨custom, isCustom⟩ := typed.customPrefix
  obtain ⟨body, isBody⟩ := typed.bodyPrefix
  obtain ⟨size, integral⟩ := typed.chunkSize
  obtain ⟨-, rendering, -, rfl⟩ := check_eq_ok_iff.mp accepted
  have bound := one_le_of_check accepted integral
  obtain ⟨size, rfl⟩ := Int.eq_ofNat_of_zero_le (show 0 ≤ size by omega)
  intro value content isMessage typed
  refine Flatten.exists_map_of_not_fails isMessage ?_
  rw [outcome_report isMessage.shapeOf, Shape.contributions,
    Flatten.messageContributions_spelled isHeader isCustom isBody]
  set same := Settings.spelled _ header custom body with spelled
  have texts : same.HasTexts header custom body := ⟨rfl, rfl, rfl⟩
  have fails := Flatten.fails_report_iff texts (show 0 < size by omega) integral isMessage
    typed.hasStores typed.length_lt
  rw [outcome_report isMessage.shapeOf, Shape.contributions] at fails
  exact fun failing => typed.not_obstructed _ (fails.mp failing)

end Settings

/-! ## Settings that fit -/

namespace Flatten

/-- Only a text can be put in front of a text. -/
theorem exists_text_of_plus {keyPrefix : Value} {name : String}
    (adds : ¬ Fails (keyPrefix.plus (.text name))) : ∃ lead, keyPrefix.opened = .text lead := by
  have isText : (Value.text name).opened = .text name := rfl
  rw [Value.plus, isText] at adds
  generalize keyPrefix.opened = found at adds ⊢
  cases found with
  | text lead => exact ⟨lead, rfl⟩
  | list | tuple => exact absurd (Outcome.fails_error _) adds
  | buffer kind => cases kind <;> exact absurd (Outcome.fails_error _) adds
  | _ =>
    -- It would have to be arithmetic, but the text on the right counts as no number.
    have noInteger : (Value.text name).integral? = none := rfl
    have noDouble : (Value.text name).toBinary64? = none := rfl
    simp only [noInteger, noDouble] at adds
    split at adds
    next integer => cases integer
    next =>
      split at adds
      next double => cases double
      next => exact absurd (Outcome.fails_error _) adds

theorem exists_text_of_entry {keyPrefix : Value} {name : String} {text : Except Fault Value}
    (writes : ¬ Fails (entry keyPrefix (.text name) text)) :
    ∃ lead, keyPrefix.opened = .text lead := by
  obtain ⟨written, -, later⟩ := not_fails_bind_iff.mp writes
  obtain ⟨key, added, -⟩ := not_fails_bind_iff.mp later
  exact exists_text_of_plus (not_fails_iff.mpr ⟨key, added⟩)

end Flatten

namespace Message

def sampleProperties : Table := [(.text "priority", .text "high")]

/-- A message with one custom property and a payload. -/
def sample (payload : Payload Value) : Message Value :=
  ⟨{ defaultHeader (.text "ID:1") (.int 0) with properties := .table none sampleProperties },
    payload⟩

theorem holdsPrimitives_sample : (Value.table none sampleProperties).HoldsPrimitives :=
  ⟨⟨⟨none, rfl⟩, by decide⟩, List.forall_mem_singleton.mpr (.text "high")⟩

theorem wellTyped_sample {payload : Payload Value} (typed : payload.WellTyped) :
    (sample payload).WellTyped :=
  ⟨Header.wellTyped_default (by decide) holdsPrimitives_sample, typed⟩

end Message

namespace Settings

open Flatten (headerAndCustom headerContributions storeContributions storedContribution
  payloadContributions headerEntries HeaderEntry deliveryText entry exists_text_of_entry
  exists_integral_of_chunkLayout)

/-- Settings that fit flatten both sections of the sample messages. -/
theorem Fit.exists_sections {settings : Settings} (fits : settings.Fit) {payload : Payload Value}
    (typed : payload.WellTyped) :
    ∃ first last,
      headerAndCustom settings (.message (.fresh none) (.sample payload)) = .ok first
        ∧ payloadContributions settings payload.kind (.message (.fresh none) (.sample payload))
          = .ok last := by
  have isMessage : (Value.message (.fresh none) (.sample payload)).IsMessage (.sample payload) :=
    ⟨⟨none, rfl⟩, fun _ => rfl⟩
  obtain ⟨map, flattened⟩ := fits _ _ isMessage (Message.wellTyped_sample typed)
  obtain ⟨shape, contributions, known, listed, -⟩ := exists_contributions flattened
  cases isMessage.shapeOf.symm.trans known
  rw [Shape.contributions, Flatten.messageContributions_flattener] at listed
  obtain ⟨first, headed, later⟩ := Outcome.bind_eq_ok_iff.mp listed
  obtain ⟨last, closed, -⟩ := Outcome.bind_eq_ok_iff.mp later
  exact ⟨first, last, headed, closed⟩

/-- The mode of delivery is always written, so the prefix of its key has to add up. -/
theorem exists_text_of_headerContributions {settings : Settings} {payload : Payload Value}
    (headed : ¬ Fails (headerContributions settings
      (.message (.fresh none) (.sample payload)))) :
    ∃ lead, settings.headerPrefix.opened = .text lead := by
  obtain ⟨lists, listed, -⟩ := not_fails_bind_iff.mp headed
  have mode : ⟨"JMSDeliveryMode", "delivery_mode", false, deliveryText⟩ ∈ headerEntries := by
    simp [headerEntries]
  have delivered := not_fails_of_mapM (not_fails_iff.mpr ⟨lists, listed⟩) mode
  rw [HeaderEntry.contributions] at delivered
  obtain ⟨content, -, later⟩ := not_fails_bind_iff.mp delivered
  obtain ⟨written, entered, -⟩ := not_fails_bind_iff.mp later
  exact exists_text_of_entry (not_fails_iff.mpr ⟨written, entered⟩)

theorem exists_text_of_storeContributions {settings : Settings} {payload : Payload Value}
    (stored : ¬ Fails (storeContributions .property settings.customPrefix
      (.message (.fresh none) (.sample payload)))) :
    ∃ lead, settings.customPrefix.opened = .text lead := by
  obtain ⟨store, found, later⟩ := not_fails_bind_iff.mp stored
  cases found
  obtain ⟨names, named, later⟩ := not_fails_bind_iff.mp later
  cases named
  obtain ⟨lists, listed, -⟩ := not_fails_bind_iff.mp later
  have entered := not_fails_of_mapM (not_fails_iff.mpr ⟨lists, listed⟩) List.mem_cons_self
  rw [storedContribution] at entered
  obtain ⟨-, -, later⟩ := not_fails_bind_iff.mp entered
  have held : ("priority", Value.text "high") ∈ (Value.table none Message.sampleProperties).named :=
    List.mem_cons_self
  have got := Message.holdsPrimitives_sample.isStore.getEntry held
  obtain ⟨value, got', later⟩ := not_fails_bind_iff.mp later
  cases got.symm.trans got'
  obtain ⟨written, entered, -⟩ := not_fails_bind_iff.mp later
  exact exists_text_of_entry (not_fails_iff.mpr ⟨written, entered⟩)

theorem exists_text_of_textPayload {settings : Settings} {last : List Contribution}
    (closed : payloadContributions settings .text
      (.message (.fresh none) (.sample (.text (.text "")))) = .ok last) :
    ∃ lead, settings.bodyPrefix.opened = .text lead := by
  have entered : ¬ Fails (entry settings.bodyPrefix (.text "JMSText") (.ok (.text ""))) := by
    rw [← fails_map_iff]
    exact not_fails_iff.mpr ⟨last, closed⟩
  exact exists_text_of_entry entered

theorem exists_integral_of_bytesPayload {settings : Settings} {last : List Contribution}
    (closed : payloadContributions settings .bytes
      (.message (.fresh none) (.sample (.bytes (.buffer .bytes [])))) = .ok last) :
    ∃ n, settings.chunkSize.integral? = some n := by
  obtain ⟨length, measured, later⟩ := Outcome.bind_eq_ok_iff.mp closed
  cases measured
  obtain ⟨layout, divided, -⟩ := Outcome.bind_eq_ok_iff.mp later
  exact exists_integral_of_chunkLayout 0 (not_fails_iff.mpr ⟨layout, divided⟩)

/-- Of accepted arguments only those of the declared types give settings that fit. -/
theorem Fit.draft_wellTyped {draft : Draft} {settings : Settings} (fits : settings.Fit)
    (accepted : check draft = .ok settings) : draft.WellTyped := by
  obtain ⟨-, rendering, -, rfl⟩ := check_eq_ok_iff.mp accepted
  obtain ⟨first, text, headed, texted⟩ :=
    fits.exists_sections (Payload.WellTyped.text (.inr ⟨"", rfl⟩))
  obtain ⟨-, bytes, -, divided⟩ :=
    fits.exists_sections (.bytes (show (([] : List UInt8).length : Int) < _ by decide))
  obtain ⟨header, headed, later⟩ := Outcome.bind_eq_ok_iff.mp headed
  obtain ⟨custom, stored, -⟩ := Outcome.bind_eq_ok_iff.mp later
  exact
    { headerPrefix := exists_text_of_headerContributions (not_fails_iff.mpr ⟨header, headed⟩)
      customPrefix := exists_text_of_storeContributions (not_fails_iff.mpr ⟨custom, stored⟩)
      bodyPrefix := exists_text_of_textPayload texted
      chunkSize := exists_integral_of_bytesPayload divided }

end Settings
end BrokerMaps
