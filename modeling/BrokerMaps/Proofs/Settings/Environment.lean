import BrokerMaps.Proofs.Settings
import BrokerMaps.Proofs.Text.LetterCase
import BrokerMaps.Proofs.Text.Numeral
import BrokerMaps.Proofs.Value.TextKeys
import BrokerMaps.Proofs.Value.Writing
import BrokerMaps.Value.Equality

/-!
# Settings from an environment

An environment is accepted when the text of its chunk size denotes an integer that is not below one
and the text of its rendering names a rendering. Both texts may be written in many ways. The
prefixes are taken as they are.

## Main results

* `ofEnvironment_valid`: which environments are accepted, what is read from them, and how the others
  are refused.
* `ofEnvironment_restores`: settings that are written to an environment are read back, also when the
  chunk size and the rendering are written with what may be added to them.

## Proof strategy

What an integer may be spelled like is the grammar of numerals, and what a rendering may be called
is told letter by letter. Only then is the environment looked at, in the order in which its reader
does.
-/
namespace BrokerMaps

open Text (Denotes Decorated)

/-! ## Names of renderings -/

namespace Rendering

/-- A text names a rendering, in any letter case and with blanks around the name. -/
inductive IsNamedBy (rendering : Rendering) : String → Prop where
  | intro {before name after : List Char}
    (before_blank : ∀ c ∈ before, Text.isBlank c = true)
    (letters : name.map Char.toLower = rendering.name.toList)
    (after_blank : ∀ c ∈ after, Text.isBlank c = true) :
    IsNamedBy rendering (String.ofList (before ++ name ++ after))

theorem isNamedBy_name (rendering : Rendering) : rendering.IsNamedBy rendering.name := by
  have whole : rendering.name = String.ofList ([] ++ rendering.name.toList ++ []) := by simp
  have letters : rendering.name.toList.map Char.toLower = rendering.name.toList := by
    cases rendering <;> decide
  rw [whole]
  exact .intro (List.forall_mem_nil _) letters (List.forall_mem_nil _)

theorem name_injective {a b : Rendering} (same : a.name = b.name) : a = b := by
  revert same
  cases a <;> cases b <;> decide

theorem ofValue?_text_eq_some_iff {rendering : Rendering} {name : String} :
    ofValue? (.text name) = some rendering ↔ name = rendering.name := by
  constructor
  · intro found
    have named := List.find?_some found
    exact (of_decide_eq_true named).symm
  · rintro rfl
    cases rendering <;> rfl

/-- Names are written in small letters, and the k is none of them. -/
theorem name_latin (rendering : Rendering) :
    ∀ d ∈ rendering.name.toList, d.toNat < 128 ∧ d ≠ 'k' := by
  refine List.all_iff_forall_prop.mp ?_
  cases rendering <;> decide

end Rendering

namespace Settings

/-- What a rendering may be called is what is normalized to its name. -/
theorem normalized_eq_name_iff {rendering : Rendering} {given : String} :
    normalized given = rendering.name ↔ rendering.IsNamedBy given := by
  rw [normalized, ← String.toList_inj, String.toList_ofList,
    Text.lowerCase_eq_iff rendering.name_latin]
  constructor
  · intro letters
    obtain ⟨before, after, whole, leading, trailing⟩ :=
      Text.exists_eq_append_trim Text.isBlank given.toList
    rw [← String.ofList_toList (s := given), whole]
    exact .intro leading letters trailing
  · rintro @⟨before, name, after, leading, letters, trailing⟩
    have noBlank : ∀ d ∈ rendering.name.toList, Text.isBlank d = false := by
      refine List.all_iff_forall_prop.mp ?_
      cases rendering <;> decide
    have inner : ∀ c ∈ name, Text.isBlank c = false := by
      intro c member
      have isLetter : c.toLower ∈ rendering.name.toList := letters ▸ List.mem_map_of_mem member
      cases blank : Text.isBlank c with
      | true =>
        -- A blank is no capital, so it would have to be a letter of the name itself.
        rw [← Text.toLower_of_isBlank blank, noBlank _ isLetter] at blank
        cases blank
      | false => rfl
    rw [String.toList_ofList, Text.trim_append leading inner trailing]
    exact letters

/-! ## What an environment says -/

namespace Environment

variable (environment : Environment)

def chunkText : String := environment.chunkSize?.getD "2147483647"

def renderingText : String := environment.rendering?.getD "text"

/-- An environment gives a chunk size and a rendering that settings can have. -/
structure IsValid (n : Int) (rendering : Rendering) : Prop where
  chunkSize : Denotes environment.chunkText n
  positive : 1 ≤ n
  rendering : normalized environment.renderingText = rendering.name

/-- Settings with the prefixes that an environment gives. -/
def settingsWith (n : Int) (rendering : Rendering) : Settings :=
  ⟨.text (environment.headerPrefix?.getD defaultHeaderPrefix),
    .text (environment.customPrefix?.getD defaultCustomPrefix),
    .text (environment.bodyPrefix?.getD defaultBodyPrefix), .int n, rendering⟩

/-- What is checked of an environment once its chunk size is read. -/
def draftWith (n : Int) : Draft :=
  ⟨.text (environment.headerPrefix?.getD defaultHeaderPrefix),
    .text (environment.customPrefix?.getD defaultCustomPrefix),
    .text (environment.bodyPrefix?.getD defaultBodyPrefix), .int n,
    .text (normalized environment.renderingText)⟩

/-- Why an environment is refused. The rendering is looked at last. -/
inductive Refuses : SettingsFault → Prop where
  | notInteger (noInteger : ¬ ∃ n, Denotes environment.chunkText n) :
    Refuses (.chunkSizeNotInteger environment.chunkText)
  | tooSmall {n : Int} {shown : String} (denotes : Denotes environment.chunkText n)
    (small : n < 1) (isText : Text.integerText? n = some shown) :
    Refuses (.chunkSizeTooSmall shown)
  | unknown {n : Int} (denotes : Denotes environment.chunkText n) (positive : 1 ≤ n)
    (unnamed : ∀ rendering : Rendering, normalized environment.renderingText ≠ rendering.name) :
    Refuses (.unknownRendering (normalized environment.renderingText))

variable {environment}

theorem Refuses.causeKind?_eq_value_iff {refusal : SettingsFault}
    (refuses : environment.Refuses refusal) :
    (Fault.settings refusal).causeKind? = some .value ↔
      ¬ ∃ n, Denotes environment.chunkText n := by
  cases refuses with
  | notInteger noInteger => exact ⟨fun _ => noInteger, fun _ => rfl⟩
  | tooSmall denotes small isText => simpa [Fault.causeKind?] using ⟨_, denotes⟩
  | unknown denotes positive unnamed => simpa [Fault.causeKind?] using ⟨_, denotes⟩

theorem IsValid.unique {n m : Int} {a b : Rendering} (first : environment.IsValid n a)
    (second : environment.IsValid m b) : n = m ∧ a = b :=
  ⟨first.chunkSize.unique second.chunkSize,
    Rendering.name_injective (first.rendering.symm.trans second.rendering)⟩

end Environment

/-! ## Reading -/

variable {environment : Environment}

theorem ofEnvironment_eq (environment : Environment) :
    ofEnvironment environment =
      match Text.readInteger? environment.chunkText with
      | none => .error (.settings (.chunkSizeNotInteger environment.chunkText))
      | some n => check (environment.draftWith n) := by
  -- The size that goes without saying is kept as a number and read as a text.
  have default : toString int32Max = "2147483647" := by decide
  rw [ofEnvironment, default]
  rfl

theorem ofEnvironment_of_denotes {n : Int} (denotes : Denotes environment.chunkText n) :
    ofEnvironment environment = check (environment.draftWith n) := by
  rw [ofEnvironment_eq, Text.readInteger?_eq_some_iff.mpr denotes]

theorem ofEnvironment_of_not_denotes (noInteger : ¬ ∃ n, Denotes environment.chunkText n) :
    ofEnvironment environment =
      .error (.settings (.chunkSizeNotInteger environment.chunkText)) := by
  rw [ofEnvironment_eq]
  cases read : Text.readInteger? environment.chunkText with
  | none => rfl
  | some n => exact absurd ⟨n, Text.readInteger?_eq_some_iff.mp read⟩ noInteger

theorem check_draftWith_eq_ok_iff {n : Int} {settings : Settings} :
    check (environment.draftWith n) = .ok settings ↔
      1 ≤ n ∧ ∃ rendering, normalized environment.renderingText = rendering.name
        ∧ settings = environment.settingsWith n rendering := by
  have compared : (Value.int n).lessThan 1 = .ok false ↔ 1 ≤ n := by
    simp [Value.lessThan, Value.number?, Number.lessInt]
  rw [check_eq_ok_iff]
  simp only [Environment.draftWith, compared, Rendering.ofValue?_text_eq_some_iff]
  rfl

/-- An integer that was read can be shown, so what is refused is refused for what it is. -/
theorem refuses_of_check_eq_error {n : Int} {fault : Fault}
    (denotes : Denotes environment.chunkText n)
    (failed : check (environment.draftWith n) = .error fault) :
    ∃ refusal, environment.Refuses refusal ∧ fault = .settings refusal := by
  obtain ⟨shown, isText⟩ := Value.exists_integerText denotes.fitsDigits
  have written : (Value.int n).formatted = .ok shown := by
    rw [Value.formatted_eq_plain (Value.not_object_of_integral rfl), Value.plain_int, isText]
  have compared : (Value.int n).lessThan 1 = .ok (decide (n < 1)) := rfl
  -- The rendering is looked at only when the size is large enough.
  by_cases small : n < 1
  · have isRefusal : fault = .settings (.chunkSizeTooSmall shown) := by
      simpa [check, Environment.draftWith, compared, small, written] using failed.symm
    exact ⟨_, .tooSmall denotes small (Value.integerText_eq_ok_iff.mp isText), isRefusal⟩
  · cases known : Rendering.ofValue? (.text (normalized environment.renderingText)) with
    | some rendering =>
      simp [check, Environment.draftWith, compared, small, known, pure, Except.pure] at failed
    | none =>
      have isRefusal :
          fault = .settings (.unknownRendering (normalized environment.renderingText)) := by
        have spelled : (Value.text (normalized environment.renderingText)).formatted =
            .ok (normalized environment.renderingText) := rfl
        simpa [check, Environment.draftWith, compared, small, known, spelled] using failed.symm
      refine ⟨_, .unknown denotes (Int.not_lt.mp small) ?_, isRefusal⟩
      intro rendering named
      rw [Rendering.ofValue?_text_eq_some_iff.mpr named] at known
      cases known

/-- An environment is accepted when it is valid, and read as it says. -/
theorem ofEnvironment_eq_ok_iff {settings : Settings} :
    ofEnvironment environment = .ok settings ↔
      ∃ n rendering, environment.IsValid n rendering
        ∧ settings = environment.settingsWith n rendering := by
  by_cases denoted : ∃ n, Denotes environment.chunkText n
  · obtain ⟨n, denotes⟩ := denoted
    rw [ofEnvironment_of_denotes denotes, check_draftWith_eq_ok_iff]
    constructor
    · rintro ⟨positive, rendering, named, isRead⟩
      exact ⟨n, rendering, ⟨denotes, positive, named⟩, isRead⟩
    · rintro ⟨m, rendering, valid, isRead⟩
      obtain rfl := denotes.unique valid.chunkSize
      exact ⟨valid.positive, rendering, valid.rendering, isRead⟩
  · rw [ofEnvironment_of_not_denotes denoted]
    simp only [reduceCtorEq, false_iff]
    rintro ⟨n, rendering, valid, -⟩
    exact denoted ⟨n, valid.chunkSize⟩

/-- A refusal names its reason. -/
theorem ofEnvironment_eq_error {fault : Fault} (failed : ofEnvironment environment = .error fault) :
    ∃ refusal, environment.Refuses refusal ∧ fault = .settings refusal := by
  by_cases denoted : ∃ n, Denotes environment.chunkText n
  · obtain ⟨n, denotes⟩ := denoted
    rw [ofEnvironment_of_denotes denotes] at failed
    exact refuses_of_check_eq_error denotes failed
  · rw [ofEnvironment_of_not_denotes denoted] at failed
    exact ⟨_, .notInteger denoted, (Except.error.inj failed).symm⟩

/-- Exactly the valid environments are accepted, and each of them gives one chunk size and one
rendering. The others are refused as settings, and a text that is no integer is the only thing
that is named as a cause. -/
theorem ofEnvironment_valid (environment : Environment) :
    (∀ settings, ofEnvironment environment = .ok settings ↔
      ∃ n rendering, environment.IsValid n rendering
        ∧ settings = environment.settingsWith n rendering)
    ∧ (∀ n m a b, environment.IsValid n a → environment.IsValid m b → n = m ∧ a = b)
    ∧ (∀ rendering : Rendering, normalized environment.renderingText = rendering.name ↔
      rendering.IsNamedBy environment.renderingText)
    ∧ ∀ fault, ofEnvironment environment = .error fault →
      fault.kind = .settings
        ∧ (fault.causeKind? = some .value ↔ ¬ ∃ n, Denotes environment.chunkText n) := by
  refine ⟨fun _ => ofEnvironment_eq_ok_iff, fun _ _ _ _ => Environment.IsValid.unique,
    fun _ => normalized_eq_name_iff, ?_⟩
  intro fault failed
  obtain ⟨refusal, refuses, rfl⟩ := ofEnvironment_eq_error failed
  exact ⟨rfl, refuses.causeKind?_eq_value_iff⟩

/-- Digits of another script are read, two underscores in a row are not. -/
theorem ofEnvironment_valid_underscores :
    (Environment.IsValid ⟨none, none, none, some " +٣_2\t", some " LENGTH"⟩ 32 .length
      ∧ Rendering.length.IsNamedBy " LENGTH")
    ∧ ¬ ∃ n, Denotes "3__2" n := by
  have accepted : ofEnvironment ⟨none, none, none, some " +٣_2\t", some " LENGTH"⟩ =
      .ok ⟨.text defaultHeaderPrefix, .text defaultCustomPrefix, .text defaultBodyPrefix, .int 32,
        .length⟩ := rfl
  have refused : ofEnvironment ⟨none, none, none, some "3__2", none⟩ =
      .error (.settings (.chunkSizeNotInteger "3__2")) := rfl
  refine ⟨?_, ?_⟩
  · obtain ⟨n, rendering, valid, isRead⟩ := (ofEnvironment_valid _).1 _ |>.mp accepted
    cases isRead
    exact ⟨valid, (ofEnvironment_valid _).2.2.1 _ |>.mp valid.rendering⟩
  · have fault := (ofEnvironment_valid _).2.2.2 _ refused
    exact fault.2.mp rfl

/-! ## Writing and reading back -/

/-- Settings are equal when all of their fields are. -/
def equal (a b : Settings) : Bool :=
  Value.sameAll (a.fields.map Prod.snd) (b.fields.map Prod.snd)

/-- Settings with prefixes that are texts are told by these, by the rendering and by the number that
the chunk size counts as. -/
theorem equal_of_hasTexts {read settings : Settings} {header custom body : String} {n : Int}
    (isRead : read.HasTexts header custom body) (size : read.chunkSize = .int n)
    (texts : settings.HasTexts header custom body)
    (integral : settings.chunkSize.integral? = some n)
    (rendering : read.rendering = settings.rendering) : read.equal settings = true := by
  have sameSize : Value.same (.int n) settings.chunkSize = true := by
    simp [Value.same, Value.sameNumber, Value.number?_of_integral? integral, Value.number?,
      Number.equals]
  simp [equal, fields, Value.sameAll, isRead.header, isRead.custom, isRead.body, size,
    texts.header, texts.custom, texts.body, rendering, sameSize]

theorem equal_settingsWith {settings : Settings} {header custom body : String} {n : Int}
    (texts : settings.HasTexts header custom body)
    (integral : settings.chunkSize.integral? = some n) (chunk given : String) :
    (Environment.settingsWith ⟨header, custom, body, chunk, given⟩ n settings.rendering).equal
      settings = true :=
  equal_of_hasTexts ⟨rfl, rfl, rfl⟩ rfl texts integral rfl

/-- Settings that are written to an environment are read back. The chunk size may have blanks around
it, a plus, leading zeros and underscores between its digits, and the rendering may have blanks
around it and be written in any letter case. -/
theorem ofEnvironment_restores {draft : Draft} {settings : Settings} {header custom body : String}
    {n : Int} (accepted : check draft = .ok settings) (texts : settings.HasTexts header custom body)
    (integral : settings.chunkSize.integral? = some n) (short : Text.fitsDigits n = true) :
    (∃ written read, Text.integerText? n = some written
      ∧ ofEnvironment ⟨header, custom, body, written, settings.rendering.name⟩ = .ok read
      ∧ read.equal settings = true)
    ∧ ∀ chunk given, Decorated n.toNat chunk → settings.rendering.IsNamedBy given →
      ∃ read, ofEnvironment ⟨header, custom, body, chunk, given⟩ = .ok read
        ∧ read.equal settings = true := by
  have positive : 1 ≤ n := one_le_of_check accepted integral
  have natural : 0 ≤ n := Int.le_trans (by decide) positive
  have decorated : ∀ chunk given, Decorated n.toNat chunk → settings.rendering.IsNamedBy given →
      ∃ read, ofEnvironment ⟨header, custom, body, chunk, given⟩ = .ok read
        ∧ read.equal settings = true := by
    intro chunk given isSize isName
    have denotes : Denotes chunk n := by
      rw [← Int.toNat_of_nonneg natural]
      exact isSize.denotes
    have valid : Environment.IsValid ⟨header, custom, body, chunk, given⟩ n settings.rendering :=
      ⟨denotes, positive, normalized_eq_name_iff.mpr isName⟩
    exact ⟨_, ofEnvironment_eq_ok_iff.mpr ⟨n, _, valid, rfl⟩,
      equal_settingsWith texts integral chunk given⟩
  refine ⟨?_, decorated⟩
  -- The plain texts are those with nothing added.
  have isText : Text.integerText? n = some (String.ofList (Text.integerChars n)) := by
    rw [Text.integerText?, if_pos short]
  obtain ⟨read, isRead, same⟩ := decorated _ settings.rendering.name
    (Text.decorated_of_integerText? natural isText) settings.rendering.isNamedBy_name
  exact ⟨_, read, isText, isRead, same⟩

theorem ofEnvironment_restores_decorated :
    ∃ read, ofEnvironment ⟨"", "", "body ", " +0_1_024\t", " Base64 "⟩ = .ok read
      ∧ read.equal ⟨.text "", .text "", .text "body ", .int 1024, .base64⟩ = true := by
  have accepted : check ⟨.text "", .text "", .text "body ", .int 1024, .text "base64"⟩ =
      .ok ⟨.text "", .text "", .text "body ", .int 1024, .base64⟩ := rfl
  have size : Decorated 1024 " +0_1_024\t" :=
    @Decorated.intro 1024 [' '] ['\t'] .plus 1 [['0'], ['1'], ['0', '2', '4']]
      (List.forall_mem_singleton.mpr rfl) (List.forall_mem_singleton.mpr rfl)
      (by decide) (by decide) (by decide) (by decide)
  have called : Rendering.base64.IsNamedBy " Base64 " :=
    @Rendering.IsNamedBy.intro .base64 [' '] "Base64".toList [' ']
      (List.forall_mem_singleton.mpr rfl) rfl (List.forall_mem_singleton.mpr rfl)
  have short : Text.fitsDigits 1024 = true := size.denotes.fitsDigits
  exact (ofEnvironment_restores accepted ⟨rfl, rfl, rfl⟩ rfl short).2 _ _ size called

/-- An information separator is a blank, but a chunk size with one around it is no integer. -/
theorem ofEnvironment_of_separator {c : Char} (separates : Text.isSeparator c = true)
    (member : c ∈ environment.chunkText.toList) :
    ofEnvironment environment =
      .error (.settings (.chunkSizeNotInteger environment.chunkText)) := by
  apply ofEnvironment_of_not_denotes
  rintro ⟨n, denotes⟩
  rw [denotes.isSeparator_eq_false c member] at separates
  cases separates

theorem ofEnvironment_separator_size :
    check {} = .ok default
      ∧ default.HasTexts defaultHeaderPrefix defaultCustomPrefix defaultBodyPrefix
      ∧ default.chunkSize = .int 2147483647 ∧ Text.isBlank '\x1c' = true
      ∧ ofEnvironment ⟨defaultHeaderPrefix, defaultCustomPrefix, defaultBodyPrefix,
          "\x1c2147483647", Rendering.text.name⟩ =
        .error (.settings (.chunkSizeNotInteger "\x1c2147483647")) := by
  refine ⟨check_default, ⟨rfl, rfl, rfl⟩, rfl, by decide, ?_⟩
  exact ofEnvironment_of_separator (c := '\x1c') rfl (by decide)

end Settings
end BrokerMaps
