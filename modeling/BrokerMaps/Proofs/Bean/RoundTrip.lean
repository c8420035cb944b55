import BrokerMaps.Proofs.Bean.Grammar
import BrokerMaps.Proofs.Value.TextKeys
import Mathlib.Data.List.Perm.Subperm

/-!
# Writing a bean name and reading it again

A name is built from values, and not every name that can be built has a written form that reads
back: a value may be no text, a text may hold a separator, and null components are not written at
all. `ReadsBack` says which names do. Reading what was written gives a name of texts, and such a
name is equal only to names of texts, so no other name can come back by accident.

An application object may be a text as well, and then it is up to the application how it is written
and what it is equal to. `KeepsToTexts` is what is documented about that.

## Main results

`plain_ofTexts`: a name of texts is written as it is spelled. `plain_of_parse`: a text that is read
as a name is what the name is written as. `parse_plain_equal_iff`: the written form of a name is
read as the name without its null components exactly when that name reads back, and as the name
itself exactly when there are no null components besides.
-/
namespace BrokerMaps

open Outcome (bind_eq_ok_iff)

namespace BeanName

/-! ## Building -/

private theorem refuse_ne_ok (key : Value) (name : String) :
    componentsOf.refuse key ≠ .ok name := by
  intro returned
  obtain ⟨shown, -, last⟩ := bind_eq_ok_iff.mp returned
  simp [nameFault] at last

theorem componentsOf_eq_ok {table : Table} {components : List (String × Value)}
    (returned : componentsOf table = .ok components) :
    table = Table.ofNamed components ∧ ∀ component ∈ components, component.1 ≠ "" := by
  induction table generalizing components with
  | nil =>
    cases returned
    exact ⟨rfl, by simp⟩
  | cons entry rest ih =>
    obtain ⟨key, value⟩ := entry
    unfold componentsOf at returned
    split at returned
    next s =>
      split at returned
      next =>
        -- An empty key, like one that is no text, is refused whether or not it can be shown.
        obtain ⟨name, refused, -⟩ := bind_eq_ok_iff.mp returned
        exact absurd refused (refuse_ne_ok _ name)
      next nonempty =>
        obtain ⟨name, chosen, tail⟩ := bind_eq_ok_iff.mp returned
        obtain ⟨others, read, last⟩ := bind_eq_ok_iff.mp tail
        obtain ⟨rfl, occupied⟩ := ih read
        cases chosen
        cases last
        exact ⟨rfl, List.forall_mem_cons.mpr ⟨by simpa using nonempty, occupied⟩⟩
    next =>
      obtain ⟨name, refused, -⟩ := bind_eq_ok_iff.mp returned
      exact absurd refused (refuse_ne_ok _ name)

/-- What the constructor promises of a name that was built from a table. -/
structure Built (name : BeanName Value) : Prop where
  domain_truth : name.domain.truth = .ok true
  key_ne_empty : ∀ component ∈ name.components, component.1 ≠ ""
  keys_nodup : (name.components.map (·.1)).Nodup

theorem built_of_build {domain components : Value} {identity? : Option Nat} {entries : Table}
    {name : BeanName Value} (isTable : components.opened = .table identity? entries)
    (distinct : Table.Distinct entries) (returned : build domain components = .ok name) :
    name.Built := by
  obtain ⟨present, truth, rest⟩ := bind_eq_ok_iff.mp returned
  split at rest
  next yes =>
    obtain ⟨table, copied, last⟩ := bind_eq_ok_iff.mp rest
    obtain ⟨named, read, final⟩ := bind_eq_ok_iff.mp last
    cases final
    simp only [Table.copyOf, isTable, Except.ok.injEq] at copied
    subst copied
    obtain ⟨rfl, occupied⟩ := componentsOf_eq_ok read
    exact ⟨by simpa [yes] using truth, occupied, Table.distinct_ofNamed_iff.mp distinct⟩
  next => simp [nameFault] at rest

/-! ## Writing -/

/-- The name without its null components. -/
def present (name : BeanName Value) : BeanName Value :=
  ⟨name.domain, name.components.filter fun component => !component.2.isNull⟩

theorem plainComponents_eq_mapM (components : List (String × Value)) :
    Value.plainComponents components =
      (components.filter fun component => !component.2.isNull).mapM fun component =>
        component.2.formatted.map fun written => component.1 ++ "=" ++ written := by
  induction components with
  | nil => rfl
  | cons component rest ih =>
    obtain ⟨key, value⟩ := component
    rw [Value.plainComponents]
    by_cases null : value.isNull = true
    · simp [null, ih]
    · have opened : value.formattedOr value.plain = value.formatted := rfl
      rw [if_neg null, List.filter_cons_of_pos (by simpa using null), List.mapM_cons, ih, opened]
      cases value.formatted <;> rfl

theorem present_eq_self {name : BeanName Value}
    (full : ∀ component ∈ name.components, component.2.isNull = false) : name.present = name := by
  obtain ⟨domain, components⟩ := name
  have kept : components.filter (fun component => !component.2.isNull) = components := by
    rw [List.filter_eq_self]
    intro component member
    simpa using full component member
  rw [present, kept]

/-- Null components leave no trace in the written form. -/
theorem plain_present (stamp : Stamp) (name : BeanName Value) :
    (Value.beanName stamp name.present).plain = (Value.beanName stamp name).plain := by
  obtain ⟨domain, components⟩ := name
  simp only [present, Value.plain, plainComponents_eq_mapM, List.filter_filter, Bool.and_self]

private theorem plainComponents_texts (components : List (String × String)) :
    Value.plainComponents (components.map fun component => (component.1, .text component.2)) =
      .ok (components.map componentSpelling) := by
  induction components with
  | nil => rfl
  | cons component rest ih =>
    simp [Value.plainComponents, Value.isNull, Value.formattedOr, Value.opened, Value.plain, ih,
      componentSpelling, pure, Except.pure]

/-- A name of texts is written as it is spelled. -/
theorem plain_ofTexts (stamp : Stamp) (name : BeanName String) :
    (Value.beanName stamp (ofTexts name)).plain = .ok name.spelling := by
  simp [ofTexts, Value.plain, Value.formattedOr, Value.opened, plainComponents_texts, spelling,
    pure, Except.pure]

/-- Whatever is read as a name is what that name is written as, character for character. -/
theorem plain_of_parse {text : String} {name : BeanName String} (parsed : parse text = .ok name)
    (stamp : Stamp) : (Value.beanName stamp (ofTexts name)).plain = .ok text := by
  have spelled : text = name.spelling := (parse_eq_ok_iff.mp parsed).2
  rw [plain_ofTexts, spelled]

/-- An empty value, separators within a value and a quote all come back. -/
theorem plain_of_parse_separators :
    ∃ name, parse "d:a=,k=v=w:z,q=\"p" = .ok name
      ∧ (Value.beanName (.fresh none) (ofTexts name)).plain = .ok "d:a=,k=v=w:z,q=\"p" := by
  have parsed : parse "d:a=,k=v=w:z,q=\"p" =
      .ok ⟨"d", [("a", ""), ("k", "v=w:z"), ("q", "\"p")]⟩ := by decide +kernel
  exact ⟨_, parsed, plain_of_parse parsed (.fresh none)⟩

/-! ## Texts -/

end BeanName

/-- What is documented of application objects next to texts. An object of a class derived from that
of texts is a text: it is written as that text, is true unless the text is empty, and is equal to
texts of the same characters. An object of any other class is never equal to a text. -/
structure AppObject.KeepsToTexts (held : AppObject) (text? : Option String) : Prop where
  format : ∀ s, text? = some s → held.formatText = .ok s
  truth : ∀ s, text? = some s → held.truth = .ok (decide (s ≠ ""))
  equality : ∀ s, held.equality (.text s) = .ok (decide (text? = some s))

/-- An object for which nothing was written is no text. -/
theorem AppObject.keepsToTexts_ordinary (serial : Nat) (className : ClassName) (quoted : String)
    (plain : Except Fault String) : (ordinary serial className quoted plain).KeepsToTexts none where
  format _ isText := nomatch isText
  truth _ isText := nomatch isText
  equality s := by simp [ordinary]

namespace Value

variable {textOf? : AppObject → Option String}

/-- The text that a value is, if it is one. -/
def text? (textOf? : AppObject → Option String) : Value → Option String
  | .text s => some s
  | value =>
    match value.opened with
    | .object held => textOf? held
    | _ => none

/-- The application object that a value is, if it is one, keeps to what is documented. -/
def KeepsToTexts (textOf? : AppObject → Option String) (value : Value) : Prop :=
  ∀ held, value.opened = .object held → held.KeepsToTexts (textOf? held)

theorem text?_eq_some_iff {s : String} {value : Value} :
    value.text? textOf? = some s ↔
      value = .text s ∨ ∃ held, value.opened = .object held ∧ textOf? held = some s := by
  cases value with
  | shared identity className content extra =>
    simp only [text?, opened]
    cases content () <;> simp
  | _ => simp [text?, opened]

theorem same_text_iff {s : String} {value : Value} (keeps : value.KeepsToTexts textOf?) :
    (Value.text s).same value = true ↔ value.text? textOf? = some s := by
  have asked : answers (.text s) value = true ↔
      ∃ held, value.opened = .object held ∧ textOf? held = some s := by
    rw [answers]
    cases found : value.opened with
    | object held =>
      simp [AppObject.answers, (keeps held found).equality, Except.toOption]
    | _ => simp
  rw [text?_eq_some_iff, ← asked]
  cases value with
  | text t => simp [answers, opened, eq_comm]
  | _ => simp [same]

theorem formatted_of_text? {s : String} {value : Value} (keeps : value.KeepsToTexts textOf?)
    (isText : value.text? textOf? = some s) : value.formatted = .ok s := by
  rcases text?_eq_some_iff.mp isText with rfl | ⟨held, found, own⟩
  · rfl
  · rw [formatted, formattedOr, found]
    exact (keeps held found).format s own

theorem truth_of_text? {s : String} {value : Value} (keeps : value.KeepsToTexts textOf?)
    (isText : value.text? textOf? = some s) : value.truth = .ok (decide (s ≠ "")) := by
  rcases text?_eq_some_iff.mp isText with rfl | ⟨held, found, own⟩
  · change Except.ok (!s.isEmpty) = .ok (decide (s ≠ ""))
    rw [Except.ok.injEq, Bool.eq_iff_iff]
    simp
  · rw [truth, found]
    exact (keeps held found).truth s own

theorem not_isNull_of_text? {s : String} {value : Value}
    (isText : value.text? textOf? = some s) : value.isNull = false := by
  rcases text?_eq_some_iff.mp isText with rfl | ⟨held, found, -⟩
  · rfl
  · cases value with
    | null => cases found
    | _ => rfl

end Value

namespace BeanName

variable {textOf? : AppObject → Option String}

/-- The domain and all components keep to what is documented. -/
structure KeepsToTexts (textOf? : AppObject → Option String) (name : BeanName Value) : Prop where
  domain : name.domain.KeepsToTexts textOf?
  values : ∀ component ∈ name.components, component.2.KeepsToTexts textOf?

theorem KeepsToTexts.present {name : BeanName Value} (keeps : name.KeepsToTexts textOf?) :
    name.present.KeepsToTexts textOf? where
  domain := keeps.domain
  values component member := keeps.values component (List.mem_filter.mp member).1

/-- A name has the texts of another: that domain and those components, order included. -/
structure HasTexts (textOf? : AppObject → Option String) (name : BeanName Value)
    (texts : BeanName String) : Prop where
  domain : name.domain.text? textOf? = some texts.domain
  components : texts.components.map (fun component => (component.1, some component.2)) =
    name.components.map fun component => (component.1, component.2.text? textOf?)

theorem HasTexts.names_eq {name : BeanName Value} {texts : BeanName String}
    (has : name.HasTexts textOf? texts) :
    texts.components.map (·.1) = name.components.map (·.1) := by
  simpa [Function.comp_def] using congrArg (List.map (·.1)) has.components

private theorem plainComponents_of_texts {texts : List (String × String)}
    {components : List (String × Value)}
    (keep : ∀ component ∈ components, component.2.KeepsToTexts textOf?)
    (same : texts.map (fun component => (component.1, some component.2)) =
      components.map fun component => (component.1, component.2.text? textOf?)) :
    Value.plainComponents components = .ok (texts.map componentSpelling) := by
  induction components generalizing texts with
  | nil =>
    cases texts with
    | nil => rfl
    | cons text more => cases same
  | cons component rest ih =>
    cases texts with
    | nil => cases same
    | cons text more =>
      obtain ⟨key, value⟩ := component
      obtain ⟨here, later⟩ := List.cons.inj same
      obtain ⟨sameName, isText⟩ := Prod.mk.inj here
      obtain ⟨keeps, others⟩ := List.forall_mem_cons.mp keep
      have opened : value.formattedOr value.plain = value.formatted := rfl
      rw [Value.plainComponents, Value.not_isNull_of_text? isText.symm, opened,
        Value.formatted_of_text? keeps isText.symm, ih others later]
      cases sameName
      rfl

/-- A name is written as its texts are spelled. -/
theorem HasTexts.plain_eq {name : BeanName Value} {texts : BeanName String}
    (has : name.HasTexts textOf? texts) (keeps : name.KeepsToTexts textOf?) (stamp : Stamp) :
    (Value.beanName stamp name).plain = .ok texts.spelling := by
  obtain ⟨domain, components⟩ := name
  have opened : domain.formattedOr domain.plain = domain.formatted := rfl
  rw [Value.plain, plainComponents_of_texts keeps.values has.components, opened,
    Value.formatted_of_text? keeps.domain has.domain]
  rfl

/-! ## Equality with a name of texts -/

private theorem sameComponents_texts {components : List (String × String)}
    {others : List (String × Value)}
    (keep : ∀ other ∈ others, other.2.KeepsToTexts textOf?) :
    Value.sameComponents (components.map fun component => (component.1, .text component.2))
        others = true ↔
      components.map (fun component => (component.1, some component.2)) ⊆
        others.map fun other => (other.1, other.2.text? textOf?) := by
  induction components with
  | nil => simp [Value.sameComponents]
  | cons component rest ih =>
    obtain ⟨key, value⟩ := component
    rw [List.map_cons, Value.sameComponents, Bool.and_eq_true, ih, List.map_cons, List.cons_subset]
    refine and_congr_left fun _ => ?_
    simp only [List.any_eq_true, Bool.and_eq_true, decide_eq_true_eq, List.mem_map, Prod.mk.injEq]
    refine exists_congr fun other => and_congr_right fun member => ?_
    rw [Value.same_text_iff (keep other member), eq_comm (a := key)]

/-- Equality with a name of texts leaves no freedom but the order of the components. -/
theorem equal_ofTexts_iff {read : BeanName String} {name : BeanName Value} {stamp other : Stamp}
    (keeps : name.KeepsToTexts textOf?) (nodup : (read.components.map (·.1)).Nodup) :
    (Value.beanName stamp (ofTexts read)).equal (.beanName other name) = true ↔
      stamp.subclass? = other.subclass? ∧ name.domain.text? textOf? = some read.domain ∧
        (read.components.map fun component => (component.1, some component.2)).Perm
          (name.components.map fun component => (component.1, component.2.text? textOf?)) := by
  obtain ⟨domain, components⟩ := name
  have distinct : (read.components.map fun component => (component.1, some component.2)).Nodup := by
    refine List.Nodup.of_map (·.1) ?_
    simpa [Function.comp_def] using nodup
  simp only [ofTexts, Value.equal, Value.opened, Value.same, Bool.and_eq_true, decide_eq_true_eq,
    Value.same_text_iff keeps.domain, and_assoc]
  refine and_congr_right fun _ => and_congr_right fun _ => ?_
  constructor
  · rintro ⟨lengths, among⟩
    -- Only one direction is compared, but with no component twice and as many on both sides
    -- that is enough.
    have subset := (sameComponents_texts keeps.values).mp among
    refine (List.subperm_of_subset distinct subset).perm_of_length_le (Nat.le_of_eq ?_)
    simpa using lengths.symm
  · intro perm
    exact ⟨by simpa using perm.length_eq, (sameComponents_texts keeps.values).mpr perm.subset⟩

/-! ## Names that read back -/

/-- A name of texts none of which holds the separator that ends it. -/
structure ReadsBack (textOf? : AppObject → Option String) (name : BeanName Value) : Prop where
  domain : ∃ s : String, name.domain.text? textOf? = some s ∧ ':' ∉ s.toList
  components_ne_nil : name.components ≠ []
  keys : ∀ component ∈ name.components, ',' ∉ component.1.toList ∧ '=' ∉ component.1.toList
  values : ∀ component ∈ name.components,
    ∃ s : String, component.2.text? textOf? = some s ∧ ',' ∉ s.toList

theorem Built.present {name : BeanName Value} (built : name.Built) : name.present.Built where
  domain_truth := built.domain_truth
  key_ne_empty component member := built.key_ne_empty component (List.mem_filter.mp member).1
  keys_nodup := built.keys_nodup.sublist (List.filter_sublist.map _)

/-- Whatever is equal to a name that was read reads back itself. -/
theorem readsBack_of_perm {read : BeanName String} {name : BeanName Value}
    (good : read.WellFormed) (domain : name.domain.text? textOf? = some read.domain)
    (perm : (read.components.map fun component => (component.1, some component.2)).Perm
      (name.components.map fun component => (component.1, component.2.text? textOf?))) :
    name.ReadsBack textOf? := by
  -- Every component has its counterpart among those that were read.
  have source : ∀ component ∈ name.components, ∃ text ∈ read.components,
      text.1 = component.1 ∧ component.2.text? textOf? = some text.2 := by
    intro component member
    obtain ⟨text, among, same⟩ :=
      List.mem_map.mp (perm.mem_iff.mpr (List.mem_map_of_mem member))
    obtain ⟨names, values⟩ := Prod.mk.inj same
    exact ⟨text, among, names, values.symm⟩
  refine ⟨⟨read.domain, domain, good.colon_not_mem_domain⟩, ?_, ?_, ?_⟩
  · intro empty
    rw [empty] at perm
    exact good.components_ne_nil (List.map_eq_nil_iff.mp perm.eq_nil)
  · intro component member
    obtain ⟨text, among, sameName, -⟩ := source component member
    have fine := good.components text among
    exact sameName ▸ ⟨fine.comma_not_mem_key, fine.equals_not_mem_key⟩
  · intro component member
    obtain ⟨text, among, -, isText⟩ := source component member
    exact ⟨text.2, isText, (good.components text among).comma_not_mem_value⟩

theorem exists_hasTexts {name : BeanName Value} (built : name.Built)
    (keeps : name.KeepsToTexts textOf?) (fine : name.ReadsBack textOf?) :
    ∃ texts : BeanName String, texts.WellFormed ∧ name.HasTexts textOf? texts := by
  obtain ⟨s, isText, noColon⟩ := fine.domain
  -- Every component is some text, so their texts make a list.
  obtain ⟨texts, same⟩ : ∃ texts : List (String × String),
      texts.map (fun component => (component.1, some component.2)) =
        name.components.map fun component => (component.1, component.2.text? textOf?) := by
    refine ⟨name.components.map fun component =>
      (component.1, (component.2.text? textOf?).getD ""), ?_⟩
    rw [List.map_map]
    refine List.map_congr_left fun component member => ?_
    obtain ⟨t, valueText, -⟩ := fine.values component member
    simp [valueText]
  have has : name.HasTexts textOf? ⟨s, texts⟩ := ⟨isText, same⟩
  refine ⟨⟨s, texts⟩, ⟨?_, noColon, ?_, ?_, ?_⟩, has⟩
  · simpa [Value.truth_of_text? keeps.domain isText] using built.domain_truth
  · rintro rfl
    exact fine.components_ne_nil (List.map_eq_nil_iff.mp same.symm)
  · intro text member
    have among : (text.1, some text.2) ∈
        name.components.map fun component => (component.1, component.2.text? textOf?) :=
      same ▸ List.mem_map_of_mem member
    obtain ⟨component, inName, alike⟩ := List.mem_map.mp among
    obtain ⟨sameName, valueText⟩ := Prod.mk.inj alike
    obtain ⟨noComma, noEquals⟩ := fine.keys component inName
    obtain ⟨t, isOwn, noCommaInValue⟩ := fine.values component inName
    obtain rfl : t = text.2 := Option.some.inj (isOwn.symm.trans valueText)
    exact ⟨sameName ▸ built.key_ne_empty component inName, sameName ▸ noEquals,
      sameName ▸ noComma, noCommaInValue⟩
  · rw [has.names_eq]
    exact built.keys_nodup

/-- What a name that reads back is written as, without its null components, is read as just that. -/
theorem parse_plain_of_readsBack {name : BeanName Value} {stamp : Stamp} {text : String}
    (built : name.Built) (keeps : name.KeepsToTexts textOf?)
    (fine : name.present.ReadsBack textOf?)
    (written : (Value.beanName stamp name).plain = .ok text) :
    ∃ read, parse text = .ok read ∧ name.present.HasTexts textOf? read := by
  obtain ⟨read, good, has⟩ := exists_hasTexts built.present keeps.present fine
  rw [← plain_present, has.plain_eq keeps.present] at written
  cases written
  exact ⟨read, parse_eq_ok_iff.mpr ⟨good, rfl⟩, has⟩

theorem readsBack_of_parse_equal {name : BeanName Value} {stamp other : Stamp} {text : String}
    {read : BeanName String} (keeps : name.KeepsToTexts textOf?)
    (returned : parse text = .ok read)
    (equal : (Value.beanName stamp (ofTexts read)).equal (.beanName other name) = true) :
    name.ReadsBack textOf? ∧ ∀ component ∈ name.components, component.2.isNull = false := by
  have good := (parse_eq_ok_iff.mp returned).1
  obtain ⟨-, domain, perm⟩ := (equal_ofTexts_iff keeps good.keys_nodup).mp equal
  have fine := readsBack_of_perm good domain perm
  refine ⟨fine, fun component member => ?_⟩
  obtain ⟨s, isText, -⟩ := fine.values component member
  exact Value.not_isNull_of_text? isText

theorem HasTexts.equal {name : BeanName Value} {read : BeanName String} {text : String}
    {stamp : Stamp} (has : name.HasTexts textOf? read) (keeps : name.KeepsToTexts textOf?)
    (returned : parse text = .ok read) (exactClass : stamp.subclass? = none) :
    (Value.beanName (.fresh none) (ofTexts read)).equal (.beanName stamp name) = true :=
  (equal_ofTexts_iff keeps (parse_eq_ok_iff.mp returned).1.keys_nodup).mpr
    ⟨exactClass.symm, has.domain, has.components ▸ .refl _⟩

/-- An object of a class derived from that of texts, with nothing written for it besides. -/
def derivedText (serial : Nat) (s : String) : AppObject where
  serial := serial
  className := ⟨"app.model", "Label", "Label"⟩
  quotedText := .ok (Text.quoted s)
  plainText := .ok s
  formatText := .ok s
  truth := .ok (decide (s ≠ ""))
  equality leaf := .ok (decide (leaf = .text s))
  digestLeaf := .ok (.text s)

theorem keepsToTexts_derivedText (serial : Nat) (s : String) :
    (derivedText serial s).KeepsToTexts (some s) where
  format t isText := by
    cases isText
    rfl
  truth t isText := by
    cases isText
    rfl
  equality t := by simp [derivedText, eq_comm]

end BeanName
end BrokerMaps
