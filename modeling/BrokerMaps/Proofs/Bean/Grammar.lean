import BrokerMaps.Bean.Name
import BrokerMaps.Proofs.Outcome
import BrokerMaps.Proofs.Text.Separated
import Mathlib.Data.List.Nodup

/-!
# The grammar of bean names

A name of texts is spelled as its domain, a colon and its components `key=value` between commas. The
spelling can be taken apart again when the domain holds no colon, no key an equals sign or a comma,
and no value a comma. `WellFormed` collects these conditions, and reading accepts exactly the
spellings of well-formed names.

## Main results

`parse_eq_ok_iff`: a text is read as a name if and only if the name is well-formed and the text is
its spelling. `kind_of_parse_eq_error`: every other text is refused as malformed.
-/
namespace BrokerMaps.BeanName

open Outcome (bind_eq_ok_iff bind_eq_error_iff)

/-! ## Spelling -/

/-- The text of one component. -/
def componentSpelling (component : String × String) : String :=
  component.1 ++ "=" ++ component.2

/-- The text of a name of texts. -/
def spelling (name : BeanName String) : String :=
  name.domain ++ ":" ++ String.intercalate "," (name.components.map componentSpelling)

/-- A key that ends at the first equals sign of its component, next to a value that ends at the
first comma. -/
structure WellFormedComponent (component : String × String) : Prop where
  key_ne_empty : component.1 ≠ ""
  equals_not_mem_key : '=' ∉ component.1.toList
  comma_not_mem_key : ',' ∉ component.1.toList
  comma_not_mem_value : ',' ∉ component.2.toList

/-- The names that the grammar knows. -/
structure WellFormed (name : BeanName String) : Prop where
  domain_ne_empty : name.domain ≠ ""
  colon_not_mem_domain : ':' ∉ name.domain.toList
  components_ne_nil : name.components ≠ []
  components : ∀ component ∈ name.components, WellFormedComponent component
  keys_nodup : (name.components.map (·.1)).Nodup

/-- A text is written as a domain and components in the way of the grammar. -/
def Spells (text : String) (name : BeanName String) : Prop :=
  name.WellFormed ∧ text = name.spelling

/-! ## One component -/

theorem parseComponent_eq_ok_iff {name : String} {component : List Char}
    {parsed : String × String} :
    parseComponent name component = .ok parsed ↔
      component = (componentSpelling parsed).toList ∧ parsed.1 ≠ "" ∧ '=' ∉ parsed.1.toList := by
  obtain ⟨key, value⟩ := parsed
  constructor
  · intro returned
    unfold parseComponent at returned
    split at returned
    next => simp [nameFault] at returned
    next before after found =>
      -- The key ends at the first sign and so holds none.
      obtain ⟨whole, absent⟩ := Text.cut_eq_of_mem found
      split at returned
      next => simp [nameFault] at returned
      next occupied =>
        simp only [Except.ok.injEq, Prod.mk.injEq] at returned
        obtain ⟨rfl, rfl⟩ := returned
        refine ⟨by simp [componentSpelling, whole], ?_, by simpa using absent⟩
        simpa [← String.toList_inj] using occupied
  · rintro ⟨rfl, occupied, absent⟩
    have found : Text.cut '=' (componentSpelling (key, value)).toList =
        (key.toList, some value.toList) := by
      simpa [componentSpelling] using Text.cut_append absent value.toList
    have present : key.toList.isEmpty = false := by simpa using occupied
    simp only [parseComponent, found, present, Bool.false_eq_true, if_false, String.ofList_toList]

theorem kind_of_parseComponent_eq_error {name : String} {component : List Char} {fault : Fault}
    (refused : parseComponent name component = .error fault) : fault.kind = .malformedName := by
  unfold parseComponent nameFault at refused
  split at refused
  · cases refused; rfl
  · split at refused <;> cases refused
    rfl

/-! ## All components -/

private theorem keys_nodup_concat (read : List (String × String)) (component : String × String) :
    ((read ++ [component]).map (·.1)).Nodup ↔
      component.1 ∉ read.map (·.1) ∧ (read.map (·.1)).Nodup := by
  rw [List.map_append, List.map_singleton, ← List.concat_eq_append, List.nodup_concat]

/-- Components are read one by one and in order, and no key may come up twice. -/
theorem parseComponents_eq_ok_iff {name : String} {read all : List (String × String)}
    {components : List (List Char)} (distinct : (read.map (·.1)).Nodup) :
    parseComponents name read components = .ok all ↔
      ∃ parsed, all = read ++ parsed ∧ (all.map (·.1)).Nodup ∧
        List.Forall₂ (fun component result => parseComponent name component = .ok result)
          components parsed := by
  -- Over the components still to be read; those read already are the accumulator.
  induction components generalizing read with
  | nil =>
    simp only [parseComponents, Except.ok.injEq, List.forall₂_nil_left_iff]
    constructor
    · rintro rfl
      exact ⟨[], by simp, distinct, rfl⟩
    · rintro ⟨parsed, rfl, -, rfl⟩
      simp
  | cons component rest ih =>
    rw [parseComponents, bind_eq_ok_iff]
    simp only [List.contains_iff_mem]
    constructor
    · rintro ⟨first, here, others⟩
      split at others
      next => simp [nameFault] at others
      next fresh =>
        have extended := (keys_nodup_concat read first).mpr ⟨fresh, distinct⟩
        obtain ⟨parsed, rfl, nodup, pointwise⟩ := (ih extended).mp others
        exact ⟨first :: parsed, by simp, nodup, .cons here pointwise⟩
    · rintro ⟨parsed, rfl, nodup, pointwise⟩
      -- That all keys differ says that this one differs from those before it.
      cases pointwise with
      | @cons _ first _ more here others =>
        have regrouped : read ++ first :: more = (read ++ [first]) ++ more := by simp
        have extended : ((read ++ [first]).map (·.1)).Nodup := by
          rw [regrouped, List.map_append] at nodup
          exact nodup.of_append_left
        have fresh := ((keys_nodup_concat read first).mp extended).1
        refine ⟨first, here, ?_⟩
        rw [if_neg fresh]
        exact (ih extended).mpr ⟨more, regrouped, nodup, others⟩

theorem kind_of_parseComponents_eq_error {name : String} {read : List (String × String)}
    {components : List (List Char)} {fault : Fault}
    (refused : parseComponents name read components = .error fault) :
    fault.kind = .malformedName := by
  induction components generalizing read with
  | nil => simp [parseComponents] at refused
  | cons component rest ih =>
    rw [parseComponents, bind_eq_error_iff] at refused
    rcases refused with here | ⟨parsed, -, later⟩
    · exact kind_of_parseComponent_eq_error here
    · simp only at later
      split at later
      next => cases later; rfl
      next => exact ih later

/-! ## Pieces -/

private theorem comma_not_mem_componentSpelling (component : String × String) :
    ',' ∉ (componentSpelling component).toList ↔
      ',' ∉ component.1.toList ∧ ',' ∉ component.2.toList := by
  simp [componentSpelling]

private theorem forall₂_eq_and_iff {α β : Type} (write : β → α) {good : β → Prop}
    {written : List α} {items : List β} :
    List.Forall₂ (fun text item => text = write item ∧ good item) written items ↔
      written = items.map write ∧ ∀ item ∈ items, good item := by
  induction items generalizing written with
  | nil => simp
  | cons item rest ih =>
    cases written with
    | nil => simp
    | cons text more => simp only [List.forall₂_cons, ih, List.map_cons, List.cons.injEq,
        List.forall_mem_cons, and_assoc, and_left_comm]

/-- The pieces between commas are read as well-formed components exactly when the text joins the
spellings of these components. -/
theorem forall₂_parseComponent_pieces_iff {name : String} {rest : List Char}
    {parsed : List (String × String)} :
    List.Forall₂ (fun component result => parseComponent name component = .ok result)
        (Text.pieces ',' rest) parsed ↔
      parsed ≠ [] ∧ (∀ component ∈ parsed, WellFormedComponent component) ∧
        rest = (String.intercalate "," (parsed.map componentSpelling)).toList := by
  simp only [parseComponent_eq_ok_iff]
  rw [forall₂_eq_and_iff fun component => (componentSpelling component).toList,
    Text.pieces_eq_iff]
  have joined : (String.intercalate "," (parsed.map componentSpelling)).toList =
      [','].intercalate (parsed.map fun component => (componentSpelling component).toList) := by
    simp [String.toList_intercalate, Function.comp_def]
  rw [joined]
  simp only [ne_eq, List.map_eq_nil_iff, List.forall_mem_map, comma_not_mem_componentSpelling]
  constructor
  · rintro ⟨⟨whole, nonempty, free⟩, keys⟩
    refine ⟨nonempty, fun component member => ?_, whole⟩
    obtain ⟨occupied, equals⟩ := keys component member
    exact ⟨occupied, equals, (free component member).1, (free component member).2⟩
  · rintro ⟨nonempty, good, whole⟩
    refine ⟨⟨whole, nonempty, fun component member => ?_⟩, fun component member => ?_⟩
    · exact ⟨(good component member).comma_not_mem_key, (good component member).comma_not_mem_value⟩
    · exact ⟨(good component member).key_ne_empty, (good component member).equals_not_mem_key⟩

/-! ## Whole names -/

private theorem intercalate_componentSpelling_ne_nil {components : List (String × String)}
    (nonempty : components ≠ []) :
    (String.intercalate "," (components.map componentSpelling)).toList ≠ [] := by
  cases components with
  | nil => exact absurd rfl nonempty
  | cons component more => cases more <;> simp [componentSpelling]

/-- Reading accepts exactly the spellings of well-formed names, each as the name it spells. -/
theorem parse_eq_ok_iff {text : String} {name : BeanName String} :
    parse text = .ok name ↔ Spells text name := by
  constructor
  · intro returned
    unfold parse at returned
    split at returned
    next => simp [nameFault] at returned
    next => simp [nameFault] at returned
    next domain rest _ found =>
      obtain ⟨whole, absent⟩ := Text.cut_eq_of_mem found
      obtain ⟨components, read, last⟩ := bind_eq_ok_iff.mp returned
      obtain ⟨parsed, rfl, nodup, pointwise⟩ := (parseComponents_eq_ok_iff (by simp)).mp read
      obtain ⟨nonempty, good, joined⟩ := forall₂_parseComponent_pieces_iff.mp pointwise
      split at last
      next => simp [nameFault] at last
      next occupied =>
        cases last
        refine ⟨⟨by simpa using occupied, by simpa using absent, nonempty, good, nodup⟩, ?_⟩
        rw [← String.toList_inj, whole, joined]
        simp [spelling]
  · rintro ⟨good, rfl⟩
    have found : Text.cut ':' name.spelling.toList = (name.domain.toList,
        some (String.intercalate "," (name.components.map componentSpelling)).toList) := by
      simpa [spelling] using Text.cut_append good.colon_not_mem_domain _
    have read : parseComponents name.spelling []
        (Text.pieces ',' (String.intercalate "," (name.components.map componentSpelling)).toList)
          = .ok name.components :=
      (parseComponents_eq_ok_iff (by simp)).mpr ⟨name.components, rfl, good.keys_nodup,
        forall₂_parseComponent_pieces_iff.mpr ⟨good.components_ne_nil, good.components, rfl⟩⟩
    have occupied : name.domain.toList.isEmpty = false := by simpa using good.domain_ne_empty
    unfold parse
    split
    -- There is a colon, and something behind it: a component is never empty.
    next missing => simp [found] at missing
    next bare =>
      simp only [found, Prod.mk.injEq, Option.some.injEq] at bare
      exact absurd bare.2 (intercalate_componentSpelling_ne_nil good.components_ne_nil)
    next domain rest _ divided =>
      simp only [found, Prod.mk.injEq, Option.some.injEq] at divided
      obtain ⟨rfl, rfl⟩ := divided
      rw [read]
      simp [occupied, pure, Except.pure]

/-- Whatever is not read is refused as malformed. -/
theorem kind_of_parse_eq_error {text : String} {fault : Fault}
    (refused : parse text = .error fault) : fault.kind = .malformedName := by
  unfold parse at refused
  split at refused
  · cases refused; rfl
  · cases refused; rfl
  · rcases bind_eq_error_iff.mp refused with here | ⟨components, -, later⟩
    · exact kind_of_parseComponents_eq_error here
    · split at later <;> cases later
      rfl

/-- A text spells one name at most. It is read as that name, and a text that spells none is refused
as malformed. -/
theorem parse_spells (text : String) :
    (∀ name, parse text = .ok name ↔ Spells text name) ∧
    (∀ first second, Spells text first → Spells text second → first = second) ∧
    ((¬∃ name, Spells text name) ↔
      ∃ fault, parse text = .error fault ∧ fault.kind = .malformedName) := by
  refine ⟨fun name => parse_eq_ok_iff, ?_, ?_⟩
  · intro first second spellsFirst spellsSecond
    have same : Except.ok first = Except.ok second :=
      (parse_eq_ok_iff.mpr spellsFirst).symm.trans (parse_eq_ok_iff.mpr spellsSecond)
    exact Except.ok.inj same
  · simp only [← parse_eq_ok_iff]
    cases outcome : parse text with
    | ok name => simp
    | error fault => simpa using kind_of_parse_eq_error outcome

end BrokerMaps.BeanName
