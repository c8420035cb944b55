import BrokerMaps.Proofs.Bean.WrappedIdentity

/-!
# The printed form and the map of a name

A name is printed as its domain and its components, and it is flattened into a map of its
components. Both leave null components out, keep the order and write the same texts, with one
difference: a truth value is capitalized where it is printed and is not where it enters a map.

An application object may be formatted in a way of its own where it is printed. Unless the
application says so it is formatted as it is written plainly.

## Main result

`BeanName.plain_of_outcome`

## Proof strategy

The text that a value has in a map tells what it is printed as, unless the value is formatted in its
own way. Printing the components that have texts is then done item by item. Both texts of a truth
value are of one length, so two printed forms that differ in one of them cannot come out the same in
the end.
-/
namespace BrokerMaps

/-! ## One component -/

namespace Value

/-- The text of a value in a map, with truth values capitalized. -/
def capitalizedText (value : Value) (text : String) : String :=
  match value with
  | .bool b => if b then "True" else "False"
  | _ => text

/-- What a value is printed as, by the text that it has in a map. -/
def printedText (value : Value) (text : String) : Except Fault String :=
  value.formattedOr (.ok (value.capitalizedText text))

/-- The value is no object that is formatted in another way than it is written plainly. -/
def FormatsPlainly (value : Value) : Prop :=
  ∀ held, value.opened = .object held → held.formatText = held.plainText

theorem plain_eq_map_mapText (value : Value) :
    value.plain = value.mapText.map value.capitalizedText := by
  have same : ∀ written : Except Fault String, written = written.map fun text => text := by
    intro written
    cases written <;> rfl
  cases value with
  | bool b => simp [plain, quoted, quotedWithin, mapText, capitalizedText]
  | _ => exact same _

theorem formatted_of_mapText {value : Value} {text : String}
    (written : value.mapText = .ok text) : value.formatted = value.printedText text := by
  rw [formatted, plain_eq_map_mapText, written, printedText, Except.map]

theorem plain_of_opened_object {value : Value} {held : AppObject}
    (found : value.opened = .object held) : value.plain = held.plainText := by
  cases value with
  | shared identity className content extra =>
    have isObject : content () = .object held := found
    simp only [plain, isObject]
  | object other =>
    cases found
    simp only [plain]
  | _ => cases found

theorem printedText_of_formatsPlainly {value : Value} {text : String}
    (written : value.mapText = .ok text) (plainly : value.FormatsPlainly) :
    value.printedText text = .ok (value.capitalizedText text) := by
  rw [printedText, formattedOr]
  split
  next held found =>
    rw [plainly held found, ← plain_of_opened_object found, plain_eq_map_mapText, written,
      Except.map]
  next => rfl

theorem capitalizedText_eq_iff {value : Value} {text : String}
    (written : value.mapText = .ok text) :
    value.capitalizedText text = text ↔ ∀ b, value ≠ .bool b := by
  cases value with
  | bool b =>
    obtain rfl := Except.ok.inj written
    cases b <;> simp [capitalizedText]
  | _ => simp [capitalizedText]

theorem length_capitalizedText {value : Value} {text : String}
    (written : value.mapText = .ok text) :
    (value.capitalizedText text).length = text.length := by
  cases value with
  | bool b =>
    obtain rfl := Except.ok.inj written
    have lengths : "True".length = "true".length ∧ "False".length = "false".length := by decide
    cases b with
    | true => exact lengths.1
    | false => exact lengths.2
  | _ => rfl

end Value

namespace BeanName

/-! ## All components -/

/-- A component that is present has a text under its name. -/
def HasText (component : String × Value) (text : String × String) : Prop :=
  text.1 = component.1 ∧ component.2.mapText = .ok text.2

/-- What components are printed as, by the texts that they have in a map. -/
def printed (components : List (String × Value)) (texts : List (String × String)) :
    Except Fault (List (String × String)) :=
  (components.zip texts).mapM fun written =>
    (written.1.2.printedText written.2.2).map fun shown => (written.2.1, shown)

/-- The texts that components have in a map, with truth values capitalized. -/
def capitalized (components : List (String × Value)) (texts : List (String × String)) :
    List (String × String) :=
  List.zipWith (fun component text => (text.1, component.2.capitalizedText text.2)) components texts

section
variable {components : List (String × Value)} {texts : List (String × String)}

theorem mapM_formatted_of_texts (each : List.Forall₂ HasText components texts) :
    (components.mapM fun component =>
        component.2.formatted.map fun written => component.1 ++ "=" ++ written) =
      (printed components texts).map (List.map componentSpelling) := by
  induction each with
  | nil => rfl
  | @cons component text _ _ here _ ih =>
    obtain ⟨named, written⟩ := here
    rw [printed, List.zip_cons_cons, List.mapM_cons, List.mapM_cons, ih, ← printed, ← named,
      Value.formatted_of_mapText written]
    cases component.2.printedText text.2 with
    | error fault => rfl
    | ok shown => cases printed _ _ <;> rfl

theorem printed_of_formatsPlainly (each : List.Forall₂ HasText components texts)
    (plainly : ∀ component ∈ components, component.2.FormatsPlainly) :
    printed components texts = .ok (capitalized components texts) := by
  induction each with
  | nil => rfl
  | @cons component text _ _ here _ ih =>
    obtain ⟨first, later⟩ := List.forall_mem_cons.mp plainly
    rw [printed, List.zip_cons_cons, List.mapM_cons, ← printed, ih later,
      Value.printedText_of_formatsPlainly here.2 first]
    rfl

theorem capitalized_eq_iff (each : List.Forall₂ HasText components texts) :
    capitalized components texts = texts ↔
      ∀ component ∈ components, ∀ b, component.2 ≠ .bool b := by
  induction each with
  | nil => simp [capitalized]
  | @cons component text _ _ here _ ih =>
    rw [List.forall_mem_cons, ← Value.capitalizedText_eq_iff here.2, ← ih]
    simp [capitalized, Prod.ext_iff]

theorem forall₂_capitalized (each : List.Forall₂ HasText components texts) :
    List.Forall₂ (fun shown text => shown.1 = text.1 ∧ shown.2.length = text.2.length)
      (capitalized components texts) texts := by
  induction each with
  | nil => exact .nil
  | cons here _ ih => exact .cons ⟨rfl, Value.length_capitalizedText here.2⟩ ih

end

/-- Spellings that differ in texts of one length are told apart. -/
theorem spelling_injective_of_lengths {domain : String} {components others : List (String × String)}
    (lengths : List.Forall₂ (fun component other =>
      component.1 = other.1 ∧ component.2.length = other.2.length) components others)
    (same : spelling ⟨domain, components⟩ = spelling ⟨domain, others⟩) : components = others := by
  have joined : [','].intercalate
        (components.map fun component => (componentSpelling component).toList) =
      [','].intercalate (others.map fun other => (componentSpelling other).toList) := by
    rw [← String.toList_inj] at same
    simpa [spelling, String.toList_intercalate, Function.comp_def] using same
  have partLengths : List.Forall₂ (fun part other => part.length = other.length)
      (components.map fun component => (componentSpelling component).toList)
      (others.map fun other => (componentSpelling other).toList) := by
    rw [List.forall₂_map_left_iff, List.forall₂_map_right_iff]
    refine lengths.imp fun component other here => ?_
    simp [componentSpelling, here.1, here.2, String.length_toList]
  have spelled := Text.intercalate_injective_of_lengths partLengths joined
  -- The induction is on the components; what they were joined to has served its purpose.
  clear same joined partLengths
  induction lengths with
  | nil => rfl
  | @cons component other _ _ here _ ih =>
    obtain ⟨first, rest⟩ := List.cons.inj spelled
    have value : component.2 = other.2 := by
      simpa [componentSpelling, here.1, String.toList_inj] using first
    rw [ih rest, Prod.ext here.1 value]

/-! ## The map -/

/-- The map of a name is made of the components that are present, under their own names. -/
theorem exists_texts_of_outcome {flattener : Flattener} {stamp : Stamp} {name : BeanName Value}
    {map : PropertyMap} (nodup : (name.components.map (·.1)).Nodup)
    (flattened : (flattener.report (.beanName stamp name)).outcome = .ok (some map)) :
    ∃ texts : List (String × String), List.Forall₂ HasText name.present.components texts
      ∧ map = Table.ofNamed (texts.map fun text => (text.1, .text text.2)) := by
  obtain ⟨shape, contributions, known, listed, rfl⟩ := exists_contributions flattened
  have isName : shape = .beanName := by
    rw [Shape.of?_eq_some_iff] at known
    cases known with
    | beanName opens => rfl
    | _ opens => cases opens
  subst isName
  have contributes : Flatten.nameContributions name = .ok contributions := listed
  obtain ⟨texts, each, isList⟩ := Flatten.nameContributions_eq_ok_iff.mp contributes
  refine ⟨texts, each, ?_⟩
  rw [Flatten.withNewKeys_nameContributions contributes,
    Flatten.insertAll_nameContributions nodup contributes, isList]
  simp [Table.ofNamed]

/-! ## Agreement -/

/-- A name whose components have texts is printed as its domain and what these are printed as. -/
theorem plain_of_texts (stamp : Stamp) {name : BeanName Value} {texts : List (String × String)}
    (each : List.Forall₂ HasText name.present.components texts) :
    (Value.beanName stamp name).plain =
      (do
        let shown ← printed name.present.components texts
        let domain ← name.domain.formatted
        return spelling ⟨domain, shown⟩) := by
  obtain ⟨domain, components⟩ := name
  have parts := mapM_formatted_of_texts each
  rw [present] at parts
  rw [Value.plain, plainComponents_eq_mapM, parts, ← Value.formatted, present]
  cases printed _ texts <;> rfl

/-- A name that has a map is printed as its domain and the components in the order of the map, with
the texts of the map for the values. Truth values are capitalized, and objects formatted in a way of
their own are printed in that way. Where there are no such objects, the two agree exactly when there
are no truth values, and nothing but the domain can keep the name from being printed. -/
theorem plain_of_outcome {flattener : Flattener} {stamp : Stamp} {name : BeanName Value}
    {map : PropertyMap} (nodup : (name.components.map (·.1)).Nodup)
    (flattened : (flattener.report (.beanName stamp name)).outcome = .ok (some map)) :
    ∃ texts : List (String × String),
      map = Table.ofNamed (texts.map fun text => (text.1, .text text.2))
        ∧ List.Forall₂ HasText name.present.components texts
        ∧ (Value.beanName stamp name).plain =
          (do
            let shown ← printed name.present.components texts
            let domain ← name.domain.formatted
            return spelling ⟨domain, shown⟩)
        ∧ ((∀ component ∈ name.components, component.2.FormatsPlainly) →
          (Value.beanName stamp name).plain = name.domain.formatted.map (fun domain =>
              spelling ⟨domain, capitalized name.present.components texts⟩)
            ∧ ∀ domain, name.domain.formatted = .ok domain →
              ((Value.beanName stamp name).plain = .ok (spelling ⟨domain, texts⟩) ↔
                ∀ component ∈ name.components, ∀ b, component.2 ≠ .bool b)) := by
  obtain ⟨texts, each, isMap⟩ := exists_texts_of_outcome nodup flattened
  have plain := plain_of_texts stamp each
  refine ⟨texts, isMap, each, plain, fun plainly => ?_⟩
  -- What was left out is null, so it is formatted plainly and is no truth value.
  have shown := printed_of_formatsPlainly each fun component member =>
    plainly component (List.mem_filter.mp member).1
  have noneLeftOut : (∀ component ∈ name.components, ∀ b, component.2 ≠ .bool b) ↔
      ∀ component ∈ name.present.components, ∀ b, component.2 ≠ .bool b := by
    constructor
    · exact fun none component member => none component (List.mem_filter.mp member).1
    · intro none component member b isTruth
      refine none component (List.mem_filter.mpr ⟨member, ?_⟩) b isTruth
      rw [isTruth]
      rfl
  have byDomain : (Value.beanName stamp name).plain = name.domain.formatted.map (fun domain =>
      spelling ⟨domain, capitalized name.present.components texts⟩) := by
    rw [plain, shown]
    cases name.domain.formatted <;> rfl
  refine ⟨byDomain, fun domain written => ?_⟩
  rw [byDomain, written, Except.map, Except.ok.injEq, noneLeftOut, ← capitalized_eq_iff each]
  constructor
  · exact spelling_injective_of_lengths (forall₂_capitalized each)
  · exact fun same => congrArg (fun components => spelling ⟨domain, components⟩) same

/-- A null component is in neither form, and a mode has its number in both. -/
theorem plain_of_outcome_null_component :
    ∃ name texts,
      build (.text "d") (.table none
          [(.text "type", .text "Queue"), (.text "n", .null), (.text "mode", .mode .persistent)]) =
        .ok name
      ∧ (Settings.default.flattener.report (.beanName (.fresh none) name)).outcome =
        .ok (some (Table.ofNamed (texts.map fun text => (text.1, .text text.2))))
      ∧ (Value.beanName (.fresh none) name).plain = .ok (spelling ⟨"d", texts⟩) := by
  let name : BeanName Value :=
    ⟨.text "d", [("type", .text "Queue"), ("n", .null), ("mode", .mode .persistent)]⟩
  have built : build (.text "d") (.table none
        [(.text "type", .text "Queue"), (.text "n", .null), (.text "mode", .mode .persistent)]) =
      .ok name := rfl
  have itself : name.Carries "ObjectName" (.beanName (.fresh none) name) := .itself rfl
  obtain ⟨map, flattened⟩ : ∃ map,
      (Settings.default.flattener.report (.beanName (.fresh none) name)).outcome =
        .ok (some map) :=
    ⟨_, (itself.outcome_eq_ok_iff Settings.default).mpr ⟨_, rfl, rfl⟩⟩
  obtain ⟨texts, isMap, -, -, agree⟩ := plain_of_outcome (by decide) flattened
  have noObject : ∀ component ∈ name.components, component.2.FormatsPlainly := by
    simp only [name, List.forall_mem_cons]
    exact ⟨nofun, nofun, nofun, nofun⟩
  rw [isMap] at flattened
  exact ⟨name, texts, built, flattened, ((agree noObject).2 "d" rfl).mpr (by simp [name])⟩

/-- An object that is formatted with a unit and written plainly without one. -/
def gauge : AppObject :=
  { AppObject.ordinary 1 ⟨"app.model", "Gauge", "Gauge"⟩ "<Gauge>" (.ok "7") with
    formatText := .ok "7 MB" }

/-- A truth value is `true` in the map and `True` in the printed form. An object that is formatted
in a way of its own differs in whatever way it likes. -/
theorem plain_of_outcome_truth_value :
    (Settings.default.flattener.report (.beanName (.fresh none)
        ⟨.text "d", [("durable", .bool true)]⟩)).outcome =
      .ok (some [(.text "durable", .text "true")])
    ∧ (Value.beanName (.fresh none) ⟨.text "d", [("durable", .bool true)]⟩).plain =
      .ok "d:durable=True"
    ∧ "d:durable=True" ≠ spelling ⟨"d", [("durable", "true")]⟩
    ∧ (Settings.default.flattener.report (.beanName (.fresh none)
        ⟨.text "d", [("size", .object gauge)]⟩)).outcome =
      .ok (some [(.text "size", .text "7")])
    ∧ (Value.beanName (.fresh none) ⟨.text "d", [("size", .object gauge)]⟩).plain =
      .ok "d:size=7 MB"
    ∧ "d:size=7 MB" ≠ spelling ⟨"d", [("size", "7")]⟩ :=
  ⟨rfl, rfl, by decide, rfl, rfl, by decide⟩

end BeanName
end BrokerMaps
