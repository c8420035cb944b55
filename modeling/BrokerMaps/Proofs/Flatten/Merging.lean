import BrokerMaps.Proofs.Bean.RoundTrip
import BrokerMaps.Proofs.Flatten.Reports
import BrokerMaps.Proofs.Value.KeyForms

/-!
# Merging attributes

An attribute list is flattened attribute by attribute. A plain attribute contributes its value under
its name, the identity attribute contributes the components of the name that it holds, and what is
null contributes nothing. Whatever comes later overwrites what has the same key, be it plain or a
component, and leaves it in its place.

## Main result

`Flatten.report_attributes`: the last contribution of a key wins, the first attribute that fails is
the one reported, and flattening two lists put together is flattening the one and updating its map
with the map of the other.

## Proof strategy

`Attribute.Contributes` and `Attribute.FailsWith` say what becomes of a single attribute. Flattening
an attribute is shown to follow the two, which carries over to lists by what is known of traversals.
How the contributions end up in the map is then a matter of tables alone.
-/
namespace BrokerMaps

open Outcome (bind_eq_ok_iff bind_eq_error_iff mapM_eq_ok_iff mapM_eq_error_iff)

/-! ## What attributes contribute -/

namespace Attribute

/-- The attribute goes by the name that identities go by. -/
def IsIdentity (item : Attribute Value) : Prop :=
  item.name.equalTo (.text identityAttribute) = .ok true

/-- The attribute goes by another name. -/
def IsOther (item : Attribute Value) : Prop :=
  item.name.equalTo (.text identityAttribute) = .ok false

/-- The name of an attribute cannot be compared, or the attribute is an identity that holds a name
or something else, or it is another attribute that is null or not. -/
theorem kinds (item : Attribute Value) :
    (∃ fault, item.name.equalTo (.text identityAttribute) = .error fault)
      ∨ (item.IsIdentity ∧ ∃ stamp name, item.value = .beanName stamp name)
      ∨ (item.IsIdentity ∧ ∀ stamp name, item.value ≠ .beanName stamp name)
      ∨ (item.IsOther ∧ item.value.isNull = true)
      ∨ (item.IsOther ∧ item.value.isNull = false) := by
  cases compared : item.name.equalTo (.text identityAttribute) with
  | error fault => exact .inl ⟨fault, rfl⟩
  | ok isIdentity =>
    cases isIdentity with
    | true =>
      by_cases isName : ∃ stamp name, item.value = .beanName stamp name
      · exact .inr (.inl ⟨compared, isName⟩)
      · simp only [not_exists] at isName
        exact .inr (.inr (.inl ⟨compared, isName⟩))
    | false =>
      cases present : item.value.isNull with
      | true => exact .inr (.inr (.inr (.inl ⟨compared, rfl⟩)))
      | false => exact .inr (.inr (.inr (.inr ⟨compared, rfl⟩)))

/-- What an attribute that does not fail contributes. -/
inductive Contributes (item : Attribute Value) : List Contribution → Prop where
  | omitted (other : item.IsOther) (isNull : item.value.isNull = true) :
    item.Contributes []
  | plain (other : item.IsOther) (present : item.value.isNull = false) {text : String}
    (written : item.value.mapText = .ok text) (usable : item.name.requireDigest = .ok ()) :
    item.Contributes [(item.name, .text text)]
  | identity (isIdentity : item.IsIdentity) {stamp : Stamp} {name : BeanName Value}
    (isName : item.value = .beanName stamp name) {texts : List (String × String)}
    (written : List.Forall₂ (fun component text =>
      text.1 = component.1 ∧ component.2.mapText = .ok text.2)
      name.present.components texts) :
    item.Contributes (texts.map fun text => (.text text.1, .text text.2))

/-- What an attribute fails with. -/
inductive FailsWith (item : Attribute Value) : Fault → Prop where
  | comparison {fault : Fault}
    (failed : item.name.equalTo (.text identityAttribute) = .error fault) : item.FailsWith fault
  | notAName (isIdentity : item.IsIdentity)
    (other : ∀ stamp name, item.value ≠ .beanName stamp name) :
    item.FailsWith (.identityNotAName item.value.className)
  | component (isIdentity : item.IsIdentity) {stamp : Stamp} {name : BeanName Value}
    (isName : item.value = .beanName stamp name) {before after : List (String × Value)}
    {component : String × Value}
    (split : name.present.components = before ++ component :: after)
    (passed : ∀ earlier ∈ before, ∃ text, earlier.2.mapText = .ok text) {fault : Fault}
    (unwritable : component.2.mapText = .error fault) : item.FailsWith fault
  | value (other : item.IsOther) (present : item.value.isNull = false) {fault : Fault}
    (unwritable : item.value.mapText = .error fault) : item.FailsWith fault
  | name (other : item.IsOther) (present : item.value.isNull = false) {text : String}
    (written : item.value.mapText = .ok text) {fault : Fault}
    (unusable : item.name.requireDigest = .error fault) : item.FailsWith fault

end Attribute

namespace Flatten

/-! ## One attribute -/

/-- One component that is present. -/
def presentContribution (component : String × Value) : Except Fault Contribution :=
  (asText component.2.mapText).map fun text => (.text component.1, text)

theorem nameContributions_eq (name : BeanName Value) :
    nameContributions name = name.present.components.mapM presentContribution := by
  obtain ⟨domain, components⟩ := name
  rw [nameContributions, BeanName.present]
  induction components with
  | nil => rfl
  | cons component rest ih =>
    cases isNull : component.2.isNull with
    | true => simpa [componentContribution?, isNull] using ih
    | false =>
      have first : componentContribution? component = some (presentContribution component) := by
        rw [componentContribution?, isNull, if_neg Bool.false_ne_true]
        rfl
      rw [List.filterMap_cons, first, List.filter_cons_of_pos (by simp [isNull]), List.mapM_cons,
        List.mapM_cons, ih]
      rfl

theorem presentContribution_eq_ok_iff {component : String × Value} {contribution : Contribution} :
    presentContribution component = .ok contribution ↔
      ∃ text, component.2.mapText = .ok text
        ∧ contribution = (.text component.1, .text text) := by
  rw [presentContribution, asText]
  cases component.2.mapText <;> simp [eq_comm]

theorem presentContribution_eq_error_iff {component : String × Value} {fault : Fault} :
    presentContribution component = .error fault ↔ component.2.mapText = .error fault := by
  rw [presentContribution, asText]
  cases component.2.mapText <;> simp

theorem nameContributions_eq_ok_iff {name : BeanName Value} {list : List Contribution} :
    nameContributions name = .ok list ↔
      ∃ texts : List (String × String),
        List.Forall₂ (fun component text =>
          text.1 = component.1 ∧ component.2.mapText = .ok text.2) name.present.components texts
        ∧ list = texts.map fun text => (.text text.1, .text text.2) := by
  rw [nameContributions_eq, mapM_eq_ok_iff]
  simp only [presentContribution_eq_ok_iff]
  generalize name.present.components = components
  constructor
  · intro each
    induction each with
    | nil => exact ⟨[], .nil, rfl⟩
    | cons here _ ih =>
      obtain ⟨text, written, rfl⟩ := here
      obtain ⟨texts, others, rfl⟩ := ih
      exact ⟨(_, text) :: texts, .cons ⟨rfl, written⟩ others, rfl⟩
  · rintro ⟨texts, each, rfl⟩
    rw [List.forall₂_map_right_iff]
    refine each.imp fun component text here => ?_
    obtain ⟨named, written⟩ := here
    exact ⟨text.2, written, by rw [named]⟩

theorem nameContributions_eq_error_iff {name : BeanName Value} {fault : Fault} :
    nameContributions name = .error fault ↔
      ∃ before component after, name.present.components = before ++ component :: after
        ∧ (∀ earlier ∈ before, ∃ text, earlier.2.mapText = .ok text)
        ∧ component.2.mapText = .error fault := by
  have passes : ∀ component : String × Value,
      (∃ contribution, presentContribution component = .ok contribution) ↔
        ∃ text, component.2.mapText = .ok text := by
    intro component
    rw [presentContribution, asText]
    cases component.2.mapText <;> simp
  rw [nameContributions_eq, mapM_eq_error_iff]
  simp only [passes, presentContribution_eq_error_iff]

/-- Components contribute under texts, so none of their keys is a number that is new. -/
theorem withNewKeys_nameContributions {name : BeanName Value} {list : List Contribution}
    (listed : nameContributions name = .ok list) : withNewKeys list = list := by
  obtain ⟨texts, -, rfl⟩ := nameContributions_eq_ok_iff.mp listed
  apply withNewKeys_eq
  intro entry member x isNumber
  obtain ⟨text, -, rfl⟩ := List.mem_map.mp member
  cases isNumber

/-- No two components have one key, so what they contribute is a map as it is. -/
theorem insertAll_nameContributions {name : BeanName Value} {list : List Contribution}
    (nodup : (name.components.map (·.1)).Nodup) (listed : nameContributions name = .ok list) :
    Table.insertAll [] list = list := by
  obtain ⟨texts, each, rfl⟩ := nameContributions_eq_ok_iff.mp listed
  have keys : texts.map (·.1) = name.present.components.map (·.1) := by
    rw [← List.forall₂_eq_eq_eq, List.forall₂_map_left_iff, List.forall₂_map_right_iff]
    exact each.flip.imp fun _ _ here => here.1
  have distinct : Table.Distinct
      (Table.ofNamed (texts.map fun text => (text.1, Value.text text.2))) := by
    rw [Table.distinct_ofNamed_iff, List.map_map]
    exact keys ▸ nodup.sublist (List.filter_sublist.map _)
  have named : (texts.map fun text => (Value.text text.1, Value.text text.2)) =
      Table.ofNamed (texts.map fun text => (text.1, .text text.2)) := by
    simp [Table.ofNamed]
  rw [named, Table.insertAll_eq_append (by simpa using distinct), List.nil_append]

section
variable (settings : Settings) {item : Attribute Value}

theorem attributeContributions_of_error {fault : Fault}
    (failed : item.name.equalTo (.text identityAttribute) = .error fault) :
    attributeContributions settings.flattener item.name (.ok item.value) = .error fault := by
  rw [attributeContributions, failed, Outcome.error_bind]

theorem attributeContributions_null (other : item.IsOther)
    (isNull : item.value.isNull = true) :
    attributeContributions settings.flattener item.name (.ok item.value) = .ok [] := by
  rw [Attribute.IsOther] at other
  rw [attributeContributions, other, Outcome.ok_bind, Outcome.ok_bind, if_neg Bool.false_ne_true,
    if_pos isNull]
  rfl

theorem attributeContributions_plain (other : item.IsOther)
    (present : item.value.isNull = false) :
    attributeContributions settings.flattener item.name (.ok item.value) =
      (do
        let text ← item.value.mapText
        item.name.requireDigest
        return [(item.name, .text text)]) := by
  rw [Attribute.IsOther] at other
  rw [attributeContributions, other, Outcome.ok_bind, Outcome.ok_bind, if_neg Bool.false_ne_true,
    present, if_neg Bool.false_ne_true, asText]
  cases item.value.mapText <;> rfl

theorem attributeContributions_identity (isIdentity : item.IsIdentity) {stamp : Stamp}
    {name : BeanName Value} (isName : item.value = .beanName stamp name) :
    attributeContributions settings.flattener item.name (.ok item.value) =
      nameContributions name := by
  rw [Attribute.IsIdentity] at isIdentity
  rw [attributeContributions, isIdentity, Outcome.ok_bind, Outcome.ok_bind, if_pos rfl, isName]
  rfl

theorem attributeContributions_notAName (isIdentity : item.IsIdentity)
    (other : ∀ stamp name, item.value ≠ .beanName stamp name) :
    attributeContributions settings.flattener item.name (.ok item.value) =
      .error (.identityNotAName item.value.className) := by
  rw [Attribute.IsIdentity] at isIdentity
  rw [attributeContributions, isIdentity, Outcome.ok_bind, Outcome.ok_bind, if_pos rfl]
  split
  next stamp name isName => exact absurd isName (other stamp name)
  next => rfl

theorem attributeContributions_eq_ok_iff {list : List Contribution} :
    attributeContributions settings.flattener item.name (.ok item.value) = .ok list ↔
      item.Contributes list := by
  constructor
  · intro contributed
    -- Two of the five kinds always fail, so they contribute nothing to look at.
    obtain ⟨fault, failed⟩ | ⟨isIdentity, stamp, name, isName⟩ | ⟨isIdentity, noName⟩
      | ⟨other, isNull⟩ | ⟨other, present⟩ := item.kinds
    · rw [attributeContributions_of_error settings failed] at contributed
      cases contributed
    · rw [attributeContributions_identity settings isIdentity isName] at contributed
      obtain ⟨texts, written, rfl⟩ := nameContributions_eq_ok_iff.mp contributed
      exact .identity isIdentity isName written
    · rw [attributeContributions_notAName settings isIdentity noName] at contributed
      cases contributed
    · rw [attributeContributions_null settings other isNull] at contributed
      cases contributed
      exact .omitted other isNull
    · rw [attributeContributions_plain settings other present] at contributed
      obtain ⟨text, written, rest⟩ := bind_eq_ok_iff.mp contributed
      obtain ⟨_, usable, made⟩ := bind_eq_ok_iff.mp rest
      cases made
      exact .plain other present written usable
  · intro contributes
    cases contributes with
    | omitted other isNull => exact attributeContributions_null settings other isNull
    | plain other present written usable =>
      rw [attributeContributions_plain settings other present, written, Outcome.ok_bind, usable]
      rfl
    | identity isIdentity isName written =>
      rw [attributeContributions_identity settings isIdentity isName]
      exact nameContributions_eq_ok_iff.mpr ⟨_, written, rfl⟩

theorem attributeContributions_eq_error_iff {fault : Fault} :
    attributeContributions settings.flattener item.name (.ok item.value) = .error fault ↔
      item.FailsWith fault := by
  constructor
  · intro failed
    -- An attribute is of one of five kinds, and each of them fails in ways of its own, if at all.
    obtain ⟨cause, unanswered⟩ | ⟨isIdentity, stamp, name, isName⟩ | ⟨isIdentity, noName⟩
      | ⟨other, isNull⟩ | ⟨other, present⟩ := item.kinds
    · rw [attributeContributions_of_error settings unanswered] at failed
      cases failed
      exact .comparison unanswered
    · rw [attributeContributions_identity settings isIdentity isName] at failed
      obtain ⟨before, found, after, split, passed, unwritable⟩ :=
        nameContributions_eq_error_iff.mp failed
      exact .component isIdentity isName split passed unwritable
    · rw [attributeContributions_notAName settings isIdentity noName] at failed
      cases failed
      exact .notAName isIdentity noName
    · rw [attributeContributions_null settings other isNull] at failed
      cases failed
    · rw [attributeContributions_plain settings other present] at failed
      -- The value is written before the name is used as a key.
      rcases bind_eq_error_iff.mp failed with unwritable | ⟨text, written, rest⟩
      · exact .value other present unwritable
      · rcases bind_eq_error_iff.mp rest with unusable | ⟨_, -, made⟩
        · exact .name other present written unusable
        · cases made
  · intro fails
    cases fails with
    | comparison failed => exact attributeContributions_of_error settings failed
    | notAName isIdentity other => exact attributeContributions_notAName settings isIdentity other
    | component isIdentity isName split passed unwritable =>
      rw [attributeContributions_identity settings isIdentity isName]
      exact nameContributions_eq_error_iff.mpr ⟨_, _, _, split, passed, unwritable⟩
    | value other present unwritable =>
      rw [attributeContributions_plain settings other present, unwritable, Outcome.error_bind]
    | name other present written unusable =>
      rw [attributeContributions_plain settings other present, written, Outcome.ok_bind, unusable,
        Outcome.error_bind]

/-- What an attribute contributes goes under keys, provided that its name is one if it can be. -/
theorem keyed_of_contributes {objects : Nat → Value}
    (isKey : item.name.requireDigest = .ok () → item.name.IsKey objects)
    {list : List Contribution} (contributes : item.Contributes list) :
    Table.Keyed (Value.IsKey objects) list := by
  cases contributes with
  | omitted => exact List.forall_mem_nil _
  | plain other present written usable => exact List.forall_mem_singleton.mpr (isKey usable)
  | identity isIdentity isName written =>
    exact List.forall_mem_map.mpr fun text _ => .text text.1

end

end Flatten

/-! ## Lists of attributes -/

/-- A value that is an attribute list of exactly that class, be it held by others or not. -/
structure Value.IsAttributeList (value : Value) (items : List (Attribute Value)) : Prop where
  opened : ∃ identity?, value.opened = .attributeList ⟨identity?, none⟩ items
  className : value.className = "AttributeList"

theorem Value.IsAttributeList.shape {value : Value} {items : List (Attribute Value)}
    (isList : value.IsAttributeList items) : Shape.of? value = some .attributeList := by
  obtain ⟨identity?, opened⟩ := isList.opened
  rw [Shape.of?, opened]

namespace Flatten

/-- The contributions of each attribute of a list. -/
def listContributions (settings : Settings) (items : List (Attribute Value)) :
    Except Fault (List (List Contribution)) :=
  items.mapM fun item => attributeContributions settings.flattener item.name (.ok item.value)

section
variable (settings : Settings) {objects : Nat → Value} {items : List (Attribute Value)}
  {lists : List (List Contribution)}

theorem listContributions_eq_ok_iff :
    listContributions settings items = .ok lists ↔
      List.Forall₂ Attribute.Contributes items lists := by
  rw [listContributions, mapM_eq_ok_iff]
  simp only [attributeContributions_eq_ok_iff]

theorem listContributions_eq_error_iff {fault : Fault} :
    listContributions settings items = .error fault ↔
      ∃ before item after, items = before ++ item :: after
        ∧ (∀ earlier ∈ before, ∃ list, earlier.Contributes list) ∧ item.FailsWith fault := by
  rw [listContributions, mapM_eq_error_iff]
  simp only [attributeContributions_eq_ok_iff, attributeContributions_eq_error_iff]

theorem keyed_listContributions
    (keys : ∀ item ∈ items, item.name.requireDigest = .ok () → item.name.IsKey objects)
    (listed : listContributions settings items = .ok lists) :
    Table.Keyed (Value.IsKey objects) lists.flatten := by
  intro entry member
  obtain ⟨list, among, inside⟩ := List.mem_flatten.mp member
  obtain ⟨item, isItem, contributes⟩ := Outcome.exists_of_mem_mapM listed among
  rw [attributeContributions_eq_ok_iff] at contributes
  exact keyed_of_contributes (keys item isItem) contributes entry inside

/-- A list contributes what its attributes contribute, one after the other. -/
theorem attributeListContributions_eq {value : Value} (isList : value.IsAttributeList items) :
    attributeListContributions settings.flattener value =
      (listContributions settings items).map List.flatten := by
  obtain ⟨identity?, opened⟩ := isList.opened
  have iterates : value.iterate = .ok (items.map .beanAttribute) := by rw [Value.iterate, opened]
  rw [attributeListContributions, iterates, Outcome.ok_bind, List.mapM_map]
  rfl

/-- Attributes make a map of their contributions, unless one of them fails. -/
theorem outcome_report_attributes {value : Value} (isList : value.IsAttributeList items)
    (keys : ∀ item ∈ items, item.name.requireDigest = .ok () → item.name.IsKey objects) :
    (settings.flattener.report value).outcome =
      match listContributions settings items with
      | .ok lists => .ok (some (Table.insertAll [] lists.flatten))
      | .error cause => .error (wrapFault "AttributeList" cause) := by
  rw [outcome_report isList.shape, Shape.contributions,
    attributeListContributions_eq settings isList, isList.className]
  cases listed : listContributions settings items with
  | error cause => rfl
  | ok lists =>
    -- A number that is a key belongs to an attribute, so it is no new one.
    have known : ∀ entry ∈ lists.flatten, ∀ x, entry.1 ≠ .float none x := by
      intro entry member x isNumber
      have isKey := keyed_listContributions settings keys listed entry member
      rw [isNumber] at isKey
      cases isKey
    simp only [Except.map, withNewKeys_eq known]

theorem listContributions_append (xs ys : List (Attribute Value)) :
    listContributions settings (xs ++ ys) =
      (do
        let first ← listContributions settings xs
        let second ← listContributions settings ys
        return first ++ second) :=
  List.mapM_append

end

/-- Flattening an attribute list sets what its attributes contribute: the last contribution of a key
wins and the first keeps the place. The first attribute that fails is the one reported. And the map
of two lists in one is the map of the first updated with the map of the second. -/
theorem report_attributes (settings : Settings) {objects : Nat → Value} {value : Value}
    {items : List (Attribute Value)} (isList : value.IsAttributeList items)
    (keys : ∀ item ∈ items, item.name.requireDigest = .ok () → item.name.IsKey objects) :
    (∀ lists, List.Forall₂ Attribute.Contributes items lists →
        ∃ map, (settings.flattener.report value).outcome = .ok (some map)
          ∧ Table.LastWins lists.flatten map)
      ∧ (∀ fault, (settings.flattener.report value).outcome = .error fault ↔
        ∃ before item after cause, items = before ++ item :: after
          ∧ (∀ earlier ∈ before, ∃ list, earlier.Contributes list)
          ∧ item.FailsWith cause
          ∧ fault = wrapFault "AttributeList" cause)
      ∧ ∀ xs ys first second, items = xs ++ ys →
        first.IsAttributeList xs → second.IsAttributeList ys →
        (settings.flattener.report value).outcome =
          (do
            let left ← (settings.flattener.report first).outcome
            let right ← (settings.flattener.report second).outcome
            return left.bind fun map => right.map (Table.insertAll map)) := by
  have outcome := outcome_report_attributes settings isList keys
  refine ⟨?_, ?_, ?_⟩
  · intro lists each
    have listed := (listContributions_eq_ok_iff settings).mpr each
    rw [outcome, listed]
    exact ⟨_, rfl, Table.lastWins_insertAll (Value.toldBy_keyForm objects)
      (keyed_listContributions settings keys listed)⟩
  · intro fault
    rw [outcome]
    constructor
    · intro failed
      cases listed : listContributions settings items with
      | ok lists =>
        rw [listed] at failed
        cases failed
      | error cause =>
        rw [listed] at failed
        cases failed
        obtain ⟨before, item, after, split, passed, fails⟩ :=
          (listContributions_eq_error_iff settings).mp listed
        exact ⟨before, item, after, cause, split, passed, fails, rfl⟩
    · rintro ⟨before, item, after, cause, split, passed, fails, rfl⟩
      rw [(listContributions_eq_error_iff settings).mpr ⟨before, item, after, split, passed, fails⟩]
  · rintro xs ys first second rfl isFirst isSecond
    obtain ⟨firstKeys, secondKeys⟩ := List.forall_mem_append.mp keys
    rw [outcome, outcome_report_attributes settings isFirst firstKeys,
      outcome_report_attributes settings isSecond secondKeys, listContributions_append]
    -- The first list is flattened first, so its fault hides that of the second.
    cases left : listContributions settings xs with
    | error cause => rfl
    | ok before =>
      cases right : listContributions settings ys with
      | error cause => rfl
      | ok after =>
        have isKeyed := Table.keyed_insertAll (List.forall_mem_nil _)
          (keyed_listContributions settings firstKeys left)
        have merged := Table.insertAll_insertAll (Value.toldBy_keyForm objects) isKeyed
          (keyed_listContributions settings secondKeys right)
        have together : Table.insertAll [] (before ++ after).flatten =
            Table.insertAll (Table.insertAll [] before.flatten)
              (Table.insertAll [] after.flatten) := by
          rw [merged, List.flatten_append, Table.insertAll_append]
        exact congrArg (fun map => Except.ok (some map)) together

/-- A plain attribute, an identity with a component of the same name, another plain attribute named
like its other component, and one that is null. -/
def overlapping : List (Attribute Value) :=
  [⟨.fresh none, .text "state", .text "idle"⟩,
    ⟨.fresh none, .text identityAttribute, .beanName (.fresh none)
      ⟨.text "broker", [("type", .text "Queue"), ("state", .text "named")]⟩⟩,
    ⟨.fresh none, .text "type", .bool true⟩,
    ⟨.fresh none, .text "state", .null⟩]

/-- The identity overwrites what came before it and is overwritten in turn, but not by null. -/
theorem report_attributes_overlapping :
    ∃ map,
      (Settings.default.flattener.report (.attributeList (.fresh none) overlapping)).outcome =
          .ok (some map)
        ∧ map.map (·.1) = [.text "state", .text "type"]
        ∧ Table.find? (.text "state") map = some (.text "named")
        ∧ Table.find? (.text "type") map = some (.text "true") := by
  have isList : (Value.attributeList (.fresh none) overlapping).IsAttributeList overlapping :=
    ⟨⟨none, rfl⟩, rfl⟩
  have keys : ∀ item ∈ overlapping, item.name.requireDigest = .ok () →
      item.name.IsKey fun _ => .null := by
    simp only [overlapping, List.forall_mem_cons]
    exact ⟨fun _ => .text _, fun _ => .text _, fun _ => .text _, fun _ => .text _, nofun⟩
  have isPlain : ∀ {name : String} {value : Value}, name ≠ identityAttribute →
      (Attribute.mk (.fresh none) (.text name) value).IsOther := by
    intro name value other
    simp [Attribute.IsOther, Value.equalTo, Value.equal, Value.opened, other]
  have isIdentity : ∀ {value : Value},
      (Attribute.mk (.fresh none) (.text identityAttribute) value).IsIdentity := by
    simp [Attribute.IsIdentity, Value.equalTo, Value.equal, Value.opened]
  -- The attributes are a plain one, the identity, another plain one, and one that is null.
  have each : List.Forall₂ Attribute.Contributes overlapping
      [[(.text "state", .text "idle")],
        [("type", "Queue"), ("state", "named")].map fun text => (.text text.1, .text text.2),
        [(.text "type", .text "true")], []] := by
    refine .cons ?_ (.cons ?_ (.cons ?_ (.cons ?_ .nil)))
    · exact .plain (isPlain (by decide)) rfl rfl rfl
    · exact .identity isIdentity rfl (.cons ⟨rfl, rfl⟩ (.cons ⟨rfl, rfl⟩ .nil))
    · exact .plain (isPlain (by decide)) rfl rfl rfl
    · exact .omitted (isPlain (by decide)) rfl
  obtain ⟨map, outcome, wins⟩ := (report_attributes Settings.default isList keys).1 _ each
  refine ⟨map, outcome, ?_, ?_, ?_⟩
  · rw [wins.keys]
    simp [Table.firstKeys, List.eraseDupsBy, List.eraseDupsBy.loop]
  · exact wins.values [_, _] _ _ [_] rfl (by simp)
  · exact wins.values [_, _, _] _ _ [] rfl (List.forall_mem_nil _)

end Flatten
end BrokerMaps
