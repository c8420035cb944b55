import BrokerMaps.Metrics.Registry
import BrokerMaps.Proofs.Metrics.Library
import Mathlib.Data.List.Find

/-!
# Registries are a library of counters

What is documented of a library of counters holds of registries, which are lists of counters. A
registry shows the counters in the order in which they were registered, and each of them shows a
label value once.

## Main results

* `Registry.lawful`: what is documented holds.
* `Registry.map_blank_increment`: counting leaves the registered counters as they are.
-/
namespace BrokerMaps

namespace Family

variable {family : Family} {label other : String}

/-- A counter as it was registered, before anything was counted. -/
def blank (family : Family) : Family := { family with samples := [], distinct := List.nodup_nil }

@[simp] theorem touch_base : (family.touch label).base = family.base := by
  unfold touch
  split <;> rfl

theorem blank_touch (label : String) (family : Family) :
    (family.touch label).blank = family.blank := by
  unfold touch
  split <;> rfl

theorem claims_touch : (family.touch label).claims = family.claims := by
  rw [claims, touch_base, claims]

theorem isSome_number?_iff : (family.number? label).isSome ↔ label ∈ family.samples.map (·.1) := by
  rw [number?, List.lookup_isSome_iff, List.mem_map]
  exact exists_congr fun sample => and_congr_right fun _ => beq_iff_eq.trans eq_comm

theorem touch_of_isSome (isThere : (family.number? label).isSome) : family.touch label = family :=
  dif_pos (isSome_number?_iff.mp isThere)

private theorem lookup_cons_eq (sought held : String) (number : Binary64)
    (rest : List (String × Binary64)) :
    ((held, number) :: rest).lookup sought =
      if sought = held then some number else rest.lookup sought := by
  by_cases same : sought = held
  · simp [same]
  · rw [List.lookup_cons, beq_eq_false_iff_ne.mpr same, if_neg same]

theorem number?_touch :
    (family.touch label).number? other =
      if other = label then some ((family.number? label).getD .zero) else family.number? other := by
  rw [touch]
  split
  next known =>
    have found := isSome_number?_iff.mpr known
    obtain ⟨number, held⟩ := Option.isSome_iff_exists.mp found
    by_cases same : other = label <;> simp [same, held]
  next unknown =>
    have absent : family.number? label = none :=
      Option.not_isSome_iff_eq_none.mp fun found => unknown (isSome_number?_iff.mp found)
    by_cases same : other = label
    · simp_all [number?, List.lookup_append]
    · simp [number?, List.lookup_append, lookup_cons_eq, same]

theorem number?_addTo {amount : Binary64} :
    (family.addTo label amount).number? other =
      (family.number? other).map fun number =>
        if other = label then number.add amount else number := by
  simp only [number?, addTo]
  induction family.samples with
  | nil => rfl
  | cons sample rest ih =>
    obtain ⟨held, number⟩ := sample
    rw [List.map_cons, lookup_cons_eq, lookup_cons_eq, ih]
    by_cases here : other = held
    · subst here
      simp
    · simp [here]

end Family

namespace Registry

variable {registry : Registry} {base other label : String} {change : Family → Family}

/-! ## One counter -/

/-- What is changed about a counter is not its base name. -/
theorem family?_update (keeps : ∀ family, (change family).base = family.base)
    (registry : Registry) (base other : String) :
    (update registry base change).family? other =
      (registry.family? other).map fun family =>
        if other = base then change family else family := by
  simp only [family?]
  induction registry with
  | nil => rfl
  | cons family rest ih =>
    rw [update]
    by_cases here : family.base = base
    · subst here
      by_cases same : family.base = other
      · simp [same, keeps]
      · have differ : other ≠ family.base := Ne.symm same
        simp [same, keeps, differ]
    · by_cases same : family.base = other
      · subst same
        simp [here]
      · simp [here, same, ih]

theorem update_eq_self {family : Family} (found : registry.family? base = some family)
    (same : change family = family) : update registry base change = registry := by
  induction registry with
  | nil => rfl
  | cons first rest ih =>
    rw [update]
    by_cases here : first.base = base
    · rw [family?, List.find?_cons_of_pos (by simpa using here)] at found
      cases found
      rw [if_pos here, same]
    · rw [family?, List.find?_cons_of_neg (by simpa using here)] at found
      rw [if_neg here, ih found]

theorem map_update {β : Type} {view : Family → β}
    (keeps : ∀ family, view (change family) = view family) (registry : Registry) (base : String) :
    (update registry base change).map view = registry.map view := by
  induction registry with
  | nil => rfl
  | cons family rest ih =>
    rw [update]
    split
    · rw [List.map_cons, keeps, List.map_cons]
    · rw [List.map_cons, ih, List.map_cons]

theorem claims_update (keeps : ∀ family, (change family).claims = family.claims)
    (registry : Registry) (base : String) :
    (update registry base change).claims = registry.claims := by
  rw [claims, claims, List.flatMap_def, map_update keeps, List.flatMap_def]

/-! ## Registering -/

theorem register_of_taken {family : Family} {name : String} (isOwn : name ∈ family.claims)
    (taken : name ∈ registry.claims) :
    registry.register family = .error (.metric .seriesAlreadyClaimed) :=
  if_pos (List.any_eq_true.mpr ⟨name, isOwn, List.contains_iff_mem.mpr taken⟩)

theorem register_of_free {family : Family} (free : ∀ name ∈ family.claims, name ∉ registry.claims) :
    registry.register family = .ok (registry ++ [family]) := by
  refine if_neg fun taken => ?_
  obtain ⟨name, isOwn, inUse⟩ := List.any_eq_true.mp taken
  exact free name isOwn (List.contains_iff_mem.mp inUse)

theorem family?_append (registry more : Registry) (base : String) :
    (registry ++ more).family? base = (registry.family? base).or (family? more base) :=
  List.find?_append

theorem mem_claims_of_family? {family : Family} (found : registry.family? base = some family) :
    base ∈ registry.claims := by
  have isHere : family.base = base := by simpa using List.find?_some found
  exact List.mem_flatMap.mpr ⟨family, List.mem_of_find?_eq_some found, isHere ▸ List.mem_cons_self⟩

theorem isSome_family?_ofSpec_iff {nameSpace : String} {spec : CounterSpec} :
    (family? [Family.ofSpec nameSpace spec] base).isSome
      ↔ base = Family.baseName nameSpace spec.name := by
  have shown : (Family.ofSpec nameSpace spec).base = Family.baseName nameSpace spec.name := rfl
  rw [family?, List.find?_singleton, shown]
  by_cases same : Family.baseName nameSpace spec.name = base
  · simp [same]
  · simp [same, Ne.symm same]

/-- A counter that nothing was counted with has no numbers. -/
theorem sample?_append_ofSpec (registry : Registry) (nameSpace : String) (spec : CounterSpec) :
    sample? (registry ++ [.ofSpec nameSpace spec]) = registry.sample? := by
  funext base label
  have none : (family? [Family.ofSpec nameSpace spec] base).bind (·.number? label) = none := by
    rw [family?, List.find?_singleton]
    split <;> rfl
  unfold sample?
  rw [family?_append]
  cases registry.family? base with
  | none => exact none
  | some family => rfl

/-! ## Counting -/

theorem sample?_update (keeps : ∀ family, (change family).base = family.base)
    (registry : Registry) (base other label : String) :
    (registry.update base change).sample? other label =
      if other = base then (registry.family? other).bind fun family => (change family).number? label
      else registry.sample? other label := by
  rw [sample?, family?_update keeps, sample?]
  cases registry.family? other with
  | none => split <;> rfl
  | some family => split <;> rfl

/-- A label value is created at zero, if it is not there yet. -/
theorem sample?_touch (has : (registry.family? base).isSome) (label : String) :
    (registry.update base (·.touch label)).sample? base label =
      some ((registry.sample? base label).getD .zero) := by
  obtain ⟨family, found⟩ := Option.isSome_iff_exists.mp has
  rw [sample?_update fun _ => Family.touch_base, if_pos rfl, found, Option.bind_some,
    Family.number?_touch, if_pos rfl, sample?, found, Option.bind_some]

theorem sample?_touch_of_ne {sought : String} (elsewhere : (other, sought) ≠ (base, label))
    (registry : Registry) :
    (registry.update base (·.touch label)).sample? other sought
      = registry.sample? other sought := by
  rw [sample?_update fun _ => Family.touch_base]
  split
  next here =>
    have differ : sought ≠ label := fun same => elsewhere (by rw [here, same])
    simp only [Family.number?_touch, if_neg differ, sample?]
  next => rfl

/-- A counter that has a label value is not changed by being asked for it. -/
theorem update_touch_of_isSome (isThere : (registry.sample? base label).isSome) :
    registry.update base (·.touch label) = registry := by
  obtain ⟨number, shows⟩ := Option.isSome_iff_exists.mp isThere
  obtain ⟨family, found, has⟩ := Option.bind_eq_some_iff.mp shows
  exact update_eq_self found (Family.touch_of_isSome (by rw [has]; rfl))

theorem addTo_base (label : String) (amount : Binary64) (family : Family) :
    (family.addTo label amount).base = family.base := rfl

theorem claims_addTo (label : String) (amount : Binary64) (family : Family) :
    (family.addTo label amount).claims = family.claims := rfl

theorem sample?_addTo (registry : Registry) (base label other sought : String)
    (amount : Binary64) :
    (registry.update base (·.addTo label amount)).sample? other sought =
      (registry.sample? other sought).map fun number =>
        if (other, sought) = (base, label) then number.add amount else number := by
  rw [sample?_update (addTo_base label amount)]
  split
  next here =>
    subst here
    rw [sample?]
    cases registry.family? other with
    | none => rfl
    | some family => simp [Family.number?_addTo]
  next elsewhere =>
    have differ : (other, sought) ≠ (base, label) := fun same => elsewhere (Prod.mk.inj same).1
    simp only [if_neg differ, Option.map_id']

theorem isSome_family?_update (keeps : ∀ family, (change family).base = family.base)
    (registry : Registry) (base other : String) :
    ((registry.update base change).family? other).isSome = (registry.family? other).isSome := by
  rw [family?_update keeps, Option.isSome_map]

theorem amountOf_one : amountOf (.int 1) = .ok .one := by
  have fits : Value.toBinary64? (.int 1) = some (.ok .one) := by
    simp [Value.toBinary64?, Value.integral?, Binary64.ofInt?_one]
  have notNegative : Value.lessThan (.int 1) 0 = .ok false := rfl
  rw [amountOf, notNegative, fits]
  rfl

theorem amountOf_of_negative {amount : Value} (below : amount.lessThan 0 = .ok true) :
    amountOf amount = .error (.metric .negativeIncrement) := by
  rw [amountOf, below]
  rfl

/-! ## The laws -/

theorem mem_claims_append_ofSpec {nameSpace name : String} {spec : CounterSpec} :
    name ∈ claims (registry ++ [.ofSpec nameSpace spec]) ↔
      name ∈ registry.claims ∨ name ∈ (Family.ofSpec nameSpace spec).claims := by
  rw [claims, List.flatMap_append, List.flatMap_singleton, List.mem_append]
  rfl

theorem isSome_family?_append_ofSpec_iff {nameSpace : String} {spec : CounterSpec} :
    (family? (registry ++ [.ofSpec nameSpace spec]) base).isSome ↔
      (registry.family? base).isSome ∨ base = Family.baseName nameSpace spec.name := by
  rw [family?_append, Option.isSome_or, Bool.or_eq_true, isSome_family?_ofSpec_iff]

theorem sample?_of_not_isSome (absent : ¬ (registry.family? base).isSome) :
    registry.sample? base label = none := by
  rw [sample?, Option.not_isSome_iff_eq_none.mp absent, Option.bind_none]

/-- An amount is added as soon as it can be. -/
theorem increase_eq (registry : Registry) (base label : String) (amount : Value) :
    library.increase registry base label amount =
      (library.amountOf amount).map (library.added registry base label) := rfl

/-- A counter that is changed under its base name claims the names that it claimed. -/
theorem claims_library_update (keeps : ∀ family, (change family).claims = family.claims) :
    library.Claims (registry.update base change) = library.Claims registry :=
  congrArg (fun names name => name ∈ names) (claims_update keeps registry base)

theorem has_library_update (keeps : ∀ family, (change family).base = family.base) :
    library.Has (registry.update base change) = library.Has registry :=
  funext fun other => congrArg (· = true) (isSome_family?_update keeps registry base other)

theorem lawful : library.Lawful where
  register_of_claimed isOwn claimed := register_of_taken isOwn claimed
  register_of_free free := register_of_free free
  claims_extended := mem_claims_append_ofSpec
  has_extended := isSome_family?_append_ofSpec_iff
  number?_extended := sample?_append_ofSpec _ _ _
  number?_of_not_has absent := sample?_of_not_isSome absent
  claims_of_has has := by
    obtain ⟨family, found⟩ := Option.isSome_iff_exists.mp has
    exact mem_claims_of_family? found
  number?_labels has := sample?_touch has _
  number?_labels_of_ne elsewhere := sample?_touch_of_ne elsewhere _
  labels_of_isSome isThere := update_touch_of_isSome isThere
  claims_labels := claims_library_update fun _ => Family.claims_touch
  has_labels := has_library_update fun _ => Family.touch_base
  amountOf_of_negative := amountOf_of_negative
  amountOf_one := amountOf_one
  increase_of_refused refused := by
    rw [increase_eq, refused]
    rfl
  increase_of_accepted accepted := by
    rw [increase_eq, accepted]
    rfl
  number?_added := sample?_addTo _ _ _ _ _ _
  claims_added := claims_library_update (claims_addTo _ _)
  has_added := has_library_update (addTo_base _ _)

/-- Counting leaves the registered counters as they are, whether it is refused or not. -/
theorem map_blank_increment (registry : Registry) (nameSpace : String) (request : Increment) :
    (registry.increment nameSpace request).1.map Family.blank = registry.map Family.blank := by
  have added : ∀ label amount (family : Family),
      (family.addTo label amount).blank = family.blank := fun _ _ _ => rfl
  rw [increment]
  cases names : request.target with
  | error fault => rw [library.increment_of_target_error names]
  | ok target =>
    have touched := map_update (Family.blank_touch target.2) registry
      (Family.baseName nameSpace target.1.name)
    rw [lawful.increment_of_target names]
    cases library.amountOf request.amount with
    | error fault => exact touched
    | ok amount => exact (map_update (added target.2 amount) _ _).trans touched

end Registry
end BrokerMaps
