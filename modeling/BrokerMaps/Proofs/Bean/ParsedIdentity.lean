import BrokerMaps.Proofs.Bean.Identity
import BrokerMaps.Proofs.Flatten.Merging

/-!
# The identity of names that were read

A text that is read as a name is a domain, a colon and components between commas. What identifies
the name can be told from the text: its domain, and its components without regard to their order.

## Main result

`BeanName.parse_identity`: two names that were read are equal exactly when the domains of their
texts are equal and the components of the one are a permutation of those of the other. Equal names
have one digest. The maps that the names are flattened into have the same entries exactly when the
components are permutations of each other.

## Proof strategy

A text that is read is the spelling of its name, so its parts are the domain and the spellings of
the components. A component can be read from its spelling, so a permutation of the spellings is one
of the components. Names, digests and maps are then compared component by component.
-/
namespace BrokerMaps.BeanName

open Value (IsKey)

/-! ## Parts of a text -/

/-- What stands before the first colon. -/
def domainPart (text : String) : List Char := text.toList.takeWhile (· ≠ ':')

/-- What stands between the commas after the first colon. -/
def componentParts (text : String) : List (List Char) :=
  ((text.toList.dropWhile (· ≠ ':')).drop 1).splitOn ','

/-- The parts of a text that is read are the parts of the name. -/
theorem parts_of_parse {text : String} {name : BeanName String} (parsed : parse text = .ok name) :
    domainPart text = name.domain.toList
      ∧ componentParts text =
        name.components.map fun component => (componentSpelling component).toList := by
  obtain ⟨good, rfl⟩ := parse_eq_ok_iff.mp parsed
  have spelled : name.spelling.toList = name.domain.toList ++ ':' ::
      (String.intercalate "," (name.components.map componentSpelling)).toList := by
    simp [spelling]
  have noColon : ∀ c ∈ name.domain.toList, decide (c ≠ ':') = true := by
    intro c member
    exact decide_eq_true fun isColon => good.colon_not_mem_domain (isColon ▸ member)
  have joined : (String.intercalate "," (name.components.map componentSpelling)).toList =
      [','].intercalate
        (name.components.map fun component => (componentSpelling component).toList) := by
    simp [String.toList_intercalate, Function.comp_def]
  constructor
  · rw [domainPart, spelled, List.takeWhile_append_of_pos noColon]
    simp
  · rw [componentParts, spelled, List.dropWhile_append_of_pos noColon]
    simp only [List.dropWhile_cons, ne_eq, not_true_eq_false, decide_false, Bool.false_eq_true,
      if_false, List.drop_succ_cons, List.drop_zero]
    -- No component holds a comma, so they come apart where they were put together.
    rw [joined, List.splitOn_intercalate]
    · intro part member
      obtain ⟨component, among, rfl⟩ := List.mem_map.mp member
      have fine := good.components component among
      simp [componentSpelling, fine.comma_not_mem_key, fine.comma_not_mem_value]
    · simpa using good.components_ne_nil

/-- Reading undoes spelling, whatever the text that the components come from. -/
theorem map_parseComponent_spellings (text : String) {components : List (String × String)}
    (good : ∀ component ∈ components, WellFormedComponent component) :
    (components.map fun component => (componentSpelling component).toList).map
        (parseComponent text) = components.map Except.ok := by
  rw [List.map_map]
  apply List.map_congr_left
  intro component member
  have fine := good component member
  exact parseComponent_eq_ok_iff.mpr ⟨rfl, fine.key_ne_empty, fine.equals_not_mem_key⟩

/-- Components are told from their spellings, so these are in another order exactly when the
components are. -/
theorem perm_componentSpelling_iff {components others : List (String × String)}
    (good : ∀ component ∈ components, WellFormedComponent component)
    (fine : ∀ component ∈ others, WellFormedComponent component) :
    (components.map fun component => (componentSpelling component).toList).Perm
        (others.map fun component => (componentSpelling component).toList) ↔
      components.Perm others := by
  constructor
  · intro order
    have reordered := order.map (parseComponent "")
    rw [map_parseComponent_spellings "" good, map_parseComponent_spellings "" fine] at reordered
    exact (List.map_perm_map_iff fun _ _ => Except.ok.inj).mp reordered
  · exact fun order => order.map _

theorem perm_componentParts_iff {first second : String} {name other : BeanName String}
    (parsed : parse first = .ok name) (parsedToo : parse second = .ok other) :
    (componentParts first).Perm (componentParts second) ↔
      name.components.Perm other.components := by
  rw [(parts_of_parse parsed).2, (parts_of_parse parsedToo).2]
  exact perm_componentSpelling_iff (parse_eq_ok_iff.mp parsed).1.components
    (parse_eq_ok_iff.mp parsedToo).1.components

/-! ## Names of texts -/

theorem isKey_ofTexts (objects : Nat → Value) (stamp : Stamp) {name : BeanName String}
    (nodup : (name.components.map (·.1)).Nodup) :
    IsKey objects (.beanName stamp (ofTexts name)) := by
  refine .beanName stamp (.text name.domain) (by simpa [Function.comp_def] using nodup) ?_
  intro component member
  obtain ⟨texts, -, rfl⟩ := List.mem_map.mp member
  exact .text texts.2

theorem perm_ofTexts_iff {name other : BeanName String} :
    (ofTexts name).components.Perm (ofTexts other).components ↔
      name.components.Perm other.components := by
  apply List.map_perm_map_iff
  rintro ⟨key, value⟩ ⟨otherKey, otherValue⟩ same
  simpa using same

/-- Names of texts are equal when they differ in the order of their components at most. -/
theorem equal_ofTexts_ofTexts_iff {name other : BeanName String} {stamp stampToo : Stamp}
    (nodup : (name.components.map (·.1)).Nodup) :
    (Value.beanName stamp (ofTexts name)).equal (.beanName stampToo (ofTexts other)) = true ↔
      stamp.subclass? = stampToo.subclass? ∧ name.domain = other.domain
        ∧ name.components.Perm other.components := by
  have noObject : (ofTexts other).KeepsToTexts fun _ => none := by
    refine ⟨nofun, fun component member => ?_⟩
    obtain ⟨texts, -, rfl⟩ := List.mem_map.mp member
    nofun
  have optional : Function.Injective fun component : String × String =>
      (component.1, some component.2) := by
    rintro ⟨key, value⟩ ⟨otherKey, otherValue⟩ same
    simpa using same
  have texts : (ofTexts other).components.map
      (fun component => (component.1, component.2.text? fun _ => none)) =
        other.components.map fun component => (component.1, some component.2) := by
    simp [ofTexts, Value.text?, Function.comp_def]
  rw [equal_ofTexts_iff noObject nodup, texts, List.map_perm_map_iff optional]
  simp [ofTexts, Value.text?, eq_comm]

/-- A name of texts is flattened into its components, as they are. -/
theorem outcome_report_ofTexts (settings : Settings) {stamp : Stamp}
    (exactClass : stamp.subclass? = none) {name : BeanName String}
    (nodup : (name.components.map (·.1)).Nodup) :
    (settings.flattener.report (.beanName stamp (ofTexts name))).outcome =
      .ok (some (Table.ofNamed (ofTexts name).components)) := by
  have shape : Shape.of? (.beanName stamp (ofTexts name)) = some .beanName := by
    obtain ⟨identity?, subclass?⟩ := stamp
    cases exactClass
    rfl
  -- No text is null, so no component is left out.
  have present : (ofTexts name).present = ofTexts name := by
    apply present_eq_self
    intro component member
    obtain ⟨texts, -, rfl⟩ := List.mem_map.mp member
    rfl
  have listed : Flatten.nameContributions (ofTexts name) =
      .ok (Table.ofNamed (ofTexts name).components) := by
    rw [Flatten.nameContributions_eq_ok_iff, present]
    refine ⟨name.components, ?_, ?_⟩
    · rw [ofTexts, List.forall₂_map_left_iff, List.forall₂_same]
      exact fun component _ => ⟨rfl, rfl⟩
    · simp [ofTexts, Table.ofNamed]
  have keys : ((ofTexts name).components.map (·.1)).Nodup := by
    simpa [ofTexts, Function.comp_def] using nodup
  rw [outcome_report shape, Shape.contributions, Flatten.beanNameContributions, listed]
  simp only [Flatten.withNewKeys_nameContributions listed,
    Flatten.insertAll_nameContributions keys listed]

theorem perm_ofNamed_iff {named others : List (String × Value)} :
    (Table.ofNamed named).Perm (Table.ofNamed others) ↔ named.Perm others := by
  apply List.map_perm_map_iff
  rintro ⟨key, value⟩ ⟨otherKey, otherValue⟩ same
  simpa using same

/-! ## Names that were read -/

/-- Two names that were read are equal exactly when what stands before the first colons is equal
and what stands between the commas after it is the same in some order, and then they have one
digest. Their maps have the same entries exactly when what stands between the commas is the same in
some order. -/
theorem parse_identity {first second : String} {name other : BeanName String}
    {stamp stampToo : Stamp} {δ : Type} (scheme : DigestScheme δ) (settings : Settings)
    (parsed : parse first = .ok name) (parsedToo : parse second = .ok other)
    (exactClass : stamp.subclass? = none) (exactClassToo : stampToo.subclass? = none) :
    ((Value.beanName stamp (ofTexts name)).equal (.beanName stampToo (ofTexts other)) = true ↔
        domainPart first = domainPart second
          ∧ (componentParts first).Perm (componentParts second))
      ∧ (domainPart first = domainPart second →
        (componentParts first).Perm (componentParts second) →
        ∃ found, (Value.beanName stamp (ofTexts name)).digest scheme = .ok found
          ∧ (Value.beanName stampToo (ofTexts other)).digest scheme = .ok found)
      ∧ ∃ map mapToo,
        (settings.flattener.report (.beanName stamp (ofTexts name))).outcome = .ok (some map)
          ∧ (settings.flattener.report (.beanName stampToo (ofTexts other))).outcome =
            .ok (some mapToo)
          ∧ (map.Perm mapToo ↔ (componentParts first).Perm (componentParts second)) := by
  have nodup := (parse_eq_ok_iff.mp parsed).1.keys_nodup
  have nodupToo := (parse_eq_ok_iff.mp parsedToo).1.keys_nodup
  -- What stands between the commas are the components, each spelled in one way.
  have order := perm_componentParts_iff parsed parsedToo
  have equality : (Value.beanName stamp (ofTexts name)).equal
      (.beanName stampToo (ofTexts other)) = true ↔
        domainPart first = domainPart second
          ∧ (componentParts first).Perm (componentParts second) := by
    rw [equal_ofTexts_ofTexts_iff nodup, order, (parts_of_parse parsed).1,
      (parts_of_parse parsedToo).1, String.toList_inj, exactClass, exactClassToo]
    simp
  refine ⟨equality, ?_, ?_⟩
  · intro domains components
    -- Names of texts are keys, and equal keys have one digest.
    have isKey := isKey_ofTexts (fun _ => .null) stamp nodup
    have isKeyToo := isKey_ofTexts (fun _ => .null) stampToo nodupToo
    obtain ⟨found, digests⟩ := Outcome.not_fails_iff.mp (isKey.not_fails_digest scheme)
    have same := equality.mpr ⟨domains, components⟩
    rw [(Value.IsBeanRecord.name _ _).equal_eq_same] at same
    refine ⟨found, digests, ?_⟩
    rw [← Value.digest_eq_of_same scheme isKey isKeyToo same, digests]
  · refine ⟨_, _, outcome_report_ofTexts settings exactClass nodup,
      outcome_report_ofTexts settings exactClassToo nodupToo, ?_⟩
    rw [perm_ofNamed_iff, perm_ofTexts_iff, order]

/-- Two components the other way round, a value with separators among them, are the same name and
the same map in another order. -/
theorem parse_identity_reordered :
    ∃ name other, parse "d:a=1,k=v=w:z" = .ok name ∧ parse "d:k=v=w:z,a=1" = .ok other
      ∧ (Value.beanName (.fresh none) (ofTexts name)).equal
        (.beanName (.fresh none) (ofTexts other)) = true
      ∧ ∃ map mapToo : PropertyMap, map.Perm mapToo
        ∧ (Settings.default.flattener.report (.beanName (.fresh none) (ofTexts name))).outcome =
          .ok (some map)
        ∧ (Settings.default.flattener.report (.beanName (.fresh none) (ofTexts other))).outcome =
          .ok (some mapToo) := by
  have parsed : parse "d:a=1,k=v=w:z" = .ok ⟨"d", [("a", "1"), ("k", "v=w:z")]⟩ := by
    decide +kernel
  have parsedToo : parse "d:k=v=w:z,a=1" = .ok ⟨"d", [("k", "v=w:z"), ("a", "1")]⟩ := by
    decide +kernel
  have domains : domainPart "d:a=1,k=v=w:z" = domainPart "d:k=v=w:z,a=1" := by decide +kernel
  have order : (componentParts "d:a=1,k=v=w:z").Perm (componentParts "d:k=v=w:z,a=1") := by
    decide +kernel
  obtain ⟨equality, -, map, mapToo, outcome, outcomeToo, same⟩ :=
    parse_identity additiveScheme Settings.default parsed parsedToo
      (show (Stamp.fresh none).subclass? = none from rfl)
      (show (Stamp.fresh none).subclass? = none from rfl)
  exact ⟨_, _, parsed, parsedToo, equality.mpr ⟨domains, order⟩, map, mapToo, same.mpr order,
    outcome, outcomeToo⟩

end BrokerMaps.BeanName
