import BrokerMaps.Flatten.Report
import BrokerMaps.Proofs.Outcome
import BrokerMaps.Proofs.Value.TextKeys

/-!
# Reports of what was flattened

The outcome of a report is the map that the contributions of a value make when they are set one
after the other, or the wrapped fault that listing them met. Contributions under texts as keys are
set as they are: only a NaN can be a key that is new each time.
-/
namespace BrokerMaps

/-- Contributions are set as they are when none of their keys is a number that is new. -/
theorem withNewKeys_eq {contributions : List Contribution}
    (known : ∀ entry ∈ contributions, ∀ x, entry.1 ≠ .float none x) :
    withNewKeys contributions = contributions := by
  have kept : ∀ placed ∈ contributions.zipIdx,
      (newKey placed.2 placed.1.1, placed.1.2) = placed.1 := by
    rintro ⟨⟨key, value⟩, place⟩ member
    have isKnown := known _ (List.fst_mem_of_mem_zipIdx member)
    unfold newKey
    split
    next isNumber => exact absurd isNumber (isKnown _)
    next => rfl
  rw [withNewKeys, List.map_congr_left kept]
  exact List.zipIdx_map_fst 0 contributions

theorem withNewKeys_ofNamed (named : List (String × Value)) :
    withNewKeys (Table.ofNamed named) = Table.ofNamed named := by
  refine withNewKeys_eq fun entry member x isNumber => ?_
  obtain ⟨s, isText⟩ := Table.textKeyed_ofNamed named entry member
  rw [isText] at isNumber
  cases isNumber

/-- A report is one of three: on an object of no shape, on one that was flattened, and on one that
could not be. -/
theorem Flattener.report_cases (flattener : Flattener) (value : Value) :
    (Shape.of? value = none ∧ flattener.report value = unsupportedReport value)
      ∨ (∃ shape flattened, Shape.of? value = some shape
          ∧ flattenAs flattener shape value = .ok flattened
          ∧ flattener.report value = transformedReport value.className flattened)
      ∨ (∃ shape fault, Shape.of? value = some shape
          ∧ flattenAs flattener shape value = .error fault
          ∧ flattener.report value = failedReport value.className fault) := by
  unfold Flattener.report
  cases Shape.of? value with
  | none => exact .inl ⟨rfl, rfl⟩
  | some shape =>
    cases flattens : flattenAs flattener shape value with
    | ok flattened =>
      exact .inr (.inl ⟨shape, flattened, rfl, flattens, by simp only [flattens]⟩)
    | error fault => exact .inr (.inr ⟨shape, fault, rfl, flattens, by simp only [flattens]⟩)

/-- The outcome for a value of a known shape. -/
theorem outcome_report {flattener : Flattener} {value : Value} {shape : Shape}
    (known : Shape.of? value = some shape) :
    (flattener.report value).outcome =
      match shape.contributions flattener value with
      | .ok contributions => .ok (some (Table.insertAll [] (withNewKeys contributions)))
      | .error fault => .error (wrapFault value.className fault) := by
  rw [Flattener.report, known]
  simp only [flattenAs]
  cases shape.contributions flattener value <;> rfl

/-- A bytes message that could be flattened logs into how many chunks its body was split, and
nothing else. -/
theorem records_report {flattener : Flattener} {value : Value} {map : PropertyMap}
    (isBytes : Shape.of? value = some (.message .bytes))
    (flattened : (flattener.report value).outcome = .ok (some map)) :
    (flattener.report value).records = splitRecords flattener.settings value := by
  rw [Flattener.report, isBytes] at flattened ⊢
  simp only [flattenAs] at flattened ⊢
  cases listed : Shape.contributions flattener (.message .bytes) value with
  | error fault =>
    rw [listed] at flattened
    cases flattened
  | ok contributions => rfl

/-- A map comes from the contributions of an object of a known shape. -/
theorem exists_contributions {flattener : Flattener} {value : Value} {map : PropertyMap}
    (flattened : (flattener.report value).outcome = .ok (some map)) :
    ∃ shape contributions, Shape.of? value = some shape
      ∧ shape.contributions flattener value = .ok contributions
      ∧ map = Table.insertAll [] (withNewKeys contributions) := by
  obtain ⟨-, same⟩ | ⟨shape, _, known, flattens, same⟩ | ⟨_, _, -, -, same⟩ :=
    flattener.report_cases value
  · rw [same] at flattened
    cases flattened
  · rw [same] at flattened
    cases flattened
    obtain ⟨contributions, listed, made⟩ := Outcome.bind_eq_ok_iff.mp flattens
    cases made
    exact ⟨shape, contributions, known, listed, rfl⟩
  · rw [same] at flattened
    cases flattened

theorem exists_outcome_of_isOk {flattener : Flattener} {value : Value} {shape : Shape}
    (known : Shape.of? value = some shape)
    (reads : (shape.contributions flattener value).isOk = true) :
    ∃ map, (flattener.report value).outcome = .ok (some map) := by
  obtain ⟨contributions, listed⟩ := Outcome.exists_of_isOk reads
  exact ⟨_, by rw [outcome_report known, listed]⟩

end BrokerMaps
