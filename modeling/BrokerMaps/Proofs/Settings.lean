import BrokerMaps.Proofs.Outcome
import BrokerMaps.Proofs.Value.Numbers
import BrokerMaps.Settings

/-!
# Accepted settings

The check of the settings looks at the chunk size and at the name of the rendering and keeps all of
them as they are. A chunk size that counts as an integer is thus at least one.
-/
namespace BrokerMaps.Settings

open Outcome (bind_eq_ok_iff)

/-- A draft is accepted when its chunk size compares and is not below one, and its rendering is
known. -/
theorem check_eq_ok_iff {draft : Draft} {settings : Settings} :
    check draft = .ok settings ↔
      draft.chunkSize.lessThan 1 = .ok false
        ∧ ∃ rendering, Rendering.ofValue? draft.rendering = some rendering
          ∧ settings = ⟨draft.headerPrefix, draft.customPrefix, draft.bodyPrefix, draft.chunkSize,
            rendering⟩ := by
  rw [check, bind_eq_ok_iff]
  constructor
  · rintro ⟨below, compared, kept⟩
    cases below with
    | true => cases shown : draft.chunkSize.formatted <;> simp [shown] at kept
    | false =>
      cases known : Rendering.ofValue? draft.rendering with
      | none => cases shown : draft.rendering.formatted <;> simp [known, shown] at kept
      | some rendering =>
        simp only [known, Bool.false_eq_true, if_false, pure, Except.pure,
          Except.ok.injEq] at kept
        exact ⟨compared, rendering, rfl, kept.symm⟩
  · rintro ⟨compared, rendering, known, rfl⟩
    exact ⟨false, compared, by simp [known, pure, Except.pure]⟩

/-- A chunk size that counts as an integer was accepted only if it is at least one. -/
theorem one_le_of_check {draft : Draft} {settings : Settings} {size : Int}
    (accepted : check draft = .ok settings) (integral : settings.chunkSize.integral? = some size) :
    1 ≤ size := by
  obtain ⟨compared, rendering, -, rfl⟩ := check_eq_ok_iff.mp accepted
  have notBelow : decide (size < 1) = false := by
    simpa [Value.lessThan, Value.number?_of_integral? integral, Number.lessInt] using compared
  have bound := of_decide_eq_false notBelow
  omega

/-- Settings whose prefixes are texts. -/
structure HasTexts (settings : Settings) (header custom body : String) : Prop where
  header : settings.headerPrefix = .text header
  custom : settings.customPrefix = .text custom
  body : settings.bodyPrefix = .text body

end BrokerMaps.Settings
