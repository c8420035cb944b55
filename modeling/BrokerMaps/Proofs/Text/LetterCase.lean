import BrokerMaps.Text.Blank
import BrokerMaps.Text.LowerCase
import Mathlib.Tactic.ByContra

/-!
# Letter case

Full lower-casing changes letters of many scripts, looks at what stands around a sigma and makes two
characters of a dotted capital I. None of this matters for a text that becomes a name of ASCII
letters, as long as the name has no k: such a text was written in ASCII letters, and each of them
was lower-cased by itself. A k may have been the sign of the kelvin.

## Main result

`lowerCase_eq_iff`
-/
namespace BrokerMaps.Text

/-! ## One letter -/

private theorem lowerChar_ofNat_of_lt : ∀ code < 128,
    lowerChar (Char.ofNat code) = [(Char.ofNat code).toLower] := by
  decide +kernel

/-- A run is one of ASCII letters, or the sign of the kelvin alone, or its lower case is a run of
characters beyond ASCII. -/
private theorem lowerCaseRuns_foreign : ∀ run ∈ lowerCaseRuns,
    run.last < 128
      ∨ (run.first = 0x212a ∧ run.last = 0x212a ∧ run.distance = -8383)
      ∨ (128 ≤ run.first + run.distance
        ∧ (run.last + run.distance < 0xd800
          ∨ 0xdfff < run.first + run.distance ∧ run.last + run.distance < 0x110000)) := by
  decide +kernel

theorem lowerChar_of_lt {c : Char} (isAscii : c.toNat < 128) : lowerChar c = [c.toLower] := by
  have lowered := lowerChar_ofNat_of_lt c.toNat isAscii
  rwa [Char.ofNat_toNat] at lowered

private theorem toNat_ofNat_of_isValidChar {code : Nat} (valid : code.isValidChar) :
    (Char.ofNat code).toNat = code := by
  rw [Char.ofNat, dif_pos valid]
  rfl

/-- The lower case of a character beyond ASCII is not all ASCII, except for the k. -/
theorem exists_foreign_lowerChar {c : Char} (foreign : 128 ≤ c.toNat) :
    ∃ d ∈ lowerChar c, 128 ≤ d.toNat ∨ d = 'k' := by
  unfold lowerChar
  split
  · exact ⟨Char.ofNat 0x307, by simp, .inl (by decide)⟩
  · split
    next run found =>
      refine ⟨_, List.mem_singleton_self _, ?_⟩
      have holds := List.find?_some found
      simp only [CaseRun.holds, Bool.and_eq_true, decide_eq_true_eq] at holds
      obtain ⟨⟨low, high⟩, -⟩ := holds
      -- Only one run beyond ASCII leads back into it, and all that it holds is the Kelvin sign.
      rcases lowerCaseRuns_foreign run (List.mem_of_find?_eq_some found) with
        latin | ⟨first, last, distance⟩ | ⟨image, valid⟩
      · omega
      · right
        have isKelvin : c.toNat = 0x212a := by omega
        rw [isKelvin, distance]
        decide
      · left
        have isValid : (c.toNat + run.distance).toNat.isValidChar := by
          unfold Nat.isValidChar
          omega
        rw [toNat_ofNat_of_isValidChar isValid]
        omega
    next => exact ⟨c, List.mem_singleton_self _, .inl foreign⟩

/-! ## Texts -/

theorem lowerFrom_of_ascii {cs : List Char} (isAscii : ∀ c ∈ cs, c.toNat < 128)
    (before : List Char) : lowerFrom before cs = cs.map Char.toLower := by
  induction cs generalizing before with
  | nil => rfl
  | cons c rest ih =>
    obtain ⟨here, later⟩ := List.forall_mem_cons.mp isAscii
    have noSigma : c ≠ capitalSigma := by
      rintro rfl
      exact absurd here (by decide)
    rw [lowerFrom, if_neg noSigma, lowerChar_of_lt here, ih later]
    rfl

theorem ascii_of_lowerFrom {cs before : List Char}
    (latin : ∀ d ∈ lowerFrom before cs, d.toNat < 128 ∧ d ≠ 'k') : ∀ c ∈ cs, c.toNat < 128 := by
  induction cs generalizing before with
  | nil => exact List.forall_mem_nil _
  | cons c rest ih =>
    rw [lowerFrom] at latin
    obtain ⟨here, later⟩ := List.forall_mem_append.mp latin
    refine List.forall_mem_cons.mpr ⟨?_, ih later⟩
    by_contra foreign
    split at here
    -- Neither form of the small sigma is ASCII.
    next =>
      have small := (here _ (List.mem_singleton_self _)).1
      split at small <;> exact absurd small (by decide)
    next =>
      obtain ⟨d, member, beyond | isK⟩ := exists_foreign_lowerChar (Nat.le_of_not_lt foreign)
      · exact Nat.not_lt_of_le beyond (here d member).1
      · exact (here d member).2 isK

/-- Blanks are no letters. -/
theorem toLower_of_isBlank {c : Char} (blank : isBlank c = true) : c.toLower = c := by
  unfold Char.toLower
  split
  next isCapital =>
    obtain ⟨range, isRange, low, high⟩ := (CodeRanges.holds_iff _ _).mp blank
    have noCapital : ∀ range ∈ blankRanges, range.2 < 'A'.toNat ∨ 'Z'.toNat < range.1 := by decide
    have least : 'A'.toNat ≤ c.toNat := isCapital.1
    have greatest : c.toNat ≤ 'Z'.toNat := isCapital.2
    rcases noCapital range isRange with below | above <;> omega
  next => rfl

theorem toNat_lt_of_toLower {c : Char} (latin : c.toLower.toNat < 128) : c.toNat < 128 := by
  unfold Char.toLower at latin
  split at latin
  next isCapital =>
    have high : c.toNat ≤ 'Z'.toNat := isCapital.2
    exact Nat.lt_of_le_of_lt high (by decide)
  next => exact latin

/-- What is lower-cased to a name without a k has the letters of the name, in some case. -/
theorem lowerCase_eq_iff {cs name : List Char} (latin : ∀ d ∈ name, d.toNat < 128 ∧ d ≠ 'k') :
    lowerCase cs = name ↔ cs.map Char.toLower = name := by
  constructor
  · rintro rfl
    rw [lowerCase, lowerFrom_of_ascii (ascii_of_lowerFrom latin)]
  · rintro rfl
    have isAscii : ∀ c ∈ cs, c.toNat < 128 := fun c member =>
      toNat_lt_of_toLower (latin _ (List.mem_map_of_mem member)).1
    rw [lowerCase, lowerFrom_of_ascii isAscii]

end BrokerMaps.Text
