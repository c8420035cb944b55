import BrokerMaps.Value.Arithmetic

/-!
# Values that are numbers

Truth values, integers and modes count as integers, be they held by others or not. A value is
therefore equal to a delivery mode when it is equal to the number of that mode.

Doubles that are equal are one number, although zero has two signs.
-/
namespace BrokerMaps

/-! ## Doubles -/

namespace Binary64

theorem unitsPerOne_pos : 0 < unitsPerOne := by decide +kernel

theorem natAbs_signedUnits (negative : Bool) (units : Nat) :
    (signedUnits negative units).natAbs = units := by
  cases negative <;> simp [signedUnits]

theorem signedUnits_mul (negative : Bool) (n m : Nat) :
    signedUnits negative (n * m) = signedUnits negative n * m := by
  cases negative with
  | false => exact Int.natCast_mul n m
  | true => rw [signedUnits, signedUnits, if_pos rfl, if_pos rfl, Int.natCast_mul, Int.neg_mul]

/-- Whole doubles are the integers that they are, and no other finite ones are equal unless they are
the same. -/
theorem signedUnits_eq_iff {n m : Bool} {u v : Nat} :
    signedUnits n u = signedUnits m v ↔
      Number.ofBinary64 (.finite n u) = Number.ofBinary64 (.finite m v) := by
  have magnitudes : signedUnits n u = signedUnits m v → u = v := by
    intro same
    rw [← natAbs_signedUnits n u, same, natAbs_signedUnits]
  by_cases whole : u % unitsPerOne = 0
  · by_cases second : v % unitsPerOne = 0
    · have units : (unitsPerOne : Int) ≠ 0 :=
        Int.natCast_ne_zero.mpr (Nat.pos_iff_ne_zero.mp unitsPerOne_pos)
      have ones : ∀ (negative : Bool) (k : Nat), k % unitsPerOne = 0 →
          signedUnits negative k = signedUnits negative (k / unitsPerOne) * unitsPerOne := by
        intro negative k multiple
        rw [← signedUnits_mul, Nat.div_mul_cancel (Nat.dvd_of_mod_eq_zero multiple)]
      rw [ones n u whole, ones m v second, Int.mul_eq_mul_right_iff units]
      simp only [Number.ofBinary64, toInt?, if_pos whole, if_pos second, Number.int.injEq]
    · have apart : ¬ signedUnits n u = signedUnits m v := by
        intro same
        exact second (magnitudes same ▸ whole)
      simp [Number.ofBinary64, toInt?, whole, second, apart]
  · by_cases second : v % unitsPerOne = 0
    · have apart : ¬ signedUnits n u = signedUnits m v := by
        intro same
        exact whole (magnitudes same ▸ second)
      simp [Number.ofBinary64, toInt?, whole, second, apart]
    · simp only [Number.ofBinary64, toInt?, whole, second, if_false, Number.float.injEq,
        Binary64.finite.injEq]
      constructor
      · intro same
        obtain rfl := magnitudes same
        -- Zero is whole, so this is another number and has the sign of the one it is equal to.
        have nonzero : u ≠ 0 := fun isZero => whole (by rw [isZero, Nat.zero_mod])
        refine ⟨?_, rfl⟩
        cases n <;> cases m <;> simp [signedUnits] at same ⊢ <;> omega
      · rintro ⟨rfl, rfl⟩
        rfl

theorem ofBinary64_finite_ne_infinite (negative : Bool) (units : Nat) (sign : Bool) :
    Number.ofBinary64 (.finite negative units) ≠ .float (.infinite sign) := by
  unfold Number.ofBinary64 toInt?
  split <;> simp_all

/-- Equal doubles are the same number. A NaN is equal to nothing. -/
theorem equals_iff {x y : Binary64} :
    x.equals y = true ↔ x ≠ .nan ∧ Number.ofBinary64 x = Number.ofBinary64 y := by
  cases x with
  | nan => simp [equals]
  | infinite n =>
    cases y with
    | finite m v =>
      have apart := (ofBinary64_finite_ne_infinite m v n).symm
      simpa [equals, Number.ofBinary64, toInt?] using apart
    | _ => simp [equals, Number.ofBinary64, toInt?]
  | finite n u =>
    cases y with
    | finite m v => simp [equals, signedUnits_eq_iff]
    | _ =>
      simp [equals, Number.ofBinary64, toInt?]
      split <;> simp_all

end Binary64

namespace Value

/-! ## Integers -/

/-- What carries over from the content of a shared value to the value, and holds of every other
value, holds of all of them. -/
theorem sharedInduction {motive : Value → Prop}
    (shared : ∀ identity className content extra,
      motive (content ()) → motive (.shared identity className content extra))
    (other : ∀ value, (∀ identity className content extra,
      value ≠ .shared identity className content extra) → motive value) :
    ∀ value, motive value := by
  intro value
  -- The content may be shared in turn, so this is a recursion and no mere case split.
  cases value with
  | shared identity className content extra =>
    exact shared identity className content extra (sharedInduction shared other (content ()))
  | _ => exact other _ (fun _ _ _ _ same => Value.noConfusion same)
termination_by structural value => value

theorem same_mode (value : Value) (mode : DeliveryMode) :
    value.same (.mode mode) = value.same (.int mode.toNat) := by
  induction value using sharedInduction with
  | shared identity className content extra inner => simp [same, isSameObject, opened, inner]
  | other value notShared =>
    cases value with
    | shared identity className content extra => exact absurd rfl (notShared _ _ _ _)
    | beanName stamp name => obtain ⟨domain, components⟩ := name; simp [same, answers, opened]
    | beanInstance stamp bean => obtain ⟨identity, reported⟩ := bean; simp [same, answers, opened]
    | _ => simp [same, sameNumber, answers, leaf, opened, number?]

theorem equal_mode (value : Value) (mode : DeliveryMode) :
    value.equal (.mode mode) = value.equal (.int mode.toNat) := by
  rw [equal, equal, same_mode]
  cases value.opened <;> rfl

theorem equalTo_mode (value : Value) (mode : DeliveryMode) :
    value.equalTo (.mode mode) = value.equalTo (.int mode.toNat) := by
  rw [equalTo, equalTo, equal_mode]
  cases value.opened <;> rfl

theorem number?_of_integral? {value : Value} {n : Int} (integral : value.integral? = some n) :
    value.number? = some (.int n) := by
  induction value using sharedInduction with
  | shared identity className content extra inner => exact inner integral
  | other value notShared =>
    cases value with
    | shared identity className content extra => exact absurd rfl (notShared _ _ _ _)
    | _ => simp_all [integral?, number?]

end Value
end BrokerMaps
