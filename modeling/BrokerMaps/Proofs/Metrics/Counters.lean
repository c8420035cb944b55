import BrokerMaps.Metrics.Counter
import BrokerMaps.Proofs.Value.Numbers

/-!
# Numbers and names of counters

Ones that are added up as doubles count exactly, as far as doubles reach. The series names of a
counter tell its namespace and the counter, so no other counter is taken for it, be it in the same
registry or not.

## Main results

* `Binary64.tally_eq`: so many ones added up are the double of that number.
* `Family.eq_of_mem_claims`: a series name comes from one namespace and one counter.
-/
namespace BrokerMaps

/-! ## Counting with doubles -/

namespace Binary64

/-- As many ones as given, added up one after the other. -/
def tally : Nat → Binary64
  | 0 => zero
  | n + 1 => (tally n).add one

/-- Up to here every whole number is a double. -/
def exactLimit : Nat := Nat.pow 2 53

theorem unitsPerOne_eq_pow : ∃ places, unitsPerOne = Nat.pow 2 places := by
  delta unitsPerOne
  exact ⟨_, rfl⟩

theorem ofInt?_one : ofInt? 1 = some one := by decide +kernel

theorem roundQuotient_mul {n gap : Nat} (positive : 0 < gap) : roundQuotient (n * gap) gap = n := by
  simp [roundQuotient, Nat.mul_div_cancel n positive, positive]

/-- A magnitude that is a multiple of the distance of its neighbours is kept as it is. -/
theorem nearestUnits_eq {units : Nat} (fits : spacing units ∣ units) :
    nearestUnits units 1 = units := by
  have positive : 0 < spacing units := Nat.pow_pos (by decide)
  obtain ⟨k, multiple⟩ := fits
  rw [Nat.mul_comm] at multiple
  rw [nearestUnits, Nat.div_one, Nat.one_mul]
  generalize spacing units = gap at *
  subst multiple
  rw [roundQuotient_mul positive]

/-- Whole numbers up to the greatest that doubles hold without a gap are representable. -/
theorem spacing_dvd {n unit places : Nat} (positive : 0 < n) (small : n ≤ exactLimit)
    (power : unit = Nat.pow 2 places) : spacing (n * unit) ∣ n * unit := by
  subst power
  have small : n ≤ 2 ^ 53 := small
  change spacing (n * 2 ^ places) ∣ n * 2 ^ places
  have nonzero : n * 2 ^ places ≠ 0 := Nat.ne_of_gt (Nat.mul_pos positive (Nat.pow_pos (by decide)))
  obtain rfl | below := Nat.eq_or_lt_of_le small
  -- The greatest one is a power of two, and those are all representable.
  · rw [← Nat.pow_add] at nonzero ⊢
    have exponent : (2 ^ (53 + places)).log2 = 53 + places := Nat.log2_two_pow
    rw [spacing, exponent]
    exact Nat.pow_dvd_pow 2 (by omega)
  · have bits : (n * 2 ^ places).log2 < 53 + places := by
      rw [Nat.log2_lt nonzero, Nat.pow_add]
      exact Nat.mul_lt_mul_of_pos_right below (Nat.pow_pos (by decide))
    exact Nat.dvd_trans (Nat.pow_dvd_pow 2 (by omega)) (Nat.dvd_mul_left _ n)

theorem units_lt_limit {n : Nat} (small : n ≤ exactLimit) : n * unitsPerOne < unitsLimit :=
  calc n * unitsPerOne
    _ ≤ exactLimit * unitsPerOne := Nat.mul_le_mul_right unitsPerOne small
    _ < unitsLimit := by decide +kernel

theorem add_one {n : Nat} (small : n + 1 ≤ exactLimit) :
    (Binary64.finite false (n * unitsPerOne)).add one
      = .finite false ((n + 1) * unitsPerOne) := by
  have positive : 0 < (n + 1) * unitsPerOne :=
    Nat.mul_pos (Nat.succ_pos n) unitsPerOne_pos
  obtain ⟨places, power⟩ := unitsPerOne_eq_pow
  have rounded : nearestUnits ((n + 1) * unitsPerOne) 1 = (n + 1) * unitsPerOne :=
    nearestUnits_eq (spacing_dvd (Nat.succ_pos n) small power)
  have below := units_lt_limit small
  have sum : signedUnits false (n * unitsPerOne) + signedUnits false unitsPerOne
      = (((n + 1) * unitsPerOne : Nat) : Int) := by
    rw [Nat.succ_mul]
    rfl
  rw [one, add, sum]
  generalize (n + 1) * unitsPerOne = units at *
  have nonzero : (units : Int) ≠ 0 := by omega
  have notNegative : decide ((units : Int) < 0) = false := decide_eq_false (by omega)
  simp only [if_neg nonzero, notNegative, Int.natAbs_natCast, rounded, ofUnits, if_pos below]

theorem tally_eq {n : Nat} (small : n ≤ exactLimit) :
    tally n = .finite false (n * unitsPerOne) := by
  induction n with
  | zero => rw [tally, zero, Nat.zero_mul]
  | succ n ih => rw [tally, ih (by omega), add_one small]

/-- Doubles count exactly up to the greatest whole number that they hold without a gap. -/
theorem toInt?_tally {n : Nat} (small : n ≤ exactLimit) : (tally n).toInt? = some n := by
  rw [tally_eq small, toInt?, Nat.mul_mod_left, if_pos rfl, Nat.mul_div_cancel n unitsPerOne_pos]
  rfl

end Binary64

/-! ## Base names -/

namespace Family

/-- What a namespace puts in front of the name of a counter. -/
def lead (nameSpace : String) : List Char :=
  if nameSpace.isEmpty then [] else nameSpace.toList ++ ['_']

theorem lead_inj {first second : String} (same : lead first = lead second) : first = second := by
  rw [← String.toList_inj]
  unfold lead at same
  split at same <;> split at same <;> simp_all

/-- The name of a counter without its ending. -/
def stem (spec : CounterSpec) : List Char := dropTotal spec.name.toList

theorem dropTotal_append (name : List Char) : dropTotal (name ++ "_total".toList) = name := by
  simp [dropTotal]

theorem baseName_eq {spec : CounterSpec} (known : spec ∈ transformCounters) (nameSpace : String) :
    (baseName nameSpace spec.name).toList = lead nameSpace ++ stem spec := by
  have ending : spec.name.toList = stem spec ++ "_total".toList := by
    revert spec
    decide
  have full : (if nameSpace.isEmpty then spec.name else nameSpace ++ "_" ++ spec.name).toList
      = lead nameSpace ++ stem spec ++ "_total".toList := by
    rw [lead]
    split <;> simp [ending]
  rw [baseName, full, String.toList_ofList, dropTotal_append]

/-! ## Series names -/

/-- What stands behind the base name in the series names of a counter. -/
def seriesEndings : List String := ["", "_total", "_created"]

theorem claims_eq (family : Family) :
    family.claims = seriesEndings.map (family.base ++ ·) := by
  simp [claims, seriesEndings]

/-- The last twelve letters of a series name tell the counter and the ending. -/
theorem series_inj : ∀ first ∈ transformCounters, ∀ ending ∈ seriesEndings,
    ∀ second ∈ transformCounters, ∀ other ∈ seriesEndings,
      (stem first ++ ending.toList).reverse.take 12
          = (stem second ++ other.toList).reverse.take 12 →
        first = second ∧ ending = other := by
  decide

/-- A series name is claimed by one counter of one namespace. -/
theorem eq_of_mem_claims {first second : CounterSpec} {nameSpace other name : String}
    (known : first ∈ transformCounters) (known' : second ∈ transformCounters)
    (claimed : name ∈ (ofSpec nameSpace first).claims)
    (claimed' : name ∈ (ofSpec other second).claims) : nameSpace = other ∧ first = second := by
  rw [claims_eq, List.mem_map] at claimed claimed'
  obtain ⟨ending, isEnding, rfl⟩ := claimed
  obtain ⟨ending', isEnding', same⟩ := claimed'
  have spelled : lead nameSpace ++ (stem first ++ ending.toList)
      = lead other ++ (stem second ++ ending'.toList) := by
    have letters := congrArg String.toList same.symm
    simpa only [ofSpec, String.toList_append, baseName_eq known, baseName_eq known',
      List.append_assoc] using letters
  have long : ∀ spec ∈ transformCounters, ∀ ending ∈ seriesEndings,
      12 ≤ (stem spec ++ ending.toList).reverse.length := by decide
  have last : ∀ (front : List Char) {back : List Char}, 12 ≤ back.reverse.length →
      (front ++ back).reverse.take 12 = back.reverse.take 12 := fun front back enough => by
    rw [List.reverse_append, List.take_append_of_le_length enough]
  have ends := congrArg (fun name => name.reverse.take 12) spelled
  simp only [last _ (long _ known _ isEnding), last _ (long _ known' _ isEnding')] at ends
  -- Once the counter and the ending are the same, the namespaces are what is left.
  obtain ⟨rfl, rfl⟩ := series_inj _ known _ isEnding _ known' _ isEnding' ends
  exact ⟨lead_inj (List.append_cancel_right spelled), rfl⟩

/-- A base name comes from one namespace and one counter. -/
theorem baseName_inj {first second : CounterSpec} {nameSpace other : String}
    (known : first ∈ transformCounters) (known' : second ∈ transformCounters)
    (same : baseName nameSpace first.name = baseName other second.name) :
    nameSpace = other ∧ first = second := by
  have claimed : baseName nameSpace first.name ∈ (ofSpec other second).claims := by
    rw [same]
    exact List.mem_cons_self
  exact eq_of_mem_claims known known' List.mem_cons_self claimed

end Family
end BrokerMaps
