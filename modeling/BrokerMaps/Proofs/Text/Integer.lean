import BrokerMaps.Proofs.Text.Trimming
import BrokerMaps.Text.Integer

/-!
# Reading back integers

An integer that can be written is read back from its decimal form: nothing in that form is trimmed
or read as another character, and its digits are within the limit that applies to reading.

## Main result

`readInteger?_of_integerText?`
-/
namespace BrokerMaps.Text

/-! ## Digits -/

theorem isDigit_iff {c : Char} : c.isDigit = true ↔ 0x30 ≤ c.toNat ∧ c.toNat ≤ 0x39 := by
  simp only [Char.isDigit, Bool.and_eq_true, decide_eq_true_eq]
  exact Iff.rfl

theorem asciiDigitValue?_of_isDigit {c : Char} (isDigit : c.isDigit = true) :
    asciiDigitValue? c = some (c.toNat - 0x30) := by
  obtain ⟨low, high⟩ := isDigit_iff.mp isDigit
  simp [asciiDigitValue?, low, high]

/-- A run of digits without underscores is read digit by digit. -/
theorem readDigits?_of_digits {cs : List Char} (present : cs ≠ [])
    (digits : ∀ c ∈ cs, c.isDigit = true) :
    readDigits? cs = some (cs.map fun c => c.toNat - 0x30) := by
  induction cs with
  | nil => exact absurd rfl present
  | cons c rest ih =>
    obtain ⟨isDigit, others⟩ := List.forall_mem_cons.mp digits
    have here := asciiDigitValue?_of_isDigit isDigit
    cases rest with
    | nil => rw [readDigits?, here, Option.map_some, List.map_cons, List.map_nil]
    | cons d more =>
      have later := ih (List.cons_ne_nil d more) others
      -- What follows a digit is another one, and not an underscore that would be skipped.
      have noUnderscore : ∀ rest, d :: more = '_' :: rest → False := by
        rintro rest ⟨⟩
        exact absurd (others '_' List.mem_cons_self) (by decide)
      rw [readDigits?, here, later]
      · rfl
      · exact List.cons_ne_nil d more
      · exact noUnderscore

/-- The digits that a number is written with count that number. -/
theorem digitsValue_toDigits (n : Nat) :
    digitsValue ((Nat.toDigits 10 n).map fun c => c.toNat - 0x30) = n := by
  have folded : digitsValue ((Nat.toDigits 10 n).map fun c => c.toNat - 0x30) =
      Nat.ofDigitChars 10 (Nat.toDigits 10 n) 0 := by
    rw [digitsValue, List.foldl_map]
    rfl
  rw [folded, Nat.ofDigitChars_toDigits (by decide) (by decide)]

-- The limit is a variable here so that the power is never computed.
theorem length_toDigits_le {n limit : Nat} (isLimit : limit = maxDigits)
    (fits : n < Nat.pow 10 limit) : (Nat.toDigits 10 n).length ≤ limit := by
  have positive : 0 < limit := by rw [isLimit]; decide
  exact (Nat.length_toDigits_le_iff (by decide) positive).mpr fits

theorem readNatural?_toDigits {n limit : Nat} (isLimit : limit = maxDigits)
    (fits : n < Nat.pow 10 limit) : readNatural? (Nat.toDigits 10 n) = some n := by
  have digits : ∀ c ∈ Nat.toDigits 10 n, c.isDigit = true := fun c member =>
    Nat.isDigit_of_mem_toDigits (by decide) (by decide) member
  have length := length_toDigits_le isLimit fits
  rw [readNatural?, readDigits?_of_digits Nat.toDigits_ne_nil digits]
  simp only [List.length_map, digitsValue_toDigits]
  rw [if_pos (isLimit ▸ length)]

/-! ## Numerals -/

/-- The characters that integers are written with. -/
def isNumeral (c : Char) : Bool := c.isDigit || c = '-'

theorem isNumeral_bounds {c : Char} (numeral : isNumeral c = true) :
    0x2d ≤ c.toNat ∧ c.toNat ≤ 0x39 := by
  rw [isNumeral, Bool.or_eq_true, decide_eq_true_eq] at numeral
  rcases numeral with digit | rfl
  · have bounds := isDigit_iff.mp digit
    omega
  · decide

theorem toAsciiNumeral_of_isNumeral {c : Char} (numeral : isNumeral c = true) :
    toAsciiNumeral c = c := by
  have bounds := isNumeral_bounds numeral
  rw [toAsciiNumeral, if_pos (by omega)]

theorem not_isAsciiBlank_of_isNumeral {c : Char} (numeral : isNumeral c = true) :
    isAsciiBlank c = false := by
  have bounds := isNumeral_bounds numeral
  have noSpace : c ≠ ' ' := by
    rintro rfl
    revert bounds
    decide
  simp only [isAsciiBlank, noSpace, decide_false, Bool.false_or, Bool.and_eq_false_iff,
    decide_eq_false_iff_not]
  omega

theorem isNumeral_of_mem_integerChars {n : Int} : ∀ c ∈ integerChars n, isNumeral c = true := by
  have digits : ∀ k, ∀ c ∈ Nat.toDigits 10 k, isNumeral c = true := by
    intro k c member
    have isDigit : c.isDigit = true := Nat.isDigit_of_mem_toDigits (by decide) (by decide) member
    rw [isNumeral, isDigit, Bool.true_or]
  cases n with
  | ofNat k => exact digits k
  | negSucc k => exact List.forall_mem_cons.mpr ⟨rfl, digits (k + 1)⟩

/-! ## Integers -/

/-- Only what starts with a sign is read with one. -/
theorem readSigned?_of_digits {cs : List Char} (digits : ∀ c ∈ cs, c.isDigit = true) :
    readSigned? cs = (readNatural? cs).map Int.ofNat := by
  unfold readSigned?
  split
  next rest => exact absurd (digits '-' List.mem_cons_self) (by decide)
  next rest => exact absurd (digits '+' List.mem_cons_self) (by decide)
  next => rfl

theorem readSigned?_integerChars {n : Int} {limit : Nat} (isLimit : limit = maxDigits)
    (fits : n.natAbs < Nat.pow 10 limit) : readSigned? (integerChars n) = some n := by
  cases n with
  | ofNat k =>
    have digits : ∀ c ∈ Nat.toDigits 10 k, c.isDigit = true := fun c member =>
      Nat.isDigit_of_mem_toDigits (by decide) (by decide) member
    have small : k < Nat.pow 10 limit := fits
    rw [integerChars, digitsOf, readSigned?_of_digits digits, readNatural?_toDigits isLimit small,
      Option.map_some]
  | negSucc k =>
    have small : k + 1 < Nat.pow 10 limit := fits
    rw [integerChars, digitsOf, readSigned?, readNatural?_toDigits isLimit small]
    rfl

/-- What an integer is written as is read as that integer. -/
theorem readInteger?_of_integerText? {n : Int} {written : String}
    (isText : integerText? n = some written) : readInteger? written = some n := by
  rw [integerText?] at isText
  split at isText
  next fits =>
    cases isText
    have same : (integerChars n).map toAsciiNumeral = integerChars n := by
      rw [List.map_congr_left fun c member =>
        toAsciiNumeral_of_isNumeral (isNumeral_of_mem_integerChars c member), List.map_id']
    have inner : ∀ c ∈ integerChars n, isAsciiBlank c = false := fun c member =>
      not_isAsciiBlank_of_isNumeral (isNumeral_of_mem_integerChars c member)
    rw [readInteger?, String.toList_ofList, same, trim_of_forall inner]
    exact readSigned?_integerChars rfl (of_decide_eq_true fits)
  next => cases isText

end BrokerMaps.Text
