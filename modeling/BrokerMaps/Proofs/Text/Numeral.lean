import BrokerMaps.Proofs.Text.Integer
import Mathlib.Data.Bool.AllAny
import Mathlib.Data.List.Forall2
import Mathlib.Data.Nat.Digits.Lemmas
import Mathlib.Tactic.IntervalCases

/-!
# The grammar of integers

An integer is read from more than its decimal form. There may be blanks around it and a sign in
front of it, its digits may be of any script, and single underscores may stand between them. A
`Numeral` is an integer in such a spelling, and a text denotes an integer when it is spelled as one
of its numerals.

## Main results

* `readInteger?_eq_some_iff`: a text is read as an integer exactly when it denotes it.
* `Decorated.denotes`: the decimal form of a natural number, with blanks around it and a plus, zeros
  and underscores added, still denotes the number.

## Proof strategy

The reader replaces foreign blanks and digits by ASCII ones before it looks at anything else. Every
class of characters that it asks for afterwards is shown to be a class of the characters given.
Digits are then taken one by one off both the text and the groups that it falls into.
-/
namespace BrokerMaps.Text

/-! ## Grammar -/

/-- The information separators, which are blanks everywhere but around numbers. -/
def isSeparator (c : Char) : Bool := 0x1c ≤ c.toNat && c.toNat ≤ 0x1f

/-- A blank that may stand around a number. -/
def isNumeralBlank (c : Char) : Bool := isBlank c && !isSeparator c

/-- Groups of digits, none of them empty, and what each digit counts. -/
structure IsGrouped (groups : List (List Char)) (digits : List Nat) : Prop where
  groups_ne_nil : groups ≠ []
  group_ne_nil : ∀ group ∈ groups, group ≠ []
  digit : List.Forall₂ (fun c value => digitValue? c = some value) groups.flatten digits

inductive Sign where
  | absent
  | plus
  | minus
  deriving DecidableEq, Repr

namespace Sign

def chars : Sign → List Char
  | .absent => []
  | .plus => ['+']
  | .minus => ['-']

/-- A number under a sign. -/
def apply : Sign → Nat → Int
  | .absent, n => n
  | .plus, n => n
  | .minus, n => -n

theorem natAbs_apply (sign : Sign) (n : Nat) : (sign.apply n).natAbs = n := by
  cases sign <;> simp [apply]

end Sign

/-- An integer in one of its spellings. -/
structure Numeral where
  before : List Char
  sign : Sign
  groups : List (List Char)
  /-- What the digits count, the most significant one first. -/
  digits : List Nat
  after : List Char
  before_blank : ∀ c ∈ before, isNumeralBlank c = true
  grouped : IsGrouped groups digits
  short : digits.length ≤ maxDigits
  after_blank : ∀ c ∈ after, isNumeralBlank c = true

namespace Numeral

/-- The spelling, with an underscore between each two groups. -/
def text (numeral : Numeral) : String :=
  String.ofList (numeral.before ++ (numeral.sign.chars ++ ['_'].intercalate numeral.groups)
    ++ numeral.after)

def value (numeral : Numeral) : Int := numeral.sign.apply (Nat.ofDigits 10 numeral.digits.reverse)

end Numeral

/-- A text is a spelling of an integer. -/
def Denotes (text : String) (n : Int) : Prop :=
  ∃ numeral : Numeral, numeral.text = text ∧ numeral.value = n

/-! ## Characters -/

private theorem holds_blankRanges_of_lt : ∀ code < 127,
    (blankRanges.holds code && !(decide (0x1c ≤ code) && decide (code ≤ 0x1f))) =
      (decide (code = 0x20) || (decide (9 ≤ code) && decide (code ≤ 13))) := by
  decide +kernel

private theorem find?_digitZeros_of_lt : ∀ code < 127,
    (digitZeros.find? fun first => first ≤ code && code < first + 10).map (code - ·) =
      if 0x30 ≤ code && code ≤ 0x39 then some (code - 0x30) else none := by
  decide +kernel

private theorem blankRanges_apart_digitZeros : ∀ range ∈ blankRanges, ∀ first ∈ digitZeros,
    range.2 < first ∨ first + 10 ≤ range.1 := by
  decide

theorem isBlank_of_isSeparator {c : Char} (separates : isSeparator c = true) :
    isBlank c = true := by
  simp only [isSeparator, Bool.and_eq_true, decide_eq_true_eq] at separates
  rw [isBlank, CodeRanges.holds_iff]
  exact ⟨(0x1c, 0x20), by decide, separates.1, by omega⟩

theorem isNumeralBlank_of_lt {c : Char} (isAscii : c.toNat < 127) :
    isNumeralBlank c = isAsciiBlank c := by
  have isSpace : (c = ' ') = (c.toNat = 0x20) := by
    rw [← Char.toNat_inj]
    rfl
  rw [isNumeralBlank, isBlank, isSeparator, holds_blankRanges_of_lt _ isAscii, isAsciiBlank]
  simp only [isSpace]

/-- The separators are ASCII characters, so a blank of any other kind may stand around a number. -/
theorem isNumeralBlank_of_le {c : Char} (foreign : 127 ≤ c.toNat) :
    isNumeralBlank c = isBlank c := by
  have noSeparator : isSeparator c = false := by
    simp only [isSeparator, Bool.and_eq_false_iff, decide_eq_false_iff_not]
    omega
  rw [isNumeralBlank, noSeparator, Bool.not_false, Bool.and_true]

theorem digitValue?_of_lt {c : Char} (isAscii : c.toNat < 127) :
    digitValue? c = asciiDigitValue? c :=
  find?_digitZeros_of_lt _ isAscii

/-- No blank is a digit. -/
theorem digitValue?_of_isBlank {c : Char} (blank : isBlank c = true) : digitValue? c = none := by
  obtain ⟨range, isRange, low, high⟩ := (CodeRanges.holds_iff _ _).mp blank
  rw [digitValue?, Option.map_eq_none_iff, List.find?_eq_none]
  intro first isZero inRun
  simp only [Bool.and_eq_true, decide_eq_true_eq] at inRun
  rcases blankRanges_apart_digitZeros range isRange first isZero with before | after <;> omega

theorem toNat_asciiDigit {value : Nat} (small : value < 10) :
    (Char.ofNat (0x30 + value)).toNat = 0x30 + value := by
  interval_cases value <;> rfl

/-- What a character is read as: itself, a space, an ASCII digit or the mark of what is refused. -/
theorem toAsciiNumeral_cases (c : Char) :
    (c.toNat < 127 ∧ toAsciiNumeral c = c)
      ∨ (127 ≤ c.toNat ∧ isBlank c = true ∧ toAsciiNumeral c = ' ')
      ∨ (127 ≤ c.toNat ∧ isBlank c = false ∧
          ∃ value, digitValue? c = some value ∧ toAsciiNumeral c = Char.ofNat (0x30 + value))
      ∨ (127 ≤ c.toNat ∧ isBlank c = false ∧ digitValue? c = none ∧ toAsciiNumeral c = '?') := by
  unfold toAsciiNumeral
  by_cases isAscii : c.toNat < 127
  · simp [isAscii]
  · cases blank : isBlank c
    · cases digit : digitValue? c <;> simp [isAscii, Nat.le_of_not_lt isAscii]
    · simp [isAscii, Nat.le_of_not_lt isAscii]

theorem isAsciiBlank_toAsciiNumeral (c : Char) :
    isAsciiBlank (toAsciiNumeral c) = isNumeralBlank c := by
  rcases toAsciiNumeral_cases c with ⟨isAscii, same⟩ | ⟨foreign, blank, isSpace⟩
    | ⟨foreign, inked, value, digit, isDigit⟩ | ⟨foreign, inked, -, isMark⟩
  · rw [same, isNumeralBlank_of_lt isAscii]
  · rw [isSpace, isNumeralBlank_of_le foreign, blank]
    decide
  · have small := digitValue?_lt digit
    rw [isDigit, isNumeralBlank_of_le foreign, inked]
    interval_cases value <;> decide
  · rw [isMark, isNumeralBlank_of_le foreign, inked]
    decide

theorem asciiDigitValue?_toAsciiNumeral (c : Char) :
    asciiDigitValue? (toAsciiNumeral c) = digitValue? c := by
  rcases toAsciiNumeral_cases c with ⟨isAscii, same⟩ | ⟨-, blank, isSpace⟩
    | ⟨-, -, value, digit, isDigit⟩ | ⟨-, -, noDigit, isMark⟩
  · rw [same, digitValue?_of_lt isAscii]
  · rw [isSpace, digitValue?_of_isBlank blank]
    decide
  · have small := digitValue?_lt digit
    rw [isDigit, digit, asciiDigitValue?, toNat_asciiDigit small]
    simp
    omega
  · rw [isMark, noDigit]
    decide

/-- The marks that a number is written with besides its digits. -/
def marks : List Char := ['_', '+', '-']

theorem toAsciiNumeral_eq_mark_iff {c mark : Char} (isMark : mark ∈ marks) :
    toAsciiNumeral c = mark ↔ c = mark := by
  -- To be decided for the marks alone and not for every character.
  have noDigit : ∀ mark ∈ marks, ∀ value < 10, Char.ofNat (0x30 + value) ≠ mark :=
    List.all_iff_forall_prop.mp (by decide)
  have isAscii : ∀ mark ∈ marks, mark.toNat < 127 ∧ ' ' ≠ mark ∧ '?' ≠ mark :=
    List.all_iff_forall_prop.mp (by decide)
  obtain ⟨low, noSpace, noQuestion⟩ := isAscii mark isMark
  rcases toAsciiNumeral_cases c with ⟨-, same⟩ | ⟨foreign, -, isSpace⟩
    | ⟨foreign, -, value, digit, isDigit⟩ | ⟨foreign, -, -, isQuestion⟩
  · rw [same]
  -- A foreign character is no mark, and is not read as one either.
  all_goals
    have other : c ≠ mark := by
      rintro rfl
      omega
  · simp [isSpace, noSpace, other]
  · simp [isDigit, noDigit mark isMark value (digitValue?_lt digit), other]
  · simp [isQuestion, noQuestion, other]

theorem map_toAsciiNumeral_eq_cons_iff {mark : Char} {cs read : List Char}
    (isMark : mark ∈ marks) :
    cs.map toAsciiNumeral = mark :: read ↔
      ∃ rest, cs = mark :: rest ∧ rest.map toAsciiNumeral = read := by
  rw [List.map_eq_cons_iff]
  simp [toAsciiNumeral_eq_mark_iff isMark]

/-- No mark is a digit. -/
theorem ne_mark_of_digit {c mark : Char} {value : Nat} (digit : digitValue? c = some value)
    (isMark : mark ∈ marks) : c ≠ mark := by
  rintro rfl
  have noDigit : ∀ mark ∈ marks, digitValue? mark = none :=
    List.all_iff_forall_prop.mp (by decide)
  rw [noDigit c isMark] at digit
  cases digit

/-- Neither marks nor digits are blanks. -/
theorem isNumeralBlank_eq_false {c : Char}
    (inked : c ∈ marks ∨ ∃ value, digitValue? c = some value) : isNumeralBlank c = false := by
  rcases inked with isMark | ⟨value, digit⟩
  · have noBlank : ∀ mark ∈ marks, isNumeralBlank mark = false :=
      List.all_iff_forall_prop.mp (by decide)
    exact noBlank c isMark
  · cases blank : isBlank c with
    | true =>
      rw [digitValue?_of_isBlank blank] at digit
      cases digit
    | false => rw [isNumeralBlank, blank, Bool.false_and]

/-- Separators are blanks, so neither marks nor digits are separators. -/
theorem isSeparator_eq_false_of_inked {c : Char}
    (inked : c ∈ marks ∨ ∃ value, digitValue? c = some value) : isSeparator c = false := by
  rcases inked with isMark | ⟨value, digit⟩
  · have noSeparator : ∀ mark ∈ marks, isSeparator mark = false :=
      List.all_iff_forall_prop.mp (by decide)
    exact noSeparator c isMark
  · cases separates : isSeparator c with
    | true =>
      rw [digitValue?_of_isBlank (isBlank_of_isSeparator separates)] at digit
      cases digit
    | false => rfl

/-! ## Digits -/

theorem readDigits?_single {c : Char} :
    readDigits? [c] = (asciiDigitValue? c).map ([·]) := rfl

theorem readDigits?_underscore_iff {c : Char} {rest : List Char} {values : List Nat} :
    readDigits? (c :: '_' :: rest) = some values ↔
      ∃ value others, asciiDigitValue? c = some value ∧ readDigits? rest = some others
        ∧ values = value :: others := by
  rw [readDigits?]
  cases asciiDigitValue? c <;> cases readDigits? rest <;> simp [eq_comm]

theorem readDigits?_cons_iff {c d : Char} {rest : List Char} {values : List Nat} (other : d ≠ '_') :
    readDigits? (c :: d :: rest) = some values ↔
      ∃ value others, asciiDigitValue? c = some value ∧ readDigits? (d :: rest) = some others
        ∧ values = value :: others := by
  rw [readDigits?]
  · cases asciiDigitValue? c <;> cases readDigits? (d :: rest) <;> simp [eq_comm]
  · exact List.cons_ne_nil d rest
  · rintro more ⟨⟩
    exact other rfl

namespace IsGrouped

variable {group : List Char} {groups : List (List Char)} {digits : List Nat} {c : Char}
  {value : Nat}

/-- A digit in a group of its own in front of the others. -/
theorem cons_group (digit : digitValue? c = some value) (grouped : IsGrouped groups digits) :
    IsGrouped ([c] :: groups) (value :: digits) where
  groups_ne_nil := List.cons_ne_nil _ _
  group_ne_nil := List.forall_mem_cons.mpr ⟨List.cons_ne_nil _ _, grouped.group_ne_nil⟩
  digit := .cons digit grouped.digit

/-- A digit more in the first group. -/
theorem cons_digit (digit : digitValue? c = some value)
    (grouped : IsGrouped (group :: groups) digits) :
    IsGrouped ((c :: group) :: groups) (value :: digits) where
  groups_ne_nil := List.cons_ne_nil _ _
  group_ne_nil := List.forall_mem_cons.mpr
    ⟨List.cons_ne_nil _ _, fun other among => grouped.group_ne_nil other (.tail _ among)⟩
  digit := .cons digit grouped.digit

/-- Groups start with a digit. -/
theorem exists_first (grouped : IsGrouped groups digits) :
    ∃ c rest value, ['_'].intercalate groups = c :: rest ∧ digitValue? c = some value := by
  obtain ⟨nonempty, occupied, digit⟩ := grouped
  cases groups with
  | nil => exact absurd rfl nonempty
  | cons group more =>
    cases group with
    | nil => exact absurd rfl (occupied [] List.mem_cons_self)
    | cons c inner =>
      obtain ⟨value, _, first, -⟩ := List.forall₂_cons_left_iff.mp digit
      cases more with
      | nil => exact ⟨c, inner, value, by simp, first⟩
      | cons next more =>
        exact ⟨c, inner ++ '_' :: ['_'].intercalate (next :: more), value, by simp, first⟩

end IsGrouped

/-- What is read as digits falls into groups of them. -/
theorem exists_isGrouped_of_readDigits? :
    ∀ {cs : List Char} {digits : List Nat}, readDigits? (cs.map toAsciiNumeral) = some digits →
      ∃ groups, IsGrouped groups digits ∧ cs = ['_'].intercalate groups
  | [], _, read => nomatch read
  | [c], digits, read => by
    simp only [List.map_cons, List.map_nil, readDigits?_single, asciiDigitValue?_toAsciiNumeral,
      Option.map_eq_some_iff] at read
    obtain ⟨value, digit, rfl⟩ := read
    refine ⟨[[c]], ⟨List.cons_ne_nil _ _, ?_, .cons digit .nil⟩, ?_⟩
    · exact List.forall_mem_singleton.mpr (List.cons_ne_nil _ _)
    · exact List.intercalate_singleton.symm
  | c :: d :: rest, digits, read => by
    by_cases underscore : d = '_'
    · -- The first digit is a group of its own.
      subst underscore
      obtain ⟨value, others, digit, later, rfl⟩ := readDigits?_underscore_iff.mp read
      rw [asciiDigitValue?_toAsciiNumeral] at digit
      obtain ⟨groups, grouped, rfl⟩ := exists_isGrouped_of_readDigits? later
      refine ⟨[c] :: groups, grouped.cons_group digit, ?_⟩
      rw [List.intercalate_cons_of_ne_nil grouped.groups_ne_nil]
      rfl
    · -- The first digit belongs to the group of the second.
      have other : toAsciiNumeral d ≠ '_' := by
        rwa [ne_eq, toAsciiNumeral_eq_mark_iff (by decide)]
      obtain ⟨value, others, digit, later, rfl⟩ := (readDigits?_cons_iff other).mp read
      rw [asciiDigitValue?_toAsciiNumeral] at digit
      obtain ⟨groups, grouped, joined⟩ :=
        @exists_isGrouped_of_readDigits? (d :: rest) others later
      cases groups with
      | nil => exact absurd rfl grouped.groups_ne_nil
      | cons group more =>
        refine ⟨(c :: group) :: more, grouped.cons_digit digit, ?_⟩
        rw [joined]
        cases more <;> simp

/-- Groups of digits are read as what these count. -/
theorem readDigits?_of_isGrouped {groups : List (List Char)} {digits : List Nat}
    (grouped : IsGrouped groups digits) :
    readDigits? ((['_'].intercalate groups).map toAsciiNumeral) = some digits := by
  -- Over the digits, one of which is taken off the first group at a time.
  induction digits generalizing groups with
  | nil =>
    obtain ⟨nonempty, occupied, none⟩ := grouped
    cases groups with
    | nil => exact absurd rfl nonempty
    | cons group more =>
      have empty := List.flatten_eq_nil_iff.mp (List.forall₂_nil_right_iff.mp none)
      exact absurd (empty group List.mem_cons_self) (occupied group List.mem_cons_self)
  | cons value others ih =>
    obtain ⟨nonempty, occupied, digit⟩ := grouped
    cases groups with
    | nil => exact absurd rfl nonempty
    | cons group more =>
      obtain ⟨here, later⟩ := List.forall_mem_cons.mp occupied
      cases group with
      | nil => exact absurd rfl here
      | cons c inner =>
        obtain ⟨first, rest⟩ := List.forall₂_cons.mp digit
        have isDigit : asciiDigitValue? (toAsciiNumeral c) = some value := by
          rw [asciiDigitValue?_toAsciiNumeral, first]
        cases inner with
        | nil =>
          -- With the group used up, an underscore and the next group follow, or nothing does.
          cases more with
          | nil =>
            have last := List.forall₂_nil_left_iff.mp rest
            simp [readDigits?_single, isDigit, last]
          | cons next more =>
            have isGrouped : IsGrouped (next :: more) others :=
              ⟨List.cons_ne_nil _ _, later, by simpa using rest⟩
            rw [List.intercalate_cons_of_ne_nil isGrouped.groups_ne_nil]
            exact readDigits?_underscore_iff.mpr ⟨value, others, isDigit, ih isGrouped, rfl⟩
        | cons d inner =>
          have isGrouped : IsGrouped ((d :: inner) :: more) others :=
            ⟨List.cons_ne_nil _ _, List.forall_mem_cons.mpr ⟨List.cons_ne_nil _ _, later⟩, rest⟩
          have other : toAsciiNumeral d ≠ '_' := by
            obtain ⟨_, _, isDigit, -⟩ := List.forall₂_cons_left_iff.mp rest
            rw [ne_eq, toAsciiNumeral_eq_mark_iff (by decide)]
            exact ne_mark_of_digit isDigit (by decide)
          have starts : ∃ tail, ['_'].intercalate ((d :: inner) :: more) = d :: tail
              ∧ ['_'].intercalate ((c :: d :: inner) :: more) = c :: d :: tail := by
            cases more <;> simp
          obtain ⟨tail, isTail, isWhole⟩ := starts
          have read := ih isGrouped
          rw [isTail] at read
          rw [isWhole]
          exact (readDigits?_cons_iff other).mpr ⟨value, others, isDigit, read, rfl⟩

theorem digitsValue_eq (digits : List Nat) :
    digitsValue digits = Nat.ofDigits 10 digits.reverse := by
  induction digits using List.reverseRecOn with
  | nil => rfl
  | append_singleton before last ih =>
    rw [digitsValue, List.foldl_append, List.reverse_concat, Nat.ofDigits_cons, ← ih, digitsValue]
    simp [Nat.add_comm]

/-- Digits that are not too many are read as the number that they count. -/
theorem readNatural?_eq_some_iff {cs : List Char} {n : Nat} :
    readNatural? (cs.map toAsciiNumeral) = some n ↔
      ∃ groups digits, IsGrouped groups digits ∧ digits.length ≤ maxDigits
        ∧ cs = ['_'].intercalate groups ∧ n = Nat.ofDigits 10 digits.reverse := by
  rw [readNatural?]
  constructor
  · intro read
    split at read
    next digits listed =>
      obtain ⟨groups, grouped, rfl⟩ := exists_isGrouped_of_readDigits? listed
      split at read
      next short =>
        cases read
        exact ⟨groups, digits, grouped, short, rfl, digitsValue_eq digits⟩
      next => cases read
    next => cases read
  · rintro ⟨groups, digits, grouped, short, rfl, rfl⟩
    simp only [readDigits?_of_isGrouped grouped, if_pos short, digitsValue_eq]

/-! ## Signs -/

/-- Only what starts with a sign is read with one. -/
theorem readSigned?_eq_some_iff {cs : List Char} {n : Int} :
    readSigned? (cs.map toAsciiNumeral) = some n ↔
      ∃ sign part natural, cs = Sign.chars sign ++ part
        ∧ readNatural? (part.map toAsciiNumeral) = some natural ∧ n = sign.apply natural := by
  constructor
  · intro read
    unfold readSigned? at read
    split at read
    next starts =>
      obtain ⟨part, rfl, rfl⟩ := (map_toAsciiNumeral_eq_cons_iff (by decide)).mp starts
      cases found : readNatural? (part.map toAsciiNumeral) with
      | none =>
        rw [found] at read
        cases read
      | some natural =>
        rw [found] at read
        cases read
        exact ⟨.minus, part, natural, rfl, found, rfl⟩
    next starts =>
      obtain ⟨part, rfl, rfl⟩ := (map_toAsciiNumeral_eq_cons_iff (by decide)).mp starts
      obtain ⟨natural, found, rfl⟩ := Option.map_eq_some_iff.mp read
      exact ⟨.plus, part, natural, rfl, found, rfl⟩
    next =>
      obtain ⟨natural, found, rfl⟩ := Option.map_eq_some_iff.mp read
      exact ⟨.absent, cs, natural, rfl, found, rfl⟩
  · rintro ⟨sign, part, natural, rfl, found, rfl⟩
    cases sign with
    | plus =>
      have same : toAsciiNumeral '+' = '+' := by decide
      simp [Sign.chars, Sign.apply, same, readSigned?, found]
    | minus =>
      have same : toAsciiNumeral '-' = '-' := by decide
      simp [Sign.chars, Sign.apply, same, readSigned?, found]
    | absent =>
      -- A digit comes first here, and no digit is taken for a sign.
      obtain ⟨groups, digits, grouped, -, rfl, -⟩ := readNatural?_eq_some_iff.mp found
      obtain ⟨c, rest, value, starts, digit⟩ := grouped.exists_first
      have unsigned : ∀ mark ∈ marks, ∀ read,
          (['_'].intercalate groups).map toAsciiNumeral ≠ mark :: read := by
        intro mark isMark read isRead
        obtain ⟨part, isPart, -⟩ := (map_toAsciiNumeral_eq_cons_iff isMark).mp isRead
        rw [starts] at isPart
        exact ne_mark_of_digit digit isMark (List.cons.inj isPart).1
      rw [Sign.chars, List.nil_append, readSigned?, found]
      · rfl
      · exact unsigned '-' (by decide)
      · exact unsigned '+' (by decide)

/-! ## Numerals -/

theorem mem_flatten_or_eq {c mark : Char} {groups : List (List Char)}
    (member : c ∈ [mark].intercalate groups) : c ∈ groups.flatten ∨ c = mark := by
  induction groups with
  | nil => cases member
  | cons group more ih =>
    rcases more with _ | ⟨next, more⟩
    · exact .inl (by simpa using member)
    · rw [List.intercalate_cons_cons] at member
      rw [List.flatten_cons, List.mem_append]
      rcases List.mem_append.mp member with first | later
      · rcases List.mem_append.mp first with here | isMark
        · exact .inl (.inl here)
        · exact .inr (List.mem_singleton.mp isMark)
      · exact (ih later).imp_left .inr

namespace Numeral

variable (numeral : Numeral)

/-- Between the blanks around a numeral are marks and digits. -/
theorem mark_or_digit_of_mem {c : Char}
    (member : c ∈ numeral.sign.chars ++ ['_'].intercalate numeral.groups) :
    c ∈ marks ∨ ∃ value, digitValue? c = some value := by
  have digits : ∀ c ∈ numeral.groups.flatten, ∃ value, digitValue? c = some value :=
    ((List.forall₂_and_left _ _).mp
      (numeral.grouped.digit.imp fun _ value digit => ⟨⟨value, digit⟩, digit⟩)).1
  have signs : ∀ sign : Sign, ∀ c ∈ sign.chars, c ∈ marks := by
    rintro (_ | _ | _) <;> simp [Sign.chars, marks]
  rcases List.mem_append.mp member with isSign | inGroups
  · exact .inl (signs numeral.sign c isSign)
  · rcases mem_flatten_or_eq inGroups with inGroup | isMark
    · exact .inr (digits c inGroup)
    · exact .inl (isMark ▸ List.mem_cons_self)

theorem isNumeralBlank_core : ∀ c ∈ numeral.sign.chars ++ ['_'].intercalate numeral.groups,
    isNumeralBlank c = false := by
  intro c member
  apply isNumeralBlank_eq_false
  exact numeral.mark_or_digit_of_mem member

-- The limit is a variable here so that the power is never computed.
theorem natAbs_value_lt {limit : Nat} (isLimit : limit = maxDigits) :
    numeral.value.natAbs < Nat.pow 10 limit := by
  have digits : List.Forall₂ (fun value c => value < 10 ∧ digitValue? c = some value)
      numeral.digits numeral.groups.flatten :=
    (numeral.grouped.digit.imp fun _ _ digit => ⟨digitValue?_lt digit, digit⟩).flip
  have small : ∀ value ∈ numeral.digits.reverse, value < 10 := fun value member =>
    ((List.forall₂_and_left _ _).mp digits).1 value (List.mem_reverse.mp member)
  have below := Nat.ofDigits_lt_base_pow_length (show 1 < 10 by decide) small
  rw [List.length_reverse] at below
  rw [value, Sign.natAbs_apply]
  exact below.trans_le (Nat.pow_le_pow_right (by decide) (isLimit ▸ numeral.short))

end Numeral

/-- An integer that a text denotes is never too long to be written. -/
theorem Denotes.fitsDigits {text : String} {n : Int} (denotes : Denotes text n) :
    fitsDigits n = true := by
  obtain ⟨numeral, -, rfl⟩ := denotes
  exact decide_eq_true (numeral.natAbs_value_lt rfl)

/-- No information separator stands in a text that denotes an integer, not even around it. -/
theorem Denotes.isSeparator_eq_false {text : String} {n : Int} (denotes : Denotes text n) :
    ∀ c ∈ text.toList, isSeparator c = false := by
  obtain ⟨numeral, rfl, -⟩ := denotes
  have blanks : ∀ c, isNumeralBlank c = true → isSeparator c = false := by
    intro c blank
    rw [isNumeralBlank, Bool.and_eq_true, Bool.not_eq_true'] at blank
    exact blank.2
  intro c member
  rw [Numeral.text, String.toList_ofList] at member
  rcases List.mem_append.mp member with first | last
  · rcases List.mem_append.mp first with outside | inside
    · exact blanks c (numeral.before_blank c outside)
    · apply isSeparator_eq_false_of_inked
      exact numeral.mark_or_digit_of_mem inside
  · exact blanks c (numeral.after_blank c last)

theorem readInteger?_eq (text : String) :
    readInteger? text = readSigned? ((trim isNumeralBlank text.toList).map toAsciiNumeral) := by
  have sameClass : isAsciiBlank ∘ toAsciiNumeral = isNumeralBlank :=
    funext isAsciiBlank_toAsciiNumeral
  rw [readInteger?, trim_map, sameClass]

/-- A text is read as an integer exactly when it denotes it. -/
theorem readInteger?_eq_some_iff {text : String} {n : Int} :
    readInteger? text = some n ↔ Denotes text n := by
  rw [readInteger?_eq, readSigned?_eq_some_iff]
  constructor
  · rintro ⟨sign, part, natural, isCore, found, rfl⟩
    obtain ⟨groups, digits, grouped, short, rfl, rfl⟩ := readNatural?_eq_some_iff.mp found
    obtain ⟨before, after, whole, leading, trailing⟩ :=
      exists_eq_append_trim isNumeralBlank text.toList
    refine ⟨⟨before, sign, groups, digits, after, leading, grouped, short, trailing⟩, ?_, rfl⟩
    rw [Numeral.text, ← isCore, ← whole, String.ofList_toList]
  · rintro ⟨numeral, rfl, rfl⟩
    refine ⟨numeral.sign, ['_'].intercalate numeral.groups, Nat.ofDigits 10 numeral.digits.reverse,
      ?_, ?_, rfl⟩
    · rw [Numeral.text, String.toList_ofList,
        trim_append numeral.before_blank numeral.isNumeralBlank_core numeral.after_blank]
    · apply readNatural?_eq_some_iff.mpr
      exact ⟨_, _, numeral.grouped, numeral.short, rfl, rfl⟩

/-- A text denotes one integer at most. -/
theorem Denotes.unique {text : String} {n m : Int} (first : Denotes text n)
    (second : Denotes text m) : n = m := by
  rw [← readInteger?_eq_some_iff] at first second
  exact Option.some.inj (first.symm.trans second)

/-! ## Decimal forms -/

/-- The decimal form of a natural number with blanks around it and with a plus, leading zeros and
underscores put in. -/
inductive Decorated (n : Nat) : String → Prop where
  | intro {before after : List Char} {sign : Sign} {zeros : Nat} {groups : List (List Char)}
    (before_blank : ∀ c ∈ before, isNumeralBlank c = true)
    (after_blank : ∀ c ∈ after, isNumeralBlank c = true) (noMinus : sign ≠ .minus)
    (group_ne_nil : ∀ group ∈ groups, group ≠ [])
    (digits : groups.flatten = List.replicate zeros '0' ++ digitsOf n)
    (short : zeros + (digitsOf n).length ≤ maxDigits) :
    Decorated n
      (String.ofList (before ++ (sign.chars ++ ['_'].intercalate groups) ++ after))

/-- The decimal form as it is, with nothing added. -/
theorem decorated_of_integerText? {n : Int} {written : String} (natural : 0 ≤ n)
    (isText : integerText? n = some written) : Decorated n.toNat written := by
  obtain ⟨k, rfl⟩ := Int.eq_ofNat_of_zero_le natural
  rw [integerText?] at isText
  split at isText
  next fits =>
    obtain rfl := Option.some.inj isText
    have whole : integerChars k =
        [] ++ (Sign.absent.chars ++ ['_'].intercalate [digitsOf k]) ++ [] := by
      simp [Sign.chars, integerChars]
    have occupied : digitsOf k ≠ [] := Nat.toDigits_ne_nil
    have short : (digitsOf k).length ≤ maxDigits :=
      length_toDigits_le rfl (of_decide_eq_true fits)
    have noZeros : 0 + (digitsOf k).length ≤ maxDigits := by rwa [Nat.zero_add]
    rw [whole]
    exact .intro (List.forall_mem_nil _) (List.forall_mem_nil _) Sign.noConfusion
      (List.forall_mem_singleton.mpr occupied) (List.flatten_singleton ..) noZeros
  next => cases isText

theorem digitValue?_of_isDigit {c : Char} (isDigit : c.isDigit = true) :
    digitValue? c = some (c.toNat - 0x30) := by
  have bounds := isDigit_iff.mp isDigit
  rw [digitValue?_of_lt (by omega), asciiDigitValue?_of_isDigit isDigit]

theorem digitsValue_zeros (zeros : Nat) (digits : List Nat) :
    digitsValue (List.replicate zeros 0 ++ digits) = digitsValue digits := by
  induction zeros with
  | zero => rfl
  | succ zeros ih => exact ih

/-- What is added to a decimal form makes no difference to the number. -/
theorem Decorated.denotes {n : Nat} {text : String} (decorated : Decorated n text) :
    Denotes text n := by
  obtain @⟨before, after, sign, zeros, groups, leading, trailing, noMinus, occupied, isDigits,
    short⟩ := decorated
  -- The zeros in front and the digits of the number are all ASCII digits.
  have isDigit : ∀ c ∈ groups.flatten, c.isDigit = true := by
    intro c member
    rw [isDigits] at member
    rcases List.mem_append.mp member with isZero | isDigit
    · rw [List.eq_of_mem_replicate isZero]
      decide
    · exact Nat.isDigit_of_mem_toDigits (by decide) (by decide) isDigit
  have digit : List.Forall₂ (fun c value => digitValue? c = some value) groups.flatten
      (groups.flatten.map fun c => c.toNat - 0x30) := by
    rw [List.forall₂_map_right_iff, List.forall₂_same]
    exact fun c member => digitValue?_of_isDigit (isDigit c member)
  have present : groups ≠ [] := by
    rintro rfl
    simp [digitsOf] at isDigits
  refine ⟨⟨before, sign, groups, _, after, leading, ⟨present, occupied, digit⟩, ?_, trailing⟩,
    rfl, ?_⟩
  · simpa [isDigits] using short
  · have counted : digitsValue (groups.flatten.map fun c => c.toNat - 0x30) = n := by
      rw [isDigits, List.map_append, List.map_replicate]
      exact (digitsValue_zeros zeros _).trans (digitsValue_toDigits n)
    rw [Numeral.value, ← digitsValue_eq, counted]
    cases sign with
    | absent => rfl
    | plus => rfl
    | minus => exact absurd rfl noMinus

end BrokerMaps.Text
