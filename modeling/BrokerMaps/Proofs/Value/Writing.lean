import BrokerMaps.Proofs.Outcome
import BrokerMaps.Proofs.Value.Numbers
import BrokerMaps.Value.Field

/-!
# Values that can be written

When the two text forms of a value, and the physical name that a target of messages has, can be had.
An integer can be written when it is short enough. Null, numbers of that kind, doubles, texts and
bytes are the primitive values, and each of them can be written in both forms, wherever it stands.
-/
namespace BrokerMaps

open Outcome (Fails not_fails_iff)

namespace Value

/-! ## Text forms -/

theorem isNull_eq_true_iff {value : Value} : value.isNull = true ↔ value = .null := by
  cases value <;> simp [isNull]

/-- Only an application object can be formatted in another way than it is written plainly. -/
theorem formatted_eq_plain {value : Value} (other : ∀ held, value.opened ≠ .object held) :
    value.formatted = value.plain := by
  rw [formatted, formattedOr]
  split
  next held found => exact absurd found (other held)
  next => rfl

theorem not_object_of_integral {value : Value} {n : Int} (integral : value.integral? = some n)
    (held : AppObject) : value.opened ≠ .object held := by
  intro found
  cases value with
  | shared identity className content extra =>
    have isObject : content () = .object held := found
    rw [integral?, isObject] at integral
    cases integral
  | object other => cases integral
  | _ => cases found

/-- How a truth value is written in a map makes no difference to what can be written. -/
theorem fails_mapText_iff {value : Value} : Fails value.mapText ↔ Fails value.plain := by
  cases value <;> simp [mapText, plain, quoted, quotedWithin]

/-- A message that others hold too is written as the message that it is. -/
theorem plain_of_opened_message {value : Value} {stamp : Stamp} {content : Message Value}
    (opens : value.opened = .message stamp content) :
    value.plain = plain (.message stamp content) := by
  cases value with
  | shared identity className held extra =>
    have same : held () = .message stamp content := opens
    rw [plain.eq_def, ← same]
  | _ => exact congrArg plain opens

/-- A stream message shows its identifier, its destination and its elements, and nothing else. -/
theorem fails_plain_stream_iff {stamp : Stamp} {header : Header Value} {elements : Value} :
    Fails (plain (.message stamp ⟨header, .stream elements⟩)) ↔
      Fails header.messageId.quoted ∨ Fails header.destination.formatted
        ∨ Fails elements.quoted := by
  rw [plain, ← formatted]
  cases header.messageId.quoted with
  | error fault => simp
  | ok identifier =>
    cases header.destination.formatted with
    | error fault => simp
    | ok target => cases elements.quoted <;> simp [pure, Except.pure]

/-! ## Primitive values -/

/-- An integer, a truth value or a mode whose number is short enough to be written. -/
def IsShortInteger (value : Value) : Prop :=
  ∃ n, value.integral? = some n ∧ Text.fitsDigits n = true

theorem fitsDigits_iff {n : Int} :
    Text.fitsDigits n = true ↔ n.natAbs < Nat.pow 10 Text.maxDigits := decide_eq_true_iff

/-- Whatever can be reported as a length can be written. -/
theorem isShortInteger_of_lt_lengthLimit {value : Value} {n : Nat}
    (integral : value.integral? = some (n : Int)) (bound : (n : Int) < lengthLimit) :
    value.IsShortInteger := by
  have below : n < 2 ^ 63 := Int.ofNat_lt.mp bound
  have limit : ∀ digits, 63 ≤ digits → 2 ^ 63 ≤ Nat.pow 10 digits := fun digits enough =>
    Nat.le_trans (show 2 ^ 63 ≤ 10 ^ 63 by decide) (Nat.pow_le_pow_right (by decide) enough)
  refine ⟨n, integral, ?_⟩
  rw [fitsDigits_iff, Int.natAbs_natCast]
  exact Nat.lt_of_lt_of_le below (limit Text.maxDigits (by decide))

/-- What can be reported as a length is short enough to be written, in decimal digits. -/
theorem integerText?_natCast {n : Nat} (bound : (n : Int) < lengthLimit) :
    Text.integerText? n = some (toString n) := by
  have isInt : (Value.int n).integral? = some (n : Int) := rfl
  obtain ⟨m, integral, fits⟩ := isShortInteger_of_lt_lengthLimit isInt bound
  cases integral
  rw [Text.integerText?, if_pos fits]
  rfl

theorem integerText_eq_ok_iff {n : Int} {written : String} :
    integerText n = .ok written ↔ Text.integerText? n = some written := by
  unfold integerText
  generalize Text.integerText? n = text?
  cases text? <;> simp

theorem exists_integerText {n : Int} (fits : Text.fitsDigits n = true) :
    ∃ written, integerText n = .ok written := by
  unfold integerText Text.integerText?
  rw [if_pos fits]
  exact ⟨_, rfl⟩

theorem integerText_eq_error {n : Int} {fault : Fault} (failed : integerText n = .error fault) :
    fault = .shape .integerTooLong := by
  unfold integerText at failed
  generalize Text.integerText? n = text? at failed
  cases text? with
  | some written => cases failed
  | none => exact (Except.error.inj failed).symm

theorem plain_int (n : Int) : plain (.int n) = integerText n := by
  rw [plain, quoted, quotedWithin]
  all_goals simp

theorem plain_natCast {n : Nat} (bound : (n : Int) < lengthLimit) :
    plain (.int n) = .ok (toString n) := by
  have short : integerText n = .ok (toString n) :=
    integerText_eq_ok_iff.mpr (integerText?_natCast bound)
  rw [plain_int, short]

/-- A truth value, be it held by others or not. -/
def isTruth : Value → Bool
  | .bool _ => true
  | .shared _ _ content _ => isTruth (content ())
  | _ => false

/-- What counts as an integer is written in decimal digits, unless it is a truth value. -/
theorem plain_of_integral {value : Value} {n : Nat} (positive : 0 < n)
    (integral : value.integral? = some (n : Int)) (bound : (n : Int) < lengthLimit) :
    value.plain = .ok (if value.isTruth then "True" else toString n) := by
  -- A shared value is written as what it holds, so only three kinds of values are left.
  induction value using sharedInduction with
  | shared identity className content extra inner =>
    rw [plain, isTruth]
    exact inner integral
  | other value notShared =>
    cases value with
    | shared identity className content extra => exact absurd rfl (notShared _ _ _ _)
    | int m =>
      obtain rfl : m = n := Option.some.inj integral
      rw [plain_natCast bound]
      rfl
    | bool b =>
      have one : (if b then 1 else 0) = (n : Int) := Option.some.inj integral
      cases b with
      | true => simp [plain, quoted, quotedWithin, isTruth]
      | false => simp at one; omega
    | mode m =>
      have same : (m.toNat : Int) = n := Option.some.inj integral
      obtain rfl := Int.ofNat_inj.mp same
      rfl
    | _ => cases integral

/-- The only thing that keeps an integer from being written is how long it is. -/
theorem plain_eq_error_of_integral {value : Value} {n : Int} {fault : Fault}
    (integral : value.integral? = some n) (failed : value.plain = .error fault) :
    fault = .shape .integerTooLong := by
  induction value using sharedInduction with
  | shared identity className content extra inner =>
    rw [plain] at failed
    exact inner integral failed
  | other value notShared =>
    cases value with
    | shared identity className content extra => exact absurd rfl (notShared _ _ _ _)
    | int m =>
      simp only [plain, quoted, quotedWithin] at failed
      exact integerText_eq_error failed
    | bool b => simp [plain, quoted, quotedWithin] at failed
    | mode m => simp [plain] at failed
    | _ => cases integral

theorem IsShortInteger.not_fails_quotedWithin {value : Value} (short : value.IsShortInteger)
    (within : List Nat) : ¬ Fails (quotedWithin within value) := by
  obtain ⟨n, integral, fits⟩ := short
  induction value using sharedInduction with
  | shared identity className content extra inner =>
    rw [quotedWithin]
    exact inner integral
  | other value notShared =>
    cases value with
    | shared identity className content extra => exact absurd rfl (notShared _ _ _ _)
    | int m =>
      have same : m = n := Option.some.inj integral
      obtain ⟨written, short⟩ := exists_integerText fits
      rw [quotedWithin, same, short]
      exact Outcome.not_fails_ok written
    | bool b => simp [quotedWithin]
    | mode m => simp [quotedWithin]
    | _ => cases integral

theorem IsShortInteger.not_fails_plain {value : Value} (short : value.IsShortInteger) :
    ¬ Fails value.plain := by
  induction value using sharedInduction with
  | shared identity className content extra inner =>
    rw [plain]
    exact inner short
  | other value notShared =>
    cases value with
    | shared identity className content extra => exact absurd rfl (notShared _ _ _ _)
    | int m => simpa [plain, quoted] using short.not_fails_quotedWithin []
    | bool b => simpa [plain, quoted] using short.not_fails_quotedWithin []
    | mode m => simp [plain]
    | _ =>
      obtain ⟨n, integral, -⟩ := short
      cases integral

theorem IsShortInteger.not_fails_formatted {value : Value} (short : value.IsShortInteger) :
    ¬ Fails value.formatted := by
  obtain ⟨n, integral, -⟩ := id short
  rw [formatted_eq_plain (not_object_of_integral integral)]
  exact short.not_fails_plain

inductive IsPrimitive : Value → Prop
  | null : IsPrimitive .null
  | integer {value : Value} (short : value.IsShortInteger) : IsPrimitive value
  | float (identity? : Option Nat) (x : Binary64) : IsPrimitive (.float identity? x)
  | text (s : String) : IsPrimitive (.text s)
  | bytes (bytes : List UInt8) : IsPrimitive (.buffer .bytes bytes)

theorem IsPrimitive.not_fails_plain {value : Value} (primitive : value.IsPrimitive) :
    ¬ Fails value.plain := by
  cases primitive with
  | integer short => exact short.not_fails_plain
  | _ => simp [plain, quoted, quotedWithin]

theorem IsPrimitive.not_fails_quotedWithin {value : Value} (primitive : value.IsPrimitive)
    (within : List Nat) : ¬ Fails (quotedWithin within value) := by
  cases primitive with
  | integer short => exact short.not_fails_quotedWithin within
  | _ => simp [quotedWithin]

theorem not_fails_quotedAll {items : List Value} (primitive : ∀ item ∈ items, item.IsPrimitive)
    (within : List Nat) : ¬ Fails (quotedAll within items) := by
  induction items with
  | nil => simp [quotedAll]
  | cons item rest ih =>
    obtain ⟨here, later⟩ := List.forall_mem_cons.mp primitive
    obtain ⟨first, written⟩ := not_fails_iff.mp (here.not_fails_quotedWithin within)
    obtain ⟨others, writtenToo⟩ := not_fails_iff.mp (ih later)
    simp [quotedAll, written, writtenToo, pure, Except.pure]

/-- A list of primitive values can be quoted, be it held by others or not. -/
theorem not_fails_quoted_of_opened_list {value : Value} {identity? : Option Nat}
    {items : List Value} (opens : value.opened = .list identity? items)
    (primitive : ∀ item ∈ items, item.IsPrimitive) : ¬ Fails value.quoted := by
  have listed : ¬ Fails (quotedWithin [] (.list identity? items)) := by
    obtain ⟨parts, written⟩ :=
      not_fails_iff.mp (not_fails_quotedAll primitive (entering identity? []))
    have outside : isWithin identity? [] = false := by cases identity? <;> rfl
    simp [quotedWithin, outside, written, pure, Except.pure]
  cases value with
  | shared identity className content extra =>
    have same : content () = .list identity? items := opens
    rwa [quoted, quotedWithin, same]
  | list own held =>
    cases opens
    exact listed
  | _ => cases opens

/-! ## Physical names -/

/-- A value has a physical name when it is a destination or was given a field of that name. -/
def HasPhysicalName (value : Value) : Prop :=
  (∃ stamp kind physicalName, value.opened = .destination stamp kind physicalName)
    ∨ (value.extraField? "physical_name").isSome

private theorem fails_methodField {value : Value}
    (unknown : value.ownMethods.lookup "physical_name" = none) :
    Fails (value.methodField "physical_name") := by
  simp [methodField, unknown, shapeFault]

private theorem fails_ownField_physicalName_iff {value : Value} :
    Fails (value.ownField "physical_name") ↔
      ∀ stamp kind physicalName, value ≠ .destination stamp kind physicalName := by
  cases value with
  | destination stamp kind physicalName => simp [ownField]
  | message stamp content =>
    obtain ⟨header, payload⟩ := content
    have absent : Message.field? ⟨header, payload⟩ "physical_name" = none := by
      cases payload <;> rfl
    have unknown : (Value.message stamp ⟨header, payload⟩).ownMethods.lookup "physical_name"
        = none := by
      cases payload <;> rfl
    simpa [ownField, absent] using fails_methodField unknown
  | _ => simpa [ownField] using fails_methodField rfl

/-- The physical name of a value can be read when it has one. -/
theorem fails_field_physicalName_iff {value : Value} :
    Fails (value.field "physical_name") ↔ ¬ value.HasPhysicalName := by
  rw [field]
  cases given : value.extraField? "physical_name" with
  | some held => simp [HasPhysicalName, given]
  | none => simp [HasPhysicalName, given, fails_ownField_physicalName_iff]

end Value
end BrokerMaps
