import BrokerMaps.Text.Base64

/-!
# Base64 loses nothing

Every group of characters gives back the bytes that it was made from, whether it is a full group or
the padded one at the end, so decoding is inverse to encoding on all lists of bytes.
-/
namespace BrokerMaps.Text.Base64

private theorem ofNat_eq_of_toNat_eq {byte : UInt8} {value : Nat} (same : value = byte.toNat) :
    UInt8.ofNat value = byte := by
  rw [same, UInt8.ofNat_toNat]

private theorem decode?_one (a : UInt8) :
    decode? [digit (a.toNat / 4), digit (a.toNat % 4 * 16), pad, pad] = some [a] := by
  have boundA := a.toNat_lt
  have whole : UInt8.ofNat (a.toNat / 4 * 4 + a.toNat % 4 * 16 / 16) = a :=
    ofNat_eq_of_toNat_eq (by omega)
  have unused : a.toNat % 4 * 16 % 16 = 0 := by omega
  simp only [decode?, digitValue?_digit (show a.toNat / 4 < 64 by omega),
    digitValue?_digit (show a.toNat % 4 * 16 < 64 by omega), if_true, whole]
  simp [unused]

private theorem decode?_two (a b : UInt8) :
    decode? [digit (a.toNat / 4), digit (a.toNat % 4 * 16 + b.toNat / 16),
      digit (b.toNat % 16 * 4), pad] = some [a, b] := by
  have boundA := a.toNat_lt
  have boundB := b.toNat_lt
  have first : UInt8.ofNat (a.toNat / 4 * 4 + (a.toNat % 4 * 16 + b.toNat / 16) / 16) = a :=
    ofNat_eq_of_toNat_eq (by omega)
  have second : UInt8.ofNat
      ((a.toNat % 4 * 16 + b.toNat / 16) % 16 * 16 + b.toNat % 16 * 4 / 4) = b :=
    ofNat_eq_of_toNat_eq (by omega)
  have unused : b.toNat % 16 * 4 % 4 = 0 := by omega
  have small : b.toNat % 16 * 4 < 64 := by omega
  simp only [decode?, digitValue?_digit (show a.toNat / 4 < 64 by omega),
    digitValue?_digit (show a.toNat % 4 * 16 + b.toNat / 16 < 64 by omega), digit_ne_pad small,
    digitValue?_digit small, if_false, first, second]
  simp [unused]

private theorem decode?_three (a b c : UInt8) (rest : List Char) :
    decode? (digit (a.toNat / 4) :: digit (a.toNat % 4 * 16 + b.toNat / 16)
        :: digit (b.toNat % 16 * 4 + c.toNat / 64) :: digit (c.toNat % 64) :: rest) =
      (decode? rest).map fun decoded => a :: b :: c :: decoded := by
  have boundA := a.toNat_lt
  have boundB := b.toNat_lt
  have boundC := c.toNat_lt
  -- Each byte is put together again from the two digits that its bits went to.
  have first : UInt8.ofNat (a.toNat / 4 * 4 + (a.toNat % 4 * 16 + b.toNat / 16) / 16) = a :=
    ofNat_eq_of_toNat_eq (by omega)
  have second : UInt8.ofNat ((a.toNat % 4 * 16 + b.toNat / 16) % 16 * 16
      + (b.toNat % 16 * 4 + c.toNat / 64) / 4) = b :=
    ofNat_eq_of_toNat_eq (by omega)
  have third : UInt8.ofNat
      ((b.toNat % 16 * 4 + c.toNat / 64) % 4 * 64 + c.toNat % 64) = c :=
    ofNat_eq_of_toNat_eq (by omega)
  have smallThird : b.toNat % 16 * 4 + c.toNat / 64 < 64 := by omega
  have smallFourth : c.toNat % 64 < 64 := by omega
  simp only [decode?, digitValue?_digit (show a.toNat / 4 < 64 by omega),
    digitValue?_digit (show a.toNat % 4 * 16 + b.toNat / 16 < 64 by omega),
    digit_ne_pad smallThird, digitValue?_digit smallThird, digit_ne_pad smallFourth,
    digitValue?_digit smallFourth, if_false, first, second]
  cases decode? rest with
  | none => rfl
  | some decoded => simp only [third, Option.map_some]

/-- Decoding gives back what was encoded. -/
theorem decode?_encode (bytes : List UInt8) : decode? (encode bytes) = some bytes := by
  fun_induction encode bytes with
  | case1 => rfl
  | case2 a => exact decode?_one a
  | case3 a b => exact decode?_two a b
  | case4 a b c rest ih => rw [decode?_three, ih, Option.map_some]

end BrokerMaps.Text.Base64
