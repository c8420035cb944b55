/-!
# Base64

Three bytes become four characters of six bits each; a final group of one or two bytes is padded.
The decoder accepts exactly the written forms: full groups, and at the end possibly one padded
group whose unused bits are zero.
-/
namespace BrokerMaps.Text.Base64

/-- The character of a six-bit value. -/
def digit (value : Nat) : Char :=
  if value < 26 then Char.ofNat (0x41 + value)
  else if value < 52 then Char.ofNat (0x61 + (value - 26))
  else if value < 62 then Char.ofNat (0x30 + (value - 52))
  else if value = 62 then '+'
  else '/'

def pad : Char := '='

def encode : List UInt8 → List Char
  | [] => []
  | [a] =>
    [digit (a.toNat / 4), digit (a.toNat % 4 * 16), pad, pad]
  | [a, b] =>
    [digit (a.toNat / 4), digit (a.toNat % 4 * 16 + b.toNat / 16), digit (b.toNat % 16 * 4), pad]
  | a :: b :: c :: rest =>
    digit (a.toNat / 4) :: digit (a.toNat % 4 * 16 + b.toNat / 16)
      :: digit (b.toNat % 16 * 4 + c.toNat / 64) :: digit (c.toNat % 64) :: encode rest

def digitValue? (c : Char) : Option Nat :=
  let code := c.toNat
  if 0x41 ≤ code && code ≤ 0x5a then some (code - 0x41)
  else if 0x61 ≤ code && code ≤ 0x7a then some (code - 0x61 + 26)
  else if 0x30 ≤ code && code ≤ 0x39 then some (code - 0x30 + 52)
  else if c = '+' then some 62
  else if c = '/' then some 63
  else none

def decode? : List Char → Option (List UInt8)
  | [] => some []
  | a :: b :: c :: d :: rest =>
    match digitValue? a, digitValue? b with
    | some a, some b =>
      if c = pad then
        -- The bits of the last digit that no byte takes have to be zero.
        if d = pad && rest.isEmpty && b % 16 = 0 then some [UInt8.ofNat (a * 4 + b / 16)] else none
      else
        match digitValue? c with
        | none => none
        | some c =>
          if d = pad then
            if rest.isEmpty && c % 4 = 0 then
              some [UInt8.ofNat (a * 4 + b / 16), UInt8.ofNat (b % 16 * 16 + c / 4)]
            else none
          else
            match digitValue? d, decode? rest with
            | some d, some decoded =>
              some (UInt8.ofNat (a * 4 + b / 16) :: UInt8.ofNat (b % 16 * 16 + c / 4)
                :: UInt8.ofNat (c % 4 * 64 + d) :: decoded)
            | _, _ => none
    | _, _ => none
  | _ => none

private theorem digitValue_digit_all :
    ∀ value : Fin 64, digitValue? (digit value) = some value.val := by
  decide

theorem digitValue?_digit {value : Nat} (small : value < 64) :
    digitValue? (digit value) = some value :=
  digitValue_digit_all ⟨value, small⟩

private theorem digit_ne_pad_all : ∀ value : Fin 64, digit value ≠ pad := by
  decide

theorem digit_ne_pad {value : Nat} (small : value < 64) : digit value ≠ pad :=
  digit_ne_pad_all ⟨value, small⟩

end BrokerMaps.Text.Base64
