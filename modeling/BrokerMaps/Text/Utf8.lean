/-!
# UTF-8

Encoding of texts and a decoder that never fails. The decoder replaces every maximal invalid
subpart by one replacement character: as soon as a byte cannot continue the sequence begun
before it, the sequence so far is replaced and the byte is looked at afresh. The admissible second
bytes depend on the lead byte, which is what excludes overlong forms, surrogates and code points
past the last plane; the later bytes are plain continuation bytes.
-/
namespace BrokerMaps.Text.Utf8

def replacement : Char := Char.ofNat 0xfffd

/-! ## Encoding -/

def continuation (bits : Nat) : UInt8 := UInt8.ofNat (0x80 + bits % 64)

def encodeChar (c : Char) : List UInt8 :=
  let code := c.toNat
  if code < 0x80 then [UInt8.ofNat code]
  else if code < 0x800 then [UInt8.ofNat (0xc0 + code / 64), continuation code]
  else if code < 0x10000 then
    [UInt8.ofNat (0xe0 + code / 4096), continuation (code / 64), continuation code]
  else
    [UInt8.ofNat (0xf0 + code / 262144), continuation (code / 4096), continuation (code / 64),
      continuation code]

def encode (cs : List Char) : List UInt8 := cs.flatMap encodeChar

/-! ## Decoding -/

/-- What a lead byte announces: how many bytes follow and the bounds of the first of them. -/
inductive Lead where
  | single
  | double
  | triple (low high : Nat)
  | quadruple (low high : Nat)
  | invalid

def lead (byte : Nat) : Lead :=
  if byte < 0x80 then .single
  else if byte < 0xc2 then .invalid
  else if byte < 0xe0 then .double
  else if byte < 0xf0 then
    .triple (if byte = 0xe0 then 0xa0 else 0x80) (if byte = 0xed then 0x9f else 0xbf)
  else if byte < 0xf5 then
    .quadruple (if byte = 0xf0 then 0x90 else 0x80) (if byte = 0xf4 then 0x8f else 0xbf)
  else .invalid

def within (low high : Nat) (byte : UInt8) : Bool := low ≤ byte.toNat && byte.toNat ≤ high

def continues (byte : UInt8) : Bool := within 0x80 0xbf byte

def payload (byte : UInt8) : Nat := byte.toNat % 64

def decode : List UInt8 → List Char
  | [] => []
  | first :: rest =>
    match lead first.toNat with
    | .single => Char.ofNat first.toNat :: decode rest
    | .invalid => replacement :: decode rest
    | .double =>
      match rest with
      | [] => [replacement]
      | second :: rest2 =>
        if continues second then
          Char.ofNat ((first.toNat - 0xc0) * 64 + payload second) :: decode rest2
        else replacement :: decode (second :: rest2)
    | .triple low high =>
      match rest with
      | [] => [replacement]
      | second :: rest2 =>
        if within low high second then
          match rest2 with
          | [] => [replacement]
          | third :: rest3 =>
            if continues third then
              Char.ofNat ((first.toNat - 0xe0) * 4096 + payload second * 64 + payload third)
                :: decode rest3
            else replacement :: decode (third :: rest3)
        else replacement :: decode (second :: rest2)
    | .quadruple low high =>
      match rest with
      | [] => [replacement]
      | second :: rest2 =>
        if within low high second then
          match rest2 with
          | [] => [replacement]
          | third :: rest3 =>
            if continues third then
              match rest3 with
              | [] => [replacement]
              | fourth :: rest4 =>
                if continues fourth then
                  Char.ofNat ((first.toNat - 0xf0) * 262144 + payload second * 4096
                    + payload third * 64 + payload fourth) :: decode rest4
                else replacement :: decode (fourth :: rest4)
            else replacement :: decode (third :: rest3)
        else replacement :: decode (second :: rest2)

end BrokerMaps.Text.Utf8
