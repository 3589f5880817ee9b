import StarWatch.Keccak
import StarWatch.Text.Blank
import StarWatch.Text.Utf8
import StarWatch.Word

/-!
# Address text

`Address.checksum` writes an address in mixed case: the case of each letter
carries one bit of the digest of the lower-case digits. `Address.parse` reads
an address back in any case, and gives the cause of each refusal.
-/

namespace StarWatch

/-- Why a text is no address. The text quoted is the trimmed one. -/
inductive AddressError where
  | missingMarker (text : String)
  | invalidHex (text : String)
  | invalidLength (bytes : Nat)
deriving DecidableEq

namespace AddressError

def message : AddressError → String
  | missingMarker text => "Address must start with 0x: " ++ text
  | invalidHex text => "Address is not valid hex: " ++ text
  | invalidLength bytes => "Address must be 20 bytes, got " ++ Numeral.decimal bytes

end AddressError

namespace Address

/-- The four-bit groups of a byte string, high half first. -/
def nibbles (bs : Bytes) : List Nat :=
  bs.flatMap fun b => [b.toNat / 16, b.toNat % 16]

/-- A letter goes to upper case where the digest's nibble at its place is at least eight. -/
def raise (c : Char) (nibble : Nat) : Char :=
  if c.isAlpha && 8 ≤ nibble then c.toUpper else c

def checksumDigits (digest : Bytes) (a : Address) : List Char :=
  List.zipWith raise a.digits (nibbles digest)

def digest (a : Address) : Bytes := Keccak.digest (Utf8.encode a.digits)

def checksum (a : Address) : String :=
  String.ofList ('0' :: 'x' :: checksumDigits a.digest a)

/-- The digits behind `0x` or `0X`. -/
def body? : List Char → Option (List Char)
  | '0' :: 'x' :: digits => some digits
  | '0' :: 'X' :: digits => some digits
  | _ => none

/-- Reads an address; blank characters around it do not count. -/
def parse (input : String) : Except AddressError Address :=
  let text := Text.trim input.toList
  match body? text with
  | none => .error (.missingMarker (String.ofList text))
  | some digits =>
    match Numeral.ofHexChars? digits with
    | none => .error (.invalidHex (String.ofList text))
    | some n =>
      if digits.length % 2 = 1 then .error (.invalidHex (String.ofList text))
      else if digits.length = 40 then .ok ⟨BitVec.ofNat 160 n⟩
      else .error (.invalidLength (digits.length / 2))

end Address

end StarWatch
