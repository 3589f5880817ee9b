import StarWatch.Text.Quoted

/-!
# Byte strings

A byte string is a list of bytes. Numbers travel in it most significant byte
first; its text form is two hexadecimal digits a byte behind the marker `0x`.
-/

namespace StarWatch

abbrev Bytes := List UInt8

namespace Bytes

/-- The number that big-endian bytes denote. -/
def toNat (bs : Bytes) : Nat :=
  bs.foldl (fun n b => n * 256 + b.toNat) 0

/-- The lowest `w` bytes of a number, most significant first. -/
def ofNat : Nat → Nat → Bytes
  | 0, _ => []
  | w + 1, n => ofNat w (n / 256) ++ [UInt8.ofNat n]

theorem length_ofNat (w n : Nat) : (ofNat w n).length = w := by
  induction w generalizing n with
  | zero => rfl
  | succ w ih => simp [ofNat, ih]

theorem toNat_append_singleton (bs : Bytes) (b : UInt8) :
    toNat (bs ++ [b]) = toNat bs * 256 + b.toNat := by
  simp [toNat]

theorem toNat_ofNat (w n : Nat) : toNat (ofNat w n) = n % Nat.pow 256 w := by
  induction w generalizing n with
  | zero => simp [ofNat, toNat, Nat.mod_one]
  | succ w ih =>
    have byte : (UInt8.ofNat n).toNat = n % 256 := by simp
    have next : Nat.pow 256 (w + 1) = 256 * Nat.pow 256 w := Nat.mul_comm _ _
    rw [ofNat, toNat_append_singleton, ih, byte, next, Nat.mod_mul, Nat.mul_comm 256, Nat.add_comm]

/-- Two lower-case digits a byte. -/
def hexDigits (bs : Bytes) : List Char :=
  bs.flatMap fun b => [Numeral.digitChar (b.toNat / 16), Numeral.digitChar (b.toNat % 16)]

def hex (bs : Bytes) : String :=
  String.ofList ('0' :: 'x' :: hexDigits bs)

/-- Why a text is no byte string. A character that is no digit is told by its first byte and its
place behind the marker. -/
inductive ReadError where
  | oddLength
  | character (byte : UInt8) (place : Nat)
deriving DecidableEq

namespace ReadError

def message : ReadError → String
  | oddLength => "Odd number of digits"
  | character byte place =>
    "Invalid character " ++ String.ofList (Text.quoted (Char.ofNat 0x27) [Char.ofNat byte.toNat]) ++
      " at position " ++ Numeral.decimal place

end ReadError

def digit? (byte : UInt8) : Option Nat := Numeral.hexValue? (Char.ofNat byte.toNat)

/-- Reads pairs of digits from a place on; `acc` holds the bytes before them, last first. -/
def readOnto (acc : Bytes) (place : Nat) : Bytes → Except ReadError Bytes
  | [] => .ok acc.reverse
  | [_] => .error .oddLength
  | a :: b :: rest =>
    match digit? a, digit? b with
    | some x, some y => readOnto (UInt8.ofNat (x * 16 + y) :: acc) (place + 2) rest
    | none, _ => .error (.character a place)
    | _, none => .error (.character b (place + 1))

/-- The digits behind the marker `0x`, if it is there. -/
def unmarked : Bytes → Bytes
  | 0x30 :: 0x78 :: digits => digits
  | digits => digits

/-- The digits behind a marker of either case, if one is there. -/
def unmarkedAnyCase : Bytes → Bytes
  | 0x30 :: 0x58 :: digits => digits
  | digits => unmarked digits

/-- Reads the text form. The marker may be absent, in upper case, or there twice. -/
def read (cs : List Char) : Except ReadError Bytes :=
  let digits := unmarkedAnyCase (unmarked (cs.flatMap String.utf8EncodeChar))
  if digits.length % 2 = 1 then .error .oddLength else readOnto [] 0 digits

def ofHex? (s : String) : Option Bytes := (read s.toList).toOption

end Bytes

end StarWatch
