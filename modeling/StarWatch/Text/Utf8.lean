import StarWatch.Bytes

/-!
# UTF-8, read with replacement

`encode` writes characters as UTF-8. `decode` reads any byte string: a well
formed sequence gives its character, and each maximal beginning of a sequence
that cannot be completed gives one replacement character U+FFFD.
`ofPadded` first cuts the zero bytes that fill up a fixed-width field.
-/

namespace StarWatch.Utf8

def encode (cs : List Char) : Bytes := cs.flatMap String.utf8EncodeChar

def size : List Char → Nat
  | [] => 0
  | c :: rest => c.utf8Size + size rest

/-- What a first byte announces: how many bytes follow, and the range of the next one. -/
structure Lead where
  bits : Nat
  following : Nat
  low : UInt8
  high : UInt8

/-- The ranges exclude overlong forms, surrogates and numbers above U+10FFFF. -/
def lead? (b : UInt8) : Option Lead :=
  if b < 0x80 then some ⟨b.toNat, 0, 0x80, 0xBF⟩
  else if b < 0xC2 then none
  else if b < 0xE0 then some ⟨b.toNat - 0xC0, 1, 0x80, 0xBF⟩
  else if b = 0xE0 then some ⟨0, 2, 0xA0, 0xBF⟩
  else if b = 0xED then some ⟨0xD, 2, 0x80, 0x9F⟩
  else if b < 0xF0 then some ⟨b.toNat - 0xE0, 2, 0x80, 0xBF⟩
  else if b = 0xF0 then some ⟨0, 3, 0x90, 0xBF⟩
  else if b < 0xF4 then some ⟨b.toNat - 0xF0, 3, 0x80, 0xBF⟩
  else if b = 0xF4 then some ⟨4, 3, 0x80, 0x8F⟩
  else none

def replacement : Char := Char.ofNat 0xFFFD

/-- Reads `following` more bytes; the count of bytes taken comes with the character. -/
def finish : Nat → UInt8 → UInt8 → Nat → Nat → Bytes → Char × Nat
  | 0, _, _, bits, taken, _ => (Char.ofNat bits, taken)
  | _ + 1, _, _, _, taken, [] => (replacement, taken)
  | n + 1, low, high, bits, taken, b :: rest =>
    if low ≤ b ∧ b ≤ high then finish n 0x80 0xBF (bits * 64 + b.toNat % 64) (taken + 1) rest
    else (replacement, taken)

/-- The character that starts with byte `b`, and how many further bytes belong to it. -/
def next (b : UInt8) (rest : Bytes) : Char × Nat :=
  match lead? b with
  | none => (replacement, 0)
  | some l => finish l.following l.low l.high l.bits 0 rest

/-- Reads the bytes; `acc` holds the characters before them, last first. -/
def decodeOnto (acc : List Char) : Bytes → List Char
  | [] => acc.reverse
  | b :: rest =>
    let (c, taken) := next b rest
    decodeOnto (c :: acc) (rest.drop taken)
termination_by bs => bs.length
decreasing_by
  simp only [List.length_drop, List.length_cons]
  omega

def decode (bs : Bytes) : List Char := decodeOnto [] bs

def cutZeros (bs : Bytes) : Bytes := (bs.reverse.dropWhile (· = 0)).reverse

/-- The text in a field that zero bytes fill up. -/
def ofPadded (bs : Bytes) : String := String.ofList (decode (cutZeros bs))

end StarWatch.Utf8
