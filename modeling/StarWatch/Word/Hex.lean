import StarWatch.Text.Utf8
import StarWatch.Word

/-!
# Hexadecimal text

How words, hashes and addresses are read. The marker `0x` may be there or not,
and digits have either case. A size says how many bytes a text may hold, and
it is the text's length that is held against it: blanks, tabs and line breaks
count for the length, but give no digit. Digits pair up to bytes from the left;
in a text of odd length the first digit is a byte of its own, and a digit that
finds no partner at the end is dropped.
-/

namespace StarWatch

namespace Hex

/-- How many bytes a text holds: just so many, or what at least one digit and at most so many bytes
give. -/
inductive Size where
  | exactly (bytes : Nat)
  | upTo (bytes : Nat)
deriving DecidableEq

namespace Size

def admits (length : Nat) : Size → Bool
  | exactly bytes => length = 2 * bytes
  | upTo bytes => 1 ≤ length && length ≤ 2 * bytes

def expectation (size : Size) : String :=
  "a (both 0x-prefixed or not) hex string or byte array containing " ++
    match size with
    | exactly bytes => Numeral.decimal bytes ++ " bytes"
    | upTo bytes => "between (0; " ++ Numeral.decimal bytes ++ "] bytes"

end Size

/-- Why a text does not hold bytes. A character that is no digit is told by its first byte and its
place in the whole text. -/
inductive Error where
  | length (bytes : Nat)
  | character (c : Char) (place : Nat)
deriving DecidableEq

def Error.message (size : Size) : Error → String
  | length bytes => "invalid length " ++ Numeral.decimal bytes ++ ", expected " ++ size.expectation
  | character c place =>
    "invalid hex character: " ++ c.toString ++ ", at " ++ Numeral.decimal place

def body : List Char → List Char
  | '0' :: 'x' :: digits => digits
  | digits => digits

/-- Characters between digits that do not matter. -/
def isGap (c : Char) : Bool := c = ' ' || c = '\t' || c = '\n' || c = '\r'

def firstByte (c : Char) : Char := Char.ofNat ((Utf8.encode [c]).headD 0).toNat

def digitsFrom (place : Nat) : List Char → Except Error (List Nat)
  | [] => .ok []
  | c :: rest =>
    if isGap c then digitsFrom (place + 1) rest
    else match Numeral.hexValue? c with
      | some d => (digitsFrom (place + 1) rest).map (d :: ·)
      | none => .error (.character (firstByte c) place)

/-- Joins digits in pairs; a last one without a partner is dropped. -/
def pairs : List Nat → List Nat
  | a :: b :: rest => (a * 16 + b) :: pairs rest
  | _ => []

def bytesOf (length : Nat) (digits : List Nat) : List Nat :=
  pairs (if length % 2 = 1 then 0 :: digits else digits)

def read (size : Size) (cs : List Char) : Except Error (List Nat) :=
  let digits := body cs
  if size.admits (Utf8.size digits) then
    (digitsFrom (cs.length - digits.length) digits).map (bytesOf digits.length)
  else .error (.length (Utf8.size digits))

/-- The number that bytes denote, most significant first. -/
def number (bytes : List Nat) : Nat := Numeral.value 256 bytes

/-- The number of a field of some width, which bytes fill from the left. -/
def field (width : Nat) (bytes : List Nat) : Nat :=
  number (bytes ++ List.replicate (width - bytes.length) 0)

end Hex

namespace Word

def size : Hex.Size := .upTo 32

def ofBytes (bytes : List Nat) : Word := BitVec.ofNat 256 (Hex.number bytes)

/-- One to sixty-four digits, leading zeros allowed. -/
def ofHexChars? (cs : List Char) : Option Word := ((Hex.read size cs).map ofBytes).toOption

end Word

namespace Hash

def size : Hex.Size := .exactly 32

def ofBytes (bytes : List Nat) : Hash := ⟨BitVec.ofNat 256 (Hex.field 32 bytes)⟩

/-- Exactly sixty-four digits. -/
def ofHexChars? (cs : List Char) : Option Hash := ((Hex.read size cs).map ofBytes).toOption

end Hash

namespace Address

def size : Hex.Size := .exactly 20

def ofBytes (bytes : List Nat) : Address := ⟨BitVec.ofNat 160 (Hex.field 20 bytes)⟩

/-- Exactly forty digits. -/
def ofHexChars? (cs : List Char) : Option Address := ((Hex.read size cs).map ofBytes).toOption

end Address

end StarWatch
