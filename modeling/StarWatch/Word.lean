import StarWatch.Numeral

/-!
# Words, hashes and addresses

The ledger's fixed-width values. A `Word` is an unsigned 256-bit number and has
a shortest hexadecimal form; a `Hash` has 32 bytes and an `Address` 20, and
their form always shows all digits.
-/

namespace StarWatch

/-- Unsigned 256-bit numbers: block heights, token ids, amounts of wei. -/
abbrev Word := BitVec 256

/-- A 32-byte digest: block hashes, transaction hashes, topics. -/
structure Hash where
  bits : BitVec 256
deriving DecidableEq

/-- A 20-byte account or contract address. -/
structure Address where
  bits : BitVec 160
deriving DecidableEq

instance : Inhabited Hash := ⟨⟨0⟩⟩

instance : Inhabited Address := ⟨⟨0⟩⟩

namespace Word

/-- `0x` and the shortest numeral, `0x0` for zero. -/
def hexChars (w : Word) : List Char := '0' :: 'x' :: Numeral.hexChars w.toNat

def hex (w : Word) : String := String.ofList w.hexChars

def decimal (w : Word) : String := Numeral.decimal w.toNat

/-- The low half of the low half: the number modulo 2^64. -/
def low64 (w : Word) : UInt64 := UInt64.ofNat w.toNat

end Word

namespace Hash

def hexChars (h : Hash) : List Char := '0' :: 'x' :: Numeral.hexPadded 64 h.bits.toNat

def hex (h : Hash) : String := String.ofList h.hexChars

end Hash

namespace Address

def digits (a : Address) : List Char := Numeral.hexPadded 40 a.bits.toNat

def hexChars (a : Address) : List Char := '0' :: 'x' :: a.digits

def hex (a : Address) : String := String.ofList a.hexChars

end Address

end StarWatch
