import StarWatch.Word

/-!
# Ether amounts

Prices are whole numbers of wei. Their text is the shortest plain decimal
numeral of the amount in ether: no point without a fraction, no zero at the end
of a fraction.
-/

namespace StarWatch

/-- An amount of ether, held as wei. -/
structure Ether where
  wei : Word
deriving DecidableEq

namespace Ether

def unit : Nat := 1000000000000000000

def zero : Ether := ⟨0⟩

def isZero (e : Ether) : Bool := e.wei == 0

/-- Amounts are ordered as their wei. -/
def compare (a b : Ether) : Ordering := Ord.compare a.wei.toNat b.wei.toNat

def dropZeros (ds : List Nat) : List Nat := (ds.reverse.dropWhile (· = 0)).reverse

/-- The numeral of a number of wei, in ether. -/
def numeral (wei : Nat) : List Char :=
  let whole := Numeral.decimalChars (wei / unit)
  let fraction := wei % unit
  if fraction = 0 then whole
  else whole ++ '.' :: (dropZeros (Numeral.padded 10 18 fraction)).map Numeral.digitChar

def text (e : Ether) : String := String.ofList (numeral e.wei.toNat)

end Ether

end StarWatch
