/-!
# Positional numerals

Digits are lists of numbers below a base, most significant first. `digits` is
the shortest numeral of a number, `padded` the numeral of a fixed width, and
`value` reads either back. The digit characters are those of hexadecimal:
written in lower case, read in both. `readBelow` reads a bounded number from
settings and says why it refuses a text.
-/

namespace StarWatch.Numeral

/-- The shortest numeral of `n`; zero is the single digit 0. -/
def digits (b n : Nat) : List Nat :=
  if 2 ≤ b ∧ b ≤ n then digits b (n / b) ++ [n % b] else [n]
termination_by n
decreasing_by exact Nat.div_lt_self (by omega) (by omega)

/-- The lowest `w` digits of `n`, with zeros in front where it has fewer. -/
def padded (b : Nat) : Nat → Nat → List Nat
  | 0, _ => []
  | w + 1, n => padded b w (n / b) ++ [n % b]

/-- The number that a list of digits denotes. -/
def value (b : Nat) (ds : List Nat) : Nat :=
  ds.foldl (fun n d => n * b + d) 0

theorem value_append_singleton (b : Nat) (ds : List Nat) (d : Nat) :
    value b (ds ++ [d]) = value b ds * b + d := by
  simp [value]

theorem value_digits (b n : Nat) : value b (digits b n) = n := by
  induction n using Nat.strongRecOn with
  | ind n ih =>
    rw [digits]
    split
    · rename_i h
      rw [value_append_singleton, ih (n / b) (Nat.div_lt_self (by omega) (by omega))]
      have := Nat.div_add_mod n b
      rw [Nat.mul_comm]
      exact this
    · simp [value]

theorem length_padded (b w n : Nat) : (padded b w n).length = w := by
  induction w generalizing n with
  | zero => rfl
  | succ w ih => simp [padded, ih]

theorem value_padded (b w n : Nat) : value b (padded b w n) = n % Nat.pow b w := by
  induction w generalizing n with
  | zero => simp [padded, value, Nat.mod_one]
  | succ w ih =>
    have next : Nat.pow b (w + 1) = b * Nat.pow b w := Nat.mul_comm _ _
    rw [padded, value_append_singleton, ih, next, Nat.mod_mul, Nat.mul_comm b, Nat.add_comm]

/-- The character of a digit below sixteen. -/
def digitChar (d : Nat) : Char :=
  if d < 10 then Char.ofNat (48 + d) else Char.ofNat (87 + d)

/-- The value of a hexadecimal digit of either case. -/
def hexValue? (c : Char) : Option Nat :=
  if '0' ≤ c ∧ c ≤ '9' then some (c.toNat - 48)
  else if 'a' ≤ c ∧ c ≤ 'f' then some (c.toNat - 87)
  else if 'A' ≤ c ∧ c ≤ 'F' then some (c.toNat - 55)
  else none

def decimalValue? (c : Char) : Option Nat :=
  if '0' ≤ c ∧ c ≤ '9' then some (c.toNat - 48) else none

theorem hexValue?_digitChar : ∀ d < 16, hexValue? (digitChar d) = some d := by decide

theorem decimalValue?_digitChar : ∀ d < 10, decimalValue? (digitChar d) = some d := by decide

def decimalChars (n : Nat) : List Char := (digits 10 n).map digitChar

def decimal (n : Nat) : String := String.ofList (decimalChars n)

def hexChars (n : Nat) : List Char := (digits 16 n).map digitChar

def hexPadded (w n : Nat) : List Char := (padded 16 w n).map digitChar

/-- The number that hexadecimal digits denote, if all of them are such digits. -/
def ofHexChars? (cs : List Char) : Option Nat :=
  (cs.mapM hexValue?).map (value 16)

/-- The number that decimal digits denote, if all of them are such digits. -/
def ofDecimalChars? (cs : List Char) : Option Nat :=
  (cs.mapM decimalValue?).map (value 10)

inductive ReadError where
  | digit
  | tooLarge
deriving DecidableEq

def ReadError.message : ReadError → String
  | digit => "invalid digit found in string"
  | tooLarge => "number too large to fit in target type"

/-- Reads digits on top of `n`, from the left; the first that is none or does not fit ends it. -/
def readOnto (bound : Nat) : Nat → List Char → Except ReadError Nat
  | n, [] => .ok n
  | n, c :: rest =>
    match decimalValue? c with
    | none => .error .digit
    | some d => if n * 10 + d < bound then readOnto bound (n * 10 + d) rest else .error .tooLarge

/-- Reads a decimal numeral below a bound; a plus sign may stand in front of it. -/
def readBelow (bound : Nat) (cs : List Char) : Except ReadError Nat :=
  let digits := match cs with
    | '+' :: rest => rest
    | cs => cs
  if digits.isEmpty then .error .digit else readOnto bound 0 digits

end StarWatch.Numeral
