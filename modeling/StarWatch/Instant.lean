import StarWatch.Calendar
import StarWatch.Numeral
import StarWatch.Text.Blank

/-!
# Instants

A point of time in UTC, with its RFC 3339 text. `write` gives the one canonical
form: `Z` for the offset, and a fraction of three, six or nine digits only where
the instant has one. `read?` takes the wider form: any offset, fields without
their leading zeros, blanks between the parts, a blank or a small `t` between
date and time. A second 60 is a leap second and is kept as a fraction of the
second before it.
-/

namespace StarWatch

/-- Seconds from the start of 1970, and nanoseconds. From 10^9 on, these lie in a leap second. -/
structure Instant where
  seconds : Int
  nanos : Nat
deriving DecidableEq

namespace Instant

/-- The years that an instant can lie in. -/
def minYear : Int := -262143

def maxYear : Int := 262142

def maxSeconds : Nat := 8210266876799

/-- The instant of a Unix timestamp, where the calendar reaches so far. -/
def ofTimestamp? (timestamp : UInt64) : Option Instant :=
  if timestamp.toNat ≤ maxSeconds then some ⟨timestamp.toNat, 0⟩ else none

def atLeast (w n : Nat) : List Char :=
  let ds := Numeral.decimalChars n
  List.replicate (w - ds.length) '0' ++ ds

/-- Four digits; a sign in front where these are not enough. -/
def writeYear (year : Int) : List Char :=
  if 0 ≤ year ∧ year ≤ 9999 then atLeast 4 year.toNat
  else (if year < 0 then '-' else '+') :: atLeast 4 year.natAbs

/-- The shortest fraction of three, six or nine digits; nothing for a whole second. -/
def writeFraction (nanos : Nat) : List Char :=
  if nanos = 0 then []
  else if nanos % 1000000 = 0 then '.' :: atLeast 3 (nanos / 1000000)
  else if nanos % 1000 = 0 then '.' :: atLeast 6 (nanos / 1000)
  else '.' :: atLeast 9 nanos

def writeChars (t : Instant) : List Char :=
  let date := Calendar.ofDayNumber (t.seconds / 86400)
  let time := (t.seconds % 86400).toNat
  let leap := 1000000000 ≤ t.nanos
  writeYear date.year ++ '-' :: atLeast 2 date.month ++ '-' :: atLeast 2 date.day ++
    'T' :: atLeast 2 (time / 3600) ++ ':' :: atLeast 2 (time / 60 % 60) ++
    ':' :: atLeast 2 (time % 60 + if leap then 1 else 0) ++
    writeFraction (if leap then t.nanos - 1000000000 else t.nanos) ++ ['Z']

def write (t : Instant) : String := String.ofList t.writeChars

/-- Splits off the decimal digits in front, at most `max` of them. -/
def takeDigits : Nat → List Char → List Nat × List Char
  | 0, cs => ([], cs)
  | _ + 1, [] => ([], [])
  | max + 1, c :: rest =>
    match Numeral.decimalValue? c with
    | none => ([], c :: rest)
    | some d => let (ds, after) := takeDigits max rest; (d :: ds, after)

/-- One to `max` digits. -/
def readNumber (max : Nat) (cs : List Char) : Option (Nat × List Char) :=
  match takeDigits max cs with
  | ([], _) => none
  | (ds, rest) => some (Numeral.value 10 ds, rest)

/-- A field of up to two digits within bounds, behind blanks. -/
def readField (low high : Nat) (cs : List Char) : Option (Nat × List Char) := do
  let (n, rest) ← readNumber 2 (Text.trimLeft cs)
  if low ≤ n ∧ n ≤ high then some (n, rest) else none

def readMark (mark : Char) (cs : List Char) : Option (List Char) :=
  match Text.trimLeft cs with
  | c :: rest => if c = mark then some rest else none
  | [] => none

/-- A year: up to four digits, or any number of them behind a sign. -/
def readYear (cs : List Char) : Option (Int × List Char) :=
  match Text.trimLeft cs with
  | '-' :: rest => (readNumber rest.length rest).map fun (n, after) => (-(n : Int), after)
  | '+' :: rest => (readNumber rest.length rest).map fun (n, after) => ((n : Int), after)
  | rest => (readNumber 4 rest).map fun (n, after) => ((n : Int), after)

def readDate (cs : List Char) : Option (Date × List Char) := do
  let (year, cs) ← readYear cs
  let (month, cs) ← readField 1 12 (← readMark '-' cs)
  let (day, cs) ← readField 1 31 (← readMark '-' cs)
  some (⟨year, month, day⟩, cs)

/-- Nanoseconds from the digits of a fraction; those beyond the ninth do not count. -/
def fractionOf (ds : List Nat) : Nat :=
  Numeral.value 10 ((ds ++ List.replicate 9 0).take 9)

def readFraction : List Char → Option (Nat × List Char)
  | '.' :: rest =>
    match takeDigits rest.length rest with
    | ([], _) => none
    | (ds, after) => some (fractionOf ds, after)
  | cs => some (0, cs)

/-- Seconds into the day, and nanoseconds. -/
def readTime (cs : List Char) : Option ((Nat × Nat) × List Char) := do
  let (hour, cs) ← readField 0 23 cs
  let (minute, cs) ← readField 0 59 (← readMark ':' cs)
  let (second, cs) ← readField 0 60 (← readMark ':' cs)
  let (nanos, cs) ← readFraction cs
  let whole := hour * 3600 + minute * 60
  if second = 60 then some ((whole + 59, nanos + 1000000000), cs)
  else some ((whole + second, nanos), cs)

/-- Exactly two digits, the first of them at most `top`. -/
def readPair (top : Nat) : List Char → Option (Nat × List Char)
  | a :: b :: rest => do
    let x ← Numeral.decimalValue? a
    let y ← Numeral.decimalValue? b
    if x ≤ top then some (x * 10 + y, rest) else none
  | _ => none

/-- Hours and minutes, with colons or blanks between them; both have two digits. -/
def readOffsetBody (cs : List Char) : Option (Nat × List Char) := do
  let (hours, cs) ← readPair 9 cs
  let (minutes, cs) ← readPair 5 (cs.dropWhile fun c => c = ':' || Text.isBlank c)
  some (hours * 3600 + minutes * 60, cs)

/-- Seconds east of UTC. -/
def readOffset (cs : List Char) : Option (Int × List Char) :=
  match cs with
  | 'Z' :: rest => some (0, rest)
  | 'z' :: rest => some (0, rest)
  | '+' :: rest => (readOffsetBody rest).map fun (n, after) => ((n : Int), after)
  | '-' :: rest => (readOffsetBody rest).map fun (n, after) => (-(n : Int), after)
  | c :: rest =>
    if c.toNat = 0x2212 then (readOffsetBody rest).map fun (n, after) => (-(n : Int), after)
    else if (cs.take 3).map Char.toUpper = ['U', 'T', 'C'] then some (0, cs.drop 3)
    else none
  | [] => none

/-- The instant of a local date and time, if the calendar has it in UTC. -/
def ofLocal? (date : Date) (time nanos : Nat) (offset : Int) : Option Instant :=
  let seconds := Calendar.dayNumber date * 86400 + time - offset
  let year := (Calendar.ofDayNumber (seconds / 86400)).year
  if Calendar.Valid date ∧ minYear ≤ date.year ∧ date.year ≤ maxYear ∧
      -86400 < offset ∧ offset < 86400 ∧ minYear ≤ year ∧ year ≤ maxYear then
    some ⟨seconds, nanos⟩
  else none

/-- Whether a character may stand between date and time. -/
def separates (c : Char) : Bool := c = 'T' || c = 't' || c = ' '

def readChars? (cs : List Char) : Option Instant := do
  let (date, cs) ← readDate cs
  match cs with
  | [] => none
  | c :: rest =>
    if separates c then do
      let ((time, nanos), cs) ← readTime rest
      let (offset, cs) ← readOffset (Text.trimLeft cs)
      if (Text.trimLeft cs).isEmpty then ofLocal? date time nanos offset else none
    else none

def read? (s : String) : Option Instant := readChars? s.toList

end Instant

end StarWatch
