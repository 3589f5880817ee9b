import StarWatch.Json
import StarWatch.Numeral

/-!
# JSON text, read

The reader takes exactly the grammar of RFC 8259. It works on lists of
characters; each function returns what it read and the rest. Every call of
`readValue` and of the two list readers either consumes a character or is
followed by one that does, so twice the length of the text is fuel enough.
-/

namespace StarWatch.Json

def isSpace (c : Char) : Bool := c = ' ' || c = '\t' || c = '\n' || c = '\r'

def skip (cs : List Char) : List Char := cs.dropWhile isSpace

def unit? (a b c d : Char) : Option Nat := Numeral.ofHexChars? [a, b, c, d]

/-- The character of two halves of a surrogate pair. -/
def pair? (high low : Nat) : Option Char :=
  if 0xD800 ≤ high ∧ high < 0xDC00 ∧ 0xDC00 ≤ low ∧ low < 0xE000 then
    some (Char.ofNat (0x10000 + (high - 0xD800) * 0x400 + (low - 0xDC00)))
  else none

def shortEscape? (c : Char) : Option Char :=
  match c with
  | '"' => some '"'
  | '\\' => some '\\'
  | '/' => some '/'
  | 'b' => some (Char.ofNat 0x08)
  | 'f' => some (Char.ofNat 0x0C)
  | 'n' => some '\n'
  | 'r' => some '\r'
  | 't' => some '\t'
  | _ => none

/-- Reads a character written as an escape, behind its backslash. -/
def readEscape : List Char → Option (Char × List Char)
  | 'u' :: a :: b :: c :: d :: rest =>
    match unit? a b c d with
    | none => none
    | some n =>
      if n < 0xD800 ∨ 0xE000 ≤ n then some (Char.ofNat n, rest)
      else match rest with
        | '\\' :: 'u' :: e :: f :: g :: h :: rest =>
          (unit? e f g h).bind fun m => (pair? n m).map fun ch => (ch, rest)
        | _ => none
  | c :: rest => (shortEscape? c).map fun ch => (ch, rest)
  | [] => none

/-- Reads a string to its closing quote; `acc` holds the characters before, last first. -/
def readTextOnto (fuel : Nat) (acc : List Char) (cs : List Char) :
    Option (List Char × List Char) :=
  match fuel, cs with
  | 0, _ => none
  | _, [] => none
  | fuel + 1, c :: rest =>
    if c = '"' then some (acc.reverse, rest)
    else if c = '\\' then
      match readEscape rest with
      | none => none
      | some (ch, rest) => readTextOnto fuel (ch :: acc) rest
    else if c.toNat < 0x20 then none
    else readTextOnto fuel (c :: acc) rest

def readText (fuel : Nat) (cs : List Char) : Option (String × List Char) :=
  (readTextOnto fuel [] cs).map fun (s, rest) => (String.ofList s, rest)

def isDigit (c : Char) : Bool := '0' ≤ c && c ≤ '9'

/-- The digits of an integer part: no zero in front of others. -/
def integerPart? (cs : List Char) : Option (List Char × List Char) :=
  match cs.takeWhile isDigit with
  | [] => none
  | '0' :: _ :: _ => none
  | ds => some (ds, cs.dropWhile isDigit)

/-- A point and digits, or nothing. -/
def fractionPart? (cs : List Char) : Option (List Char × List Char) :=
  match cs with
  | '.' :: rest =>
    match rest.takeWhile isDigit with
    | [] => none
    | ds => some ('.' :: ds, rest.dropWhile isDigit)
  | cs => some ([], cs)

/-- An exponent, or nothing. -/
def exponentPart? (cs : List Char) : Option (List Char × List Char) :=
  match cs with
  | e :: rest =>
    if e = 'e' ∨ e = 'E' then
      let (sign, rest) := match rest with
        | '+' :: rest => (['+'], rest)
        | '-' :: rest => (['-'], rest)
        | rest => ([], rest)
      match rest.takeWhile isDigit with
      | [] => none
      | ds => some (e :: sign ++ ds, rest.dropWhile isDigit)
    else some ([], cs)
  | [] => some ([], cs)

/-- Reads a number. One with a fraction or an exponent, and the negative zero, stays a literal. -/
def readNumber (cs : List Char) : Option (Json × List Char) := do
  let (negative, cs) := match cs with
    | '-' :: rest => (true, rest)
    | cs => (false, cs)
  let (whole, cs) ← integerPart? cs
  let (fraction, cs) ← fractionPart? cs
  let (exponent, cs) ← exponentPart? cs
  let n ← Numeral.ofDecimalChars? whole
  if fraction.isEmpty && exponent.isEmpty && !(negative && n == 0) then
    some (.integer (if negative then -(n : Int) else n), cs)
  else
    let sign := if negative then ['-'] else []
    some (.literal (String.ofList (sign ++ whole ++ fraction ++ exponent)), cs)

mutual

/-- Reads one value, which may follow blanks. -/
def readValue (fuel : Nat) (cs : List Char) : Option (Json × List Char) :=
  match fuel with
  | 0 => none
  | fuel + 1 =>
    match skip cs with
    | '{' :: rest =>
      match skip rest with
      | '}' :: rest => some (.object [], rest)
      | rest => readFields fuel [] rest
    | '[' :: rest =>
      match skip rest with
      | ']' :: rest => some (.array [], rest)
      | rest => readItems fuel [] rest
    | '"' :: rest => (readText fuel rest).map fun (s, rest) => (.text s, rest)
    | 'n' :: 'u' :: 'l' :: 'l' :: rest => some (.null, rest)
    | 't' :: 'r' :: 'u' :: 'e' :: rest => some (.bool true, rest)
    | 'f' :: 'a' :: 'l' :: 's' :: 'e' :: rest => some (.bool false, rest)
    | cs => readNumber cs

/-- Reads items to the closing bracket; `acc` holds those before, last first. -/
def readItems (fuel : Nat) (acc : List Json) (cs : List Char) : Option (Json × List Char) :=
  match fuel with
  | 0 => none
  | fuel + 1 =>
    match readValue fuel cs with
    | none => none
    | some (item, rest) =>
      match skip rest with
      | ',' :: rest => readItems fuel (item :: acc) rest
      | ']' :: rest => some (.array (item :: acc).reverse, rest)
      | _ => none

/-- Reads fields to the closing brace; `acc` holds those before, last first. -/
def readFields (fuel : Nat) (acc : List (String × Json)) (cs : List Char) :
    Option (Json × List Char) :=
  match fuel with
  | 0 => none
  | fuel + 1 =>
    match skip cs with
    | '"' :: rest =>
      match readText fuel rest with
      | none => none
      | some (name, rest) =>
        match skip rest with
        | ':' :: rest =>
          match readValue fuel rest with
          | none => none
          | some (value, rest) =>
            match skip rest with
            | ',' :: rest => readFields fuel ((name, value) :: acc) rest
            | '}' :: rest => some (.object ((name, value) :: acc).reverse, rest)
            | _ => none
        | _ => none
    | _ => none

end

def readChars? (cs : List Char) : Option Json :=
  match readValue (2 * cs.length + 2) cs with
  | some (j, rest) => if (skip rest).isEmpty then some j else none
  | none => none

def read? (s : String) : Option Json := readChars? s.toList

end StarWatch.Json
