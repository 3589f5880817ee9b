import StarWatch.Json
import StarWatch.Numeral

/-!
# JSON text, written

The compact form: no blanks, fields in their order. In a string the quote, the
backslash and the control characters below U+0020 are escaped, and nothing else.
-/

namespace StarWatch.Json

def escape (c : Char) : List Char :=
  if c = '"' then ['\\', '"']
  else if c = '\\' then ['\\', '\\']
  else if c.toNat = 0x08 then ['\\', 'b']
  else if c.toNat = 0x09 then ['\\', 't']
  else if c.toNat = 0x0A then ['\\', 'n']
  else if c.toNat = 0x0C then ['\\', 'f']
  else if c.toNat = 0x0D then ['\\', 'r']
  else if c.toNat < 0x20 then '\\' :: 'u' :: Numeral.hexPadded 4 c.toNat
  else [c]

def writeText (s : String) : List Char := '"' :: s.toList.flatMap escape ++ ['"']

def writeInt (n : Int) : List Char :=
  if n < 0 then '-' :: Numeral.decimalChars n.natAbs else Numeral.decimalChars n.natAbs

mutual

def write : Json → List Char
  | null => ['n', 'u', 'l', 'l']
  | bool true => ['t', 'r', 'u', 'e']
  | bool false => ['f', 'a', 'l', 's', 'e']
  | integer n => writeInt n
  | literal numeral => numeral.toList
  | text s => writeText s
  | array [] => ['[', ']']
  | array (item :: rest) => '[' :: write item ++ writeItems rest
  | object [] => ['{', '}']
  | object ((name, value) :: rest) =>
    '{' :: writeText name ++ ':' :: write value ++ writeFields rest

/-- The items after the first one, and the closing bracket. -/
def writeItems : List Json → List Char
  | [] => [']']
  | item :: rest => ',' :: write item ++ writeItems rest

/-- The fields after the first one, and the closing brace. -/
def writeFields : List (String × Json) → List Char
  | [] => ['}']
  | (name, value) :: rest => ',' :: writeText name ++ ':' :: write value ++ writeFields rest

end

def compact (j : Json) : String := String.ofList (write j)

end StarWatch.Json
