import StarWatch.Numeral
import StarWatch.Text.Printable

/-!
# Quoted text

Text as complaints quote it: between two marks, with a backslash in front of a
mark or a backslash inside. Line breaks, tabs and zeros have short spellings,
and what is not printable is spelled by its code point.
-/

namespace StarWatch.Text

def spellQuoted (mark c : Char) : List Char :=
  if c = mark || c = '\\' then ['\\', c]
  else if c = '\n' then ['\\', 'n']
  else if c = '\r' then ['\\', 'r']
  else if c = '\t' then ['\\', 't']
  else if c.toNat = 0 then ['\\', '0']
  else if isPrintable c then [c]
  else ['\\', 'u', Char.ofNat 0x7B] ++ Numeral.hexChars c.toNat ++ [Char.ofNat 0x7D]

/-- A text between two marks. -/
def quoted (mark : Char) (cs : List Char) : List Char :=
  mark :: cs.flatMap (spellQuoted mark) ++ [mark]

end StarWatch.Text
