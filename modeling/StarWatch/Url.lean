import StarWatch.Text.Folded
import StarWatch.Text.Utf8

/-!
# Web addresses

Where a plain HTTP address leads: to a host and a TCP number. Tabs and line
breaks in an address do not count, nor does a user in front of the host. A host
is read in its folded form, with its percent signs decoded; one whose last part
is a number has to be an IPv4 address, the parts of which may be hexadecimal or
octal, and the last of which may stand for several bytes.
-/

namespace StarWatch

/-- A name, or an IPv4 address as a number below 2^32. -/
inductive Host where
  | address (number : Nat)
  | name (chars : List Char)
deriving DecidableEq

structure Origin where
  host : Host
  tcpPort : Nat
deriving DecidableEq

namespace Host

def loopback : Nat := 0x7F000001

/-- The address of a host that is known without a network. -/
def known? : Host → Option Nat
  | address number => some number
  | name chars => if chars = "localhost".toList then some loopback else none

def octalValue? (c : Char) : Option Nat :=
  (Numeral.decimalValue? c).filter (· < 8)

/-- A part of an address: hexadecimal behind `0x`, octal behind another zero, else decimal. -/
def number? : List Char → Option Nat
  | [] => none
  | ['0', 'x'] => some 0
  | '0' :: 'x' :: digits => Numeral.ofHexChars? digits
  | '0' :: digit :: digits => ((digit :: digits).mapM octalValue?).map (Numeral.value 8)
  | digits => Numeral.ofDecimalChars? digits

/-- Joins the parts of an address that has so many bytes; each part takes at least one. -/
def join : Nat → List Nat → Option Nat
  | bytes + 1, [n] => if n < 256 ^ (bytes + 1) then some n else none
  | bytes + 1, n :: rest =>
    if n < 256 then (join bytes rest).map fun tail => n * 256 ^ bytes + tail else none
  | _, _ => none

/-- The parts of a name; a full stop at the end divides nothing. -/
def parts (name : List Char) : List (List Char) :=
  let parts := name.splitOn '.'
  if 1 < parts.length && parts.getLast? = some [] then parts.dropLast else parts

def isNumber (part : List Char) : Bool :=
  (Numeral.ofDecimalChars? part).isSome && !part.isEmpty || (number? part).isSome

def isForbidden (c : Char) : Bool :=
  c.toNat ≤ 0x20 || c = Utf8.replacement ||
    [0x23, 0x25, 0x2F, 0x3A, 0x3C, 0x3E, 0x3F, 0x40, 0x5B, 0x5C, 0x5D, 0x5E, 0x7C,
      0x7F].contains c.toNat

def percentDecode : Bytes → Bytes
  | [] => []
  | 0x25 :: a :: b :: rest =>
    match Bytes.digit? a, Bytes.digit? b with
    | some x, some y => UInt8.ofNat (x * 16 + y) :: percentDecode rest
    | _, _ => 0x25 :: percentDecode (a :: b :: rest)
  | b :: rest => b :: percentDecode rest

/-- Reads a host as it stands in an address. -/
def read? (cs : List Char) : Option Host :=
  let name := Text.fold (Utf8.decode (percentDecode (Utf8.encode cs)))
  if name.isEmpty || name.any isForbidden then none
  else if ((parts name).getLast?.map isNumber).getD false then
    (((parts name).mapM number?).bind (join 4)).map Host.address
  else some (.name name)

end Host

namespace Origin

def isIgnored (c : Char) : Bool := c = '\t' || c = '\n' || c = '\r'

def isSlash (c : Char) : Bool := c = '/' || c = '\\'

def endsAuthority (c : Char) : Bool := isSlash c || c = '?' || c = '#'

/-- Drops what stands before the last `@`: the user's name. -/
def dropUser (authority : List Char) : List Char :=
  if authority.contains '@' then (authority.reverse.takeWhile (· != '@')).reverse else authority

/-- The TCP number behind a host; plain HTTP has one of its own. -/
def tcpPort? : List Char → Option Nat
  | [] => some 80
  | ':' :: [] => some 80
  | ':' :: digits => (Numeral.ofDecimalChars? digits).filter (· < 65536)
  | _ => none

def ofAuthority? (authority : List Char) : Option Origin := do
  let place := dropUser authority
  let host := place.takeWhile (· != ':')
  return { host := ← Host.read? host, tcpPort := ← tcpPort? (place.drop host.length) }

/-- The origin that a plain HTTP address leads to, if it is one. -/
def ofUrl? (url : String) : Option Origin :=
  let cs := url.toList.filter fun c => !isIgnored c
  let scheme := "http:".toList
  if scheme.isPrefixOf cs then
    let rest := (cs.drop scheme.length).dropWhile isSlash
    ofAuthority? (rest.takeWhile fun c => !endsAuthority c)
  else none

end Origin

end StarWatch
