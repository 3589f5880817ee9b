import StarWatch.Text.Ranges

/-!
# Websocket endpoints

Behind the scheme of an endpoint come an authority, a path with its query, and
a fragment. `Endpoint.check` says whether these have the form of a URI; what a
fragment holds does not matter. The authority is a host that may have a user in
front of it and a TCP number behind it. Only a user may be written with percent
signs, and colons beyond the one before the number have their place in a user
or between brackets.
-/

namespace StarWatch

inductive EndpointError where
  | character
  | authority
  | form
  | length
deriving DecidableEq

def EndpointError.message : EndpointError → String
  | character => "invalid uri character"
  | authority => "invalid authority"
  | form => "invalid format"
  | length => "uri too long"

namespace Endpoint

/-- Bytes in the longest endpoint. -/
def longest : Nat := 65534

/-- Characters that stand for themselves in an authority. -/
def isAuthorityChar : Char → Bool :=
  Text.isAmong [(0x21, 0x21), (0x24, 0x24), (0x26, 0x2E), (0x30, 0x39), (0x3B, 0x3B),
    (0x3D, 0x3D), (0x41, 0x5A), (0x5F, 0x5F), (0x61, 0x7A), (0x7E, 0x7E)]

def isPathChar : Char → Bool :=
  Text.isAmong [(0x21, 0x22), (0x24, 0x3B), (0x3D, 0x3D), (0x40, 0x5F), (0x61, 0x7E)]

def isQueryChar : Char → Bool :=
  Text.isAmong [(0x21, 0x21), (0x24, 0x3B), (0x3D, 0x3D), (0x3F, 0x7E)]

/-- What is known of an authority from its front: `colons` counts those that may stand before the
TCP number, and `atHost` tells whether the last character ends a user. -/
structure Authority where
  colons : Nat
  opened : Bool
  closed : Bool
  percent : Bool
  atHost : Bool

namespace Authority

def start : Authority :=
  { colons := 0, opened := false, closed := false, percent := false, atHost := false }

/-- Colons of the longest address between brackets. -/
def mostColons : Nat := 8

def step (a : Authority) (c : Char) : Except EndpointError Authority :=
  match c with
  | ':' =>
    if mostColons ≤ a.colons then .error .authority
    else .ok { a with colons := a.colons + 1, atHost := false }
  | '[' =>
    if a.percent || a.opened then .error .authority
    else .ok { a with opened := true, atHost := false }
  | ']' =>
    if !a.opened || a.closed then .error .authority
    else .ok { a with closed := true, colons := 0, percent := false, atHost := false }
  | '@' => .ok { a with colons := 0, percent := false, atHost := true }
  | '%' => .ok { a with percent := true, atHost := false }
  | c => if isAuthorityChar c then .ok { a with atHost := false } else .error .character

/-- Whether an authority may end here. -/
def isComplete (a : Authority) : Bool :=
  a.opened == a.closed && a.colons ≤ 1 && !a.atHost && !a.percent

end Authority

def endsAuthority (c : Char) : Bool := c = '/' || c = '?' || c = '#'

def checkAuthority (cs : List Char) : Except EndpointError Unit := do
  let a ← cs.foldlM Authority.step .start
  if !a.isComplete then throw .authority
  if cs.isEmpty then throw .form

/-- Checks what comes behind the authority, up to a fragment. -/
def checkPath (cs : List Char) : Except EndpointError Unit :=
  let visible := cs.takeWhile (· != '#')
  let path := visible.takeWhile (· != '?')
  let query := visible.drop (path.length + 1)
  if path.all isPathChar && query.all isQueryChar then .ok () else .error .character

/-- Checks the form of an endpoint that starts with its scheme. -/
def check (endpoint : String) : Except EndpointError Unit := do
  if longest < endpoint.utf8ByteSize then throw .length
  let rest := (endpoint.toList.dropWhile (· != '/')).drop 2
  let authority := rest.takeWhile fun c => !endsAuthority c
  checkAuthority authority
  checkPath (rest.drop authority.length)

end Endpoint

end StarWatch
