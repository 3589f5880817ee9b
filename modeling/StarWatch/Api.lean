import StarWatch.Listener
import StarWatch.Record
import StarWatch.Url

/-!
# The downstream interface

Each notice is one HTTP request with a JSON body. The kind of the notice
decides method and route. Whatever the interface answers, the request is made
once; the answer only says whether it counts as a failure.
-/

namespace StarWatch

namespace ApiSettings

def dropSlashes (cs : List Char) : List Char := (cs.reverse.dropWhile (· = '/')).reverse

def hasScheme (host : List Char) : Bool :=
  ("http://".toList).isPrefixOf host || ("https://".toList).isPrefixOf host

/-- Scheme and authority; plain HTTP where the host names no scheme. -/
def baseUrl (s : ApiSettings) : String :=
  let host := dropSlashes s.host.toList
  let scheme := if hasScheme host then "" else "http://"
  scheme ++ String.ofList host ++ ":" ++ Numeral.decimal s.tcpPort

def url (s : ApiSettings) (route : String) : String := s.baseUrl ++ "/" ++ route

end ApiSettings

inductive HttpMethod where
  | post
  | put
deriving DecidableEq

def HttpMethod.name : HttpMethod → String
  | post => "POST"
  | put => "PUT"

structure HttpRequest where
  method : HttpMethod
  path : String
  contentType : String
  body : String
deriving DecidableEq

namespace EventKind

/-- Where notices of a kind are sent. -/
def route : EventKind → String
  | create => "create"
  | changeName => "set-name"
  | putForSale => "set-price"
  | removeFromSale => "remove-from-sale"
  | purchase => "purchase"

/-- A new star is posted; all else changes a star. -/
def method : EventKind → HttpMethod
  | create => .post
  | _ => .put

end EventKind

def Notice.request (n : Notice) : HttpRequest where
  method := n.kind.method
  path := "/" ++ n.kind.route
  contentType := "application/json; charset=UTF-8"
  body := n.body

/-- What a peer does with a request that reaches it. -/
inductive Reception where
  | status (code : Nat)
  | hangUp
deriving DecidableEq

/-- A peer that speaks plain HTTP at an IPv4 address. -/
structure HttpPeer where
  address : Nat
  tcpPort : Nat
  reception : Reception
deriving DecidableEq

namespace HttpPeer

/-- A peer on the machine of the watcher. -/
def onLoopback (tcpPort : Nat) (reception : Reception) : HttpPeer :=
  { address := Host.loopback, tcpPort, reception }

/-- Whether a request to a web address reaches the peer. -/
def isReachedBy (p : HttpPeer) (url : String) : Bool :=
  match Origin.ofUrl? url with
  | some origin => origin.host.known? = some p.address && origin.tcpPort = p.tcpPort
  | none => false

end HttpPeer

/-- What came of sending a notice: the request that reached the peer, and how it counts. -/
structure Delivery where
  request : Option HttpRequest
  result : Except NotifyError Unit

def isSuccess (code : Nat) : Bool := 200 ≤ code && code < 300

/-- Whether a number is a status that ends an exchange. Behind an interim status, which starts
with a one, another answer has to follow; only a change of protocols is final. -/
def isFinal (code : Nat) : Bool := code = 101 || (200 ≤ code && code ≤ 999)

/-- How an answer counts. -/
def Reception.result (route : String) : Reception → Except NotifyError Unit
  | status code =>
    if isSuccess code then .ok ()
    else if isFinal code then .error (.status route code)
    else .error (.transport route "no final status")
  | hangUp => .error (.transport route "connection closed before message completed")

/-- Sends a notice; without a peer behind its address nothing is sent. -/
def ApiSettings.send (s : ApiSettings) (peer : Option HttpPeer) (n : Notice) : Delivery :=
  let route := n.kind.route
  let refused := NotifyError.transport route "Connection refused (os error 111)"
  match peer.filter fun p => p.isReachedBy (s.url route) with
  | some p => { request := some n.request, result := p.reception.result route }
  | none => { request := none, result := .error refused }

end StarWatch
