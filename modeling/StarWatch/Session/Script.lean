import StarWatch.Session

/-!
# Recorded peers

A script says in JSON what the peers of a session answer, so that a run can be
repeated without a network. Its fields may all be absent: `height`, `logs` and
`block` are the node's results, `refuse` is the number of the subscription that
it does not accept, `push` a live log with the kind of its subscription,
`hangup` closes the connection, `status` is the answer of the downstream
interface, and `stop_after` interrupts the run behind so many messages.
-/

namespace StarWatch

namespace Rpc

def Call.toJson (c : Call) : Json := .object [("method", .text c.method), ("params", c.params)]

end Rpc

def HttpRequest.toJson (r : HttpRequest) : Json :=
  .object
    [("method", .text r.method.name), ("path", .text r.path),
     ("content_type", .text r.contentType), ("body", .text r.body)]

namespace Session

def Message.toJson : Message → Json
  | rpc call => call.toJson
  | http request => request.toJson

structure Script where
  peers : Peers
  stopAfter : Option Nat

namespace Script

/-- The result in a field, null where it is absent. -/
def replyIn {α : Type} (j : Json) (name : String) (read : Json.Reading α) : Reply α :=
  Rpc.replyOf read ((j.field? name).getD .null)

/-- The kind of the subscription with a number, counted from one. -/
def kindNumbered? (number : Nat) : Option EventKind :=
  if number = 0 then none else EventKind.all[number - 1]?

/-- Accepts every subscription but one. -/
def subscription (refused : Option EventKind) (kind : EventKind) : Reply Word :=
  if refused = some kind then .failure (-32601) "refused" else .result 0

def number? (j : Json) (name : String) : Option Nat := (j.field? name).bind (Json.nat? UInt64.size)

def push? (j : Json) : Option (EventKind × ProviderLog) := do
  let push ← j.field? "push"
  let kind ← (push.field? "event_type").bind EventKind.ofJson?
  let log ← (push.field? "log").bind Rpc.log?
  return (kind, log)

/-- What the downstream interface does; zero stands for hanging up. -/
def reception (j : Json) : Reception :=
  match (number? j "status").getD 200 with
  | 0 => .hangUp
  | code => .status code

def provider (j : Json) : Provider where
  subscription := subscription ((number? j "refuse").bind kindNumbered?)
  height := replyIn j "height" Rpc.readQuantity
  logs := fun _ _ => replyIn j "logs" Rpc.readLogs
  block := fun _ _ => replyIn j "block" Rpc.readBlock

/-- The script in a JSON value; the downstream interface listens on a TCP number of the
watcher's machine. -/
def ofJson (tcpPort : Nat) (j : Json) : Script where
  peers := {
    provider := provider j
    api := some (HttpPeer.onLoopback tcpPort (reception j))
    push := push? j
    hangsUp := ((j.field? "hangup").bind Json.bool?).getD false }
  stopAfter := number? j "stop_after"

def run (s : Script) (tree : FileTree) (env : Environment) : Transcript :=
  let transcript := Session.run tree env (some s.peers)
  match s.stopAfter with
  | some count => transcript.cut count
  | none => transcript

end Script

end Session

end StarWatch
