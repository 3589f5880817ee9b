import StarWatch.Api
import StarWatch.Endpoint
import StarWatch.Reactor
import StarWatch.Rpc
import StarWatch.Telemetry.LogFile

/-!
# Sessions

A whole run of the watcher, from its environment to its exit: telemetry,
settings, connection, subscriptions, and the reactor's loop up to the point
where it sleeps or waits for the next notification. Whatever stops it is a
`Fault`, which says what was being done and why that failed.
-/

namespace StarWatch

inductive Fault where
  | telemetry (e : TelemetryError)
  | settings (e : SettingError)
  | connection (e : LedgerError)
  | subscription (e : PipelineError)
  | stopped (e : PipelineError)
deriving DecidableEq

namespace Fault

def context : Fault → String
  | telemetry _ => "Failed to initialize telemetry"
  | settings _ => "Invalid listener configuration"
  | connection _ => "Failed to connect to the ledger"
  | subscription _ => "Failed to subscribe to contract events"
  | stopped _ => "Listener stopped"

def cause : Fault → String
  | telemetry e => e.message
  | settings e => e.message
  | connection e => e.message
  | subscription e => e.message
  | stopped e => e.message

def indent (text : String) : String :=
  let margin := List.replicate 4 ' '
  String.ofList (margin ++ text.toList.flatMap fun c => if c = '\n' then c :: margin else [c])

def report (f : Fault) : String :=
  "Error: " ++ f.context ++ "\n\nCaused by:\n" ++ indent f.cause

end Fault

namespace Session

inductive Message where
  | rpc (call : Rpc.Call)
  | http (request : HttpRequest)

/-- What is behind the watcher's addresses. The node may push a live log on one subscription, and
may hang up behind the last. -/
structure Peers where
  provider : Provider
  api : Option HttpPeer
  push : Option (EventKind × ProviderLog)
  hangsUp : Bool

/-- A run: the messages sent, in order, and what stopped it, unless it is still at work. -/
structure Transcript where
  messages : List Message
  fault : Option Fault

/-- The exit code of a run that is interrupted where nothing stopped it before. -/
def Transcript.exitCode (t : Transcript) : Nat := if t.fault.isSome then 1 else 0

def Transcript.report (t : Transcript) : String := (t.fault.map Fault.report).getD ""

/-- Sets up the telemetry: first the level filter, then the log file. -/
def openTelemetry (tree : FileTree) (env : Environment) : Except TelemetryError FileTree := do
  let settings := TelemetrySettings.ofEnvironment env
  let _ ← LevelFilter.choose (env "RUST_LOG") settings.levels
  match settings.directory with
  | none => return tree
  | some directory => return (← LogFile.openIn tree directory).tree

/-- Why there is no connection where no node listens. -/
def unreachable (endpoint : String) : LedgerError :=
  match Endpoint.check endpoint with
  | .error e => .connection ("HTTP format error: " ++ e.message)
  | .ok _ => .connection "IO error: Connection refused (os error 111)"

/-- All that comes before the first message: telemetry and settings. -/
def prepare (tree : FileTree) (env : Environment) : Except Fault ListenerSettings := do
  let _ ← (openTelemetry tree env).mapError Fault.telemetry
  (ListenerSettings.ofEnvironment env).mapError Fault.settings

/-- The kinds up to the first whose subscription the node does not accept, and that one. -/
def asked (provider : Provider) : List EventKind → List EventKind
  | [] => []
  | kind :: rest =>
    match (provider.subscription kind).result? with
    | .ok _ => kind :: asked provider rest
    | .error _ => [kind]

def offer (kind : EventKind) (n : Notification) (s : Stream) : Stream :=
  if s.kind = kind then (s.send? n).getD s else s

/-- The streams after the live log, and after the node closed the connection. -/
def feed (peers : Peers) (streams : List Stream) : List Stream :=
  let pushed := match peers.push with
    | none => streams
    | some (kind, log) =>
      match log.notification? with
      | none => streams
      | some n => streams.map (offer kind n)
  if peers.hangsUp then pushed.map Stream.close else pushed

/-- The message of a request, if it leads to one. -/
def messageOf? (settings : ListenerSettings) (api : Option HttpPeer) : Request → Option Message
  | .call notice => (settings.api.send api notice).request.map Message.http
  | request => (Rpc.ofRequest? request).map Message.rpc

/-- Steps until the reactor sleeps, waits or fails. -/
def serve (settings : Settings) (answers : Answers) : Nat → Reactor →
    List Request × Option PipelineError
  | 0, _ => ([], none)
  | fuel + 1, r =>
    let turn := r.step settings answers
    match turn.outcome with
    | .failed e => (turn.requests, some e)
    | .waiting => (turn.requests, none)
    | .done step =>
      if 0 < step.sleep settings then (turn.requests, none)
      else
        let (requests, e) := serve settings answers fuel turn.reactor
        (turn.requests ++ requests, e)

/-- The run of a connected watcher. A step that does not sleep takes a buffered notification,
so there is one more step than there are notifications. -/
def operate (settings : ListenerSettings) (peers : Peers) : Transcript :=
  let pipeline := settings.pipeline
  let subscribed := (asked peers.provider EventKind.all).map fun kind =>
    Message.rpc (Rpc.subscribe settings.contract kind)
  match Reactor.start.subscribeAll pipeline (peers.provider.openStream settings.buffer) with
  | (.error e, _) => { messages := subscribed, fault := some (.subscription e) }
  | (.ok _, reactor) =>
    let reactor := { reactor with streams := feed peers reactor.streams }
    let call (_ : Nat) (notice : Notice) := (settings.api.send peers.api notice).result
    let answers := peers.provider.answers call
    let (requests, e) := serve pipeline answers (Stream.buffered reactor.streams + 1) reactor
    { messages := subscribed ++ requests.filterMap (messageOf? settings peers.api)
      fault := e.map Fault.stopped }

/-- A run; without peers nothing is reachable. -/
def run (tree : FileTree) (env : Environment) (peers : Option Peers) : Transcript :=
  match prepare tree env with
  | .error fault => { messages := [], fault := some fault }
  | .ok settings =>
    match peers with
    | none => { messages := [], fault := some (.connection (unreachable settings.endpoint)) }
    | some peers => operate settings peers

/-- The transcript of a run that is interrupted after some messages. -/
def Transcript.cut (t : Transcript) (count : Nat) : Transcript :=
  if count < t.messages.length then { messages := t.messages.take count, fault := none } else t

end Session

end StarWatch
