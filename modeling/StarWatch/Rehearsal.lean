import StarWatch.Reactor

/-!
# Rehearsals

A reactor over a scripted chain. The script sets the head of the chain, the
logs that queries see, the times of blocks and which requests fail; live
notifications are pushed by hand. Every request is recorded, and time passes
only where a step sleeps or waits. No sleep is longer than thirty years.
-/

namespace StarWatch

/-- A chain that answers from a script. A log without a payload cannot be decoded, and of the times
set for a block the latest setting counts. -/
structure Chain where
  height : Word
  logs : List (Log × Option Payload)
  timestamps : List (Word × UInt64)
  heightFails : Bool
  logsFail : Bool
  blocksFail : Bool
  subscribeFails : Bool
  callsFail : Bool

namespace Chain

def start : Chain :=
  { height := 0, logs := [], timestamps := [], heightFails := false, logsFail := false,
    blocksFail := false, subscribeFails := false, callsFail := false }

def genesisTime : UInt64 := 1600000000

def blockTime : UInt64 := 12

def streamCapacity : Nat := 64

def failure : String := "Mock failure"

def timestamp (c : Chain) (height : Word) : UInt64 :=
  match c.timestamps.lookup height with
  | some t => t
  | none => genesisTime + height.low64 * blockTime

/-- The header of a block up to the head; its hash shows the low half of its number's low half. -/
def block (c : Chain) (height : Word) : Except LedgerError Block :=
  if c.blocksFail then .error (.query failure)
  else if c.height.toNat < height.toNat then .error (.blockNotFound height)
  else .ok {
    number := height
    hash := ⟨BitVec.ofNat 256 height.low64.toNat⟩
    timestamp := c.timestamp height }

def logsFrom (c : Chain) (contract : Address) (fromBlock : Word) : Except LedgerError (List Log) :=
  if c.logsFail then .error (.query failure)
  else .ok ((c.logs.map Prod.fst).filter fun log =>
    log.address = contract && fromBlock.toNat ≤ log.block.toNat)

/-- A log is decoded as the first visible one that equals it. -/
def payload (c : Chain) (log : Log) : Except LedgerError Payload :=
  match (c.logs.find? fun entry => entry.1 = log).bind Prod.snd with
  | some p => .ok p
  | none => .error (.decode "Mock undecodable log")

def answers (c : Chain) : Answers where
  height := if c.heightFails then .error (.connection failure) else .ok c.height
  logs := c.logsFrom
  payload := c.payload
  block := fun _ height => c.block height
  call := fun _ notice =>
    if c.callsFail then .error (.status notice.kind.label 500) else .ok ()

def openStream (c : Chain) (kind : EventKind) : Except LedgerError Stream :=
  if c.subscribeFails then .error (.subscription kind failure)
  else .ok (Stream.start kind streamCapacity)

end Chain

structure Rehearsal where
  settings : Settings
  chain : Chain
  reactor : Reactor
  requests : Array Request

namespace Rehearsal

def longestSleep : Nat := 30 * 365 * 86400

def start (settings : Settings) : Rehearsal where
  settings := { settings with pollSeconds := min settings.pollSeconds longestSleep }
  chain := .start
  reactor := .start
  requests := #[]

def calls (r : Rehearsal) : List Notice := callsOf r.requests.toList

def queries (r : Rehearsal) : List Word :=
  r.requests.toList.filterMap fun
    | .logs _ fromBlock => some fromBlock
    | _ => none

/-- Opens the streams. The chain then feeds only the new ones, and those before are closed. -/
def subscribeAll (r : Rehearsal) : Except PipelineError Unit × Rehearsal :=
  let old := r.reactor.streams.length
  let (result, reactor) := r.reactor.subscribeAll r.settings r.chain.openStream
  if reactor.streams.length = old then (result, { r with reactor })
  else
    let streams := (reactor.streams.take old).map Stream.close ++ reactor.streams.drop old
    (result, { r with reactor := { reactor with streams } })

/-- Offers a notification to the first open stream of its kind; false where none takes it. -/
def offer (n : Notification) : List Stream → Bool × List Stream
  | [] => (false, [])
  | s :: rest =>
    if s.kind = n.payload.kind ∧ 0 < s.senders then
      match s.send? n with
      | some s' => (true, s' :: rest)
      | none => (false, s :: rest)
    else
      let (sent, rest') := offer n rest
      (sent, s :: rest')

def push (r : Rehearsal) (n : Notification) : Bool × Rehearsal :=
  let (sent, streams) := offer n r.reactor.streams
  (sent, { r with reactor := { r.reactor with streams } })

/-- Drops the chain's end of the streams of a kind. -/
def close (r : Rehearsal) (kind : EventKind) : Rehearsal :=
  let streams := r.reactor.streams.map fun s => if s.kind = kind then s.close else s
  { r with reactor := { r.reactor with streams } }

/-- Makes a log visible to queries. -/
def addLog (r : Rehearsal) (log : Log) (payload : Option Payload) : Rehearsal :=
  { r with chain := { r.chain with logs := r.chain.logs ++ [(log, payload)] } }

/-- Queues the event of a notification directly; false where it has none. -/
def insert (r : Rehearsal) (n : Notification) : Bool × Rehearsal :=
  match PendingEvent.ofNotification? n with
  | none => (false, r)
  | some event =>
    (true, { r with reactor := { r.reactor with queue := r.reactor.queue.insert event } })

/-- What a turn leaves behind. -/
def record (r : Rehearsal) (turn : Turn) : Rehearsal :=
  { r with reactor := turn.reactor, requests := r.requests ++ turn.requests }

/-- A scan beside the reactor, on its queue. -/
def scanAt (r : Rehearsal) (latest : Word) : Except PipelineError ScanReport × Rehearsal :=
  let outcome := scan r.settings r.chain.answers latest r.reactor.queue r.reactor.metrics
  (outcome.result,
    { r with
      reactor := { r.reactor with queue := outcome.pass.queue, metrics := outcome.pass.metrics }
      requests := r.requests ++ outcome.pass.requests })

/-- Sends one event beside the reactor. -/
def dispatch (r : Rehearsal) (event : PendingEvent) : Option Notice × Rehearsal :=
  match event.notice? with
  | none => (none, r)
  | some notice =>
    let metrics := Scan.countCall r.reactor.metrics event.kind (r.chain.answers.call 0 notice)
    (some notice,
      { r with
        reactor := { r.reactor with metrics }
        requests := r.requests.push (Request.call notice) })

/-- Seconds after which a step that waits is given up, besides the delay between two scans. -/
def patience : Nat := 100000

/-- The end of a timed operation: what came of it, after how many seconds. -/
structure Timed (α : Type) where
  result : α
  seconds : Nat
  rehearsal : Rehearsal

def turnSeconds (r : Rehearsal) : Outcome → Nat
  | .done step => step.sleep r.settings
  | .failed _ => 0
  | .waiting => patience + r.settings.pollSeconds

def step (r : Rehearsal) : Timed Outcome :=
  let turn := r.reactor.step r.settings r.chain.answers
  { result := turn.outcome, seconds := r.turnSeconds turn.outcome, rehearsal := r.record turn }

/-- Pushes and closings that happen at one moment. -/
def stir (r : Rehearsal) (pushes : List Notification) (closes : List EventKind) : Rehearsal :=
  closes.foldl close (pushes.foldl (fun r n => (r.push n).2) r)

/-- One step, while after some seconds the pushes and closings happen; over when both are. A step
that waits is given up before what happens at the same moment. -/
def stepWait (r : Rehearsal) (after : Nat) (pushes : List Notification)
    (closes : List EventKind) : Timed Outcome :=
  let turn := r.reactor.step r.settings r.chain.answers
  let stirred := (r.record turn).stir pushes closes
  let limit := r.turnSeconds .waiting
  if turn.outcome = .waiting ∧ after < limit then
    let woken := stirred.reactor.wake
    let seconds := if woken.outcome = .waiting then limit else after
    { result := woken.outcome, seconds, rehearsal := stirred.record woken }
  else
    { result := turn.outcome
      seconds := max after (r.turnSeconds turn.outcome)
      rehearsal := stirred }

/-- Steps until one fails or the seconds are used up; `elapsed` are used up already. -/
def runFor (limit : Nat) : Nat → Nat → Rehearsal → Timed (Option PipelineError)
  | 0, _, r => { result := none, seconds := limit, rehearsal := r }
  | fuel + 1, elapsed, r =>
    let turn := r.reactor.step r.settings r.chain.answers
    let next := r.record turn
    match turn.outcome with
    | .failed e => { result := some e, seconds := elapsed, rehearsal := next }
    | .waiting => { result := none, seconds := limit, rehearsal := next }
    | .done step =>
      let later := elapsed + step.sleep r.settings
      if limit < later then { result := none, seconds := limit, rehearsal := next }
      else runFor limit fuel later next

/-- Runs the loop for some seconds; without a stream it does not start. Each step either takes
a buffered notification or sleeps. -/
def run (r : Rehearsal) (seconds : Nat) : Timed (Option PipelineError) :=
  if r.reactor.streams.isEmpty then
    { result := some .notSubscribed, seconds := 0, rehearsal := r }
  else runFor seconds (Stream.buffered r.reactor.streams + seconds + 1) 0 r

end Rehearsal

end StarWatch
