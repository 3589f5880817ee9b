import StarWatch.Event.Notice
import StarWatch.Metrics
import StarWatch.Queue
import StarWatch.Settings

/-!
# Reconciliation scans

One pass reads the contract's logs from the oldest pending block on and settles
each of them against the queue. `judge` decides on a log; `Pass.settle` carries
the decision out; `scan` runs over the ledger's answer in its order and stops
where the time of a block cannot be had.

An event goes downstream only when a live notification queued it and the scan
finds it deep enough. It is taken out of the queue in the same breath, and the
answer of the downstream interface is only counted.
-/

namespace StarWatch

/-- A request to the ledger, or a call of the downstream interface. -/
inductive Request where
  | height
  | logs (contract : Address) (fromBlock : Word)
  | block (height : Word)
  | call (notice : Notice)
deriving DecidableEq

def Request.notice? : Request → Option Notice
  | call notice => some notice
  | _ => none

/-- The downstream calls among requests, in their order. -/
def callsOf (requests : List Request) : List Notice := requests.filterMap Request.notice?

/-- What the ledger and the downstream interface answer while one step runs. Block lookups and
calls may be answered differently each time; their number within the step tells them apart. -/
structure Answers where
  height : Except LedgerError Word
  logs : Address → Word → Except LedgerError (List Log)
  payload : Log → Except LedgerError Payload
  block : Nat → Word → Except LedgerError Block
  call : Nat → Notice → Except NotifyError Unit

/-- Tally of one pass. Of the logs that the ledger returned, `ignored` have an untracked signature
or a payload of another kind, `pending` lie not deep enough, and `untracked` are confirmed without
an entry in the queue; `purged` counts the entries that removed logs took back. -/
structure ScanReport where
  scanned : Nat
  ignored : Nat
  undecodable : Nat
  purged : Nat
  pending : Nat
  untracked : Nat
  dispatched : Nat
deriving DecidableEq

def ScanReport.start (scanned : Nat) : ScanReport :=
  { scanned, ignored := 0, undecodable := 0, purged := 0, pending := 0, untracked := 0,
    dispatched := 0 }

/-- What a pass does with a log. -/
inductive Verdict where
  | ignored
  | undecodable
  | removed (event : PendingEvent)
  | pending
  | untracked
  | unavailable (block : Word) (cause : PipelineError)
  | confirmed (event : PendingEvent) (time : Instant)
deriving DecidableEq

namespace Scan

/-- The time of a block, asked for in lookup number `n`. -/
def blockTime (answers : Answers) (n : Nat) (height : Word) : Except PipelineError Instant :=
  match answers.block n height with
  | .error e => .error (.ledger e)
  | .ok block =>
    match block.time? with
    | none => .error (.invalidBlockTimestamp block.number block.timestamp)
    | some time => .ok time

/-- The verdict on the event of a tracked, decoded log. -/
def judgeEvent (answers : Answers) (latest : Word) (depth : Nat) (queue : Queue) (n : Nat)
    (event : PendingEvent) : Verdict :=
  if event.removed then .removed event
  else if !event.isConfirmed latest depth then .pending
  else if !queue.contains event then .untracked
  else match blockTime answers n event.block with
    | .error cause => .unavailable event.block cause
    | .ok time => .confirmed event time

/-- The verdict on a log, when `n` blocks were looked up before. -/
def judge (answers : Answers) (latest : Word) (depth : Nat) (queue : Queue) (n : Nat)
    (log : Log) : Verdict :=
  match log.kind? with
  | none => .ignored
  | some _ =>
    match answers.payload log with
    | .error _ => .undecodable
    | .ok payload =>
      match PendingEvent.ofLog? payload log with
      | none => .ignored
      | some event => judgeEvent answers latest depth queue n event

/-- The state of a pass between two logs. -/
structure Pass where
  queue : Queue
  report : ScanReport
  requests : List Request
  metrics : Metrics

def countCall (m : Metrics) (k : EventKind) (answer : Except NotifyError Unit) : Metrics :=
  let counted := { m with dispatched := m.dispatched.bump k }
  match answer with
  | .ok _ => counted
  | .error _ => { counted with failed := counted.failed.bump k }

/-- Sends the notice of a stamped event; an event without a stamp is not sent. -/
def Pass.forward (answers : Answers) (p : Pass) (event : PendingEvent) : Pass :=
  match event.notice? with
  | none => p
  | some notice =>
    { p with
      requests := p.requests ++ [Request.call notice]
      metrics := countCall p.metrics event.kind (answers.call p.report.dispatched notice) }

def Pass.settle (answers : Answers) (p : Pass) : Verdict → Pass
  | .ignored => { p with report := { p.report with ignored := p.report.ignored + 1 } }
  | .undecodable => { p with report := { p.report with undecodable := p.report.undecodable + 1 } }
  | .pending => { p with report := { p.report with pending := p.report.pending + 1 } }
  | .untracked => { p with report := { p.report with untracked := p.report.untracked + 1 } }
  | .removed event =>
    let purged := p.queue.countMatching event
    { p with
      queue := p.queue.removeMatching event
      report := { p.report with purged := p.report.purged + purged }
      metrics := { p.metrics with purged := p.metrics.purged + purged } }
  | .unavailable block _ => { p with requests := p.requests ++ [Request.block block] }
  | .confirmed event time =>
    let asked := { p with requests := p.requests ++ [Request.block event.block] }
    let sent := asked.forward answers (event.stamp time)
    { sent with
      queue := sent.queue.removeMatching event
      report := { sent.report with dispatched := sent.report.dispatched + 1 } }

/-- Settles the logs in order, up to the first block whose time cannot be had. -/
def settleAll (answers : Answers) (latest : Word) (depth : Nat) :
    Pass → List Log → Pass × Option PipelineError
  | p, [] => (p, none)
  | p, log :: rest =>
    match judge answers latest depth p.queue p.report.dispatched log with
    | .unavailable block cause => (p.settle answers (.unavailable block cause), some cause)
    | verdict => settleAll answers latest depth (p.settle answers verdict) rest

end Scan

/-- The end of a pass: its state, and its report or the cause of its abort. -/
structure ScanOutcome where
  pass : Scan.Pass
  result : Except PipelineError ScanReport

/-- One pass with `latest` as the head of the chain. -/
def scan (settings : Settings) (answers : Answers) (latest : Word) (queue : Queue)
    (metrics : Metrics) : ScanOutcome :=
  let fromBlock := queue.firstBlock
  let start (scanned : Nat) : Scan.Pass :=
    { queue, report := .start scanned, requests := [.logs settings.contract fromBlock], metrics }
  match answers.logs settings.contract fromBlock with
  | .error e => { pass := start 0, result := .error (.ledger e) }
  | .ok logs =>
    match Scan.settleAll answers latest settings.depth (start logs.length) logs with
    | (pass, some cause) => { pass, result := .error cause }
    | (pass, none) => { pass, result := .ok pass.report }

end StarWatch
