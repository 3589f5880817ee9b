import StarWatch.Scan
import StarWatch.Stream

/-!
# The reactor

The control loop in single steps. A live notification comes first: the streams
are looked at in turn, from the one after the last that gave something. Without
a notification, and with events pending, the step reads the head of the chain,
scans, and evicts what has grown too old. With nothing pending the reactor
waits for its streams; on waking it takes from the first of them that is ready.
-/

namespace StarWatch

/-- The state of the loop. The next look at the streams starts at `cursor`. -/
structure Reactor where
  queue : Queue
  streams : List Stream
  cursor : Nat
  metrics : Metrics

/-- What one step did. A scan that was aborted has no report. -/
inductive Step where
  | queued (kind : EventKind)
  | purged (count : Nat)
  | ignored
  | scanned (report : Option ScanReport) (evicted : Nat)
  | heightUnavailable
deriving DecidableEq

/-- Seconds that a step sleeps before it ends: only a look at the chain does. -/
def Step.sleep (settings : Settings) : Step → Nat
  | scanned .. => settings.pollSeconds
  | heightUnavailable => settings.pollSeconds
  | _ => 0

inductive Outcome where
  | done (step : Step)
  | failed (e : PipelineError)
  | waiting
deriving DecidableEq

/-- A step with all that it leaves behind. -/
structure Turn where
  outcome : Outcome
  reactor : Reactor
  requests : List Request

namespace Reactor

def start : Reactor :=
  { queue := .empty, streams := [], cursor := 0, metrics := .zero }

/-- Opens a stream for each of some kinds; those opened before a failure stay. -/
def subscribeTo (openStream : EventKind → Except LedgerError Stream) :
    List EventKind → Reactor → Except PipelineError Unit × Reactor
  | [], r => (.ok (), r)
  | k :: rest, r =>
    match openStream k with
    | .error e => (.error (.ledger e), r)
    | .ok s => subscribeTo openStream rest { r with streams := r.streams ++ [s] }

/-- Opens one more stream for every kind, after a check of the settings. -/
def subscribeAll (settings : Settings) (openStream : EventKind → Except LedgerError Stream)
    (r : Reactor) : Except PipelineError Unit × Reactor :=
  match settings.check with
  | .error e => (.error e, r)
  | .ok _ => subscribeTo openStream EventKind.all r

/-- The places of `count` streams, in turn from one of them. -/
def turnOrder (count cursor : Nat) : List Nat :=
  (List.range count).map fun offset => (cursor + offset) % count

/-- Takes a removal back from the queue, or queues an event. -/
def handleEvent (r : Reactor) (event : PendingEvent) : Step × Reactor :=
  if event.removed then
    let purged := r.queue.countMatching event
    (.purged purged,
      { r with
        queue := r.queue.removeMatching event
        metrics := { r.metrics with purged := r.metrics.purged + purged } })
  else
    let queue := r.queue.insert event
    (.queued event.kind,
      { r with
        queue
        metrics := { r.metrics with
          queued := r.metrics.queued.bump event.kind
          queueLength := queue.size } })

/-- Handles one live notification. -/
def handle (r : Reactor) (n : Notification) : Step × Reactor :=
  match PendingEvent.ofNotification? n with
  | none => (.ignored, r)
  | some event => r.handleEvent event

/-- Handles the notification that a stream gave. -/
def receive (r : Reactor) (index : Nat) (n : Notification) (rest : Stream) : Turn :=
  let (step, reactor) := { r with streams := r.streams.set index rest }.handle n
  { outcome := .done step, reactor, requests := [] }

def evict (settings : Settings) (latest : Word) (r : Reactor) : Nat × Reactor :=
  let evicted := (r.queue.leftovers latest settings.depth).length
  (evicted,
    { r with
      queue := r.queue.evict latest settings.depth
      metrics := { r.metrics with evicted := r.metrics.evicted + evicted } })

/-- Reads the height, scans, evicts. The eviction comes after an aborted scan too. -/
def tick (settings : Settings) (answers : Answers) (r : Reactor) : Turn :=
  match answers.height with
  | .error _ => { outcome := .done .heightUnavailable, reactor := r, requests := [.height] }
  | .ok latest =>
    let outcome := scan settings answers latest r.queue r.metrics
    let metrics := match outcome.result with
      | .ok _ => outcome.pass.metrics
      | .error _ => { outcome.pass.metrics with aborted := outcome.pass.metrics.aborted + 1 }
    let (evicted, left) := { r with queue := outcome.pass.queue, metrics }.evict settings latest
    { outcome := .done (.scanned outcome.result.toOption evicted)
      reactor := { left with metrics := { left.metrics with queueLength := left.queue.size } }
      requests := .height :: outcome.pass.requests }

/-- Goes on with a step that waits: the first stream that is ready ends it. -/
def wake (r : Reactor) : Turn :=
  if r.streams.isEmpty then { outcome := .failed .notSubscribed, reactor := r, requests := [] }
  else match Stream.pollAt r.streams (List.range r.streams.length) with
    | .nothing => { outcome := .waiting, reactor := r, requests := [] }
    | .closed kind =>
      { outcome := .failed (.subscriptionClosed kind), reactor := r, requests := [] }
    | .item index n rest => r.receive index n rest

def step (settings : Settings) (answers : Answers) (r : Reactor) : Turn :=
  let count := r.streams.length
  match Stream.pollAt r.streams (turnOrder count r.cursor) with
  | .closed kind => { outcome := .failed (.subscriptionClosed kind), reactor := r, requests := [] }
  | .item index n rest => { r with cursor := (index + 1) % count }.receive index n rest
  | .nothing => if r.queue.isEmpty then r.wake else r.tick settings answers

end Reactor

end StarWatch
