import StarWatch.Provider

/-!
# Live feeds

A feed carries the logs of one subscription into its stream. It takes the
node's logs in their order, drops those that cannot be decoded, and holds each
of the others until the stream has room. It closes the stream once the node's
logs have ended, and unsubscribes when it finds that nobody listens any more.
`receive` is the listener's side.
-/

namespace StarWatch

inductive FeedState where
  | running
  | ended
  | unsubscribed
deriving DecidableEq

/-- A feed between the node's logs that were not looked at yet and the stream of a listener. A
decoded log is held until there is room for it. -/
structure Feed where
  state : FeedState
  incoming : List ProviderLog
  isLast : Bool
  held : Option Notification
  stream : Stream
  heard : Bool
deriving DecidableEq

namespace Feed

def start (kind : EventKind) (buffer : Nat) : Feed :=
  { state := .running, incoming := [], isLast := false, held := none,
    stream := .start kind buffer, heard := true }

/-- The node delivers a log; behind the end of its logs there are none. -/
def deliver (f : Feed) (log : ProviderLog) : Feed :=
  if f.isLast then f else { f with incoming := f.incoming ++ [log] }

/-- The node's logs end. -/
def finish (f : Feed) : Feed := { f with isLast := true }

/-- The listener goes away. -/
def ignore (f : Feed) : Feed := { f with heard := false }

/-- One move of the feed; it stays as it is where it has to wait. -/
def advance (f : Feed) : Feed :=
  match f.state with
  | .running =>
    match f.held with
    | some n =>
      if f.heard then
        match f.stream.send? n with
        | some stream => { f with held := none, stream }
        | none => f
      else { f with state := .unsubscribed, held := none, stream := f.stream.dropSender }
    | none =>
      match f.incoming with
      | log :: rest => { f with incoming := rest, held := log.notification? }
      | [] =>
        if f.isLast then { f with state := .ended, stream := f.stream.dropSender } else f
  | _ => f

def receive (f : Feed) : Option Notification × Feed :=
  match f.stream.poll with
  | .item n stream => (some n, { f with stream })
  | _ => (none, f)

/-- Whether the listener finds the stream closed. -/
def isClosed (f : Feed) : Bool := f.stream.senders = 0 && f.stream.buffer.isEmpty

/-- Moves until nothing is left to do; a listener takes what comes at once. Each round takes a
notification or makes a move. -/
def runFor : Nat → Feed → List Notification × Feed
  | 0, f => ([], f)
  | rounds + 1, f =>
    match f.receive with
    | (some n, f) => let (ns, f) := runFor rounds f; (n :: ns, f)
    | (none, f) => runFor rounds f.advance

/-- Rounds that see all logs through: each is looked at, sent and received. -/
def rounds (f : Feed) : Nat := 3 * f.incoming.length + f.stream.buffer.length + 3

def receiveAll (f : Feed) : List Notification × Feed := runFor f.rounds f

/-- Moves as far as it goes without a listener. -/
def settle (f : Feed) : Feed := Nat.repeat advance f.rounds f

end Feed

end StarWatch
