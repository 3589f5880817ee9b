import StarWatch.Error

/-!
# Keepalive

A task beside the reactor that keeps the connection busy: on every tick of a
timer but the first, which comes at once, it asks for the head of the chain and
does not mind the answer. Behind the first tick it also waits at a shutdown
channel, and it ends when it sees the shutdown value set, or its sender gone.

The shutdown channel holds the latest value only. Several settings may pass
before the task looks, and it then sees the last of them. That the sender is
gone is seen once there is no value left to see.
-/

namespace StarWatch

/-- The task and its shutdown channel: `stop` is the value in the channel, and `changed` tells
whether it was set since the task last looked. -/
structure Keepalive where
  requests : Nat
  started : Bool
  stop : Bool
  changed : Bool
  connected : Bool
  finished : Bool
deriving DecidableEq

namespace Keepalive

/-- What happens to the task or to its channel. A tick comes with the node's answer, for the case
that the task makes a request. -/
inductive Event where
  | tick (answer : Except LedgerError Word)
  | look
  | set (stop : Bool)
  | disconnect

def start : Keepalive :=
  { requests := 0, started := false, stop := false, changed := false, connected := true,
    finished := false }

/-- The task makes a request on every tick but the first. -/
def tick (k : Keepalive) : Keepalive :=
  if k.finished then k
  else if k.started then { k with requests := k.requests + 1 }
  else { k with started := true }

/-- The task looks at the channel: for a new value, and if there is none, for the sender. -/
def look (k : Keepalive) : Keepalive :=
  if k.finished || !k.started then k
  else if k.changed then { k with changed := false, finished := k.stop }
  else { k with finished := !k.connected }

def step (k : Keepalive) : Event → Keepalive
  | .tick _ => k.tick
  | .look => k.look
  | .set stop => if k.connected then { k with stop, changed := true } else k
  | .disconnect => { k with connected := false }

def run (k : Keepalive) (events : List Event) : Keepalive := events.foldl step k

/-- Ticks of a timer of some period in the `seconds` after the first `elapsed`. -/
def ticksIn (period elapsed seconds : Nat) : Nat :=
  (elapsed + seconds) / period - elapsed / period

/-- A task with its clock. A timer without a period cannot start, and the task crashes. -/
structure Timed where
  period : Nat
  elapsed : Nat
  task : Keepalive

namespace Timed

/-- The first tick comes at once. -/
def start (period : Nat) : Timed := { period, elapsed := 0, task := Keepalive.start.tick }

def crashed (t : Timed) : Bool := t.period == 0

def finished (t : Timed) : Bool := t.crashed || t.task.finished

/-- Lets time pass; the node gives each tick the same answer. -/
def wait (t : Timed) (seconds : Nat) (answer : Except LedgerError Word) : Timed :=
  let elapsed := t.elapsed + seconds
  if t.crashed then { t with elapsed }
  else
    let ticks := List.replicate (ticksIn t.period t.elapsed seconds) (Event.tick answer)
    { t with elapsed, task := t.task.run ticks }

/-- The shutdown value is set, and the task looks. -/
def set (t : Timed) (stop : Bool) : Timed := { t with task := t.task.run [.set stop, .look] }

/-- The sender goes away, and the task looks. -/
def disconnect (t : Timed) : Timed := { t with task := t.task.run [.disconnect, .look] }

end Timed

end Keepalive

end StarWatch
