import StarWatch.Error

/-!
# Live streams

A bounded first-in first-out channel of notifications of one kind. It has some
number of senders; it is closed once the last of them is gone and nothing is
buffered any more.
-/

namespace StarWatch

structure Stream where
  kind : EventKind
  capacity : Nat
  senders : Nat
  buffer : List Notification
deriving DecidableEq

namespace Stream

/-- A new stream with one sender. There is always room for one notification. -/
def start (kind : EventKind) (capacity : Nat) : Stream :=
  { kind, capacity := max capacity 1, senders := 1, buffer := [] }

def hasRoom (s : Stream) : Bool := s.buffer.length < s.capacity

/-- The stream with one more notification, if there is a sender and room. -/
def send? (s : Stream) (n : Notification) : Option Stream :=
  if 0 < s.senders ∧ s.hasRoom then some { s with buffer := s.buffer ++ [n] } else none

/-- A copy of a sender; without one there is nothing to copy. -/
def addSender (s : Stream) : Stream :=
  if s.senders = 0 then s else { s with senders := s.senders + 1 }

def dropSender (s : Stream) : Stream := { s with senders := s.senders - 1 }

def close (s : Stream) : Stream := { s with senders := 0 }

def buffered (streams : List Stream) : Nat := (streams.flatMap buffer).length

inductive Poll where
  | item (n : Notification) (rest : Stream)
  | empty
  | closed

def poll (s : Stream) : Poll :=
  match s.buffer with
  | n :: rest => .item n { s with buffer := rest }
  | [] => if s.senders = 0 then .closed else .empty

/-- What is found at the first of some places where there is anything to find. -/
inductive Ready where
  | nothing
  | item (index : Nat) (n : Notification) (rest : Stream)
  | closed (kind : EventKind)

/-- Looks at streams by their places, in the given order. -/
def pollAt (streams : List Stream) : List Nat → Ready
  | [] => .nothing
  | i :: others =>
    match streams[i]? with
    | none => pollAt streams others
    | some s =>
      match s.poll with
      | .item n rest => .item i n rest
      | .closed => .closed s.kind
      | .empty => pollAt streams others

end Stream

end StarWatch
