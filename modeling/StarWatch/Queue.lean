import StarWatch.Event.Pending

/-!
# The confirmation queue

Pending events in ascending order of their blocks; events of one block stand in
the order of their arrival. Entries are removed by identity or by age, never by
position.
-/

namespace StarWatch

structure Queue where
  entries : List PendingEvent
deriving DecidableEq

namespace Queue

def empty : Queue := ⟨[]⟩

/-- Puts an event behind all entries of its own block and of earlier ones. -/
def place (e : PendingEvent) : List PendingEvent → List PendingEvent
  | [] => [e]
  | x :: rest => if e.block.toNat < x.block.toNat then e :: x :: rest else x :: place e rest

/-- Adds an event. An identical entry may be there already; both then stay. -/
def insert (q : Queue) (e : PendingEvent) : Queue := ⟨place e q.entries⟩

def size (q : Queue) : Nat := q.entries.length

def isEmpty (q : Queue) : Bool := q.entries.isEmpty

/-- The block of the oldest entry, zero for an empty queue. -/
def firstBlock (q : Queue) : Word :=
  match q.entries with
  | [] => 0
  | e :: _ => e.block

def contains (q : Queue) (e : PendingEvent) : Bool := q.entries.any fun x => x.sameLog e

/-- The queue without the entries that describe the same log. -/
def removeMatching (q : Queue) (e : PendingEvent) : Queue :=
  ⟨q.entries.filter fun x => !x.sameLog e⟩

def countMatching (q : Queue) (e : PendingEvent) : Nat := q.entries.countP fun x => x.sameLog e

/-- The entries with more than `depth` confirmations. -/
def leftovers (q : Queue) (latest : Word) (depth : Nat) : List PendingEvent :=
  q.entries.filter fun x => x.isLeftover latest depth

def evict (q : Queue) (latest : Word) (depth : Nat) : Queue :=
  ⟨q.entries.filter fun x => !x.isLeftover latest depth⟩

theorem mem_place {x e : PendingEvent} {entries : List PendingEvent} :
    x ∈ place e entries ↔ x = e ∨ x ∈ entries := by
  induction entries with
  | nil => simp [place]
  | cons y rest ih =>
    simp only [place]
    split
    · simp
    · simp only [List.mem_cons, ih]
      grind

theorem length_place (e : PendingEvent) (entries : List PendingEvent) :
    (place e entries).length = entries.length + 1 := by
  induction entries with
  | nil => rfl
  | cons y rest ih =>
    simp only [place]
    split <;> simp [ih]

theorem size_removeMatching (q : Queue) (e : PendingEvent) :
    (q.removeMatching e).size + q.countMatching e = q.size := by
  simp only [size, removeMatching, countMatching]
  induction q.entries with
  | nil => rfl
  | cons x rest ih =>
    by_cases h : x.sameLog e <;> simp [h] <;> omega

end Queue

end StarWatch
