import StarWatch.Proofs.Sighting

/-!
# Receipts

A step that handles a notification takes the oldest one of a single stream, and
its receipt says which. `Draws` says of every step what it draws from the
streams. The receipts of a run tell in which order what was handled.
-/

namespace StarWatch

/-- A notification that a step handled, with the place of its stream and the answer. -/
structure Receipt where
  index : Nat
  notification : Notification
  answer : Step

def Moment.receipt? (m : Moment) : Option Receipt :=
  match m.before.look m.move, m.turn.outcome with
  | .item index notification _, .done answer => some { index, notification, answer }
  | _, _ => none

/-- A step handles the oldest notification of one stream, and leaves the other streams alone. -/
structure Moment.Handles (m : Moment) (receipt : Receipt) : Prop where
  noted : m.receipt? = some receipt
  answered : m.turn.outcome = .done receipt.answer
  drawn : ∃ s left, m.before.streams[receipt.index]? = some s ∧
    s.buffer = receipt.notification :: left ∧
    m.turn.reactor.streams = m.before.streams.set receipt.index { s with buffer := left }
  handling : Handling m.before.queue receipt.notification receipt.answer m.turn.reactor.queue

structure Moment.Ticks (settings : Settings) (answers : Answers) (m : Moment) : Prop where
  move : m.move = .step answers
  turn : m.turn = m.before.tick settings answers

/-- What a step draws from the streams, by its outcome. One that fails leaves the reactor as it was.
-/
inductive Moment.Draws (settings : Settings) (m : Moment) : Prop
  | handled {receipt : Receipt} (handles : m.Handles receipt)
  | failed {e : PipelineError} (nothing : m.receipt? = none) (ended : m.turn.outcome = .failed e)
      (same : m.turn.reactor = m.before)
  | waited (nothing : m.receipt? = none) (ended : m.turn.outcome = .waiting)
      (same : m.turn.reactor = m.before)
  | ticked {answers : Answers} (nothing : m.receipt? = none) (ticks : m.Ticks settings answers)
      (same : m.turn.reactor.streams = m.before.streams)

namespace Stream

theorem poll_eq_item {s rest : Stream} {n : Notification} (found : s.poll = .item n rest) :
    ∃ left, s.buffer = n :: left ∧ rest = { s with buffer := left } := by
  simp only [poll] at found
  split at found
  · cases found
    exact ⟨_, ‹_›, rfl⟩
  · split at found
    · cases found
    · cases found

theorem poll_eq_closed {s : Stream} (found : s.poll = .closed) :
    s.buffer = [] ∧ s.senders = 0 := by
  simp only [poll] at found
  split at found
  · cases found
  · split at found
    · exact ⟨‹_›, ‹_›⟩
    · cases found

/-- The first of some places whose stream has anything for a look. -/
structure ComesFirst (streams : List Stream) (places : List Nat) (place : Nat) (s : Stream) :
    Prop where
  there : streams[place]? = some s
  ahead : ∃ before after, places = before ++ place :: after ∧
    ∀ i ∈ before, ∀ s, streams[i]? = some s → s.poll = .empty

theorem ComesFirst.cons {streams : List Stream} {places : List Nat} {place i : Nat} {s : Stream}
    (first : ComesFirst streams places place s)
    (silent : ∀ s, streams[i]? = some s → s.poll = .empty) :
    ComesFirst streams (i :: places) place s := by
  obtain ⟨before, after, split, quiet⟩ := first.ahead
  refine ⟨first.there, i :: before, after, ?_, ?_⟩
  · rw [split, List.cons_append]
  · exact List.forall_mem_cons.mpr ⟨silent, quiet⟩

/-- A look finds nothing, or what the first stream gives that gives anything. -/
theorem pollAt_cases (streams : List Stream) (places : List Nat) :
    pollAt streams places = .nothing ∨
      ∃ place s, ComesFirst streams places place s ∧
        ((∃ n rest, s.poll = .item n rest ∧ pollAt streams places = .item place n rest) ∨
          (s.poll = .closed ∧ pollAt streams places = .closed s.kind)) := by
  induction places with
  | nil => exact .inl rfl
  | cons i later ih =>
    simp only [pollAt]
    cases at_i : streams[i]? with
    | none =>
      rcases ih with nothing | ⟨place, s, first, found⟩
      · exact .inl nothing
      · exact .inr ⟨place, s, first.cons (by simp [at_i]), found⟩
    | some s =>
      cases polled : s.poll with
      | empty =>
        simp only [polled]
        rcases ih with nothing | ⟨place, s', first, found⟩
        · exact .inl nothing
        · exact .inr ⟨place, s', first.cons (by simp [at_i, polled]), found⟩
      | item n rest =>
        simp only [polled]
        exact .inr ⟨i, s, ⟨at_i, [], later, rfl, by simp⟩, .inl ⟨n, rest, polled, rfl⟩⟩
      | closed =>
        simp only [polled]
        exact .inr ⟨i, s, ⟨at_i, [], later, rfl, by simp⟩, .inr ⟨polled, rfl⟩⟩

end Stream

namespace Reactor

variable {r : Reactor} {move : Move}

/-- A look goes over all streams. -/
theorem exists_look (r : Reactor) (move : Move) :
    ∃ places, r.look move = Stream.pollAt r.streams places ∧
      ∀ i, i < r.streams.length → i ∈ places := by
  cases move with
  | step => exact ⟨_, rfl, fun i within => mem_turnOrder r.cursor within⟩
  | _ => exact ⟨_, rfl, fun i within => List.mem_range.mpr within⟩

theorem look_item {index : Nat} {n : Notification} {rest : Stream}
    (found : r.look move = .item index n rest) :
    ∃ s left, r.streams[index]? = some s ∧ s.buffer = n :: left ∧
      rest = { s with buffer := left } := by
  obtain ⟨places, look, _⟩ := r.exists_look move
  rw [look] at found
  rcases Stream.pollAt_cases r.streams places with
    nothing | ⟨_, s, first, ⟨_, _, polled, taken⟩ | ⟨_, closed⟩⟩
  · cases nothing.symm.trans found
  · cases taken.symm.trans found
    obtain ⟨left, oldest, rest⟩ := Stream.poll_eq_item polled
    exact ⟨s, left, first.there, oldest, rest⟩
  · cases closed.symm.trans found

theorem look_closed {kind : EventKind} (found : r.look move = .closed kind) :
    ∃ s ∈ r.streams, s.kind = kind ∧ s.buffer = [] ∧ s.senders = 0 := by
  obtain ⟨places, look, _⟩ := r.exists_look move
  rw [look] at found
  rcases Stream.pollAt_cases r.streams places with
    nothing | ⟨_, s, first, ⟨_, _, _, taken⟩ | ⟨polled, closed⟩⟩
  · cases nothing.symm.trans found
  · cases taken.symm.trans found
  · cases closed.symm.trans found
    exact ⟨s, List.mem_of_getElem? first.there, rfl, Stream.poll_eq_closed polled⟩

/-- Where a look finds nothing, every stream is open and empty. -/
theorem look_nothing (found : r.look move = .nothing) :
    ∀ s ∈ r.streams, s.buffer = [] ∧ s.senders ≠ 0 := by
  intro s member
  obtain ⟨places, look, everywhere⟩ := r.exists_look move
  obtain ⟨i, at_i⟩ := List.mem_iff_getElem?.mp member
  have within : i < r.streams.length := (List.getElem?_eq_some_iff.mp at_i).1
  have quiet := Stream.pollAt_eq_nothing.mp (look ▸ found)
  exact Stream.poll_eq_empty.mp (quiet i (everywhere i within) s at_i)

end Reactor

/-- To receive what was found is to handle it. -/
theorem Reactor.receive_handles {r : Reactor} {move : Move} {index : Nat} {n : Notification}
    {rest : Stream} (found : r.look move = .item index n rest) :
    ∃ answer, Moment.Handles
      ⟨move, r, { r with cursor := r.cursorBehind index move }.receive index n rest⟩
      ⟨index, n, answer⟩ := by
  obtain ⟨s, left, there, oldest, rfl⟩ := look_item found
  let turn := { r with cursor := r.cursorBehind index move }.receive index n
    { s with buffer := left }
  obtain ⟨answer, answered, handling⟩ : ∃ answer, turn.outcome = .done answer ∧
    Handling r.queue n answer turn.reactor.queue := receive_handling ..
  refine ⟨answer, ?_, answered, ⟨s, left, there, oldest, receive_streams ..⟩, handling⟩
  simp only [Moment.receipt?, found, turn, answered]

/-- A step draws from the streams as its outcome says. -/
theorem Acts.draws {settings : Settings} {r : Reactor} {move : Move} {turn : Turn}
    (acts : Acts settings r move (r.look move) turn) : Moment.Draws settings ⟨move, r, turn⟩ := by
  generalize found : r.look move = ready at acts
  cases acts with
  | closed kind => exact .failed (by simp [Moment.receipt?, found]) rfl rfl
  | unsubscribed => exact .failed (by simp [Moment.receipt?, found]) rfl rfl
  | waited => exact .waited (by simp [Moment.receipt?, found]) rfl rfl
  | looked pending =>
    exact .ticked (by simp [Moment.receipt?, found]) ⟨rfl, rfl⟩ (r.tick_streams settings _)
  | received index n rest =>
    obtain ⟨answer, handles⟩ := Reactor.receive_handles found
    exact .handled handles

namespace Watch

def receipt? (settings : Settings) (w : Watch) (move : Move) : Option Receipt :=
  (w.turn? settings move).bind fun turn => Moment.receipt? ⟨move, w.reactor, turn⟩

def receipts (settings : Settings) (w : Watch) (moves : List Move) : List Receipt :=
  (w.history settings moves).filterMap Moment.receipt?

theorem receipts_cons (settings : Settings) (w : Watch) (move : Move) (rest : List Move) :
    w.receipts settings (move :: rest) =
      (w.receipt? settings move).toList ++ (w.next settings move).receipts settings rest := by
  simp only [receipts, history, receipt?]
  cases w.turn? settings move with
  | none => rfl
  | some turn =>
    simp only [Option.bind_some, List.filterMap_cons]
    cases Moment.receipt? ⟨move, w.reactor, turn⟩ with
    | none => rfl
    | some receipt => rfl

end Watch

end StarWatch
