import StarWatch.Proofs.Receipts

/-!
# What comes first

Live notifications come before the chain. While a stream holds one, a step asks
for nothing and takes one, or finds a stream that is closed. It turns to the
chain when all streams are open and empty and something is pending, and where
the chain does not answer, all that can be lost is what has grown too old.
-/

namespace StarWatch

/-- A step that fails because a stream is closed and drained. It changes nothing. -/
def Moment.FindsClosed (m : Moment) : Prop :=
  ∃ s ∈ m.before.streams, s.buffer = [] ∧ s.senders = 0 ∧
    m.turn.outcome = .failed (.subscriptionClosed s.kind) ∧ m.turn.reactor = m.before

structure Moment.Serves (m : Moment) : Prop where
  unasking : m.turn.requests = []
  unevicting : m.turn.reactor.metrics.evicted = m.before.metrics.evicted
  ended : m.FindsClosed ∨ ∃ receipt, m.Handles receipt

/-- What a step may do, and what it leaves alone. While a stream holds a notification, it has to do
with the streams alone. It asks for something only to look at the chain, when the streams are open
and empty and something is pending. -/
structure Moment.Framed (settings : Settings) (m : Moment) : Prop where
  served : (∃ s ∈ m.before.streams, s.buffer ≠ []) → m.Serves
  asked : m.turn.requests ≠ [] → ∃ answers, m.Ticks settings answers
  quiet : ∀ answers, m.Ticks settings answers →
    (∀ s ∈ m.before.streams, s.buffer = [] ∧ s.senders ≠ 0) ∧ m.before.queue.entries ≠ []
  idle : m.before.queue.entries = [] → m.turn.requests = []
  unread : ∀ answers e, m.Ticks settings answers → answers.height = .error e →
    m.turn.outcome = .done .heightUnavailable ∧ m.turn.reactor = m.before ∧
      m.turn.requests = [.height]
  refused : ∀ answers latest e, m.Ticks settings answers → answers.height = .ok latest →
    answers.logs settings.contract m.before.queue.firstBlock = .error e →
    m.turn.reactor.queue.entries =
        m.before.queue.entries.filter (fun x => ¬ x.block.Aged latest settings.depth) ∧
      m.turn.reactor.streams = m.before.streams ∧
      m.turn.requests = [.height, .logs settings.contract m.before.queue.firstBlock]

namespace Reactor

variable (settings : Settings) (r : Reactor) {answers : Answers}

/-- A tick begins with a request. -/
theorem tick_asks (answers : Answers) : (r.tick settings answers).requests ≠ [] := by
  cases height : answers.height with
  | error e =>
    rw [r.tick_unread settings height]
    exact List.cons_ne_nil _ _
  | ok latest =>
    obtain ⟨_, _, requests⟩ := r.tick_read settings height
    rw [requests]
    exact List.cons_ne_nil _ _

/-- What a tick leaves when the chain has a height but gives no logs. -/
theorem tick_refused {latest : Word} {e : LedgerError} (height : answers.height = .ok latest)
    (refused : answers.logs settings.contract r.queue.firstBlock = .error e) :
    (r.tick settings answers).reactor.queue = r.queue.evict latest settings.depth ∧
      (r.tick settings answers).requests =
        [.height, .logs settings.contract r.queue.firstBlock] := by
  obtain ⟨_, queue, requests⟩ := r.tick_read settings height
  rw [Scan.scan_refused latest r.metrics refused] at queue requests
  exact ⟨queue, requests⟩

end Reactor

section Acting

variable {settings : Settings} {r : Reactor} {move : Move} {turn : Turn}

/-- A step that asks for anything has found nothing at its streams, and something is pending. -/
theorem Acts.asks {found : Stream.Ready} (acts : Acts settings r move found turn)
    (asked : turn.requests ≠ []) :
    found = .nothing ∧ r.queue.isEmpty = false ∧
      ∃ answers, Moment.Ticks settings answers ⟨move, r, turn⟩ := by
  cases acts with
  | @looked answers pending => exact ⟨rfl, pending, answers, rfl, rfl⟩
  | _ => exact absurd rfl asked

/-- While a stream holds a notification, a look finds that one or another, or a closed stream. -/
theorem Acts.serves (acts : Acts settings r move (r.look move) turn)
    (held : ∃ s ∈ r.streams, s.buffer ≠ []) : Moment.Serves ⟨move, r, turn⟩ := by
  generalize found : r.look move = ready at acts
  have something : ready ≠ .nothing := by
    rintro rfl
    obtain ⟨s, member, holds⟩ := held
    exact holds (Reactor.look_nothing found s member).1
  cases acts with
  | closed kind =>
    obtain ⟨s, member, rfl, drained, left⟩ := Reactor.look_closed found
    exact ⟨rfl, rfl, .inl ⟨s, member, drained, left, rfl, rfl⟩⟩
  | received index n rest =>
    obtain ⟨answer, handles⟩ := Reactor.receive_handles found
    exact ⟨rfl, Reactor.receive_evicted .., .inr ⟨_, handles⟩⟩
  | unsubscribed | waited | looked => exact absurd rfl something

theorem Acts.framed {m : Moment}
    (acts : Acts settings m.before m.move (m.before.look m.move) m.turn) :
    m.Framed settings where
  served := acts.serves
  asked asked := (acts.asks asked).2.2
  quiet answers ticks := by
    have asked : m.turn.requests ≠ [] := ticks.turn ▸ m.before.tick_asks settings answers
    obtain ⟨nothing, pending, _⟩ := acts.asks asked
    exact ⟨Reactor.look_nothing nothing, by simpa [Queue.isEmpty] using pending⟩
  idle unpending := by
    by_contra asked
    obtain ⟨_, pending, _⟩ := acts.asks asked
    simp [Queue.isEmpty, unpending] at pending
  unread answers e ticks failed := by
    rw [ticks.turn, m.before.tick_unread settings failed]
    exact ⟨rfl, rfl, rfl⟩
  refused answers latest e ticks height failed := by
    obtain ⟨queue, requests⟩ := m.before.tick_refused settings height failed
    rw [ticks.turn, queue]
    exact ⟨Queue.evict_entries .., m.before.tick_streams settings answers, requests⟩

end Acting

/-- Every step of every run puts live notifications first, and leaves alone what it does not
come to. -/
theorem steps_are_framed (settings : Settings) (w : Watch) (moves : List Move) :
    ∀ moment ∈ w.history settings moves, moment.Framed settings := by
  intro moment during
  exact (Watch.history_acts moment during).framed

/-- A purchase that waits in its stream is received before anything else. -/
theorem purchase_received_first :
    let m := purchase.queuing subscribed 4
    m ∈ subscribed.history purchaseSettings (purchase.moves 4) ∧
      (∃ s ∈ m.before.streams, s.buffer ≠ []) ∧ m.Serves := by
  intro m
  have during : m ∈ subscribed.history purchaseSettings (purchase.moves 4) := by
    rw [purchase.history_eq]
    exact List.mem_cons_self
  have held : ∃ s ∈ m.before.streams, s.buffer ≠ [] := by decide
  have framed := steps_are_framed purchaseSettings subscribed (purchase.moves 4) m during
  exact ⟨during, held, framed.served held⟩

end StarWatch
