import StarWatch.Proofs.Sighting

/-!
# The gauge of the queue's length

Queuing an event sets the gauge, and so does a look at the chain. Taking entries
back on a live removal does not, so the gauge then leads the queue by what was
taken. The lead grows with every further removal and lasts until an event is
queued or the chain is looked at.
-/

namespace StarWatch

/-- The lead that the gauge has behind a step, by what it was before. -/
def Step.lead (before : Nat) : Step → Nat
  | queued _ => 0
  | scanned .. => 0
  | purged count => before + count
  | _ => before

namespace Moment

variable (m : Moment)

def lead (before : Nat) : Nat :=
  match m.turn.outcome with
  | .done answer => answer.lead before
  | _ => before

/-- The steps that change the queue: an event was queued, entries were taken back, or the chain
was looked at. -/
def Changes : Prop :=
  match m.turn.outcome with
  | .done (.queued _) => True
  | .done (.purged count) => 0 < count
  | .done (.scanned ..) => True
  | _ => False

def Purges : Prop := ∃ count, m.turn.outcome = .done (.purged count)

end Moment

/-- A step that changes the queue leaves no lead, unless it took entries back. -/
theorem Moment.Changes.lead_eq_zero_iff {m : Moment} (changes : m.Changes) (before : Nat) :
    m.lead before = 0 ↔ ¬ m.Purges := by
  simp only [Moment.Changes] at changes
  simp only [Moment.lead, Moment.Purges]
  split at changes
  · rename_i outcome
    simp [outcome, Step.lead]
  · rename_i count outcome
    simp only [outcome, Step.lead]
    constructor
    · intro none
      omega
    · intro unpurged
      exact absurd ⟨count, rfl⟩ unpurged
  · rename_i outcome
    simp [outcome, Step.lead]
  · exact changes.elim

def leadAfter (past : List Moment) : Nat := past.foldl (fun before m => m.lead before) 0

theorem leadAfter_append (past : List Moment) (m : Moment) :
    leadAfter (past ++ [m]) = m.lead (leadAfter past) := by
  rw [leadAfter, List.foldl_append]
  rfl

/-- How far the gauge leads the queue. -/
def Reactor.Leads (r : Reactor) (lead : Nat) : Prop :=
  r.metrics.queueLength = r.queue.size + lead

section Steps

variable {settings : Settings} {r : Reactor} {lead : Nat}

/-- What the queue gives up to a removal, the gauge keeps. -/
theorem Handling.leads {n : Notification} {answer : Step} {left : Queue} {m : Metrics}
    (handled : Handling r.queue n answer left) (leads : r.Leads lead)
    (counted : m = r.metrics.answered left answer) :
    m.queueLength = left.size + answer.lead lead := by
  subst counted
  cases handled with
  | queued => rfl
  | @purged e =>
    have taken := r.queue.size_removeMatching e
    have before : r.metrics.queueLength = r.queue.size + lead := leads
    simp only [Metrics.answered, Step.lead]
    omega
  | ignored => exact leads

/-- A look at the chain sets the gauge, unless the height is not to be had. -/
theorem Reactor.Leads.tick (leads : r.Leads lead) (answers : Answers) :
    (r.tick settings answers).reactor.Leads
      (Moment.lead ⟨.step answers, r, r.tick settings answers⟩ lead) := by
  cases height : answers.height with
  | error e =>
    rw [r.tick_unread settings height]
    exact leads
  | ok latest =>
    have metrics := r.tick_metrics settings height
    have outcome := (r.tick_read settings height).1
    simp only [Moment.lead, outcome, Step.lead]
    rw [Reactor.Leads, metrics]
    rfl

theorem Reactor.Leads.step {m : Moment} (leads : m.before.Leads lead)
    (acts : Acts settings m.before m.move (m.before.look m.move) m.turn) :
    m.turn.reactor.Leads (m.lead lead) := by
  obtain ⟨move, before, turn⟩ := m
  dsimp only at acts leads
  generalize before.look move = found at acts
  cases acts with
  | closed | unsubscribed | waited => exact leads
  | received index n rest =>
    let r : Reactor :=
      { before with
        cursor := before.cursorBehind index move, streams := before.streams.set index rest }
    exact Handling.leads (r.handle_handling n) leads (r.handle_metrics n)
  | looked pending => exact leads.tick _

/-- No other step changes the queue. -/
theorem Moment.queue_of_not_changes {m : Moment}
    (acts : Acts settings m.before m.move (m.before.look m.move) m.turn)
    (unchanged : ¬ m.Changes) : m.turn.reactor.queue = m.before.queue := by
  obtain ⟨move, before, turn⟩ := m
  dsimp only at acts unchanged
  generalize before.look move = found at acts
  cases acts with
  | closed | unsubscribed | waited => rfl
  | received index n rest =>
    obtain ⟨answer, done, handled⟩ :=
      Reactor.receive_handling { before with cursor := before.cursorBehind index move } n index rest
    simp only [Changes, done] at unchanged
    generalize (Reactor.receive _ index n rest).reactor.queue = left at handled
    cases handled with
    | queued => exact absurd trivial unchanged
    | purged => exact Queue.removeMatching_eq_self (Nat.eq_zero_of_not_pos unchanged)
    | ignored => rfl
  | @looked answers pending =>
    cases height : answers.height with
    | error e => rw [before.tick_unread settings height]
    | ok latest =>
      have outcome := (before.tick_read settings height).1
      simp only [Changes, outcome] at unchanged
      exact absurd trivial unchanged

end Steps

/-- Behind every step that changes the queue the gauge is the queue's length, except where a live
removal took entries back. -/
theorem gauge_exact_iff_not_purged (settings : Settings) (moves : List Move) :
    let r := (Watch.start.after settings moves).reactor
    let past := Watch.start.history settings moves
    r.metrics.queueLength = r.queue.size + leadAfter past ∧
      ∀ m ∈ past, (¬ m.Changes → m.turn.reactor.queue = m.before.queue) ∧
        (m.Changes →
          (m.turn.reactor.metrics.queueLength = m.turn.reactor.queue.size ↔ ¬ m.Purges)) := by
  have leads : ∀ moves : List Move, (Watch.start.after settings moves).reactor.Leads
      (leadAfter (Watch.start.history settings moves)) := by
    intro moves
    have first : Watch.start.reactor.Leads (leadAfter []) := rfl
    refine Watch.after_of_steps (P := fun r past => r.Leads (leadAfter past)) ?_ ?_ first moves
    · exact fun _ _ _ h => h
    · intro m past acts h
      rw [leadAfter_append]
      exact h.step acts
  refine ⟨leads moves, ?_⟩
  intro m during
  constructor
  · exact Moment.queue_of_not_changes (Watch.history_acts m during)
  · intro changes
    obtain ⟨earlier, past, reached, ends⟩ := Watch.exists_after_of_mem during
    have behind := leads earlier
    rw [reached, ends, leadAfter_append, Reactor.Leads] at behind
    rw [← changes.lead_eq_zero_iff (leadAfter past), behind]
    exact Nat.add_eq_left

/-- A purchase that is notified, and then taken back before the chain is looked at. -/
def recalledMoves : List Move :=
  [.subscribe purchaseChain.openStream, .send 4 purchaseNotification, .step purchaseChain.answers,
    .send 4 { purchaseNotification with log := { purchaseLog with removed := true } },
    .step purchaseChain.answers]

def recalling : Moment :=
  let before := (Watch.start.after purchaseSettings (recalledMoves.take 4)).reactor
  { move := .step purchaseChain.answers, before
    turn := before.step purchaseSettings purchaseChain.answers }

def recalled : PendingEvent := { purchase.event with removed := true }

/-- The removal empties the queue, and the gauge still tells one entry. -/
theorem recalled_purchase_on_gauge :
    ¬ ∀ m ∈ Watch.start.history purchaseSettings recalledMoves, m.Changes →
      m.turn.reactor.metrics.queueLength = m.turn.reactor.queue.size := by
  have during : recalling ∈ Watch.start.history purchaseSettings recalledMoves :=
    List.mem_cons_of_mem _ List.mem_cons_self
  have pending : recalling.before.queue.entries = [purchase.event] := rfl
  have outcome : recalling.turn.outcome =
    .done (.purged (recalling.before.queue.countMatching recalled)) := rfl
  have same : purchase.event.sameLog recalled = true := PendingEvent.sameLog_self _
  have counted : recalling.before.queue.countMatching recalled = 1 := by
    simp [Queue.countMatching, pending, same]
  have size : recalling.turn.reactor.queue.size = 0 := by
    have left : recalling.turn.reactor.queue = recalling.before.queue.removeMatching recalled := rfl
    simp [left, Queue.size, Queue.removeMatching, pending, same]
  have gauge : recalling.turn.reactor.metrics.queueLength = 1 := rfl
  intro exact
  have changes : recalling.Changes := by
    rw [Moment.Changes, outcome, counted]
    exact Nat.one_pos
  have told := exact recalling during changes
  rw [gauge, size] at told
  cases told

end StarWatch
