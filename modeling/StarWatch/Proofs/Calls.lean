import StarWatch.Proofs.Sighting

/-!
# What a downstream call rests on

A call is made by a tick that read a height, at a log that the ledger returned
in it, while an entry for the log's event was queued. `Grounds` collects all
of this for one call; every call in every run has its grounds.
-/

namespace StarWatch

namespace Scan

/-- Every call of a pass was made at a visit, right behind the lookup of the event's block. -/
theorem Course.exists_visit {answers : Answers} {latest : Word} {depth : Nat} {p final : Pass}
    {logs : List Log} {visited : List Visit} {stop : Option PipelineError}
    (h : Course answers latest depth p logs visited final stop)
    {earlier later : List Request} {notice : Notice}
    (made : visited.flatMap Visit.requests = earlier ++ .call notice :: later) :
    ∃ v ∈ visited, ∃ event time, v.verdict = .confirmed event time ∧
      (event.stamp time).notice? = some notice ∧
      p.requests ++ earlier = v.before.requests ++ [.block event.block] := by
  induction h generalizing earlier with
  | done => simp at made
  | stop =>
    rw [List.flatMap_singleton, visit_requests] at made
    cases earlier with
    | nil => cases made
    | cons x rest => simp [Verdict.requests] at made
  | @go p final log rest verdict visited stop meant goes _ ih =>
    rw [List.flatMap_cons, visit_requests] at made
    rcases requests_cases verdict goes with none | ⟨event, time, notice', verdict, sent, both⟩
    · rw [none, List.nil_append] at made
      obtain ⟨v, hv, event, time, confirmed, sent, position⟩ := ih made
      rw [settle_requests, none, List.append_nil] at position
      exact ⟨v, List.mem_cons_of_mem _ hv, event, time, confirmed, sent, position⟩
    rw [both] at made
    rcases earlier with _ | ⟨x, _ | ⟨y, before⟩⟩
    · cases made
    · cases made
      exact ⟨_, List.mem_cons_self, event, time, verdict, sent, rfl⟩
    · simp only [List.cons_append, List.nil_append, List.cons.injEq] at made
      obtain ⟨rfl, rfl, made⟩ := made
      obtain ⟨v, hv, event', time', confirmed, sent', position⟩ := ih made
      rw [settle_requests, both, List.append_assoc] at position
      exact ⟨v, List.mem_cons_of_mem _ hv, event', time', confirmed, sent', position⟩

end Scan

def Notice.date : Notice → Instant
  | create _ _ _ _ date => date
  | changeName _ _ _ date => date
  | putForSale _ _ _ date => date
  | removeFromSale _ _ date => date
  | purchase _ _ date => date

theorem PendingEvent.date_of_stamp {event : PendingEvent} {time : Instant} {notice : Notice}
    (sent : (event.stamp time).notice? = some notice) : notice.date = time := by
  simp only [notice?, stamp, Option.map_some, Option.some.injEq] at sent
  subst sent
  cases event.kind <;> rfl

theorem PendingEvent.kind_of_notice? {event : PendingEvent} {notice : Notice}
    (sent : event.notice? = some notice) : notice.kind = event.kind := by
  simp only [notice?, Option.map_eq_some_iff] at sent
  obtain ⟨date, _, rfl⟩ := sent
  cases event.kind <;> rfl

/-- What a call rests on, for the requests before it in its step. The step was a tick that read a
height. The ledger returned the log in it, behind logs that were settled before, and the call comes
right after the lookup of the log's block, with its time, for an entry in the queue. -/
structure Grounds (settings : Settings) (moment : Moment) (earlier : List Request)
    (notice : Notice) where
  answers : Answers
  latest : Word
  before : List Log
  log : Log
  behind : List Log
  pass : Scan.Pass
  payload : Payload
  event : PendingEvent
  header : Block
  ticked : moment.move = .step answers ∧ moment.turn = moment.before.tick settings answers
  height : answers.height = .ok latest
  returned : answers.logs settings.contract moment.before.queue.firstBlock =
    .ok (before ++ log :: behind)
  reached : Scan.settleAll answers latest settings.depth
    (Scan.opening settings moment.before.queue moment.before.metrics (before ++ log :: behind))
    before = (pass, none)
  stands : log.removed = false
  decoded : answers.payload log = .ok payload
  normalized : PendingEvent.ofLog? payload log = some event
  deep : log.block ≤ latest ∧ settings.depth ≤ (latest - log.block).toNat
  position : earlier = .height :: pass.requests ++ [.block log.block]
  pending : pass.queue.contains event = true
  lookup : answers.block pass.report.dispatched log.block = .ok header
  projected : (event.stamp ⟨header.timestamp.toNat, 0⟩).notice? = some notice
  dated : notice.date = ⟨header.timestamp.toNat, 0⟩

/-- A call among the requests of a tick has its grounds in that tick. -/
theorem tick_grounds (settings : Settings) (moment : Moment) {answers : Answers}
    (move : moment.move = .step answers) (turn : moment.turn = moment.before.tick settings answers)
    {earlier later : List Request} {notice : Notice}
    (made : moment.turn.requests = earlier ++ .call notice :: later) :
    Nonempty (Grounds settings moment earlier notice) := by
  cases height : answers.height with
  | error e =>
    rw [turn, moment.before.tick_unread settings height] at made
    cases earlier with
    | nil => cases made
    | cons x rest => simp at made
  | ok latest =>
    obtain ⟨_, _, requests⟩ := moment.before.tick_read settings height
    rw [turn, requests] at made
    cases answered : answers.logs settings.contract moment.before.queue.firstBlock with
    | error e =>
      rw [Scan.scan_refused latest moment.before.metrics answered] at made
      rcases earlier with _ | ⟨x, _ | ⟨y, rest⟩⟩
      · cases made
      · simp [Scan.opening] at made
      · simp [Scan.opening] at made
    | ok logs =>
      obtain ⟨stop, went⟩ := Scan.course_of_answered latest moment.before.metrics answered
      rw [went.requests_eq] at made
      rcases earlier with _ | ⟨x, _ | ⟨y, before⟩⟩
      · cases made
      · simp [Scan.opening] at made
      · simp only [Scan.opening, List.cons_append, List.nil_append, List.cons.injEq] at made
        obtain ⟨rfl, rfl, made⟩ := made
        obtain ⟨v, hv, event, time, confirmed, sent, position⟩ := went.exists_visit made
        have meant := (went.sound v hv).meant
        rw [confirmed] at meant
        cases meant with
        | confirmed read stands deep present timed =>
          obtain ⟨kind, payload, tracked, decoded, normalized⟩ := Scan.eventOf?_eq_some read
          obtain ⟨block, removed⟩ := PendingEvent.ofLog?_fields normalized
          rw [block] at timed deep position
          obtain ⟨header, lookup, rfl⟩ := Scan.blockTime_eq_ok timed
          obtain ⟨before, behind, rfl, reached⟩ := Scan.visits_reached _ _ _ _ _ v hv
          exact ⟨{
            answers, latest, before, log := v.log, behind, pass := v.before, payload, event,
            header, height, reached, decoded, normalized, deep, lookup
            ticked := ⟨move, turn⟩
            returned := answered
            stands := removed ▸ stands
            position := congrArg (List.cons Request.height) position
            pending := present
            projected := sent
            dated := PendingEvent.date_of_stamp sent }⟩

/-- Every downstream call of every run has its grounds, so no other kind of step makes one. -/
theorem every_call_has_grounds (settings : Settings) (w : Watch) (moves : List Move)
    (moment : Moment) (during : moment ∈ w.history settings moves)
    (earlier later : List Request) (notice : Notice)
    (made : moment.turn.requests = earlier ++ .call notice :: later) :
    Nonempty (Grounds settings moment earlier notice) := by
  obtain ⟨move, before, turn⟩ := moment
  have acts : Acts settings before move (before.look move) turn := Watch.history_acts _ during
  generalize before.look move = found at acts
  cases acts with
  | closed | unsubscribed | waited => simp at made
  | received => simp [Reactor.receive] at made
  | looked pending => exact tick_grounds settings _ rfl rfl made

/-- The call for a purchase has its grounds. -/
theorem purchase_call_has_grounds :
    ∃ moment earlier, moment ∈ subscribed.history purchaseSettings (purchase.moves 4) ∧
      moment.turn.requests = earlier ++ .call purchase.notice :: [] ∧
      Nonempty (Grounds purchaseSettings moment earlier purchase.notice) := by
  have during : purchase.calling subscribed 4 ∈
      subscribed.history purchaseSettings (purchase.moves 4) := by
    rw [purchase.history_eq]
    exact List.mem_cons_of_mem _ List.mem_cons_self
  have made := (purchase.calling_turn subscribed_idle).1
  exact ⟨_, [.height, .logs ⟨0x5a⟩ 100, .block 100], during, made,
    every_call_has_grounds purchaseSettings subscribed (purchase.moves 4) _ during _ [] _ made⟩

end StarWatch
