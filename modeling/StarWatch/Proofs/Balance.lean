import StarWatch.Proofs.Calls

/-!
# The balance of the metrics

What was queued is still pending, or was counted as purged or as evicted, or was
retired by a call. The counters of a run say so after each of its steps. A pass
counts what it does log by log, so the balance holds as well where a scan was
stopped and its report is lost. Calls, failed calls and lost reports are counted
as often as they occur.
-/

namespace StarWatch

/-- Those of some calls that the downstream interface answers with a failure. The first of the
calls has number `n`. -/
def Answers.refused (answers : Answers) : Nat → List Notice → List Notice
  | _, [] => []
  | n, notice :: rest =>
    match answers.call n notice with
    | .ok _ => answers.refused (n + 1) rest
    | .error _ => notice :: answers.refused (n + 1) rest

/-- How many entries are retired by the call that a verdict asks for. -/
def Verdict.retired (queue : Queue) : Verdict → Nat
  | confirmed event _ => queue.countMatching event
  | _ => 0

namespace Scan

def Visit.retired (v : Visit) : Nat :=
  if v.calls = [] then 0 else v.before.queue.size - v.after.queue.size

/-- A visit without a call retires nothing. One that calls has one call, and retires an entry at
least. -/
def Visit.Accounted (v : Visit) : Prop :=
  v.calls = [] ∧ v.retired = 0 ∨ ∃ notice, v.calls = [notice] ∧ 1 ≤ v.retired

def retired (visited : List Visit) : Nat := (visited.map Visit.retired).sum

end Scan

namespace Moment

variable (settings : Settings) (m : Moment)

/-- The visits of the scan that a step made, if it made one. -/
def scanned : List Scan.Visit :=
  match m.move, m.turn.outcome with
  | .step answers, .done (.scanned ..) =>
    match answers.height with
    | .ok latest => m.visits settings answers latest
    | .error _ => []
  | _, _ => []

def calls : List Notice := callsOf m.turn.requests

def refused : List Notice :=
  match m.move with
  | .step answers => answers.refused 0 m.calls
  | _ => []

/-- Whether a step scanned and has no report of it. -/
def lacksReport : Bool :=
  match m.turn.outcome with
  | .done (.scanned none _) => true
  | _ => false

end Moment

def kindsOf (notices : List Notice) (k : EventKind) : Nat := (notices.map Notice.kind).count k

section Kinds

variable (k : EventKind)

@[simp] theorem kindsOf_nil : kindsOf [] k = 0 := rfl

@[simp] theorem kindsOf_append (first rest : List Notice) :
    kindsOf (first ++ rest) k = kindsOf first k + kindsOf rest k := by
  simp [kindsOf]

theorem kindsOf_cons (notice : Notice) (rest : List Notice) :
    kindsOf (notice :: rest) k = kindsOf rest k + if k = notice.kind then 1 else 0 := by
  simp only [kindsOf, List.map_cons, List.count_cons, beq_iff_eq, eq_comm (a := k)]

theorem Tally.total_kindsOf {t : Tally} {notices : List Notice}
    (counted : ∀ k, t.count k = kindsOf notices k) : t.total = notices.length := by
  induction notices generalizing t with
  | nil => simp [total, EventKind.all, counted]
  | cons notice rest ih =>
    have later : (Tally.mk (kindsOf rest)).total = rest.length := ih fun _ => rfl
    have bumped : t = (Tally.mk (kindsOf rest)).bump notice.kind := by
      have same : t.count = ((Tally.mk (kindsOf rest)).bump notice.kind).count := by
        funext k
        rw [counted, kindsOf_cons, count_bump]
      exact congrArg Tally.mk same
    rw [bumped, total_bump, later, List.length_cons]

end Kinds

namespace Scan

section Passes

variable {answers : Answers} {latest : Word} {depth : Nat}

theorem refused_append (answers : Answers) (n : Nat) (first rest : List Notice) :
    answers.refused n (first ++ rest) =
      answers.refused n first ++ answers.refused (n + first.length) rest := by
  induction first generalizing n with
  | nil => rfl
  | cons notice later ih =>
    have next : n + 1 + later.length = n + (notice :: later).length := by
      rw [List.length_cons]
      omega
    simp only [List.cons_append, Answers.refused, ih, next]
    cases answers.call n notice with
    | ok | error => rfl

/-- How a pass counts what it does until it comes to a later state: the entries that it retired by
calls, and the calls. An entry that is gone was purged, or a call retired it. -/
structure Pass.Counts (answers : Answers) (p : Pass) (retired : Nat) (calls : List Notice)
    (final : Pass) : Prop where
  queued : final.metrics.queued = p.metrics.queued
  evicted : final.metrics.evicted = p.metrics.evicted
  aborted : final.metrics.aborted = p.metrics.aborted
  entries : final.queue.size + final.metrics.purged + retired = p.queue.size + p.metrics.purged
  dispatched : ∀ k, final.metrics.dispatched.count k =
    p.metrics.dispatched.count k + kindsOf calls k
  failed : ∀ k, final.metrics.failed.count k =
    p.metrics.failed.count k + kindsOf (answers.refused p.report.dispatched calls) k
  numbered : final.report.dispatched = p.report.dispatched + calls.length

theorem Pass.Counts.refl (answers : Answers) (p : Pass) : p.Counts answers 0 [] p where
  queued := rfl
  evicted := rfl
  aborted := rfl
  entries := rfl
  dispatched _ := rfl
  failed _ := rfl
  numbered := rfl

theorem Pass.Counts.append {p p' final : Pass} {retired retired' : Nat}
    {calls calls' : List Notice} (counts : p.Counts answers retired calls p')
    (later : p'.Counts answers retired' calls' final) :
    p.Counts answers (retired + retired') (calls ++ calls') final where
  queued := later.queued.trans counts.queued
  evicted := later.evicted.trans counts.evicted
  aborted := later.aborted.trans counts.aborted
  entries := by
    have := counts.entries
    have := later.entries
    omega
  dispatched k := by
    rw [later.dispatched, counts.dispatched, kindsOf_append, Nat.add_assoc]
  failed k := by
    rw [later.failed, counts.failed, counts.numbered, refused_append, kindsOf_append,
      Nat.add_assoc]
  numbered := by
    rw [later.numbered, counts.numbered, List.length_append, Nat.add_assoc]

/-- A call is counted for its kind, and its failure as well. -/
theorem countCall_eq (answers : Answers) (m : Metrics) (n : Nat) (notice : Notice) :
    ∃ failed, countCall m notice.kind (answers.call n notice) =
        { m with dispatched := m.dispatched.bump notice.kind, failed } ∧
      ∀ k, failed.count k = m.failed.count k + kindsOf (answers.refused n [notice]) k := by
  cases answer : answers.call n notice with
  | ok => exact ⟨m.failed, rfl, fun k => by simp [Answers.refused, answer]⟩
  | error =>
    refine ⟨m.failed.bump notice.kind, rfl, fun k => ?_⟩
    simp only [Answers.refused, answer, Tally.count_bump, kindsOf_cons, kindsOf_nil, Nat.zero_add]

theorem settle_counts (answers : Answers) (p : Pass) (verdict : Verdict) :
    p.Counts answers (verdict.retired p.queue) (callsOf verdict.requests)
      (p.settle answers verdict) := by
  cases verdict with
  | removed event =>
    have taken := p.queue.size_removeMatching event
    refine ⟨rfl, rfl, rfl, ?_, fun _ => rfl, fun _ => rfl, rfl⟩
    simp only [Pass.settle, Verdict.retired]
    omega
  | confirmed event time =>
    obtain ⟨notice, sent⟩ := exists_notice event time
    have kind : notice.kind = (event.stamp time).kind := PendingEvent.kind_of_notice? sent
    have called : callsOf (Verdict.confirmed event time).requests = [notice] := by
      simp [Verdict.requests, sent]
    obtain ⟨failed, counted, failures⟩ :=
      countCall_eq answers p.metrics p.report.dispatched notice
    have taken := p.queue.size_removeMatching event
    rw [called, settle_confirmed answers p sent, show event.kind = notice.kind from kind.symm,
      counted]
    refine ⟨rfl, rfl, rfl, ?_, fun k => ?_, failures, rfl⟩
    · simp only [Verdict.retired]
      omega
    · rw [kindsOf_cons, kindsOf_nil, Nat.zero_add]
      exact Tally.count_bump ..
  | _ => exact ⟨rfl, rfl, rfl, rfl, fun _ => rfl, fun _ => rfl, rfl⟩

theorem visit_retired (answers : Answers) (p : Pass) (log : Log) (verdict : Verdict) :
    Visit.retired ⟨log, verdict, p, p.settle answers verdict⟩ = verdict.retired p.queue := by
  rw [Visit.retired, visit_calls]
  cases verdict with
  | confirmed event time =>
    obtain ⟨notice, sent⟩ := exists_notice event time
    have taken := p.queue.size_removeMatching event
    have called : callsOf (Verdict.confirmed event time).requests = [notice] := by
      simp [Verdict.requests, sent]
    rw [called, if_neg (List.cons_ne_nil _ _), settle_queue]
    simp only [Verdict.leaves, Verdict.retired]
    omega
  | _ => rfl

/-- The event of a call was in the queue. -/
theorem Visit.Sound.accounted {v : Visit} (sound : v.Sound answers latest depth) :
    v.Accounted := by
  by_cases called : v.calls = []
  · exact .inl ⟨called, if_pos called⟩
  · obtain ⟨event, time, confirmed⟩ := sound.calls_ne_nil_iff.mp called
    obtain ⟨notice, _, one⟩ := sound.calls_confirmed confirmed
    refine .inr ⟨notice, one, ?_⟩
    obtain ⟨meant, settled⟩ := sound
    obtain ⟨log, verdict, before, after⟩ := v
    dsimp only at confirmed settled meant
    subst settled confirmed
    rw [visit_retired, Verdict.retired, Queue.countMatching_eq_counts,
      ← Queue.contains_iff_counts_pos]
    cases meant with
    | confirmed _ _ _ present => exact present

@[simp] theorem retired_append (first rest : List Visit) :
    retired (first ++ rest) = retired first + retired rest := by
  simp [retired]

/-- As many entries are retired as calls are made, or more. -/
theorem length_calls_le_retired {visited : List Visit}
    (accounted : ∀ v ∈ visited, v.Accounted) :
    (visited.flatMap Visit.calls).length ≤ retired visited := by
  induction visited with
  | nil => exact Nat.le_refl 0
  | cons v rest ih =>
    rw [List.forall_mem_cons] at accounted
    obtain ⟨first, others⟩ := accounted
    have later := ih others
    have total : retired (v :: rest) = v.retired + retired rest := List.sum_cons ..
    rw [total, List.flatMap_cons, List.length_append]
    rcases first with ⟨uncalled, _⟩ | ⟨notice, called, gone⟩
    · rw [uncalled, List.length_nil]
      omega
    · rw [called, List.length_singleton]
      omega

variable {p final : Pass} {logs : List Log} {visited : List Visit} {stop : Option PipelineError}

theorem Course.counts (h : Course answers latest depth p logs visited final stop) :
    p.Counts answers (retired visited) (visited.flatMap Visit.calls) final := by
  induction h with
  | done p => exact .refl answers p
  | @stop p log rest block cause meant =>
    have first := settle_counts answers p (.unavailable block cause)
    rw [← visit_retired answers p log, ← visit_calls answers p log] at first
    simpa [retired] using first
  | @go p final log rest verdict visited stop meant goes later ih =>
    have first := settle_counts answers p verdict
    rw [← visit_retired answers p log, ← visit_calls answers p log] at first
    exact first.append ih

/-- A scan counts from what it begins with, also where the logs cannot be had. -/
theorem scan_counts (settings : Settings) (answers : Answers) (latest : Word) (m : Moment) :
    let start := opening settings m.before.queue m.before.metrics []
    let pass := (scan settings answers latest m.before.queue m.before.metrics).pass
    let visited := m.visits settings answers latest
    start.Counts answers (retired visited) (visited.flatMap Visit.calls) pass ∧
      callsOf pass.requests = visited.flatMap Visit.calls ∧
      ∀ v ∈ visited, v.Sound answers latest settings.depth := by
  simp only [Moment.visits]
  cases answered : answers.logs settings.contract m.before.queue.firstBlock with
  | error e =>
    rw [scan_refused latest m.before.metrics answered]
    exact ⟨.refl answers _, rfl, fun _ none => absurd none List.not_mem_nil⟩
  | ok logs =>
    obtain ⟨stop, went⟩ := course_of_answered latest m.before.metrics answered
    obtain ⟨queued, evicted, aborted, entries, dispatched, failed, numbered⟩ := went.counts
    exact ⟨⟨queued, evicted, aborted, entries, dispatched, failed, numbered⟩, went.calls_eq,
      went.sound⟩

end Passes

end Scan

section Steps

variable {settings : Settings}

/-- How the metrics count what one step did. An entry that is gone was purged or evicted, or a call
retired it, and only the visits of a scan make calls. -/
structure Moment.Counts (settings : Settings) (m : Moment) : Prop where
  entries : m.turn.reactor.queue.size + m.turn.reactor.metrics.purged +
      m.turn.reactor.metrics.evicted + Scan.retired (m.scanned settings) +
      m.before.metrics.queued.total =
    m.before.queue.size + m.before.metrics.purged + m.before.metrics.evicted +
      m.turn.reactor.metrics.queued.total
  dispatched : ∀ k, m.turn.reactor.metrics.dispatched.count k =
    m.before.metrics.dispatched.count k + kindsOf m.calls k
  failed : ∀ k, m.turn.reactor.metrics.failed.count k =
    m.before.metrics.failed.count k + kindsOf m.refused k
  aborted : m.turn.reactor.metrics.aborted =
    m.before.metrics.aborted + if m.lacksReport then 1 else 0
  called : m.calls = (m.scanned settings).flatMap Scan.Visit.calls
  accounted : ∀ v ∈ m.scanned settings, v.Accounted

namespace Moment

variable {m : Moment}

theorem refused_of_uncalled (uncalled : m.calls = []) : m.refused = [] := by
  rw [refused, uncalled]
  cases m.move with
  | step | _ => rfl

theorem scanned_of_unscanned
    (unscanned : ∀ report evicted, m.turn.outcome ≠ .done (.scanned report evicted)) :
    m.scanned settings = [] := by
  simp only [scanned]
  split
  · exact absurd ‹_› (unscanned _ _)
  · rfl

theorem lacksReport_of_unscanned
    (unscanned : ∀ report evicted, m.turn.outcome ≠ .done (.scanned report evicted)) :
    m.lacksReport = false := by
  simp only [lacksReport]
  split
  · exact absurd ‹_› (unscanned _ _)
  · rfl

/-- A step that does not scan makes no call, and its counters are those of the entries. -/
theorem Counts.of_unscanned
    (unscanned : ∀ report evicted, m.turn.outcome ≠ .done (.scanned report evicted))
    (uncalled : m.calls = [])
    (entries : m.turn.reactor.queue.size + m.turn.reactor.metrics.purged +
        m.turn.reactor.metrics.evicted + m.before.metrics.queued.total =
      m.before.queue.size + m.before.metrics.purged + m.before.metrics.evicted +
        m.turn.reactor.metrics.queued.total)
    (dispatched : m.turn.reactor.metrics.dispatched = m.before.metrics.dispatched)
    (failed : m.turn.reactor.metrics.failed = m.before.metrics.failed)
    (aborted : m.turn.reactor.metrics.aborted = m.before.metrics.aborted) :
    m.Counts settings where
  entries := by
    rw [scanned_of_unscanned unscanned]
    exact entries
  dispatched k := by
    rw [dispatched, uncalled, kindsOf_nil, Nat.add_zero]
  failed k := by
    rw [failed, refused_of_uncalled uncalled, kindsOf_nil, Nat.add_zero]
  aborted := by
    rw [aborted, lacksReport_of_unscanned unscanned]
    rfl
  called := by
    rw [scanned_of_unscanned unscanned, uncalled]
    rfl
  accounted := by
    rw [scanned_of_unscanned unscanned]
    exact fun _ none => absurd none List.not_mem_nil

end Moment

/-- A notification is counted as one entry more, or as entries purged. -/
theorem Reactor.handle_counts (r : Reactor) (n : Notification) :
    let left := (r.handle n).2
    (∀ report evicted, (r.handle n).1 ≠ .scanned report evicted) ∧
      left.queue.size + left.metrics.purged + left.metrics.evicted + r.metrics.queued.total =
        r.queue.size + r.metrics.purged + r.metrics.evicted + left.metrics.queued.total ∧
      left.metrics.dispatched = r.metrics.dispatched ∧
      left.metrics.failed = r.metrics.failed ∧ left.metrics.aborted = r.metrics.aborted := by
  have handled := r.handle_handling n
  have counted := r.handle_metrics n
  generalize (r.handle n).1 = answer at *
  generalize (r.handle n).2 = left at *
  dsimp only
  rw [counted]
  generalize left.queue = queue at *
  cases handled with
  | @queued e read stands =>
    refine ⟨fun _ _ => Step.noConfusion, ?_, rfl, rfl, rfl⟩
    have placed : (r.queue.insert e).size = r.queue.size + 1 := Queue.length_place e _
    simp only [Metrics.answered, placed, Tally.total_bump]
    omega
  | @purged e read gone =>
    refine ⟨fun _ _ => Step.noConfusion, ?_, rfl, rfl, rfl⟩
    have taken := r.queue.size_removeMatching e
    simp only [Metrics.answered]
    omega
  | ignored => exact ⟨fun _ _ => Step.noConfusion, rfl, rfl, rfl, rfl⟩

/-- A tick counts the calls of its scan with what they retire, the leftovers, and a scan without a
report. -/
theorem Moment.Counts.of_tick {m : Moment} {answers : Answers} (move : m.move = .step answers)
    (turn : m.turn = m.before.tick settings answers) : m.Counts settings := by
  cases height : answers.height with
  | error e =>
    rw [m.before.tick_unread settings height] at turn
    apply Moment.Counts.of_unscanned
    · intro report evicted same
      rw [turn] at same
      cases same
    · rw [calls, turn]
      rfl
    all_goals rw [turn]
  | ok latest =>
    obtain ⟨counts, called, sound⟩ := Scan.scan_counts settings answers latest m
    obtain ⟨done, queue, requests⟩ := m.before.tick_read settings height
    have metrics := m.before.tick_metrics settings height
    rw [← turn] at done queue requests metrics
    have scanned : m.scanned settings = m.visits settings answers latest := by
      simp only [Moment.scanned, move, done, height]
    have calls : m.calls = (m.visits settings answers latest).flatMap Scan.Visit.calls := by
      rw [Moment.calls, requests, callsOf_height, called]
    have refused : m.refused = answers.refused 0 m.calls := by simp only [Moment.refused, move]
    generalize scan settings answers latest m.before.queue m.before.metrics = outcome at *
    constructor
    case entries =>
      have kept := counts.entries
      have swept := outcome.pass.queue.size_evict latest settings.depth
      rw [scanned, metrics, queue, counts.queued, counts.evicted]
      simp only [Scan.opening] at kept ⊢
      omega
    case dispatched =>
      intro k
      rw [metrics, calls]
      exact counts.dispatched k
    case failed =>
      intro k
      rw [metrics, refused, calls]
      exact counts.failed k
    case aborted =>
      have reported : m.lacksReport = outcome.result.toOption.isNone := by
        rw [Moment.lacksReport, done]
        cases outcome.result with
        | ok | error => rfl
      rw [metrics, reported, counts.aborted]
      rfl
    case called => rw [scanned, calls]
    case accounted =>
      intro v hv
      rw [scanned] at hv
      exact (sound v hv).accounted

theorem Moment.Counts.of_acts {m : Moment}
    (acts : Acts settings m.before m.move (m.before.look m.move) m.turn) : m.Counts settings := by
  obtain ⟨move, before, turn⟩ := m
  dsimp only at acts
  generalize before.look move = found at acts
  cases acts with
  | closed | unsubscribed | waited =>
    exact .of_unscanned (fun _ _ => Outcome.noConfusion) rfl rfl rfl rfl rfl
  | received index n rest =>
    let r : Reactor :=
      { before with
        cursor := before.cursorBehind index move, streams := before.streams.set index rest }
    obtain ⟨unscanned, entries, dispatched, failed, aborted⟩ := r.handle_counts n
    refine .of_unscanned ?_ rfl entries dispatched failed aborted
    intro report evicted same
    exact unscanned report evicted (Outcome.done.inj same)
  | looked pending => exact .of_tick rfl rfl

/-- What the metrics of a reactor say about the steps behind it. What was queued is pending, purged,
evicted, or was retired by a call, and each call retires an entry at least. -/
structure Reactor.Balances (settings : Settings) (r : Reactor) (past : List Moment) : Prop where
  entries : r.metrics.queued.total = r.queue.size + r.metrics.purged + r.metrics.evicted +
    Scan.retired (past.flatMap fun m => m.scanned settings)
  accounted : ∀ m ∈ past, ∀ v ∈ m.scanned settings, v.Accounted
  called : ∀ m ∈ past, m.calls = (m.scanned settings).flatMap Scan.Visit.calls
  dispatched : ∀ k, r.metrics.dispatched.count k = kindsOf (past.flatMap Moment.calls) k
  failed : ∀ k, r.metrics.failed.count k = kindsOf (past.flatMap Moment.refused) k
  aborted : r.metrics.aborted = past.countP Moment.lacksReport

namespace Reactor.Balances

variable {r : Reactor} {past : List Moment}

theorem start : Reactor.start.Balances settings [] where
  entries := rfl
  accounted _ none := absurd none List.not_mem_nil
  called _ none := absurd none List.not_mem_nil
  dispatched _ := rfl
  failed _ := rfl
  aborted := rfl

/-- Streams are not counted. -/
theorem withStreams (h : r.Balances settings past) (streams : List Stream) :
    { r with streams }.Balances settings past where
  entries := h.entries
  accounted := h.accounted
  called := h.called
  dispatched := h.dispatched
  failed := h.failed
  aborted := h.aborted

theorem step {m : Moment} (h : m.before.Balances settings past) (counts : m.Counts settings) :
    m.turn.reactor.Balances settings (past ++ [m]) where
  entries := by
    have before := h.entries
    have during := counts.entries
    rw [List.flatMap_append, Scan.retired_append, List.flatMap_singleton]
    omega
  accounted := by
    intro m' hm'
    rcases List.mem_append.mp hm' with earlier | last
    · exact h.accounted m' earlier
    · exact List.mem_singleton.mp last ▸ counts.accounted
  called := by
    intro m' hm'
    rcases List.mem_append.mp hm' with earlier | last
    · exact h.called m' earlier
    · exact List.mem_singleton.mp last ▸ counts.called
  dispatched k := by
    rw [counts.dispatched, h.dispatched, List.flatMap_append, kindsOf_append,
      List.flatMap_singleton]
  failed k := by
    rw [counts.failed, h.failed, List.flatMap_append, kindsOf_append, List.flatMap_singleton]
  aborted := by
    rw [counts.aborted, h.aborted, List.countP_append, List.countP_singleton]

/-- Not more is pending, purged, evicted and forwarded than was queued. -/
theorem bounded (h : r.Balances settings past) :
    r.queue.size + r.metrics.purged + r.metrics.evicted + r.metrics.dispatched.total ≤
      r.metrics.queued.total := by
  have calls : past.flatMap Moment.calls =
      (past.flatMap fun m => m.scanned settings).flatMap Scan.Visit.calls := by
    rw [List.flatMap_assoc]
    exact List.flatMap_congr h.called
  have counted := Tally.total_kindsOf h.dispatched
  have each : ∀ v ∈ past.flatMap fun m => m.scanned settings, v.Accounted := by
    intro v hv
    obtain ⟨m, hm, during⟩ := List.mem_flatMap.mp hv
    exact h.accounted m hm v during
  have retired := Scan.length_calls_le_retired each
  have entries := h.entries
  rw [calls] at counted
  omega

end Reactor.Balances

end Steps

/-- The metrics balance after every step of every run. -/
theorem metrics_balance (settings : Settings) (moves : List Move) :
    let r := (Watch.start.after settings moves).reactor
    let past := Watch.start.history settings moves
    r.Balances settings past ∧
      r.queue.size + r.metrics.purged + r.metrics.evicted + r.metrics.dispatched.total ≤
        r.metrics.queued.total := by
  have first : Watch.start.reactor.Balances settings [] := .start
  have balances := Watch.after_of_steps (fun _ _ streams h => h.withStreams streams)
    (fun _ _ acts h => h.step (.of_acts acts)) first moves
  rw [List.nil_append] at balances
  exact ⟨balances, balances.bounded⟩

end StarWatch
