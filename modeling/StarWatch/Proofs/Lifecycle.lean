import StarWatch.Proofs.Run

/-!
# The life of pending events

Seen by log identities, the queue is a count for each of them. `Lifecycle` says
how the counts change: a live notification adds one, a removed notice clears,
a call clears what was pending, an eviction clears what has aged, and nothing
else changes anything. Every run is a `Trace` of such changes, with the answers
and the calls of its steps. So an identity that was called, taken back or
evicted is not called again before a live notification queues it again.
-/

namespace StarWatch

/-- What a run does to the pending counts, as it can be seen from outside: a live notification and
its answer, a log that a scan came to, with the entries reported as purged and the calls, an
eviction with its count, or none of these. -/
inductive Happening where
  | live (event? : Option PendingEvent) (answer : Step)
  | pulled (latest : Word) (event? : Option PendingEvent) (purged : Nat) (calls : List Notice)
  | evicted (latest : Word) (count : Nat)
  | idle

/-- How a happening changes the pending counts. -/
inductive Lifecycle (depth : Nat) : Counts → Happening → Counts → Prop
  | queued {m : Counts} {e : PendingEvent} (stands : e.removed = false) :
      Lifecycle depth m (.live (some e) (.queued e.kind)) (m + Finsupp.single e.identity 1)
  | withdrawn {m : Counts} {e : PendingEvent} (gone : e.removed = true) :
      Lifecycle depth m (.live (some e) (.purged (m e.identity))) (m.erase e.identity)
  | ignored {m : Counts} : Lifecycle depth m (.live none .ignored) m
  | purged {m : Counts} {latest : Word} {e : PendingEvent} (gone : e.removed = true) :
      Lifecycle depth m (.pulled latest (some e) (m e.identity) []) (m.erase e.identity)
  | forwarded {m : Counts} {latest : Word} {e : PendingEvent} {time : Instant} {notice : Notice}
      (stands : e.removed = false) (deep : e.block.Deep latest depth)
      (pending : 1 ≤ m e.identity) (sent : (e.stamp time).notice? = some notice) :
      Lifecycle depth m (.pulled latest (some e) 0 [notice]) (m.erase e.identity)
  | passed {m : Counts} {latest : Word} {e : PendingEvent} (stands : e.removed = false) :
      Lifecycle depth m (.pulled latest (some e) 0 []) m
  | unread {m : Counts} {latest : Word} : Lifecycle depth m (.pulled latest none 0 []) m
  | evicted {m : Counts} {latest : Word} :
      Lifecycle depth m
        (.evicted latest (m.filter fun id => id.block.Aged latest depth).degree)
        (m.filter fun id => ¬ id.block.Aged latest depth)
  | idle {m : Counts} : Lifecycle depth m .idle m

inductive Trace (depth : Nat) : Counts → List Happening → Counts → Prop
  | nil (m : Counts) : Trace depth m [] m
  | cons {m m' m'' : Counts} {h : Happening} {rest : List Happening}
      (first : Lifecycle depth m h m') (later : Trace depth m' rest m'') :
      Trace depth m (h :: rest) m''

namespace Happening

def calls : Happening → List Notice
  | pulled _ _ _ calls => calls
  | _ => []

def purged : Happening → Nat
  | pulled _ _ purged _ => purged
  | _ => 0

def Queues (id : LogIdentity) : Happening → Prop
  | live (some e) (.queued _) => e.identity = id
  | _ => False

def Forwards (id : LogIdentity) : Happening → Prop
  | pulled _ (some e) _ calls => e.identity = id ∧ calls ≠ []
  | _ => False

/-- The identity was called, taken back by a removed notice, or evicted. -/
def Retires (depth : Nat) (id : LogIdentity) : Happening → Prop
  | live (some e) (.purged _) => e.identity = id
  | pulled _ (some e) _ calls => e.identity = id ∧ (e.removed = true ∨ calls ≠ [])
  | evicted latest _ => id.block.Aged latest depth
  | _ => False

theorem Forwards.retires {depth : Nat} {id : LogIdentity} {h : Happening}
    (forwards : h.Forwards id) : h.Retires depth id := by
  match h with
  | pulled _ (some e) _ calls => exact ⟨forwards.1, .inr forwards.2⟩

end Happening

section Counting

variable {depth : Nat} {m m' m'' : Counts} {h : Happening} {id : LogIdentity}

theorem Lifecycle.answer_cases {event? : Option PendingEvent} {answer : Step}
    (step : Lifecycle depth m (.live event? answer) m') :
    (∃ kind, answer = .queued kind) ∨ (∃ count, answer = .purged count) ∨ answer = .ignored := by
  cases step with
  | queued => exact .inl ⟨_, rfl⟩
  | withdrawn => exact .inr (.inl ⟨_, rfl⟩)
  | ignored => exact .inr (.inr rfl)

theorem Lifecycle.pending_of_forwards (step : Lifecycle depth m h m') (forwards : h.Forwards id) :
    1 ≤ m id := by
  cases step with
  | forwarded stands deep pending sent => exact forwards.1 ▸ pending
  | purged => exact absurd rfl forwards.2
  | passed => exact absurd rfl forwards.2
  | _ => exact forwards.elim

theorem Lifecycle.zero_of_retires (step : Lifecycle depth m h m') (retires : h.Retires depth id) :
    m' id = 0 := by
  cases step with
  | withdrawn gone =>
    cases retires
    exact Finsupp.erase_same
  | purged gone =>
    rw [← retires.1]
    exact Finsupp.erase_same
  | forwarded stands deep pending sent =>
    rw [← retires.1]
    exact Finsupp.erase_same
  | passed stands =>
    rcases retires.2 with gone | called
    · rw [stands] at gone
      cases gone
    · exact absurd rfl called
  | evicted =>
    rw [Finsupp.filter_apply, if_neg]
    exact not_not_intro retires
  | _ => exact retires.elim

/-- Only a live insertion raises a count from zero. -/
theorem Lifecycle.stays_zero (step : Lifecycle depth m h m') (zero : m id = 0)
    (unqueued : ¬ h.Queues id) : m' id = 0 := by
  cases step with
  | queued =>
    rw [Finsupp.add_apply, zero, Finsupp.single_apply, zero_add]
    exact if_neg unqueued
  | withdrawn | purged | forwarded =>
    rw [Finsupp.erase_apply, zero, ite_self]
  | evicted => rw [Finsupp.filter_apply, zero, ite_self]
  | _ => exact zero

theorem Trace.append {hs hs' : List Happening} (first : Trace depth m hs m')
    (later : Trace depth m' hs' m'') : Trace depth m (hs ++ hs') m'' := by
  induction first with
  | nil => exact later
  | cons step _ ih => exact .cons step (ih later)

theorem Trace.split {hs hs' : List Happening} (trace : Trace depth m (hs ++ hs') m'') :
    ∃ m', Trace depth m hs m' ∧ Trace depth m' hs' m'' := by
  induction hs generalizing m with
  | nil => exact ⟨m, .nil m, trace⟩
  | cons h rest ih =>
    cases trace with
    | cons step later =>
      obtain ⟨m', before, after⟩ := ih later
      exact ⟨m', .cons step before, after⟩

theorem Trace.stays_zero {hs : List Happening} (trace : Trace depth m hs m') (zero : m id = 0)
    (unqueued : ∀ h ∈ hs, ¬ h.Queues id) : m' id = 0 := by
  induction trace with
  | nil => exact zero
  | cons step _ ih =>
    have next := step.stays_zero zero (unqueued _ List.mem_cons_self)
    exact ih next fun h hh => unqueued h (List.mem_cons_of_mem _ hh)

/-- Between a retirement of an identity and a later call for it, it was queued live. -/
theorem Trace.queued_between {earlier between later : List Happening} {first second : Happening}
    (trace : Trace depth m (earlier ++ first :: (between ++ second :: later)) m')
    (retires : first.Retires depth id) (forwards : second.Forwards id) :
    ∃ h ∈ between, h.Queues id := by
  obtain ⟨_, _, trace⟩ := trace.split
  cases trace with
  | cons step trace =>
    obtain ⟨m₂, middle, trace⟩ := trace.split
    cases trace with
    | cons call _ =>
      by_contra unqueued
      push Not at unqueued
      have zero := middle.stays_zero (step.zero_of_retires retires) unqueued
      have pending := call.pending_of_forwards forwards
      omega

end Counting

namespace Scan

def Visit.happening (answers : Answers) (latest : Word) (v : Visit) : Happening :=
  .pulled latest (eventOf? answers v.log) (v.after.report.purged - v.before.report.purged) v.calls

section Visits

variable {answers : Answers} {latest : Word} {depth : Nat}

theorem settle_purged (answers : Answers) (p : Pass) (verdict : Verdict) :
    p.report.purged ≤ (p.settle answers verdict).report.purged := by
  cases verdict with
  | removed event => exact Nat.le_add_right _ _
  | confirmed event time =>
    obtain ⟨notice, sent⟩ := exists_notice event time
    simp [settle_confirmed answers p sent]
  | _ => exact Nat.le_refl _

theorem Visit.Sound.lifecycle {v : Visit} (sound : v.Sound answers latest depth) :
    Lifecycle depth v.before.queue.counts (v.happening answers latest) v.after.queue.counts := by
  have called := sound.calls_eq
  obtain ⟨meant, settled⟩ := sound
  rw [happening, called, settled]
  generalize v.verdict = verdict at meant
  cases meant with
  | ignored unread | undecodable unread =>
    simpa [unread, Pass.settle, Verdict.requests] using Lifecycle.unread
  | @removed event read gone =>
    have cleared : (v.before.settle answers (.removed event)).queue.counts =
        v.before.queue.counts.erase event.identity := v.before.queue.counts_removeMatching event
    have counted : (v.before.settle answers (.removed event)).report.purged -
        v.before.report.purged = v.before.queue.counts event.identity := by
      rw [← Queue.countMatching_eq_counts]
      exact Nat.add_sub_cancel_left _ _
    rw [read, cleared, counted]
    exact .purged gone
  | pending read stands | untracked read stands | unavailable read stands =>
    simpa [read, Pass.settle, Verdict.requests] using Lifecycle.passed stands
  | @confirmed event time read stands deep present timed =>
    obtain ⟨notice, sent⟩ := exists_notice event time
    rw [Queue.contains_iff_counts_pos] at present
    have step : Lifecycle depth v.before.queue.counts (.pulled latest (some event) 0 [notice])
        (v.before.queue.counts.erase event.identity) := .forwarded stands deep present sent
    simpa [read, settle_confirmed answers v.before sent, Verdict.requests, sent,
      Queue.counts_removeMatching] using step

variable {p final : Pass} {logs : List Log} {visited : List Visit} {stop : Option PipelineError}

theorem Course.trace (h : Course answers latest depth p logs visited final stop) :
    Trace depth p.queue.counts (visited.map (Visit.happening answers latest))
      final.queue.counts := by
  have sound := h.sound
  induction h with
  | done => exact .nil _
  | stop => exact .cons (sound _ List.mem_cons_self).lifecycle (.nil _)
  | go _ _ _ ih =>
    exact .cons (sound _ List.mem_cons_self).lifecycle
      (ih fun v hv => sound v (List.mem_cons_of_mem _ hv))

/-- The purged entries that a pass reports are those of its visits. -/
theorem Course.purged_eq (h : Course answers latest depth p logs visited final stop) :
    final.report.purged =
      p.report.purged + (visited.map fun v => (v.happening answers latest).purged).sum := by
  induction h with
  | done => rfl
  | @stop p log rest block cause =>
    have grown := settle_purged answers p (.unavailable block cause)
    simp only [List.map_cons, List.map_nil, List.sum_cons, List.sum_nil, Visit.happening,
      Happening.purged]
    omega
  | @go p final log rest verdict =>
    have grown := settle_purged answers p verdict
    simp only [List.map_cons, List.sum_cons, Visit.happening, Happening.purged] at *
    omega

end Visits

/-- The report of a scan that ended counts what its visits purged and called. -/
theorem scan_reported {settings : Settings} {answers : Answers} {queue : Queue} (latest : Word)
    (metrics : Metrics) {logs : List Log} {report : ScanReport}
    (answered : answers.logs settings.contract queue.firstBlock = .ok logs)
    (ended : (scan settings answers latest queue metrics).result.toOption = some report) :
    let visited := visits answers latest settings.depth (opening settings queue metrics logs) logs
    report.purged = (visited.map fun v => (v.happening answers latest).purged).sum ∧
      report.dispatched = (visited.flatMap Visit.calls).length := by
  rcases scan_answered latest metrics answered with ⟨went, result⟩ | ⟨cause, _, result⟩
  · rw [result] at ended
    cases ended
    have purged := went.purged_eq
    have dispatched := went.dispatched_eq
    simp only [opening, ScanReport.start, Nat.zero_add] at purged dispatched
    exact ⟨purged, dispatched⟩
  · rw [result] at ended
    cases ended

end Scan

/-- What a step of a run does to the counts, by its answer. -/
def Moment.happenings (settings : Settings) (m : Moment) : List Happening :=
  match m.turn.outcome with
  | .done (.scanned _ evicted) =>
    match m.move with
    | .step answers =>
      match answers.height with
      | .ok latest =>
        (m.visits settings answers latest).map (Scan.Visit.happening answers latest) ++
          [.evicted latest evicted]
      | .error _ => []
    | _ => []
  | .done .heightUnavailable => [.idle]
  | .done answer => [.live ((m.before.taken? m.move).bind PendingEvent.ofNotification?) answer]
  | _ => [.idle]

/-- What the happenings of a step have to do with the step. -/
structure Moment.Reflected (settings : Settings) (m : Moment) : Prop where
  trace : Trace settings.depth m.before.queue.counts (m.happenings settings)
    m.turn.reactor.queue.counts
  calls : callsOf m.turn.requests = (m.happenings settings).flatMap Happening.calls
  reported : ∀ report evicted, m.turn.outcome = .done (.scanned (some report) evicted) →
    report.purged = ((m.happenings settings).map Happening.purged).sum ∧
      report.dispatched = (callsOf m.turn.requests).length

section Steps

variable (settings : Settings)

/-- A notification is queued, taken for a removal, or ignored. -/
theorem handle_lifecycle (depth : Nat) (r : Reactor) (n : Notification) :
    Lifecycle depth r.queue.counts (.live (PendingEvent.ofNotification? n) (r.handle n).1)
      (r.handle n).2.queue.counts := by
  have handling := r.handle_handling n
  generalize (r.handle n).1 = answer at handling
  generalize (r.handle n).2.queue = queue at handling
  cases handling with
  | queued read stands =>
    rw [read, Queue.counts_insert]
    exact .queued stands
  | purged read gone =>
    rw [read, Queue.countMatching_eq_counts, Queue.counts_removeMatching]
    exact .withdrawn gone
  | ignored unread =>
    rw [unread]
    exact .ignored

theorem happenings_receive {move : Move} {before : Reactor} {n : Notification}
    (taken : before.taken? move = some n) (r : Reactor) (index : Nat) (rest : Stream) :
    Moment.happenings settings ⟨move, before, r.receive index n rest⟩ =
      [.live (PendingEvent.ofNotification? n)
        (({ r with streams := r.streams.set index rest } : Reactor).handle n).1] := by
  have step := handle_lifecycle 0 { r with streams := r.streams.set index rest } n
  rcases step.answer_cases with ⟨kind, queued⟩ | ⟨count, purged⟩ | ignored
  · simp only [Moment.happenings, Reactor.receive, taken, Option.bind_some, queued]
  · simp only [Moment.happenings, Reactor.receive, taken, Option.bind_some, purged]
  · simp only [Moment.happenings, Reactor.receive, taken, Option.bind_some, ignored]

theorem receive_reflected {move : Move} {before : Reactor} {n : Notification}
    (taken : before.taken? move = some n) (index cursor : Nat) (rest : Stream) :
    Moment.Reflected settings
      ⟨move, before, { before with cursor }.receive index n rest⟩ := by
  have happened :=
    happenings_receive settings taken { before with cursor } index rest
  have step := handle_lifecycle settings.depth
    { before with cursor, streams := before.streams.set index rest } n
  constructor
  · rw [happened]
    exact .cons step (.nil _)
  · rw [happened]
    rfl
  · intro report evicted scanned
    simp only [Reactor.receive, Outcome.done.injEq] at scanned
    rcases step.answer_cases with ⟨kind, queued⟩ | ⟨count, purged⟩ | ignored
    · cases queued.symm.trans scanned
    · cases purged.symm.trans scanned
    · cases ignored.symm.trans scanned

theorem happenings_tick (before : Reactor) {answers : Answers} {latest : Word}
    (height : answers.height = .ok latest) :
    let moment : Moment := ⟨.step answers, before, before.tick settings answers⟩
    let left := (scan settings answers latest before.queue before.metrics).pass.queue
    moment.happenings settings =
      (moment.visits settings answers latest).map (Scan.Visit.happening answers latest) ++
        [.evicted latest (left.leftovers latest settings.depth).length] := by
  obtain ⟨outcome, _⟩ := before.tick_read settings height
  simp only [Moment.happenings, outcome, height]

/-- An eviction removes what has aged, and reports how much that was. -/
theorem evict_lifecycle (latest : Word) (depth : Nat) (q : Queue) :
    Lifecycle depth q.counts (.evicted latest (q.leftovers latest depth).length)
      (q.evict latest depth).counts := by
  rw [Queue.length_leftovers, Queue.counts_evict]
  exact .evicted

theorem tick_reflected (before : Reactor) (answers : Answers) :
    Moment.Reflected settings ⟨.step answers, before, before.tick settings answers⟩ := by
  cases height : answers.height with
  | error e =>
    rw [before.tick_unread settings height]
    exact ⟨.cons .idle (.nil _), rfl, fun _ _ scanned => by cases scanned⟩
  | ok latest =>
    have happened := happenings_tick settings before height
    obtain ⟨outcome, queue, requests⟩ := before.tick_read settings height
    have evicted := evict_lifecycle latest settings.depth
      (scan settings answers latest before.queue before.metrics).pass.queue
    cases answered : answers.logs settings.contract before.queue.firstBlock with
    | error e =>
      simp only [Moment.visits, answered, List.map_nil, List.nil_append] at happened
      rw [Scan.scan_refused latest before.metrics answered] at *
      constructor
      · rw [happened, queue]
        exact .cons evicted (.nil _)
      · rw [happened, requests]
        rfl
      · intro report evicted scanned
        rw [outcome] at scanned
        cases scanned
    | ok logs =>
      simp only [Moment.visits, answered] at happened
      obtain ⟨stop, went⟩ := Scan.course_of_answered latest before.metrics answered
      have called := went.calls_eq
      simp only [Scan.opening, callsOf_logs, callsOf_nil, List.nil_append] at called
      constructor
      · rw [happened, queue]
        exact went.trace.append (.cons evicted (.nil _))
      · rw [happened, requests, callsOf_height, List.flatMap_append, List.flatMap_map, called]
        exact (List.append_nil _).symm
      · intro report count scanned
        rw [outcome] at scanned
        simp only [Outcome.done.injEq, Step.scanned.injEq] at scanned
        obtain ⟨purged, dispatched⟩ := Scan.scan_reported latest before.metrics answered scanned.1
        rw [happened, requests, callsOf_height, called, List.map_append, List.sum_append,
          List.map_map]
        exact ⟨purged, dispatched⟩

theorem Acts.reflected {before : Reactor} {move : Move} {turn : Turn}
    (acts : Acts settings before move (before.look move) turn) :
    Moment.Reflected settings ⟨move, before, turn⟩ := by
  generalize found : before.look move = ready at acts
  cases acts with
  | closed | unsubscribed | waited =>
    exact ⟨.cons .idle (.nil _), rfl, fun _ _ scanned => by cases scanned⟩
  | received index n rest =>
    have taken : before.taken? move = some n := congrArg Stream.Ready.notification? found
    exact receive_reflected settings taken index _ rest
  | looked => exact tick_reflected settings before _

end Steps

namespace Watch

variable (settings : Settings) (w : Watch) (moves : List Move)

def happenings : List Happening :=
  (w.history settings moves).flatMap (Moment.happenings settings)

theorem history_reflected :
    ∀ moment ∈ w.history settings moves, moment.Reflected settings :=
  fun moment during => (history_acts moment during).reflected settings

/-- Every run is a trace. Moves from outside add nothing to it, since they leave the queue. -/
theorem trace_happenings :
    Trace settings.depth w.reactor.queue.counts (w.happenings settings moves)
      (w.after settings moves).reactor.queue.counts := by
  induction moves generalizing w with
  | nil => exact .nil _
  | cons move rest ih =>
    have later := ih (w.next settings move)
    simp only [happenings, history, after, List.foldl_cons] at later ⊢
    cases took : w.turn? settings move with
    | none =>
      have same : (w.next settings move).reactor.queue = w.reactor.queue := by
        simp only [next, took, outside_queue]
      rw [same] at later
      exact later
    | some turn =>
      have reached : (w.next settings move).reactor = turn.reactor := by
        simp only [next, took]
      rw [reached] at later
      rw [List.flatMap_cons]
      exact ((turn?_acts took).reflected settings).trace.append later

/-- Every run goes by the life of its events, step by step, with the answers and the calls of the
steps. An identity that was retired was queued live again before the next call for it. -/
theorem queue_follows_lifecycle :
    Trace settings.depth w.reactor.queue.counts (w.happenings settings moves)
        (w.after settings moves).reactor.queue.counts ∧
      (∀ moment ∈ w.history settings moves, moment.Reflected settings) ∧
      ∀ id earlier first between second later,
        w.happenings settings moves = earlier ++ first :: (between ++ second :: later) →
        first.Retires settings.depth id → second.Forwards id → ∃ h ∈ between, h.Queues id := by
  have trace := w.trace_happenings settings moves
  refine ⟨trace, w.history_reflected settings moves, ?_⟩
  intro id earlier first between second later split retires forwards
  rw [split] at trace
  exact trace.queued_between retires forwards

end Watch

end StarWatch
