import StarWatch.Proofs.Pending
import StarWatch.Scan

/-!
# Scan passes log by log

`visits` keeps the logs that a pass comes to, each with the verdict on it and
with the pass before and after. `Meaning` spells out what a verdict tells, and
`Course` is the induction that facts about whole passes go by: a pass ends with
its logs, or at the first verdict that stops it.
-/

namespace StarWatch

section Calls

variable (rest : List Request)

@[simp] theorem callsOf_nil : callsOf [] = [] := rfl

@[simp] theorem callsOf_height : callsOf (.height :: rest) = callsOf rest := rfl

@[simp] theorem callsOf_logs (contract : Address) (fromBlock : Word) :
    callsOf (.logs contract fromBlock :: rest) = callsOf rest := rfl

@[simp] theorem callsOf_block (height : Word) :
    callsOf (.block height :: rest) = callsOf rest := rfl

@[simp] theorem callsOf_call (notice : Notice) :
    callsOf (.call notice :: rest) = notice :: callsOf rest := rfl

@[simp] theorem callsOf_append (first : List Request) :
    callsOf (first ++ rest) = callsOf first ++ callsOf rest :=
  List.filterMap_append

end Calls

def Verdict.stop? : Verdict → Option PipelineError
  | unavailable _ cause => some cause
  | _ => none

def Verdict.leaves (queue : Queue) : Verdict → Queue
  | removed event => queue.removeMatching event
  | confirmed event _ => queue.removeMatching event
  | _ => queue

def Verdict.requests : Verdict → List Request
  | unavailable block _ => [.block block]
  | confirmed event time =>
    .block event.block :: ((event.stamp time).notice?.map Request.call).toList
  | _ => []

theorem Verdict.leaves_sublist (queue : Queue) (verdict : Verdict) :
    (verdict.leaves queue).entries.Sublist queue.entries := by
  cases verdict with
  | removed | confirmed => exact List.filter_sublist
  | _ => exact List.Sublist.refl _

namespace Scan

/-- The event that a log is read as: its signature is tracked, it is decoded, and its payload
is of the kind that the signature names. -/
def eventOf? (answers : Answers) (log : Log) : Option PendingEvent :=
  match log.kind?, answers.payload log with
  | some _, .ok payload => PendingEvent.ofLog? payload log
  | _, _ => none

theorem eventOf?_eq_some {answers : Answers} {log : Log} {event : PendingEvent}
    (read : eventOf? answers log = some event) :
    ∃ kind payload, log.kind? = some kind ∧ answers.payload log = .ok payload ∧
      PendingEvent.ofLog? payload log = some event := by
  simp only [eventOf?] at read
  split at read
  · exact ⟨_, _, ‹_›, ‹_›, read⟩
  · cases read

theorem eventOf?_block {answers : Answers} {log : Log} {event : PendingEvent}
    (read : eventOf? answers log = some event) : event.block = log.block := by
  obtain ⟨_, _, _, _, made⟩ := eventOf?_eq_some read
  exact (PendingEvent.ofLog?_fields made).1

theorem blockTime_eq_ok {answers : Answers} {n : Nat} {height : Word} {time : Instant}
    (timed : blockTime answers n height = .ok time) :
    ∃ header, answers.block n height = .ok header ∧ time = ⟨header.timestamp.toNat, 0⟩ := by
  simp only [blockTime, Block.time?, Instant.ofTimestamp?] at timed
  cases looked : answers.block n height with
  | error e => simp [looked] at timed
  | ok header =>
    by_cases within : header.timestamp.toNat ≤ Instant.maxSeconds
    · simp only [looked, if_pos within, Except.ok.injEq] at timed
      exact ⟨header, rfl, timed.symm⟩
    · simp [looked, within] at timed

/-- A log of a pass, between the pass before it and the pass after it. -/
structure Visit where
  log : Log
  verdict : Verdict
  before : Pass
  after : Pass

def Visit.requests (v : Visit) : List Request := v.after.requests.drop v.before.requests.length

def Visit.calls (v : Visit) : List Notice := callsOf v.requests

def visits (answers : Answers) (latest : Word) (depth : Nat) : Pass → List Log → List Visit
  | _, [] => []
  | p, log :: rest =>
    let verdict := judge answers latest depth p.queue p.report.dispatched log
    let after := p.settle answers verdict
    { log, verdict, before := p, after } ::
      match verdict.stop? with
      | some _ => []
      | none => visits answers latest depth after rest

section Verdicts

variable (answers : Answers) (latest : Word) (depth : Nat) (queue : Queue) (n : Nat) (log : Log)

/-- What each verdict means for its log. -/
inductive Meaning : Verdict → Prop
  | ignored (unread : eventOf? answers log = none) : Meaning .ignored
  | undecodable (unread : eventOf? answers log = none) : Meaning .undecodable
  | removed {event : PendingEvent} (read : eventOf? answers log = some event)
      (gone : event.removed = true) : Meaning (.removed event)
  | pending {event : PendingEvent} (read : eventOf? answers log = some event)
      (stands : event.removed = false) (shallow : ¬ event.block.Deep latest depth) :
      Meaning .pending
  | untracked {event : PendingEvent} (read : eventOf? answers log = some event)
      (stands : event.removed = false) (deep : event.block.Deep latest depth)
      (absent : queue.contains event = false) : Meaning .untracked
  | unavailable {event : PendingEvent} {cause : PipelineError}
      (read : eventOf? answers log = some event) (stands : event.removed = false)
      (deep : event.block.Deep latest depth) (present : queue.contains event = true)
      (failed : blockTime answers n event.block = .error cause) :
      Meaning (.unavailable event.block cause)
  | confirmed {event : PendingEvent} {time : Instant}
      (read : eventOf? answers log = some event) (stands : event.removed = false)
      (deep : event.block.Deep latest depth) (present : queue.contains event = true)
      (timed : blockTime answers n event.block = .ok time) : Meaning (.confirmed event time)

theorem judgeEvent_meaning {event : PendingEvent} (read : eventOf? answers log = some event) :
    Meaning answers latest depth queue n log (judgeEvent answers latest depth queue n event) := by
  simp only [judgeEvent]
  by_cases gone : event.removed = true
  · rw [if_pos gone]
    exact .removed read gone
  rw [if_neg gone]
  rw [Bool.not_eq_true] at gone
  by_cases deep : event.isConfirmed latest depth = true
  · rw [if_neg (by simp [deep])]
    rw [PendingEvent.isConfirmed_iff] at deep
    by_cases present : queue.contains event = true
    · rw [if_neg (by simp [present])]
      cases timed : blockTime answers n event.block with
      | error cause => exact .unavailable read gone deep present timed
      | ok time => exact .confirmed read gone deep present timed
    · rw [if_pos (by simp [present])]
      exact .untracked read gone deep (by simpa using present)
  · rw [if_pos (by simp [deep])]
    exact .pending read gone (mt (PendingEvent.isConfirmed_iff event latest depth).mpr deep)

theorem judge_meaning :
    Meaning answers latest depth queue n log (judge answers latest depth queue n log) := by
  simp only [judge]
  cases tracked : log.kind? with
  | none => exact .ignored (by simp [eventOf?, tracked])
  | some kind =>
    cases decoded : answers.payload log with
    | error e => exact .undecodable (by simp [eventOf?, tracked, decoded])
    | ok payload =>
      have read : eventOf? answers log = PendingEvent.ofLog? payload log := by
        simp [eventOf?, tracked, decoded]
      cases made : PendingEvent.ofLog? payload log with
      | none =>
        simp only [made]
        exact .ignored (read.trans made)
      | some event =>
        simp only [made]
        exact judgeEvent_meaning answers latest depth queue n log (read.trans made)

variable {answers latest depth queue n log}

/-- What becomes of a confirmed event of an entry depends only on the time of its block. -/
theorem Meaning.of_present {verdict : Verdict} {event : PendingEvent}
    (meant : Meaning answers latest depth queue n log verdict)
    (read : eventOf? answers log = some event) (stands : event.removed = false)
    (deep : event.block.Deep latest depth) (present : queue.contains event = true) :
    (∃ time, blockTime answers n event.block = .ok time ∧ verdict = .confirmed event time) ∨
      ∃ cause, blockTime answers n event.block = .error cause ∧
        verdict = .unavailable event.block cause := by
  cases meant with
  | ignored unread => simp [read] at unread
  | undecodable unread => simp [read] at unread
  | removed read' gone =>
    cases read.symm.trans read'
    simp [stands] at gone
  | pending read' _ shallow =>
    cases read.symm.trans read'
    exact absurd deep shallow
  | untracked read' _ _ absent =>
    cases read.symm.trans read'
    simp [present] at absent
  | @unavailable event' cause read' _ _ _ failed =>
    cases read.symm.trans read'
    exact .inr ⟨cause, failed, rfl⟩
  | @confirmed event' time read' _ _ _ timed =>
    cases read.symm.trans read'
    exact .inl ⟨time, timed, rfl⟩

theorem judge_of_present {event : PendingEvent} (read : eventOf? answers log = some event)
    (stands : event.removed = false) (deep : event.block.Deep latest depth)
    (present : queue.contains event = true) :
    judge answers latest depth queue n log =
      match blockTime answers n event.block with
      | .error cause => .unavailable event.block cause
      | .ok time => .confirmed event time := by
  have meant := judge_meaning answers latest depth queue n log
  rcases meant.of_present read stands deep present with
    ⟨time, timed, verdict⟩ | ⟨cause, failed, verdict⟩
  · rw [verdict, timed]
  · rw [verdict, failed]

end Verdicts

section Effects

variable (answers : Answers) (p : Pass)

/-- What a forwarded event leaves: one lookup, one call, and no entry for it in the queue. -/
theorem settle_confirmed {event : PendingEvent} {time : Instant} {notice : Notice}
    (sent : (event.stamp time).notice? = some notice) :
    p.settle answers (.confirmed event time) =
      { queue := p.queue.removeMatching event
        report := { p.report with dispatched := p.report.dispatched + 1 }
        requests := p.requests ++ [.block event.block, .call notice]
        metrics := countCall p.metrics event.kind (answers.call p.report.dispatched notice) } := by
  simp only [Pass.settle, Pass.forward, sent, List.append_assoc, List.singleton_append]
  rfl

theorem exists_notice (event : PendingEvent) (time : Instant) :
    ∃ notice, (event.stamp time).notice? = some notice :=
  ⟨_, rfl⟩

theorem settle_requests (verdict : Verdict) :
    (p.settle answers verdict).requests = p.requests ++ verdict.requests := by
  cases verdict with
  | confirmed event time =>
    obtain ⟨notice, sent⟩ := exists_notice event time
    simp [settle_confirmed answers p sent, Verdict.requests, sent]
  | unavailable block cause => rfl
  | _ => simp [Pass.settle, Verdict.requests]

theorem settle_queue (verdict : Verdict) :
    (p.settle answers verdict).queue = verdict.leaves p.queue := by
  cases verdict with
  | confirmed event time =>
    obtain ⟨notice, sent⟩ := exists_notice event time
    rw [settle_confirmed answers p sent]
    rfl
  | _ => rfl

/-- A verdict that goes on asks for nothing, or for a block and a call. -/
theorem requests_cases (verdict : Verdict) (goes : verdict.stop? = none) :
    verdict.requests = [] ∨
      ∃ event time notice, verdict = .confirmed event time ∧
        (event.stamp time).notice? = some notice ∧
        verdict.requests = [.block event.block, .call notice] := by
  cases verdict with
  | confirmed event time =>
    obtain ⟨notice, sent⟩ := exists_notice event time
    exact .inr ⟨event, time, notice, rfl, sent, by simp [Verdict.requests, sent]⟩
  | unavailable => cases goes
  | _ => exact .inl rfl

theorem settle_dispatched (verdict : Verdict) :
    (p.settle answers verdict).report.dispatched =
      p.report.dispatched + (callsOf verdict.requests).length := by
  cases verdict with
  | confirmed event time =>
    obtain ⟨notice, sent⟩ := exists_notice event time
    simp [settle_confirmed answers p sent, Verdict.requests, sent]
  | _ => simp [Pass.settle, Verdict.requests]

theorem visit_requests (log : Log) (verdict : Verdict) :
    Visit.requests ⟨log, verdict, p, p.settle answers verdict⟩ = verdict.requests := by
  rw [Visit.requests, settle_requests, List.drop_left]

theorem visit_calls (log : Log) (verdict : Verdict) :
    Visit.calls ⟨log, verdict, p, p.settle answers verdict⟩ = callsOf verdict.requests := by
  rw [Visit.calls, visit_requests]

end Effects

section Steps

variable {answers : Answers} {latest : Word} {depth : Nat} {p : Pass} {log : Log}
  {verdict : Verdict}

theorem settleAll_stop {cause : PipelineError} (rest : List Log)
    (judged : judge answers latest depth p.queue p.report.dispatched log = verdict)
    (stops : verdict.stop? = some cause) :
    settleAll answers latest depth p (log :: rest) = (p.settle answers verdict, some cause) := by
  simp only [settleAll, judged]
  cases verdict with
  | unavailable =>
    cases stops
    rfl
  | _ => cases stops

theorem settleAll_go (rest : List Log)
    (judged : judge answers latest depth p.queue p.report.dispatched log = verdict)
    (goes : verdict.stop? = none) :
    settleAll answers latest depth p (log :: rest) =
      settleAll answers latest depth (p.settle answers verdict) rest := by
  simp only [settleAll, judged]
  cases verdict with
  | unavailable => cases goes
  | _ => rfl

/-- A pass that has settled some logs goes on with the others. -/
theorem settleAll_append {reached : Pass} {first : List Log}
    (settled : settleAll answers latest depth p first = (reached, none)) (rest : List Log) :
    settleAll answers latest depth p (first ++ rest) =
      settleAll answers latest depth reached rest := by
  induction first generalizing p with
  | nil =>
    cases settled
    rfl
  | cons log later ih =>
    cases judged : (judge answers latest depth p.queue p.report.dispatched log).stop? with
    | some cause =>
      rw [settleAll_stop later rfl judged] at settled
      cases settled
    | none =>
      rw [settleAll_go later rfl judged] at settled
      rw [List.cons_append, settleAll_go _ rfl judged, ih settled]

end Steps

section Courses

variable (answers : Answers) (latest : Word) (depth : Nat)

/-- How a pass goes over logs: the visits it makes, where it ends, and what stopped it. -/
inductive Course : Pass → List Log → List Visit → Pass → Option PipelineError → Prop
  | done (p : Pass) : Course p [] [] p none
  | stop {p : Pass} {log : Log} {rest : List Log} {block : Word} {cause : PipelineError}
      (meant : Meaning answers latest depth p.queue p.report.dispatched log
        (.unavailable block cause)) :
      Course p (log :: rest)
        [⟨log, .unavailable block cause, p, p.settle answers (.unavailable block cause)⟩]
        (p.settle answers (.unavailable block cause)) (some cause)
  | go {p final : Pass} {log : Log} {rest : List Log} {verdict : Verdict} {visited : List Visit}
      {stop : Option PipelineError}
      (meant : Meaning answers latest depth p.queue p.report.dispatched log verdict)
      (goes : verdict.stop? = none)
      (later : Course (p.settle answers verdict) rest visited final stop) :
      Course p (log :: rest) (⟨log, verdict, p, p.settle answers verdict⟩ :: visited) final stop

theorem course (p : Pass) (logs : List Log) :
    Course answers latest depth p logs (visits answers latest depth p logs)
      (settleAll answers latest depth p logs).1 (settleAll answers latest depth p logs).2 := by
  induction logs generalizing p with
  | nil => exact .done p
  | cons log rest ih =>
    have meant := judge_meaning answers latest depth p.queue p.report.dispatched log
    simp only [visits, settleAll]
    generalize judge answers latest depth p.queue p.report.dispatched log = verdict at meant
    cases verdict with
    | unavailable block cause => exact .stop meant
    | _ => exact .go meant rfl (ih _)

/-- A visit's pass before it is the pass that has settled the logs before. -/
theorem visits_reached (p : Pass) (logs : List Log) :
    ∀ v ∈ visits answers latest depth p logs, ∃ earlier later,
      logs = earlier ++ v.log :: later ∧
        settleAll answers latest depth p earlier = (v.before, none) := by
  induction logs generalizing p with
  | nil => simp [visits]
  | cons log rest ih =>
    intro v hv
    simp only [visits] at hv
    rcases List.mem_cons.mp hv with first | later
    · exact ⟨[], rest, by rw [first]; rfl, by rw [first]; rfl⟩
    · cases judged : judge answers latest depth p.queue p.report.dispatched log with
      | unavailable block cause => simp [judged, Verdict.stop?] at later
      | _ =>
        simp only [judged, Verdict.stop?] at later
        obtain ⟨earlier, after, split, reached⟩ := ih _ v later
        refine ⟨log :: earlier, after, by rw [split, List.cons_append], ?_⟩
        simp only [settleAll, judged]
        exact reached

variable {answers latest depth}
variable {p final : Pass} {logs : List Log} {visited : List Visit} {stop : Option PipelineError}

structure Visit.Sound (answers : Answers) (latest : Word) (depth : Nat) (v : Visit) : Prop where
  meant : Meaning answers latest depth v.before.queue v.before.report.dispatched v.log v.verdict
  settled : v.after = v.before.settle answers v.verdict

theorem Visit.Sound.calls_eq {v : Visit} (sound : v.Sound answers latest depth) :
    v.calls = callsOf v.verdict.requests := by
  rw [← visit_calls answers v.before v.log, ← sound.settled]

theorem Visit.Sound.calls_confirmed {v : Visit} (sound : v.Sound answers latest depth)
    {event : PendingEvent} {time : Instant} (verdict : v.verdict = .confirmed event time) :
    ∃ notice, (event.stamp time).notice? = some notice ∧ v.calls = [notice] := by
  obtain ⟨notice, sent⟩ := exists_notice event time
  refine ⟨notice, sent, ?_⟩
  rw [sound.calls_eq, verdict]
  simp [Verdict.requests, sent]

/-- Only a confirmed event is called. -/
theorem Visit.Sound.calls_ne_nil_iff {v : Visit} (sound : v.Sound answers latest depth) :
    v.calls ≠ [] ↔ ∃ event time, v.verdict = .confirmed event time := by
  constructor
  · intro called
    rw [sound.calls_eq] at called
    cases verdict : v.verdict with
    | confirmed event time => exact ⟨event, time, rfl⟩
    | _ => simp [verdict, Verdict.requests] at called
  · rintro ⟨event, time, verdict⟩
    obtain ⟨notice, _, called⟩ := sound.calls_confirmed verdict
    simp [called]

theorem Course.sound (h : Course answers latest depth p logs visited final stop) :
    ∀ v ∈ visited, v.Sound answers latest depth := by
  induction h with
  | done => simp
  | stop meant =>
    intro v hv
    rw [List.mem_singleton.mp hv]
    exact ⟨meant, rfl⟩
  | go meant _ _ ih =>
    intro v hv
    rcases List.mem_cons.mp hv with first | later
    · exact first ▸ ⟨meant, rfl⟩
    · exact ih v later

/-- A course drops from the queue what its visits drop. -/
theorem Course.entries_filtered (h : Course answers latest depth p logs visited final stop)
    (drops : Visit → PendingEvent → Bool)
    (each : ∀ v ∈ visited, v.after.queue.entries =
      v.before.queue.entries.filter fun entry => !drops v entry) :
    final.queue.entries =
      p.queue.entries.filter fun entry => !visited.any fun v => drops v entry := by
  induction h with
  | done => simp
  | stop => simpa using each
  | go _ _ _ ih =>
    have first := each _ List.mem_cons_self
    simp only at first
    rw [ih fun v hv => each v (List.mem_cons_of_mem _ hv), first, List.filter_filter]
    apply List.filter_congr
    intro entry _
    rw [List.any_cons, Bool.not_or, Bool.and_comm]

theorem Course.requests_eq (h : Course answers latest depth p logs visited final stop) :
    final.requests = p.requests ++ visited.flatMap Visit.requests := by
  induction h with
  | done => simp
  | stop => simp [settle_requests, visit_requests]
  | go _ _ _ ih => rw [ih, settle_requests, List.flatMap_cons, visit_requests, List.append_assoc]

theorem Course.calls_eq (h : Course answers latest depth p logs visited final stop) :
    callsOf final.requests = callsOf p.requests ++ visited.flatMap Visit.calls := by
  rw [h.requests_eq, callsOf_append]
  exact congrArg _ List.filterMap_flatMap

/-- The calls of a pass are counted as dispatched. -/
theorem Course.dispatched_eq (h : Course answers latest depth p logs visited final stop) :
    final.report.dispatched = p.report.dispatched + (visited.flatMap Visit.calls).length := by
  induction h with
  | done => simp
  | stop => simp [settle_dispatched, visit_calls]
  | go _ _ _ ih =>
    rw [ih, settle_dispatched, List.flatMap_cons, visit_calls, List.length_append, Nat.add_assoc]

theorem Course.finished (h : Course answers latest depth p logs visited final stop)
    (ended : stop = none) :
    visited.map Visit.log = logs ∧ ∀ v ∈ visited, v.verdict.stop? = none := by
  induction h with
  | done => simp
  | stop => cases ended
  | go _ goes _ ih =>
    obtain ⟨logged, went⟩ := ih ended
    refine ⟨by rw [List.map_cons, logged], ?_⟩
    intro v hv
    rcases List.mem_cons.mp hv with first | later
    · exact first ▸ goes
    · exact went v later

/-- A stopped course is a finished one over the logs before, and the visit that stopped it. -/
theorem Course.stopped {cause : PipelineError}
    (h : Course answers latest depth p logs visited final stop) (ended : stop = some cause) :
    ∃ earlier last rest block, visited = earlier ++ [last] ∧
      logs = earlier.map Visit.log ++ last.log :: rest ∧
      last.verdict = .unavailable block cause ∧ last.after = final ∧
      Course answers latest depth p (earlier.map Visit.log) earlier last.before none := by
  induction h with
  | done => cases ended
  | @stop p log rest block cause' meant =>
    cases ended
    exact ⟨[], _, rest, block, rfl, rfl, rfl, rfl, .done p⟩
  | @go p final log _ verdict visited stop meant goes _ ih =>
    obtain ⟨earlier, last, rest, block, split, logged, failed, ends, cut⟩ := ih ended
    exact ⟨⟨log, verdict, p, p.settle answers verdict⟩ :: earlier, last, rest, block,
      by rw [split, List.cons_append], by rw [logged, List.map_cons, List.cons_append], failed,
      ends, .go meant goes cut⟩

end Courses

section Scans

variable (settings : Settings) (answers : Answers) (latest : Word) (queue : Queue)
  (metrics : Metrics)

def opening (logs : List Log) : Pass :=
  { queue, report := .start logs.length, requests := [.logs settings.contract queue.firstBlock],
    metrics }

variable {settings answers queue}

theorem scan_refused {e : LedgerError}
    (refused : answers.logs settings.contract queue.firstBlock = .error e) :
    scan settings answers latest queue metrics =
      { pass := opening settings queue metrics [], result := .error (.ledger e) } := by
  simp only [scan, refused]
  rfl

theorem scan_finished {logs : List Log} {pass : Pass}
    (answered : answers.logs settings.contract queue.firstBlock = .ok logs)
    (settled : settleAll answers latest settings.depth (opening settings queue metrics logs) logs =
      (pass, none)) :
    scan settings answers latest queue metrics = { pass, result := .ok pass.report } := by
  rw [opening] at settled
  simp only [scan, answered, settled]

theorem scan_stopped {logs : List Log} {pass : Pass} {cause : PipelineError}
    (answered : answers.logs settings.contract queue.firstBlock = .ok logs)
    (settled : settleAll answers latest settings.depth (opening settings queue metrics logs) logs =
      (pass, some cause)) :
    scan settings answers latest queue metrics = { pass, result := .error cause } := by
  rw [opening] at settled
  simp only [scan, answered, settled]

/-- An answered scan ends as the pass over the answer does. -/
theorem scan_of_answered {logs : List Log}
    (answered : answers.logs settings.contract queue.firstBlock = .ok logs) :
    let ended := settleAll answers latest settings.depth (opening settings queue metrics logs) logs
    scan settings answers latest queue metrics =
      { pass := ended.1, result := ended.2.elim (.ok ended.1.report) .error } := by
  rcases settled : settleAll answers latest settings.depth (opening settings queue metrics logs)
    logs with ⟨pass, _ | cause⟩
  · exact scan_finished latest metrics answered settled
  · exact scan_stopped latest metrics answered settled

/-- An answered scan is a course over the answer: it ends with a report, or with what stopped it. -/
theorem scan_answered {logs : List Log}
    (answered : answers.logs settings.contract queue.firstBlock = .ok logs) :
    let outcome := scan settings answers latest queue metrics
    let start := opening settings queue metrics logs
    let visited := visits answers latest settings.depth start logs
    Course answers latest settings.depth start logs visited outcome.pass none ∧
        outcome.result = .ok outcome.pass.report ∨
      ∃ cause, Course answers latest settings.depth start logs visited outcome.pass (some cause) ∧
        outcome.result = .error cause := by
  have went := course answers latest settings.depth (opening settings queue metrics logs) logs
  rcases settled : settleAll answers latest settings.depth (opening settings queue metrics logs)
    logs with ⟨pass, _ | cause⟩
  · rw [settled] at went
    rw [scan_finished latest metrics answered settled]
    exact .inl ⟨went, rfl⟩
  · rw [settled] at went
    rw [scan_stopped latest metrics answered settled]
    exact .inr ⟨cause, went, rfl⟩

theorem course_of_answered {logs : List Log}
    (answered : answers.logs settings.contract queue.firstBlock = .ok logs) :
    let start := opening settings queue metrics logs
    ∃ stop, Course answers latest settings.depth start logs
      (visits answers latest settings.depth start logs)
      (scan settings answers latest queue metrics).pass stop := by
  rcases scan_answered latest metrics answered with ⟨went, _⟩ | ⟨cause, went, _⟩
  · exact ⟨none, went⟩
  · exact ⟨some cause, went⟩

/-- One entry is pending, and the ledger returns its log, which stands and lies deep enough. -/
structure Alone (settings : Settings) (answers : Answers) (latest : Word) (queue : Queue)
    (event : PendingEvent) (log : Log) : Prop where
  held : queue.entries = [event]
  returned : answers.logs settings.contract event.block = .ok [log]
  read : eventOf? answers log = some event
  stands : event.removed = false
  deep : event.block.Deep latest settings.depth

variable {latest} {event : PendingEvent} {log : Log}

theorem Alone.answered (alone : Alone settings answers latest queue event log) :
    answers.logs settings.contract queue.firstBlock = .ok [log] := by
  have first : queue.firstBlock = event.block := by simp [Queue.firstBlock, alone.held]
  exact first ▸ alone.returned

/-- What the scan makes of the log depends on the time of its block alone. -/
theorem Alone.judged (alone : Alone settings answers latest queue event log) :
    judge answers latest settings.depth queue 0 log =
      match blockTime answers 0 event.block with
      | .error cause => .unavailable event.block cause
      | .ok time => .confirmed event time :=
  judge_of_present alone.read alone.stands alone.deep
    (Queue.contains_of_mem (by simp [alone.held]))

theorem Alone.forwards (alone : Alone settings answers latest queue event log) {time : Instant}
    {notice : Notice} (timed : blockTime answers 0 event.block = .ok time)
    (sent : (event.stamp time).notice? = some notice) :
    let outcome := scan settings answers latest queue metrics
    (∃ report, outcome.result = .ok report) ∧ outcome.pass.queue = .empty ∧
      callsOf outcome.pass.requests = [notice] := by
  let start := opening settings queue metrics [log]
  have judged := alone.judged
  rw [timed] at judged
  have settled : settleAll answers latest settings.depth start [log] =
      (start.settle answers (.confirmed event time), none) := settleAll_go [] judged rfl
  rw [scan_finished latest metrics alone.answered settled, settle_confirmed answers _ sent]
  refine ⟨⟨_, rfl⟩, ?_, rfl⟩
  simp [start, opening, Queue.removeMatching, alone.held, PendingEvent.sameLog, Queue.empty]

theorem Alone.stops (alone : Alone settings answers latest queue event log)
    {cause : PipelineError} (timed : blockTime answers 0 event.block = .error cause) :
    let outcome := scan settings answers latest queue metrics
    outcome.result = .error cause ∧ outcome.pass.queue = queue := by
  have judged := alone.judged
  rw [timed] at judged
  rw [scan_stopped latest metrics alone.answered (settleAll_stop [] judged rfl)]
  exact ⟨rfl, settle_queue ..⟩

end Scans

end Scan

end StarWatch
