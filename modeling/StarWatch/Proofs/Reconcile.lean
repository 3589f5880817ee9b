import StarWatch.Proofs.Visit

/-!
# What a scan pass forwards and what it clears

A pass changes the queue that it reads. `Due` says without the pass which logs
of a response are forwarded: the first log of its identity that is read as a
confirmed event of an entry. `Reconciled` compares a pass with it, log by log.
A pass that stops is reconciled with the logs before the one that stopped it.
-/

namespace StarWatch

namespace Scan

/-- Whether a log takes an entry out of the queue when a pass settles it. -/
def clears (answers : Answers) (latest : Word) (depth : Nat) (entry : PendingEvent)
    (log : Log) : Bool :=
  match eventOf? answers log with
  | some event => entry.sameLog event && (event.removed || event.isConfirmed latest depth)
  | none => false

/-- Log `i` of a response is due for an event: it is read as this event, which stands, is
confirmed and pending, and no log before it is read as an event of the same log. -/
structure Due (answers : Answers) (latest : Word) (depth : Nat) (queue : Queue)
    (logs : List Log) (i : Nat) (event : PendingEvent) : Prop where
  read : logs[i]?.bind (eventOf? answers) = some event
  stands : event.removed = false
  deep : event.block ≤ latest ∧ depth ≤ (latest - event.block).toNat
  pending : ∃ entry ∈ queue.entries, entry.sameLog event = true
  first : ∀ j < i, ∀ earlier, logs[j]?.bind (eventOf? answers) = some earlier →
    earlier.sameLog event = false

/-- A pass over a response that went through all of it. A log is forwarded exactly when it is due,
with the notice of its event and the time of its block, and exactly the entries of forwarded events
and of removed logs leave the queue. -/
structure Reconciled (answers : Answers) (latest : Word) (depth : Nat) (queue : Queue)
    (logs : List Log) (visited : List Visit) (pass : Pass) : Prop where
  logged : visited.map Visit.log = logs
  forwarded : ∀ i, (∃ v, visited[i]? = some v ∧ v.calls ≠ []) ↔
    ∃ event, Due answers latest depth queue logs i event
  projected : ∀ i event, Due answers latest depth queue logs i event →
    ∃ v time notice, visited[i]? = some v ∧
      blockTime answers v.before.report.dispatched event.block = .ok time ∧
      (event.stamp time).notice? = some notice ∧ v.calls = [notice]
  calls : callsOf pass.requests = visited.flatMap Visit.calls
  kept : ∃ keep : PendingEvent → Bool, pass.queue.entries = queue.entries.filter keep ∧
    ∀ entry ∈ queue.entries, keep entry = false ↔
      ∃ i event, entry.sameLog event = true ∧
        (Due answers latest depth queue logs i event ∨
          logs[i]?.bind (eventOf? answers) = some event ∧ event.removed = true)

section Clearing

variable {answers : Answers} {latest : Word} {depth : Nat}

theorem clears_iff (entry : PendingEvent) (log : Log) :
    clears answers latest depth entry log = true ↔
      ∃ event, eventOf? answers log = some event ∧ entry.identity = event.identity ∧
        (event.removed = true ∨ event.block.Deep latest depth) := by
  cases read : eventOf? answers log with
  | none => simp [clears, read]
  | some event =>
    simp [clears, read, PendingEvent.sameLog_iff, PendingEvent.isConfirmed_iff]

theorem clears_unread {log : Log} (unread : eventOf? answers log = none)
    (entry : PendingEvent) : clears answers latest depth entry log = false := by
  simp [clears, unread]

theorem clears_settled {log : Log} {event : PendingEvent}
    (read : eventOf? answers log = some event)
    (settled : event.removed = true ∨ event.block.Deep latest depth) (entry : PendingEvent) :
    clears answers latest depth entry log = entry.sameLog event := by
  rw [Bool.eq_iff_iff, clears_iff, PendingEvent.sameLog_iff]
  constructor
  · rintro ⟨other, reads, same, _⟩
    rw [read] at reads
    cases reads
    exact same
  · exact fun same => ⟨event, read, same, settled⟩

theorem clears_pending {log : Log} {event : PendingEvent}
    (read : eventOf? answers log = some event) (stands : event.removed = false)
    (shallow : ¬ event.block.Deep latest depth) (entry : PendingEvent) :
    clears answers latest depth entry log = false := by
  rw [← PendingEvent.isConfirmed_iff, Bool.not_eq_true] at shallow
  simp [clears, read, stands, shallow]

/-- Settling a log drops the entries that the log clears, and no others. -/
theorem settle_entries {p : Pass} {log : Log} {n : Nat} {verdict : Verdict}
    (meant : Meaning answers latest depth p.queue n log verdict) (goes : verdict.stop? = none) :
    (p.settle answers verdict).queue.entries =
      p.queue.entries.filter fun entry => !clears answers latest depth entry log := by
  cases meant with
  | ignored unread => simp [Pass.settle, clears_unread unread]
  | undecodable unread => simp [Pass.settle, clears_unread unread]
  | removed read gone => simp [Pass.settle, Queue.removeMatching, clears_settled read (.inl gone)]
  | pending read stands shallow => simp [Pass.settle, clears_pending read stands shallow]
  | @untracked event read stands deep absent =>
    have none_same : ∀ entry ∈ p.queue.entries, entry.sameLog event = false := by
      simpa [Queue.contains] using absent
    simp only [Pass.settle, clears_settled read (.inr deep)]
    rw [List.filter_eq_self.mpr]
    intro entry hentry
    rw [none_same entry hentry, Bool.not_false]
  | unavailable => cases goes
  | @confirmed event time read stands deep present timed =>
    obtain ⟨notice, sent⟩ := exists_notice event time
    simp [settle_confirmed answers p sent, Queue.removeMatching, clears_settled read (.inr deep)]

variable {p final : Pass} {logs : List Log} {visited : List Visit} {stop : Option PipelineError}

theorem Course.entries_final (h : Course answers latest depth p logs visited final stop)
    (ended : stop = none) :
    final.queue.entries =
      p.queue.entries.filter fun entry => !logs.any (clears answers latest depth entry) := by
  obtain ⟨logged, went⟩ := h.finished ended
  have each : ∀ v ∈ visited, v.after.queue.entries =
      v.before.queue.entries.filter fun entry => !clears answers latest depth entry v.log := by
    intro v hv
    obtain ⟨meant, settled⟩ := h.sound v hv
    rw [settled, settle_entries meant (went v hv)]
  rw [h.entries_filtered _ each, ← logged]
  simp only [List.any_map, Function.comp_def]

theorem Course.entries_before (h : Course answers latest depth p logs visited final stop)
    {i : Nat} {v : Visit} (at_i : visited[i]? = some v) :
    logs[i]? = some v.log ∧ v.before.queue.entries =
      p.queue.entries.filter fun entry =>
        !(logs.take i).any (clears answers latest depth entry) := by
  induction h generalizing i with
  | done => simp at at_i
  | stop =>
    cases i with
    | zero => cases at_i; simp
    | succ i => simp at at_i
  | go meant goes _ ih =>
    cases i with
    | zero => cases at_i; simp
    | succ i =>
      obtain ⟨logged, entries⟩ := ih at_i
      refine ⟨logged, ?_⟩
      rw [entries, settle_entries meant goes, List.filter_filter]
      apply List.filter_congr
      intro entry _
      rw [List.take_succ_cons, List.any_cons, Bool.not_or, Bool.and_comm]

/-- For an event that stands and is confirmed, being pending at its log is being pending at the
start with no log of the same identity before. -/
theorem Course.due_iff (h : Course answers latest depth p logs visited final stop)
    {i : Nat} {v : Visit} (at_i : visited[i]? = some v) (event : PendingEvent) :
    Due answers latest depth p.queue logs i event ↔
      eventOf? answers v.log = some event ∧ event.removed = false ∧
        event.block.Deep latest depth ∧ v.before.queue.contains event = true := by
  obtain ⟨logged, entries⟩ := h.entries_before at_i
  have read_iff : logs[i]?.bind (eventOf? answers) = some event ↔
      eventOf? answers v.log = some event := by
    rw [logged, Option.bind_some]
  constructor
  · intro due
    refine ⟨read_iff.mp due.read, due.stands, due.deep, ?_⟩
    obtain ⟨entry, hentry, same⟩ := due.pending
    rw [Queue.contains_iff, entries]
    refine ⟨entry, List.mem_filter.mpr ⟨hentry, ?_⟩, same⟩
    rw [Bool.not_eq_true', List.any_eq_false]
    intro log hlog cleared
    obtain ⟨j, hj⟩ := List.mem_iff_getElem?.mp hlog
    obtain ⟨other, read, same', _⟩ := (clears_iff entry log).mp cleared
    have before : j < i ∧ logs[j]? = some log := by
      rw [List.getElem?_take] at hj
      split at hj
      · exact ⟨‹_›, hj⟩
      · cases hj
    have apart := due.first j before.1 other (by rw [before.2]; exact read)
    rw [PendingEvent.sameLog_iff] at same
    rw [Bool.eq_false_iff, ne_eq, PendingEvent.sameLog_iff] at apart
    exact apart (same'.symm.trans same)
  · rintro ⟨read, stands, deep, present⟩
    rw [Queue.contains_iff, entries] at present
    obtain ⟨entry, hentry, same⟩ := present
    obtain ⟨member, spared⟩ := List.mem_filter.mp hentry
    refine ⟨read_iff.mpr read, stands, deep, ⟨entry, member, same⟩, ?_⟩
    intro j hj earlier reads
    rw [Bool.eq_false_iff, ne_eq, PendingEvent.sameLog_iff]
    intro same'
    obtain ⟨log, logged', read'⟩ := Option.bind_eq_some_iff.mp reads
    rw [PendingEvent.sameLog_iff] at same
    have cleared : clears answers latest depth entry log = true := by
      rw [clears_iff]
      refine ⟨earlier, read', same.trans same'.symm, .inr ?_⟩
      rw [PendingEvent.block_eq_of_identity same']
      exact deep
    rw [Bool.not_eq_true', List.any_eq_false] at spared
    refine spared log ?_ cleared
    exact List.mem_iff_getElem?.mpr ⟨j, by rw [List.getElem?_take, if_pos hj]; exact logged'⟩

/-- In a finished pass a due log is called with its event's notice. -/
theorem Course.due_called (h : Course answers latest depth p logs visited final stop)
    (ended : stop = none) {i : Nat} {event : PendingEvent}
    (due : Due answers latest depth p.queue logs i event) :
    ∃ v time notice, visited[i]? = some v ∧
      blockTime answers v.before.report.dispatched event.block = .ok time ∧
      (event.stamp time).notice? = some notice ∧ v.calls = [notice] := by
  obtain ⟨logged, went⟩ := h.finished ended
  have reached : i < visited.length := by
    obtain ⟨log, at_i, _⟩ := Option.bind_eq_some_iff.mp due.read
    have := (List.getElem?_eq_some_iff.mp at_i).1
    rwa [← logged, List.length_map] at this
  have at_i : visited[i]? = some visited[i] := List.getElem?_eq_getElem reached
  have sound := h.sound visited[i] (List.getElem_mem reached)
  obtain ⟨read, stands, deep, present⟩ := (h.due_iff at_i event).mp due
  rcases sound.meant.of_present read stands deep present with
    ⟨time, timed, verdict⟩ | ⟨cause, _, verdict⟩
  · obtain ⟨notice, sent, called⟩ := sound.calls_confirmed verdict
    exact ⟨visited[i], time, notice, at_i, timed, sent, called⟩
  · have goes := went visited[i] (List.getElem_mem reached)
    rw [verdict] at goes
    cases goes

/-- A log that is called is due. -/
theorem Course.due_of_called (h : Course answers latest depth p logs visited final stop)
    {i : Nat} {v : Visit} (at_i : visited[i]? = some v) (called : v.calls ≠ []) :
    ∃ event, Due answers latest depth p.queue logs i event := by
  have sound := h.sound v (List.mem_of_getElem? at_i)
  obtain ⟨event, time, verdict⟩ := sound.calls_ne_nil_iff.mp called
  have meant := sound.meant
  rw [verdict] at meant
  cases meant with
  | confirmed read stands deep present timed =>
    exact ⟨event, (h.due_iff at_i event).mpr ⟨read, stands, deep, present⟩⟩

/-- Where a log is read as an event of some identity, there is a first one that is. -/
theorem exists_first_reading {logs : List Log} {k : Nat} {event : PendingEvent}
    (read : logs[k]?.bind (eventOf? answers) = some event) :
    ∃ (i : Nat) (other : PendingEvent), logs[i]?.bind (eventOf? answers) = some other ∧
      other.identity = event.identity ∧
      ∀ j < i, ∀ earlier, logs[j]?.bind (eventOf? answers) = some earlier →
        earlier.identity ≠ event.identity := by
  induction k using Nat.strongRecOn generalizing event with
  | ind k ih =>
    by_cases again : ∃ j < k, ∃ earlier, logs[j]?.bind (eventOf? answers) = some earlier ∧
        earlier.identity = event.identity
    · obtain ⟨j, before, earlier, reads, same⟩ := again
      rw [← same]
      exact ih j before reads
    · exact ⟨k, event, read, rfl, fun j before earlier reads same =>
        again ⟨j, before, earlier, reads, same⟩⟩

/-- An entry that some log clears is the entry of a due log or of a removed one. -/
theorem cleared_iff (queue : Queue) (logs : List Log) {entry : PendingEvent}
    (member : entry ∈ queue.entries) :
    logs.any (clears answers latest depth entry) = true ↔
      ∃ i event, entry.sameLog event = true ∧
        (Due answers latest depth queue logs i event ∨
          logs[i]?.bind (eventOf? answers) = some event ∧ event.removed = true) := by
  simp only [PendingEvent.sameLog_iff]
  constructor
  · intro cleared
    obtain ⟨log, hlog, clear⟩ := List.any_eq_true.mp cleared
    obtain ⟨k, at_k⟩ := List.mem_iff_getElem?.mp hlog
    obtain ⟨event, read, same, settled⟩ := (clears_iff entry log).mp clear
    have reads : logs[k]?.bind (eventOf? answers) = some event := by rw [at_k]; exact read
    rcases settled with gone | deep
    · exact ⟨k, event, same, .inr ⟨reads, gone⟩⟩
    obtain ⟨i, other, reads', same', first⟩ := exists_first_reading reads
    refine ⟨i, other, same.trans same'.symm, ?_⟩
    by_cases gone : other.removed = true
    · exact .inr ⟨reads', gone⟩
    · refine .inl ⟨reads', by simpa using gone, ?_, ⟨entry, member, ?_⟩, ?_⟩
      · rw [PendingEvent.block_eq_of_identity same']
        exact deep
      · exact (PendingEvent.sameLog_iff _ _).mpr (same.trans same'.symm)
      · intro j before earlier reads''
        rw [Bool.eq_false_iff, ne_eq, PendingEvent.sameLog_iff, same']
        exact first j before earlier reads''
  · rintro ⟨i, event, same, how⟩
    have reads : logs[i]?.bind (eventOf? answers) = some event := how.elim Due.read And.left
    obtain ⟨log, at_i, read⟩ := Option.bind_eq_some_iff.mp reads
    refine List.any_eq_true.mpr ⟨log, List.mem_of_getElem? at_i, (clears_iff entry log).mpr ?_⟩
    exact ⟨event, read, same, how.elim (fun due => .inr due.deep) fun gone => .inl gone.2⟩

theorem Course.reconciled (h : Course answers latest depth p logs visited final stop)
    (ended : stop = none) (fresh : callsOf p.requests = []) :
    Reconciled answers latest depth p.queue logs visited final where
  logged := (h.finished ended).1
  forwarded := by
    intro i
    constructor
    · rintro ⟨v, at_i, called⟩
      exact h.due_of_called at_i called
    · rintro ⟨event, due⟩
      obtain ⟨v, _, notice, at_i, _, _, called⟩ := h.due_called ended due
      exact ⟨v, at_i, by simp [called]⟩
  projected := fun i event due => h.due_called ended due
  calls := by rw [h.calls_eq, fresh, List.nil_append]
  kept := by
    refine ⟨_, h.entries_final ended, ?_⟩
    intro entry member
    rw [Bool.not_eq_false', cleared_iff p.queue logs member]

/-- A pass that is stopped is stopped at a due log without a block time, and is reconciled with
the logs before it. -/
theorem Course.interrupted {cause : PipelineError}
    (h : Course answers latest depth p logs visited final stop) (ended : stop = some cause)
    (fresh : callsOf p.requests = []) (unsent : p.report.dispatched = 0) :
    ∃ k event, Due answers latest depth p.queue logs k event ∧
      blockTime answers (callsOf final.requests).length event.block = .error cause ∧
      final.queue.contains event = true ∧
      Reconciled answers latest depth p.queue (logs.take k) (visited.take k) final := by
  obtain ⟨earlier, last, rest, block, split, logged, failed, ends, cut⟩ := h.stopped ended
  have at_k : visited[earlier.length]? = some last := by simp [split]
  have sound := h.sound last (List.mem_of_getElem? at_k)
  have meant := sound.meant
  have unchanged := sound.settled
  rw [failed] at meant unchanged
  rw [ends] at unchanged
  have calls : callsOf final.requests = callsOf last.before.requests := by
    rw [unchanged, settle_requests]
    simp [Verdict.requests]
  have logs_before : logs.take earlier.length = earlier.map Visit.log := by simp [logged]
  have visited_before : visited.take earlier.length = earlier := by simp [split]
  have before := cut.reconciled rfl fresh
  cases meant with
  | @unavailable event cause read stands deep present untimed =>
    refine ⟨earlier.length, event, (h.due_iff at_k event).mpr ⟨read, stands, deep, present⟩,
      ?_, ?_, ?_⟩
    · have counted := cut.dispatched_eq
      rw [unsent, Nat.zero_add, ← before.calls] at counted
      rw [calls, ← counted]
      exact untimed
    · rw [unchanged]
      exact present
    · rw [logs_before, visited_before]
      exact { before with
        calls := calls.trans before.calls
        kept := by rw [unchanged]; exact before.kept }

end Clearing

/-- What a scan does, whatever the ledger answers. A pass that ends is reconciled with the whole
response. A pass that fails did so at a due log whose block has no time: its event is still
pending, and the pass is reconciled with the logs before it. -/
theorem scan_reconciles (settings : Settings) (answers : Answers) (latest : Word) (queue : Queue)
    (metrics : Metrics) :
    let outcome := scan settings answers latest queue metrics
    match answers.logs settings.contract queue.firstBlock with
    | .error e =>
      outcome.result = .error (.ledger e) ∧ outcome.pass.queue = queue ∧
        callsOf outcome.pass.requests = []
    | .ok logs =>
      let visited :=
        visits answers latest settings.depth (opening settings queue metrics logs) logs
      match outcome.result with
      | .ok _ => Reconciled answers latest settings.depth queue logs visited outcome.pass
      | .error cause =>
        ∃ k event, Due answers latest settings.depth queue logs k event ∧
          blockTime answers (callsOf outcome.pass.requests).length event.block = .error cause ∧
          outcome.pass.queue.contains event = true ∧
          Reconciled answers latest settings.depth queue (logs.take k) (visited.take k)
            outcome.pass := by
  intro outcome
  cases answered : answers.logs settings.contract queue.firstBlock with
  | error e =>
    have refused : outcome = _ := scan_refused latest metrics answered
    rw [refused]
    exact ⟨rfl, rfl, rfl⟩
  | ok logs =>
    rcases scan_answered latest metrics answered with ⟨went, result⟩ | ⟨cause, went, result⟩
    · have ended : outcome.result = _ := result
      simp only [ended]
      exact went.reconciled rfl rfl
    · have ended : outcome.result = _ := result
      simp only [ended]
      exact went.interrupted rfl rfl rfl

end Scan

end StarWatch
