import StarWatch.Proofs.Calls
import StarWatch.Proofs.Identity
import StarWatch.Proofs.Reconcile
import StarWatch.Provider

/-!
# The time of a stamp

An event is stamped with the time that the node gives for its block. The node's
times have 256 bits, and of these a header keeps the low 64; what is left is
refused if the calendar does not reach so far. So a stamp is the time of the
block, or the scan ends without a call for the event, exactly for the times
below 2^64 and for those whose low 64 bits are refused. Any other time is
silently taken for an earlier one.
-/

namespace StarWatch

theorem Word.toNat_low64 (w : Word) : w.low64.toNat = w.toNat % 2 ^ 64 := UInt64.toNat_ofNat'

namespace Provider

variable {p : Provider} {call : Nat → Notice → Except NotifyError Unit} {n : Nat} {height : Word}

/-- The blocks of the logs that the node returns are in its range. -/
theorem block_within {contract : Address} {fromBlock : Word} {logs : List Log}
    (answered : p.logsFrom contract fromBlock = .ok logs) :
    ∀ log ∈ logs, log.block.toNat < UInt64.size := by
  simp only [logsFrom, bind, Except.bind] at answered
  split at answered
  · cases answered
  split at answered
  · cases answered
  cases answered
  intro log member
  obtain ⟨record, _, rfl⟩ := List.mem_map.mp member
  have small := (record.block.getD 0).toNat_lt_size
  simp only [ProviderLog.log, BitVec.toNat_ofNat]
  exact (Nat.mod_le _ _).trans_lt small

theorem blockTime_of_header {header : ProviderBlock} (within : height.toNat < UInt64.size)
    (found : p.block n height = .result (some header)) :
    Scan.blockTime (p.answers call) n height =
      if header.timestamp.toNat % 2 ^ 64 ≤ Instant.maxSeconds then
        .ok ⟨(header.timestamp.toNat % 2 ^ 64 : Nat), 0⟩
      else .error (.invalidBlockTimestamp height header.timestamp.low64) := by
  have looked : p.blockAt n height = .ok (header.block height) := by
    simp [blockAt, checkHeight, within, found, Reply.query, Reply.result?, Except.mapError, bind,
      Except.bind, pure, Except.pure]
  by_cases representable : header.timestamp.toNat % 2 ^ 64 ≤ Instant.maxSeconds
  · simp only [Scan.blockTime, answers, looked, Block.time?, ProviderBlock.block,
      Instant.ofTimestamp?, Word.toNat_low64, if_pos representable]
  · simp only [Scan.blockTime, answers, looked, Block.time?, ProviderBlock.block,
      Instant.ofTimestamp?, Word.toNat_low64, if_neg representable]

theorem blockTime_of_none (missing : ∀ header, p.block n height ≠ .result (some header)) :
    ∃ e, Scan.blockTime (p.answers call) n height = .error (.ledger e) := by
  have looked : ∃ e, p.blockAt n height = .error e := by
    simp only [blockAt, bind, Except.bind]
    split
    · exact ⟨_, rfl⟩
    cases replied : p.block n height with
    | result found =>
      cases found with
      | none => exact ⟨_, rfl⟩
      | some header => exact absurd replied (missing header)
    | failure code message => exact ⟨_, rfl⟩
    | malformed complaint => exact ⟨_, rfl⟩
  obtain ⟨e, looked⟩ := looked
  exact ⟨e, by simp only [Scan.blockTime, answers, looked]⟩

end Provider

namespace Scan

/-- A visit finds an event confirmed: its log is read as the event, which stands, lies deep enough
and is pending. -/
structure Visit.Finds (answers : Answers) (latest : Word) (depth : Nat) (v : Visit)
    (event : PendingEvent) : Prop where
  read : eventOf? answers v.log = some event
  stands : event.removed = false
  deep : event.block.Deep latest depth
  pending : v.before.queue.contains event = true

/-- A visit calls its event, with the time so many seconds after the start of 1970. -/
def Visit.CallsAt (v : Visit) (seconds : Nat) : Prop :=
  ∃ notice, v.calls = [notice] ∧ notice.date = ⟨seconds, 0⟩

section Visits

variable {answers : Answers} {latest : Word} {depth : Nat} {v : Visit} {event : PendingEvent}

/-- Only the blocks of confirmed events are looked up. -/
theorem Visit.Sound.exists_found (sound : v.Sound answers latest depth) {height : Word}
    (looked : .block height ∈ v.requests) :
    ∃ event, v.Finds answers latest depth event ∧ event.block = height := by
  have meant := sound.meant
  rw [Visit.requests, sound.settled, settle_requests, List.drop_left] at looked
  cases verdict : v.verdict with
  | unavailable block cause =>
    rw [verdict] at meant looked
    cases meant with
    | unavailable read stands deep present _ =>
      exact ⟨_, ⟨read, stands, deep, present⟩, by simpa [Verdict.requests, eq_comm] using looked⟩
  | confirmed event time =>
    rw [verdict] at meant looked
    cases meant with
    | confirmed read stands deep present _ =>
      exact ⟨_, ⟨read, stands, deep, present⟩, by simpa [Verdict.requests, eq_comm] using looked⟩
  | _ => simp [verdict, Verdict.requests] at looked

theorem Visit.Finds.callsAt (found : v.Finds answers latest depth event)
    (sound : v.Sound answers latest depth) {seconds : Nat}
    (timed : blockTime answers v.before.report.dispatched event.block = .ok ⟨seconds, 0⟩) :
    v.CallsAt seconds := by
  rcases sound.meant.of_present found.read found.stands found.deep found.pending with
    ⟨time, timed', verdict⟩ | ⟨cause, failed, _⟩
  · cases timed.symm.trans timed'
    obtain ⟨notice, sent, called⟩ := sound.calls_confirmed verdict
    exact ⟨notice, called, PendingEvent.date_of_stamp sent⟩
  · simp [timed] at failed

/-- A confirmed event whose block has no time stops the pass. -/
theorem Visit.Finds.unavailable (found : v.Finds answers latest depth event)
    (sound : v.Sound answers latest depth) {cause : PipelineError}
    (failed : blockTime answers v.before.report.dispatched event.block = .error cause) :
    v.verdict = .unavailable event.block cause := by
  rcases sound.meant.of_present found.read found.stands found.deep found.pending with
    ⟨time, timed, _⟩ | ⟨cause', failed', verdict⟩
  · simp [failed] at timed
  · cases failed.symm.trans failed'
    exact verdict

variable {p final : Pass} {logs : List Log} {visited : List Visit} {stop : Option PipelineError}

theorem visits_singleton {log : Log} {verdict : Verdict}
    (judged : judge answers latest depth p.queue p.report.dispatched log = verdict) :
    visits answers latest depth p [log] = [⟨log, verdict, p, p.settle answers verdict⟩] := by
  simp only [visits, judged]
  cases verdict.stop? <;> rfl

/-- A visit whose verdict stops the pass is the last one. -/
theorem Course.ends_at (h : Course answers latest depth p logs visited final stop) {i : Nat}
    (at_i : visited[i]? = some v) {cause : PipelineError}
    (stops : v.verdict.stop? = some cause) :
    stop = some cause ∧ final = v.after ∧ visited.length = i + 1 := by
  induction h generalizing i with
  | done => simp at at_i
  | stop =>
    cases i with
    | zero =>
      cases at_i
      exact ⟨stops, rfl, rfl⟩
    | succ i => simp at at_i
  | go _ goes _ ih =>
    cases i with
    | zero =>
      cases at_i
      simp [goes] at stops
    | succ i =>
      obtain ⟨stop, final, last⟩ := ih at_i
      exact ⟨stop, final, congrArg (· + 1) last⟩

/-- If the last visit of a course makes no call for a due event, then no visit does. -/
theorem Course.uncalled (h : Course answers latest depth p logs visited final stop) {i : Nat}
    (at_i : visited[i]? = some v) (last : visited.length = i + 1)
    (due : Due answers latest depth p.queue logs i event) (silent : v.calls = []) :
    ∀ w ∈ visited, ∀ other, eventOf? answers w.log = some other →
      other.sameLog event = true → w.calls = [] := by
  intro w member other read same
  obtain ⟨j, at_j⟩ := List.mem_iff_getElem?.mp member
  have within := (List.getElem?_eq_some_iff.mp at_j).1
  rcases Nat.lt_or_eq_of_le (Nat.le_of_lt_succ (last ▸ within)) with before | here
  · have logged := (h.entries_before at_j).1
    have apart := due.first j before other (by rw [logged]; exact read)
    simp [same] at apart
  · rw [here, at_i] at at_j
    cases at_j
    exact silent

end Visits

section Scans

variable (settings : Settings) (answers : Answers) (latest : Word) (queue : Queue)
  (metrics : Metrics) (logs : List Log)

def visitsOf : List Visit :=
  visits answers latest settings.depth (opening settings queue metrics logs) logs

/-- A scan over logs ends with an error; it has not called an event, which is still pending. -/
structure Refuses (event : PendingEvent) (cause : PipelineError) : Prop where
  ended : (scan settings answers latest queue metrics).result = .error cause
  uncalled : ∀ v ∈ visitsOf settings answers latest queue metrics logs, ∀ other,
    eventOf? answers v.log = some other → other.sameLog event = true → v.calls = []
  pending : (scan settings answers latest queue metrics).pass.queue.contains event = true

/-- The stamp that an event gets at a visit is exact, or else the scan refuses the event. -/
def Truthful (v : Visit) (event : PendingEvent) (seconds : Nat) : Prop :=
  v.CallsAt seconds ∨ ∃ cause, Refuses settings answers latest queue metrics logs event cause

/-- What becomes of an event for whose block the node gives a header: it is called with the low 64
bits of the time, if the calendar reaches so far. -/
structure Stamps (v : Visit) (event : PendingEvent) (header : ProviderBlock) : Prop where
  called : header.timestamp.toNat % 2 ^ 64 ≤ Instant.maxSeconds →
    v.CallsAt (header.timestamp.toNat % 2 ^ 64)
  refused : Instant.maxSeconds < header.timestamp.toNat % 2 ^ 64 →
    Refuses settings answers latest queue metrics logs event
      (.invalidBlockTimestamp event.block header.timestamp.low64)
  truthful_iff :
    Truthful settings answers latest queue metrics logs v event header.timestamp.toNat ↔
      header.timestamp.toNat < 2 ^ 64 ∨
        Instant.maxSeconds < header.timestamp.toNat % 2 ^ 64

variable {settings answers latest queue metrics logs}
variable {v : Visit} {event : PendingEvent}

/-- A scan refuses a confirmed event whose block has no time. -/
theorem Visit.Finds.refused (found : v.Finds answers latest settings.depth event)
    (answered : answers.logs settings.contract queue.firstBlock = .ok logs)
    (visited : v ∈ visitsOf settings answers latest queue metrics logs) {cause : PipelineError}
    (failed : blockTime answers v.before.report.dispatched event.block = .error cause) :
    Refuses settings answers latest queue metrics logs event cause := by
  obtain ⟨i, at_i⟩ := List.mem_iff_getElem?.mp visited
  have went := course answers latest settings.depth (opening settings queue metrics logs) logs
  have sound := went.sound v visited
  have verdict := found.unavailable sound failed
  have stops : v.verdict.stop? = some cause := by rw [verdict]; rfl
  have silent : v.calls = [] := by rw [sound.calls_eq, verdict]; rfl
  have due := (went.due_iff at_i event).mpr
    ⟨found.read, found.stands, found.deep, found.pending⟩
  obtain ⟨stopped, final, last⟩ := went.ends_at at_i stops
  have scanned := scan_of_answered latest metrics answered
  simp only [final, stopped] at scanned
  constructor
  · rw [scanned]
    rfl
  · exact went.uncalled at_i last due silent
  · rw [scanned, sound.settled, settle_queue, verdict]
    exact found.pending

/-- A header whose time has more than 64 bits is found out only if the rest is refused. -/
theorem Visit.Finds.stamps (found : v.Finds answers latest settings.depth event)
    (answered : answers.logs settings.contract queue.firstBlock = .ok logs)
    (visited : v ∈ visitsOf settings answers latest queue metrics logs) {header : ProviderBlock}
    (timed : blockTime answers v.before.report.dispatched event.block =
      if header.timestamp.toNat % 2 ^ 64 ≤ Instant.maxSeconds then
        .ok ⟨(header.timestamp.toNat % 2 ^ 64 : Nat), 0⟩
      else .error (.invalidBlockTimestamp event.block header.timestamp.low64)) :
    Stamps settings answers latest queue metrics logs v event header := by
  have sound := (course answers latest settings.depth _ logs).sound v visited
  have called (within : header.timestamp.toNat % 2 ^ 64 ≤ Instant.maxSeconds) :
      v.CallsAt (header.timestamp.toNat % 2 ^ 64) :=
    found.callsAt sound (timed.trans (if_pos within))
  have refused (beyond : Instant.maxSeconds < header.timestamp.toNat % 2 ^ 64) :
      Refuses settings answers latest queue metrics logs event
        (.invalidBlockTimestamp event.block header.timestamp.low64) :=
    found.refused answered visited (timed.trans (if_neg beyond.not_ge))
  refine ⟨called, refused, ?_, ?_⟩
  · rintro (⟨notice, calls, dated⟩ | ⟨cause, refusal⟩)
    · by_cases within : header.timestamp.toNat % 2 ^ 64 ≤ Instant.maxSeconds
      · obtain ⟨notice', calls', wrapped⟩ := called within
        cases calls.symm.trans calls'
        have same := congrArg Instant.seconds (dated.symm.trans wrapped)
        rw [Nat.cast_inj] at same
        exact .inl (same ▸ Nat.mod_lt _ (by decide))
      · exact .inr (not_le.mp within)
    · refine .inr (not_le.mp fun within => ?_)
      obtain ⟨notice, calls, _⟩ := called within
      have none := refusal.uncalled v visited event found.read (PendingEvent.sameLog_self event)
      simp [calls] at none
  · intro either
    by_cases within : header.timestamp.toNat % 2 ^ 64 ≤ Instant.maxSeconds
    · have small := either.resolve_right within.not_gt
      have dated := called within
      rw [Nat.mod_eq_of_lt small] at dated
      exact .inl dated
    · exact .inr ⟨_, refused (not_le.mp within)⟩

end Scans

/-- An event is stamped with the low 64 bits of the time that the node gives for its block, or
refused where the calendar does not reach so far or the node gives no time. The stamp is the time
itself only below 2^64. -/
theorem stamp_tells_time_modulo (settings : Settings) (p : Provider)
    (call : Nat → Notice → Except NotifyError Unit) (latest : Word) (queue : Queue)
    (metrics : Metrics) (logs : List Log)
    (answered : p.logsFrom settings.contract queue.firstBlock = .ok logs) (v : Visit)
    (visited : v ∈ visitsOf settings (p.answers call) latest queue metrics logs) (height : Word)
    (looked : .block height ∈ v.requests) :
    ∃ event, v.Finds (p.answers call) latest settings.depth event ∧ event.block = height ∧
      match p.block v.before.report.dispatched height with
      | .result (some header) =>
        Stamps settings (p.answers call) latest queue metrics logs v event header
      | _ =>
        ∃ e, Refuses settings (p.answers call) latest queue metrics logs event (.ledger e) := by
  have went := course (p.answers call) latest settings.depth
    (opening settings queue metrics logs) logs
  obtain ⟨event, found, rfl⟩ := (went.sound v visited).exists_found looked
  refine ⟨event, found, rfl, ?_⟩
  split
  · rename_i header replied
    obtain ⟨earlier, later, split, _⟩ := visits_reached _ _ _ _ _ v visited
    have within := Provider.block_within answered v.log (by rw [split]; simp)
    rw [← eventOf?_block found.read] at within
    exact found.stamps answered visited (Provider.blockTime_of_header within replied)
  · rename_i none
    obtain ⟨e, failed⟩ := Provider.blockTime_of_none none
    exact ⟨e, found.refused answered visited failed⟩

end Scan

section Purchases

/-- A node that returns the purchase, ten blocks deep, and gives its block a time. -/
def nodeAt (timestamp : Word) : Provider where
  subscription _ := .result 0
  height := .result 110
  logs _ _ := .result [indexedRecord]
  block _ _ := .result (some { hash := none, timestamp })

def answersAt (timestamp : Word) : Answers := (nodeAt timestamp).answers fun _ _ => .ok ()

def pendingPurchase : PendingEvent :=
  (PendingEvent.ofLog? purchaseNotification.payload indexedLog).get rfl

def stampedAt (timestamp : Word) (time : Instant) : Scan.Visit :=
  let before := Scan.opening purchaseSettings ⟨[pendingPurchase]⟩ .zero [indexedLog]
  let verdict := Verdict.confirmed pendingPurchase time
  { log := indexedLog, verdict, before, after := before.settle (answersAt timestamp) verdict }

theorem blockTime_answersAt (timestamp : Word) :
    Scan.blockTime (answersAt timestamp) 0 100 =
      if timestamp.toNat % 2 ^ 64 ≤ Instant.maxSeconds then
        .ok ⟨(timestamp.toNat % 2 ^ 64 : Nat), 0⟩
      else .error (.invalidBlockTimestamp 100 timestamp.low64) := by
  have within : (100 : Word).toNat < UInt64.size := by decide
  have found : (nodeAt timestamp).block 0 100 = .result (some { hash := none, timestamp }) := rfl
  exact Provider.blockTime_of_header within found

theorem visits_stampedAt {timestamp : Word} {time : Instant}
    (timed : Scan.blockTime (answersAt timestamp) 0 100 = .ok time) :
    Scan.visitsOf purchaseSettings (answersAt timestamp) 110 ⟨[pendingPurchase]⟩ .zero
      [indexedLog] = [stampedAt timestamp time] := by
  have read : Scan.eventOf? (answersAt timestamp) indexedLog = some pendingPurchase := rfl
  have present : Queue.contains ⟨[pendingPurchase]⟩ pendingPurchase = true :=
    Queue.contains_of_mem List.mem_cons_self
  have judged : Scan.judge (answersAt timestamp) 110 10 ⟨[pendingPurchase]⟩ 0 indexedLog =
      .confirmed pendingPurchase time := by
    rw [Scan.judge_of_present read rfl (by decide) present,
      show pendingPurchase.block = 100 from rfl, timed]
  exact Scan.visits_singleton judged

theorem stampedAt_finds (timestamp : Word) (time : Instant) :
    (stampedAt timestamp time).Finds (answersAt timestamp) 110 10 pendingPurchase where
  read := rfl
  stands := rfl
  deep := by decide
  pending := Queue.contains_of_mem List.mem_cons_self

/-- A purchase in a block of the year 2020 is stamped with the time of its block. -/
theorem purchase_stamped_exactly :
    let v := stampedAt 1600001200 ⟨1600001200, 0⟩
    (nodeAt 1600001200).logsFrom ⟨0x5a⟩ 100 = .ok [indexedLog] ∧
      v ∈ Scan.visitsOf purchaseSettings (answersAt 1600001200) 110 ⟨[pendingPurchase]⟩ .zero
        [indexedLog] ∧
      .block 100 ∈ v.requests ∧
      ∃ event, event.block = 100 ∧
        Scan.Stamps purchaseSettings (answersAt 1600001200) 110 ⟨[pendingPurchase]⟩ .zero
          [indexedLog] v event { hash := none, timestamp := 1600001200 } := by
  intro v
  have answered : (nodeAt 1600001200).logsFrom ⟨0x5a⟩ 100 = .ok [indexedLog] := rfl
  have visits : Scan.visitsOf purchaseSettings (answersAt 1600001200) 110 ⟨[pendingPurchase]⟩
      .zero [indexedLog] = [v] := visits_stampedAt rfl
  have visited := visits ▸ List.mem_singleton_self v
  have looked : .block 100 ∈ v.requests := List.mem_cons_self
  obtain ⟨event, _, block, stamps⟩ := Scan.stamp_tells_time_modulo purchaseSettings
    (nodeAt 1600001200) (fun _ _ => .ok ()) 110 ⟨[pendingPurchase]⟩ .zero [indexedLog] answered
    v visited 100 looked
  exact ⟨answered, visited, looked, event, block, stamps⟩

/-- 2^64 seconds behind the time of the block of that purchase. -/
def farTime : Word := 18446744075309552816

/-- In a block of that time the same purchase gets the same stamp. -/
theorem far_purchase_stamped_early :
    let v := stampedAt farTime ⟨1600001200, 0⟩
    farTime.toNat = 2 ^ 64 + 1600001200 ∧
      (nodeAt farTime).block 0 100 = .result (some { hash := none, timestamp := farTime }) ∧
      v ∈ Scan.visitsOf purchaseSettings (answersAt farTime) 110 ⟨[pendingPurchase]⟩ .zero
        [indexedLog] ∧
      .block 100 ∈ v.requests ∧ v.CallsAt 1600001200 ∧
      ¬ Scan.Truthful purchaseSettings (answersAt farTime) 110 ⟨[pendingPurchase]⟩ .zero
        [indexedLog] v pendingPurchase farTime.toNat := by
  intro v
  have wrapped : farTime.toNat % 2 ^ 64 = 1600001200 := by decide
  have timed := blockTime_answersAt farTime
  have visits : Scan.visitsOf purchaseSettings (answersAt farTime) 110 ⟨[pendingPurchase]⟩ .zero
      [indexedLog] = [v] := by
    rw [wrapped] at timed
    exact visits_stampedAt timed
  have visited := visits ▸ List.mem_singleton_self v
  have stamps : Scan.Stamps purchaseSettings (answersAt farTime) 110 ⟨[pendingPurchase]⟩ .zero
      [indexedLog] v pendingPurchase { hash := none, timestamp := farTime } :=
    (stampedAt_finds farTime ⟨1600001200, 0⟩).stamps rfl visited timed
  have called := stamps.called (by decide)
  rw [wrapped] at called
  refine ⟨by decide, rfl, visited, List.mem_cons_self, called, ?_⟩
  rw [stamps.truthful_iff]
  decide

end Purchases

end StarWatch
