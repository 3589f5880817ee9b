import StarWatch.Proofs.Calls
import StarWatch.Proofs.Identity

/-!
# One kind for every log

The decoder, the record and the notice name a kind each by its own table. For a
decoded log they name the kind of topic 0, all of them, and no other log gets a
record. So a scan with this decoder ignores the logs without a tracked topic 0
and passes over those that cannot be decoded; every other log is judged as the
event that it tells.
-/

namespace StarWatch

def Answers.decoding (answers : Answers) : Answers := { answers with payload := Log.payload }

namespace Log

/-- Topic 0 is absent or names no kind. -/
def isUntracked (log : Log) : Bool := log.kind?.isNone

def isUndecodable (log : Log) : Bool := log.kind?.isSome && log.payload.toOption.isNone

/-- A log is read as an event of one kind, whoever reads it. A live notification of it is queued or
takes entries back, and a scan judges the log as the event. -/
structure ReadAs (log : Log) (payload : Payload) (event : PendingEvent) : Prop where
  named : log.kind? = some payload.kind
  recorded : PendingEvent.ofLog? payload log = some event
  kind : event.kind = payload.kind
  told : ∀ time, ∃ notice, (event.stamp time).notice? = some notice ∧ notice.kind = payload.kind
  received : ∀ r : Reactor, (r.handle ⟨payload, log⟩).1 =
    if log.removed then .purged (r.queue.countMatching event) else .queued payload.kind
  scanned : ∀ (answers : Answers) (latest : Word) (depth : Nat) (queue : Queue) (n : Nat),
    Scan.judge answers.decoding latest depth queue n log =
      Scan.judgeEvent answers.decoding latest depth queue n event

variable {log : Log} {payload : Payload}

theorem payload_of_untracked (untracked : log.kind? = none) :
    ∃ reason, log.payload = .error (.decode reason) := by
  cases decoded : Abi.decode log with
  | ok payload =>
    have tracked := kind_of_payload (payload_eq_ok.mpr decoded)
    rw [untracked] at tracked
    cases tracked
  | error e => exact ⟨e.message, by rw [Log.payload, decoded]⟩

/-- A payload makes a record exactly if topic 0 names its kind. -/
theorem exists_record_iff :
    (∃ event, PendingEvent.ofLog? payload log = some event) ↔ log.kind? = some payload.kind := by
  simp only [PendingEvent.ofLog?]
  cases named : log.kind? with
  | none => simp
  | some kind =>
    by_cases same : payload.kind = kind
    · simp [same]
    · simp [same, Ne.symm same]

theorem exists_readAs (accepted : log.payload = .ok payload) :
    ∃ event, log.ReadAs payload event := by
  obtain ⟨event, recorded⟩ := exists_event accepted
  have named := kind_of_payload accepted
  have kind : event.kind = payload.kind := by
    have same := (PendingEvent.ofLog?_identity recorded).2
    exact Option.some.inj (same.symm.trans named)
  refine ⟨event, named, recorded, kind, ?_, ?_, ?_⟩
  · intro time
    obtain ⟨notice, sent⟩ := Scan.exists_notice event time
    exact ⟨notice, sent, (PendingEvent.kind_of_notice? sent).trans kind⟩
  · intro r
    have read : PendingEvent.ofNotification? ⟨payload, log⟩ = some event := recorded
    simp only [Reactor.handle, read, Reactor.handleEvent, (PendingEvent.ofLog?_fields recorded).2,
      kind]
    split
    · rfl
    · rfl
  · intro answers latest depth queue n
    have decoded : answers.decoding.payload log = .ok payload := accepted
    simp only [Scan.judge, named, decoded, recorded]

end Log

namespace Scan

section Passes

variable (answers : Answers) (latest : Word) (depth : Nat)

theorem judgeEvent_sorts (queue : Queue) (n : Nat) (event : PendingEvent) :
    judgeEvent answers latest depth queue n event ≠ .ignored ∧
      judgeEvent answers latest depth queue n event ≠ .undecodable := by
  simp only [judgeEvent]
  split
  · exact ⟨Verdict.noConfusion, Verdict.noConfusion⟩
  split
  · exact ⟨Verdict.noConfusion, Verdict.noConfusion⟩
  split
  · exact ⟨Verdict.noConfusion, Verdict.noConfusion⟩
  split
  · exact ⟨Verdict.noConfusion, Verdict.noConfusion⟩
  · exact ⟨Verdict.noConfusion, Verdict.noConfusion⟩

/-- What is ignored is untracked, and what is not decoded cannot be. -/
theorem judge_sorts (queue : Queue) (n : Nat) (log : Log) :
    (judge answers.decoding latest depth queue n log = .ignored ↔ log.isUntracked = true) ∧
      (judge answers.decoding latest depth queue n log = .undecodable ↔
        log.isUndecodable = true) := by
  cases decoded : log.payload with
  | ok payload =>
    obtain ⟨event, read⟩ := Log.exists_readAs decoded
    obtain ⟨heeded, readable⟩ := judgeEvent_sorts answers.decoding latest depth queue n event
    rw [read.scanned]
    simp [heeded, readable, Log.isUntracked, Log.isUndecodable, read.named, decoded,
      Except.toOption]
  | error e =>
    have failed : answers.decoding.payload log = .error e := decoded
    cases named : log.kind? with
    | none => simp [judge, named, Log.isUntracked, Log.isUndecodable]
    | some kind =>
      simp [judge, named, failed, Log.isUntracked, Log.isUndecodable, decoded, Except.toOption]

theorem settle_sorts (p : Pass) (verdict : Verdict) :
    (p.settle answers verdict).report.ignored =
        p.report.ignored + (if verdict = .ignored then 1 else 0) ∧
      (p.settle answers verdict).report.undecodable =
        p.report.undecodable + if verdict = .undecodable then 1 else 0 := by
  cases verdict with
  | confirmed event time =>
    obtain ⟨notice, sent⟩ := exists_notice event time
    rw [settle_confirmed answers p sent]
    exact ⟨rfl, rfl⟩
  | _ => exact ⟨rfl, rfl⟩

/-- A pass comes to the logs up to where it is stopped, and counts those that are untracked and
those that cannot be decoded. -/
theorem settleAll_sorts (p : Pass) (logs : List Log) :
    let ended := settleAll answers.decoding latest depth p logs
    ∃ seen, seen <+: logs ∧ (ended.2 = none → seen = logs) ∧
      ended.1.report.ignored = p.report.ignored + seen.countP Log.isUntracked ∧
      ended.1.report.undecodable = p.report.undecodable + seen.countP Log.isUndecodable := by
  induction logs generalizing p with
  | nil => exact ⟨[], List.nil_prefix, fun _ => rfl, rfl, rfl⟩
  | cons log later ih =>
    let verdict := judge answers.decoding latest depth p.queue p.report.dispatched log
    obtain ⟨untracked, unreadable⟩ :=
      judge_sorts answers latest depth p.queue p.report.dispatched log
    obtain ⟨ignored, undecodable⟩ := settle_sorts answers.decoding p verdict
    simp only [verdict, untracked, unreadable] at ignored undecodable
    cases stops : verdict.stop? with
    | some cause =>
      rw [settleAll_stop later rfl stops]
      refine ⟨[log], List.prefix_append [log] later, ?_, ?_, ?_⟩
      · intro ended
        cases ended
      · rw [List.countP_singleton]
        exact ignored
      · rw [List.countP_singleton]
        exact undecodable
    | none =>
      rw [settleAll_go later rfl stops]
      obtain ⟨seen, begins, whole, ignored', undecodable'⟩ :=
        ih (p.settle answers.decoding verdict)
      refine ⟨log :: seen, List.cons_prefix_cons.mpr ⟨rfl, begins⟩, ?_, ?_, ?_⟩
      · intro ended
        rw [whole ended]
      · rw [ignored', ignored, List.countP_cons]
        omega
      · rw [undecodable', undecodable, List.countP_cons]
        omega

end Passes

/-- How a scan counts the logs that it comes to, among those that the ledger returned. -/
structure SortsByKind (outcome : ScanOutcome) (logs seen : List Log) : Prop where
  begins : seen <+: logs
  finished : ∀ report, outcome.result = .ok report → seen = logs ∧ report = outcome.pass.report
  ignored : outcome.pass.report.ignored = seen.countP Log.isUntracked
  undecodable : outcome.pass.report.undecodable = seen.countP Log.isUndecodable

theorem scan_sorts (settings : Settings) (answers : Answers) (latest : Word) {queue : Queue}
    (metrics : Metrics) {logs : List Log}
    (answered : answers.logs settings.contract queue.firstBlock = .ok logs) :
    ∃ seen, SortsByKind (scan settings answers.decoding latest queue metrics) logs seen := by
  have answered' : answers.decoding.logs settings.contract queue.firstBlock = .ok logs := answered
  rw [scan_of_answered latest metrics answered']
  obtain ⟨seen, begins, whole, ignored, undecodable⟩ := settleAll_sorts answers latest
    settings.depth (opening settings queue metrics logs) logs
  refine ⟨seen, begins, ?_, ?_, ?_⟩
  · intro report finished
    cases stopped : (settleAll answers.decoding latest settings.depth
        (opening settings queue metrics logs) logs).2 with
    | none =>
      rw [stopped] at finished
      exact ⟨whole stopped, (Except.ok.inj finished).symm⟩
    | some cause =>
      rw [stopped] at finished
      cases finished
  · rw [ignored]
    exact Nat.zero_add _
  · rw [undecodable]
    exact Nat.zero_add _

end Scan

/-- The decoder, the record and the notice agree on the kind of every log. Nothing is read from a
log without a tracked topic 0, and only such a log is ignored in a scan. -/
theorem kinds_agree :
    (∀ (log : Log) (payload : Payload), log.payload = .ok payload →
      ∃ event, log.ReadAs payload event) ∧
    (∀ log : Log, log.kind? = none → (∃ reason, log.payload = .error (.decode reason)) ∧
      ∀ payload, PendingEvent.ofLog? payload log = none) ∧
    (∀ (log : Log) (payload : Payload), (∃ event, PendingEvent.ofLog? payload log = some event) ↔
      log.kind? = some payload.kind) ∧
    ∀ (settings : Settings) (answers : Answers) (latest : Word) (queue : Queue)
      (metrics : Metrics) (logs : List Log),
      answers.logs settings.contract queue.firstBlock = .ok logs →
      ∃ seen, Scan.SortsByKind (scan settings answers.decoding latest queue metrics) logs seen := by
  refine ⟨?_, ?_, ?_, ?_⟩
  · intro log payload accepted
    exact Log.exists_readAs accepted
  · intro log untracked
    refine ⟨Log.payload_of_untracked untracked, ?_⟩
    intro payload
    simp only [PendingEvent.ofLog?, untracked]
  · intro log payload
    exact Log.exists_record_iff
  · intro settings answers latest queue metrics logs answered
    exact Scan.scan_sorts settings answers latest metrics answered

section Withdrawal

/-- A sale taken back has the fields of a purchase. -/
def withdrawalLog : Log :=
  { indexedLog with topics := [EventKind.removeFromSale.signature, ⟨0xbeef⟩, ⟨7⟩] }

def withdrawalAnswers : Answers :=
  { purchaseChain.answers with
    logs := fun _ _ => .ok [{ withdrawalLog with topics := [] }, withdrawalLog] }

/-- Topic 0 tells the withdrawal from a purchase, and a scan ignores the log without topics. -/
theorem withdrawal_read_by_topic :
    let outcome := scan purchaseSettings withdrawalAnswers.decoding 110 .empty .zero
    withdrawalLog.payload = .ok (.removeFromSale ⟨0xbeef⟩ 7) ∧
      (∃ event, withdrawalLog.ReadAs (.removeFromSale ⟨0xbeef⟩ 7) event ∧
        event.kind = .removeFromSale) ∧
      (∀ payload, PendingEvent.ofLog? payload { withdrawalLog with topics := [] } = none) ∧
      outcome.pass.report.ignored = 1 ∧ outcome.pass.report.undecodable = 0 := by
  intro outcome
  obtain ⟨readAs, unread, _, sorts⟩ := kinds_agree
  have decoded : withdrawalLog.payload = .ok (.removeFromSale ⟨0xbeef⟩ 7) := rfl
  obtain ⟨event, read⟩ := readAs _ _ decoded
  obtain ⟨seen, sorted⟩ := sorts purchaseSettings withdrawalAnswers 110 .empty .zero _ rfl
  have finished : outcome.result = .ok outcome.pass.report := rfl
  obtain ⟨whole, _⟩ := sorted.finished _ finished
  have ignored := sorted.ignored
  have undecodable := sorted.undecodable
  rw [whole] at ignored undecodable
  exact ⟨decoded, ⟨event, read, read.kind⟩, (unread _ rfl).2, ignored, undecodable⟩

end Withdrawal

end StarWatch
