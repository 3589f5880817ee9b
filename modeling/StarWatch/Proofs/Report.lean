import StarWatch.Proofs.Balance
import StarWatch.Proofs.Repetition

/-!
# What the report of a scan accounts for

What a log is found to be does not depend on the queue; only what becomes of a
log that is deep enough does. So the counters of a finished pass add up to its
response, but for the removed logs, which have no counter. The entries that the
pass took from the queue are those that it reports as purged and those that its
calls retired.
-/

namespace StarWatch

/-- What a log is found to be, before the queue is looked at. -/
inductive Finding where
  | ignored
  | undecodable
  | removed
  | shallow
  | deep
deriving DecidableEq

def Verdict.finding : Verdict → Finding
  | ignored => .ignored
  | undecodable => .undecodable
  | removed _ => .removed
  | pending => .shallow
  | untracked => .deep
  | unavailable .. => .deep
  | confirmed .. => .deep

/-- How many logs of a finding a report has counted. For removed logs it has no counter. -/
def ScanReport.found? (r : ScanReport) : Finding → Option Nat
  | .ignored => some r.ignored
  | .undecodable => some r.undecodable
  | .removed => none
  | .shallow => some r.pending
  | .deep => some (r.untracked + r.dispatched)

namespace Scan

def readsRemoved (answers : Answers) (log : Log) : Bool :=
  (eventOf? answers log).any PendingEvent.removed

section Findings

variable (answers : Answers) (latest : Word) (depth : Nat)

/-- A log without a tracked signature, or with a payload of another kind, is ignored. -/
def finding (log : Log) : Finding :=
  match eventOf? answers log with
  | some event =>
    if event.removed then .removed else if event.block.Deep latest depth then .deep else .shallow
  | none =>
    if log.kind?.isSome && (answers.payload log).toOption.isNone then .undecodable else .ignored

theorem judgeEvent_finding (queue : Queue) (n : Nat) (event : PendingEvent) :
    (judgeEvent answers latest depth queue n event).finding =
      if event.removed then .removed
      else if event.block.Deep latest depth then .deep else .shallow := by
  simp only [judgeEvent]
  by_cases gone : event.removed = true
  · rw [if_pos gone, if_pos gone]
    rfl
  rw [if_neg gone, if_neg gone]
  by_cases deep : event.isConfirmed latest depth = true
  · have reached := (PendingEvent.isConfirmed_iff event latest depth).mp deep
    rw [if_neg (by simp [deep]), if_pos reached]
    split
    · rfl
    · cases blockTime answers n event.block with
      | error | ok => rfl
  · have short := mt (PendingEvent.isConfirmed_iff event latest depth).mpr deep
    rw [if_pos (by simp [deep]), if_neg short]
    rfl

/-- A verdict tells what its log is found to be, whatever is in the queue. -/
theorem judge_finding (queue : Queue) (n : Nat) (log : Log) :
    (judge answers latest depth queue n log).finding = finding answers latest depth log := by
  simp only [judge, finding, eventOf?]
  cases tracked : log.kind? with
  | none => rfl
  | some kind =>
    cases decoded : answers.payload log with
    | error e => rfl
    | ok payload =>
      cases made : PendingEvent.ofLog? payload log with
      | none =>
        simp only [made]
        rfl
      | some event =>
        simp only [made]
        exact judgeEvent_finding answers latest depth queue n event

theorem finding_eq_removed_iff (log : Log) :
    finding answers latest depth log = .removed ↔ readsRemoved answers log = true := by
  simp only [finding, readsRemoved]
  cases eventOf? answers log with
  | none =>
    simp only [Option.any_none]
    split <;> simp
  | some event =>
    simp only [Option.any_some]
    split
    · simp [*]
    · split <;> simp [*]

end Findings

section Counting

variable {answers : Answers} {latest : Word} {depth : Nat}

/-- A log that is settled is counted for its finding. -/
theorem settle_found (answers : Answers) (p : Pass) {verdict : Verdict}
    (goes : verdict.stop? = none) (f : Finding) :
    (p.settle answers verdict).report.found? f =
      (p.report.found? f).map (· + if verdict.finding = f then 1 else 0) := by
  cases verdict with
  | unavailable => cases goes
  | confirmed event time =>
    obtain ⟨notice, sent⟩ := exists_notice event time
    rw [settle_confirmed answers p sent]
    cases f <;> rfl
  | untracked =>
    cases f with
    | deep => exact congrArg some (Nat.add_right_comm ..)
    | _ => rfl
  | _ => cases f <;> rfl

theorem settleAll_found {p final : Pass} {logs : List Log}
    (settled : settleAll answers latest depth p logs = (final, none)) (f : Finding) :
    final.report.found? f =
      (p.report.found? f).map
        (· + logs.countP fun log => finding answers latest depth log = f) := by
  induction logs generalizing p with
  | nil =>
    cases settled
    simp
  | cons log rest ih =>
    cases stops : (judge answers latest depth p.queue p.report.dispatched log).stop? with
    | some cause =>
      rw [settleAll_stop rest rfl stops] at settled
      cases settled
    | none =>
      rw [settleAll_go rest rfl stops] at settled
      rw [ih settled, settle_found answers p stops, judge_finding, Option.map_map,
        List.countP_cons]
      congr 1
      funext n
      simp only [Function.comp, decide_eq_true_eq]
      omega

theorem countP_readsRemoved (answers : Answers) (latest : Word) (depth : Nat) (logs : List Log) :
    logs.countP (readsRemoved answers) =
      logs.countP fun log => finding answers latest depth log = .removed := by
  apply List.countP_congr
  intro log _
  rw [decide_eq_true_iff, finding_eq_removed_iff]

/-- Every log has one finding. -/
theorem length_eq_findings (answers : Answers) (latest : Word) (depth : Nat) (logs : List Log) :
    let count (f : Finding) := logs.countP fun log => finding answers latest depth log = f
    logs.length =
      count .ignored + count .undecodable + count .shallow + count .deep + count .removed := by
  induction logs with
  | nil => rfl
  | cons log rest ih =>
    simp only [List.countP_cons, List.length_cons] at ih ⊢
    cases finding answers latest depth log with
    | ignored | undecodable | removed | shallow | deep =>
      simp only [decide_true, reduceCtorEq, decide_false, if_true, Bool.false_eq_true, if_false]
      omega

theorem settle_scanned (answers : Answers) (p : Pass) (verdict : Verdict) :
    (p.settle answers verdict).report.scanned = p.report.scanned := by
  cases verdict with
  | confirmed event time =>
    obtain ⟨notice, sent⟩ := exists_notice event time
    rw [settle_confirmed answers p sent]
  | _ => rfl

/-- An entry that is gone was reported as purged, or a call retired it. -/
theorem settle_gone (answers : Answers) (p : Pass) (verdict : Verdict) :
    (p.settle answers verdict).queue.size + (p.settle answers verdict).report.purged +
      verdict.retired p.queue = p.queue.size + p.report.purged := by
  cases verdict with
  | removed event =>
    have taken := p.queue.size_removeMatching event
    simp only [Pass.settle, Verdict.retired]
    omega
  | confirmed event time =>
    obtain ⟨notice, sent⟩ := exists_notice event time
    have taken := p.queue.size_removeMatching event
    rw [settle_confirmed answers p sent]
    simp only [Verdict.retired]
    omega
  | _ => rfl

variable {p final : Pass} {logs : List Log} {visited : List Visit} {stop : Option PipelineError}

theorem Course.scanned_eq (h : Course answers latest depth p logs visited final stop) :
    final.report.scanned = p.report.scanned := by
  induction h with
  | done => rfl
  | stop => exact settle_scanned ..
  | go _ _ _ ih => rw [ih, settle_scanned]

theorem Course.gone (h : Course answers latest depth p logs visited final stop) :
    final.queue.size + final.report.purged + retired visited = p.queue.size + p.report.purged := by
  induction h with
  | done => rfl
  | @stop p log rest block cause =>
    have first := settle_gone answers p (.unavailable block cause)
    rw [← visit_retired answers p log] at first
    simpa [retired] using first
  | @go p final log rest verdict visited =>
    have first := settle_gone answers p verdict
    rw [← visit_retired answers p log] at first
    simp only [retired, List.map_cons, List.sum_cons] at *
    omega

/-- How a visit that calls retires the entries of its event: all of them, and there is one. -/
structure Visit.RetiresAll (answers : Answers) (v : Visit) (event : PendingEvent) : Prop where
  read : eventOf? answers v.log = some event
  stands : event.removed = false
  called : ∃ notice, v.calls = [notice]
  left : v.after.queue = v.before.queue.removeMatching event
  all : v.retired = v.before.queue.countMatching event
  one : 1 ≤ v.retired

theorem Visit.Sound.exists_retiresAll {v : Visit} (sound : v.Sound answers latest depth)
    (called : v.calls ≠ []) : ∃ event, v.RetiresAll answers event := by
  have accounted := sound.accounted
  obtain ⟨event, time, confirmed⟩ := sound.calls_ne_nil_iff.mp called
  obtain ⟨notice, _, one⟩ := sound.calls_confirmed confirmed
  obtain ⟨meant, settled⟩ := sound
  obtain ⟨log, verdict, before, after⟩ := v
  dsimp only at confirmed settled meant
  subst settled confirmed
  cases meant with
  | confirmed read stands =>
    refine ⟨event, read, stands, ⟨notice, one⟩, settle_queue .., visit_retired .., ?_⟩
    rcases accounted with ⟨none, _⟩ | ⟨_, _, least⟩
    · exact absurd none called
    · exact least

end Counting

/-- A report that accounts for every log of a response and for every entry that a pass took from a
queue: an entry that is gone was purged, or a call retired it. -/
structure Accounts (answers : Answers) (latest : Word) (depth : Nat) (queue : Queue)
    (logs : List Log) (visited : List Visit) (pass : Pass) (report : ScanReport) : Prop where
  logged : visited.map Visit.log = logs
  scanned : report.scanned = logs.length
  total : report.scanned = report.ignored + report.undecodable + report.pending +
    report.untracked + report.dispatched + logs.countP (readsRemoved answers)
  ignored : report.ignored = logs.countP fun log => finding answers latest depth log = .ignored
  undecodable : report.undecodable =
    logs.countP fun log => finding answers latest depth log = .undecodable
  pending : report.pending = logs.countP fun log => finding answers latest depth log = .shallow
  deep : report.untracked + report.dispatched =
    logs.countP fun log => finding answers latest depth log = .deep
  calls : callsOf pass.requests = visited.flatMap Visit.calls
  dispatched : report.dispatched = (callsOf pass.requests).length
  entries : queue.size = pass.queue.size + report.purged + (visited.map Visit.retired).sum
  retires : ∀ v ∈ visited, v.calls ≠ [] → ∃ event, v.RetiresAll answers event

section Scans

variable {settings : Settings} {answers : Answers} {latest : Word} {queue : Queue}
  {metrics : Metrics}

theorem accounts_of_settled {logs : List Log} {pass : Pass}
    (settled : settleAll answers latest settings.depth (opening settings queue metrics logs) logs =
      (pass, none)) :
    Accounts answers latest settings.depth queue logs
      (visits answers latest settings.depth (opening settings queue metrics logs) logs) pass
      pass.report := by
  have went := course answers latest settings.depth (opening settings queue metrics logs) logs
  rw [settled] at went
  have found := settleAll_found settled
  have ignored := found .ignored
  have undecodable := found .undecodable
  have pending := found .shallow
  have deep := found .deep
  simp only [ScanReport.found?, opening, ScanReport.start, Option.map_some, Option.some.injEq,
    Nat.zero_add] at ignored undecodable pending deep
  have scanned : pass.report.scanned = logs.length := went.scanned_eq
  have dispatched := went.dispatched_eq
  have calls := went.calls_eq
  have gone := went.gone
  simp only [opening, ScanReport.start, callsOf_logs, callsOf_nil, List.nil_append, Nat.zero_add,
    Nat.add_zero] at dispatched calls gone
  constructor
  case logged => exact (went.finished rfl).1
  case scanned => exact scanned
  case total =>
    have parts := length_eq_findings answers latest settings.depth logs
    dsimp only at parts
    rw [countP_readsRemoved answers latest settings.depth, scanned]
    omega
  case ignored => exact ignored
  case undecodable => exact undecodable
  case pending => exact pending
  case deep => exact deep
  case calls => exact calls
  case dispatched => rw [dispatched, calls]
  case entries => exact gone.symm
  case retires => exact fun v hv called => (went.sound v hv).exists_retiresAll called

end Scans

end Scan

/-- The report of every scan that goes through accounts for what the ledger returned and for what
left the queue. -/
theorem report_accounts_for_scan (settings : Settings) (answers : Answers) (latest : Word)
    (queue : Queue) (metrics : Metrics) {report : ScanReport}
    (completed : (scan settings answers latest queue metrics).result = .ok report) :
    ∃ logs, answers.logs settings.contract queue.firstBlock = .ok logs ∧
      Scan.Accounts answers latest settings.depth queue logs
        (Scan.visits answers latest settings.depth (Scan.opening settings queue metrics logs) logs)
        (scan settings answers latest queue metrics).pass report := by
  cases answered : answers.logs settings.contract queue.firstBlock with
  | error e =>
    rw [Scan.scan_refused latest metrics answered] at completed
    cases completed
  | ok logs =>
    refine ⟨logs, rfl, ?_⟩
    rcases settled : Scan.settleAll answers latest settings.depth
      (Scan.opening settings queue metrics logs) logs with ⟨pass, _ | cause⟩
    · rw [Scan.scan_finished latest metrics answered settled] at completed ⊢
      cases completed
      exact Scan.accounts_of_settled settled
    · rw [Scan.scan_stopped latest metrics answered settled] at completed
      cases completed

/-- Four entries of two purchases, and a report that accounts for them. -/
theorem repeated_purchases_accounted_for :
    ∃ report logs, (Queue.after repeated).size = 4 ∧
      (scan purchaseSettings twoPurchases.answers 110 (Queue.after repeated) .zero).result =
        .ok report ∧
      twoPurchases.answers.logs purchaseSettings.contract (Queue.after repeated).firstBlock =
        .ok logs ∧
      Scan.Accounts twoPurchases.answers 110 10 (Queue.after repeated) logs
        (Scan.visits twoPurchases.answers 110 10
          (Scan.opening purchaseSettings (Queue.after repeated) .zero logs) logs)
        (scan purchaseSettings twoPurchases.answers 110 (Queue.after repeated) .zero).pass
        report := by
  obtain ⟨report, completed⟩ :=
    scan_completes purchaseSettings twoPurchases 110 (Queue.after repeated) .zero
  obtain ⟨logs, returned, accounts⟩ := report_accounts_for_scan purchaseSettings
    twoPurchases.answers 110 (Queue.after repeated) .zero completed
  exact ⟨report, logs, rfl, completed, returned, accounts⟩

end StarWatch
