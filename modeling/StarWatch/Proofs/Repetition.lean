import StarWatch.Proofs.Retry

/-!
# Repeated and reordered notifications

The same log may be notified any number of times and in any order, so the same
identities may be pending in many queues. A scan reads its queue through the
first block and through membership, and both are the same for all of them. Two
scans from such queues stay `Alike`, log by log; only the number of entries that
a removed log takes back tells them apart.
-/

namespace StarWatch

/-- The identities that are pending, however often and in whatever order. -/
def Queue.identities (q : Queue) : Set LogIdentity :=
  {id | ∃ entry ∈ q.entries, entry.identity = id}

def ScanReport.unpurged (report : ScanReport) : ScanReport := { report with purged := 0 }

namespace Queue

theorem contains_iff_identity_mem (q : Queue) (e : PendingEvent) :
    q.contains e = true ↔ e.identity ∈ q.identities := by
  simp only [contains_iff, PendingEvent.sameLog_iff, identities, Set.mem_ofPred_eq]

theorem identities_removeMatching (q : Queue) (e : PendingEvent) :
    (q.removeMatching e).identities = q.identities \ {e.identity} := by
  ext id
  constructor
  · rintro ⟨entry, member, rfl⟩
    obtain ⟨pending, apart⟩ := List.mem_filter.mp member
    refine ⟨⟨entry, pending, rfl⟩, ?_⟩
    simpa [PendingEvent.sameLog] using apart
  · rintro ⟨⟨entry, pending, rfl⟩, apart⟩
    refine ⟨entry, List.mem_filter.mpr ⟨pending, ?_⟩, rfl⟩
    simpa [PendingEvent.sameLog] using apart

section Alike

variable {q q' : Queue}

theorem contains_congr (same : q.identities = q'.identities) (e : PendingEvent) :
    q.contains e = q'.contains e := by
  rw [Bool.eq_iff_iff, contains_iff_identity_mem, contains_iff_identity_mem, same]

/-- In a sorted queue the first block is the lowest of those that the identities name. -/
theorem firstBlock_le_of_identities (sorted : q.Sorted) (same : q.identities = q'.identities) :
    q.firstBlock ≤ q'.firstBlock := by
  cases entries : q'.entries with
  | nil =>
    have none_pending : q.entries = [] := by
      rw [List.eq_nil_iff_forall_not_mem]
      intro entry member
      obtain ⟨entry', member', _⟩ : entry.identity ∈ q'.identities := same ▸ ⟨entry, member, rfl⟩
      rw [entries] at member'
      cases member'
    simp [firstBlock, none_pending, entries]
  | cons first rest =>
    have named : first.identity ∈ q'.identities := ⟨first, by simp [entries], rfl⟩
    obtain ⟨entry, member, alike⟩ : first.identity ∈ q.identities := same ▸ named
    have below := sorted.firstBlock_le member
    rw [PendingEvent.block_eq_of_identity alike] at below
    simpa [firstBlock, entries] using below

theorem firstBlock_congr (sorted : q.Sorted) (sorted' : q'.Sorted)
    (same : q.identities = q'.identities) : q.firstBlock = q'.firstBlock :=
  BitVec.le_antisymm (firstBlock_le_of_identities sorted same)
    (firstBlock_le_of_identities sorted' same.symm)

end Alike

end Queue

namespace Scan

/-- Two passes that have asked for the same, and in which the same identities are pending. -/
structure Pass.Alike (p p' : Pass) : Prop where
  identities : p.queue.identities = p'.queue.identities
  requests : p.requests = p'.requests
  report : p.report.unpurged = p'.report.unpurged

section Steps

variable {answers : Answers} {latest : Word} {depth : Nat} {p p' : Pass}

theorem Pass.Alike.dispatched (alike : p.Alike p') :
    p.report.dispatched = p'.report.dispatched := by
  have same := congrArg ScanReport.dispatched alike.report
  exact same

/-- A log is judged by what is pending, and not by what the downstream interface answers. -/
theorem Pass.Alike.judge (alike : p.Alike p') (answers : Answers) (latest : Word) (depth : Nat)
    (call : Nat → Notice → Except NotifyError Unit) (log : Log) :
    Scan.judge answers latest depth p.queue p.report.dispatched log =
      Scan.judge { answers with call } latest depth p'.queue p'.report.dispatched log := by
  simp only [Scan.judge, judgeEvent, blockTime, Queue.contains_congr alike.identities,
    alike.dispatched]

theorem leaves_identities {q q' : Queue} (same : q.identities = q'.identities)
    (verdict : Verdict) : (verdict.leaves q).identities = (verdict.leaves q').identities := by
  cases verdict with
  | removed event | confirmed event =>
    simp only [Verdict.leaves, Queue.identities_removeMatching, same]
  | _ => exact same

/-- The tally that a verdict leaves, but for what it purges. -/
theorem settle_unpurged (answers answers' : Answers)
    (same : p.report.unpurged = p'.report.unpurged) (verdict : Verdict) :
    (p.settle answers verdict).report.unpurged = (p'.settle answers' verdict).report.unpurged := by
  simp only [ScanReport.unpurged, ScanReport.mk.injEq] at same
  cases verdict with
  | confirmed event time =>
    obtain ⟨notice, sent⟩ := exists_notice event time
    rw [settle_confirmed answers p sent, settle_confirmed answers' p' sent]
    simp [ScanReport.unpurged, same]
  | _ => simp [Pass.settle, ScanReport.unpurged, same]

theorem Pass.Alike.settle (alike : p.Alike p') (answers answers' : Answers) (verdict : Verdict) :
    (p.settle answers verdict).Alike (p'.settle answers' verdict) where
  identities := by
    rw [settle_queue, settle_queue]
    exact leaves_identities alike.identities verdict
  requests := by rw [settle_requests, settle_requests, alike.requests]
  report := settle_unpurged answers answers' alike.report verdict

/-- Alike passes stay alike to their ends, and end for the same cause. -/
theorem Pass.Alike.settleAll (alike : p.Alike p') (answers : Answers) (latest : Word)
    (depth : Nat) (call : Nat → Notice → Except NotifyError Unit) (logs : List Log) :
    (Scan.settleAll answers latest depth p logs).1.Alike
        (Scan.settleAll { answers with call } latest depth p' logs).1 ∧
      (Scan.settleAll answers latest depth p logs).2 =
        (Scan.settleAll { answers with call } latest depth p' logs).2 := by
  induction logs generalizing p p' with
  | nil => exact ⟨alike, rfl⟩
  | cons log rest ih =>
    have judged := alike.judge answers latest depth call log
    generalize here : Scan.judge answers latest depth p.queue p.report.dispatched log = verdict
      at judged
    have settled := alike.settle answers { answers with call } verdict
    cases stop : verdict.stop? with
    | some cause =>
      rw [settleAll_stop rest here stop, settleAll_stop rest judged.symm stop]
      exact ⟨settled, rfl⟩
    | none =>
      rw [settleAll_go rest here stop, settleAll_go rest judged.symm stop]
      exact ih settled

end Steps

end Scan

/-- What is forwarded does not depend on how often and in which order the pending logs were
notified, nor on what the downstream interface answers: two queues with the same identities, each
made by any changes, lead to the same requests, the same calls among them, the same error or the
same report but for the purged entries, and again to the same identities. -/
theorem scan_ignores_repetition (settings : Settings) (answers : Answers)
    (call : Nat → Notice → Except NotifyError Unit) (latest : Word)
    (changes changes' : List Queue.Change) (metrics metrics' : Metrics)
    (same : (Queue.after changes).identities = (Queue.after changes').identities) :
    let outcome := scan settings answers latest (Queue.after changes) metrics
    let outcome' := scan settings { answers with call } latest (Queue.after changes') metrics'
    outcome.pass.requests = outcome'.pass.requests ∧
      callsOf outcome.pass.requests = callsOf outcome'.pass.requests ∧
      outcome.result.map ScanReport.unpurged = outcome'.result.map ScanReport.unpurged ∧
      outcome.pass.queue.identities = outcome'.pass.queue.identities := by
  have first := Queue.firstBlock_congr (Queue.sorted_after changes) (Queue.sorted_after changes')
    same
  generalize Queue.after changes = queue at same first
  generalize Queue.after changes' = queue' at same first
  have begun (logs : List Log) : (Scan.opening settings queue metrics logs).Alike
      (Scan.opening settings queue' metrics' logs) :=
    ⟨same, by simp [Scan.opening, first], rfl⟩
  dsimp only
  cases answered : answers.logs settings.contract queue.firstBlock with
  | error e =>
    have answered' : ({ answers with call } : Answers).logs settings.contract queue'.firstBlock =
        .error e := first ▸ answered
    rw [Scan.scan_refused latest metrics answered, Scan.scan_refused latest metrics' answered']
    exact ⟨(begun []).requests, congrArg callsOf (begun []).requests, rfl, same⟩
  | ok logs =>
    have answered' : ({ answers with call } : Answers).logs settings.contract queue'.firstBlock =
        .ok logs := first ▸ answered
    obtain ⟨alike, stopped⟩ := (begun logs).settleAll answers latest settings.depth call logs
    rw [Scan.scan_of_answered latest metrics answered,
      Scan.scan_of_answered latest metrics' answered']
    refine ⟨alike.requests, congrArg callsOf alike.requests, ?_, alike.identities⟩
    dsimp only
    rw [← stopped]
    cases (Scan.settleAll answers latest settings.depth
      (Scan.opening settings queue metrics logs) logs).2 with
    | none => exact congrArg Except.ok alike.report
    | some cause => rfl

section Purchases

/-- Both purchases once more, the newer one first and with other flags. -/
def repeated : List Queue.Change :=
  [.insert { purchase.event with kind := .create, removed := true, confirmedAt := some ⟨0, 0⟩ },
    .insert olderEvent, .insert purchase.event, .insert olderEvent]

theorem repeated_identities :
    (Queue.after repeated).identities = (Queue.after bothQueued).identities := by
  have entries : (Queue.after repeated).entries.map PendingEvent.identity =
      [olderEvent.identity, olderEvent.identity, purchase.event.identity,
        purchase.event.identity] := rfl
  have twice (id : LogIdentity) : id ∈ (Queue.after repeated).identities ↔
      id = olderEvent.identity ∨ id = purchase.event.identity := by
    rw [Queue.identities, Set.mem_ofPred_eq, ← List.mem_map, entries]
    simp
  ext id
  rw [twice, Queue.identities, Set.mem_ofPred_eq, ← List.mem_map, bothQueued_entries]
  simp

def refuseCall (_ : Nat) (notice : Notice) : Except NotifyError Unit :=
  .error (.status notice.kind.label 500)

theorem ScanReport.exists_of_unpurged {result result' : Except PipelineError ScanReport}
    {report : ScanReport} (same : result.map unpurged = result'.map unpurged)
    (completed : result = .ok report) : ∃ report', result' = .ok report' := by
  subst completed
  cases result' with
  | ok report' => exact ⟨report', rfl⟩
  | error cause => cases same

/-- Four entries of the two purchases lead to the calls that two of them lead to, although the
downstream interface refuses every one. -/
theorem repeated_purchases_called_alike :
    let outcome := scan purchaseSettings twoPurchases.answers 110 (Queue.after repeated) .zero
    let outcome' := scan purchaseSettings { twoPurchases.answers with call := refuseCall } 110
      (Queue.after bothQueued) .zero
    (Queue.after repeated).size = 4 ∧ (Queue.after bothQueued).size = 2 ∧
      (Queue.after repeated).identities = (Queue.after bothQueued).identities ∧
      outcome.pass.requests = outcome'.pass.requests ∧
      callsOf outcome.pass.requests = [olderNotice, purchase.notice] ∧
      callsOf outcome.pass.requests = callsOf outcome'.pass.requests ∧
      outcome.result.map ScanReport.unpurged = outcome'.result.map ScanReport.unpurged ∧
      outcome.pass.queue.identities = outcome'.pass.queue.identities := by
  have alike := scan_ignores_repetition purchaseSettings twoPurchases.answers refuseCall 110
    repeated bothQueued .zero .zero repeated_identities
  obtain ⟨requests, calls, reported, identities⟩ := alike
  have serves := (twoPurchases.answers_serve purchaseSettings.contract).withCall refuseCall
  obtain ⟨report, completed⟩ :=
    scan_completes purchaseSettings twoPurchases 110 (Queue.after repeated) .zero
  obtain ⟨report', completed'⟩ := ScanReport.exists_of_unpurged reported completed
  have called := bothQueued_scanned (.of_serves serves .zero) completed'
  dsimp only at requests calls called reported identities ⊢
  exact ⟨rfl, rfl, repeated_identities, requests, calls.trans called, calls, reported, identities⟩

end Purchases

end StarWatch
