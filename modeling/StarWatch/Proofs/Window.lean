import StarWatch.Proofs.Ordering
import StarWatch.Proofs.Reconcile
import StarWatch.Proofs.Sighting

/-!
# Scanning from the oldest pending block

A log that clears no entry of the queue leaves a pass as it is, whatever becomes
of it: nothing is looked up, called or taken out. So a pass may skip such logs,
and those below the oldest pending block are of this kind.
-/

namespace StarWatch

namespace Scan

/-- A pass stands where another does, with some calls made before. -/
structure Pass.Follows (calls : List Notice) (p p' : Pass) : Prop where
  queue : p'.queue = p.queue
  called : callsOf p'.requests = calls ++ callsOf p.requests
  dispatched : p'.report.dispatched = calls.length + p.report.dispatched

/-- A log that takes no entry out of a queue. -/
def Moot (answers : Answers) (latest : Word) (depth : Nat) (queue : Queue) (log : Log) : Prop :=
  ∀ entry ∈ queue.entries, clears answers latest depth entry log = false

section Following

variable {answers : Answers} {calls : List Notice} {p p' p'' : Pass}

theorem Pass.Follows.refl (p : Pass) : p.Follows [] p where
  queue := rfl
  called := rfl
  dispatched := (Nat.zero_add _).symm

theorem Pass.Follows.symm (follows : p.Follows [] p') : p'.Follows [] p where
  queue := follows.queue.symm
  called := follows.called.symm
  dispatched := by
    have same := follows.dispatched
    rw [List.length_nil, Nat.zero_add] at same ⊢
    exact same.symm

theorem Pass.Follows.trans {more : List Notice} (first : p.Follows calls p')
    (second : p'.Follows more p'') : p.Follows (more ++ calls) p'' where
  queue := second.queue.trans first.queue
  called := by rw [second.called, first.called, List.append_assoc]
  dispatched := by
    rw [second.dispatched, first.dispatched, List.length_append, Nat.add_assoc]

/-- Settling the same verdict keeps two passes together. -/
theorem Pass.Follows.settle (follows : p.Follows calls p') (answers answers' : Answers)
    (verdict : Verdict) :
    (p.settle answers verdict).Follows calls (p'.settle answers' verdict) where
  queue := by rw [settle_queue, settle_queue, follows.queue]
  called := by
    rw [settle_requests, settle_requests, callsOf_append, callsOf_append, follows.called,
      List.append_assoc]
  dispatched := by rw [settle_dispatched, settle_dispatched, follows.dispatched, Nat.add_assoc]

variable {latest : Word} {depth : Nat} {queue : Queue} {n : Nat} {log : Log}

/-- A moot log is passed over. -/
theorem Meaning.of_moot {verdict : Verdict}
    (meant : Meaning answers latest depth queue n log verdict)
    (moot : Moot answers latest depth queue log) :
    verdict.stop? = none ∧ verdict.leaves queue = queue ∧ verdict.requests = [] := by
  have absent {event : PendingEvent} (read : eventOf? answers log = some event)
      (deep : event.block.Deep latest depth) : queue.contains event = false := by
    rw [Bool.eq_false_iff, ne_eq, Queue.contains_iff]
    rintro ⟨entry, member, same⟩
    have spared := moot entry member
    rw [clears_settled read (.inr deep), same] at spared
    cases spared
  cases meant with
  | ignored | undecodable | pending | untracked => exact ⟨rfl, rfl, rfl⟩
  | @removed event read gone =>
    refine ⟨rfl, ?_, rfl⟩
    simp only [Verdict.leaves, Queue.removeMatching]
    rw [List.filter_eq_self.mpr]
    intro entry member
    have spared := moot entry member
    rw [clears_settled read (.inl gone)] at spared
    rw [spared, Bool.not_false]
  | unavailable read _ deep present => simp [absent read deep] at present
  | confirmed read _ deep present => simp [absent read deep] at present

theorem Pass.Follows.settle_moot (follows : p.Follows calls p') {verdict : Verdict}
    (meant : Meaning answers latest depth p'.queue n log verdict)
    (moot : Moot answers latest depth p'.queue log) :
    p.Follows calls (p'.settle answers verdict) := by
  obtain ⟨_, unchanged, unasked⟩ := meant.of_moot moot
  constructor
  · rw [settle_queue, unchanged, follows.queue]
  · rw [settle_requests, unasked, List.append_nil, follows.called]
  · rw [settle_dispatched, unasked, follows.dispatched]
    rfl

theorem Moot.of_sublist {queue' : Queue} (moot : Moot answers latest depth queue log)
    (kept : queue'.entries.Sublist queue.entries) : Moot answers latest depth queue' log :=
  fun entry member => moot entry (kept.subset member)

/-- A pass over the logs that are not moot goes as the pass over all of them. The two may have
made different numbers of calls before, if the lookups do not depend on that. -/
theorem settleAll_filter (keep : Log → Bool)
    (steady : ∀ queue n log, judge answers latest depth queue (calls.length + n) log =
      judge answers latest depth queue n log)
    (follows : p.Follows calls p') {logs : List Log}
    (moot : ∀ log ∈ logs, keep log = false → Moot answers latest depth p.queue log) :
    (settleAll answers latest depth p (logs.filter keep)).1.Follows calls
        (settleAll answers latest depth p' logs).1 ∧
      (settleAll answers latest depth p' logs).2 =
        (settleAll answers latest depth p (logs.filter keep)).2 := by
  induction logs generalizing p p' with
  | nil => exact ⟨follows, rfl⟩
  | cons log rest ih =>
    have meant := judge_meaning answers latest depth p.queue p.report.dispatched log
    generalize judged : judge answers latest depth p.queue p.report.dispatched log = verdict
      at meant
    have judged' : judge answers latest depth p'.queue p'.report.dispatched log = verdict := by
      rw [follows.queue, follows.dispatched, steady, judged]
    by_cases kept : keep log = true
    · rw [List.filter_cons_of_pos kept]
      have settled := follows.settle answers answers verdict
      cases stop : verdict.stop? with
      | some cause =>
        rw [settleAll_stop _ judged stop, settleAll_stop _ judged' stop]
        exact ⟨settled, rfl⟩
      | none =>
        rw [settleAll_go _ judged stop, settleAll_go _ judged' stop]
        refine ih settled fun log hlog dropped => ?_
        rw [settle_queue]
        exact (moot log (List.mem_cons_of_mem _ hlog) dropped).of_sublist
          (verdict.leaves_sublist p.queue)
    · rw [List.filter_cons_of_neg kept]
      have passed := moot log List.mem_cons_self (Bool.of_not_eq_true kept)
      rw [settleAll_go _ judged' (meant.of_moot passed).1]
      rw [← follows.queue] at meant passed
      exact ih (follows.settle_moot meant passed)
        fun log hlog => moot log (List.mem_cons_of_mem _ hlog)

/-- A log below the oldest pending block takes no entry out. -/
theorem moot_below (sorted : queue.Sorted) (below : log.block < queue.firstBlock) :
    Moot answers latest depth queue log := by
  intro entry member
  rw [Bool.eq_false_iff, ne_eq, clears_iff]
  rintro ⟨event, read, same, _⟩
  have bound := sorted.firstBlock_le member
  rw [PendingEvent.block_eq_of_identity same, eventOf?_block read] at bound
  exact absurd below (BitVec.not_lt.mpr bound)

end Following

end Scan

def ScanOutcome.error? (outcome : ScanOutcome) : Option PipelineError :=
  match outcome.result with
  | .error cause => some cause
  | .ok _ => none

def logsSince (logs : List Log) (fromBlock : Word) : List Log :=
  logs.filter fun log => fromBlock ≤ log.block

theorem logsSince_zero (logs : List Log) : logsSince logs 0 = logs :=
  List.filter_eq_self.mpr fun log _ => decide_eq_true (Nat.zero_le log.block.toNat)

section Windows

variable (settings : Settings) (answers : Answers) (latest : Word) (queue : Queue)
  (metrics : Metrics) (fromBlock : Word)

def Scan.openingFrom (logs : List Log) : Pass :=
  { queue, report := .start logs.length, requests := [.logs settings.contract fromBlock], metrics }

/-- The scan of the logs from a block on, whatever is pending. -/
def scanFrom : ScanOutcome :=
  match answers.logs settings.contract fromBlock with
  | .error e =>
    { pass := Scan.openingFrom settings queue metrics fromBlock [], result := .error (.ledger e) }
  | .ok logs =>
    match Scan.settleAll answers latest settings.depth
      (Scan.openingFrom settings queue metrics fromBlock logs) logs with
    | (pass, some cause) => { pass, result := .error cause }
    | (pass, none) => { pass, result := .ok pass.report }

/-- A scan starts at the oldest pending block. -/
theorem scan_eq_scanFrom :
    scan settings answers latest queue metrics =
      scanFrom settings answers latest queue metrics queue.firstBlock := rfl

variable {settings answers queue fromBlock}

theorem scanFrom_answered {logs : List Log} {pass : Scan.Pass} {stop : Option PipelineError}
    (answered : answers.logs settings.contract fromBlock = .ok logs)
    (settled : Scan.settleAll answers latest settings.depth
      (Scan.openingFrom settings queue metrics fromBlock logs) logs = (pass, stop)) :
    (scanFrom settings answers latest queue metrics fromBlock).pass = pass ∧
      (scanFrom settings answers latest queue metrics fromBlock).error? = stop := by
  simp only [scanFrom, answered, settled, ScanOutcome.error?]
  cases stop with
  | none => exact ⟨rfl, rfl⟩
  | some cause => exact ⟨rfl, rfl⟩

end Windows

/-- Starting at the oldest pending block loses nothing: for every queue, the scan calls, leaves
and fails as the scan of all logs does. -/
theorem scan_from_oldest_loses_nothing (settings : Settings) (answers : Answers) (latest : Word)
    (changes : List Queue.Change) (metrics : Metrics) (logs : List Log)
    (returned : ∀ fromBlock,
      answers.logs settings.contract fromBlock = .ok (logsSince logs fromBlock)) :
    let queue := Queue.after changes
    let short := scan settings answers latest queue metrics
    let whole := scanFrom settings answers latest queue metrics 0
    callsOf short.pass.requests = callsOf whole.pass.requests ∧
      short.pass.queue = whole.pass.queue ∧ short.error? = whole.error? := by
  have sorted := Queue.sorted_after changes
  generalize Queue.after changes = queue at sorted
  dsimp only
  have start : (Scan.openingFrom settings queue metrics queue.firstBlock
      (logsSince logs queue.firstBlock)).Follows []
        (Scan.openingFrom settings queue metrics 0 logs) := ⟨rfl, rfl, rfl⟩
  obtain ⟨alike, stopped⟩ := Scan.settleAll_filter (fun log => queue.firstBlock ≤ log.block)
    (by simp) start
    fun log _ old => Scan.moot_below sorted (BitVec.not_le.mp (of_decide_eq_false old))
  obtain ⟨shortPass, shortError⟩ :=
    scanFrom_answered latest metrics (returned queue.firstBlock) rfl
  obtain ⟨wholePass, wholeError⟩ :=
    scanFrom_answered latest metrics (logsSince_zero logs ▸ returned 0) rfl
  rw [scan_eq_scanFrom, shortPass, wholePass, shortError, wholeError]
  exact ⟨alike.called.symm, alike.queue.symm, stopped.symm⟩

section Purchases

def olderLog : Log := { purchaseLog with block := 90 }

def olderChain : Chain :=
  { purchaseChain with
    logs := (olderLog, some purchaseNotification.payload) :: purchaseChain.logs }

theorem olderChain_returned (fromBlock : Word) :
    olderChain.answers.logs purchaseSettings.contract fromBlock =
      .ok (logsSince [olderLog, purchaseLog] fromBlock) := by
  refine congrArg Except.ok (List.filter_congr ?_)
  intro log member
  have address : log.address = purchaseSettings.contract := by
    rcases List.mem_pair.mp member with rfl | rfl
    · rfl
    · rfl
  simp [address, BitVec.le_def]

/-- With the purchase alone in the queue, the older log is left out and not missed. -/
theorem older_log_not_missed :
    let logs := [olderLog, purchaseLog]
    let queue := Queue.after [.insert purchase.event]
    let short := scan purchaseSettings olderChain.answers 110 queue .zero
    let whole := scanFrom purchaseSettings olderChain.answers 110 queue .zero 0
    (∀ fromBlock, olderChain.answers.logs purchaseSettings.contract fromBlock =
        .ok (logsSince logs fromBlock)) ∧
      logsSince logs queue.firstBlock = [purchaseLog] ∧
      callsOf short.pass.requests = [purchase.notice] ∧
      callsOf short.pass.requests = callsOf whole.pass.requests ∧
      short.pass.queue = whole.pass.queue ∧ short.error? = whole.error? := by
  have alone : Scan.Alone purchaseSettings olderChain.answers 110
      (Queue.after [.insert purchase.event]) purchase.event purchaseLog :=
    ⟨rfl, rfl, rfl, rfl, by decide⟩
  obtain ⟨_, _, called⟩ := alone.forwards .zero purchase.timed purchase.notice_eq
  exact ⟨olderChain_returned, rfl, called,
    scan_from_oldest_loses_nothing purchaseSettings olderChain.answers 110
      [.insert purchase.event] .zero [olderLog, purchaseLog] olderChain_returned⟩

end Purchases

end StarWatch
