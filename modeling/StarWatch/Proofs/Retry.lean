import StarWatch.Proofs.Window

/-!
# Passes that are stopped and taken up again

A ledger may refuse any request, but what it answers does not change. A pass
over it that is stopped has settled the first logs as a pass that is not stopped
does, and none of them takes anything more out of the queue that is left. So the
next pass, with its narrower window, goes on where the stopped one ended.
-/

namespace StarWatch

/-- What a ledger holds of a contract, with its logs in the order of every answer. The calendar
reaches to the time of every block. -/
structure Ledger where
  logs : List Log
  payload : Log → Except LedgerError Payload
  timestamp : Word → UInt64
  representable : ∀ height, (timestamp height).toNat ≤ Instant.maxSeconds

namespace Ledger

def answers (ledger : Ledger) : Answers where
  height := .ok 0
  logs := fun _ fromBlock => .ok (logsSince ledger.logs fromBlock)
  payload := ledger.payload
  block := fun _ height =>
    .ok { number := height, hash := ⟨0⟩, timestamp := ledger.timestamp height }
  call := fun _ _ => .ok ()

/-- Whatever is answered is what the ledger holds; any query and any lookup may be refused. -/
structure Serves (ledger : Ledger) (contract : Address) (answers : Answers) : Prop where
  logs : ∀ fromBlock logs, answers.logs contract fromBlock = .ok logs →
    logs = logsSince ledger.logs fromBlock
  payload : ∀ log, answers.payload log = ledger.payload log
  timestamp : ∀ n height block, answers.block n height = .ok block →
    block.timestamp = ledger.timestamp height

theorem answers_serve (ledger : Ledger) (contract : Address) :
    ledger.Serves contract ledger.answers where
  logs := fun _ _ answered => (Except.ok.inj answered).symm
  payload := fun _ => rfl
  timestamp := by
    intro n height block answered
    cases answered
    rfl

theorem Serves.withCall {ledger : Ledger} {contract : Address} {answers : Answers}
    (serves : ledger.Serves contract answers) (call : Nat → Notice → Except NotifyError Unit) :
    ledger.Serves contract { answers with call } :=
  ⟨serves.logs, serves.payload, serves.timestamp⟩

end Ledger

namespace Scan

section Replays

variable {ledger : Ledger} {contract : Address} {answers : Answers} {latest : Word} {depth : Nat}
  {queue : Queue} {n : Nat} {log : Log}

theorem blockTime_of_ledger (ledger : Ledger) (n : Nat) (height : Word) :
    blockTime ledger.answers n height = .ok ⟨(ledger.timestamp height).toNat, 0⟩ := by
  simp [blockTime, Ledger.answers, Block.time?, Instant.ofTimestamp?, ledger.representable height]

/-- Nothing stops a pass over a ledger that refuses nothing. -/
theorem settleAll_goes_through (ledger : Ledger) (latest : Word) (depth : Nat) (p : Pass)
    (logs : List Log) : (settleAll ledger.answers latest depth p logs).2 = none := by
  induction logs generalizing p with
  | nil => rfl
  | cons log rest ih =>
    have meant := judge_meaning ledger.answers latest depth p.queue p.report.dispatched log
    generalize judged : judge ledger.answers latest depth p.queue p.report.dispatched log = verdict
      at meant
    have goes : verdict.stop? = none := by
      cases meant with
      | unavailable _ _ _ _ failed =>
        rw [blockTime_of_ledger] at failed
        cases failed
      | _ => rfl
    rw [settleAll_go rest judged goes]
    exact ih _

theorem blockTime_served (serves : ledger.Serves contract answers) {height : Word}
    {time : Instant} (timed : blockTime answers n height = .ok time) :
    time = ⟨(ledger.timestamp height).toNat, 0⟩ := by
  obtain ⟨header, lookup, rfl⟩ := blockTime_eq_ok timed
  rw [serves.timestamp n height header lookup]

theorem judgeEvent_served (serves : ledger.Serves contract answers) {event : PendingEvent}
    (goes : (judgeEvent answers latest depth queue n event).stop? = none) (m : Nat) :
    judgeEvent ledger.answers latest depth queue m event =
      judgeEvent answers latest depth queue n event := by
  simp only [judgeEvent] at goes ⊢
  split_ifs at goes ⊢ with gone shallow absent
  · rfl
  · rfl
  · rfl
  · cases timed : blockTime answers n event.block with
    | ok time => rw [blockTime_of_ledger, blockTime_served serves timed]
    | error cause =>
      rw [timed] at goes
      cases goes

/-- A log that does not stop a pass is judged as if the ledger refused nothing. -/
theorem judge_served (serves : ledger.Serves contract answers)
    (goes : (judge answers latest depth queue n log).stop? = none) (m : Nat) :
    judge ledger.answers latest depth queue m log = judge answers latest depth queue n log := by
  have same : ledger.answers.payload log = answers.payload log := (serves.payload log).symm
  simp only [judge, same] at goes ⊢
  cases tracked : log.kind? with
  | none => rfl
  | some kind =>
    cases decoded : answers.payload log with
    | error e => rfl
    | ok payload =>
      cases made : PendingEvent.ofLog? payload log with
      | none => simp only [made]
      | some event =>
        simp only [tracked, decoded, made] at goes ⊢
        exact judgeEvent_served serves goes m

/-- A lookup that is refused takes nothing out and calls for nothing. -/
theorem Pass.Follows.settle_stop {calls : List Notice} {p p' : Pass}
    (follows : p.Follows calls p') (answers : Answers) {verdict : Verdict} {cause : PipelineError}
    (stops : verdict.stop? = some cause) : p.Follows calls (p'.settle answers verdict) := by
  cases verdict with
  | unavailable block =>
    constructor
    · exact follows.queue
    · rw [settle_requests, callsOf_append, follows.called]
      exact List.append_nil _
    · exact follows.dispatched
  | _ => cases stops

/-- A pass over logs settles the first of them as if the ledger refused nothing, and all of them
unless it is stopped. -/
theorem settleAll_replayed (serves : ledger.Serves contract answers) {p p' : Pass}
    (follows : p'.Follows [] p) (logs : List Log) :
    ∃ done rest reached, logs = done ++ rest ∧
      settleAll ledger.answers latest depth p' done = (reached, none) ∧
      reached.Follows [] (settleAll answers latest depth p logs).1 ∧
      ((settleAll answers latest depth p logs).2 = none → rest = []) := by
  induction logs generalizing p p' with
  | nil => exact ⟨[], [], p', rfl, rfl, follows, fun _ => rfl⟩
  | cons log rest ih =>
    generalize judged : judge answers latest depth p.queue p.report.dispatched log = verdict
    cases stop : verdict.stop? with
    | some cause =>
      rw [settleAll_stop rest judged stop]
      exact ⟨[], log :: rest, p', rfl, rfl, follows.settle_stop answers stop, nofun⟩
    | none =>
      rw [settleAll_go rest judged stop]
      have judged' :
          judge ledger.answers latest depth p'.queue p'.report.dispatched log = verdict := by
        rw [← follows.queue, judge_served serves (judged ▸ stop), judged]
      obtain ⟨done, later, reached, split, settled, alike, whole⟩ :=
        ih (follows.settle ledger.answers answers verdict)
      refine ⟨log :: done, later, reached, ?_, ?_, alike, whole⟩
      · rw [split, List.cons_append]
      · rw [settleAll_go done judged' stop, settled]

/-- What a pass has settled takes nothing more out of its queue. -/
theorem moot_settled {p reached : Pass} {logs : List Log}
    (settled : settleAll answers latest depth p logs = (reached, none)) :
    reached.queue.entries.Sublist p.queue.entries ∧
      ∀ log ∈ logs, Moot answers latest depth reached.queue log := by
  have went := course answers latest depth p logs
  rw [settled] at went
  have left := went.entries_final rfl
  constructor
  · rw [left]
    exact List.filter_sublist
  · intro log member entry remains
    rw [left, List.mem_filter, Bool.not_eq_true', List.any_eq_false] at remains
    exact Bool.of_not_eq_true (remains.2 log member)

/-- A ledger that refuses nothing does not mind how often it was asked. -/
theorem judge_steady (ledger : Ledger) (latest : Word) (depth : Nat) (calls : List Notice)
    (queue : Queue) (n : Nat) (log : Log) :
    judge ledger.answers latest depth queue (calls.length + n) log =
      judge ledger.answers latest depth queue n log := rfl

/-- A pass goes through logs that are all moot. -/
theorem settleAll_moot (ledger : Ledger) {p : Pass} {logs : List Log}
    (moot : ∀ log ∈ logs, Moot ledger.answers latest depth p.queue log) :
    ∃ same, settleAll ledger.answers latest depth p logs = (same, none) ∧
      p.Follows [] same := by
  obtain ⟨follows, stopped⟩ := settleAll_filter (fun _ => false)
    (judge_steady ledger latest depth []) (.refl p) (fun log member _ => moot log member)
  rw [List.filter_false] at follows stopped
  exact ⟨_, Prod.ext rfl stopped, follows⟩

/-- Two passes that stand at one queue go on together. -/
theorem settleAll_together (ledger : Ledger) (latest : Word) (depth : Nat)
    {calls : List Notice} {p p' : Pass} (follows : p.Follows calls p') (logs : List Log) :
    (settleAll ledger.answers latest depth p logs).1.Follows calls
      (settleAll ledger.answers latest depth p' logs).1 := by
  have kept : ∀ log ∈ logs, true = false → Moot ledger.answers latest depth p.queue log :=
    fun _ _ dropped => nomatch dropped
  have together := settleAll_filter _ (judge_steady ledger latest depth calls) follows kept
  rw [List.filter_true] at together
  exact together.1

def fresh (queue : Queue) : Pass :=
  { queue, report := .start 0, requests := [], metrics := .zero }

/-- A pass stands where a fresh one at its queue does, with its calls made before. -/
theorem follows_fresh {reached : Pass} {logs : List Log} {stop : Option PipelineError}
    (settled : settleAll answers latest depth (fresh queue) logs = (reached, stop)) :
    (fresh reached.queue).Follows (callsOf reached.requests) reached := by
  have went := course answers latest depth (fresh queue) logs
  rw [settled] at went
  constructor
  · rfl
  · exact (List.append_nil _).symm
  · rw [went.dispatched_eq, went.calls_eq]
    exact Nat.add_comm _ _

/-- The pass over all logs of a ledger that refuses nothing. -/
def whole (ledger : Ledger) (latest : Word) (depth : Nat) (queue : Queue) : Pass :=
  (settleAll ledger.answers latest depth (fresh queue) ledger.logs).1

/-- The logs below a block can be left out if none of them takes an entry out. -/
theorem logsSince_follows_whole (ledger : Ledger) {fromBlock : Word}
    (moot : ∀ log ∈ ledger.logs, log.block < fromBlock →
      Moot ledger.answers latest depth queue log) :
    (settleAll ledger.answers latest depth (fresh queue)
      (logsSince ledger.logs fromBlock)).1.Follows [] (whole ledger latest depth queue) := by
  have dropped : ∀ log ∈ ledger.logs, decide (fromBlock ≤ log.block) = false →
      Moot ledger.answers latest depth queue log :=
    fun log member below => moot log member (BitVec.not_le.mp (of_decide_eq_false below))
  exact (settleAll_filter _ (judge_steady ledger latest depth []) (.refl _) dropped).1

/-- A stopped pass ends where it would have come to over its first logs, with nothing left to do
for them. So the pass over all logs from its queue makes the calls that it did not. -/
theorem whole_of_replayed (ledger : Ledger) (sorted : queue.Sorted) {done rest : List Log}
    (split : logsSince ledger.logs queue.firstBlock = done ++ rest) {reached : Pass}
    (settled : settleAll ledger.answers latest depth (fresh queue) done = (reached, none)) :
    (whole ledger latest depth reached.queue).Follows (callsOf reached.requests)
        (whole ledger latest depth queue) ∧
      (rest = [] →
        (fresh reached.queue).Follows [] (whole ledger latest depth reached.queue)) := by
  obtain ⟨kept, moot⟩ := moot_settled settled
  have begun := follows_fresh settled
  have below : ∀ log ∈ ledger.logs, log.block < queue.firstBlock →
      Moot ledger.answers latest depth queue log := fun _ _ below => moot_below sorted below
  have onward := logsSince_follows_whole ledger below
  have again := logsSince_follows_whole ledger
    fun log member old => (below log member old).of_sublist kept
  -- Both passes come to `rest` at one queue: the first has settled `done`, the next passes over it.
  obtain ⟨same, passed, still⟩ := settleAll_moot ledger (p := fresh reached.queue) moot
  rw [split, settleAll_append settled] at onward
  rw [split, settleAll_append passed] at again
  constructor
  · have together := settleAll_together ledger latest depth (still.symm.trans begun) rest
    have met := (again.symm.trans together).trans onward
    simp only [List.append_nil, List.nil_append] at met
    exact met
  · intro ended
    rw [ended] at again
    exact still.trans again

end Replays

end Scan

/-- How far a scan got with the pass over all logs: its calls come first there, and those from its
queue are the others. -/
structure ScanOutcome.Advances (ledger : Ledger) (latest : Word) (depth : Nat) (queue : Queue)
    (outcome : ScanOutcome) : Prop where
  sorted : outcome.pass.queue.Sorted
  onward : (Scan.whole ledger latest depth outcome.pass.queue).Follows
    (callsOf outcome.pass.requests) (Scan.whole ledger latest depth queue)
  ended : outcome.error? = none → (Scan.fresh outcome.pass.queue).Follows []
    (Scan.whole ledger latest depth outcome.pass.queue)

section Retries

variable (settings : Settings) (ledger : Ledger) (latest : Word)

/-- The end of a scan that some answers of a ledger lead to. -/
def Scanned (queue : Queue) (outcome : ScanOutcome) : Prop :=
  ∃ answers metrics, ledger.Serves settings.contract answers ∧
    outcome = scan settings answers latest queue metrics

/-- Scans of a ledger, one after the other, of which only the last goes through: the queue before
them, what all of them call for, and the queue behind them. -/
inductive Retried : Queue → List Notice → Queue → Prop
  | completed {queue : Queue} {outcome : ScanOutcome} {report : ScanReport}
      (scanned : Scanned settings ledger latest queue outcome)
      (ended : outcome.result = .ok report) :
      Retried queue (callsOf outcome.pass.requests) outcome.pass.queue
  | aborted {queue final : Queue} {outcome : ScanOutcome} {cause : PipelineError}
      {calls : List Notice} (scanned : Scanned settings ledger latest queue outcome)
      (ended : outcome.result = .error cause) (again : Retried outcome.pass.queue calls final) :
      Retried queue (callsOf outcome.pass.requests ++ calls) final

/-- A scan goes through if the ledger refuses nothing. -/
theorem scan_completes (queue : Queue) (metrics : Metrics) :
    ∃ report, (scan settings ledger.answers latest queue metrics).result = .ok report := by
  have answered : ledger.answers.logs settings.contract queue.firstBlock =
      .ok (logsSince ledger.logs queue.firstBlock) := rfl
  have completed := Scan.scan_of_answered latest metrics answered
  dsimp only at completed
  rw [Scan.settleAll_goes_through] at completed
  exact ⟨_, congrArg ScanOutcome.result completed⟩

variable {settings ledger latest} {queue : Queue}

theorem Scanned.of_serves {answers : Answers} (serves : ledger.Serves settings.contract answers)
    (metrics : Metrics) :
    Scanned settings ledger latest queue (scan settings answers latest queue metrics) :=
  ⟨answers, metrics, serves, rfl⟩

theorem Scanned.advances {outcome : ScanOutcome}
    (scanned : Scanned settings ledger latest queue outcome) (sorted : queue.Sorted) :
    outcome.Advances ledger latest settings.depth queue := by
  obtain ⟨answers, metrics, serves, rfl⟩ := scanned
  cases answered : answers.logs settings.contract queue.firstBlock with
  | error e =>
    rw [Scan.scan_refused latest metrics answered]
    exact ⟨sorted, .refl _, nofun⟩
  | ok logs =>
    cases serves.logs queue.firstBlock logs answered
    have begun : (Scan.fresh queue).Follows [] (Scan.openingFrom settings queue metrics
        queue.firstBlock (logsSince ledger.logs queue.firstBlock)) := ⟨rfl, rfl, rfl⟩
    obtain ⟨done, rest, reached, split, settled, alike, finished⟩ :=
      Scan.settleAll_replayed serves begun (logsSince ledger.logs queue.firstBlock)
    obtain ⟨left, error⟩ := scanFrom_answered latest metrics answered rfl
    obtain ⟨onward, ended⟩ := Scan.whole_of_replayed ledger sorted split settled
    have called := alike.called
    rw [List.nil_append] at called
    constructor
    · rw [scan_eq_scanFrom, left, alike.queue]
      exact sorted.sublist (Scan.moot_settled settled).1
    · rw [scan_eq_scanFrom, left, alike.queue, called]
      exact onward
    · rw [scan_eq_scanFrom, left, alike.queue, error]
      exact ended ∘ finished

/-- However often they are stopped, scans do what the pass over all logs does. -/
theorem Retried.whole {calls : List Notice} {final : Queue}
    (retried : Retried settings ledger latest queue calls final) (sorted : queue.Sorted) :
    callsOf (Scan.whole ledger latest settings.depth queue).requests = calls ∧
      (Scan.whole ledger latest settings.depth queue).queue = final := by
  induction retried with
  | completed scanned ended =>
    obtain ⟨_, onward, ends⟩ := scanned.advances sorted
    have still := ends (by rw [ScanOutcome.error?, ended])
    constructor
    · rw [onward.called, still.called]
      simp [Scan.fresh]
    · rw [onward.queue, still.queue]
      rfl
  | aborted scanned ended again ih =>
    obtain ⟨left, onward, _⟩ := scanned.advances sorted
    obtain ⟨called, remains⟩ := ih left
    constructor
    · rw [onward.called, called]
    · rw [onward.queue, remains]

end Retries

/-- Scans that are stopped, wherever and however often, and taken up again until one completes,
together call for and leave what a single scan that completes does; and there is such a scan. -/
theorem retries_lose_nothing (settings : Settings) (ledger : Ledger) (latest : Word)
    (changes : List Queue.Change) {calls : List Notice} {final : Queue}
    (retried : Retried settings ledger latest (Queue.after changes) calls final) :
    (∃ single report, Scanned settings ledger latest (Queue.after changes) single ∧
        single.result = .ok report) ∧
      ∀ single report, Scanned settings ledger latest (Queue.after changes) single →
        single.result = .ok report →
        calls = callsOf single.pass.requests ∧ final = single.pass.queue := by
  have serves := ledger.answers_serve settings.contract
  obtain ⟨report, completes⟩ := scan_completes settings ledger latest (Queue.after changes) .zero
  refine ⟨⟨_, report, .of_serves serves .zero, completes⟩, ?_⟩
  intro single report scanned completed
  have sorted := Queue.sorted_after changes
  obtain ⟨called, left⟩ := retried.whole sorted
  obtain ⟨called', left'⟩ := (Retried.completed scanned completed).whole sorted
  exact ⟨called.symm.trans called', left.symm.trans left'⟩

section Purchases

def olderEvent : PendingEvent := { purchase.event with block := 90 }

def olderNotice : Notice := ((olderEvent.stamp purchase.time).notice?).get rfl

def twoPurchases : Ledger where
  logs := [olderLog, purchaseLog]
  payload := fun _ => .ok purchaseNotification.payload
  timestamp := fun _ => 1600001200
  representable := fun _ => by decide

/-- Answers of the ledger that may refuse the query, and that refuse one lookup. -/
def refusing (query : Bool) (lookup : Nat) : Answers :=
  { twoPurchases.answers with
    logs := fun contract fromBlock =>
      if query then .error (.query Chain.failure)
      else twoPurchases.answers.logs contract fromBlock
    block := fun n height =>
      if n = lookup then .error (.query Chain.failure)
      else twoPurchases.answers.block n height }

theorem refusing_serves (query : Bool) (lookup : Nat) :
    twoPurchases.Serves purchaseSettings.contract (refusing query lookup) where
  logs := by
    intro fromBlock logs answered
    simp only [refusing, Ledger.answers] at answered
    split at answered
    · cases answered
    · exact (Except.ok.inj answered).symm
  payload := fun _ => rfl
  timestamp := by
    intro n height block answered
    simp only [refusing, Ledger.answers] at answered
    split at answered
    · cases answered
    · cases answered
      rfl

def bothQueued : List Queue.Change := [.insert purchase.event, .insert olderEvent]

theorem bothQueued_entries : (Queue.after bothQueued).entries = [olderEvent, purchase.event] := rfl

def newerAlone : Queue := ⟨[purchase.event]⟩

theorem newer_left : (Queue.after bothQueued).removeMatching olderEvent = newerAlone := by
  have apart : purchase.event.sameLog olderEvent = false := by
    rw [Bool.eq_false_iff, ne_eq, PendingEvent.sameLog_iff]
    intro alike
    exact absurd (PendingEvent.block_eq_of_identity alike) (by decide)
  simp [Queue.removeMatching, bothQueued_entries, apart, newerAlone]

/-- The older purchase is called for, then the lookup for the newer one is refused. -/
theorem first_scan :
    let outcome := scan purchaseSettings (refusing false 1) 110 (Queue.after bothQueued) .zero
    outcome.result = .error (.ledger (.query Chain.failure)) ∧
      outcome.pass.queue = newerAlone ∧
      callsOf outcome.pass.requests = [olderNotice] := by
  let answers := refusing false 1
  let start := Scan.opening purchaseSettings (Queue.after bothQueued) .zero [olderLog, purchaseLog]
  let called := start.settle answers (.confirmed olderEvent purchase.time)
  let stopped := called.settle answers
    (.unavailable purchase.event.block (.ledger (.query Chain.failure)))
  have left : called.queue = newerAlone := newer_left
  have confirmed : Scan.judge answers 110 10 start.queue start.report.dispatched olderLog =
      .confirmed olderEvent purchase.time := by
    have present : start.queue.contains olderEvent = true :=
      Queue.contains_of_mem (by simp [start, Scan.opening, bothQueued_entries])
    rw [Scan.judge_of_present rfl rfl (by decide) present]
    rfl
  have unavailable : Scan.judge answers 110 10 called.queue called.report.dispatched purchaseLog =
      .unavailable purchase.event.block (.ledger (.query Chain.failure)) := by
    have present : called.queue.contains purchase.event = true :=
      Queue.contains_of_mem (by simp [left, newerAlone])
    rw [Scan.judge_of_present rfl rfl (by decide) present]
    rfl
  have settled : Scan.settleAll answers 110 10 start [olderLog, purchaseLog] =
      (stopped, some (.ledger (.query Chain.failure))) := by
    rw [Scan.settleAll_go _ confirmed rfl, Scan.settleAll_stop _ unavailable rfl]
  have answered : answers.logs purchaseSettings.contract (Queue.after bothQueued).firstBlock =
      .ok [olderLog, purchaseLog] := rfl
  rw [Scan.scan_stopped 110 .zero answered settled]
  refine ⟨rfl, ?_, ?_⟩
  · rw [Scan.settle_queue]
    exact left
  · rw [Scan.settle_requests, callsOf_append, Scan.settle_requests]
    rfl

theorem refused_scan : scan purchaseSettings (refusing true 0) 110 newerAlone .zero =
    { pass := Scan.opening purchaseSettings newerAlone .zero [],
      result := .error (.ledger (.query Chain.failure)) } := rfl

/-- The newer purchase is called for by the scan that nothing is refused to. -/
theorem last_scan :
    let outcome := scan purchaseSettings twoPurchases.answers 110 newerAlone .zero
    (∃ report, outcome.result = .ok report) ∧ outcome.pass.queue = .empty ∧
      callsOf outcome.pass.requests = [purchase.notice] := by
  have alone : Scan.Alone purchaseSettings twoPurchases.answers 110 newerAlone purchase.event
      purchaseLog := ⟨rfl, rfl, rfl, rfl, by decide⟩
  exact alone.forwards .zero rfl purchase.notice_eq

theorem bothQueued_retried :
    Retried purchaseSettings twoPurchases 110 (Queue.after bothQueued)
      [olderNotice, purchase.notice] .empty := by
  obtain ⟨stopped, left, called⟩ := first_scan
  obtain ⟨⟨report, completed⟩, empty, called'⟩ := last_scan
  have last : Retried purchaseSettings twoPurchases 110 newerAlone [purchase.notice] .empty := by
    rw [← called', ← empty]
    exact .completed (.of_serves (twoPurchases.answers_serve _) _) completed
  have second : Retried purchaseSettings twoPurchases 110 newerAlone [purchase.notice] .empty :=
    .aborted ⟨_, _, refusing_serves true 0, refused_scan.symm⟩ rfl last
  rw [← left] at second
  have first := Retried.aborted ⟨_, _, refusing_serves false 1, rfl⟩ stopped second
  rw [called] at first
  exact first

/-- A scan that goes through calls for both at once. -/
theorem bothQueued_scanned {outcome : ScanOutcome} {report : ScanReport}
    (scanned : Scanned purchaseSettings twoPurchases 110 (Queue.after bothQueued) outcome)
    (completed : outcome.result = .ok report) :
    callsOf outcome.pass.requests = [olderNotice, purchase.notice] := by
  have sorted := Queue.sorted_after bothQueued
  obtain ⟨called, _⟩ := (Retried.completed scanned completed).whole sorted
  obtain ⟨called', _⟩ := bothQueued_retried.whole sorted
  exact called.symm.trans called'

/-- Both purchases are called for once, in the order of their logs, though two scans are stopped
on the way. -/
theorem both_purchases_called :
    Retried purchaseSettings twoPurchases 110 (Queue.after bothQueued)
        [olderNotice, purchase.notice] .empty ∧
      ∃ single report, Scanned purchaseSettings twoPurchases 110 (Queue.after bothQueued) single ∧
        single.result = .ok report ∧
        [olderNotice, purchase.notice] = callsOf single.pass.requests ∧
        .empty = single.pass.queue := by
  obtain ⟨⟨single, report, scanned, completed⟩, same⟩ :=
    retries_lose_nothing purchaseSettings twoPurchases 110 bothQueued bothQueued_retried
  exact ⟨bothQueued_retried, single, report, scanned, completed,
    same single report scanned completed⟩

end Purchases

end StarWatch
