import StarWatch.Proofs.Eviction
import StarWatch.Proofs.Repetition

/-!
# Polling often and polling once

Ticks at growing heights forward and evict step by step what one tick at the
last height forwards and evicts at once. The logs stand in ascending order of
their blocks, so a height splits them into deep ones and shallow ones. A tick
settles the deep ones as any later tick does, and passes over the shallow ones.
What it evicts has aged, so it is the entry of no shallow log, and a later tick
would have evicted it too.
-/

namespace StarWatch

namespace Word

variable {block below latest later : Word} {depth : Nat}

theorem Deep.lower (deep : block.Deep latest depth) (le : below ≤ block) :
    below.Deep latest depth := by
  rw [deep_iff_add_le] at deep ⊢
  rw [BitVec.le_def] at le
  omega

theorem Deep.rise (deep : block.Deep latest depth) (le : latest ≤ later) :
    block.Deep later depth := by
  rw [deep_iff_add_le] at deep ⊢
  rw [BitVec.le_def] at le
  omega

theorem Aged.lower (aged : block.Aged latest depth) (le : below ≤ block) :
    below.Aged latest depth :=
  aged_iff_deep.mpr ((aged_iff_deep.mp aged).lower le)

theorem Aged.rise (aged : block.Aged latest depth) (le : latest ≤ later) :
    block.Aged later depth :=
  aged_iff_deep.mpr ((aged_iff_deep.mp aged).rise le)

end Word

/-- A test that passes for all that stands before a passing entry splits a list in two. -/
theorem filter_append_filter_not {α : Type} {test : α → Bool} {l : List α}
    (closed : l.Pairwise fun a b => test b = true → test a = true) :
    l.filter test ++ l.filter (fun x => !test x) = l := by
  induction l with
  | nil => rfl
  | cons x rest ih =>
    obtain ⟨first, closed⟩ := List.pairwise_cons.mp closed
    have tail := ih closed
    by_cases passes : test x = true
    · rw [List.filter_cons_of_pos passes, List.filter_cons_of_neg (by simp [passes]),
        List.cons_append, tail]
    · have failing : rest.filter test = [] :=
        List.filter_eq_nil_iff.mpr fun y member good => passes (first y member good)
      rw [failing, List.nil_append] at tail
      rw [List.filter_cons_of_neg passes, failing, List.filter_cons_of_pos (by simp [passes]),
        List.nil_append, tail]

/-- A height splits logs in ascending order into those that lie deep and those that do not. -/
theorem deep_before_shallow {logs : List Log}
    (ascending : logs.Pairwise fun a b => a.block ≤ b.block) (latest : Word) (depth : Nat) :
    ∃ deep shallow, logs = deep ++ shallow ∧ (∀ log ∈ deep, log.block.Deep latest depth) ∧
      ∀ log ∈ shallow, ¬ log.block.Deep latest depth := by
  have closed : logs.Pairwise fun a b => decide (b.block.Deep latest depth) = true →
      decide (a.block.Deep latest depth) = true :=
    ascending.imp fun le deep => decide_eq_true ((of_decide_eq_true deep).lower le)
  have split := filter_append_filter_not closed
  refine ⟨_, _, split.symm, fun log member => ?_, fun log member => ?_⟩
  · exact of_decide_eq_true (List.mem_filter.mp member).2
  · have shallow := (List.mem_filter.mp member).2
    rw [Bool.not_eq_true'] at shallow
    exact of_decide_eq_false shallow

def Queue.sift (q : Queue) (keep : PendingEvent → Bool) : Queue := ⟨q.entries.filter keep⟩

namespace Queue

variable {q : Queue}

theorem sift_true (q : Queue) : (q.sift fun _ => true) = q := by
  simp [sift]

theorem sift_comm (q : Queue) (keep keep' : PendingEvent → Bool) :
    (q.sift keep).sift keep' = (q.sift keep').sift keep := by
  simp only [sift, List.filter_filter, Bool.and_comm]

theorem contains_sift {keep : PendingEvent → Bool} {e : PendingEvent}
    (kept : ∀ x ∈ q.entries, x.sameLog e = true → keep x = true) :
    (q.sift keep).contains e = q.contains e := by
  rw [Bool.eq_iff_iff, contains_iff, contains_iff]
  constructor
  · rintro ⟨x, member, same⟩
    exact ⟨x, List.mem_of_mem_filter member, same⟩
  · rintro ⟨x, member, same⟩
    exact ⟨x, List.mem_filter.mpr ⟨member, kept x member same⟩, same⟩

/-- An eviction covers those at lower heights. -/
theorem evict_evict {latest later : Word} (le : latest ≤ later) (q : Queue) (depth : Nat) :
    (q.evict latest depth).evict later depth = q.evict later depth := by
  simp only [evict, List.filter_filter]
  congr 1
  apply List.filter_congr
  intro x _
  by_cases aged : x.isLeftover later depth = true
  · simp [aged]
  · have young : x.isLeftover latest depth = false := by
      rw [Bool.eq_false_iff, ne_eq, PendingEvent.isLeftover_iff]
      rw [PendingEvent.isLeftover_iff] at aged
      exact fun old => aged (old.rise le)
    simp [aged, young]

end Queue

namespace Scan

section Congruence

variable {answers answers' : Answers} {latest latest' : Word} {depth : Nat}
  {queue queue' : Queue} {n n' : Nat}

/-- What the verdict on an event depends on. -/
theorem judgeEvent_congr {event : PendingEvent}
    (confirmed : event.isConfirmed latest' depth = event.isConfirmed latest depth)
    (pending : queue'.contains event = queue.contains event)
    (timed : event.removed = false → event.isConfirmed latest depth = true →
      queue.contains event = true →
      blockTime answers' n' event.block = blockTime answers n event.block) :
    judgeEvent answers' latest' depth queue' n' event =
      judgeEvent answers latest depth queue n event := by
  simp only [judgeEvent, confirmed, pending]
  split_ifs with gone shallow absent
  · rfl
  · rfl
  · rfl
  · simp only [Bool.not_eq_true, Bool.not_eq_true', Bool.not_eq_false] at gone shallow absent
    rw [timed gone shallow absent]

/-- What the verdict on a log depends on. -/
theorem judge_congr {log : Log} (decoded : answers'.payload log = answers.payload log)
    (judged : ∀ event, eventOf? answers log = some event →
      judgeEvent answers' latest' depth queue' n' event =
        judgeEvent answers latest depth queue n event) :
    judge answers' latest' depth queue' n' log = judge answers latest depth queue n log := by
  simp only [judge, decoded]
  simp only [eventOf?] at judged
  cases tracked : log.kind? with
  | none => rfl
  | some kind =>
    cases read : answers.payload log with
    | error e => rfl
    | ok payload =>
      cases made : PendingEvent.ofLog? payload log with
      | none => simp only [made]
      | some event =>
        simp only [tracked, read] at judged
        simp only [made]
        exact judged event made

end Congruence

def Pass.sift (p : Pass) (keep : PendingEvent → Bool) : Pass :=
  { p with queue := p.queue.sift keep }

section Sifting

variable {answers answers' : Answers} {latest latest' : Word} {depth : Nat}
  {calls : List Notice} {p p' : Pass} {keep : PendingEvent → Bool}

theorem leaves_sift (verdict : Verdict) (queue : Queue) (keep : PendingEvent → Bool) :
    verdict.leaves (queue.sift keep) = (verdict.leaves queue).sift keep := by
  cases verdict with
  | removed event | confirmed event => exact queue.sift_comm keep fun x => !x.sameLog event
  | _ => rfl

theorem Pass.Follows.settle_sift (follows : (p.sift keep).Follows calls p')
    (answers answers' : Answers) (verdict : Verdict) :
    ((p.settle answers verdict).sift keep).Follows calls (p'.settle answers' verdict) where
  queue := by
    have same : p'.queue = p.queue.sift keep := follows.queue
    rw [settle_queue, same, leaves_sift, Pass.sift, settle_queue]
  called := by
    have same : callsOf p'.requests = calls ++ callsOf p.requests := follows.called
    rw [settle_requests, callsOf_append, same, Pass.sift, settle_requests, callsOf_append,
      List.append_assoc]
  dispatched := by
    have same : p'.report.dispatched = calls.length + p.report.dispatched := follows.dispatched
    rw [settle_dispatched, same, Pass.sift, settle_dispatched, Nat.add_assoc]

/-- Two passes, one with a sifted queue, go together over logs that they judge alike. -/
theorem settleAll_sifted (follows : (p.sift keep).Follows calls p') {logs : List Log}
    (agree : ∀ log ∈ logs, ∀ queue n, queue.entries.Sublist p.queue.entries →
      judge answers' latest' depth (queue.sift keep) (calls.length + n) log =
        judge answers latest depth queue n log) :
    ((settleAll answers latest depth p logs).1.sift keep).Follows calls
      (settleAll answers' latest' depth p' logs).1 := by
  induction logs generalizing p p' with
  | nil => exact follows
  | cons log rest ih =>
    generalize judged : judge answers latest depth p.queue p.report.dispatched log = verdict
    have judged' : judge answers' latest' depth p'.queue p'.report.dispatched log = verdict := by
      have same : p'.queue = p.queue.sift keep := follows.queue
      have counted : p'.report.dispatched = calls.length + p.report.dispatched :=
        follows.dispatched
      rw [same, counted, agree log List.mem_cons_self _ _ (.refl _), judged]
    have settled := follows.settle_sift answers answers' verdict
    cases stop : verdict.stop? with
    | some cause =>
      rw [settleAll_stop rest judged stop, settleAll_stop rest judged' stop]
      exact settled
    | none =>
      rw [settleAll_go rest judged stop, settleAll_go rest judged' stop]
      refine ih settled fun log member queue n kept => ?_
      refine agree log (List.mem_cons_of_mem _ member) queue n (kept.trans ?_)
      rw [settle_queue]
      exact verdict.leaves_sublist p.queue

/-- Two passes go together over logs that they judge alike. -/
theorem settleAll_agree (follows : p.Follows calls p') {logs : List Log}
    (agree : ∀ log ∈ logs, ∀ queue n, queue.entries.Sublist p.queue.entries →
      judge answers' latest' depth queue (calls.length + n) log =
        judge answers latest depth queue n log) :
    (settleAll answers latest depth p logs).1.Follows calls
      (settleAll answers' latest' depth p' logs).1 := by
  have unsifted (p : Pass) : (p.sift fun _ => true) = p := by simp [Pass.sift, Queue.sift_true]
  rw [← unsifted p] at follows
  have together := settleAll_sifted follows fun log member queue n kept => by
    rw [Queue.sift_true]
    exact agree log member queue n kept
  rw [unsifted] at together
  exact together

end Sifting

section Ledgers

variable {latest : Word} {depth : Nat} {queue : Queue} {log : Log} {event : PendingEvent}

/-- The pass over logs of a ledger that refuses nothing. -/
def through (ledger : Ledger) (latest : Word) (depth : Nat) (p : Pass) (logs : List Log) : Pass :=
  (settleAll ledger.answers latest depth p logs).1

theorem settled_through (ledger : Ledger) (latest : Word) (depth : Nat) (p : Pass)
    (logs : List Log) :
    settleAll ledger.answers latest depth p logs =
      (through ledger latest depth p logs, none) :=
  Prod.ext rfl (settleAll_goes_through ledger latest depth p logs)

theorem through_append (ledger : Ledger) (latest : Word) (depth : Nat) (p : Pass)
    (first rest : List Log) :
    through ledger latest depth p (first ++ rest) =
      through ledger latest depth (through ledger latest depth p first) rest := by
  rw [through, settleAll_append (settled_through ledger latest depth p first)]
  rfl

variable {ledger : Ledger}

/-- A log that does not lie deep is moot, unless it is a removed one. -/
theorem moot_shallow (standing : log.removed = false) (shallow : ¬ log.block.Deep latest depth)
    (queue : Queue) : Moot ledger.answers latest depth queue log := by
  intro entry _
  cases read : eventOf? ledger.answers log with
  | none => exact clears_unread read entry
  | some event =>
    obtain ⟨_, _, _, _, made⟩ := eventOf?_eq_some read
    obtain ⟨block, removed⟩ := PendingEvent.ofLog?_fields made
    exact clears_pending read (removed.trans standing) (block ▸ shallow) entry

/-- A log that lies deep at two heights takes the same entries out. -/
theorem clears_deep {later : Word} (deep : log.block.Deep latest depth)
    (deep' : log.block.Deep later depth) (entry : PendingEvent) :
    clears ledger.answers later depth entry log = clears ledger.answers latest depth entry log := by
  cases read : eventOf? ledger.answers log with
  | none => rw [clears_unread read, clears_unread read]
  | some event =>
    have block := eventOf?_block read
    rw [clears_settled read (.inr (block ▸ deep')), clears_settled read (.inr (block ▸ deep))]

/-- A log that lies deep at two heights is judged alike. -/
theorem judge_deep {later : Word} (deep : log.block.Deep latest depth)
    (deep' : log.block.Deep later depth) (queue : Queue) (n m : Nat) :
    judge ledger.answers later depth queue m log =
      judge ledger.answers latest depth queue n log := by
  refine judge_congr rfl fun event read => judgeEvent_congr ?_ rfl fun _ _ _ => rfl
  have block := eventOf?_block read
  rw [Bool.eq_iff_iff, PendingEvent.isConfirmed_iff, PendingEvent.isConfirmed_iff, block]
  exact iff_of_true deep' deep

/-- What an eviction took out is not the entry of a log that does not lie deep. -/
theorem judge_shallow {later : Word} (shallow : ¬ log.block.Deep latest depth) (queue : Queue)
    (n m : Nat) :
    judge ledger.answers later depth (queue.evict latest depth) m log =
      judge ledger.answers later depth queue n log := by
  refine judge_congr rfl fun event read => judgeEvent_congr rfl ?_ fun _ _ _ => rfl
  refine Queue.contains_sift fun x _ same => ?_
  rw [PendingEvent.not_isLeftover_iff]
  intro aged
  have block := PendingEvent.block_eq_of_identity ((PendingEvent.sameLog_iff _ _).mp same)
  rw [block, eventOf?_block read] at aged
  exact shallow aged.deep

end Ledgers

section Heights

variable {ledger : Ledger} {latest later : Word} {depth : Nat} {deep shallow : List Log}

theorem whole_split (split : ledger.logs = deep ++ shallow) (latest : Word) (depth : Nat)
    (queue : Queue) :
    whole ledger latest depth queue =
      through ledger latest depth (through ledger latest depth (fresh queue) deep) shallow := by
  rw [whole, split]
  exact through_append ledger latest depth (fresh queue) deep shallow

/-- A pass at a height ends with the logs that lie deep. -/
theorem whole_ends_deep (split : ledger.logs = deep ++ shallow)
    (standing : ∀ log ∈ shallow, log.removed = false)
    (beyond : ∀ log ∈ shallow, ¬ log.block.Deep latest depth) (queue : Queue) :
    (through ledger latest depth (fresh queue) deep).Follows []
      (whole ledger latest depth queue) := by
  have past : ∀ log ∈ shallow, Moot ledger.answers latest depth
      (through ledger latest depth (fresh queue) deep).queue log :=
    fun log member => moot_shallow (standing log member) (beyond log member) _
  obtain ⟨same, settled, follows⟩ := settleAll_moot ledger past
  have ended : through ledger latest depth (through ledger latest depth (fresh queue) deep)
      shallow = same := congrArg Prod.fst settled
  rw [whole_split split, ended]
  exact follows

/-- A pass at a greater height comes to the other logs where that pass ended. -/
theorem whole_from_deep (split : ledger.logs = deep ++ shallow)
    (within : ∀ log ∈ deep, log.block.Deep latest depth) (le : latest ≤ later) (queue : Queue) :
    (through ledger later depth (through ledger latest depth (fresh queue) deep) shallow).Follows []
      (whole ledger later depth queue) := by
  have alike : (through ledger latest depth (fresh queue) deep).Follows []
      (through ledger later depth (fresh queue) deep) :=
    settleAll_agree (.refl _) fun log member queue n _ =>
      judge_deep (within log member) ((within log member).rise le) queue n _
  rw [whole_split split]
  exact settleAll_together ledger later depth alike shallow

/-- From what that pass left, a later pass has nothing to do for the logs that lay deep. -/
theorem whole_past_deep (split : ledger.logs = deep ++ shallow)
    (within : ∀ log ∈ deep, log.block.Deep latest depth) (le : latest ≤ later) (queue : Queue)
    {left : Queue}
    (kept : left.entries.Sublist (through ledger latest depth (fresh queue) deep).queue.entries) :
    (through ledger later depth (fresh left) shallow).Follows []
      (whole ledger later depth left) := by
  obtain ⟨_, moot⟩ := moot_settled (settled_through ledger latest depth (fresh queue) deep)
  have past : ∀ log ∈ deep, Moot ledger.answers later depth left log := by
    intro log member entry pending
    rw [clears_deep (within log member) ((within log member).rise le)]
    exact moot log member entry (kept.subset pending)
  obtain ⟨same, settled, follows⟩ := settleAll_moot ledger (p := fresh left) past
  have reached : through ledger later depth (fresh left) deep = same := congrArg Prod.fst settled
  rw [whole_split split, reached]
  exact settleAll_together ledger later depth follows shallow

/-- The eviction at a height does not touch what the logs that do not lie deep are settled by. -/
theorem through_evicted (beyond : ∀ log ∈ shallow, ¬ log.block.Deep latest depth) (later : Word)
    (queue : Queue) :
    ((through ledger later depth (fresh queue) shallow).sift
        fun x => !x.isLeftover latest depth).Follows []
      (through ledger later depth (fresh (queue.evict latest depth)) shallow) :=
  settleAll_sifted (.refl _) fun log member queue n _ =>
    judge_shallow (beyond log member) queue n _

/-- A pass at a height, the eviction behind it and a pass at a greater height call for what the
later pass alone calls for, and leave what it leaves, up to the later eviction. -/
theorem whole_after_whole (ledger : Ledger)
    (ascending : ledger.logs.Pairwise fun a b => a.block ≤ b.block)
    (standing : ∀ log ∈ ledger.logs, log.removed = false) (le : latest ≤ later) (depth : Nat)
    (queue : Queue) :
    let early := whole ledger latest depth queue
    let late := whole ledger later depth (early.queue.evict latest depth)
    callsOf (whole ledger later depth queue).requests =
        callsOf early.requests ++ callsOf late.requests ∧
      (whole ledger later depth queue).queue.evict later depth = late.queue.evict later depth := by
  obtain ⟨deep, shallow, split, within, beyond⟩ := deep_before_shallow ascending latest depth
  have stands : ∀ log ∈ shallow, log.removed = false :=
    fun log member => standing log (split ▸ List.mem_append_right deep member)
  have early := whole_ends_deep split stands beyond queue
  have alone := whole_from_deep split within le queue
  have late := whole_past_deep split within le queue (List.filter_sublist
    (p := fun x => !x.isLeftover latest depth))
  have begun := follows_fresh (settled_through ledger latest depth (fresh queue) deep)
  generalize through ledger latest depth (fresh queue) deep = reached at early alone late begun
  have evicted : ((through ledger later depth (fresh reached.queue) shallow).sift
      fun x => !x.isLeftover latest depth).Follows []
        (through ledger later depth (fresh (reached.queue.evict latest depth)) shallow) :=
    through_evicted beyond later reached.queue
  have onward := (settleAll_together ledger later depth begun shallow).trans alone
  have thinned := evicted.trans late
  dsimp only
  rw [early.queue]
  constructor
  · have same : callsOf (whole ledger later depth (reached.queue.evict latest depth)).requests =
        callsOf (through ledger later depth (fresh reached.queue) shallow).requests :=
      thinned.called
    rw [onward.called, early.called, same]
    rfl
  · have same : (whole ledger later depth (reached.queue.evict latest depth)).queue =
        (through ledger later depth (fresh reached.queue) shallow).queue.evict latest depth :=
      thinned.queue
    rw [onward.queue, same, Queue.evict_evict le]
    rfl

end Heights

end Scan

/-- The answers of a ledger to a tick at a height. The times of blocks are promised for the logs
that the tick has to call for; any other lookup may be refused, or answered in any way. -/
structure Ledger.Supplies (ledger : Ledger) (settings : Settings) (queue : Queue) (latest : Word)
    (answers : Answers) : Prop where
  height : answers.height = .ok latest
  logs : ∀ fromBlock, answers.logs settings.contract fromBlock =
    .ok (logsSince ledger.logs fromBlock)
  payload : ∀ log, answers.payload log = ledger.payload log
  block : ∀ log ∈ ledger.logs, ∀ event, Scan.eventOf? answers log = some event →
    event.block.Deep latest settings.depth → queue.contains event = true →
    ∀ n, ∃ header, answers.block n log.block = .ok header ∧
      header.timestamp = ledger.timestamp log.block

/-- Ticks one after the other with nothing received in between: the reactor before them, the
heights that they read, what all of them asked for, and the reactor behind them. -/
inductive Polled (settings : Settings) (ledger : Ledger) :
    Reactor → List Word → List Request → Reactor → Prop
  | rest (r : Reactor) : Polled settings ledger r [] [] r
  | tick {r final : Reactor} {answers : Answers} {latest : Word} {heights : List Word}
      {requests : List Request} (supplied : ledger.Supplies settings r.queue latest answers)
      (later : Polled settings ledger (r.tick settings answers).reactor heights requests final) :
      Polled settings ledger r (latest :: heights)
        ((r.tick settings answers).requests ++ requests) final

section Ticks

variable {settings : Settings} {ledger : Ledger} {queue : Queue} {latest : Word}
  {answers : Answers}

/-- A log is judged as if the ledger refused nothing. -/
theorem Ledger.Supplies.judge (supplied : ledger.Supplies settings queue latest answers)
    {log : Log} (member : log ∈ ledger.logs) {queue' : Queue}
    (kept : queue'.entries.Sublist queue.entries) (n m : Nat) :
    Scan.judge answers latest settings.depth queue' n log =
      Scan.judge ledger.answers latest settings.depth queue' m log := by
  have decoded : answers.payload log = ledger.answers.payload log := supplied.payload log
  refine Scan.judge_congr decoded fun event read =>
    Scan.judgeEvent_congr rfl rfl fun stands deep present => ?_
  have read' : Scan.eventOf? answers log = some event := by
    rw [← read, Scan.eventOf?, Scan.eventOf?, decoded]
  have pending : queue.contains event = true := by
    rw [Queue.contains_iff] at present ⊢
    obtain ⟨x, held, same⟩ := present
    exact ⟨x, kept.subset held, same⟩
  rw [PendingEvent.isConfirmed_iff] at deep
  obtain ⟨header, found, time⟩ := supplied.block log member event read' deep pending n
  rw [Scan.blockTime_of_ledger, Scan.eventOf?_block read]
  simp [Scan.blockTime, found, Block.time?, Instant.ofTimestamp?, time,
    ledger.representable log.block]

theorem Ledger.Supplies.scan (supplied : ledger.Supplies settings queue latest answers)
    (sorted : queue.Sorted) (metrics : Metrics) :
    (Scan.whole ledger latest settings.depth queue).Follows []
      (StarWatch.scan settings answers latest queue metrics).pass := by
  have begun : (Scan.fresh queue).Follows []
      (Scan.opening settings queue metrics (logsSince ledger.logs queue.firstBlock)) :=
    ⟨rfl, rfl, rfl⟩
  have old : ∀ log ∈ ledger.logs, log.block < queue.firstBlock →
      Scan.Moot ledger.answers latest settings.depth queue log :=
    fun _ _ below => Scan.moot_below sorted below
  have since := Scan.logsSince_follows_whole ledger old
  have agree : ∀ log ∈ logsSince ledger.logs queue.firstBlock, ∀ queue' n,
      queue'.entries.Sublist queue.entries →
        Scan.judge answers latest settings.depth queue' (0 + n) log =
          Scan.judge ledger.answers latest settings.depth queue' n log := by
    intro log member queue' n kept
    exact supplied.judge (List.mem_of_mem_filter member) kept (0 + n) n
  have together := Scan.settleAll_agree begun agree
  rw [Scan.scan_of_answered latest metrics (supplied.logs queue.firstBlock)]
  exact since.symm.trans together

/-- What a tick does that is supplied with all it needs. -/
theorem Ledger.Supplies.tick {r : Reactor}
    (supplied : ledger.Supplies settings r.queue latest answers) (sorted : r.queue.Sorted) :
    let pass := Scan.whole ledger latest settings.depth r.queue
    callsOf (r.tick settings answers).requests = callsOf pass.requests ∧
      (r.tick settings answers).reactor.queue = pass.queue.evict latest settings.depth := by
  obtain ⟨_, left, asked⟩ := r.tick_read settings supplied.height
  have scanned := supplied.scan sorted r.metrics
  rw [left, asked, callsOf_height, scanned.queue, scanned.called]
  exact ⟨rfl, rfl⟩

theorem Ledger.Supplies.sorted {r : Reactor}
    (supplied : ledger.Supplies settings r.queue latest answers) (sorted : r.queue.Sorted) :
    (r.tick settings answers).reactor.queue.Sorted := by
  rw [(supplied.tick sorted).2]
  have kept := (Scan.moot_settled (Scan.settled_through ledger latest settings.depth
    (Scan.fresh r.queue) ledger.logs)).1
  exact (sorted.sublist kept).sublist List.filter_sublist

/-- Ticks at growing heights do together what the last of them does alone. -/
theorem Polled.as_last {r final : Reactor} {heights : List Word} {requests : List Request}
    (ascending : ledger.logs.Pairwise fun a b => a.block ≤ b.block)
    (standing : ∀ log ∈ ledger.logs, log.removed = false)
    (polled : Polled settings ledger r heights requests final) (sorted : r.queue.Sorted)
    (rising : heights.Pairwise (· ≤ ·)) (last : heights.getLast? = some latest) :
    let pass := Scan.whole ledger latest settings.depth r.queue
    callsOf requests = callsOf pass.requests ∧
      final.queue = pass.queue.evict latest settings.depth := by
  induction polled with
  | rest r => cases last
  | @tick r final answers first heights requests supplied later ih =>
    obtain ⟨called, left⟩ := supplied.tick sorted
    cases heights with
    | nil =>
      cases last
      cases later
      rw [List.append_nil]
      exact ⟨called, left⟩
    | cons second heights =>
      rw [List.getLast?_cons_cons] at last
      obtain ⟨least, rising⟩ := List.pairwise_cons.mp rising
      have le : first ≤ latest := least latest (List.mem_of_getLast? last)
      obtain ⟨called', left'⟩ := ih (supplied.sorted sorted) rising last
      obtain ⟨calls, leaves⟩ :=
        Scan.whole_after_whole ledger ascending standing le settings.depth r.queue
      rw [left] at called' left'
      dsimp only
      rw [callsOf_append, called, called', left', calls, leaves]
      exact ⟨rfl, rfl⟩

end Ticks

/-- Polling often changes nothing: over logs that stand and come in ascending order, ticks at
growing heights make the calls of one tick at the last height, in the same order, and leave the
same queue. -/
theorem polling_often_changes_nothing (settings : Settings) (ledger : Ledger)
    (ascending : ledger.logs.Pairwise fun a b => a.block ≤ b.block)
    (standing : ∀ log ∈ ledger.logs, log.removed = false) (changes : List Queue.Change)
    {r final : Reactor} (pending : r.queue = Queue.after changes) {heights : List Word}
    {requests : List Request} (polled : Polled settings ledger r heights requests final)
    (rising : heights.Pairwise (· ≤ ·)) {latest : Word} (last : heights.getLast? = some latest)
    {answers : Answers} (supplied : ledger.Supplies settings r.queue latest answers) :
    callsOf requests = callsOf (r.tick settings answers).requests ∧
      final.queue = (r.tick settings answers).reactor.queue := by
  have sorted : r.queue.Sorted := pending ▸ Queue.sorted_after changes
  obtain ⟨called, left⟩ := polled.as_last ascending standing sorted rising last
  obtain ⟨called', left'⟩ := supplied.tick sorted
  exact ⟨called.trans called'.symm, left.trans left'.symm⟩

section Purchases

def bothPending : Reactor := { Reactor.start with queue := Queue.after bothQueued }

def bothAt (height : Word) : Answers := { twoPurchases.answers with height := .ok height }

theorem bothAt_supplies (queue : Queue) (height : Word) :
    twoPurchases.Supplies purchaseSettings queue height (bothAt height) where
  height := rfl
  logs := fun _ => rfl
  payload := fun _ => rfl
  block := fun log _ _ _ _ _ _ => ⟨{ number := log.block, hash := ⟨0⟩, timestamp := 1600001200 },
    rfl, rfl⟩

/-- Between two ticks the older purchase is called for at its own height, and the newer one at the
next; one tick calls for both. -/
theorem both_purchases_polled :
    let early := bothPending.tick purchaseSettings (bothAt 100)
    let late := early.reactor.tick purchaseSettings (bothAt 110)
    let once := bothPending.tick purchaseSettings (bothAt 110)
    Polled purchaseSettings twoPurchases bothPending [100, 110]
        (early.requests ++ (late.requests ++ [])) late.reactor ∧
      callsOf once.requests = [olderNotice, purchase.notice] ∧
      callsOf (early.requests ++ (late.requests ++ [])) = callsOf once.requests ∧
      late.reactor.queue = once.reactor.queue := by
  intro early late once
  have polled : Polled purchaseSettings twoPurchases bothPending [100, 110]
      (early.requests ++ (late.requests ++ [])) late.reactor :=
    .tick (bothAt_supplies _ 100) (.tick (bothAt_supplies _ 110) (.rest _))
  have both := (bothQueued_retried.whole (Queue.sorted_after bothQueued)).1
  have called := ((bothAt_supplies _ 110).tick (r := bothPending)
    (Queue.sorted_after bothQueued)).1
  exact ⟨polled, called.trans both,
    polling_often_changes_nothing purchaseSettings twoPurchases (by decide) (by decide) bothQueued
      rfl polled (by decide) rfl (bothAt_supplies _ 110)⟩

end Purchases

end StarWatch
