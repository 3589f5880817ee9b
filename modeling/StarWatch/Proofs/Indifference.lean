import StarWatch.Proofs.Lifecycle
import StarWatch.Proofs.Repetition

/-!
# Indifference to the downstream interface

What the downstream interface answers to a call is counted where it is an error,
and goes nowhere else. Two runs that differ in these answers stay the same, step
by step, but for that count; a call that was refused is over like any other.
-/

namespace StarWatch

section Counts

variable (failed : Tally)

def Metrics.withFailed (m : Metrics) : Metrics := { m with failed }

def Scan.Pass.withFailed (p : Scan.Pass) : Scan.Pass :=
  { p with metrics := p.metrics.withFailed failed }

def Reactor.withFailed (r : Reactor) : Reactor :=
  { r with metrics := r.metrics.withFailed failed }

def Turn.withFailed (t : Turn) : Turn := { t with reactor := t.reactor.withFailed failed }

def Watch.withFailed (w : Watch) : Watch := { w with reactor := w.reactor.withFailed failed }

end Counts

def Answers.withCall (call : Nat → Notice → Except NotifyError Unit) (answers : Answers) :
    Answers :=
  { answers with call }

def Move.withCall (call : Nat → Notice → Except NotifyError Unit) : Move → Move
  | .step answers => .step (answers.withCall call)
  | move => move

/-- Moves that differ at most in what the downstream interface answers. -/
def Move.Alike (move move' : Move) : Prop := ∃ call, move' = move.withCall call

/-- The same outcome, the same requests and the same reactor, but for the count of failed calls. -/
def Turn.Alike (turn turn' : Turn) : Prop := ∃ failed, turn' = turn.withFailed failed

def Watch.Alike (w w' : Watch) : Prop := ∃ failed, w' = w.withFailed failed

namespace Scan

variable (answers : Answers) (call : Nat → Notice → Except NotifyError Unit) (failed : Tally)

/-- The answer to a call only moves the count of failed calls. -/
theorem countCall_withFailed (m : Metrics) (k : EventKind)
    (answer answer' : Except NotifyError Unit) :
    ∃ failed', countCall (m.withFailed failed) k answer' =
      (countCall m k answer).withFailed failed' := by
  have counted (failed' : Tally) : (countCall m k answer).withFailed failed' =
      { m with dispatched := m.dispatched.bump k, failed := failed' } := by
    cases answer with
    | ok | error => rfl
  cases answer' with
  | ok => exact ⟨failed, (counted _).symm⟩
  | error => exact ⟨failed.bump k, (counted _).symm⟩

theorem settle_withFailed (p : Pass) (verdict : Verdict) :
    ∃ failed', (p.withFailed failed).settle (answers.withCall call) verdict =
      (p.settle answers verdict).withFailed failed' := by
  cases verdict with
  | confirmed event time =>
    obtain ⟨notice, sent⟩ := exists_notice event time
    obtain ⟨failed', counted⟩ := countCall_withFailed failed p.metrics event.kind
      (answers.call p.report.dispatched notice)
      ((answers.withCall call).call p.report.dispatched notice)
    refine ⟨failed', ?_⟩
    rw [settle_confirmed _ _ sent, settle_confirmed _ _ sent]
    simp only [Pass.withFailed, counted]
  | _ => exact ⟨failed, rfl⟩

theorem settleAll_withFailed (latest : Word) (depth : Nat) (p : Pass) (logs : List Log) :
    ∃ failed', settleAll (answers.withCall call) latest depth (p.withFailed failed) logs =
      ((settleAll answers latest depth p logs).1.withFailed failed',
        (settleAll answers latest depth p logs).2) := by
  induction logs generalizing p failed with
  | nil => exact ⟨failed, rfl⟩
  | cons log rest ih =>
    generalize judged : judge answers latest depth p.queue p.report.dispatched log = verdict
    have judged' : judge (answers.withCall call) latest depth (p.withFailed failed).queue
        (p.withFailed failed).report.dispatched log = verdict := judged
    obtain ⟨failed', settled⟩ := settle_withFailed answers call failed p verdict
    cases stops : verdict.stop? with
    | some cause =>
      rw [settleAll_stop rest judged stops, settleAll_stop rest judged' stops, settled]
      exact ⟨failed', rfl⟩
    | none =>
      rw [settleAll_go rest judged stops, settleAll_go rest judged' stops, settled]
      exact ih failed' _

theorem scan_withFailed (settings : Settings) (latest : Word) (queue : Queue)
    (metrics : Metrics) :
    let outcome := scan settings answers latest queue metrics
    ∃ failed', scan settings (answers.withCall call) latest queue (metrics.withFailed failed) =
      { outcome with pass := outcome.pass.withFailed failed' } := by
  cases answered : answers.logs settings.contract queue.firstBlock with
  | error e =>
    have answered' : (answers.withCall call).logs settings.contract queue.firstBlock =
        .error e := answered
    rw [scan_refused latest _ answered, scan_refused latest _ answered']
    exact ⟨failed, rfl⟩
  | ok logs =>
    have answered' : (answers.withCall call).logs settings.contract queue.firstBlock =
        .ok logs := answered
    obtain ⟨failed', settled⟩ := settleAll_withFailed answers call failed latest settings.depth
      (opening settings queue metrics logs) logs
    have begun : opening settings queue (metrics.withFailed failed) logs =
        (opening settings queue metrics logs).withFailed failed := rfl
    rw [scan_of_answered latest _ answered, scan_of_answered latest _ answered', begun, settled]
    exact ⟨failed', rfl⟩

end Scan

namespace Reactor

variable (settings : Settings) (answers : Answers)
  (call : Nat → Notice → Except NotifyError Unit) (failed : Tally) (r : Reactor)

theorem tick_withFailed :
    ∃ failed', (r.withFailed failed).tick settings (answers.withCall call) =
      (r.tick settings answers).withFailed failed' := by
  cases height : answers.height with
  | error e =>
    have height' : (answers.withCall call).height = .error e := height
    rw [tick_unread settings _ height, tick_unread settings _ height']
    exact ⟨failed, rfl⟩
  | ok latest =>
    have height' : (answers.withCall call).height = .ok latest := height
    let outcome := scan settings answers latest r.queue r.metrics
    obtain ⟨failed', scanned⟩ : ∃ failed', scan settings (answers.withCall call) latest
        (r.withFailed failed).queue (r.withFailed failed).metrics =
      { outcome with pass := outcome.pass.withFailed failed' } :=
      Scan.scan_withFailed answers call failed settings latest r.queue r.metrics
    refine ⟨failed', ?_⟩
    simp only [tick, height, height', scanned, outcome]
    cases (scan settings answers latest r.queue r.metrics).result with
    | ok | error => rfl

/-- To handle a notification does not touch the count of failed calls. -/
theorem receive_withFailed (index : Nat) (n : Notification) (rest : Stream) :
    (r.withFailed failed).receive index n rest = (r.receive index n rest).withFailed failed := by
  simp only [receive, handle]
  cases PendingEvent.ofNotification? n with
  | none => rfl
  | some event =>
    simp only [handleEvent]
    cases event.removed with
    | false | true => rfl

theorem wake_withFailed : (r.withFailed failed).wake = r.wake.withFailed failed := by
  have streams : (r.withFailed failed).streams = r.streams := rfl
  simp only [wake, streams]
  split
  · rfl
  · cases Stream.pollAt r.streams (List.range r.streams.length) with
    | nothing | closed => rfl
    | item index n rest => exact r.receive_withFailed failed index n rest

theorem step_withFailed :
    ∃ failed', (r.withFailed failed).step settings (answers.withCall call) =
      (r.step settings answers).withFailed failed' := by
  have streams : (r.withFailed failed).streams = r.streams := rfl
  have cursor : (r.withFailed failed).cursor = r.cursor := rfl
  have queue : (r.withFailed failed).queue = r.queue := rfl
  simp only [step, streams, cursor, queue]
  cases Stream.pollAt r.streams (turnOrder r.streams.length r.cursor) with
  | closed kind => exact ⟨failed, rfl⟩
  | item index n rest =>
    exact ⟨failed, receive_withFailed failed { r with cursor := (index + 1) % r.streams.length }
      index n rest⟩
  | nothing =>
    dsimp only
    split
    · exact ⟨failed, r.wake_withFailed failed⟩
    · exact r.tick_withFailed settings answers call failed

theorem subscribeTo_withFailed (openStream : EventKind → Except LedgerError Stream)
    (kinds : List EventKind) :
    (subscribeTo openStream kinds (r.withFailed failed)).2 =
      (subscribeTo openStream kinds r).2.withFailed failed := by
  induction kinds generalizing r with
  | nil => rfl
  | cons k rest ih =>
    simp only [subscribeTo]
    cases openStream k with
    | error e => rfl
    | ok s => exact ih { r with streams := r.streams ++ [s] }

end Reactor

namespace Watch

variable (settings : Settings) (call : Nat → Notice → Except NotifyError Unit) (failed : Tally)
  (w : Watch) (move : Move)

theorem turn?_withFailed :
    ∃ failed', (w.withFailed failed).turn? settings (move.withCall call) =
      (w.turn? settings move).map (Turn.withFailed failed') := by
  cases move with
  | step answers =>
    obtain ⟨failed', stepped⟩ := w.reactor.step_withFailed settings answers call failed
    exact ⟨failed', congrArg some stepped⟩
  | wake =>
    refine ⟨failed, ?_⟩
    cases waits : w.waiting with
    | true => simp [turn?, withFailed, Move.withCall, waits, Reactor.wake_withFailed]
    | false => simp [turn?, withFailed, Move.withCall, waits]
  | _ => exact ⟨failed, rfl⟩

theorem outside_withFailed :
    (w.withFailed failed).outside settings (move.withCall call) =
      (w.outside settings move).withFailed failed := by
  cases move with
  | subscribe openStream =>
    simp only [outside, withFailed, Move.withCall, Reactor.subscribeAll]
    cases settings.check with
    | error e => rfl
    | ok => simp only [Reactor.subscribeTo_withFailed]
  | _ => rfl

theorem next_withFailed :
    ∃ failed', (w.withFailed failed).next settings (move.withCall call) =
      (w.next settings move).withFailed failed' := by
  obtain ⟨failed', turned⟩ := w.turn?_withFailed settings call failed move
  simp only [next, turned]
  cases w.turn? settings move with
  | none => exact ⟨failed, w.outside_withFailed settings call failed move⟩
  | some turn => exact ⟨failed', rfl⟩

/-- Alike moves lead alike states through alike steps. -/
theorem run_alike {moves moves' : List Move} (alike : List.Forall₂ Move.Alike moves moves') :
    List.Forall₂ Turn.Alike ((w.history settings moves).map Moment.turn)
        (((w.withFailed failed).history settings moves').map Moment.turn) ∧
      (w.after settings moves).Alike ((w.withFailed failed).after settings moves') := by
  induction alike generalizing w failed with
  | nil => exact ⟨.nil, failed, rfl⟩
  | @cons move _ _ _ first _ ih =>
    obtain ⟨call, rfl⟩ := first
    obtain ⟨failed₁, turned⟩ := w.turn?_withFailed settings call failed move
    obtain ⟨failed₂, reached⟩ := w.next_withFailed settings call failed move
    obtain ⟨turns, ends⟩ := ih failed₂ (w.next settings move)
    rw [← reached] at turns ends
    refine ⟨?_, ends⟩
    simp only [history, turned]
    cases w.turn? settings move with
    | none => exact turns
    | some turn => exact .cons ⟨failed₁, rfl⟩ turns

end Watch

theorem Turn.requests_of_alike {turns turns' : List Turn}
    (alike : List.Forall₂ Turn.Alike turns turns') :
    turns'.map Turn.requests = turns.map Turn.requests := by
  induction alike with
  | nil => rfl
  | cons same _ ih =>
    obtain ⟨failed, rfl⟩ := same
    exact congrArg (List.cons _) ih

section Retirement

variable {settings : Settings} {depth : Nat} {m : Moment} {id : LogIdentity}

theorem Trace.exists_lifecycle {before after : Counts} {hs : List Happening} {h : Happening}
    (trace : Trace depth before hs after) (during : h ∈ hs) :
    ∃ counts counts', Lifecycle depth counts h counts' := by
  induction trace with
  | nil => cases during
  | cons first _ ih =>
    rcases List.mem_cons.mp during with rfl | later
    · exact ⟨_, _, first⟩
    · exact ih later

/-- A call is made for some identity. -/
theorem Lifecycle.forwards_of_call {before after : Counts} {h : Happening} {notice : Notice}
    (step : Lifecycle depth before h after) (called : notice ∈ h.calls) :
    ∃ id, h.Forwards id := by
  cases step with
  | forwarded => exact ⟨_, rfl, List.cons_ne_nil _ _⟩
  | _ => cases called

/-- A step queues, or it calls, and not both. -/
theorem Moment.happenings_apart (settings : Settings) (m : Moment) :
    (∀ h ∈ m.happenings settings, ∀ id, ¬ h.Queues id) ∨
      ∀ h ∈ m.happenings settings, ∀ id, ¬ h.Forwards id := by
  simp only [happenings]
  split
  · left
    split
    · split
      · intro h during id queues
        rcases List.mem_append.mp during with visited | evicted
        · obtain ⟨v, _, rfl⟩ := List.mem_map.mp visited
          exact queues
        · rw [List.mem_singleton.mp evicted] at queues
          exact queues
      · simp
    · simp
  all_goals
    right
    intro h during id forwards
    rw [List.mem_singleton.mp during] at forwards
    exact forwards

/-- When a step ends, nothing is pending any more of what it called for. -/
theorem Moment.Reflected.zero_of_forwards (reflected : m.Reflected settings) {h : Happening}
    (during : h ∈ m.happenings settings) (forwards : h.Forwards id) :
    m.turn.reactor.queue.counts id = 0 := by
  have unqueued : ∀ h ∈ m.happenings settings, ∀ id, ¬ h.Queues id := by
    rcases m.happenings_apart settings with unqueued | uncalled
    · exact unqueued
    · exact absurd forwards (uncalled h during id)
  have trace := reflected.trace
  obtain ⟨earlier, later, split⟩ := List.append_of_mem during
  rw [split] at trace unqueued
  obtain ⟨_, _, trace⟩ := trace.split
  cases trace with
  | cons call rest =>
    refine rest.stays_zero (call.zero_of_retires forwards.retires) ?_
    intro h' later
    exact unqueued h' (List.mem_append_right _ (List.mem_cons_of_mem _ later)) id

theorem Moment.Reflected.retired (reflected : m.Reflected settings) {notice : Notice}
    (called : notice ∈ callsOf m.turn.requests) :
    ∃ h ∈ m.happenings settings, ∃ id, notice ∈ h.calls ∧ h.Forwards id ∧
      m.turn.reactor.queue.counts id = 0 := by
  rw [reflected.calls] at called
  obtain ⟨h, during, called⟩ := List.mem_flatMap.mp called
  obtain ⟨_, _, step⟩ := reflected.trace.exists_lifecycle during
  obtain ⟨id, forwards⟩ := step.forwards_of_call called
  exact ⟨h, during, id, called, forwards, reflected.zero_of_forwards during forwards⟩

end Retirement

/-- What the downstream interface cannot change, by any answer to any call. The steps are the same
but for the count of failed calls, a call is for an identity of which nothing is pending any more
when the step ends, and between two calls it was queued live. -/
structure Watch.Indifferent (settings : Settings) (w : Watch) (moves moves' : List Move) :
    Prop where
  turns : List.Forall₂ Turn.Alike ((w.history settings moves).map Moment.turn)
    ((w.history settings moves').map Moment.turn)
  ended : (w.after settings moves).Alike (w.after settings moves')
  retired : ∀ moment ∈ w.history settings moves', ∀ notice ∈ callsOf moment.turn.requests,
    ∃ h ∈ moment.happenings settings, ∃ id, notice ∈ h.calls ∧ h.Forwards id ∧
      moment.turn.reactor.queue.counts id = 0
  unretried : ∀ id earlier first between second later,
    w.happenings settings moves' = earlier ++ first :: (between ++ second :: later) →
    first.Forwards id → second.Forwards id → ∃ h ∈ between, h.Queues id

/-- Runs that differ only in what the downstream interface answers are the same but for the count
of failed calls, and call once and for all. -/
theorem runs_ignore_downstream (settings : Settings) (w : Watch) {moves moves' : List Move}
    (alike : List.Forall₂ Move.Alike moves moves') : w.Indifferent settings moves moves' := by
  obtain ⟨turns, ended⟩ := w.run_alike settings w.reactor.metrics.failed alike
  constructor
  · exact turns
  · exact ended
  · intro moment during notice called
    exact (w.history_reflected settings moves' moment during).retired called
  · intro id earlier first between second later split forwards again
    have trace := w.trace_happenings settings moves'
    rw [split] at trace
    exact trace.queued_between forwards.retires again

/-- A purchase that the downstream interface refuses is called and retired like one it accepts. -/
theorem refused_purchase_alike :
    let moves := purchase.moves 4
    let refused := moves.map (Move.withCall refuseCall)
    List.Forall₂ Move.Alike moves refused ∧
      ((subscribed.history purchaseSettings refused).map fun m => callsOf m.turn.requests) =
        [[], [purchase.notice]] ∧
      subscribed.Indifferent purchaseSettings moves refused := by
  intro moves refused
  have alike : List.Forall₂ Move.Alike moves refused := by
    rw [List.forall₂_map_right_iff, List.forall₂_same]
    intro move _
    exact ⟨refuseCall, rfl⟩
  have indifferent := runs_ignore_downstream purchaseSettings subscribed alike
  have requests := Turn.requests_of_alike indifferent.turns
  obtain ⟨_, ⟨cursor, rest, received, _⟩, _⟩ := purchase.queuing_receives subscribed_idle
  have queuing : callsOf (purchase.queuing subscribed 4).turn.requests = [] := by
    rw [received]
    rfl
  have calling : callsOf (purchase.calling subscribed 4).turn.requests = [purchase.notice] := by
    rw [(purchase.calling_turn subscribed_idle).1]
    rfl
  rw [purchase.history_eq, List.map_map, List.map_map] at requests
  refine ⟨alike, ?_, indifferent⟩
  calc (subscribed.history purchaseSettings refused).map (fun m => callsOf m.turn.requests)
      = ((subscribed.history purchaseSettings refused).map (Turn.requests ∘ Moment.turn)).map
          callsOf := (List.map_map ..).symm
    _ = [[], [purchase.notice]] := by
      rw [requests]
      simp [queuing, calling]

end StarWatch
