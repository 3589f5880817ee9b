import StarWatch.Proofs.Visit
import StarWatch.Reactor

/-!
# Runs of a reactor

A run is any list of moves. Streams are opened, fed and left by their senders
from outside, at any time; the reactor takes steps, and a step that waits goes
on when it wakes. `history` keeps every step with the reactor before it. `Acts`
says all that a step can do, by what it found at its streams.
-/

namespace StarWatch

inductive Move where
  | subscribe (openStream : EventKind → Except LedgerError Stream)
  | send (index : Nat) (n : Notification)
  | addSender (index : Nat)
  | dropSender (index : Nat)
  | step (answers : Answers)
  | wake

/-- A reactor within a run, and whether its last step still waits. -/
structure Watch where
  reactor : Reactor
  waiting : Bool

structure Moment where
  move : Move
  before : Reactor
  turn : Turn

namespace Watch

def start : Watch := { reactor := .start, waiting := false }

/-- The step that a move is, if it is one. Only a reactor that waits can wake. -/
def turn? (settings : Settings) (w : Watch) : Move → Option Turn
  | .step answers => some (w.reactor.step settings answers)
  | .wake => if w.waiting then some w.reactor.wake else none
  | _ => none

def onStream (w : Watch) (index : Nat) (change : Stream → Stream) : Watch :=
  { w with reactor := { w.reactor with streams := w.reactor.streams.modify index change } }

/-- What a move that is no step does. A reactor that subscribes has given up waiting. -/
def outside (settings : Settings) (w : Watch) : Move → Watch
  | .subscribe openStream =>
    { reactor := (w.reactor.subscribeAll settings openStream).2, waiting := false }
  | .send index n => w.onStream index fun s => (s.send? n).getD s
  | .addSender index => w.onStream index Stream.addSender
  | .dropSender index => w.onStream index Stream.dropSender
  | _ => w

def next (settings : Settings) (w : Watch) (move : Move) : Watch :=
  match w.turn? settings move with
  | some turn => { reactor := turn.reactor, waiting := turn.outcome = .waiting }
  | none => w.outside settings move

def after (settings : Settings) (w : Watch) (moves : List Move) : Watch :=
  moves.foldl (next settings) w

def history (settings : Settings) : Watch → List Move → List Moment
  | _, [] => []
  | w, move :: rest =>
    let later := history settings (w.next settings move) rest
    match w.turn? settings move with
    | some turn => { move, before := w.reactor, turn } :: later
    | none => later

end Watch

def Stream.Ready.notification? : Stream.Ready → Option Notification
  | item _ n _ => some n
  | _ => none

/-- What a step finds at its streams. It looks at them in turn, and on waking from the first on. -/
def Reactor.look (r : Reactor) : Move → Stream.Ready
  | .step _ => Stream.pollAt r.streams (Reactor.turnOrder r.streams.length r.cursor)
  | _ => Stream.pollAt r.streams (List.range r.streams.length)

def Reactor.taken? (r : Reactor) (move : Move) : Option Notification := (r.look move).notification?

/-- The place that the next look starts at, once a notification was taken at a place. Waking does
not move it. -/
def Reactor.cursorBehind (r : Reactor) (index : Nat) : Move → Nat
  | .step _ => (index + 1) % r.streams.length
  | _ => r.cursor

/-- All that a step of a reactor can do with what it found. -/
inductive Acts (settings : Settings) (r : Reactor) : Move → Stream.Ready → Turn → Prop
  | closed {move : Move} (kind : EventKind) :
      Acts settings r move (.closed kind)
        { outcome := .failed (.subscriptionClosed kind), reactor := r, requests := [] }
  | received {move : Move} (index : Nat) (n : Notification) (rest : Stream) :
      Acts settings r move (.item index n rest)
        ({ r with cursor := r.cursorBehind index move }.receive index n rest)
  | unsubscribed {move : Move} (without : r.streams = []) :
      Acts settings r move .nothing
        { outcome := .failed .notSubscribed, reactor := r, requests := [] }
  | waited {move : Move} :
      Acts settings r move .nothing { outcome := .waiting, reactor := r, requests := [] }
  | looked {answers : Answers} (pending : r.queue.isEmpty = false) :
      Acts settings r (.step answers) .nothing (r.tick settings answers)

/-- What comes of opening streams for kinds in turn: the open streams, and how it ended. -/
inductive Opening (openStream : EventKind → Except LedgerError Stream) (kinds : List EventKind) :
    List Stream → Except PipelineError Unit → Prop
  | all {streams : List Stream} (answered : kinds.map openStream = streams.map .ok) :
      Opening openStream kinds streams (.ok ())
  | upTo {before after : List EventKind} {kind : EventKind} {streams : List Stream}
      {e : LedgerError} (split : kinds = before ++ kind :: after)
      (answered : before.map openStream = streams.map .ok) (refused : openStream kind = .error e) :
      Opening openStream kinds streams (.error (.ledger e))

/-- What handling a notification does to the queue, and how it is answered: one event is queued,
the entries of one log are taken back, or nothing is done. -/
inductive Handling (q : Queue) (n : Notification) : Step → Queue → Prop
  | queued {e : PendingEvent} (read : PendingEvent.ofNotification? n = some e)
      (stands : e.removed = false) : Handling q n (.queued e.kind) (q.insert e)
  | purged {e : PendingEvent} (read : PendingEvent.ofNotification? n = some e)
      (gone : e.removed = true) :
      Handling q n (.purged (q.countMatching e)) (q.removeMatching e)
  | ignored (unread : PendingEvent.ofNotification? n = none) : Handling q n .ignored q

/-- The metrics once a notification was handled with an answer. Only a queued event has the
queue's length set. -/
def Metrics.answered (m : Metrics) (left : Queue) : Step → Metrics
  | .queued kind => { m with queued := m.queued.bump kind, queueLength := left.size }
  | .purged count => { m with purged := m.purged + count }
  | _ => m

/-- The visits of the scan that a tick makes at a height. -/
def Moment.visits (settings : Settings) (answers : Answers) (latest : Word) (m : Moment) :
    List Scan.Visit :=
  match answers.logs settings.contract m.before.queue.firstBlock with
  | .ok logs =>
    Scan.visits answers latest settings.depth
      (Scan.opening settings m.before.queue m.before.metrics logs) logs
  | .error _ => []

namespace Stream

theorem pollAt_nil (places : List Nat) : pollAt [] places = .nothing := by
  induction places with
  | nil => rfl
  | cons i rest ih => exact ih

theorem pollAt_eq_nothing {streams : List Stream} {places : List Nat} :
    pollAt streams places = .nothing ↔
      ∀ i ∈ places, ∀ s, streams[i]? = some s → s.poll = .empty := by
  induction places with
  | nil => simp [pollAt]
  | cons i rest ih =>
    simp only [pollAt, List.forall_mem_cons]
    cases at_i : streams[i]? with
    | none => simp [ih]
    | some s =>
      cases found : s.poll with
      | empty => simp [ih, found]
      | item n left => simp [found]
      | closed => simp [found]

end Stream

theorem Opening.there {openStream : EventKind → Except LedgerError Stream}
    {kinds : List EventKind} {streams : List Stream} {result : Except PipelineError Unit}
    {kind : EventKind} {s : Stream} (answered : openStream kind = .ok s)
    (rest : Opening openStream kinds streams result) :
    Opening openStream (kind :: kinds) (s :: streams) result := by
  cases rest with
  | all others => exact .all (by rw [List.map_cons, List.map_cons, answered, others])
  | @upTo before after refusing streams e split others refused =>
    have parts : kind :: kinds = (kind :: before) ++ refusing :: after := by
      rw [split, List.cons_append]
    refine .upTo parts ?_ refused
    rw [List.map_cons, List.map_cons, answered, others]

namespace Reactor

theorem mem_turnOrder {count i : Nat} (cursor : Nat) (within : i < count) :
    i ∈ turnOrder count cursor := by
  simp only [turnOrder, List.mem_map, List.mem_range]
  refine ⟨(i + (count - cursor % count)) % count, Nat.mod_lt _ (by omega), ?_⟩
  have offset : cursor % count < count := Nat.mod_lt _ (by omega)
  have whole : cursor + (i + (count - cursor % count)) = i + count * (cursor / count + 1) := by
    have parts := Nat.div_add_mod cursor count
    rw [Nat.mul_add]
    omega
  rw [Nat.add_mod_mod, whole, Nat.add_mul_mod_self_left, Nat.mod_eq_of_lt within]

/-- A look in turn that finds nothing has looked at every stream. -/
theorem quiet_of_turnOrder {streams : List Stream} {cursor : Nat}
    (quiet : Stream.pollAt streams (turnOrder streams.length cursor) = .nothing) :
    Stream.pollAt streams (List.range streams.length) = .nothing := by
  rw [Stream.pollAt_eq_nothing] at quiet ⊢
  intro i hi
  exact quiet i (mem_turnOrder cursor (List.mem_range.mp hi))

theorem wake_acts (settings : Settings) (r : Reactor) :
    Acts settings r .wake (r.look .wake) r.wake := by
  simp only [wake, look]
  split
  · rename_i without
    rw [List.isEmpty_iff] at without
    simp only [without, Stream.pollAt_nil]
    exact .unsubscribed without
  · cases Stream.pollAt r.streams (List.range r.streams.length) with
    | nothing => exact .waited
    | closed kind => exact .closed kind
    | item index n rest => exact .received index n rest

section Steps

variable (settings : Settings) (answers : Answers) {r : Reactor}

/-- A step takes what a look in turn finds. -/
theorem step_item {index : Nat} {n : Notification} {rest : Stream}
    (found : r.look (.step answers) = .item index n rest) :
    r.step settings answers =
      { r with cursor := (index + 1) % r.streams.length }.receive index n rest := by
  simp only [look] at found
  simp only [step, found]

/-- A step that finds nothing ticks, if something is pending. -/
theorem step_nothing (found : r.look (.step answers) = .nothing)
    (pending : r.queue.isEmpty = false) : r.step settings answers = r.tick settings answers := by
  simp only [look] at found
  simp [step, found, pending]

end Steps

theorem step_acts (settings : Settings) (r : Reactor) (answers : Answers) :
    Acts settings r (.step answers) (r.look (.step answers)) (r.step settings answers) := by
  cases found : r.look (.step answers) with
  | closed kind =>
    simp only [look] at found
    simp only [step, found]
    exact .closed kind
  | item index n rest =>
    rw [step_item settings answers found]
    exact .received index n rest
  | nothing =>
    by_cases empty : r.queue.isEmpty = true
    · simp only [look] at found
      simp only [step, found, if_pos empty, wake, quiet_of_turnOrder found]
      split
      · exact .unsubscribed (List.isEmpty_iff.mp ‹_›)
      · exact .waited
    · have pending : r.queue.isEmpty = false := by simpa using empty
      rw [step_nothing settings answers found pending]
      exact .looked pending

section Handlings

variable (r : Reactor) (n : Notification) (index : Nat) (rest : Stream)

theorem handle_handling : Handling r.queue n (r.handle n).1 (r.handle n).2.queue := by
  simp only [handle]
  cases read : PendingEvent.ofNotification? n with
  | none => exact .ignored read
  | some e =>
    simp only [handleEvent]
    by_cases gone : e.removed = true
    · rw [if_pos gone]
      exact .purged read gone
    · rw [if_neg gone]
      exact .queued read (Bool.of_not_eq_true gone)

/-- Handling a notification touches the queue and the metrics, and evicts nothing. -/
theorem handle_frame :
    ∃ queue metrics, (r.handle n).2 = { r with queue, metrics } ∧
      metrics.evicted = r.metrics.evicted := by
  simp only [handle]
  cases PendingEvent.ofNotification? n with
  | none => exact ⟨r.queue, r.metrics, rfl, rfl⟩
  | some e =>
    simp only [handleEvent]
    split
    · exact ⟨_, _, rfl, rfl⟩
    · exact ⟨_, _, rfl, rfl⟩

theorem handle_metrics :
    (r.handle n).2.metrics = r.metrics.answered (r.handle n).2.queue (r.handle n).1 := by
  simp only [handle]
  cases PendingEvent.ofNotification? n with
  | none => rfl
  | some e =>
    simp only [handleEvent]
    split
    · rfl
    · rfl

theorem receive_handling :
    ∃ answer, (r.receive index n rest).outcome = .done answer ∧
      Handling r.queue n answer (r.receive index n rest).reactor.queue :=
  ⟨_, rfl, handle_handling { r with streams := r.streams.set index rest } n⟩

theorem receive_streams :
    (r.receive index n rest).reactor.streams = r.streams.set index rest := by
  obtain ⟨queue, metrics, same, _⟩ := handle_frame { r with streams := r.streams.set index rest } n
  exact congrArg Reactor.streams same

theorem receive_cursor : (r.receive index n rest).reactor.cursor = r.cursor := by
  obtain ⟨queue, metrics, same, _⟩ := handle_frame { r with streams := r.streams.set index rest } n
  exact (congrArg Reactor.cursor same).trans rfl

theorem receive_evicted :
    (r.receive index n rest).reactor.metrics.evicted = r.metrics.evicted := by
  obtain ⟨queue, metrics, same, unevicted⟩ :=
    handle_frame { r with streams := r.streams.set index rest } n
  exact (congrArg (fun left => left.metrics.evicted) same).trans unevicted

end Handlings

section Ticks

variable (settings : Settings) (r : Reactor) {answers : Answers}

theorem tick_unread {e : LedgerError} (failed : answers.height = .error e) :
    r.tick settings answers =
      { outcome := .done .heightUnavailable, reactor := r, requests := [.height] } := by
  simp [tick, failed]

/-- What a tick at a height leaves: the scan's requests, and the scan's queue less its leftovers. -/
theorem tick_read {latest : Word} (answered : answers.height = .ok latest) :
    let outcome := scan settings answers latest r.queue r.metrics
    let turn := r.tick settings answers
    turn.outcome = .done (.scanned outcome.result.toOption
        (outcome.pass.queue.leftovers latest settings.depth).length) ∧
      turn.reactor.queue = outcome.pass.queue.evict latest settings.depth ∧
      turn.requests = .height :: outcome.pass.requests := by
  simp [tick, answered, evict]

/-- A tick at a height keeps what its scan counted. It counts a scan without a report and the
leftovers, and sets the queue's length. -/
theorem tick_metrics {latest : Word} (answered : answers.height = .ok latest) :
    let outcome := scan settings answers latest r.queue r.metrics
    let left := (r.tick settings answers).reactor
    left.metrics = { outcome.pass.metrics with
      aborted := outcome.pass.metrics.aborted + if outcome.result.toOption.isNone then 1 else 0
      evicted := outcome.pass.metrics.evicted +
        (outcome.pass.queue.leftovers latest settings.depth).length
      queueLength := left.queue.size } := by
  simp only [tick, answered, evict]
  cases (scan settings answers latest r.queue r.metrics).result with
  | ok | error => rfl

/-- A tick leaves the streams to the steps that receive. -/
theorem tick_streams (answers : Answers) :
    (r.tick settings answers).reactor.streams = r.streams := by
  cases answered : answers.height <;> simp [tick, answered, evict]

theorem tick_cursor (answers : Answers) :
    (r.tick settings answers).reactor.cursor = r.cursor := by
  cases answered : answers.height <;> simp [tick, answered, evict]

end Ticks

theorem subscribeTo_opening (openStream : EventKind → Except LedgerError Stream)
    (kinds : List EventKind) (r : Reactor) :
    ∃ streams, (subscribeTo openStream kinds r).2 = { r with streams := r.streams ++ streams } ∧
      Opening openStream kinds streams (subscribeTo openStream kinds r).1 := by
  induction kinds generalizing r with
  | nil => exact ⟨[], by simp [subscribeTo], .all rfl⟩
  | cons kind rest ih =>
    simp only [subscribeTo]
    cases answered : openStream kind with
    | error e => exact ⟨[], by simp, .upTo (List.nil_append _).symm rfl answered⟩
    | ok s =>
      obtain ⟨streams, left, opening⟩ := ih { r with streams := r.streams ++ [s] }
      exact ⟨s :: streams, by simp [left], opening.there answered⟩

/-- To subscribe is to open more streams behind those that are open. -/
theorem subscribeAll_frame (settings : Settings)
    (openStream : EventKind → Except LedgerError Stream) (r : Reactor) :
    ∃ opened, (r.subscribeAll settings openStream).2 =
      { r with streams := r.streams ++ opened } := by
  simp only [subscribeAll]
  split
  · exact ⟨[], by simp⟩
  · obtain ⟨opened, same, _⟩ := r.subscribeTo_opening openStream EventKind.all
    exact ⟨opened, same⟩

end Reactor

namespace Watch

variable {settings : Settings} {w : Watch}

theorem turn?_acts {move : Move} {turn : Turn} (took : w.turn? settings move = some turn) :
    Acts settings w.reactor move (w.reactor.look move) turn := by
  cases move with
  | step answers =>
    cases took
    exact w.reactor.step_acts settings answers
  | wake =>
    simp only [turn?] at took
    split at took
    · cases took
      exact w.reactor.wake_acts settings
    · cases took
  | _ => cases took

/-- Every step of a run was taken by the reactor before it. -/
theorem exists_turn?_of_mem {moves : List Move} {moment : Moment}
    (during : moment ∈ w.history settings moves) :
    ∃ w' : Watch, w'.reactor = moment.before ∧
      w'.turn? settings moment.move = some moment.turn := by
  induction moves generalizing w with
  | nil => simp [history] at during
  | cons move rest ih =>
    simp only [history] at during
    cases took : w.turn? settings move with
    | none =>
      rw [took] at during
      exact ih during
    | some turn =>
      rw [took] at during
      rcases List.mem_cons.mp during with first | later
      · exact ⟨w, by rw [first], by rw [first]; exact took⟩
      · exact ih later

/-- What every single step of every run does. -/
theorem history_acts {moves : List Move} :
    ∀ moment ∈ w.history settings moves,
      Acts settings moment.before moment.move (moment.before.look moment.move) moment.turn := by
  intro moment during
  obtain ⟨w', reached, took⟩ := exists_turn?_of_mem during
  exact reached ▸ turn?_acts took

/-- From outside only the streams change. -/
theorem outside_frame (settings : Settings) (w : Watch) (move : Move) :
    ∃ streams, (w.outside settings move).reactor = { w.reactor with streams } := by
  cases move with
  | subscribe openStream =>
    obtain ⟨opened, same⟩ := w.reactor.subscribeAll_frame settings openStream
    exact ⟨_, same⟩
  | step | wake => exact ⟨w.reactor.streams, rfl⟩
  | _ => exact ⟨_, rfl⟩

theorem outside_queue (settings : Settings) (w : Watch) (move : Move) :
    (w.outside settings move).reactor.queue = w.reactor.queue := by
  obtain ⟨streams, same⟩ := w.outside_frame settings move
  rw [same]

/-- What holds of a reactor and of the steps behind it holds through every run, if it does not
depend on the streams and each step keeps it. -/
theorem after_of_steps {P : Reactor → List Moment → Prop}
    (outside : ∀ r past streams, P r past → P { r with streams } past)
    (step : ∀ m past, Acts settings m.before m.move (m.before.look m.move) m.turn →
      P m.before past → P m.turn.reactor (past ++ [m]))
    {past : List Moment} (holds : P w.reactor past) (moves : List Move) :
    P (w.after settings moves).reactor (past ++ w.history settings moves) := by
  induction moves generalizing w past with
  | nil =>
    rw [history, List.append_nil]
    exact holds
  | cons move rest ih =>
    simp only [history, after, List.foldl_cons]
    cases took : w.turn? settings move with
    | none =>
      obtain ⟨streams, same⟩ := w.outside_frame settings move
      have reached : (w.next settings move).reactor = { w.reactor with streams } := by
        simp only [next, took, same]
      exact ih (reached ▸ outside _ _ streams holds)
    | some turn =>
      have reached : (w.next settings move).reactor = turn.reactor := by simp only [next, took]
      have stepped := step ⟨move, w.reactor, turn⟩ past (turn?_acts took) holds
      have later := ih (reached ▸ stepped)
      rw [List.append_assoc] at later
      exact later

/-- A step of a run is the last step of the run up to it. -/
theorem exists_after_of_mem {moves : List Move} {m : Moment}
    (during : m ∈ w.history settings moves) :
    ∃ earlier past, (w.after settings earlier).reactor = m.turn.reactor ∧
      w.history settings earlier = past ++ [m] := by
  induction moves generalizing w with
  | nil => simp [history] at during
  | cons move rest ih =>
    simp only [history] at during
    cases took : w.turn? settings move with
    | none =>
      rw [took] at during
      obtain ⟨earlier, past, reached, ends⟩ := ih during
      refine ⟨move :: earlier, past, reached, ?_⟩
      simp only [history, took, ends]
    | some turn =>
      rw [took] at during
      rcases List.mem_cons.mp during with rfl | later
      · refine ⟨[move], [], ?_, ?_⟩
        · simp [after, next, took]
        · simp [history, took]
      · obtain ⟨earlier, past, reached, ends⟩ := ih later
        refine ⟨move :: earlier, ⟨move, w.reactor, turn⟩ :: past, reached, ?_⟩
        simp only [history, took, ends, List.cons_append]

end Watch

end StarWatch
