import StarWatch.Feed
import StarWatch.Proofs.Kinds
import StarWatch.Proofs.Receipts

/-!
# What a feed forwards

The node delivers logs, the feed moves, and the listener receives, in any order.
What was received, and behind it what is buffered, held or not looked at yet, is
at each point the decodable ones of the delivered logs, so a full stream only
delays. The listener finds the stream closed once the node's logs have ended and
it has received all of these, and each round in which the feed moves and the
listener receives brings that closer. A scan reads the same record from a log as
the listener does from its notification.
-/

namespace StarWatch

namespace Feed

inductive Move where
  | deliver (log : ProviderLog)
  | finish
  | advance
  | receive

def next (f : Feed) : Move → Feed
  | .deliver log => f.deliver log
  | .finish => f.finish
  | .advance => f.advance
  | .receive => f.receive.2

def after (f : Feed) (moves : List Move) : Feed := moves.foldl next f

def taken (f : Feed) : Move → List Notification
  | .receive => f.receive.1.toList
  | _ => []

def received : Feed → List Move → List Notification
  | _, [] => []
  | f, move :: rest => f.taken move ++ received (f.next move) rest

/-- The payloads of those logs that can be decoded, each with its log. -/
def decodable (logs : List ProviderLog) : List Notification :=
  logs.filterMap fun l => l.log.payload.toOption.map fun payload => ⟨payload, l.log⟩

/-- The node's logs, up to their end. -/
def delivered : List Move → List ProviderLog
  | [] => []
  | .deliver log :: rest => log :: delivered rest
  | .finish :: _ => []
  | _ :: rest => delivered rest

/-- Nothing is delivered behind the end of the logs. -/
theorem delivered_append {moves : List Move} (finished : .finish ∈ moves) (later : List Move) :
    delivered (moves ++ later) = delivered moves := by
  induction moves with
  | nil => cases finished
  | cons move rest ih =>
    cases move with
    | finish => rfl
    | deliver log =>
      have ended : Move.finish ∈ rest := by simpa using finished
      rw [List.cons_append, delivered, ih ended, delivered]
    | advance =>
      have ended : Move.finish ∈ rest := by simpa using finished
      exact ih ended
    | receive =>
      have ended : Move.finish ∈ rest := by simpa using finished
      exact ih ended

/-- What the listener has still to receive of the logs delivered so far. -/
def underway (f : Feed) : List Notification :=
  f.stream.buffer ++ f.held.toList ++ decodable f.incoming

/-- A feed that is listened to: it runs with its sender, or it has seen all logs and dropped it. -/
structure Attended (f : Feed) : Prop where
  heard : f.heard = true
  roomy : 0 < f.stream.capacity
  fits : f.stream.buffer.length ≤ f.stream.capacity
  stage : f.state = .running ∧ f.stream.senders = 1 ∨
    f.state = .ended ∧ f.stream.senders = 0 ∧ f.isLast = true ∧ f.held = none ∧ f.incoming = []

section Moves

variable {f : Feed}

inductive Advances (f : Feed) : Feed → Prop
  | stays (waits : ∀ n, f.held = some n → f.stream.hasRoom = false)
      (idle : f.held = none → f.state = .running → f.incoming = [] ∧ f.isLast = false) :
      Advances f f
  | sends {n : Notification} (running : f.state = .running) (held : f.held = some n)
      (room : f.stream.hasRoom = true) :
      Advances f { f with
        held := none, stream := { f.stream with buffer := f.stream.buffer ++ [n] } }
  | takes {log : ProviderLog} {rest : List ProviderLog} (running : f.state = .running)
      (free : f.held = none) (first : f.incoming = log :: rest) :
      Advances f { f with incoming := rest, held := log.notification? }
  | ends (running : f.state = .running) (free : f.held = none) (done : f.incoming = [])
      (last : f.isLast = true) :
      Advances f { f with state := .ended, stream := f.stream.dropSender }

theorem advance_advances (attended : f.Attended) : f.Advances f.advance := by
  rcases attended.stage with ⟨running, sender⟩ | ⟨ended, _, last, free, done⟩
  · cases held : f.held with
    | some n =>
      cases room : f.stream.hasRoom with
      | true =>
        have moved : f.advance = { f with
            held := none, stream := { f.stream with buffer := f.stream.buffer ++ [n] } } := by
          simp [advance, running, held, attended.heard, Stream.send?, sender, room]
        rw [moved]
        exact .sends running held room
      | false =>
        have moved : f.advance = f := by
          simp [advance, running, held, attended.heard, Stream.send?, sender, room]
        rw [moved]
        exact .stays (fun _ _ => room) (by simp [held])
    | none =>
      cases incoming : f.incoming with
      | cons log rest =>
        have moved : f.advance = { f with incoming := rest, held := log.notification? } := by
          simp [advance, running, held, incoming]
        rw [moved]
        exact .takes running held incoming
      | nil =>
        cases last : f.isLast with
        | true =>
          have moved : f.advance = { f with state := .ended, stream := f.stream.dropSender } := by
            simp [advance, running, held, incoming, last]
          rw [moved]
          exact .ends running held incoming last
        | false =>
          have moved : f.advance = f := by simp [advance, running, held, incoming, last]
          rw [moved]
          exact .stays (by simp [held]) (fun _ _ => ⟨incoming, last⟩)
  · have moved : f.advance = f := by simp [advance, ended]
    rw [moved]
    exact .stays (by simp [free]) (by simp [ended])

inductive Moves (f : Feed) : Move → List Notification → Feed → Prop
  | ignores {log : ProviderLog} (last : f.isLast = true) : Moves f (.deliver log) [] f
  | delivers {log : ProviderLog} (more : f.isLast = false) :
      Moves f (.deliver log) [] { f with incoming := f.incoming ++ [log] }
  | finishes : Moves f .finish [] { f with isLast := true }
  | advances {f' : Feed} (moved : f.Advances f') : Moves f .advance [] f'
  | misses (empty : f.stream.buffer = []) : Moves f .receive [] f
  | receives {n : Notification} {rest : List Notification} (holds : f.stream.buffer = n :: rest) :
      Moves f .receive [n] { f with stream := { f.stream with buffer := rest } }

theorem next_moves (attended : f.Attended) (move : Move) :
    f.Moves move (f.taken move) (f.next move) := by
  cases move with
  | deliver log =>
    cases last : f.isLast with
    | true =>
      have same : f.next (.deliver log) = f := by simp [Feed.next, deliver, last]
      rw [same]
      exact .ignores last
    | false =>
      have more : f.next (.deliver log) = { f with incoming := f.incoming ++ [log] } := by
        simp [Feed.next, deliver, last]
      rw [more]
      exact .delivers last
  | finish => exact .finishes
  | advance => exact .advances (advance_advances attended)
  | receive =>
    cases buffer : f.stream.buffer with
    | cons n rest =>
      have found : f.receive = (some n, { f with stream := { f.stream with buffer := rest } }) := by
        simp [receive, Stream.poll, buffer]
      rw [taken, Feed.next, found]
      exact .receives buffer
    | nil =>
      have missed : f.receive = (none, f) := by
        simp only [receive, Stream.poll, buffer]
        split_ifs
        · rfl
        · rfl
      rw [taken, Feed.next, missed]
      exact .misses buffer

/-- Being listened to lasts as long as the listener stays. -/
theorem Attended.next (attended : f.Attended) (move : Move) : (f.next move).Attended := by
  obtain ⟨heard, roomy, fits, stage⟩ := attended
  have moves := next_moves ⟨heard, roomy, fits, stage⟩ move
  generalize f.next move = f', f.taken move = out at moves
  cases moves with
  | ignores => exact ⟨heard, roomy, fits, stage⟩
  | delivers more =>
    refine ⟨heard, roomy, fits, ?_⟩
    simpa [more] using stage
  | finishes =>
    refine ⟨heard, roomy, fits, ?_⟩
    rcases stage with running | ⟨ended, gone, _, rest⟩
    · exact .inl running
    · exact .inr ⟨ended, gone, rfl, rest⟩
  | advances moved =>
    cases moved with
    | stays => exact ⟨heard, roomy, fits, stage⟩
    | sends running held room =>
      refine ⟨heard, roomy, ?_, .inl ⟨running, ?_⟩⟩
      · simp only [Stream.hasRoom, decide_eq_true_eq] at room
        rw [List.length_append]
        exact room
      · simpa [running] using stage
    | takes running free first =>
      refine ⟨heard, roomy, fits, .inl ⟨running, ?_⟩⟩
      simpa [running] using stage
    | ends running free done last =>
      refine ⟨heard, roomy, fits, .inr ⟨rfl, ?_, last, free, done⟩⟩
      have sender : f.stream.senders = 1 := by simpa [running] using stage
      simp [Stream.dropSender, sender]
  | misses => exact ⟨heard, roomy, fits, stage⟩
  | receives holds =>
    refine ⟨heard, roomy, ?_, stage⟩
    rw [holds, List.length_cons] at fits
    exact Nat.le_of_succ_le fits

theorem capacity_next (attended : f.Attended) (move : Move) :
    (f.next move).stream.capacity = f.stream.capacity := by
  have moves := next_moves attended move
  generalize f.next move = f', f.taken move = out at moves
  cases moves with
  | advances moved =>
    cases moved with
    | _ => rfl
  | _ => rfl

theorem isLast_next (attended : f.Attended) (move : Move) :
    (f.next move).isLast = true ↔ f.isLast = true ∨ move = .finish := by
  have moves := next_moves attended move
  generalize f.next move = f', f.taken move = out at moves
  cases moves with
  | advances moved =>
    cases moved with
    | _ => simp
  | _ => simp

theorem decodable_nil : decodable [] = [] := rfl

theorem decodable_append (first rest : List ProviderLog) :
    decodable (first ++ rest) = decodable first ++ decodable rest :=
  List.filterMap_append

theorem decodable_cons (log : ProviderLog) (rest : List ProviderLog) :
    decodable (log :: rest) = log.notification?.toList ++ decodable rest := by
  cases decoded : log.log.payload with
  | error | ok => simp [decodable, ProviderLog.notification?, decoded, Except.toOption]

def coming (f : Feed) (moves : List Move) : List ProviderLog :=
  if f.isLast then [] else delivered moves

/-- A move takes from the front of what is underway, and adds at its end what it delivers. -/
theorem underway_next (attended : f.Attended) (move : Move) (rest : List Move) :
    f.underway ++ decodable (f.coming (move :: rest)) =
      f.taken move ++ ((f.next move).underway ++ decodable ((f.next move).coming rest)) := by
  have moves := next_moves attended move
  generalize f.next move = f', f.taken move = out at moves
  cases moves with
  | ignores last => simp [coming, last]
  | @delivers log more =>
    simp [underway, coming, more, delivered, decodable_append, decodable_cons, decodable_nil]
  | finishes => simp [underway, coming, delivered]
  | advances moved =>
    cases moved with
    | stays => rfl
    | sends running held room => simp [underway, held, coming, delivered]
    | takes running free first =>
      simp [underway, free, first, coming, delivered, decodable_cons]
    | ends running free done last =>
      simp [underway, free, done, coming, last, Stream.dropSender]
  | misses => simp [coming, delivered]
  | receives holds => simp [underway, holds, coming, delivered]

end Moves

section Runs

variable {f : Feed}

theorem Attended.after (attended : f.Attended) (moves : List Move) :
    (f.after moves).Attended := by
  induction moves generalizing f with
  | nil => exact attended
  | cons move rest ih => exact ih (attended.next move)

theorem capacity_after (attended : f.Attended) (moves : List Move) :
    (f.after moves).stream.capacity = f.stream.capacity := by
  induction moves generalizing f with
  | nil => rfl
  | cons move rest ih => exact (ih (attended.next move)).trans (capacity_next attended move)

/-- What was received, and behind it what is underway, is what was underway before and what the
node delivered since, in the same order. -/
theorem underway_received (attended : f.Attended) (moves : List Move) :
    f.underway ++ decodable (f.coming moves) =
      f.received moves ++ (f.after moves).underway := by
  induction moves generalizing f with
  | nil => simp [coming, delivered, decodable_nil, received, after]
  | cons move rest ih =>
    rw [underway_next attended, ih (attended.next move), received, List.append_assoc]
    rfl

theorem isLast_after (attended : f.Attended) (moves : List Move) :
    (f.after moves).isLast = true ↔ f.isLast = true ∨ .finish ∈ moves := by
  induction moves generalizing f with
  | nil => simp [after]
  | cons move rest ih =>
    have same : f.after (move :: rest) = (f.next move).after rest := rfl
    rw [same, ih (attended.next move), isLast_next attended, List.mem_cons, or_assoc,
      eq_comm (a := move)]

/-- The stream is closed exactly when the feed has ended and nothing is underway. -/
theorem Attended.poll_eq_closed_iff (attended : f.Attended) :
    f.stream.poll = .closed ↔ f.state = .ended ∧ f.underway = [] := by
  constructor
  · intro closed
    obtain ⟨empty, gone⟩ := Stream.poll_eq_closed closed
    rcases attended.stage with ⟨_, sender⟩ | ⟨ended, _, _, free, done⟩
    · omega
    · exact ⟨ended, by simp [underway, empty, free, done, decodable_nil]⟩
  · rintro ⟨ended, nothing⟩
    have gone : f.stream.senders = 0 := by
      rcases attended.stage with ⟨running, _⟩ | ⟨_, gone, _⟩
      · simp [ended] at running
      · exact gone
    have empty : f.stream.buffer = [] := by
      simp only [underway, List.append_eq_nil_iff] at nothing
      exact nothing.1.1
    simp [Stream.poll, empty, gone]

end Runs

section Rounds

variable {f : Feed}

/-- The moves that are left to make: a log is taken, sent and received, and the feed ends. -/
def workload (f : Feed) : Nat :=
  3 * f.incoming.length + 2 * f.held.toList.length + f.stream.buffer.length +
    if f.state = .running then 1 else 0

/-- Stretches of moves, in each of which the feed moves and the listener receives. -/
inductive Rounds : Nat → List Move → Prop
  | none (moves : List Move) : Rounds 0 moves
  | more {n : Nat} {first rest : List Move} (moves : .advance ∈ first)
      (receives : .receive ∈ first) (later : Rounds n rest) : Rounds (n + 1) (first ++ rest)

theorem workload_le_rounds (f : Feed) : f.workload ≤ f.rounds := by
  cases held : f.held with
  | none =>
    simp only [workload, rounds, held, Option.toList_none, List.length_nil]
    split_ifs
    all_goals omega
  | some n =>
    simp only [workload, rounds, held, Option.toList_some, List.length_singleton]
    split_ifs
    all_goals omega

/-- Without work nothing is underway, and the feed has ended. -/
theorem Attended.of_workload_eq_zero (attended : f.Attended) (nothing : f.workload = 0) :
    f.state = .ended ∧ f.underway = [] := by
  rcases attended.stage with ⟨running, _⟩ | ⟨ended, _, _, free, done⟩
  · simp [workload, running] at nothing
  · refine ⟨ended, ?_⟩
    have empty : f.stream.buffer = [] := by
      rw [← List.length_eq_zero_iff]
      simp only [workload] at nothing
      omega
    simp [underway, empty, free, done, decodable_nil]

/-- A move of the feed is progress, or it waits; with an empty stream it waits for the node only. -/
theorem Advances.workload {f' : Feed} (attended : f.Attended) (moved : f.Advances f') :
    f'.workload < f.workload ∨ f' = f ∧
      (f.isLast = true → f.stream.buffer = [] → f.workload = 0) := by
  cases moved with
  | stays waits idle =>
    refine .inr ⟨rfl, ?_⟩
    intro last empty
    have free : f.held = none := by
      cases held : f.held with
      | none => rfl
      | some n =>
        have full := waits n held
        have roomy := attended.roomy
        simp [Stream.hasRoom, empty] at full
        omega
    rcases attended.stage with ⟨running, _⟩ | ⟨ended, _, _, _, done⟩
    · have more := (idle free running).2
      simp [last] at more
    · simp [Feed.workload, empty, free, done, ended]
  | sends running held room =>
    refine .inl ?_
    simp only [Feed.workload, held, List.length_append, Option.toList_some, Option.toList_none,
      List.length_singleton, List.length_nil]
    omega
  | @takes log rest running free first =>
    refine .inl ?_
    have one : log.notification?.toList.length ≤ 1 := by
      cases log.notification? with
      | none => simp
      | some n => simp
    simp only [Feed.workload, free, first, List.length_cons, Option.toList_none, List.length_nil]
    omega
  | ends running free done last =>
    refine .inl ?_
    simp [Feed.workload, running, Stream.dropSender]

/-- Once the node's logs have ended, no move makes work. -/
theorem workload_next_le (attended : f.Attended) (last : f.isLast = true) (move : Move) :
    (f.next move).workload ≤ f.workload := by
  have moves := next_moves attended move
  generalize f.next move = f', f.taken move = out at moves
  cases moves with
  | ignores => exact Nat.le_refl _
  | delivers more => simp [last] at more
  | finishes => exact Nat.le_refl _
  | advances moved =>
    rcases moved.workload attended with less | ⟨same, _⟩
    · exact Nat.le_of_lt less
    · rw [same]
  | misses => exact Nat.le_refl _
  | receives holds =>
    simp only [workload, holds, List.length_cons]
    omega

theorem isLast_next_of_last (attended : f.Attended) (last : f.isLast = true) (move : Move) :
    (f.next move).isLast = true :=
  (isLast_next attended move).mpr (.inl last)

theorem workload_after_le (attended : f.Attended) (last : f.isLast = true) (moves : List Move) :
    (f.after moves).workload ≤ f.workload := by
  induction moves generalizing f with
  | nil => exact Nat.le_refl _
  | cons move rest ih =>
    have next_le := workload_next_le attended last move
    have rest_le := ih (attended.next move) (isLast_next_of_last attended last move)
    exact Nat.le_trans rest_le next_le

/-- What the stream holds stays there until it is received. -/
theorem buffer_next_ne_nil (attended : f.Attended) {move : Move} (other : move ≠ .receive)
    (holds : f.stream.buffer ≠ []) : (f.next move).stream.buffer ≠ [] := by
  have moves := next_moves attended move
  generalize f.next move = f', f.taken move = out at moves
  cases moves with
  | ignores => exact holds
  | delivers => exact holds
  | finishes => exact holds
  | advances moved =>
    cases moved with
    | sends => simp
    | _ => exact holds
  | misses => exact absurd rfl other
  | receives => exact absurd rfl other

theorem workload_next_receive (attended : f.Attended) (holds : f.stream.buffer ≠ []) :
    (f.next .receive).workload < f.workload := by
  have moves := next_moves attended .receive
  generalize f.next .receive = f', f.taken .receive = out at moves
  cases moves with
  | misses empty => exact absurd empty holds
  | receives held =>
    simp only [workload, held, List.length_cons]
    omega

/-- With an empty stream and no logs to come, there is nothing to do but for the feed. -/
theorem next_eq_self (attended : f.Attended) (last : f.isLast = true)
    (empty : f.stream.buffer = []) {move : Move} (other : move ≠ .advance) : f.next move = f := by
  have moves := next_moves attended move
  generalize f.next move = f', f.taken move = out at moves
  cases moves with
  | ignores => rfl
  | delivers more => simp [last] at more
  | finishes => rw [← last]
  | advances => exact absurd rfl other
  | misses => rfl
  | receives holds => simp [empty] at holds

/-- Of a stream that holds something, receiving is progress. -/
theorem workload_of_receive (attended : f.Attended) (last : f.isLast = true) {moves : List Move}
    (receives : .receive ∈ moves) (holds : f.stream.buffer ≠ []) :
    (f.after moves).workload < f.workload := by
  induction moves generalizing f with
  | nil => cases receives
  | cons move rest ih =>
    have attended' := attended.next move
    have last' := isLast_next_of_last attended last move
    by_cases now : move = .receive
    · subst now
      have less := workload_next_receive attended holds
      exact Nat.lt_of_le_of_lt (workload_after_le attended' last' rest) less
    · have later : Move.receive ∈ rest := (List.mem_cons.mp receives).resolve_left (Ne.symm now)
      have less := ih attended' last' later (buffer_next_ne_nil attended now holds)
      exact Nat.lt_of_lt_of_le less (workload_next_le attended last move)

/-- With an empty stream, moving is progress. -/
theorem workload_of_advance (attended : f.Attended) (last : f.isLast = true) {moves : List Move}
    (advances : .advance ∈ moves) (empty : f.stream.buffer = []) (work : f.workload ≠ 0) :
    (f.after moves).workload < f.workload := by
  induction moves generalizing f with
  | nil => cases advances
  | cons move rest ih =>
    have attended' := attended.next move
    have last' := isLast_next_of_last attended last move
    by_cases now : move = .advance
    · subst now
      rcases (advance_advances attended).workload attended with less | ⟨_, nothing⟩
      · exact Nat.lt_of_le_of_lt (workload_after_le attended' last' rest) less
      · exact absurd (nothing last empty) work
    · have later : Move.advance ∈ rest := (List.mem_cons.mp advances).resolve_left (Ne.symm now)
      have same : f.after (move :: rest) = f.after rest := by
        rw [after, List.foldl_cons, next_eq_self attended last empty now]
        rfl
      rw [same]
      exact ih attended last later empty work

/-- Each round is progress, until nothing is left to do. -/
theorem workload_after_rounds (attended : f.Attended) (last : f.isLast = true) {n : Nat}
    {moves : List Move} (rounds : Rounds n moves) :
    (f.after moves).workload ≤ f.workload - n := by
  induction rounds generalizing f with
  | none moves => exact workload_after_le attended last moves
  | @more n first rest advances receives _ ih =>
    have joined : f.after (first ++ rest) = (f.after first).after rest := List.foldl_append
    have later := ih (attended.after first) ((isLast_after attended first).mpr (.inl last))
    rw [joined]
    by_cases work : f.workload = 0
    · have none_left := workload_after_le attended last first
      omega
    · have less : (f.after first).workload < f.workload := by
        by_cases empty : f.stream.buffer = []
        · exact workload_of_advance attended last advances empty work
        · exact workload_of_receive attended last receives empty
      omega

end Rounds

section Records

/-- A notification and the log it comes from have records of one identity, whichever node the log
is then read from. -/
def Recognised (log : ProviderLog) (n : Notification) : Prop :=
  ∃ event, PendingEvent.ofNotification? n = some event ∧
    ∀ (p : Provider) (call : Nat → Notice → Except NotifyError Unit),
      ∃ other, Scan.eventOf? (p.answers call) log.log = some other ∧ event.sameLog other = true

theorem recognised_of_payload {l : ProviderLog} {payload : Payload}
    (decoded : l.log.payload = .ok payload) : Recognised l ⟨payload, l.log⟩ := by
  obtain ⟨event, recorded⟩ := Log.exists_event decoded
  refine ⟨event, recorded, ?_⟩
  intro p call
  refine ⟨event, ?_, PendingEvent.sameLog_self event⟩
  have answered : (p.answers call).payload l.log = .ok payload := decoded
  simp only [Scan.eventOf?, Log.kind_of_payload decoded, answered]
  exact recorded

theorem mem_decodable {logs : List ProviderLog} {n : Notification} (read : n ∈ decodable logs) :
    ∃ l ∈ logs, l.log = n.log ∧ l.log.payload = .ok n.payload := by
  obtain ⟨l, member, made⟩ := List.mem_filterMap.mp read
  cases decoded : l.log.payload with
  | error e => simp [decoded, Except.toOption] at made
  | ok payload =>
    simp only [decoded, Except.toOption, Option.map_some, Option.some.injEq] at made
    subst made
    exact ⟨l, member, rfl, decoded⟩

end Records

theorem attended_start (kind : EventKind) (buffer : Nat) : (start kind buffer).Attended where
  heard := rfl
  roomy := by
    simp only [start, Stream.start]
    omega
  fits := Nat.zero_le _
  stage := .inl ⟨rfl, rfl⟩

/-- What a listener gets of the logs that a node delivers. It receives the notifications of the
decodable ones, in their order and each once, up to those that are underway. It finds the stream
closed when the feed has seen the end of the logs and all of these are received, and only then;
behind the end of the logs this takes a bounded number of rounds. What is received is recognised
when a scan comes to its log. -/
structure Forwards (kind : EventKind) (buffer : Nat) (moves : List Move) : Prop where
  conserved : (start kind buffer).received moves ++ ((start kind buffer).after moves).underway =
    decodable (delivered moves)
  fits : ((start kind buffer).after moves).stream.buffer.length ≤ max buffer 1
  closed_iff : ((start kind buffer).after moves).stream.poll = .closed ↔
    ((start kind buffer).after moves).state = .ended ∧
      (start kind buffer).received moves = decodable (delivered moves)
  ended : ((start kind buffer).after moves).state = .ended → .finish ∈ moves
  completes : .finish ∈ moves → ∀ later, Rounds ((start kind buffer).after moves).rounds later →
    (start kind buffer).received (moves ++ later) = decodable (delivered moves) ∧
      ((start kind buffer).after (moves ++ later)).stream.poll = .closed
  recognised : ∀ n ∈ (start kind buffer).received moves,
    ∃ l ∈ delivered moves, l.log = n.log ∧ l.log.payload = .ok n.payload ∧ Recognised l n

section Starts

variable (kind : EventKind) (buffer : Nat) (moves : List Move)

theorem start_conserved :
    (start kind buffer).received moves ++ ((start kind buffer).after moves).underway =
      decodable (delivered moves) := by
  rw [← underway_received (attended_start kind buffer) moves]
  rfl

theorem start_closed_iff :
    ((start kind buffer).after moves).stream.poll = .closed ↔
      ((start kind buffer).after moves).state = .ended ∧
        (start kind buffer).received moves = decodable (delivered moves) := by
  rw [((attended_start kind buffer).after moves).poll_eq_closed_iff,
    ← start_conserved kind buffer moves, List.self_eq_append_right]

/-- A notification that was received comes from a delivered log, and is recognised there. -/
theorem received_recognised {n : Notification}
    (received : n ∈ (start kind buffer).received moves) :
    ∃ l ∈ delivered moves, l.log = n.log ∧ l.log.payload = .ok n.payload ∧ Recognised l n := by
  have among : n ∈ decodable (delivered moves) := by
    rw [← start_conserved kind buffer moves]
    exact List.mem_append_left _ received
  obtain ⟨l, came, raw, decoded⟩ := mem_decodable among
  have recognised := recognised_of_payload decoded
  rw [raw] at recognised
  exact ⟨l, came, raw, decoded, recognised⟩

/-- As many rounds as the feed asks for see through all that the node has delivered. -/
theorem start_completes {later : List Move} (finished : .finish ∈ moves)
    (rounds : Rounds ((start kind buffer).after moves).rounds later) :
    (start kind buffer).received (moves ++ later) = decodable (delivered moves) ∧
      ((start kind buffer).after (moves ++ later)).stream.poll = .closed := by
  have attended := attended_start kind buffer
  have last := (isLast_after attended moves).mpr (.inr finished)
  have joined : (start kind buffer).after (moves ++ later) =
      ((start kind buffer).after moves).after later := List.foldl_append
  have less := workload_after_rounds (attended.after moves) last rounds
  have enough := workload_le_rounds ((start kind buffer).after moves)
  have nothing : ((start kind buffer).after (moves ++ later)).workload = 0 := by
    rw [joined]
    omega
  obtain ⟨ended, none_left⟩ := (attended.after (moves ++ later)).of_workload_eq_zero nothing
  have all := start_conserved kind buffer (moves ++ later)
  rw [none_left, List.append_nil] at all
  refine ⟨?_, (start_closed_iff kind buffer (moves ++ later)).mpr ⟨ended, all⟩⟩
  rw [all, delivered_append finished]

/-- A feed forwards exactly the decodable logs, whatever its stream's capacity and however the
node, the feed and the listener take turns. -/
theorem feed_forwards_decodable : Forwards kind buffer moves where
  conserved := start_conserved kind buffer moves
  fits := by
    have attended := attended_start kind buffer
    have room := (attended.after moves).fits
    rw [capacity_after attended moves] at room
    exact room
  closed_iff := start_closed_iff kind buffer moves
  ended := by
    intro ended
    have attended := attended_start kind buffer
    have last : ((start kind buffer).after moves).isLast = true := by
      rcases (attended.after moves).stage with ⟨running, _⟩ | ⟨_, _, last, _⟩
      · simp [ended] at running
      · exact last
    simpa [start] using (isLast_after attended moves).mp last
  completes := fun finished _ rounds => start_completes kind buffer moves finished rounds
  recognised := fun _ received => received_recognised kind buffer moves received

end Starts

section Purchases

def alternating (n : Nat) : List Move := (List.replicate n [Move.advance, .receive]).flatten

theorem alternating_rounds (n : Nat) : Rounds n (alternating n) := by
  induction n with
  | zero => exact .none _
  | succ n ih =>
    rw [alternating, List.replicate_succ, List.flatten_cons]
    exact .more List.mem_cons_self (List.mem_cons_of_mem _ List.mem_cons_self) ih

/-- Two purchases are forwarded through a stream that has room for one; a log without topics
between them is dropped, and the stream closes behind them. -/
theorem both_purchases_forwarded :
    let moves : List Move := [.deliver indexedRecord, .deliver { indexedRecord with topics := [] },
      .deliver { indexedRecord with block := some 101 }, .finish]
    let whole := moves ++ alternating 12
    Forwards .purchase 1 moves ∧
      (start .purchase 1).received whole =
        [⟨.purchase ⟨0xbeef⟩ 7, indexedLog⟩,
          ⟨.purchase ⟨0xbeef⟩ 7, { indexedLog with block := 101 }⟩] ∧
      ((start .purchase 1).after whole).stream.poll = .closed := by
  intro moves whole
  have forwards := feed_forwards_decodable .purchase 1 moves
  have finished : Move.finish ∈ moves := by simp [moves]
  obtain ⟨received, closed⟩ := forwards.completes finished _ (alternating_rounds 12)
  exact ⟨forwards, received.trans rfl, closed⟩

end Purchases

end Feed

end StarWatch
