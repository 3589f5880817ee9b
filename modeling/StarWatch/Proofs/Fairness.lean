import StarWatch.Proofs.Numerals
import StarWatch.Proofs.Precedence

/-!
# Streams take their turns

A look in turn starts behind the stream that gave something last, so a stream
that has something for a look lies some number of places ahead of where the look
starts. A step that another stream ends has found that one nearer, and moves the
start behind it; so fewer places lie ahead with every step, whatever is sent to
the streams or closed between steps. With `n` streams no stream waits for more
than `n - 1` notifications of others. `checkedStep?` is a step in which each
remainder and each place is checked, and it comes to the same.
-/

namespace StarWatch

/-- What a stream has for a look: its oldest notification, or that it is closed and drained. -/
inductive Stream.Offer where
  | notification (n : Notification)
  | closing

def Stream.offer? (s : Stream) : Option Offer :=
  match s.buffer with
  | n :: _ => some (.notification n)
  | [] => if s.senders = 0 then some .closing else none

def Move.opens : Move → Bool
  | subscribe _ => true
  | _ => false

/-- The stream at a place lies some number of places ahead of where a look in turn starts. -/
structure Reactor.Ahead (r : Reactor) (index places : Nat) : Prop where
  within : places < r.streams.length
  reached : (r.cursor + places) % r.streams.length = index

/-- A step whose look comes to a stream that is closed and drained, before it comes to any other
that has something. It fails with the stream's kind, and changes nothing. -/
def Moment.ClosedAt (m : Moment) (index : Nat) : Prop :=
  ∃ s, Stream.ComesFirst m.before.streams
      (Reactor.turnOrder m.before.streams.length m.before.cursor) index s ∧
    s.buffer = [] ∧ s.senders = 0 ∧
    m.turn.outcome = .failed (.subscriptionClosed s.kind) ∧ m.turn.reactor = m.before

/-- A step that takes what a stream has: it handles the notification, or fails since the stream is
closed. -/
def Moment.Delivers (m : Moment) (index : Nat) : Stream.Offer → Prop
  | .notification n => ∃ answer, m.Handles ⟨index, n, answer⟩
  | .closing => m.ClosedAt index

/-- A step that passes a stream by: it handles one notification of another stream. -/
structure Moment.PassesBy (settings : Settings) (m : Moment) (index : Nat) : Prop where
  handles : ∃ receipt, m.Handles receipt ∧ receipt.index ≠ index
  tickless : ∀ answers, ¬ m.Ticks settings answers

/-- A remainder; there is none by zero. -/
def remainder? (a b : Nat) : Option Nat := if b = 0 then none else some (a % b)

def Stream.checkedPoll? (streams : List Stream) : List Nat → Option Ready
  | [] => some .nothing
  | i :: others => do
    let s ← streams[i]?
    match s.poll with
    | .item n rest => some (.item i n rest)
    | .closed => some (.closed s.kind)
    | .empty => checkedPoll? streams others

namespace Reactor

def checkedWake? (r : Reactor) : Option Turn :=
  if r.streams.isEmpty then
    some { outcome := .failed .notSubscribed, reactor := r, requests := [] }
  else do
    match ← Stream.checkedPoll? r.streams (List.range r.streams.length) with
    | .nothing => some { outcome := .waiting, reactor := r, requests := [] }
    | .closed kind =>
      some { outcome := .failed (.subscriptionClosed kind), reactor := r, requests := [] }
    | .item index n rest => some (r.receive index n rest)

def checkedStep? (settings : Settings) (answers : Answers) (r : Reactor) : Option Turn := do
  let count := r.streams.length
  let places ← (List.range count).mapM fun offset => remainder? (r.cursor + offset) count
  match ← Stream.checkedPoll? r.streams places with
  | .closed kind =>
    some { outcome := .failed (.subscriptionClosed kind), reactor := r, requests := [] }
  | .item index n rest => do
    let cursor ← remainder? (index + 1) count
    some ({ r with cursor }.receive index n rest)
  | .nothing => if r.queue.isEmpty then r.checkedWake? else some (r.tick settings answers)

end Reactor

section Offers

variable {s : Stream} {offer : Stream.Offer}

theorem Stream.offer?_eq_none : s.offer? = none ↔ s.poll = .empty := by
  rw [poll_eq_empty]
  cases held : s.buffer with
  | nil => simp [offer?, held]
  | cons n left => simp [offer?, held]

theorem Stream.offer?_of_item {n : Notification} {rest : Stream} (polled : s.poll = .item n rest) :
    s.offer? = some (.notification n) := by
  obtain ⟨left, oldest, _⟩ := poll_eq_item polled
  simp [offer?, oldest]

theorem Stream.offer?_of_closed (polled : s.poll = .closed) : s.offer? = some .closing := by
  obtain ⟨drained, left⟩ := poll_eq_closed polled
  simp [offer?, drained, left]

/-- What a stream has for a look stays the first that it has, whatever is sent to it. -/
theorem Stream.offer?_send (offers : s.offer? = some offer) (n : Notification) :
    ((s.send? n).getD s).offer? = some offer := by
  simp only [send?]
  split
  · rename_i accepted
    cases held : s.buffer with
    | nil => simp [offer?, held, Nat.pos_iff_ne_zero.mp accepted.1] at offers
    | cons oldest left => simpa [offer?, held] using offers
  · exact offers

theorem Stream.offer?_addSender (offers : s.offer? = some offer) :
    s.addSender.offer? = some offer := by
  simp only [addSender]
  split
  · exact offers
  · rename_i open_still
    cases held : s.buffer with
    | nil => simp [offer?, held, open_still] at offers
    | cons oldest left => simpa [offer?, held] using offers

theorem Stream.offer?_dropSender (offers : s.offer? = some offer) :
    s.dropSender.offer? = some offer := by
  cases held : s.buffer with
  | nil =>
    by_cases open_still : s.senders = 0
    · simpa [offer?, dropSender, held, open_still] using offers
    · simp [offer?, held, open_still] at offers
  | cons oldest left => simpa [offer?, dropSender, held] using offers

end Offers

namespace Reactor

variable {r : Reactor} {index places : Nat} {s : Stream} {offer : Stream.Offer}

theorem getElem?_turnOrder {count cursor offset place : Nat}
    (there : (turnOrder count cursor)[offset]? = some place) :
    offset < count ∧ (cursor + offset) % count = place := by
  obtain ⟨within, found⟩ := List.getElem?_eq_some_iff.mp there
  simp only [turnOrder, List.length_map, List.length_range] at within
  refine ⟨within, ?_⟩
  rw [← found]
  simp [turnOrder]

theorem exists_ahead (cursor : Nat) (within : index < r.streams.length) :
    ∃ places, { r with cursor }.Ahead index places := by
  obtain ⟨offset, there⟩ := List.mem_iff_getElem?.mp (mem_turnOrder cursor within)
  obtain ⟨near, reached⟩ := getElem?_turnOrder there
  exact ⟨offset, near, reached⟩

/-- Of what comes first, no more places lie ahead than of a stream that has something. With as
many it is the same stream. -/
theorem Ahead.exists_first (ahead : r.Ahead index places) (there : r.streams[index]? = some s)
    (offers : s.offer? = some offer) {place : Nat} {s' : Stream}
    (first : Stream.ComesFirst r.streams (turnOrder r.streams.length r.cursor) place s') :
    ∃ nearer, r.Ahead place nearer ∧ (place ≠ index → nearer < places) := by
  obtain ⟨before, after, split, silent⟩ := first.ahead
  have found : (turnOrder r.streams.length r.cursor)[before.length]? = some place := by
    rw [split]
    simp
  obtain ⟨within, reached⟩ := getElem?_turnOrder found
  refine ⟨before.length, ⟨within, reached⟩, ?_⟩
  intro other
  by_contra not_nearer
  rcases Nat.lt_or_eq_of_le (Nat.le_of_not_lt not_nearer) with earlier | same
  · have passed : before[places]? = some index := by
      have order : (turnOrder r.streams.length r.cursor)[places]? = some index := by
        have inside : places < r.streams.length := ahead.within
        simp [turnOrder, inside, ahead.reached]
      rw [split, List.getElem?_append_left earlier] at order
      exact order
    have empty := silent index (List.mem_of_getElem? passed) s there
    rw [Stream.offer?_eq_none.mpr empty] at offers
    cases offers
  · apply other
    rw [← reached, ← ahead.reached, same]

/-- Behind the stream that was taken from, fewer places lie ahead. -/
theorem Ahead.move (ahead : r.Ahead index places) {place nearer : Nat}
    (taken : r.Ahead place nearer) (near : nearer < places) {left : Reactor}
    (cursor : left.cursor = (place + 1) % r.streams.length)
    (count : left.streams.length = r.streams.length) :
    left.Ahead index (places - nearer - 1) := by
  have within := ahead.within
  constructor
  · rw [count]
    omega
  · have whole : r.cursor + nearer + (1 + (places - nearer - 1)) = r.cursor + places := by omega
    rw [count, cursor, ← taken.reached, Nat.mod_add_mod, Nat.add_assoc, Nat.mod_add_mod, whole]
    exact ahead.reached

structure Waits (r : Reactor) (index : Nat) (offer : Stream.Offer) (places : Nat) : Prop where
  ahead : r.Ahead index places
  offers : ∃ s, r.streams[index]? = some s ∧ s.offer? = some offer

theorem exists_waits (offers : ∃ s, r.streams[index]? = some s ∧ s.offer? = some offer) :
    ∃ places, places ≤ r.streams.length - 1 ∧ r.Waits index offer places := by
  have within : index < r.streams.length := by
    obtain ⟨s, there, _⟩ := offers
    exact (List.getElem?_eq_some_iff.mp there).1
  obtain ⟨places, ahead⟩ := exists_ahead r.cursor within
  have near : places < r.streams.length := ahead.within
  exact ⟨places, by omega, ahead, offers⟩

/-- Before a waiting stream a look comes to one with fewer places ahead, or to the waiting one. -/
theorem Waits.looks (waits : r.Waits index offer places) :
    ∃ place s nearer,
      Stream.ComesFirst r.streams (turnOrder r.streams.length r.cursor) place s ∧
        r.Ahead place nearer ∧ (place ≠ index → nearer < places) ∧
        (place = index → s.offer? = some offer) ∧
        ((∃ n rest, s.poll = .item n rest ∧
            Stream.pollAt r.streams (turnOrder r.streams.length r.cursor) = .item place n rest) ∨
          (s.poll = .closed ∧
            Stream.pollAt r.streams (turnOrder r.streams.length r.cursor) = .closed s.kind)) := by
  obtain ⟨s, there, offers⟩ := waits.offers
  rcases Stream.pollAt_cases r.streams (turnOrder r.streams.length r.cursor) with
    nothing | ⟨place, s', first, found⟩
  · have within : index < r.streams.length := (List.getElem?_eq_some_iff.mp there).1
    have empty := Stream.pollAt_eq_nothing.mp nothing index (mem_turnOrder r.cursor within) s there
    rw [Stream.offer?_eq_none.mpr empty] at offers
    cases offers
  · obtain ⟨nearer, taken, near⟩ := waits.ahead.exists_first there offers first
    refine ⟨place, s', nearer, first, taken, near, ?_, found⟩
    rintro rfl
    cases there.symm.trans first.there
    exact offers

section Steps

variable (settings : Settings) (answers : Answers) {place : Nat}

/-- A step whose look finds a notification handles it, and the next look starts behind. -/
theorem step_handles {n : Notification} {rest : Stream}
    (found : r.look (.step answers) = .item place n rest) :
    let m : Moment := ⟨.step answers, r, r.step settings answers⟩
    (∃ answer, m.Handles ⟨place, n, answer⟩) ∧ (∀ answers, ¬ m.Ticks settings answers) ∧
      m.turn.reactor.cursor = (place + 1) % r.streams.length ∧
      m.turn.reactor.streams = r.streams.set place rest := by
  intro m
  have received : m = ⟨.step answers, r,
      { r with cursor := (place + 1) % r.streams.length }.receive place n rest⟩ := by
    simp only [m, step_item settings answers found]
  have unasking : m.turn.requests = [] := by
    rw [received]
    rfl
  refine ⟨received ▸ receive_handles found, ?_, ?_, ?_⟩
  · intro answers ticks
    exact r.tick_asks settings answers (ticks.turn ▸ unasking)
  · rw [received, receive_cursor]
  · rw [received, receive_streams]

/-- A step whose look finds a closed stream fails. -/
theorem step_closed
    (first : Stream.ComesFirst r.streams (turnOrder r.streams.length r.cursor) place s)
    (polled : s.poll = .closed) (found : r.look (.step answers) = .closed s.kind) :
    Moment.ClosedAt ⟨.step answers, r, r.step settings answers⟩ place := by
  have failed : r.step settings answers =
      { outcome := .failed (.subscriptionClosed s.kind), reactor := r, requests := [] } := by
    simp only [look] at found
    simp only [step, found]
  obtain ⟨drained, left⟩ := Stream.poll_eq_closed polled
  rw [failed]
  exact ⟨s, first, drained, left, rfl, rfl⟩

/-- A step takes what a waiting stream has, or another stream is closed, or it passes the stream by
and brings its turn nearer. -/
theorem Waits.step (waits : r.Waits index offer places) :
    let m : Moment := ⟨.step answers, r, r.step settings answers⟩
    m.Delivers index offer ∨ (∃ other, other ≠ index ∧ m.ClosedAt other) ∨
      m.PassesBy settings index ∧ m.turn.outcome ≠ .waiting ∧
        ∃ nearer, nearer < places ∧ m.turn.reactor.Waits index offer nearer := by
  intro m
  obtain ⟨place, s, nearer, first, taken, near, same_offer, found⟩ := waits.looks
  rcases found with ⟨n, rest, polled, looked⟩ | ⟨polled, looked⟩
  · obtain ⟨⟨answer, handles⟩, tickless, cursor, streams⟩ := step_handles settings answers looked
    by_cases same : place = index
    · left
      cases (Stream.offer?_of_item polled).symm.trans (same_offer same)
      exact ⟨answer, same ▸ handles⟩
    · right
      right
      obtain ⟨s', there, offers⟩ := waits.offers
      have kept : m.turn.reactor.streams[index]? = some s' := by
        rw [streams, List.getElem?_set_ne same]
        exact there
      have count : m.turn.reactor.streams.length = r.streams.length := by
        rw [streams, List.length_set]
      have sooner := near same
      refine ⟨⟨⟨_, handles, same⟩, tickless⟩, ?_, places - nearer - 1, ?_, ?_⟩
      · rw [handles.answered]
        exact Outcome.noConfusion
      · omega
      · exact ⟨waits.ahead.move taken sooner cursor count, s', kept, offers⟩
  · have closed := step_closed settings answers first polled looked
    by_cases same : place = index
    · left
      cases (Stream.offer?_of_closed polled).symm.trans (same_offer same)
      exact same ▸ closed
    · right
      left
      exact ⟨place, same, closed⟩

end Steps

def Placed (r : Reactor) : Prop := r.cursor = 0 ∨ r.cursor < r.streams.length

theorem Placed.below (placed : r.Placed) (some_there : 0 < r.streams.length) :
    r.cursor < r.streams.length := by
  rcases placed with first | below
  · omega
  · exact below

theorem Placed.acts {settings : Settings} {move : Move} {turn : Turn} (placed : r.Placed)
    (acts : Acts settings r move (r.look move) turn) : turn.reactor.Placed := by
  generalize found : r.look move = ready at acts
  cases acts with
  | closed | unsubscribed | waited => exact placed
  | looked =>
    rw [Placed, tick_cursor, tick_streams]
    exact placed
  | received index n rest =>
    obtain ⟨s, left, there, _⟩ := look_item found
    have within : index < r.streams.length := (List.getElem?_eq_some_iff.mp there).1
    rw [Placed, receive_cursor, receive_streams, List.length_set]
    cases move with
    | step answers => exact .inr (Nat.mod_lt _ (by omega))
    | _ => exact placed

end Reactor

namespace Watch

variable {settings : Settings} {w : Watch} {move : Move}

theorem placed_next (placed : w.reactor.Placed) : (w.next settings move).reactor.Placed := by
  cases took : w.turn? settings move with
  | some turn =>
    simp only [next, took]
    exact placed.acts (turn?_acts took)
  | none =>
    simp only [next, took]
    cases move with
    | step | wake => exact placed
    | subscribe openStream =>
      obtain ⟨opened, same⟩ := w.reactor.subscribeAll_frame settings openStream
      simp only [outside, same, Reactor.Placed, List.length_append]
      rcases placed with first | below
      · exact .inl first
      · exact .inr (by omega)
    | send | addSender | dropSender =>
      simpa only [outside, onStream, Reactor.Placed, List.length_modify] using placed

theorem placed_after (placed : w.reactor.Placed) (moves : List Move) :
    (w.after settings moves).reactor.Placed := by
  induction moves generalizing w with
  | nil => exact placed
  | cons move rest ih => exact ih (placed_next placed)

/-- What is done to one stream from outside leaves what every stream has for a look. -/
theorem onStream_waits {index place places : Nat} {offer : Stream.Offer}
    (waits : w.reactor.Waits index offer places) {change : Stream → Stream}
    (keeps : ∀ s offer, s.offer? = some offer → (change s).offer? = some offer) :
    (w.onStream place change).reactor.Waits index offer places := by
  obtain ⟨s, there, offers⟩ := waits.offers
  refine ⟨⟨?_, ?_⟩, ?_⟩
  · simpa only [onStream, List.length_modify] using waits.ahead.within
  · simpa only [onStream, List.length_modify] using waits.ahead.reached
  · by_cases here : place = index
    · subst here
      refine ⟨change s, ?_, keeps s offer offers⟩
      simp [onStream, there]
    · refine ⟨s, ?_, offers⟩
      simp only [onStream]
      rw [List.getElem?_modify_ne _ _ here]
      exact there

theorem outside_waits {index places : Nat} {offer : Stream.Offer}
    (waits : w.reactor.Waits index offer places) (keeps : move.opens = false) :
    (w.outside settings move).reactor.Waits index offer places := by
  cases move with
  | step | wake => exact waits
  | subscribe openStream => cases keeps
  | send place n => exact onStream_waits waits fun _ _ offers => Stream.offer?_send offers n
  | addSender place => exact onStream_waits waits fun _ _ => Stream.offer?_addSender
  | dropSender place => exact onStream_waits waits fun _ _ => Stream.offer?_dropSender

end Watch

/-- Steps that come to a stream in turn. Some number of them at most pass it by, and the one behind
these takes what the stream has, unless it fails since another stream is closed. -/
def InTurn (settings : Settings) (index : Nat) (offer : Stream.Offer) (most : Nat)
    (steps : List Moment) : Prop :=
  ∃ passed later, steps = passed ++ later ∧ passed.length ≤ most ∧
    (∀ m ∈ passed, m.PassesBy settings index) ∧
    ∀ m ∈ later.head?, m.Delivers index offer ∨ ∃ other, other ≠ index ∧ m.ClosedAt other

section Turns

variable {settings : Settings} {index places : Nat} {offer : Stream.Offer}

theorem InTurn.ended {m : Moment} (later : List Moment)
    (ends : m.Delivers index offer ∨ ∃ other, other ≠ index ∧ m.ClosedAt other) :
    InTurn settings index offer places (m :: later) := by
  refine ⟨[], m :: later, rfl, Nat.zero_le _, by simp, ?_⟩
  intro m' first
  cases first
  exact ends

theorem InTurn.passed {m : Moment} {steps : List Moment} {nearer : Nat}
    (passes : m.PassesBy settings index) (near : nearer < places)
    (inTurn : InTurn settings index offer nearer steps) :
    InTurn settings index offer places (m :: steps) := by
  obtain ⟨passed, later, split, short, others, ends⟩ := inTurn
  refine ⟨m :: passed, later, ?_, ?_, List.forall_mem_cons.mpr ⟨passes, others⟩, ends⟩
  · rw [split, List.cons_append]
  · rw [List.length_cons]
    omega

theorem InTurn.mono {steps : List Moment} {most : Nat}
    (inTurn : InTurn settings index offer places steps) (more : places ≤ most) :
    InTurn settings index offer most steps := by
  obtain ⟨passed, later, split, short, others, ends⟩ := inTurn
  exact ⟨passed, later, split, short.trans more, others, ends⟩

/-- The steps of a run come to a waiting stream, by induction on the moves: every step that passes
it by leaves fewer places ahead. -/
theorem Watch.history_inTurn {w : Watch} {moves : List Move} (resting : w.waiting = false)
    (waits : w.reactor.Waits index offer places)
    (keeps : ∀ move ∈ moves, move.opens = false) :
    InTurn settings index offer places (w.history settings moves) := by
  induction moves generalizing w places with
  | nil => exact ⟨[], [], rfl, Nat.zero_le _, by simp, by simp⟩
  | cons move rest ih =>
    obtain ⟨first, others⟩ := List.forall_mem_cons.mp keeps
    cases took : w.turn? settings move with
    | none =>
      have next : w.next settings move = w.outside settings move := by simp only [next, took]
      simp only [history, took, next]
      apply ih _ (outside_waits waits first) others
      cases move with
      | subscribe => cases first
      | _ => exact resting
    | some turn =>
      cases move with
      | step answers =>
        cases took
        simp only [history, turn?]
        rcases waits.step settings answers with
          delivers | elsewhere | ⟨passes, goes_on, nearer, near, waits'⟩
        · exact .ended _ (.inl delivers)
        · exact .ended _ (.inr elsewhere)
        · exact .passed passes near (ih (decide_eq_false goes_on) waits' others)
      | wake =>
        rw [turn?, resting] at took
        cases took
      | _ => cases took

end Turns

section Checks

variable {streams : List Stream}

theorem Stream.checkedPoll?_eq {places : List Nat} (there : ∀ i ∈ places, i < streams.length) :
    checkedPoll? streams places = some (pollAt streams places) := by
  induction places with
  | nil => rfl
  | cons i rest ih =>
    obtain ⟨first, others⟩ := List.forall_mem_cons.mp there
    simp only [checkedPoll?, pollAt, List.getElem?_eq_getElem first, Option.bind_eq_bind,
      Option.bind_some]
    cases streams[i].poll with
    | item | closed => rfl
    | empty => exact ih others

theorem mapM_remainder? (count cursor : Nat) :
    (List.range count).mapM (fun offset => remainder? (cursor + offset) count) =
      some (Reactor.turnOrder count cursor) := by
  have divides : ∀ offset ∈ List.range count,
      remainder? (cursor + offset) count = some ((cursor + offset) % count) := by
    intro offset inside
    have within := List.mem_range.mp inside
    exact if_neg (by omega)
  have items := Numeral.mapM_map_eq_some id (fun offset => remainder? (cursor + offset) count)
    (fun offset => (cursor + offset) % count) divides
  rw [List.map_id] at items
  exact items

theorem Reactor.checkedWake?_eq (r : Reactor) : r.checkedWake? = some r.wake := by
  have looked : Stream.checkedPoll? r.streams (List.range r.streams.length) =
      some (Stream.pollAt r.streams (List.range r.streams.length)) :=
    Stream.checkedPoll?_eq fun i inside => List.mem_range.mp inside
  simp only [checkedWake?, wake, looked, Option.bind_eq_bind, Option.bind_some]
  split
  · rfl
  · cases Stream.pollAt r.streams (List.range r.streams.length) with
    | nothing | closed | item => rfl

theorem Reactor.checkedStep?_eq (settings : Settings) (answers : Answers) (r : Reactor) :
    r.checkedStep? settings answers = some (r.step settings answers) := by
  have inside : ∀ i ∈ turnOrder r.streams.length r.cursor, i < r.streams.length := by
    intro i looked
    obtain ⟨offset, within, rfl⟩ := List.mem_map.mp looked
    have within := List.mem_range.mp within
    exact Nat.mod_lt _ (by omega)
  simp only [checkedStep?, step, mapM_remainder?, Stream.checkedPoll?_eq inside,
    Option.bind_eq_bind, Option.bind_some]
  cases found : Stream.pollAt r.streams (turnOrder r.streams.length r.cursor) with
  | closed kind => rfl
  | item index n rest =>
    have looked : r.look (.step answers) = .item index n rest := found
    obtain ⟨s, _, there, _⟩ := look_item looked
    have within : index < r.streams.length := (List.getElem?_eq_some_iff.mp there).1
    have divides : remainder? (index + 1) r.streams.length =
        some ((index + 1) % r.streams.length) := if_neg (by omega)
    simp only [divides, Option.bind_some]
  | nothing =>
    simp only [checkedWake?_eq]
    split
    · rfl
    · rfl

/-- A step without streams has nothing to look at. -/
theorem Reactor.step_unsubscribed (settings : Settings) (answers : Answers) {r : Reactor}
    (without : r.streams = []) :
    r.step settings answers = if r.queue.isEmpty then
      { outcome := .failed .notSubscribed, reactor := r, requests := [] }
      else r.tick settings answers := by
  have nothing : Stream.pollAt r.streams (turnOrder r.streams.length r.cursor) = .nothing := by
    rw [without]
    exact Stream.pollAt_nil _
  simp only [step, nothing, wake]
  rw [without]
  rfl

end Checks

/-- How the streams of a reactor take turns. A stream that has something for a step is passed by at
most once for each other stream, whatever is sent or closed between the steps; and no step takes a
remainder by zero, or looks at a place without a stream. -/
structure Reactor.TakesTurns (settings : Settings) (r : Reactor) : Prop where
  served : ∀ index offer moves, (∃ s, r.streams[index]? = some s ∧ s.offer? = some offer) →
    (∀ move ∈ moves, move.opens = false) →
    InTurn settings index offer (r.streams.length - 1)
      (Watch.history settings { reactor := r, waiting := false } moves)
  placed : (r.cursor = 0 ∨ r.cursor < r.streams.length) → ∀ waiting moves,
    let left := (Watch.after settings { reactor := r, waiting } moves).reactor
    0 < left.streams.length → left.cursor < left.streams.length
  checked : ∀ answers, r.checkedStep? settings answers = some (r.step settings answers) ∧
    r.checkedWake? = some r.wake
  unsubscribed : r.streams = [] → ∀ answers, r.step settings answers =
    if r.queue.isEmpty then { outcome := .failed .notSubscribed, reactor := r, requests := [] }
    else r.tick settings answers

/-- The streams of every reactor take turns: none that has something waits for more notifications
of others than there are other streams. -/
theorem streams_take_turns (settings : Settings) (r : Reactor) : r.TakesTurns settings where
  served index offer moves offers keeps := by
    obtain ⟨places, short, waits⟩ := Reactor.exists_waits offers
    have resting : (Watch.mk r false).waiting = false := rfl
    exact (Watch.history_inTurn resting waits keeps).mono short
  placed placed waiting moves := by
    intro left
    have start : (Watch.mk r waiting).reactor.Placed := placed
    exact (Watch.placed_after start moves).below
  checked answers := ⟨r.checkedStep?_eq settings answers, r.checkedWake?_eq⟩
  unsubscribed without answers := r.step_unsubscribed settings answers without

/-- Two notifications wait at one stream and a purchase at another, and more are sent to the first
between the steps. -/
def crowded : Reactor :=
  (subscribed.after purchaseSettings [.send 2 purchaseNotification, .send 2 purchaseNotification,
    .send 4 purchaseNotification]).reactor

def crowding : List Move :=
  [.step purchase.answers, .send 2 purchaseNotification, .step purchase.answers]

/-- The purchase is passed by once, and then handled. -/
theorem purchase_handled_in_turn :
    let w : Watch := { reactor := crowded, waiting := false }
    (∃ s, crowded.streams[4]? = some s ∧ s.offer? = some (.notification purchaseNotification)) ∧
      (∀ move ∈ crowding, move.opens = false) ∧
      InTurn purchaseSettings 4 (.notification purchaseNotification) 4
        (w.history purchaseSettings crowding) ∧
      (w.receipts purchaseSettings crowding).map Receipt.index = [2, 4] ∧
      crowded.cursor = 0 ∧ (w.after purchaseSettings crowding).reactor.cursor < 5 := by
  intro w
  have offers : ∃ s, crowded.streams[4]? = some s ∧
      s.offer? = some (.notification purchaseNotification) := ⟨_, rfl, rfl⟩
  have keeps : ∀ move ∈ crowding, move.opens = false := by
    intro move member
    simp only [crowding, List.mem_cons, List.not_mem_nil, or_false] at member
    rcases member with rfl | rfl | rfl <;> rfl
  have turns := streams_take_turns purchaseSettings crowded
  refine ⟨offers, keeps, turns.served 4 _ crowding offers keeps, rfl, rfl, ?_⟩
  exact turns.placed (.inl rfl) false crowding (by decide)

end StarWatch
