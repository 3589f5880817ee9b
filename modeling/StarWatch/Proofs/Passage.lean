import StarWatch.Proofs.Receipts

/-!
# What passes through the streams

A stream is fed and left from outside, and emptied by the steps. Along a run,
what a stream held and accepted is what was handled of it, in the same order,
and behind that what it still holds.
-/

namespace StarWatch

def Receipt.ofStream (index : Nat) (receipts : List Receipt) : List Notification :=
  (receipts.filter fun receipt => receipt.index = index).map notification

theorem Receipt.ofStream_append (index : Nat) (first later : List Receipt) :
    ofStream index (first ++ later) = ofStream index first ++ ofStream index later := by
  simp only [ofStream, List.filter_append, List.map_append]

/-- What the stream at a place holds; nothing where there is no stream. -/
def Stream.heldAt (streams : List Stream) (index : Nat) : List Notification :=
  streams[index]?.elim [] buffer

namespace Watch

def held (w : Watch) (index : Nat) : List Notification := Stream.heldAt w.reactor.streams index

def kinds (w : Watch) : List EventKind := w.reactor.streams.map Stream.kind

/-- What a move brings into the stream at a place: a notification that is sent to it and accepted,
or what it holds already when it is opened. -/
def brought (settings : Settings) (index : Nat) (w : Watch) (move : Move) : List Notification :=
  match move, w.reactor.streams[index]? with
  | .send place n, some s => if place = index ∧ (s.send? n).isSome then [n] else []
  | .subscribe _, none => (w.next settings move).held index
  | _, _ => []

def accepted (settings : Settings) (index : Nat) : Watch → List Move → List Notification
  | _, [] => []
  | w, move :: rest =>
    w.brought settings index move ++ accepted settings index (w.next settings move) rest

def handled (settings : Settings) (index : Nat) (w : Watch) (moves : List Move) :
    List Notification :=
  Receipt.ofStream index (w.receipts settings moves)

end Watch

section Streams

variable {settings : Settings} {streams : List Stream} {index place : Nat}

theorem Stream.map_kind_modify {change : Stream → Stream}
    (keeps : ∀ s, (change s).kind = s.kind) :
    (streams.modify place change).map kind = streams.map kind := by
  apply List.ext_getElem?
  intro j
  rw [List.getElem?_map, List.getElem?_map, List.getElem?_modify]
  cases streams[j]? with
  | none => rfl
  | some s =>
    by_cases here : place = j
    · simp [here, keeps]
    · simp [here]

theorem Stream.map_kind_set {s : Stream} (s' : Stream) (there : streams[place]? = some s)
    (same : s'.kind = s.kind) : (streams.set place s').map kind = streams.map kind := by
  apply List.ext_getElem?
  intro j
  rw [List.getElem?_map, List.getElem?_map, List.getElem?_set]
  by_cases here : place = j
  · subst here
    obtain ⟨within, at_place⟩ := List.getElem?_eq_some_iff.mp there
    simp [within, at_place, same]
  · simp [here]

theorem Stream.kind_send (n : Notification) (s : Stream) :
    ((s.send? n).getD s).kind = s.kind := by
  simp only [send?]
  split
  · rfl
  · rfl

theorem Stream.kind_addSender (s : Stream) : s.addSender.kind = s.kind := by
  simp only [addSender]
  split
  · rfl
  · rfl

theorem Stream.heldAt_set {s : Stream} (within : place < streams.length) :
    heldAt (streams.set place s) index =
      if place = index then s.buffer else heldAt streams index := by
  simp only [heldAt, List.getElem?_set]
  by_cases here : place = index
  · subst here
    simp [within]
  · simp [here]

theorem Stream.heldAt_modify (change : Stream → Stream) :
    heldAt (streams.modify place change) index =
      if place = index then streams[index]?.elim [] fun s => (change s).buffer
      else heldAt streams index := by
  simp only [heldAt, List.getElem?_modify]
  by_cases here : place = index
  · cases streams[index]? with
    | none => simp [here]
    | some s => simp [here]
  · simp [here]

theorem Stream.buffer_addSender (s : Stream) : s.addSender.buffer = s.buffer := by
  simp only [addSender]
  split
  · rfl
  · rfl

theorem Stream.buffer_send (s : Stream) (n : Notification) :
    ((s.send? n).getD s).buffer = s.buffer ++ if (s.send? n).isSome then [n] else [] := by
  simp only [send?]
  split
  · rfl
  · simp

/-- A step takes from a stream what its receipt says, from the front. -/
theorem Moment.Draws.held {m : Moment} (draws : m.Draws settings) (index : Nat) :
    Stream.heldAt m.before.streams index =
      Receipt.ofStream index m.receipt?.toList ++
        Stream.heldAt m.turn.reactor.streams index := by
  cases draws with
  | failed nothing _ same | waited nothing _ same =>
    rw [nothing, same]
    rfl
  | ticked nothing _ same =>
    rw [nothing, same]
    rfl
  | @handled receipt handles =>
    obtain ⟨s, left, there, oldest, drawn⟩ := handles.drawn
    have within : receipt.index < m.before.streams.length :=
      (List.getElem?_eq_some_iff.mp there).1
    rw [handles.noted, drawn, Stream.heldAt_set within]
    by_cases here : receipt.index = index
    · subst here
      simp [Stream.heldAt, there, oldest, Receipt.ofStream]
    · simp [here, Receipt.ofStream]

namespace Watch

variable {w : Watch} {move : Move}

/-- From outside a stream only gains what is brought, at its end. -/
theorem held_outside (outer : w.turn? settings move = none) (index : Nat) :
    (w.outside settings move).held index = w.held index ++ w.brought settings index move := by
  cases move with
  | step => cases outer
  | wake => simp [outside, brought]
  | send place n =>
    simp only [outside, onStream, held, Stream.heldAt_modify, Stream.buffer_send, brought]
    by_cases here : place = index
    · cases there : w.reactor.streams[index]? with
      | none => simp [here, Stream.heldAt, there]
      | some s => simp [here, Stream.heldAt, there]
    · cases w.reactor.streams[index]? with
      | none => simp [here]
      | some s => simp [here]
  | addSender place =>
    simp only [outside, onStream, held, Stream.heldAt_modify, Stream.buffer_addSender, brought,
      List.append_nil]
    exact ite_id _
  | dropSender place =>
    simp only [outside, onStream, held, Stream.heldAt_modify, Stream.dropSender, brought,
      List.append_nil]
    exact ite_id _
  | subscribe openStream =>
    cases there : w.reactor.streams[index]? with
    | none => simp [brought, there, held, Stream.heldAt, next, turn?]
    | some s =>
      have within : index < w.reactor.streams.length := (List.getElem?_eq_some_iff.mp there).1
      obtain ⟨opened, same⟩ := w.reactor.subscribeAll_frame settings openStream
      simp only [outside, held, Stream.heldAt, brought, same,
        List.getElem?_append_left within, there, List.append_nil]

/-- A step brings nothing. -/
theorem brought_of_turn? {turn : Turn} (took : w.turn? settings move = some turn) (index : Nat) :
    w.brought settings index move = [] := by
  cases move with
  | step | wake => rfl
  | _ => cases took

theorem handled_cons (index : Nat) (w : Watch) (move : Move) (rest : List Move) :
    w.handled settings index (move :: rest) =
      Receipt.ofStream index (w.receipt? settings move).toList ++
        (w.next settings move).handled settings index rest := by
  rw [handled, receipts_cons, Receipt.ofStream_append]
  rfl

/-- A move brings into a stream at its end, and takes from its front what its receipt says. -/
theorem held_next (index : Nat) (w : Watch) (move : Move) :
    w.held index ++ w.brought settings index move =
      Receipt.ofStream index (w.receipt? settings move).toList ++
        (w.next settings move).held index := by
  cases took : w.turn? settings move with
  | none =>
    simp only [next, receipt?, took]
    exact (held_outside took index).symm
  | some turn =>
    rw [brought_of_turn? took, List.append_nil]
    simp only [next, receipt?, took]
    exact (turn?_acts took).draws.held index

/-- What a stream held and accepted is what was handled of it, in the same order, and behind that
what it still holds. -/
theorem held_accepted (index : Nat) (w : Watch) (moves : List Move) :
    w.held index ++ w.accepted settings index moves =
      w.handled settings index moves ++ (w.after settings moves).held index := by
  induction moves generalizing w with
  | nil => exact List.append_nil _
  | cons move rest ih =>
    let first := Receipt.ofStream index (w.receipt? settings move).toList
    let w' := w.next settings move
    calc w.held index ++ w.accepted settings index (move :: rest)
        = (w.held index ++ w.brought settings index move) ++ w'.accepted settings index rest :=
          (List.append_assoc ..).symm
      _ = first ++ (w'.held index ++ w'.accepted settings index rest) := by
          rw [held_next, List.append_assoc]
      _ = (first ++ w'.handled settings index rest) ++ (w'.after settings rest).held index := by
          rw [ih, List.append_assoc]
      _ = w.handled settings index (move :: rest) ++
            (w.after settings (move :: rest)).held index := by
          rw [handled_cons]
          rfl

/-- Streams stay in their places and keep their kinds; new ones come behind them. -/
theorem kinds_next (settings : Settings) (w : Watch) (move : Move) :
    w.kinds <+: (w.next settings move).kinds := by
  cases took : w.turn? settings move with
  | some turn =>
    simp only [next, took, kinds]
    cases (turn?_acts took).draws with
    | failed _ _ same | waited _ _ same => rw [same]
    | ticked _ _ same => rw [same]
    | handled handles =>
      obtain ⟨s, left, there, _, drawn⟩ := handles.drawn
      dsimp only at there drawn
      rw [drawn, Stream.map_kind_set { s with buffer := left } there rfl]
  | none =>
    simp only [next, took, kinds]
    cases move with
    | step => cases took
    | wake => exact List.prefix_refl _
    | send place n =>
      simp only [outside, onStream, Stream.map_kind_modify (Stream.kind_send n), List.prefix_refl]
    | addSender place =>
      simp only [outside, onStream, Stream.map_kind_modify Stream.kind_addSender, List.prefix_refl]
    | dropSender place =>
      have keeps (s : Stream) : s.dropSender.kind = s.kind := rfl
      simp only [outside, onStream, Stream.map_kind_modify keeps, List.prefix_refl]
    | subscribe openStream =>
      obtain ⟨opened, same⟩ := w.reactor.subscribeAll_frame settings openStream
      simp only [outside, same, List.map_append]
      exact List.prefix_append _ _

theorem kinds_after (settings : Settings) (w : Watch) (moves : List Move) :
    w.kinds <+: (w.after settings moves).kinds := by
  induction moves generalizing w with
  | nil => exact List.prefix_refl _
  | cons move rest ih => exact (kinds_next settings w move).trans (ih (w.next settings move))

/-- A notification that a stream does not accept changes nothing. -/
theorem next_send_of_rejected (settings : Settings) (w : Watch) {n : Notification}
    (rejected : ∀ s, w.reactor.streams[index]? = some s → s.send? n = none) :
    w.next settings (.send index n) = w := by
  have unchanged : w.reactor.streams.modify index (fun s => (s.send? n).getD s) =
      w.reactor.streams := by
    apply List.ext_getElem?
    intro j
    rw [List.getElem?_modify]
    by_cases here : index = j
    · subst here
      cases there : w.reactor.streams[index]? with
      | none => rfl
      | some s => simp [rejected s there]
    · simp [here]
  simp only [next, turn?, outside, onStream, unchanged]

end Watch

end Streams

/-- How a run passes notifications on. Of each stream, what it held and accepted is what was
handled, in the same order, and behind that what it still holds. A notification that no stream
accepts changes nothing. -/
structure Watch.PassesOn (settings : Settings) (w : Watch) (moves : List Move) : Prop where
  conserved : ∀ index, w.held index ++ w.accepted settings index moves =
    w.handled settings index moves ++ (w.after settings moves).held index
  draws : ∀ moment ∈ w.history settings moves, moment.Draws settings
  rejected : ∀ index n,
    (∀ s, (w.after settings moves).reactor.streams[index]? = some s → s.send? n = none) →
    (w.after settings moves).next settings (.send index n) = w.after settings moves
  placed : w.kinds <+: (w.after settings moves).kinds

/-- No run loses, repeats or reorders the notifications of a stream, however its steps interleave
with what happens at the streams. -/
theorem streams_lose_nothing (settings : Settings) (w : Watch) (moves : List Move) :
    w.PassesOn settings moves where
  conserved index := w.held_accepted index moves
  draws moment during := (Watch.history_acts moment during).draws
  rejected _ _ full := Watch.next_send_of_rejected settings _ full
  placed := w.kinds_after settings moves

end StarWatch
