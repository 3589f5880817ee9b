import Mathlib.Data.List.Perm.Subperm
import StarWatch.Proofs.Eviction
import StarWatch.Proofs.Notices
import StarWatch.Proofs.Ordering
import StarWatch.Proofs.Receipts

/-!
# Where entries come from

Nothing gets into the queue but the events of live notifications, each when its
notification is handled, and nothing changes an entry there. So the entries of a
run's queue are among the events that were handled, as often as they were at
most. An event tells its notification, which is why its entries are not more
than the times that this one notification was handled.
-/

namespace StarWatch

def Notification.standing? (n : Notification) : Option PendingEvent :=
  (PendingEvent.ofNotification? n).filter fun e => !e.removed

/-- The entries of a queue are in order, and each stands for a notification of its own. -/
structure Queue.Stems (q : Queue) (handled : List Notification) : Prop where
  sorted : q.Sorted
  drawn : q.entries.Subperm (handled.filterMap Notification.standing?)

namespace Queue.Stems

variable {q q' : Queue} {handled : List Notification} {n : Notification}

theorem empty : Queue.empty.Stems [] := ⟨List.Pairwise.nil, List.nil_subperm⟩

/-- Entries may go, and more may have been handled. -/
theorem sublist (stems : q.Stems handled) (kept : q'.entries.Sublist q.entries)
    (later : List Notification) : q'.Stems (handled ++ later) where
  sorted := stems.sorted.sublist kept
  drawn := by
    rw [List.filterMap_append]
    exact (kept.subperm.trans stems.drawn).trans (List.sublist_append_left _ _).subperm

theorem insert (stems : q.Stems handled) {e : PendingEvent}
    (read : PendingEvent.ofNotification? n = some e) (stands : e.removed = false) :
    (q.insert e).Stems (handled ++ [n]) where
  sorted := stems.sorted.change (.insert e)
  drawn := by
    have standing : n.standing? = some e := by
      rw [Notification.standing?, read, Option.filter_some, if_pos (by rw [stands]; rfl)]
    rw [List.filterMap_append, List.filterMap_cons_some standing, List.filterMap_nil]
    have placed : (q.insert e).entries.Perm (q.entries ++ [e]) :=
      (perm_place e q.entries).trans (List.perm_append_singleton e q.entries).symm
    exact placed.subperm.trans (stems.drawn.append (List.Subperm.refl [e]))

theorem handling (stems : q.Stems handled) {answer : Step}
    (handling : Handling q n answer q') : q'.Stems (handled ++ [n]) := by
  cases handling with
  | queued read stands => exact stems.insert read stands
  | purged => exact stems.sublist List.filter_sublist [n]
  | ignored => exact stems.sublist (List.Sublist.refl _) [n]

end Queue.Stems

/-- A tick only takes entries out. -/
theorem Reactor.tick_sublist (settings : Settings) (answers : Answers) (r : Reactor) :
    (r.tick settings answers).reactor.queue.entries.Sublist r.queue.entries := by
  cases height : answers.height with
  | error e =>
    rw [r.tick_unread settings height]
  | ok latest =>
    have left := r.ticking_entries settings height
    exact left ▸ List.filter_sublist

namespace Watch

variable (settings : Settings) {w : Watch} {handled : List Notification}

theorem stems_next (stems : w.reactor.queue.Stems handled) (move : Move) :
    (w.next settings move).reactor.queue.Stems
      (handled ++ ((w.receipt? settings move).toList.map Receipt.notification)) := by
  cases took : w.turn? settings move with
  | none =>
    simp only [next, took, outside_queue]
    exact stems.sublist (List.Sublist.refl _) _
  | some turn =>
    simp only [next, receipt?, took, Option.bind_some]
    cases (turn?_acts took).draws with
    | handled handles =>
      rw [handles.noted]
      exact stems.handling handles.handling
    | failed _ _ same | waited _ _ same =>
      dsimp only at same
      rw [same]
      exact stems.sublist (List.Sublist.refl _) _
    | ticked _ ticks =>
      have turn := ticks.turn
      dsimp only at turn
      rw [turn]
      exact stems.sublist (w.reactor.tick_sublist settings _) _

theorem stems_after (stems : w.reactor.queue.Stems handled) (moves : List Move) :
    (w.after settings moves).reactor.queue.Stems
      (handled ++ (w.receipts settings moves).map Receipt.notification) := by
  induction moves generalizing w handled with
  | nil => exact stems.sublist (List.Sublist.refl _) _
  | cons move rest ih =>
    have later := ih (stems_next settings stems move)
    rw [receipts_cons, List.map_append, ← List.append_assoc]
    exact later

end Watch

namespace Payload

/-- Only a star that is put up for sale has a price. -/
theorem price_of_kind_ne {p : Payload} (other : p.kind ≠ .putForSale) : p.price = 0 := by
  cases p with
  | putForSale => exact absurd rfl other
  | _ => rfl

theorem coordinates_of_kind_ne {p : Payload} (other : p.kind ≠ .create) : p.coordinates = "" := by
  cases p with
  | create => exact absurd rfl other
  | _ => rfl

theorem name_of_kind_ne {p : Payload} (other : p.kind ≠ .create) (other' : p.kind ≠ .changeName) :
    p.name = "" := by
  cases p with
  | create => exact absurd rfl other
  | changeName => exact absurd rfl other'
  | _ => rfl

end Payload

/-- What the event of a log keeps of the log and of its payload. -/
theorem PendingEvent.ofLog?_payload {payload : Payload} {log : Log} {event : PendingEvent}
    (made : ofLog? payload log = some event) :
    event.topics = log.topics ∧ event.kind = payload.kind ∧ event.name = payload.name ∧
      event.coordinates = payload.coordinates ∧ event.price = ⟨payload.price⟩ ∧
      event.confirmedAt = none := by
  simp only [ofLog?] at made
  split at made
  · cases made
  · split at made
    · rename_i same
      cases made
      exact ⟨rfl, same.symm, rfl, rfl, rfl, rfl⟩
    · cases made

/-- Events tell their notifications: no two notifications have the same one. -/
theorem Notification.eq_of_event {n n' : Notification} {event : PendingEvent}
    (read : PendingEvent.ofNotification? n = some event)
    (read' : PendingEvent.ofNotification? n' = some event) : n = n' := by
  obtain ⟨p, a⟩ := n
  obtain ⟨q, b⟩ := n'
  have payload : p = q := by
    have told := PendingEvent.notice?_of_ofLog? read ⟨0, 0⟩
    rw [PendingEvent.notice?_of_ofLog? read' ⟨0, 0⟩] at told
    exact (Payload.notice_eq_iff.mp (Option.some.inj told).symm).1
  have identity : a.identity p = b.identity q :=
    (PendingEvent.ofLog?_identity read).1.symm.trans (PendingEvent.ofLog?_identity read').1
  have removed : a.removed = b.removed :=
    (PendingEvent.ofLog?_fields read).2.symm.trans (PendingEvent.ofLog?_fields read').2
  have log : a = b := by
    have agrees : { a with removed := b.removed } = b := Log.agrees_of_identity_eq identity
    rw [← removed] at agrees
    exact agrees
  rw [payload, log]

/-- An entry as the record of a notification that was handled. It is not there more often than that,
and its kind is the one that its topic 0 names. -/
structure Queue.Records (q : Queue) (handled : List Notification) (e : PendingEvent) : Prop where
  stands : e.removed = false
  unstamped : e.confirmedAt = none
  origin : ∃ n ∈ handled, PendingEvent.ofNotification? n = some e ∧
    q.entries.count e ≤ handled.count n
  kind : e.topics.head?.bind EventKind.ofSignature? = some e.kind
  price : e.kind ≠ .putForSale → e.price = .zero
  coordinates : e.kind ≠ .create → e.coordinates = ""
  name : e.kind ≠ .create → e.kind ≠ .changeName → e.name = ""

/-- Entries that stem from notifications are records of them. -/
theorem Queue.Stems.records {q : Queue} {handled : List Notification} (stems : q.Stems handled)
    {e : PendingEvent} (member : e ∈ q.entries) : q.Records handled e := by
  obtain ⟨n, during, standing⟩ := List.mem_filterMap.mp (stems.drawn.subset member)
  obtain ⟨read, stands⟩ := Option.filter_eq_some_iff.mp standing
  obtain ⟨topics, kind, name, coordinates, price, unstamped⟩ := PendingEvent.ofLog?_payload read
  have often : q.entries.count e ≤ handled.count n := by
    have drawn := stems.drawn.count_le e
    rw [List.count_filterMap] at drawn
    refine drawn.trans (List.countP_mono_left ?_)
    intro n' _ same
    obtain ⟨read', _⟩ := Option.filter_eq_some_iff.mp (eq_of_beq same)
    exact beq_iff_eq.mpr (Notification.eq_of_event read' read)
  have named := (PendingEvent.ofLog?_identity read).2
  constructor
  · simpa using stands
  · exact unstamped
  · exact ⟨n, during, read, often⟩
  · rw [topics]
    exact named
  · intro other
    rw [price, Payload.price_of_kind_ne (kind ▸ other)]
    rfl
  · intro other
    rw [coordinates, Payload.coordinates_of_kind_ne (kind ▸ other)]
  · intro other other'
    rw [name, Payload.name_of_kind_ne (kind ▸ other) (kind ▸ other')]

/-- In every state that a reactor comes to, its queue is in order and records what was handled. -/
theorem queue_records_what_was_handled (settings : Settings) (moves : List Move) :
    let queue := (Watch.start.after settings moves).reactor.queue
    let handled := (Watch.start.receipts settings moves).map Receipt.notification
    queue.Sorted ∧ ∀ e ∈ queue.entries, queue.Records handled e := by
  have fresh : Watch.start.reactor.queue.Stems [] := Queue.Stems.empty
  have stems := Watch.stems_after settings fresh moves
  rw [List.nil_append] at stems
  exact ⟨stems.sorted, fun e member => stems.records member⟩

/-- A purchase that awaits its confirmation is the record of its notification. -/
theorem awaiting_purchase_recorded :
    let moves := [.subscribe purchaseChain.openStream, .send 4 purchaseNotification,
      .step purchase.answers]
    let queue := (Watch.start.after purchaseSettings moves).reactor.queue
    let handled := (Watch.start.receipts purchaseSettings moves).map Receipt.notification
    purchase.event ∈ queue.entries ∧ queue.Records handled purchase.event := by
  intro moves queue handled
  have reached : queue = awaiting.queue := rfl
  have member : purchase.event ∈ queue.entries := reached ▸ mem_awaiting
  exact ⟨member, (queue_records_what_was_handled purchaseSettings moves).2 _ member⟩

end StarWatch
