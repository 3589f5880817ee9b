import StarWatch.Proofs.Run
import StarWatch.Rehearsal

/-!
# Sightings

The shortest way to a downstream call. A live notification reaches a reactor
that has nothing pending and nothing to receive; one step queues its event, and
the next finds the log on the chain, deep enough, and calls. The reactor is then
idle as it was, so the same sighting can come again.
-/

namespace StarWatch

/-- Nothing is pending or to be received, and a stream has room for a notification. -/
structure Watch.Idle (w : Watch) (index : Nat) : Prop where
  unpending : w.reactor.queue = .empty
  quiet : ∀ s ∈ w.reactor.streams, s.poll = .empty
  room : ∃ s, w.reactor.streams[index]? = some s ∧ 0 < s.capacity

/-- A notification of a log that stands, and a chain that returns it when it is deep enough. -/
structure Sighting (settings : Settings) where
  notification : Notification
  event : PendingEvent
  answers : Answers
  latest : Word
  time : Instant
  read : PendingEvent.ofNotification? notification = some event
  stands : event.removed = false
  height : answers.height = .ok latest
  returned : answers.logs settings.contract event.block = .ok [notification.log]
  decoded : answers.payload notification.log = .ok notification.payload
  deep : event.block.Deep latest settings.depth
  timed : Scan.blockTime answers 0 event.block = .ok time

namespace Stream

theorem poll_eq_empty {s : Stream} : s.poll = .empty ↔ s.buffer = [] ∧ s.senders ≠ 0 := by
  simp only [poll]
  split
  · simp_all
  · split <;> simp_all

/-- The only stream that has something is found wherever the look starts. -/
theorem pollAt_eq_item {streams : List Stream} {places : List Nat} {index : Nat} {s rest : Stream}
    {n : Notification} (looked : index ∈ places) (there : streams[index]? = some s)
    (found : s.poll = .item n rest)
    (others : ∀ j ≠ index, ∀ s, streams[j]? = some s → s.poll = .empty) :
    pollAt streams places = .item index n rest := by
  induction places with
  | nil => cases looked
  | cons i later ih =>
    simp only [pollAt]
    by_cases here : i = index
    · rw [here, there]
      simp only [found]
    · have looked : index ∈ later := (List.mem_cons.mp looked).resolve_left (Ne.symm here)
      cases at_i : streams[i]? with
      | none => exact ih looked
      | some s =>
        simp only [others i here s at_i]
        exact ih looked

end Stream

/-- A notification that is sent to an idle reactor is what a look finds, and taking it leaves the
streams as they were. -/
theorem Watch.Idle.offered {w : Watch} {index : Nat} (idle : w.Idle index) (settings : Settings)
    (n : Notification) :
    let r := (w.next settings (.send index n)).reactor
    ∃ rest, Stream.pollAt r.streams (Reactor.turnOrder r.streams.length r.cursor) =
        .item index n rest ∧
      r.streams.set index rest = w.reactor.streams := by
  obtain ⟨s, there, room⟩ := idle.room
  obtain ⟨empty, held⟩ := Stream.poll_eq_empty.mp (idle.quiet s (List.mem_of_getElem? there))
  have sent : s.send? n = some { s with buffer := [n] } := by
    rw [Stream.send?, if_pos ⟨Nat.pos_of_ne_zero held, by simpa [Stream.hasRoom, empty]⟩]
    simp [empty]
  intro r
  have streams : r.streams = w.reactor.streams.modify index fun s => (s.send? n).getD s := rfl
  have offered : r.streams[index]? = some { s with buffer := [n] } := by
    rw [streams, List.getElem?_modify_eq, there]
    simp [sent]
  have others : ∀ j ≠ index, ∀ s, r.streams[j]? = some s → s.poll = .empty := by
    intro j away s at_j
    rw [streams, List.getElem?_modify_ne _ _ (Ne.symm away)] at at_j
    exact idle.quiet s (List.mem_of_getElem? at_j)
  have within : index < r.streams.length := (List.getElem?_eq_some_iff.mp offered).1
  have drained : ({ s with buffer := [] } : Stream) = s := by
    rw [← empty]
  refine ⟨s, Stream.pollAt_eq_item (Reactor.mem_turnOrder _ within) offered
    (congrArg (Stream.Poll.item n) drained) others, ?_⟩
  apply List.ext_getElem?
  intro j
  by_cases here : index = j
  · subst here
    rw [List.getElem?_set_self within, there]
  · rw [List.getElem?_set_ne here, streams, List.getElem?_modify_ne _ _ here]

namespace Sighting

variable {settings : Settings} (x : Sighting settings) (w : Watch) (index : Nat)

def moves : List Move :=
  [.send index x.notification, .step x.answers, .step x.answers]

def queuing : Moment :=
  let before := (w.next settings (.send index x.notification)).reactor
  { move := .step x.answers, before, turn := before.step settings x.answers }

def calling : Moment :=
  let before := (x.queuing w index).turn.reactor
  { move := .step x.answers, before, turn := before.step settings x.answers }

def notice : Notice := ((x.event.stamp x.time).notice?).get rfl

theorem notice_eq : (x.event.stamp x.time).notice? = some x.notice := rfl

theorem history_eq : w.history settings (x.moves index) = [x.queuing w index, x.calling w index] :=
  rfl

/-- The chain's log is read as the event that the notification told. -/
theorem read_from_chain : Scan.eventOf? x.answers x.notification.log = some x.event := by
  have read := x.read
  have tracked : ∃ kind, x.notification.log.kind? = some kind := by
    simp only [PendingEvent.ofNotification?, PendingEvent.ofLog?] at read
    split at read
    · cases read
    · exact ⟨_, ‹_›⟩
  obtain ⟨kind, tracked⟩ := tracked
  simp only [Scan.eventOf?, tracked, x.decoded]
  exact read

variable {w index}

/-- The notification is received, and its event is all that is then pending. -/
theorem queuing_receives (idle : w.Idle index) :
    let m := x.queuing w index
    m.before.taken? m.move = some x.notification ∧
      (∃ cursor rest,
        m.turn = { m.before with cursor }.receive index x.notification rest ∧
          m.before.streams.set index rest = w.reactor.streams) ∧
      m.before.queue = .empty := by
  obtain ⟨rest, found, restored⟩ := idle.offered settings x.notification
  have taken : (x.queuing w index).before.taken? (.step x.answers) = some x.notification :=
    congrArg Stream.Ready.notification? found
  have received := Reactor.step_item settings x.answers found
  exact ⟨taken, ⟨_, rest, received, restored⟩, idle.unpending⟩

/-- The chain is looked at next, with the event alone in the queue. -/
theorem calling_ticks (idle : w.Idle index) :
    let m := x.calling w index
    m.before.queue.entries = [x.event] ∧ m.before.streams = w.reactor.streams ∧
      m.turn = m.before.tick settings x.answers := by
  obtain ⟨_, ⟨cursor, rest, turn, streams⟩, unpending⟩ := x.queuing_receives idle
  have before : (x.calling w index).before = (x.queuing w index).turn.reactor := rfl
  have held : (x.calling w index).before.queue.entries = [x.event] := by
    rw [before, turn]
    simp [Reactor.receive, Reactor.handle, x.read, Reactor.handleEvent, x.stands, unpending,
      Queue.insert, Queue.empty, Queue.place]
  have same : (x.calling w index).before.streams = w.reactor.streams := by
    rw [before, turn, ← streams]
    simp [Reactor.receive, Reactor.handle, x.read, Reactor.handleEvent, x.stands]
  have quiet : Stream.pollAt (x.calling w index).before.streams
      (Reactor.turnOrder (x.calling w index).before.streams.length
        (x.calling w index).before.cursor) = .nothing := by
    rw [Stream.pollAt_eq_nothing]
    intro i _ s at_i
    rw [same] at at_i
    exact idle.quiet s (List.mem_of_getElem? at_i)
  have pending : (x.calling w index).before.queue.isEmpty = false := by
    simp [Queue.isEmpty, held]
  exact ⟨held, same, Reactor.step_nothing settings x.answers quiet pending⟩

/-- The look finds the log and confirms its event. -/
theorem calling_visits (idle : w.Idle index) :
    let m := x.calling w index
    let p := Scan.opening settings m.before.queue m.before.metrics [x.notification.log]
    m.visits settings x.answers x.latest =
        [⟨x.notification.log, .confirmed x.event x.time, p,
          p.settle x.answers (.confirmed x.event x.time)⟩] ∧
      (scan settings x.answers x.latest m.before.queue m.before.metrics).pass =
        p.settle x.answers (.confirmed x.event x.time) := by
  obtain ⟨held, _, _⟩ := x.calling_ticks idle
  have first : (x.calling w index).before.queue.firstBlock = x.event.block := by
    simp [Queue.firstBlock, held]
  have returned := x.returned
  rw [← first] at returned
  have present : (x.calling w index).before.queue.contains x.event = true :=
    Queue.contains_of_mem (by simp [held])
  have judged : Scan.judge x.answers x.latest settings.depth (x.calling w index).before.queue 0
      x.notification.log = .confirmed x.event x.time := by
    rw [Scan.judge_of_present x.read_from_chain x.stands x.deep present, x.timed]
  constructor
  · simp only [Moment.visits, returned, Scan.visits, Scan.opening, ScanReport.start, judged,
      Verdict.stop?]
  · simp only [scan, returned, Scan.settleAll, Scan.opening, ScanReport.start, judged]

/-- The look asks for the height, the logs and the block, calls, and leaves nothing pending. -/
theorem calling_turn (idle : w.Idle index) :
    let m := x.calling w index
    m.turn.requests = [.height, .logs settings.contract x.event.block, .block x.event.block,
        .call x.notice] ∧
      m.turn.reactor.queue = .empty := by
  obtain ⟨held, _, ticked⟩ := x.calling_ticks idle
  obtain ⟨_, pass⟩ := x.calling_visits idle
  obtain ⟨_, queue, requests⟩ := (x.calling w index).before.tick_read settings x.height
  have first : (x.calling w index).before.queue.firstBlock = x.event.block := by
    simp [Queue.firstBlock, held]
  rw [← ticked, pass, Scan.settle_confirmed x.answers _ x.notice_eq] at queue requests
  constructor
  · rw [requests, Scan.opening, first]
    rfl
  · rw [queue]
    simp [Scan.opening, Queue.removeMatching, Queue.evict, held, PendingEvent.sameLog, Queue.empty]

/-- A sighting can be repeated. -/
theorem idle_after (idle : w.Idle index) : (w.after settings (x.moves index)).Idle index := by
  obtain ⟨_, same, ticked⟩ := x.calling_ticks idle
  have reached : (w.after settings (x.moves index)).reactor = (x.calling w index).turn.reactor :=
    rfl
  have streams : (x.calling w index).turn.reactor.streams = w.reactor.streams := by
    rw [ticked, Reactor.tick_streams, same]
  constructor
  · rw [reached]
    exact (x.calling_turn idle).2
  · rw [reached, streams]
    exact idle.quiet
  · rw [reached, streams]
    exact idle.room

end Sighting

section Purchases

def purchaseLog : Log :=
  { address := ⟨0x5a⟩, topics := [EventKind.purchase.signature], data := [], block := 100
    blockHash := default, txHash := default, txIndex := 0, logIndex := 0, removed := false }

def purchaseNotification : Notification :=
  { payload := .purchase ⟨0xbeef⟩ 7, log := purchaseLog }

/-- A chain ten blocks above the purchase. -/
def purchaseChain : Chain :=
  { Chain.start with height := 110, logs := [(purchaseLog, some purchaseNotification.payload)] }

def purchaseSettings : Settings :=
  { contract := ⟨0x5a⟩, depth := 10, pollSeconds := 15, buffer := 256 }

/-- A purchase that is notified and then found ten blocks deep. -/
def purchase : Sighting purchaseSettings where
  notification := purchaseNotification
  event := (PendingEvent.ofNotification? purchaseNotification).get rfl
  answers := purchaseChain.answers
  latest := 110
  time := ⟨1600001200, 0⟩
  read := rfl
  stands := rfl
  height := rfl
  returned := rfl
  decoded := rfl
  deep := by decide
  timed := rfl

def subscribed : Watch :=
  Watch.start.after purchaseSettings [.subscribe purchaseChain.openStream]

theorem subscribed_idle : subscribed.Idle 4 := by
  have streams : subscribed.reactor.streams =
      EventKind.all.map fun kind => Stream.start kind Chain.streamCapacity := rfl
  constructor
  · rfl
  · intro s hs
    rw [streams] at hs
    obtain ⟨kind, _, rfl⟩ := List.mem_map.mp hs
    rfl
  · exact ⟨_, rfl, by decide⟩

end Purchases

end StarWatch
