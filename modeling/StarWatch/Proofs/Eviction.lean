import StarWatch.Proofs.Reconcile
import StarWatch.Proofs.Sighting

/-!
# Evictions and the scans before them

A tick scans, then evicts what has more than `depth` confirmations. `retires`
names the entries that a visit of the scan took out of the queue, because it
called for their log or found it removed. A scan that went through its whole
response has retired every entry of a log that is deep enough or removed, so
the eviction takes only what was not returned. A scan that was stopped has not,
and the eviction comes all the same.
-/

namespace StarWatch

theorem Word.Aged.deep {block latest : Word} {depth : Nat} (aged : block.Aged latest depth) :
    block.Deep latest depth :=
  ⟨aged.1, Nat.le_of_lt aged.2⟩

namespace Scan

/-- Whether a visit called for the log of an entry, or took the entry back for a removed log. -/
def Visit.retires (answers : Answers) (entry : PendingEvent) (v : Visit) : Bool :=
  match eventOf? answers v.log with
  | some event => entry.sameLog event && (event.removed || !v.calls.isEmpty)
  | none => false

section Retiring

variable {answers : Answers} {latest : Word} {depth : Nat}

/-- A visit drops the entries that it retires, and no others. -/
theorem Visit.Sound.entries_after {v : Visit} (sound : v.Sound answers latest depth) :
    v.after.queue.entries =
      v.before.queue.entries.filter fun entry => !v.retires answers entry := by
  have called := sound.calls_eq
  obtain ⟨meant, settled⟩ := sound
  rw [settled, settle_queue]
  simp only [Visit.retires, called]
  generalize v.verdict = verdict at meant
  cases meant with
  | ignored unread | undecodable unread => simp [unread, Verdict.leaves]
  | removed read gone => simp [read, gone, Verdict.leaves, Queue.removeMatching]
  | pending read stands | untracked read stands | unavailable read stands =>
    simp [read, stands, Verdict.leaves, Verdict.requests]
  | @confirmed event time read stands =>
    obtain ⟨notice, sent⟩ := exists_notice event time
    simp [read, stands, Verdict.leaves, Queue.removeMatching, Verdict.requests, sent]

variable {p final : Pass} {logs : List Log} {visited : List Visit} {stop : Option PipelineError}

theorem Course.entries_retired (h : Course answers latest depth p logs visited final stop) :
    final.queue.entries =
      p.queue.entries.filter fun entry => !visited.any (Visit.retires answers entry) :=
  h.entries_filtered (fun v entry => v.retires answers entry)
    fun v hv => (h.sound v hv).entries_after

end Retiring

end Scan

/-- A tick as a step of a run. -/
def Reactor.ticking (settings : Settings) (answers : Answers) (r : Reactor) : Moment :=
  { move := .step answers, before := r, turn := r.tick settings answers }

namespace Moment

variable (settings : Settings) (answers : Answers) (latest : Word) (m : Moment)

def scan : ScanOutcome := StarWatch.scan settings answers latest m.before.queue m.before.metrics

/-- What a tick at a height evicts: the leftovers of its scan. -/
def evicted : List PendingEvent :=
  (m.scan settings answers latest).pass.queue.leftovers latest settings.depth

def retires (entry : PendingEvent) : Bool :=
  (m.visits settings answers latest).any (Scan.Visit.retires answers entry)

theorem scan_entries :
    (m.scan settings answers latest).pass.queue.entries =
      m.before.queue.entries.filter fun entry => !m.retires settings answers latest entry := by
  simp only [scan, retires, visits]
  cases answered : answers.logs settings.contract m.before.queue.firstBlock with
  | error e =>
    rw [Scan.scan_refused latest m.before.metrics answered]
    simp [Scan.opening]
  | ok logs =>
    obtain ⟨stop, went⟩ := Scan.course_of_answered latest m.before.metrics answered
    exact went.entries_retired

variable {settings answers latest m}

end Moment

namespace Reactor

section Ticks

variable (settings : Settings) (r : Reactor) {answers : Answers} {latest : Word}

/-- A tick keeps the entries that its scan did not retire and that have not aged. -/
theorem ticking_entries (height : answers.height = .ok latest) :
    (r.ticking settings answers).turn.reactor.queue.entries = r.queue.entries.filter fun entry =>
      !(r.ticking settings answers).retires settings answers latest entry &&
        !entry.isLeftover latest settings.depth := by
  obtain ⟨_, queue, _⟩ := r.tick_read settings height
  have left : (r.ticking settings answers).turn.reactor.queue.entries =
      ((r.ticking settings answers).scan settings answers latest).pass.queue.entries.filter
        fun entry => !entry.isLeftover latest settings.depth := congrArg Queue.entries queue
  rw [left, Moment.scan_entries, List.filter_filter]
  apply List.filter_congr
  intro entry _
  rw [Bool.and_comm]

end Ticks

end Reactor

section Purchases

def awaiting : Reactor := (purchase.queuing subscribed 4).turn.reactor

theorem awaiting_entries : awaiting.queue.entries = [purchase.event] :=
  (purchase.calling_ticks subscribed_idle).1

theorem mem_awaiting : purchase.event ∈ awaiting.queue.entries := by simp [awaiting_entries]

end Purchases

end StarWatch
