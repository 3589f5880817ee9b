import Mathlib.Data.List.Basic
import StarWatch.Keepalive

/-!
# When the keepalive task ends

A schedule lists what wakes the task and what happens to its channel. Which
look ends the task can be read off the schedule alone: the first one behind the
timer's first tick that sees the value `true`, or no value and no sender. Up to
that look the task makes one request on every tick but the first, and behind it
none, whatever the node answers.
-/

namespace StarWatch

namespace Keepalive

def Event.isTick : Event → Bool
  | .tick _ => true
  | _ => false

def Event.unanswered : Event → Event
  | .tick _ => .tick (.ok 0)
  | e => e

section Schedules

variable (events : List Event) (i : Nat)

def Sends (stop : Bool) : Prop :=
  events[i]? = some (.set stop) ∧ ∀ j < i, events[j]? ≠ some .disconnect

/-- The task is woken by its channel; before the first tick it does not wait there. -/
def Looks : Prop :=
  events[i]? = some .look ∧ ∃ j < i, ∃ answer, events[j]? = some (.tick answer)

/-- The last value that was sent before a place, if no look has seen it there. -/
def Unseen (stop : Bool) : Prop :=
  ∃ j < i, Sends events j stop ∧ ∀ k, j < k → k < i → ¬ Looks events k ∧ ∀ v, ¬ Sends events k v

def AllSeen : Prop := ∀ j < i, ∀ v, Sends events j v → ∃ k, j < k ∧ k < i ∧ Looks events k

/-- A look ends the task: it sees the value `true`, or that the sender is gone. -/
def Ends : Prop :=
  Looks events i ∧
    (Unseen events i true ∨ AllSeen events i ∧ ∃ j < i, events[j]? = some .disconnect)

def reached : Keepalive := start.run (events.take i)

end Schedules

/-- How a task stands in a schedule. The channel shows the last value until the task has seen it. -/
structure Stands (events : List Event) (n : Nat) (k : Keepalive) : Prop where
  connected : k.connected = true ↔ ∀ j < n, events[j]? ≠ some .disconnect
  started : k.started = true ↔ ∃ j < n, ∃ answer, events[j]? = some (.tick answer)
  finished : k.finished = true ↔ ∃ i < n, Ends events i
  shown : k.finished = false → if k.changed then Unseen events n k.stop else AllSeen events n
  requests : k.finished = false → k.requests = (events.take n).countP Event.isTick - 1

section Channel

variable {events : List Event} {n : Nat} {v : Bool}

theorem Unseen.unique {w : Bool} (one : Unseen events n v) (other : Unseen events n w) : v = w := by
  obtain ⟨i, hi, sent, lasts⟩ := one
  obtain ⟨j, hj, sent', lasts'⟩ := other
  rcases Nat.lt_trichotomy i j with before | rfl | behind
  · exact absurd sent' ((lasts j before hj).2 w)
  · have same := sent.1.symm.trans sent'.1
    simpa using same
  · exact absurd sent ((lasts' i behind hi).2 v)

theorem Unseen.not_allSeen (unseen : Unseen events n v) : ¬ AllSeen events n := by
  intro seen
  obtain ⟨i, hi, sent, lasts⟩ := unseen
  obtain ⟨k, above, below, looks⟩ := seen i hi v sent
  exact (lasts k above below).1 looks

/-- A value stays unseen until a look or the next value. -/
theorem Unseen.succ (unseen : Unseen events n v) (no_look : ¬ Looks events n)
    (no_value : ∀ w, ¬ Sends events n w) : Unseen events (n + 1) v := by
  obtain ⟨i, hi, sent, lasts⟩ := unseen
  refine ⟨i, by omega, sent, ?_⟩
  intro k above below
  by_cases last : k = n
  · subst last
    exact ⟨no_look, no_value⟩
  · exact lasts k above (by omega)

theorem unseen_of_sends (sent : Sends events n v) : Unseen events (n + 1) v :=
  ⟨n, by omega, sent, by omega⟩

theorem AllSeen.succ (seen : AllSeen events n) (no_value : ∀ w, ¬ Sends events n w) :
    AllSeen events (n + 1) := by
  intro j hj w sent
  by_cases last : j = n
  · subst last
    exact absurd sent (no_value w)
  · obtain ⟨k, above, below, looks⟩ := seen j (by omega) w sent
    exact ⟨k, above, by omega, looks⟩

theorem allSeen_of_looks (looks : Looks events n) : AllSeen events (n + 1) := by
  intro j hj w sent
  have other : j ≠ n := by
    rintro rfl
    simp [Sends, looks.1] at sent
  exact ⟨n, by omega, by omega, looks⟩

end Channel

section Steps

variable {k : Keepalive}

theorem tick_first (running : k.finished = false) (fresh : k.started = false) :
    k.tick = { k with started := true } := by
  simp [tick, running, fresh]

theorem tick_later (running : k.finished = false) (started : k.started = true) :
    k.tick = { k with requests := k.requests + 1 } := by
  simp [tick, running, started]

theorem look_unseen (running : k.finished = false) (started : k.started = true)
    (changed : k.changed = true) :
    k.look = { k with changed := false, finished := k.stop } := by
  simp [look, running, started, changed]

theorem look_seen (running : k.finished = false) (started : k.started = true)
    (changed : k.changed = false) : k.look = { k with finished := !k.connected } := by
  simp [look, running, started, changed]

theorem look_early (fresh : k.started = false) : k.look = k := by
  simp [look, fresh]

theorem step_set_open (connected : k.connected = true) (stop : Bool) :
    k.step (.set stop) = { k with stop, changed := true } := by
  simp [step, connected]

theorem step_set_closed (gone : k.connected = false) (stop : Bool) : k.step (.set stop) = k := by
  simp [step, gone]

theorem step_connected (k : Keepalive) (e : Event) :
    (k.step e).connected = true ↔ k.connected = true ∧ e ≠ .disconnect := by
  cases e with
  | tick answer =>
    simp only [step, tick]
    split_ifs
    all_goals simp
  | look =>
    simp only [step, look]
    split_ifs
    all_goals simp
  | set stop =>
    simp only [step]
    split_ifs
    all_goals simp_all
  | disconnect => simp [step]

/-- An ended task makes no request, and stays ended. -/
theorem step_of_finished (finished : k.finished = true) (e : Event) :
    (k.step e).finished = true ∧ (k.step e).started = k.started ∧
      (k.step e).requests = k.requests := by
  cases e with
  | tick answer => simp [step, tick, finished]
  | look => simp [step, look, finished]
  | set stop =>
    simp only [step]
    split_ifs
    all_goals simp [finished]
  | disconnect => simp [step, finished]

end Steps

theorem ticks_pos_iff (events : List Event) (n : Nat) :
    0 < (events.take n).countP Event.isTick ↔
      ∃ j < n, ∃ answer, events[j]? = some (.tick answer) := by
  rw [List.countP_pos_iff]
  constructor
  · rintro ⟨e, member, ticks⟩
    obtain ⟨j, at_j⟩ := List.mem_iff_getElem?.mp member
    rw [List.getElem?_take] at at_j
    cases e with
    | tick answer =>
      split_ifs at at_j with before
      exact ⟨j, before, answer, at_j⟩
    | _ => cases ticks
  · rintro ⟨j, before, answer, at_j⟩
    refine ⟨.tick answer, List.mem_iff_getElem?.mpr ⟨j, ?_⟩, rfl⟩
    rw [List.getElem?_take, if_pos before, at_j]

namespace Stands

variable {events : List Event} {n : Nat} {k : Keepalive} {e : Event}
variable (stands : Stands events n k)
include stands

theorem looks_iff (at_n : events[n]? = some .look) : Looks events n ↔ k.started = true := by
  rw [Looks, stands.started]
  simp [at_n]

theorem sends_iff {stop : Bool} (at_n : events[n]? = some (.set stop)) :
    Sends events n stop ↔ k.connected = true := by
  rw [Sends, stands.connected]
  simp [at_n]

/-- A task that has ended was started. -/
theorem started_of_finished (finished : k.finished = true) : k.started = true := by
  obtain ⟨i, hi, ⟨_, j, hj, first⟩, _⟩ := stands.finished.mp finished
  exact stands.started.mpr ⟨j, by omega, first⟩

/-- A look ends the task exactly if it is told to. -/
theorem ends_iff (running : k.finished = false) (looks : Looks events n) :
    Ends events n ↔ k.look.finished = true := by
  have started : k.started = true := stands.started.mpr looks.2
  have shown := stands.shown running
  simp only [Ends, looks, true_and]
  cases changed : k.changed with
  | true =>
    rw [changed, if_pos rfl] at shown
    rw [look_unseen running started changed]
    simp only [shown.not_allSeen, false_and, or_false]
    constructor
    · exact fun told => shown.unique told
    · intro told
      rw [show k.stop = true from told] at shown
      exact shown
  | false =>
    rw [changed, if_neg Bool.false_ne_true] at shown
    rw [look_seen running started changed]
    have none_unseen : ¬ Unseen events n true := fun unseen => unseen.not_allSeen shown
    have gone : k.connected = false ↔ ∃ j < n, events[j]? = some .disconnect := by
      rw [← Bool.not_eq_true, stands.connected]
      simp
    simp only [none_unseen, shown, true_and, false_or, Bool.not_eq_true', gone]

theorem started_step (e : Event) :
    (k.step e).started = true ↔ k.started = true ∨ ∃ answer, e = .tick answer := by
  by_cases finished : k.finished = true
  · have started := stands.started_of_finished finished
    simp [(step_of_finished finished e).2.1, started]
  · rw [Bool.not_eq_true] at finished
    cases e with
    | tick answer =>
      simp only [step]
      cases started : k.started with
      | true => simp [tick_later finished started, started]
      | false => simp [tick_first finished started]
    | look =>
      simp only [step, look]
      split_ifs
      all_goals simp
    | set stop =>
      simp only [step]
      split_ifs
      all_goals simp
    | disconnect => simp [step]

theorem finished_step (at_n : events[n]? = some e) :
    (k.step e).finished = true ↔ k.finished = true ∨ Ends events n := by
  by_cases finished : k.finished = true
  · simp [(step_of_finished finished e).1, finished]
  · rw [Bool.not_eq_true] at finished
    have silent (other : e ≠ .look) : ¬ Ends events n := by
      intro ends
      exact other (Option.some.inj (at_n.symm.trans ends.1.1))
    cases e with
    | tick answer =>
      have same : (k.step (.tick answer)).finished = k.finished := by
        simp only [step, tick]
        split_ifs
        all_goals rfl
      simp [same, silent]
    | look =>
      cases started : k.started with
      | true =>
        have looks := (stands.looks_iff at_n).mpr started
        simp [stands.ends_iff finished looks, finished, step]
      | false =>
        have no_look : ¬ Looks events n := by simp [stands.looks_iff at_n, started]
        have goes_on : ¬ Ends events n := fun ends => no_look ends.1
        simp [step, look_early started, goes_on]
    | set stop =>
      have same : (k.step (.set stop)).finished = k.finished := by
        simp only [step]
        split_ifs
        all_goals rfl
      simp [same, silent]
    | disconnect => simp [step, silent]

/-- What the channel shows stays as it is where the task does not look and nothing is sent. -/
theorem shown_succ (running : k.finished = false) (no_look : ¬ Looks events n)
    (no_value : ∀ v, ¬ Sends events n v) :
    if k.changed then Unseen events (n + 1) k.stop else AllSeen events (n + 1) := by
  have shown := stands.shown running
  split_ifs at shown ⊢
  · exact shown.succ no_look no_value
  · exact shown.succ no_value

theorem shown_step (at_n : events[n]? = some e) (running : k.finished = false) :
    if (k.step e).changed then Unseen events (n + 1) (k.step e).stop
    else AllSeen events (n + 1) := by
  have no_look (other : e ≠ .look) : ¬ Looks events n := by
    intro looks
    exact other (Option.some.inj (at_n.symm.trans looks.1))
  have no_value (other : ∀ v, e ≠ .set v) (v : Bool) : ¬ Sends events n v := by
    intro sends
    exact other v (Option.some.inj (at_n.symm.trans sends.1))
  cases e with
  | tick answer =>
    have shown := stands.shown_succ running (no_look nofun) (no_value nofun)
    cases started : k.started with
    | true =>
      rw [step, tick_later running started]
      exact shown
    | false =>
      rw [step, tick_first running started]
      exact shown
  | look =>
    rw [step]
    cases started : k.started with
    | true =>
      have seen : AllSeen events (n + 1) := allSeen_of_looks ((stands.looks_iff at_n).mpr started)
      cases changed : k.changed with
      | true =>
        rw [look_unseen running started changed]
        exact seen
      | false =>
        rw [look_seen running started changed]
        simpa [changed] using seen
    | false =>
      rw [look_early started]
      have early : ¬ Looks events n := by simp [stands.looks_iff at_n, started]
      exact stands.shown_succ running early (no_value nofun)
  | set stop =>
    cases connected : k.connected with
    | true =>
      rw [step_set_open connected]
      exact unseen_of_sends ((stands.sends_iff at_n).mpr connected)
    | false =>
      rw [step_set_closed connected]
      refine stands.shown_succ running (no_look nofun) ?_
      intro v sends
      obtain rfl : stop = v := by simpa using at_n.symm.trans sends.1
      rw [stands.sends_iff at_n, connected] at sends
      cases sends
  | disconnect => exact stands.shown_succ running (no_look nofun) (no_value nofun)

theorem requests_step (at_n : events[n]? = some e) (running : k.finished = false) :
    (k.step e).requests = (events.take (n + 1)).countP Event.isTick - 1 := by
  rw [List.take_add_one, at_n, List.countP_append, Option.toList_some, List.countP_singleton]
  have requests := stands.requests running
  cases e with
  | tick answer =>
    have ticked : k.started = true ↔ 0 < (events.take n).countP Event.isTick := by
      rw [stands.started, ticks_pos_iff]
    cases started : k.started with
    | true =>
      rw [step, tick_later running started]
      have some_tick := ticked.mp started
      simp only [Event.isTick, if_pos, requests]
      omega
    | false =>
      rw [step, tick_first running started]
      have no_tick : ¬ 0 < (events.take n).countP Event.isTick := by
        rw [← ticked, started]
        exact Bool.false_ne_true
      simp only [Event.isTick, if_pos, requests]
      omega
  | look =>
    simp only [Event.isTick, step, look]
    split_ifs
    all_goals simp_all
  | set stop =>
    simp only [Event.isTick, step]
    split_ifs
    all_goals simp_all
  | disconnect => simp_all [Event.isTick, step]

/-- How a task stands behind the next event. -/
theorem succ (at_n : events[n]? = some e) : Stands events (n + 1) (k.step e) where
  connected := by
    rw [Nat.forall_lt_succ_right, step_connected, stands.connected, at_n]
    simp
  started := by
    rw [Nat.exists_lt_succ_right, ← stands.started, at_n, stands.started_step]
    simp
  finished := by
    rw [Nat.exists_lt_succ_right, ← stands.finished, stands.finished_step at_n]
  shown := by
    intro running
    apply stands.shown_step at_n
    rw [← Bool.not_eq_true, stands.finished_step at_n] at running
    simp_all
  requests := by
    intro running
    apply stands.requests_step at_n
    rw [← Bool.not_eq_true, stands.finished_step at_n] at running
    simp_all

/-- Behind the last event of a schedule nothing happens. -/
theorem past (at_n : events[n]? = none) : Stands events (n + 1) k where
  connected := by
    rw [Nat.forall_lt_succ_right, stands.connected, at_n]
    simp
  started := by
    rw [Nat.exists_lt_succ_right, stands.started, at_n]
    simp
  finished := by
    have goes_on : ¬ Ends events n := by simp [Ends, Looks, at_n]
    rw [Nat.exists_lt_succ_right, stands.finished]
    simp [goes_on]
  shown := by
    intro running
    exact stands.shown_succ running (by simp [Looks, at_n]) (by simp [Sends, at_n])
  requests := by
    intro running
    rw [List.take_add_one, at_n, stands.requests running]
    simp

end Stands

section Runs

variable (events : List Event)

theorem reached_succ (n : Nat) :
    reached events (n + 1) = (events[n]?).toList.foldl step (reached events n) := by
  rw [reached, run, List.take_add_one, List.foldl_append]
  rfl

theorem reached_stands (n : Nat) : Stands events n (reached events n) := by
  induction n with
  | zero =>
    constructor
    · simp [reached, run, start]
    · simp [reached, run, start]
    · simp [reached, run, start]
    · intro _ j hj
      omega
    · intro _
      rfl
  | succ n ih =>
    rw [reached_succ]
    cases at_n : events[n]? with
    | none => exact ih.past at_n
    | some e => exact ih.succ at_n

/-- Once it has ended, the task makes no request. -/
theorem requests_of_finished {m n : Nat} (finished : (reached events m).finished = true)
    (behind : m ≤ n) :
    (reached events n).finished = true ∧
      (reached events n).requests = (reached events m).requests := by
  induction behind with
  | refl => exact ⟨finished, rfl⟩
  | @step n _ ih =>
    obtain ⟨ended, same⟩ := ih
    rw [reached_succ]
    cases events[n]? with
    | none => exact ⟨ended, same⟩
    | some e =>
      obtain ⟨stays, _, silent⟩ := step_of_finished ended e
      exact ⟨stays, silent.trans same⟩

theorem look_requests (k : Keepalive) : k.look.requests = k.requests := by
  simp only [look]
  split_ifs
  all_goals rfl

theorem step_unanswered (k : Keepalive) (e : Event) : k.step e.unanswered = k.step e := by
  cases e with
  | tick answer => rfl
  | _ => rfl

/-- A run depends on the answers of the node as little as its steps do. -/
theorem reached_unanswered (n : Nat) :
    reached (events.map Event.unanswered) n = reached events n := by
  simp only [reached, run, ← List.map_take, List.foldl_map, step_unanswered]

/-- The task keeps up its requests until it is told to stop, and only until then: it makes one on
every tick but the first and none behind its end, whatever the node answers. -/
structure RunsUntilTold : Prop where
  finished_iff : ∀ n, (reached events n).finished = true ↔ ∃ i < n, Ends events i
  requests : ∀ n, (∀ i < n, ¬ Ends events i) →
    (reached events n).requests = (events.take n).countP Event.isTick - 1
  ended : ∀ i, Ends events i → ∀ n, i < n →
    (reached events n).requests = (reached events i).requests
  unminded : ∀ others : List Event, others.map Event.unanswered = events.map Event.unanswered →
    ∀ n, reached others n = reached events n

/-- In every schedule of ticks, settings, disconnections and looks the keepalive task runs until it
is told to stop. -/
theorem keepalive_runs_until_told : RunsUntilTold events where
  finished_iff n := (reached_stands events n).finished
  requests n goes_on := by
    have stands := reached_stands events n
    apply stands.requests
    rw [← Bool.not_eq_true, stands.finished]
    rintro ⟨i, before, ends⟩
    exact goes_on i before ends
  ended i ends n behind := by
    have stops : (reached events (i + 1)).finished = true :=
      (reached_stands events (i + 1)).finished.mpr ⟨i, by omega, ends⟩
    have looked : (reached events (i + 1)).requests = (reached events i).requests := by
      rw [reached_succ, ends.1.1]
      exact look_requests _
    exact (requests_of_finished events stops behind).2.trans looked
  unminded others same n := by
    rw [← reached_unanswered others, same, reached_unanswered]

example :
    let k := start.run [.tick (.ok 0), .tick (.error (.query "")), .set false, .look,
      .tick (.ok 1), .disconnect, .look, .tick (.ok 2)]
    k.requests = 2 ∧ k.finished = true := by decide

end Runs

end Keepalive

end StarWatch
