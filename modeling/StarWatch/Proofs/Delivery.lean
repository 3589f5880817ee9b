import StarWatch.Proofs.Lifecycle
import StarWatch.Proofs.Sighting

/-!
# How often an event is delivered

A call takes its event out of the queue, and nothing remembers it. An identity
is called once in a run exactly when no live notification queues it again
between two calls. The same sighting, repeated, is delivered each time.
-/

namespace StarWatch

def Happening.callsFor (id : LogIdentity) : Happening → List Notice
  | pulled _ (some e) _ calls => if e.identity = id then calls else []
  | _ => []

def Watch.callsFor (settings : Settings) (w : Watch) (moves : List Move) (id : LogIdentity) :
    List Notice :=
  (w.happenings settings moves).flatMap (Happening.callsFor id)

section Counting

variable {depth : Nat} {m m' : Counts} {h : Happening} {id : LogIdentity}

theorem Happening.callsFor_ne_nil_iff : h.callsFor id ≠ [] ↔ h.Forwards id := by
  match h with
  | pulled _ (some e) _ calls =>
    by_cases same : e.identity = id
    · simp [callsFor, Forwards, same]
    · simp [callsFor, Forwards, same]
  | pulled _ none _ _ | live _ _ | evicted _ _ | idle => simp [callsFor, Forwards]

/-- Nothing that happens makes two calls at once. -/
theorem Lifecycle.length_callsFor_le (step : Lifecycle depth m h m') :
    (h.callsFor id).length ≤ 1 := by
  cases step with
  | forwarded =>
    simp only [Happening.callsFor]
    split <;> simp
  | purged | passed => simp [Happening.callsFor]
  | _ => simp [Happening.callsFor]

/-- The first call for an identity, and what the run calls after it. -/
theorem Trace.exists_forwards {hs : List Happening} (trace : Trace depth m hs m')
    (called : 0 < (hs.flatMap (Happening.callsFor id)).length) :
    ∃ earlier first later, hs = earlier ++ first :: later ∧ first.Forwards id ∧
      (hs.flatMap (Happening.callsFor id)).length ≤
        (later.flatMap (Happening.callsFor id)).length + 1 := by
  induction trace with
  | nil => cases called
  | @cons _ _ _ h rest step later ih =>
    by_cases forwards : h.Forwards id
    · refine ⟨[], h, rest, rfl, forwards, ?_⟩
      have once : (h.callsFor id).length ≤ 1 := step.length_callsFor_le
      rw [List.flatMap_cons, List.length_append]
      omega
    · have none : h.callsFor id = [] := by
        by_contra some
        exact forwards (Happening.callsFor_ne_nil_iff.mp some)
      rw [List.flatMap_cons, none, List.nil_append] at called ⊢
      obtain ⟨earlier, first, behind, split, forwards, bound⟩ := ih called
      exact ⟨h :: earlier, first, behind, by rw [split, List.cons_append], forwards, bound⟩

theorem Trace.called_twice {hs : List Happening} (trace : Trace depth m hs m')
    (twice : 1 < (hs.flatMap (Happening.callsFor id)).length) :
    ∃ earlier first between second later, hs = earlier ++ first :: (between ++ second :: later) ∧
      first.Forwards id ∧ second.Forwards id := by
  obtain ⟨earlier, first, rest, rfl, forwards, bound⟩ :=
    trace.exists_forwards (Nat.zero_lt_of_lt twice)
  obtain ⟨_, _, trace⟩ := trace.split
  cases trace with
  | cons _ trace =>
    have again : 0 < (rest.flatMap (Happening.callsFor id)).length := by omega
    obtain ⟨between, second, later, rfl, repeats, _⟩ := trace.exists_forwards again
    exact ⟨earlier, first, between, second, later, rfl, forwards, repeats⟩

end Counting

/-- An identity is called, queued live once more, and called again. -/
def Relapse (id : LogIdentity) (hs : List Happening) : Prop :=
  ∃ first again second, [first, again, second].Sublist hs ∧
    first.Forwards id ∧ again.Queues id ∧ second.Forwards id

/-- A run calls an identity at most once, unless the identity relapses. -/
theorem called_at_most_once_iff (settings : Settings) (w : Watch) (moves : List Move)
    (id : LogIdentity) :
    (w.callsFor settings moves id).length ≤ 1 ↔ ¬ Relapse id (w.happenings settings moves) := by
  have trace := w.trace_happenings settings moves
  rw [Watch.callsFor]
  generalize w.happenings settings moves = hs at trace
  constructor
  · rintro once ⟨first, again, second, ordered, forwards, _, repeats⟩
    have called := (ordered.flatMap (Happening.callsFor id)).length_le
    have one := List.length_pos_iff.mpr (Happening.callsFor_ne_nil_iff.mpr forwards)
    have two := List.length_pos_iff.mpr (Happening.callsFor_ne_nil_iff.mpr repeats)
    simp only [List.flatMap_cons, List.flatMap_nil, List.length_append, List.length_nil] at called
    omega
  · intro steady
    by_contra twice
    obtain ⟨earlier, first, between, second, later, rfl, forwards, repeats⟩ :=
      trace.called_twice (not_le.mp twice)
    obtain ⟨again, during, queues⟩ := trace.queued_between forwards.retires repeats
    refine steady ⟨first, again, second, ?_, forwards, queues, repeats⟩
    have middle : [again].Sublist between := List.singleton_sublist.mpr during
    have tail : [second].Sublist (second :: later) := List.singleton_sublist.mpr List.mem_cons_self
    exact List.sublist_append_of_sublist_right ((middle.append tail).cons_cons first)

namespace Watch

theorem history_append (settings : Settings) (w : Watch) (moves later : List Move) :
    w.history settings (moves ++ later) =
      w.history settings moves ++ (w.after settings moves).history settings later := by
  induction moves generalizing w with
  | nil => rfl
  | cons move rest ih =>
    simp only [List.cons_append, history, after, List.foldl_cons, ih]
    cases w.turn? settings move <;> rfl

theorem callsFor_append (settings : Settings) (w : Watch) (moves later : List Move)
    (id : LogIdentity) :
    w.callsFor settings (moves ++ later) id =
      w.callsFor settings moves id ++ (w.after settings moves).callsFor settings later id := by
  simp only [callsFor, happenings, history_append, List.flatMap_append]

end Watch

namespace Sighting

variable {settings : Settings} (x : Sighting settings) {w : Watch} {index : Nat}

theorem queuing_happenings (idle : w.Idle index) :
    ∃ answer, (x.queuing w index).happenings settings = [.live (some x.event) answer] := by
  obtain ⟨taken, ⟨cursor, rest, received, _⟩, _⟩ := x.queuing_receives idle
  have happened := happenings_receive settings taken
    { (x.queuing w index).before with cursor } index rest
  rw [← received, x.read] at happened
  exact ⟨_, happened⟩

theorem calling_happenings (idle : w.Idle index) :
    ∃ count, (x.calling w index).happenings settings =
      [.pulled x.latest (some x.event) 0 [x.notice], .evicted x.latest count] := by
  obtain ⟨_, _, ticked⟩ := x.calling_ticks idle
  have happened := happenings_tick settings (x.calling w index).before x.height
  obtain ⟨visits, _⟩ := x.calling_visits idle
  have visited : ((x.calling w index).visits settings x.answers x.latest).map
      (Scan.Visit.happening x.answers x.latest) =
        [.pulled x.latest (some x.event) 0 [x.notice]] := by
    rw [visits, List.map_singleton, Scan.Visit.happening, Scan.visit_calls, x.read_from_chain]
    simp [Scan.settle_confirmed x.answers _ x.notice_eq, Verdict.requests, x.notice_eq]
  rw [← ticked] at happened
  exact ⟨_, happened.trans (congrArg (· ++ _) visited)⟩

theorem callsFor_eq (idle : w.Idle index) :
    w.callsFor settings (x.moves index) x.event.identity = [x.notice] := by
  obtain ⟨answer, queued⟩ := x.queuing_happenings idle
  obtain ⟨count, called⟩ := x.calling_happenings idle
  simp [Watch.callsFor, Watch.happenings, x.history_eq, queued, called, Happening.callsFor]

/-- A sighting that is repeated is delivered twice. -/
theorem callsFor_repeated (idle : w.Idle index) :
    w.callsFor settings (x.moves index ++ x.moves index) x.event.identity =
      [x.notice, x.notice] := by
  rw [w.callsFor_append, x.callsFor_eq idle, x.callsFor_eq (x.idle_after idle)]
  rfl

end Sighting

/-- Notified again after its call, the purchase is called again, so a run can call an identity more
than once. -/
theorem purchase_called_twice :
    ¬ ∀ (settings : Settings) (moves : List Move) (id : LogIdentity),
      (Watch.start.callsFor settings moves id).length ≤ 1 := by
  intro once
  have bound := once purchaseSettings
    ([.subscribe purchaseChain.openStream] ++ (purchase.moves 4 ++ purchase.moves 4))
    purchase.event.identity
  rw [Watch.callsFor_append, List.length_append] at bound
  have twice : ((Watch.start.after purchaseSettings
      [.subscribe purchaseChain.openStream]).callsFor purchaseSettings _ _).length = 2 :=
    congrArg List.length (purchase.callsFor_repeated subscribed_idle)
  rw [twice] at bound
  omega

end StarWatch
