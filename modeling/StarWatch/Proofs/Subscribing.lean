import StarWatch.Proofs.Sighting
import StarWatch.Session

/-!
# Opening the streams

Streams are opened one kind after the other, up to the first that the ledger
refuses. Those before it stay open, and a reactor only refuses to run without
any stream; so after a refusal of a later kind it would run with the streams
that it has. The watcher never comes to that, since it ends at the refusal.
-/

namespace StarWatch

/-- A fresh reactor behind the opening of its streams, and the result of that. Only the settings and
the first kind can leave it without streams, and a run is refused to no other reactor. -/
structure Reactor.Subscribes (settings : Settings)
    (openStream : EventKind → Except LedgerError Stream) (result : Except PipelineError Unit)
    (r : Reactor) : Prop where
  frame : r = { Reactor.start with streams := r.streams }
  unusable : ∀ e, settings.check = .error e → result = .error e ∧ r.streams = []
  opening : settings.check = .ok () → Opening openStream EventKind.all r.streams result
  complete : result = .ok () ↔ settings.check = .ok () ∧ ∀ kind, ∃ s, openStream kind = .ok s
  without : r.streams = [] ↔
    (∃ e, settings.check = .error e) ∨ ∃ e, openStream .create = .error e
  run : ∀ settings chain requests seconds,
    (Rehearsal.run { settings, chain, reactor := r, requests } seconds).result =
      some .notSubscribed ↔ r.streams = []

section Openings

variable {openStream : EventKind → Except LedgerError Stream} {kinds : List EventKind}
  {streams : List Stream} {result : Except PipelineError Unit}

theorem Opening.result_ok_iff (opening : Opening openStream kinds streams result) :
    result = .ok () ↔ ∀ kind ∈ kinds, ∃ s, openStream kind = .ok s := by
  cases opening with
  | all answered =>
    refine iff_of_true rfl fun kind member => ?_
    have there : openStream kind ∈ streams.map .ok := answered ▸ List.mem_map_of_mem member
    obtain ⟨s, _, same⟩ := List.mem_map.mp there
    exact ⟨s, same.symm⟩
  | upTo split answered refused =>
    refine iff_of_false nofun fun accepted => ?_
    subst split
    obtain ⟨s, opened⟩ := accepted _ (List.mem_append_right _ List.mem_cons_self)
    rw [refused] at opened
    cases opened

theorem Opening.first_answered {first : EventKind} {s : Stream}
    (opening : Opening openStream (first :: kinds) (s :: streams) result) :
    openStream first = .ok s := by
  cases opening with
  | all answered => exact (List.cons.inj answered).1
  | @upTo before after kind _ e split answered refused =>
    cases before with
    | nil => cases answered
    | cons head before =>
      cases split
      exact (List.cons.inj answered).1

theorem Opening.first_refused {first : EventKind}
    (opening : Opening openStream (first :: kinds) [] result) :
    ∃ e, openStream first = .error e := by
  cases opening with
  | all answered => cases answered
  | @upTo before after kind _ e split answered refused =>
    cases before with
    | nil =>
      cases split
      exact ⟨e, refused⟩
    | cons head before => cases answered

theorem Opening.streams_nil_iff {first : EventKind}
    (opening : Opening openStream (first :: kinds) streams result) :
    streams = [] ↔ ∃ e, openStream first = .error e := by
  cases streams with
  | nil => exact iff_of_true rfl opening.first_refused
  | cons s streams =>
    refine iff_of_false nofun ?_
    rintro ⟨e, refused⟩
    rw [opening.first_answered] at refused
    cases refused

theorem Opening.subscribed {first : EventKind}
    (opening : Opening openStream (first :: kinds) streams (.ok ())) : streams ≠ [] := by
  rw [ne_eq, opening.streams_nil_iff]
  rintro ⟨e, refused⟩
  obtain ⟨s, accepted⟩ := opening.result_ok_iff.mp rfl first List.mem_cons_self
  rw [refused] at accepted
  cases accepted

variable {settings : Settings}

/-- Settings that do not pass their check leave the reactor as it was. -/
theorem Reactor.subscribeAll_unusable {e : PipelineError} (checked : settings.check = .error e)
    (openStream : EventKind → Except LedgerError Stream) (r : Reactor) :
    r.subscribeAll settings openStream = (.error e, r) := by
  simp only [subscribeAll, checked]

theorem Reactor.subscribeAll_opening (checked : settings.check = .ok ())
    (openStream : EventKind → Except LedgerError Stream) :
    let opened := Reactor.start.subscribeAll settings openStream
    opened.2 = { Reactor.start with streams := opened.2.streams } ∧
      Opening openStream EventKind.all opened.2.streams opened.1 := by
  obtain ⟨streams, left, opening⟩ := Reactor.start.subscribeTo_opening openStream EventKind.all
  simp only [subscribeAll, checked]
  rw [left]
  exact ⟨rfl, opening⟩

end Openings

section Running

variable {settings : Settings} {r : Reactor} {move : Move} {turn : Turn}

theorem Reactor.tick_done (settings : Settings) (r : Reactor) (answers : Answers) :
    ∃ step, (r.tick settings answers).outcome = .done step := by
  cases answered : answers.height with
  | error e => exact ⟨_, congrArg Turn.outcome (r.tick_unread settings answered)⟩
  | ok latest => exact ⟨_, (r.tick_read settings answered).1⟩

/-- A step opens no stream and closes none. -/
theorem Acts.length_streams (acts : Acts settings r move (r.look move) turn) :
    turn.reactor.streams.length = r.streams.length := by
  generalize r.look move = found at acts
  cases acts with
  | closed | unsubscribed | waited => rfl
  | received index n rest => rw [Reactor.receive_streams, List.length_set]
  | looked pending => rw [Reactor.tick_streams]

/-- A step with a stream does not fail for want of streams. -/
theorem Acts.outcome_ne (acts : Acts settings r move (r.look move) turn)
    (subscribed : r.streams ≠ []) : turn.outcome ≠ .failed .notSubscribed := by
  generalize r.look move = found at acts
  cases acts with
  | closed | waited => nofun
  | received index n rest =>
    obtain ⟨answer, done, _⟩ := Reactor.receive_handling
      { r with cursor := r.cursorBehind index move } n index rest
    rw [done]
    nofun
  | unsubscribed without => exact absurd without subscribed
  | @looked answers pending =>
    obtain ⟨step, done⟩ := r.tick_done settings answers
    rw [done]
    nofun

theorem Reactor.step_subscribed (settings : Settings) (answers : Answers)
    (subscribed : r.streams ≠ []) :
    (r.step settings answers).reactor.streams ≠ [] ∧
      (r.step settings answers).outcome ≠ .failed .notSubscribed := by
  have acts := r.step_acts settings answers
  refine ⟨?_, acts.outcome_ne subscribed⟩
  rw [← List.length_pos_iff] at subscribed ⊢
  rw [acts.length_streams]
  exact subscribed

theorem Rehearsal.runFor_subscribed {w : Rehearsal} (subscribed : w.reactor.streams ≠ [])
    (limit fuel elapsed : Nat) :
    (runFor limit fuel elapsed w).result ≠ some .notSubscribed := by
  induction fuel generalizing elapsed w with
  | zero => nofun
  | succ fuel ih =>
    obtain ⟨remains, goes⟩ := w.reactor.step_subscribed w.settings w.chain.answers subscribed
    simp only [runFor]
    cases ended : (w.reactor.step w.settings w.chain.answers).outcome with
    | failed e =>
      rw [ended] at goes
      exact fun same => goes (congrArg Outcome.failed (Option.some.inj same))
    | waiting => nofun
    | done step =>
      dsimp only
      split
      · nofun
      · exact ih remains _

theorem Rehearsal.run_notSubscribed_iff (w : Rehearsal) (seconds : Nat) :
    (w.run seconds).result = some .notSubscribed ↔ w.reactor.streams = [] := by
  rw [run]
  split
  · rename_i without
    exact iff_of_true rfl (List.isEmpty_iff.mp without)
  · rename_i subscribed
    rw [List.isEmpty_iff] at subscribed
    exact iff_of_false (runFor_subscribed subscribed _ _ _) subscribed

theorem Session.serve_subscribed (settings : Settings) (answers : Answers) (fuel : Nat)
    (subscribed : r.streams ≠ []) :
    (serve settings answers fuel r).2 ≠ some .notSubscribed := by
  induction fuel generalizing r with
  | zero => nofun
  | succ fuel ih =>
    obtain ⟨remains, goes⟩ := r.step_subscribed settings answers subscribed
    simp only [serve]
    cases ended : (r.step settings answers).outcome with
    | failed e =>
      rw [ended] at goes
      exact fun same => goes (congrArg Outcome.failed (Option.some.inj same))
    | waiting => nofun
    | done step =>
      dsimp only
      split
      · nofun
      · exact ih remains

end Running

/-- Subscribing is not all or nothing: a fresh reactor has the streams of all kinds, in order, or
those of the kinds before the first refusal, and a run is refused to it only if there are none. -/
theorem subscribing_stops_at_refusal (settings : Settings)
    (openStream : EventKind → Except LedgerError Stream) :
    let opened := Reactor.start.subscribeAll settings openStream
    opened.2.Subscribes settings openStream opened.1 := by
  have run (r : Reactor) (settings : Settings) (chain : Chain) (requests : Array Request)
      (seconds : Nat) := Rehearsal.run_notSubscribed_iff ⟨settings, chain, r, requests⟩ seconds
  dsimp only
  cases checked : settings.check with
  | error e =>
    rw [Reactor.subscribeAll_unusable checked]
    exact {
      frame := rfl
      unusable := by
        intro e' same
        rw [checked] at same
        cases same
        exact ⟨rfl, rfl⟩
      opening := by
        rw [checked]
        nofun
      complete := by
        rw [checked]
        exact iff_of_false nofun fun both => nomatch both.1
      without := iff_of_true rfl (.inl ⟨e, checked⟩)
      run := run _ }
  | ok _ =>
    obtain ⟨frame, opening⟩ := Reactor.subscribeAll_opening checked openStream
    exact {
      frame
      unusable := by
        rw [checked]
        nofun
      opening := fun _ => opening
      complete := by
        rw [opening.result_ok_iff, checked]
        exact ⟨fun all => ⟨rfl, fun kind => all kind kind.mem_all⟩, fun all kind _ => all.2 kind⟩
      without := by
        rw [opening.streams_nil_iff, checked]
        exact ⟨.inr, fun refused => refused.resolve_left nofun⟩
      run := run _ }

def refusesSales (kind : EventKind) : Except LedgerError Stream :=
  if kind = .putForSale then .error (.subscription kind "refused") else .ok (Stream.start kind 64)

/-- The two streams before the refusal stay open, and the reactor runs with them. -/
theorem two_streams_outlive_refusal :
    let opened := Reactor.start.subscribeAll purchaseSettings refusesSales
    let w : Rehearsal := { Rehearsal.start purchaseSettings with reactor := opened.2 }
    opened.1 = .error (.ledger (.subscription .putForSale "refused")) ∧
      opened.2.streams = [Stream.start .create 64, Stream.start .changeName 64] ∧
      (w.run 60).result = none := by
  exact ⟨rfl, rfl, rfl⟩

section Watching

/-- Live logs and hanging up open no stream and close none. -/
theorem Session.length_feed (peers : Peers) (streams : List Stream) :
    (feed peers streams).length = streams.length := by
  have pushed : ∀ pushed : List Stream, pushed.length = streams.length →
      (if peers.hangsUp then pushed.map Stream.close else pushed).length = streams.length := by
    intro pushed same
    split
    · rw [List.length_map, same]
    · exact same
  apply pushed
  cases peers.push with
  | none => rfl
  | some live =>
    dsimp only
    split
    · rfl
    · exact List.length_map _

/-- A watcher works with the streams of all kinds, or it ends where it opens them and has sent
nothing but subscriptions. -/
theorem Session.operate_with_all_streams (settings : ListenerSettings) (peers : Peers) :
    let t := operate settings peers
    (∃ e, t.fault = some (.subscription e) ∧
        ∀ m ∈ t.messages, ∃ kind, m = .rpc (Rpc.subscribe settings.contract kind)) ∨
      (∀ kind, ∃ s, peers.provider.openStream settings.buffer kind = .ok s) ∧
        t.fault ≠ some (.stopped .notSubscribed) := by
  dsimp only
  simp only [operate]
  cases opened : Reactor.start.subscribeAll settings.pipeline
      (peers.provider.openStream settings.buffer) with
  | mk result r =>
    cases result with
    | error e =>
      refine .inl ⟨e, rfl, fun m sent => ?_⟩
      obtain ⟨kind, _, same⟩ := List.mem_map.mp sent
      exact ⟨kind, same.symm⟩
    | ok _ =>
      cases checked : settings.pipeline.check with
      | error e =>
        rw [Reactor.subscribeAll_unusable checked] at opened
        cases opened
      | ok _ =>
        have opening := (Reactor.subscribeAll_opening checked
          (peers.provider.openStream settings.buffer)).2
        rw [opened] at opening
        have all := opening.result_ok_iff.mp rfl
        have subscribed : feed peers r.streams ≠ [] := by
          rw [← List.length_pos_iff, length_feed, List.length_pos_iff]
          exact opening.subscribed
        refine .inr ⟨fun kind => all kind kind.mem_all, ?_⟩
        dsimp only
        rw [ne_eq, Option.map_eq_some_iff]
        rintro ⟨e, stopped, same⟩
        cases same
        exact serve_subscribed (r := { r with streams := feed peers r.streams }) _ _ _ subscribed
          stopped

end Watching

end StarWatch
