import Mathlib.Order.Bounds.Defs
import StarWatch.Proofs.Polling

/-!
# Eviction cuts the queue

A block has aged if a later one has, and the queue stands in ascending order of
blocks; so an eviction hands out a prefix of the queue and leaves the rest as it
was. Evictions at several heights cut where the greatest of them cuts: a height
that lies below an earlier one finds nothing any more, and a greater one hands
out the next stretch.
-/

namespace StarWatch

namespace Queue

/-- Evictions at heights in turn: all that they hand out, and the queue behind them. -/
def sweep (depth : Nat) : List Word → Queue → List PendingEvent × Queue
  | [], q => ([], q)
  | latest :: heights, q =>
    let (evicted, left) := sweep depth heights (q.evict latest depth)
    (q.leftovers latest depth ++ evicted, left)

/-- An eviction splits the queue at one point, where the ages pass the depth. -/
structure Cut (q : Queue) (latest : Word) (depth : Nat) : Prop where
  joined : q.leftovers latest depth ++ (q.evict latest depth).entries = q.entries
  side : ∀ i e, q.entries[i]? = some e →
    (i < (q.leftovers latest depth).length ↔
      e.block.toNat ≤ latest.toNat ∧ depth < latest.toNat - e.block.toNat)

section Cutting

variable {q : Queue} {latest later : Word} {depth : Nat}

theorem mem_leftovers {e : PendingEvent} :
    e ∈ q.leftovers latest depth ↔ e ∈ q.entries ∧ e.block.Aged latest depth := by
  rw [leftovers, List.mem_filter, PendingEvent.isLeftover_iff]

theorem mem_evict {e : PendingEvent} :
    e ∈ (q.evict latest depth).entries ↔ e ∈ q.entries ∧ ¬ e.block.Aged latest depth := by
  rw [evict, List.mem_filter, PendingEvent.not_isLeftover_iff]

theorem Sorted.evict (sorted : q.Sorted) (latest : Word) (depth : Nat) :
    (q.evict latest depth).Sorted :=
  sorted.change (.evict latest depth)

theorem Sorted.leftovers_append (sorted : q.Sorted) (latest : Word) (depth : Nat) :
    q.leftovers latest depth ++ (q.evict latest depth).entries = q.entries := by
  refine filter_append_filter_not (sorted.imp fun {a b} le aged => ?_)
  rw [PendingEvent.isLeftover_iff] at aged ⊢
  exact aged.lower le

theorem Sorted.cut (sorted : q.Sorted) (latest : Word) (depth : Nat) : q.Cut latest depth where
  joined := sorted.leftovers_append latest depth
  side := by
    intro i e found
    have old : e.block.Aged latest depth ↔
        e.block.toNat ≤ latest.toNat ∧ depth < latest.toNat - e.block.toNat := by
      rw [Word.aged_iff_deep, Word.deep_iff_add_le]
      omega
    rw [← old]
    rw [← sorted.leftovers_append latest depth] at found
    by_cases front : i < (q.leftovers latest depth).length
    · rw [List.getElem?_append_left front] at found
      exact iff_of_true front (mem_leftovers.mp (List.mem_of_getElem? found)).2
    · rw [List.getElem?_append_right (Nat.le_of_not_lt front)] at found
      exact iff_of_false front (mem_evict.mp (List.mem_of_getElem? found)).2

/-- A height that lies below an earlier one finds nothing to evict. -/
theorem evict_passed (le : latest ≤ later) (q : Queue) (depth : Nat) :
    (q.evict later depth).leftovers latest depth = [] ∧
      (q.evict later depth).evict latest depth = q.evict later depth := by
  have young : ∀ e ∈ (q.evict later depth).entries, ¬ e.block.Aged latest depth :=
    fun e member aged => (mem_evict.mp member).2 (aged.rise le)
  constructor
  · refine List.eq_nil_iff_forall_not_mem.mpr fun e member => ?_
    obtain ⟨inside, aged⟩ := mem_leftovers.mp member
    exact young e inside aged
  · rw [evict.eq_def (q.evict later depth), List.filter_eq_self.mpr]
    exact fun e member => (e.not_isLeftover_iff latest depth).mpr (young e member)

/-- A greater height hands out the next stretch of the queue. -/
theorem Sorted.leftovers_onward (sorted : q.Sorted) (le : latest ≤ later) (depth : Nat) :
    q.leftovers latest depth ++ (q.evict latest depth).leftovers later depth =
      q.leftovers later depth := by
  have joined := calc
    q.leftovers latest depth ++ (q.evict latest depth).leftovers later depth ++
        (q.evict later depth).entries
      = q.leftovers latest depth ++ ((q.evict latest depth).leftovers later depth ++
          ((q.evict latest depth).evict later depth).entries) := by
        rw [evict_evict le, List.append_assoc]
    _ = q.leftovers latest depth ++ (q.evict latest depth).entries := by
        rw [(sorted.evict latest depth).leftovers_append]
    _ = q.leftovers later depth ++ (q.evict later depth).entries := by
        rw [sorted.leftovers_append, sorted.leftovers_append]
  exact List.append_cancel_right joined

theorem sweep_passed {heights : List Word} (passed : ∀ height ∈ heights, height ≤ latest)
    (q : Queue) (depth : Nat) :
    sweep depth heights (q.evict latest depth) = ([], q.evict latest depth) := by
  induction heights with
  | nil => rfl
  | cons height heights ih =>
    obtain ⟨nothing, same⟩ := evict_passed (passed height List.mem_cons_self) q depth
    rw [sweep, same, ih fun other member => passed other (List.mem_cons_of_mem _ member), nothing]
    rfl

theorem Sorted.sweep_eq_once (sorted : q.Sorted) {heights : List Word}
    (greatest : IsGreatest {height | height ∈ heights} latest) (depth : Nat) :
    sweep depth heights q = (q.leftovers latest depth, q.evict latest depth) := by
  obtain ⟨reached, bound⟩ := greatest
  induction heights generalizing q with
  | nil => cases reached
  | cons height heights ih =>
    have below : ∀ other ∈ heights, other ≤ latest :=
      fun other member => bound (List.mem_cons_of_mem _ member)
    rw [sweep]
    by_cases again : latest ∈ heights
    · have le : height ≤ latest := bound List.mem_cons_self
      rw [ih (sorted.evict height depth) again fun other member => below other member]
      simp only [sorted.leftovers_onward le, evict_evict le]
    · obtain rfl : latest = height := (List.mem_cons.mp reached).resolve_right again
      rw [sweep_passed below]
      simp only [List.append_nil]

end Cutting

/-- Eviction cuts the queue at one point and composes: whatever changes were made of an empty
queue, what an eviction hands out and what it leaves are the two parts of the queue, an entry
falling to the first exactly if more than `depth` blocks lie on top of it; and evictions at heights
in any order hand out and leave what one at the greatest of them does. -/
theorem eviction_cuts_once (changes : List Change) (depth : Nat) :
    (∀ latest, (after changes).Cut latest depth) ∧
      ∀ heights latest, IsGreatest {height | height ∈ heights} latest →
        sweep depth heights (after changes) =
          ((after changes).leftovers latest depth, (after changes).evict latest depth) :=
  have sorted := sorted_after changes
  ⟨fun latest => sorted.cut latest depth, fun _ _ greatest => sorted.sweep_eq_once greatest depth⟩

def aheadEvent : PendingEvent := { purchase.event with block := BitVec.allOnes 256 }

/-- Both purchases at heights that go up and down again: the first height takes the older one, the
second the newer one, the third nothing, and the event ahead stays. -/
theorem cut_up_and_down :
    IsGreatest {height | height ∈ [105, 111, 100]} (111 : Word) ∧
      sweep 10 [105, 111, 100] (after (.insert aheadEvent :: bothQueued)) =
        ([olderEvent, purchase.event], ⟨[aheadEvent]⟩) := by
  have greatest : IsGreatest {height | height ∈ [105, 111, 100]} (111 : Word) := by
    have bound : ∀ height ∈ [105, 111, 100], height ≤ (111 : Word) := by simp
    exact ⟨by decide, bound⟩
  exact ⟨greatest, (eviction_cuts_once (.insert aheadEvent :: bothQueued) 10).2 _ _ greatest⟩

end Queue

end StarWatch
