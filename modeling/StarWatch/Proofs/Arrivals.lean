import Mathlib.Order.Bounds.Defs
import StarWatch.Proofs.Ordering

/-!
# The queue as a list of arrivals

A plain account of what is pending: every new event goes to the end of a list,
and a removal drops entries from it. The queue holds that list in the stable
order of blocks, and whatever it is asked, it answers as the list would. Two
lists in ascending order with the same entries of each block, in the same
order, are equal; so it suffices to follow the entries of one block.
-/

namespace StarWatch

namespace Queue

def notAfter (a b : PendingEvent) : Bool := a.block ≤ b.block

/-- The stable order: entries of one block stand as they arrived. -/
def inBlockOrder (arrived : List PendingEvent) : List PendingEvent := arrived.mergeSort notAfter

def ofBlock (block : Word) (entries : List PendingEvent) : List PendingEvent :=
  entries.filter fun x => x.block = block

namespace Change

/-- Whether a change drops an entry: one of the same identity, or one of too great an age. -/
def Drops : Change → PendingEvent → Prop
  | insert _, _ => False
  | removeMatching e, x => x.identity = e.identity
  | evict latest depth, x => x.block.Aged latest depth

instance (c : Change) (x : PendingEvent) : Decidable (c.Drops x) :=
  match c with
  | insert _ => instDecidableFalse
  | removeMatching e => inferInstanceAs (Decidable (x.identity = e.identity))
  | evict latest depth => inferInstanceAs (Decidable (x.block.Aged latest depth))

def adds : Change → List PendingEvent
  | insert e => [e]
  | _ => []

def dropped (c : Change) (arrived : List PendingEvent) : List PendingEvent :=
  arrived.filter fun x => c.Drops x

def onArrivals (arrived : List PendingEvent) (c : Change) : List PendingEvent :=
  (arrived.filter fun x => ¬ c.Drops x) ++ c.adds

end Change

/-- The plain list of arrivals that changes make of an empty one. -/
def arrivals (changes : List Change) : List PendingEvent :=
  changes.foldl Change.onArrivals []

section Order

variable {l l' : List PendingEvent} {x : PendingEvent} {b : Word}

theorem mem_ofBlock : x ∈ ofBlock b l ↔ x ∈ l ∧ x.block = b := by
  simp [ofBlock]

theorem ofBlock_cons_self (x : PendingEvent) (l : List PendingEvent) :
    ofBlock x.block (x :: l) = x :: ofBlock x.block l := by
  simp [ofBlock]

theorem ofBlock_cons_ne (other : x.block ≠ b) : ofBlock b (x :: l) = ofBlock b l := by
  simp [ofBlock, other]

theorem ofBlock_append (b : Word) (l l' : List PendingEvent) :
    ofBlock b (l ++ l') = ofBlock b l ++ ofBlock b l' :=
  List.filter_append l l'

theorem mem_of_ofBlock_eq (same : ∀ b, ofBlock b l = ofBlock b l') (member : x ∈ l) : x ∈ l' := by
  have here : x ∈ ofBlock x.block l := mem_ofBlock.mpr ⟨member, rfl⟩
  rw [same] at here
  exact (mem_ofBlock.mp here).1

theorem ofBlock_eq_of_cons (same : ∀ b, ofBlock b (x :: l) = ofBlock b (x :: l')) (b : Word) :
    ofBlock b l = ofBlock b l' := by
  have there := same b
  by_cases here : x.block = b
  · subst here
    rw [ofBlock_cons_self, ofBlock_cons_self] at there
    exact (List.cons.inj there).2
  · rw [ofBlock_cons_ne here, ofBlock_cons_ne here] at there
    exact there

/-- The first of a list in ascending order lies below all of it. -/
theorem head_block_le {y : PendingEvent}
    (sorted : (x :: l).Pairwise fun a b => a.block ≤ b.block) (member : y ∈ x :: l) :
    x.block ≤ y.block := by
  rcases List.mem_cons.mp member with rfl | inside
  · exact BitVec.le_refl _
  · exact (List.pairwise_cons.mp sorted).1 y inside

/-- A list in ascending order is known from the entries of each block. -/
theorem eq_of_ofBlock_eq (sorted : l.Pairwise fun a b => a.block ≤ b.block)
    (sorted' : l'.Pairwise fun a b => a.block ≤ b.block)
    (same : ∀ b, ofBlock b l = ofBlock b l') : l = l' := by
  have same' : ∀ b, ofBlock b l' = ofBlock b l := fun b => (same b).symm
  induction l generalizing l' with
  | nil =>
    cases l' with
    | nil => rfl
    | cons y rest' => cases mem_of_ofBlock_eq same' List.mem_cons_self
  | cons x rest ih =>
    cases l' with
    | nil => cases mem_of_ofBlock_eq same List.mem_cons_self
    | cons y rest' =>
      have above := head_block_le sorted (mem_of_ofBlock_eq same' List.mem_cons_self)
      have below := head_block_le sorted' (mem_of_ofBlock_eq same List.mem_cons_self)
      have level : y.block = x.block := BitVec.le_antisymm below above
      have heads := same x.block
      rw [ofBlock_cons_self, ← level, ofBlock_cons_self] at heads
      obtain ⟨rfl, -⟩ := List.cons.inj heads
      have others := ofBlock_eq_of_cons same
      have tails := ih (List.pairwise_cons.mp sorted).2 (List.pairwise_cons.mp sorted').2 others
        fun b => (others b).symm
      rw [tails]

theorem sorted_inBlockOrder (arrived : List PendingEvent) :
    (inBlockOrder arrived).Pairwise fun a b => a.block ≤ b.block := by
  have transitive : ∀ a b c, notAfter a b = true → notAfter b c = true → notAfter a c = true := by
    intro a b c
    simpa only [notAfter, decide_eq_true_eq] using BitVec.le_trans
  have total : ∀ a b, (notAfter a b || notAfter b a) = true := by
    intro a b
    simpa [notAfter] using BitVec.le_total a.block b.block
  have sorted := List.pairwise_mergeSort transitive total arrived
  simpa only [inBlockOrder, notAfter, decide_eq_true_eq] using sorted

/-- Putting a list in order keeps the entries of each block as they are. -/
theorem ofBlock_inBlockOrder (b : Word) (arrived : List PendingEvent) :
    ofBlock b (inBlockOrder arrived) = ofBlock b arrived := by
  have level : (ofBlock b arrived).Pairwise fun x y => notAfter x y = true := by
    refine List.pairwise_of_forall_mem_list ?_
    intro x hx y hy
    rw [notAfter, (mem_ofBlock.mp hx).2, (mem_ofBlock.mp hy).2]
    exact decide_eq_true (BitVec.le_refl b)
  have within : (ofBlock b arrived).Sublist (inBlockOrder arrived) :=
    List.sublist_mergeSort
      (fun a b c => by simpa only [notAfter, decide_eq_true_eq] using BitVec.le_trans)
      (fun a b => by simpa [notAfter] using BitVec.le_total a.block b.block)
      level List.filter_sublist
  have kept := within.filter fun x => x.block = b
  have itself : (ofBlock b arrived).filter (fun x => x.block = b) = ofBlock b arrived :=
    List.filter_filter.trans (List.filter_congr fun x _ => Bool.and_self _)
  rw [itself] at kept
  have count : (ofBlock b (inBlockOrder arrived)).length = (ofBlock b arrived).length :=
    ((List.mergeSort_perm arrived notAfter).filter _).length_eq
  exact (kept.eq_of_length_le (Nat.le_of_eq count)).symm

theorem ofBlock_filter (b : Word) (keep : PendingEvent → Bool) (l : List PendingEvent) :
    ofBlock b (l.filter keep) = (ofBlock b l).filter keep := by
  rw [ofBlock, ofBlock, List.filter_filter, List.filter_filter]
  exact List.filter_congr fun x _ => Bool.and_comm _ _

/-- Dropping entries and putting the others in order may change places. -/
theorem filter_inBlockOrder (keep : PendingEvent → Bool) (arrived : List PendingEvent) :
    (inBlockOrder arrived).filter keep = inBlockOrder (arrived.filter keep) := by
  refine eq_of_ofBlock_eq ((sorted_inBlockOrder arrived).sublist List.filter_sublist)
    (sorted_inBlockOrder _) ?_
  intro b
  rw [ofBlock_filter, ofBlock_inBlockOrder, ofBlock_inBlockOrder, ofBlock_filter]

/-- A block in front of a list in ascending order has no entries in it. -/
theorem ofBlock_eq_nil (sorted : (x :: l).Pairwise fun a b => a.block ≤ b.block)
    (before : b < x.block) : ofBlock b (x :: l) = [] := by
  rw [List.eq_nil_iff_forall_not_mem]
  intro y member
  obtain ⟨inside, level⟩ := mem_ofBlock.mp member
  have lowest := head_block_le sorted inside
  rw [level] at lowest
  exact absurd (BitVec.le_def.mp lowest) (Nat.not_le.mpr (BitVec.lt_def.mp before))

/-- In a list in ascending order a new entry comes behind those of its block. -/
theorem ofBlock_place (sorted : l.Pairwise fun a b => a.block ≤ b.block) (e : PendingEvent)
    (b : Word) : ofBlock b (place e l) = ofBlock b l ++ ofBlock b [e] := by
  induction l with
  | nil => rfl
  | cons x rest ih =>
    have later := (List.pairwise_cons.mp sorted).2
    simp only [place]
    split
    · rename_i before
      by_cases here : e.block = b
      · subst here
        rw [ofBlock_cons_self, ofBlock_cons_self, ofBlock_eq_nil sorted (BitVec.lt_def.mpr before)]
        rfl
      · rw [ofBlock_cons_ne here, ofBlock_cons_ne here]
        exact (List.append_nil _).symm
    · by_cases here : x.block = b
      · subst here
        rw [ofBlock_cons_self, ofBlock_cons_self, ih later]
        rfl
      · rw [ofBlock_cons_ne here, ofBlock_cons_ne here, ih later]

theorem place_inBlockOrder (e : PendingEvent) (arrived : List PendingEvent) :
    place e (inBlockOrder arrived) = inBlockOrder (arrived ++ [e]) := by
  have sorted := sorted_inBlockOrder arrived
  refine eq_of_ofBlock_eq (sorted_place e sorted) (sorted_inBlockOrder _) ?_
  intro b
  rw [ofBlock_place sorted, ofBlock_inBlockOrder, ofBlock_inBlockOrder, ofBlock_append]

end Order

/-- A queue holds a list of arrivals in the stable order of blocks, and answers as the list: to a
removal with the number of entries that it drops, and to an eviction with these entries. -/
structure Arranges (q : Queue) (arrived : List PendingEvent) : Prop where
  entries : q.entries = inBlockOrder arrived
  stable : ∀ b, ofBlock b q.entries = ofBlock b arrived
  sorted : q.Sorted
  size : q.size = arrived.length
  isEmpty : q.isEmpty = arrived.isEmpty
  contains : ∀ e, q.contains e = true ↔ ∃ x ∈ arrived, x.identity = e.identity
  firstBlock : arrived ≠ [] → IsLeast {b | ∃ x ∈ arrived, x.block = b} q.firstBlock
  firstBlock_empty : arrived = [] → q.firstBlock = 0
  removed : ∀ e, q.countMatching e = ((Change.removeMatching e).dropped arrived).length
  evicted : ∀ latest depth,
    q.leftovers latest depth = inBlockOrder ((Change.evict latest depth).dropped arrived)

section Refinement

variable {arrived : List PendingEvent}

theorem mem_inBlockOrder {x : PendingEvent} : x ∈ inBlockOrder arrived ↔ x ∈ arrived :=
  List.mem_mergeSort

theorem perm_inBlockOrder (arrived : List PendingEvent) : (inBlockOrder arrived).Perm arrived :=
  List.mergeSort_perm arrived notAfter

theorem firstBlock_isLeast (some_there : arrived ≠ []) :
    IsLeast {b | ∃ x ∈ arrived, x.block = b} (firstBlock ⟨inBlockOrder arrived⟩) := by
  have sorted : Sorted ⟨inBlockOrder arrived⟩ := sorted_inBlockOrder arrived
  constructor
  · cases ordered : inBlockOrder arrived with
    | nil =>
      have empty := (perm_inBlockOrder arrived).symm
      rw [ordered] at empty
      exact absurd empty.eq_nil some_there
    | cons x rest =>
      have member : x ∈ inBlockOrder arrived := ordered ▸ List.mem_cons_self
      exact ⟨x, mem_inBlockOrder.mp member, rfl⟩
  · rintro b ⟨x, member, rfl⟩
    exact sorted.firstBlock_le (mem_inBlockOrder.mpr member)

theorem arranges_inBlockOrder (arrived : List PendingEvent) :
    Arranges ⟨inBlockOrder arrived⟩ arrived where
  entries := rfl
  stable := fun b => ofBlock_inBlockOrder b arrived
  sorted := sorted_inBlockOrder arrived
  size := (perm_inBlockOrder arrived).length_eq
  isEmpty := (perm_inBlockOrder arrived).isEmpty_eq
  contains := by
    intro e
    simp only [contains_iff, PendingEvent.sameLog_iff, mem_inBlockOrder]
  firstBlock := firstBlock_isLeast
  firstBlock_empty := by
    rintro rfl
    rw [inBlockOrder, List.mergeSort_nil]
    rfl
  removed := by
    intro e
    rw [countMatching, (perm_inBlockOrder arrived).countP_eq, List.countP_eq_length_filter]
    rfl
  evicted := by
    intro latest depth
    rw [leftovers, filter_inBlockOrder, Change.dropped]
    congr 1
    apply List.filter_congr
    intro x _
    rw [Bool.eq_iff_iff, PendingEvent.isLeftover_iff, decide_eq_true_iff]
    rfl

/-- One change of the queue is the same change of the list of arrivals. -/
theorem change_inBlockOrder (arrived : List PendingEvent) (c : Change) :
    change ⟨inBlockOrder arrived⟩ c = ⟨inBlockOrder (Change.onArrivals arrived c)⟩ := by
  cases c with
  | insert e =>
    have all_kept : arrived.filter (fun x => ¬ (Change.insert e).Drops x) = arrived :=
      List.filter_eq_self.mpr fun x _ => decide_eq_true id
    rw [change, insert, place_inBlockOrder, Change.onArrivals, all_kept]
    rfl
  | removeMatching e =>
    simp only [change, removeMatching, filter_inBlockOrder, Change.onArrivals, Change.adds,
      List.append_nil]
    congr 2
    apply List.filter_congr
    intro x _
    rw [Bool.eq_iff_iff, Bool.not_eq_true', Bool.eq_false_iff, ne_eq, PendingEvent.sameLog_iff,
      decide_eq_true_iff]
    rfl
  | evict latest depth =>
    simp only [change, evict, filter_inBlockOrder, Change.onArrivals, Change.adds,
      List.append_nil]
    congr 2
    apply List.filter_congr
    intro x _
    rw [Bool.eq_iff_iff, PendingEvent.not_isLeftover_iff, decide_eq_true_iff]
    rfl

theorem after_eq (changes : List Change) : after changes = ⟨inBlockOrder (arrivals changes)⟩ := by
  have step (arrived : List PendingEvent) :
      changes.foldl change ⟨inBlockOrder arrived⟩ =
        ⟨inBlockOrder (changes.foldl Change.onArrivals arrived)⟩ := by
    induction changes generalizing arrived with
    | nil => rfl
    | cons c rest ih =>
      rw [List.foldl_cons, List.foldl_cons, change_inBlockOrder, ih]
  have start : inBlockOrder [] = [] := List.mergeSort_nil
  have run := step []
  rw [start] at run
  exact run

end Refinement

/-- The queue refines the plain list of arrivals: whatever changes were made of an empty queue, it
holds the list in the stable order of blocks, and every answer is that of the list. -/
theorem queue_refines_arrivals (changes : List Change) :
    (after changes).Arranges (arrivals changes) := by
  rw [after_eq]
  exact arranges_inBlockOrder (arrivals changes)

end Queue

end StarWatch
