import Mathlib.Data.Finsupp.Multiset
import Mathlib.Data.Finsupp.Weight
import StarWatch.Queue

/-!
# Pending events by identity

Membership, removal and eviction of the queue, said of log identities. The
counts of a queue say how often each identity is pending. Ages are compared on
256-bit words, so an event ahead of the chain's head has none.
-/

namespace StarWatch

/-- At least `depth` blocks lie on top of a block. -/
def Word.Deep (block latest : Word) (depth : Nat) : Prop :=
  block ≤ latest ∧ depth ≤ (latest - block).toNat

instance (block latest : Word) (depth : Nat) : Decidable (Word.Deep block latest depth) :=
  inferInstanceAs (Decidable (_ ∧ _))

/-- More than `depth` blocks lie on top of a block. -/
def Word.Aged (block latest : Word) (depth : Nat) : Prop :=
  block ≤ latest ∧ depth < (latest - block).toNat

instance (block latest : Word) (depth : Nat) : Decidable (Word.Aged block latest depth) :=
  inferInstanceAs (Decidable (_ ∧ _))

/-- Depth compares unbounded numbers: nothing wraps, for blocks ahead of the head either. -/
theorem Word.deep_iff_add_le {block latest : Word} {depth : Nat} :
    block.Deep latest depth ↔ block.toNat + depth ≤ latest.toNat := by
  constructor
  · rintro ⟨reached, confirmed⟩
    rw [BitVec.toNat_sub_of_le reached] at confirmed
    rw [BitVec.le_def] at reached
    omega
  · intro below
    have reached : block ≤ latest := BitVec.le_def.mpr (by omega)
    refine ⟨reached, ?_⟩
    rw [BitVec.toNat_sub_of_le reached]
    omega

theorem Word.aged_iff_deep {block latest : Word} {depth : Nat} :
    block.Aged latest depth ↔ block.Deep latest (depth + 1) :=
  Iff.rfl

namespace PendingEvent

theorem ofLog?_fields {payload : Payload} {log : Log} {event : PendingEvent}
    (made : ofLog? payload log = some event) :
    event.block = log.block ∧ event.removed = log.removed := by
  simp only [ofLog?] at made
  split at made
  · cases made
  · split at made
    · cases made
      exact ⟨rfl, rfl⟩
    · cases made

theorem sameLog_iff (a b : PendingEvent) : a.sameLog b = true ↔ a.identity = b.identity := by
  simp [sameLog]

@[simp] theorem sameLog_self (e : PendingEvent) : e.sameLog e = true :=
  (sameLog_iff e e).mpr rfl

theorem block_eq_of_identity {a b : PendingEvent} (same : a.identity = b.identity) :
    a.block = b.block :=
  congrArg LogIdentity.block same

theorem isConfirmed_iff (e : PendingEvent) (latest : Word) (depth : Nat) :
    e.isConfirmed latest depth = true ↔ e.block.Deep latest depth := by
  simp only [isConfirmed, confirmations?, Word.Deep, BitVec.le_def]
  by_cases reached : e.block.toNat ≤ latest.toNat
  · simp [reached]
  · simp [reached]

theorem isLeftover_iff (e : PendingEvent) (latest : Word) (depth : Nat) :
    e.isLeftover latest depth = true ↔ e.block.Aged latest depth := by
  simp only [isLeftover, confirmations?, Word.Aged, BitVec.le_def]
  by_cases reached : e.block.toNat ≤ latest.toNat
  · simp [reached]
  · simp [reached]

theorem not_isLeftover_iff (e : PendingEvent) (latest : Word) (depth : Nat) :
    (!e.isLeftover latest depth) = true ↔ ¬ e.block.Aged latest depth := by
  rw [Bool.not_eq_true', Bool.eq_false_iff, ne_eq, isLeftover_iff]

end PendingEvent

abbrev Counts := LogIdentity →₀ ℕ

namespace Queue

theorem contains_iff (q : Queue) (e : PendingEvent) :
    q.contains e = true ↔ ∃ x ∈ q.entries, x.sameLog e = true := by
  simp [contains]

theorem contains_of_mem {q : Queue} {e : PendingEvent} (member : e ∈ q.entries) :
    q.contains e = true :=
  (q.contains_iff e).mpr ⟨e, member, e.sameLog_self⟩

noncomputable def counts (q : Queue) : Counts :=
  Multiset.toFinsupp (q.entries.map PendingEvent.identity : Multiset LogIdentity)

theorem counts_apply (q : Queue) (id : LogIdentity) :
    q.counts id = (q.entries.map PendingEvent.identity).count id := by
  simp [counts]

theorem countMatching_eq_counts (q : Queue) (e : PendingEvent) :
    q.countMatching e = q.counts e.identity := by
  rw [counts_apply, List.count_eq_countP, List.countP_map]
  apply List.countP_congr
  intro x _
  simp [PendingEvent.sameLog_iff]

theorem contains_iff_counts_pos (q : Queue) (e : PendingEvent) :
    q.contains e = true ↔ 1 ≤ q.counts e.identity := by
  rw [contains_iff, ← countMatching_eq_counts, countMatching, Nat.succ_le_iff, List.countP_pos_iff]

/-- An event is added to the entries, wherever it is placed. -/
theorem perm_place (e : PendingEvent) (entries : List PendingEvent) :
    (place e entries).Perm (e :: entries) := by
  induction entries with
  | nil => rfl
  | cons x rest ih =>
    simp only [place]
    split
    · rfl
    · exact (ih.cons x).trans (.swap e x rest)

theorem counts_insert (q : Queue) (e : PendingEvent) :
    (q.insert e).counts = q.counts + Finsupp.single e.identity 1 := by
  have placed := perm_place e q.entries
  ext id
  rw [Finsupp.add_apply, counts_apply, counts_apply, insert, (placed.map _).count_eq,
    List.map_cons, List.count_cons, Finsupp.single_apply]
  simp only [beq_iff_eq]

/-- A filter on what identities say filters the counts. -/
theorem counts_filter (q : Queue) (keep : PendingEvent → Bool) (P : LogIdentity → Prop)
    [DecidablePred P] (agrees : ∀ x, keep x = true ↔ P x.identity) :
    counts ⟨q.entries.filter keep⟩ = q.counts.filter P := by
  ext id
  rw [counts_apply, Finsupp.filter_apply, counts_apply, List.count_eq_countP,
    List.count_eq_countP, List.countP_map, List.countP_map, List.countP_filter]
  split
  · rename_i kept
    apply List.countP_congr
    intro x _
    simp only [Function.comp, beq_iff_eq, Bool.and_eq_true]
    exact ⟨And.left, fun same => ⟨same, (agrees x).mpr (same ▸ kept)⟩⟩
  · rename_i dropped
    rw [List.countP_eq_zero]
    intro x _ both
    simp only [Function.comp, beq_iff_eq, Bool.and_eq_true] at both
    exact dropped (both.1 ▸ (agrees x).mp both.2)

theorem counts_removeMatching (q : Queue) (e : PendingEvent) :
    (q.removeMatching e).counts = q.counts.erase e.identity := by
  have kept := q.counts_filter (fun x => !x.sameLog e) (fun id => id ≠ e.identity)
    (by intro x; simp [PendingEvent.sameLog])
  rw [removeMatching, kept]
  ext id
  by_cases same : id = e.identity
  · subst same
    simp
  · rw [Finsupp.filter_apply_pos (fun id => id ≠ e.identity) _ same, Finsupp.erase_ne same]

theorem counts_evict (q : Queue) (latest : Word) (depth : Nat) :
    (q.evict latest depth).counts = q.counts.filter fun id => ¬ id.block.Aged latest depth := by
  exact q.counts_filter _ (fun id => ¬ id.block.Aged latest depth)
    fun x => x.not_isLeftover_iff latest depth

theorem evict_entries (q : Queue) (latest : Word) (depth : Nat) :
    (q.evict latest depth).entries =
      q.entries.filter fun x => ¬ x.block.Aged latest depth := by
  apply List.filter_congr
  intro x _
  rw [Bool.eq_iff_iff, PendingEvent.not_isLeftover_iff, decide_eq_true_iff]

theorem degree_counts (q : Queue) : q.counts.degree = q.size := by
  have total :=
    Multiset.toFinsupp_sum_eq (q.entries.map PendingEvent.identity : Multiset LogIdentity)
  rw [Multiset.coe_card, List.length_map] at total
  exact total

/-- The leftovers are as many as the counts of the aged identities add up to. -/
theorem length_leftovers (q : Queue) (latest : Word) (depth : Nat) :
    (q.leftovers latest depth).length =
      (q.counts.filter fun id => id.block.Aged latest depth).degree := by
  rw [← q.counts_filter (fun x => x.isLeftover latest depth) _
    (fun x => x.isLeftover_iff latest depth), degree_counts]
  rfl

/-- Where nothing matches, nothing is removed. -/
theorem removeMatching_eq_self {q : Queue} {e : PendingEvent} (none : q.countMatching e = 0) :
    q.removeMatching e = q := by
  rw [countMatching, List.countP_eq_zero] at none
  rw [removeMatching, List.filter_eq_self.mpr]
  intro x hx
  rw [Bool.not_eq_true', Bool.eq_false_iff]
  exact none x hx

theorem size_evict (q : Queue) (latest : Word) (depth : Nat) :
    (q.evict latest depth).size + (q.leftovers latest depth).length = q.size := by
  rw [Nat.add_comm]
  exact (List.length_eq_length_filter_add (PendingEvent.isLeftover · latest depth)).symm

end Queue

end StarWatch
