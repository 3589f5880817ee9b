import StarWatch.Proofs.Pending

/-!
# The order of the queue

However a queue was changed since it was empty, its entries stand in ascending
order of their blocks. So none of them lies below the first block.
-/

namespace StarWatch

namespace Queue

inductive Change where
  | insert (e : PendingEvent)
  | removeMatching (e : PendingEvent)
  | evict (latest : Word) (depth : Nat)

def change (q : Queue) : Change → Queue
  | .insert e => q.insert e
  | .removeMatching e => q.removeMatching e
  | .evict latest depth => q.evict latest depth

/-- The queue that changes make of an empty one. -/
def after (changes : List Change) : Queue := changes.foldl change empty

/-- The entries stand in ascending order of their blocks. -/
def Sorted (q : Queue) : Prop := q.entries.Pairwise fun a b => a.block ≤ b.block

theorem sorted_place (e : PendingEvent) {entries : List PendingEvent}
    (sorted : entries.Pairwise fun a b => a.block ≤ b.block) :
    (place e entries).Pairwise fun a b => a.block ≤ b.block := by
  induction entries with
  | nil => exact List.pairwise_singleton _ e
  | cons x rest ih =>
    obtain ⟨first, later⟩ := List.pairwise_cons.mp sorted
    simp only [place]
    split
    · rename_i before
      have below : e.block ≤ x.block := BitVec.le_of_lt (BitVec.lt_def.mpr before)
      refine List.pairwise_cons.mpr ⟨?_, sorted⟩
      intro y hy
      rcases List.mem_cons.mp hy with rfl | hy
      · exact below
      · exact BitVec.le_trans below (first y hy)
    · rename_i behind
      have above : x.block ≤ e.block := BitVec.le_def.mpr (Nat.le_of_not_lt behind)
      refine List.pairwise_cons.mpr ⟨?_, ih later⟩
      intro y hy
      rcases mem_place.mp hy with rfl | hy
      · exact above
      · exact first y hy

theorem Sorted.sublist {q q' : Queue} (sorted : q.Sorted)
    (kept : q'.entries.Sublist q.entries) : q'.Sorted :=
  List.Pairwise.sublist kept sorted

theorem Sorted.change {q : Queue} (sorted : q.Sorted) (c : Change) : (q.change c).Sorted := by
  cases c with
  | insert e => exact sorted_place e sorted
  | removeMatching e => exact sorted.sublist List.filter_sublist
  | evict latest depth => exact sorted.sublist List.filter_sublist

theorem sorted_after (changes : List Change) : (after changes).Sorted := by
  have step (q : Queue) (sorted : q.Sorted) : (changes.foldl Queue.change q).Sorted := by
    induction changes generalizing q with
    | nil => exact sorted
    | cons c rest ih => exact ih _ (sorted.change c)
  exact step empty List.Pairwise.nil

theorem Sorted.firstBlock_le {q : Queue} (sorted : q.Sorted) {e : PendingEvent}
    (member : e ∈ q.entries) : q.firstBlock ≤ e.block := by
  rw [firstBlock]
  cases entries : q.entries with
  | nil =>
    rw [entries] at member
    cases member
  | cons x rest =>
    rw [Sorted, entries] at sorted
    rw [entries] at member
    rcases List.mem_cons.mp member with rfl | later
    · exact BitVec.le_refl _
    · exact (List.pairwise_cons.mp sorted).1 e later

end Queue

end StarWatch
