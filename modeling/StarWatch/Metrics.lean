import StarWatch.Event.Kind
import StarWatch.Numeral

/-!
# Metrics

Counters of what became of the events, and a gauge of the queue's length. The
text exposition lists the families by name, and the samples of a family by
label. A counter that is split by kind has a sample only for the kinds it has
counted, and no entry at all before the first of them.
-/

namespace StarWatch

/-- A counter for each kind of event. -/
structure Tally where
  count : EventKind → Nat

namespace Tally

def zero : Tally := ⟨fun _ => 0⟩

def bump (t : Tally) (k : EventKind) : Tally :=
  ⟨fun j => if j = k then t.count j + 1 else t.count j⟩

def total (t : Tally) : Nat := EventKind.all.foldr (fun k n => t.count k + n) 0

theorem count_bump (t : Tally) (k j : EventKind) :
    (t.bump k).count j = t.count j + if j = k then 1 else 0 := by
  simp only [bump]
  split <;> rfl

theorem total_bump (t : Tally) (k : EventKind) : (t.bump k).total = t.total + 1 := by
  cases k <;> simp [total, EventKind.all, bump] <;> omega

end Tally

/-- Counts of live notifications that were queued, of events forwarded and calls failed, of entries
that a removal took back or that grew too old, and of scans that did not reach their end; and the
queue's length when it was last looked at. -/
structure Metrics where
  queued : Tally
  dispatched : Tally
  failed : Tally
  purged : Nat
  evicted : Nat
  aborted : Nat
  queueLength : Nat

namespace Metrics

def zero : Metrics :=
  { queued := .zero, dispatched := .zero, failed := .zero,
    purged := 0, evicted := 0, aborted := 0, queueLength := 0 }

inductive Samples where
  | counter (n : Nat)
  | gauge (n : Nat)
  | byKind (t : Tally)

structure Family where
  name : String
  help : String
  samples : Samples

def kindsByLabel : List EventKind := [.changeName, .create, .purchase, .putForSale, .removeFromSale]

def Samples.type : Samples → String
  | counter _ => "counter"
  | gauge _ => "gauge"
  | byKind _ => "counter"

def Family.lines (f : Family) : List String :=
  match f.samples with
  | .counter n => [f.name ++ " " ++ Numeral.decimal n]
  | .gauge n => [f.name ++ " " ++ Numeral.decimal n]
  | .byKind t =>
    (kindsByLabel.filter fun k => t.count k != 0).map fun k =>
      f.name ++ "\x7bevent_type=\"" ++ k.label ++ "\"\x7d " ++ Numeral.decimal (t.count k)

/-- A family's text; a family without a sample is left out. -/
def Family.text (f : Family) : String :=
  match f.lines with
  | [] => ""
  | lines =>
    let head :=
      ["# HELP " ++ f.name ++ " " ++ f.help, "# TYPE " ++ f.name ++ " " ++ f.samples.type]
    String.join ((head ++ lines).map fun line => line ++ "\n")

def families (m : Metrics) : List Family :=
  [⟨"snl_events_dispatched_total", "Total number of confirmed events forwarded downstream",
    .byKind m.dispatched⟩,
   ⟨"snl_events_evicted_total",
    "Total number of leftover events evicted without being forwarded", .counter m.evicted⟩,
   ⟨"snl_events_purged_total", "Total number of pending events purged by reorg notices",
    .counter m.purged⟩,
   ⟨"snl_events_queued_total", "Total number of live notifications queued", .byKind m.queued⟩,
   ⟨"snl_notify_failures_total", "Total number of failed downstream calls", .byKind m.failed⟩,
   ⟨"snl_queue_length", "Number of events awaiting confirmation", .gauge m.queueLength⟩,
   ⟨"snl_scans_aborted_total", "Total number of reconciliation scans aborted",
    .counter m.aborted⟩]

def exposition (m : Metrics) : String := String.join (m.families.map Family.text)

end Metrics

end StarWatch
