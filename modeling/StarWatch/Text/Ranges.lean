/-!
# Ranges of characters

A class of characters is written as closed ranges of code points. `isAmong_iff`
says what it means to be in one of them.
-/

namespace StarWatch.Text

/-- Whether a character is inside one of some closed ranges. -/
def isAmong (ranges : List (Nat × Nat)) (c : Char) : Bool :=
  ranges.any fun range => range.1 ≤ c.toNat && c.toNat ≤ range.2

theorem isAmong_iff {ranges : List (Nat × Nat)} {c : Char} :
    isAmong ranges c ↔ ∃ range ∈ ranges, range.1 ≤ c.toNat ∧ c.toNat ≤ range.2 := by
  simp [isAmong]

end StarWatch.Text
