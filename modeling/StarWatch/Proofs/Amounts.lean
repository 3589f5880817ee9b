import Mathlib.Algebra.Field.Rat
import Mathlib.Data.List.TakeWhile
import Mathlib.Tactic.NormNum
import StarWatch.Ether
import StarWatch.Proofs.Numerals

/-!
# Amounts of ether are read back

A plain decimal numeral denotes a rational number: its whole part, and the digits
behind a point over a power of ten. The numeral of an amount denotes the amount
in ether exactly; the zeros that are dropped at its end only cancel against the
power of ten.
-/

namespace StarWatch

namespace Numeral

def natural? (cs : List Char) : Option Nat := if cs = [] then none else ofDecimalChars? cs

/-- The number that a plain decimal numeral denotes: digits, or digits on both sides of a point. -/
def rational? (cs : List Char) : Option ℚ :=
  match cs.dropWhile (· ≠ '.') with
  | [] => (natural? cs).map fun n : Nat => (n : ℚ)
  | _ :: ds => do
    let whole ← natural? (cs.takeWhile (· ≠ '.'))
    let fraction ← natural? ds
    some ((whole : ℚ) + (fraction : ℚ) / 10 ^ ds.length)

section Points

variable {cs ds : List Char} {n m : Nat}

theorem rational?_whole (digits : ∀ c ∈ cs, c ≠ '.') (read : natural? cs = some n) :
    rational? cs = some (n : ℚ) := by
  have no_point : cs.dropWhile (· ≠ '.') = [] :=
    List.dropWhile_eq_nil_iff.mpr fun c member => decide_eq_true (digits c member)
  simp only [rational?, no_point, read, Option.map_some]

theorem rational?_point (digits : ∀ c ∈ cs, c ≠ '.') (read : natural? cs = some n)
    (read' : natural? ds = some m) :
    rational? (cs ++ '.' :: ds) = some ((n : ℚ) + (m : ℚ) / 10 ^ ds.length) := by
  have passes : ∀ c ∈ cs, decide (c ≠ '.') = true := fun c member =>
    decide_eq_true (digits c member)
  have behind : (cs ++ '.' :: ds).dropWhile (· ≠ '.') = '.' :: ds := by
    rw [List.dropWhile_append_of_pos passes]
    rfl
  have before : (cs ++ '.' :: ds).takeWhile (· ≠ '.') = cs := by
    rw [List.takeWhile_append_of_pos passes, List.takeWhile_cons_of_neg (by decide),
      List.append_nil]
  simp only [rational?, behind, before, read, read', Option.bind_eq_bind, Option.bind_some]

end Points

theorem digitChar_ne_point : ∀ d < 10, digitChar d ≠ '.' := by decide

theorem decimalChars_ne_point (n : Nat) : ∀ c ∈ decimalChars n, c ≠ '.' := by
  intro c member
  obtain ⟨d, digit, rfl⟩ := List.mem_map.mp member
  exact digitChar_ne_point d (lt_of_mem_digits (by decide) digit)

theorem natural?_decimalChars (n : Nat) : natural? (decimalChars n) = some n := by
  rw [natural?, if_neg (decimalChars_ne_nil n), ofDecimalChars?_decimalChars]

theorem natural?_decimal (n : Nat) : natural? (decimal n).toList = some n := by
  rw [decimal, String.toList_ofList, natural?_decimalChars]

theorem natural?_map {ds : List Nat} (small : ∀ d ∈ ds, d < 10) (some_there : ds ≠ []) :
    natural? (ds.map digitChar) = some (value 10 ds) := by
  rw [natural?, if_neg (by rwa [List.map_eq_nil_iff]), ofDecimalChars?_map small]

end Numeral

namespace Ether

/-- What is dropped at the end of a numeral are zeros. -/
theorem exists_dropZeros (ds : List Nat) : ∃ k, ds = dropZeros ds ++ List.replicate k 0 := by
  have parts := List.takeWhile_append_dropWhile (p := (· = 0)) (l := ds.reverse)
  have zeros : ds.reverse.takeWhile (· = 0) =
      List.replicate (ds.reverse.takeWhile (· = 0)).length 0 :=
    List.eq_replicate_of_mem fun d member => by simpa using List.mem_takeWhile_imp member
  refine ⟨(ds.reverse.takeWhile (· = 0)).length, ?_⟩
  rw [dropZeros, ← List.reverse_replicate, ← List.reverse_append, ← zeros, parts,
    List.reverse_reverse]

theorem lt_of_mem_dropZeros {ds : List Nat} {b d : Nat} (small : ∀ d ∈ ds, d < b)
    (member : d ∈ dropZeros ds) : d < b := by
  obtain ⟨_, split⟩ := exists_dropZeros ds
  rw [split] at small
  exact small d (List.mem_append_left _ member)

/-- The digits behind the point, over their power of ten, are the fraction over one ether. -/
theorem exists_fraction {fraction : Nat} (below : fraction < unit) :
    ∃ k, Numeral.value 10 (dropZeros (Numeral.padded 10 18 fraction)) * 10 ^ k = fraction ∧
      (dropZeros (Numeral.padded 10 18 fraction)).length + k = 18 := by
  obtain ⟨k, split⟩ := exists_dropZeros (Numeral.padded 10 18 fraction)
  have whole := Numeral.value_padded_of_lt (b := 10) (w := 18) (n := fraction) below
  have width := Numeral.length_padded 10 18 fraction
  rw [split] at whole width
  rw [Numeral.value_append, Numeral.value_zeros, Nat.add_zero, List.length_replicate] at whole
  rw [List.length_append, List.length_replicate] at width
  exact ⟨k, whole, width⟩

/-- The numeral of an amount denotes it exactly. -/
theorem rational?_numeral (wei : Nat) :
    ∃ x : ℚ, Numeral.rational? (numeral wei) = some x ∧ x * 10 ^ 18 = wei := by
  have parts : unit * (wei / unit) + wei % unit = wei := Nat.div_add_mod wei unit
  have unit_eq : (unit : ℚ) = 10 ^ 18 := by norm_num [unit]
  have whole := Numeral.natural?_decimalChars (wei / unit)
  have points := Numeral.decimalChars_ne_point (wei / unit)
  simp only [numeral]
  split
  · rename_i none_left
    refine ⟨_, Numeral.rational?_whole points whole, ?_⟩
    rw [none_left, Nat.add_zero] at parts
    rw [← unit_eq, mul_comm, ← Nat.cast_mul, parts]
  · rename_i some_left
    obtain ⟨k, fraction, width⟩ := exists_fraction (Nat.mod_lt wei (show 0 < unit by decide))
    generalize kept : dropZeros (Numeral.padded 10 18 (wei % unit)) = ds at fraction width
    have some_there : ds ≠ [] := by
      rintro rfl
      rw [show Numeral.value 10 [] = 0 from rfl, Nat.zero_mul] at fraction
      exact some_left fraction.symm
    have small : ∀ d ∈ ds, d < 10 := by
      intro d member
      rw [← kept] at member
      exact lt_of_mem_dropZeros (fun d => Numeral.lt_of_mem_padded (by decide)) member
    refine ⟨_, Numeral.rational?_point points whole (Numeral.natural?_map small some_there), ?_⟩
    rw [List.length_map]
    have power : (10 : ℚ) ^ 18 = 10 ^ ds.length * 10 ^ k := by rw [← pow_add, width]
    have nonzero : (10 : ℚ) ^ ds.length ≠ 0 := pow_ne_zero _ (by norm_num)
    calc ((wei / unit : ℕ) + (Numeral.value 10 ds : ℚ) / 10 ^ ds.length) * 10 ^ 18
        = 10 ^ 18 * (wei / unit : ℕ) +
            (Numeral.value 10 ds : ℚ) / 10 ^ ds.length * (10 ^ ds.length * 10 ^ k) := by
          rw [add_mul, mul_comm, ← power]
      _ = (unit : ℚ) * (wei / unit : ℕ) + (Numeral.value 10 ds : ℚ) * 10 ^ k := by
          rw [unit_eq, ← mul_assoc, div_mul_cancel₀ _ nonzero]
      _ = ((unit * (wei / unit) + Numeral.value 10 ds * 10 ^ k : ℕ) : ℚ) := by push_cast; rfl
      _ = wei := by rw [fraction, parts]

/-- The text of an amount, read as a number of ether, is the amount. -/
theorem rational?_text (e : Ether) :
    ∃ x : ℚ, Numeral.rational? e.text.toList = some x ∧ x * 10 ^ 18 = e.wei.toNat := by
  rw [text, String.toList_ofList]
  exact rational?_numeral e.wei.toNat

end Ether

end StarWatch
