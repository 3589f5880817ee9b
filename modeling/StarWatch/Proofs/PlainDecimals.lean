import Mathlib.Algebra.Order.Field.Rat
import Mathlib.Data.Nat.Cast.Order.Ring
import Mathlib.Order.Compare
import Mathlib.Tactic.FieldSimp
import Mathlib.Tactic.Ring
import StarWatch.Proofs.Amounts

/-!
# Amounts have one plain numeral

A plain numeral has no superfluous digit: no zero in front of other digits, no
zero at the end of a fraction, and no point without a fraction. Two plain
numerals of one number are the same text. Their whole parts and their fractions
are equal as numbers; a longer fraction would then be a shorter one times a
power of ten, and so end with a zero. The text of an amount is plain, so it is
the only plain numeral of the amount in ether.
-/

namespace StarWatch

namespace Numeral

/-- A text has the digits of a whole part and, if there are any, a point and those of a fraction,
and none of them is superfluous. -/
structure IsPlain (text : List Char) (whole fraction : List Nat) : Prop where
  written : text = whole.map digitChar ++
    if fraction = [] then [] else '.' :: fraction.map digitChar
  digits : ∀ d ∈ whole ++ fraction, d < 10
  some_there : whole ≠ []
  leading : whole.head? = some 0 → whole = [0]
  trailing : fraction.getLast? ≠ some 0

section Values

variable {text : List Char} {whole fraction ds es : List Nat} {b : Nat}

/-- Digits are known by how many they are and what they denote. -/
theorem eq_of_value_eq (small : ∀ d ∈ ds, d < b) (small' : ∀ d ∈ es, d < b)
    (length : ds.length = es.length) (same : value b ds = value b es) : ds = es := by
  rw [← padded_value small, ← padded_value small', length, same]

/-- A fraction that does not end with zero is no multiple of ten. -/
theorem not_dvd_value (small : ∀ d ∈ ds, d < 10) (trailing : ds.getLast? ≠ some 0)
    (some_there : ds ≠ []) : ¬ 10 ∣ value 10 ds := by
  obtain ⟨front, last, rfl⟩ := (List.eq_nil_or_concat ds).resolve_left some_there
  rw [List.concat_eq_append] at small trailing ⊢
  have digit : last < 10 := small last (by simp)
  have nonzero : last ≠ 0 := by
    rintro rfl
    exact trailing List.getLast?_concat
  rw [value_append_singleton]
  omega

/-- Fractions of one value that do not end with zero are equally long: of two that are not, the
longer one would be the shorter one times a power of ten. -/
theorem length_le_of_scaled (small : ∀ d ∈ ds, d < 10) (trailing : ds.getLast? ≠ some 0)
    (same : value 10 ds * 10 ^ es.length = value 10 es * 10 ^ ds.length) :
    ds.length ≤ es.length := by
  by_contra longer
  obtain ⟨more, length⟩ := Nat.exists_eq_add_of_lt (Nat.lt_of_not_le longer)
  have some_there : ds ≠ [] := by
    rintro rfl
    rw [List.length_nil] at length
    omega
  have scaled : value 10 ds = value 10 es * 10 ^ (more + 1) := by
    have power : 10 ^ ds.length = 10 ^ (more + 1) * 10 ^ es.length := by
      rw [length, Nat.add_assoc, Nat.add_comm, Nat.pow_add]
    rw [power, ← Nat.mul_assoc] at same
    exact Nat.eq_of_mul_eq_mul_right (Nat.pow_pos (by decide)) same
  apply not_dvd_value small trailing some_there
  rw [scaled, Nat.pow_succ]
  exact (Nat.dvd_mul_left 10 _).mul_left _

end Values

/-- A whole number and a fraction are known by their sum. -/
theorem parts_eq {n m x y k l : Nat} (below : x < 10 ^ k) (below' : y < 10 ^ l)
    (same : (n : ℚ) + (x : ℚ) / 10 ^ k = (m : ℚ) + (y : ℚ) / 10 ^ l) :
    n = m ∧ x * 10 ^ l = y * 10 ^ k := by
  field_simp at same
  have whole : (n * 10 ^ k + x) * 10 ^ l = 10 ^ k * (m * 10 ^ l + y) := by exact_mod_cast same
  have scaled : n * (10 ^ k * 10 ^ l) + x * 10 ^ l = m * (10 ^ k * 10 ^ l) + y * 10 ^ k := by
    calc n * (10 ^ k * 10 ^ l) + x * 10 ^ l = (n * 10 ^ k + x) * 10 ^ l := by ring
      _ = 10 ^ k * (m * 10 ^ l + y) := whole
      _ = m * (10 ^ k * 10 ^ l) + y * 10 ^ k := by ring
  have left : x * 10 ^ l < 10 ^ k * 10 ^ l :=
    Nat.mul_lt_mul_of_pos_right below (Nat.pow_pos (by decide))
  have right : y * 10 ^ k < 10 ^ k * 10 ^ l := by
    rw [Nat.mul_comm (10 ^ k)]
    exact Nat.mul_lt_mul_of_pos_right below' (Nat.pow_pos (by decide))
  obtain ⟨quotient, remainder⟩ := split_last left n
  obtain ⟨quotient', remainder'⟩ := split_last right m
  constructor
  · rw [← quotient, scaled, quotient']
  · rw [← remainder, scaled, remainder']

namespace IsPlain

variable {text : List Char} {whole fraction : List Nat}

theorem small (plain : IsPlain text whole fraction) :
    (∀ d ∈ whole, d < 10) ∧ ∀ d ∈ fraction, d < 10 :=
  List.forall_mem_append.mp plain.digits

/-- The number that a plain numeral denotes. -/
theorem denotes (plain : IsPlain text whole fraction) :
    rational? text =
      some ((value 10 whole : ℚ) + (value 10 fraction : ℚ) / 10 ^ fraction.length) := by
  obtain ⟨small, small'⟩ := plain.small
  have points : ∀ c ∈ whole.map digitChar, c ≠ '.' := by
    intro c member
    obtain ⟨d, digit, rfl⟩ := List.mem_map.mp member
    exact digitChar_ne_point d (small d digit)
  have read := natural?_map small plain.some_there
  rw [plain.written]
  split
  · rename_i none_there
    rw [List.append_nil, rational?_whole points read, none_there]
    simp [value]
  · rename_i some_there
    rw [rational?_point points read (natural?_map small' some_there), List.length_map]

/-- Two plain numerals of one number are the same text. -/
theorem unique (plain : IsPlain text whole fraction) {text' : List Char}
    {whole' fraction' : List Nat} (plain' : IsPlain text' whole' fraction')
    (same : rational? text = rational? text') : text = text' := by
  obtain ⟨small, fraction_small⟩ := plain.small
  obtain ⟨small', fraction_small'⟩ := plain'.small
  rw [plain.denotes, plain'.denotes] at same
  obtain ⟨wholes, fractions⟩ :=
    parts_eq (value_lt fraction_small) (value_lt fraction_small') (Option.some.inj same)
  have length : fraction.length = fraction'.length :=
    Nat.le_antisymm (length_le_of_scaled fraction_small plain.trailing fractions)
      (length_le_of_scaled fraction_small' plain'.trailing fractions.symm)
  have values : value 10 fraction = value 10 fraction' := by
    rw [length] at fractions
    exact Nat.eq_of_mul_eq_mul_right (Nat.pow_pos (by decide)) fractions
  have front : whole = whole' := by
    rw [← digits_value (by decide) small plain.some_there plain.leading,
      ← digits_value (by decide) small' plain'.some_there plain'.leading, wholes]
  have behind : fraction = fraction' := eq_of_value_eq fraction_small fraction_small' length values
  rw [plain.written, plain'.written, front, behind]

end IsPlain

end Numeral

namespace Ether

def unitWord : Word := BitVec.ofNat 256 unit

def inEther (e : Ether) : ℚ := (e.wei.toNat : ℚ) / 10 ^ 18

def fractionDigits (wei : Nat) : List Nat := dropZeros (Numeral.padded 10 18 (wei % unit))

theorem getLast?_dropZeros (ds : List Nat) : (dropZeros ds).getLast? ≠ some 0 := by
  rw [dropZeros, List.getLast?_reverse]
  intro zero
  have stops := List.head?_dropWhile_not (fun d => decide (d = 0)) ds.reverse
  rw [zero] at stops
  cases stops

theorem fractionDigits_eq_nil_iff {wei : Nat} : fractionDigits wei = [] ↔ unit ∣ wei := by
  rw [Nat.dvd_iff_mod_eq_zero]
  constructor
  · intro none_there
    obtain ⟨k, fraction, _⟩ := exists_fraction (Nat.mod_lt wei (show 0 < unit by decide))
    rw [fractionDigits] at none_there
    rw [none_there] at fraction
    rw [← fraction]
    exact Nat.zero_mul _
  · intro divides
    rw [fractionDigits, divides]
    decide

theorem isPlain_numeral (wei : Nat) :
    Numeral.IsPlain (numeral wei) (Numeral.digits 10 (wei / unit)) (fractionDigits wei) where
  written := by
    simp only [numeral, fractionDigits_eq_nil_iff, Nat.dvd_iff_mod_eq_zero]
    split
    · rw [List.append_nil]
      rfl
    · rfl
  digits := by
    refine List.forall_mem_append.mpr ⟨?_, ?_⟩
    · intro d
      exact Numeral.lt_of_mem_digits (by decide)
    · intro d
      exact lt_of_mem_dropZeros fun d => Numeral.lt_of_mem_padded (by decide)
  some_there := Numeral.digits_ne_nil _ _
  leading zero := by
    rw [Numeral.eq_zero_of_head?_digits (by decide) zero]
    exact Numeral.digits_of_lt (by decide)
  trailing := getLast?_dropZeros _

theorem length_fractionDigits_le (wei : Nat) : (fractionDigits wei).length ≤ 18 := by
  obtain ⟨k, _, width⟩ := exists_fraction (Nat.mod_lt wei (show 0 < unit by decide))
  rw [fractionDigits]
  omega

theorem rational?_text_eq (e : Ether) : Numeral.rational? e.text.toList = some e.inEther := by
  obtain ⟨x, read, scaled⟩ := e.rational?_text
  rw [read, inEther, ← scaled, mul_div_cancel_right₀]
  positivity

/-- The quotient and the remainder of two words are those of their numbers, and nothing is lost
where the remainder is cut to sixty-four bits. -/
theorem words_of_parts (e : Ether) :
    (e.wei / unitWord).toNat = e.wei.toNat / unit ∧
      (e.wei % unitWord).low64.toNat = e.wei.toNat % unit := by
  have one : unitWord.toNat = unit := by decide
  constructor
  · rw [BitVec.toNat_udiv, one]
  · have below : e.wei.toNat % unit < 2 ^ 64 :=
      Nat.lt_trans (Nat.mod_lt _ (show 0 < unit by decide)) (by decide)
    rw [Word.low64, BitVec.toNat_umod, one, UInt64.toNat_ofNat_of_lt' below]

theorem inEther_mul (e : Ether) : e.inEther * 10 ^ 18 = e.wei.toNat := by
  rw [inEther, div_mul_cancel₀]
  positivity

theorem inEther_inj {a b : Ether} : a.inEther = b.inEther ↔ a = b := by
  constructor
  · intro same
    have wei := a.inEther_mul
    rw [same, b.inEther_mul] at wei
    have numbers : b.wei.toNat = a.wei.toNat := by exact_mod_cast wei
    obtain ⟨a⟩ := a
    obtain ⟨b⟩ := b
    exact congrArg Ether.mk (BitVec.eq_of_toNat_eq numbers.symm)
  · rintro rfl
    rfl

theorem compare_eq (a b : Ether) : a.compare b = cmp a.inEther b.inEther := by
  have scale : (0 : ℚ) < 10 ^ 18 := by positivity
  rw [← cmp_mul_pos_right scale, inEther_mul, inEther_mul, compare, ← cmp_eq_compare]
  exact (Nat.strictMono_cast.cmp_map_eq _ _).symm

/-- How an amount is shown: without a superfluous digit, and with a fraction of up to eighteen
digits exactly if it is not a whole number of ether. The parts of the text are the quotient of two
words, and their remainder cut to sixty-four bits. -/
structure Shown (e : Ether) : Prop where
  plain : ∃ whole fraction, Numeral.IsPlain e.text.toList whole fraction ∧ fraction.length ≤ 18 ∧
    (fraction ≠ [] ↔ ¬ 10 ^ 18 ∣ e.wei.toNat)
  read : Numeral.rational? e.text.toList = some e.inEther
  exact_wei : e.inEther * 10 ^ 18 = e.wei.toNat
  unique : ∀ text whole fraction, Numeral.IsPlain text whole fraction →
    Numeral.rational? text = some e.inEther → text = e.text.toList
  words : (e.wei / unitWord).toNat = e.wei.toNat / unit ∧
    (e.wei % unitWord).low64.toNat = e.wei.toNat % unit

theorem shown (e : Ether) : e.Shown := by
  have written : e.text.toList = numeral e.wei.toNat := by rw [text, String.toList_ofList]
  have plain := isPlain_numeral e.wei.toNat
  rw [← written] at plain
  constructor
  · refine ⟨_, _, plain, length_fractionDigits_le _, not_congr ?_⟩
    exact fractionDigits_eq_nil_iff
  · exact e.rational?_text_eq
  · exact e.inEther_mul
  · intro text whole fraction plain' read
    exact plain'.unique plain (read.trans e.rational?_text_eq.symm)
  · exact e.words_of_parts

/-- The text of every amount is the only plain numeral of the amount in ether. So amounts are told
apart by their texts, and ordered as the numbers that these denote. -/
theorem text_is_only_plain_numeral (a : Ether) : a.Shown ∧ ∀ b : Ether,
    (a.text = b.text ↔ a = b) ∧ (a.inEther = b.inEther ↔ a = b) ∧
      a.compare b = cmp a.inEther b.inEther := by
  refine ⟨a.shown, fun b => ⟨⟨?_, ?_⟩, inEther_inj, compare_eq a b⟩⟩
  · intro same
    have read := a.rational?_text_eq
    rw [same, b.rational?_text_eq] at read
    exact (inEther_inj.mp (Option.some.inj read)).symm
  · rintro rfl
    rfl

end Ether

end StarWatch
