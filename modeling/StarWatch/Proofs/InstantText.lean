import StarWatch.Event.Notice
import StarWatch.Proofs.CivilDays
import StarWatch.Proofs.Numerals
import StarWatch.Proofs.Trimming

/-!
# The text of an instant is read back

Every field of the text is a numeral in front of a mark that is no digit, so the
reader takes the whole numeral and nothing more. A year beyond 9999 has a sign in
front, behind which any number of digits is read. The date and the second of the
day then give the instant again, for the calendar undoes itself.
-/

namespace StarWatch.Instant

open Numeral

variable {n w max low high : Nat} {mark : Char} {rest : List Char}

section Numbers

def paddedDigits (w n : Nat) : List Nat :=
  List.replicate (w - (digits 10 n).length) 0 ++ digits 10 n

theorem atLeast_eq_map (w n : Nat) : atLeast w n = (paddedDigits w n).map digitChar := by
  have zero : digitChar 0 = '0' := by decide
  simp only [atLeast, decimalChars, paddedDigits, List.map_append, List.map_replicate,
    List.length_map, zero]

theorem lt_of_mem_paddedDigits {d : Nat} (member : d ∈ paddedDigits w n) : d < 10 := by
  rw [paddedDigits, List.mem_append] at member
  rcases member with zero | digit
  · have front := List.eq_of_mem_replicate zero
    omega
  · exact lt_of_mem_digits (by decide) digit

theorem value_paddedDigits (w n : Nat) : value 10 (paddedDigits w n) = n := by
  rw [paddedDigits, value_append, value_zeros, value_digits, Nat.zero_mul, Nat.zero_add]

theorem length_paddedDigits_le (small : n < 10 ^ (w + 1)) :
    (paddedDigits (w + 1) n).length ≤ w + 1 := by
  have short := length_digits_le (b := 10) (by decide) small
  rw [paddedDigits, List.length_append, List.length_replicate]
  omega

/-- A numeral begins with a digit. -/
theorem exists_atLeast (w n : Nat) : ∃ d, d < 10 ∧ ∃ cs, atLeast w n = digitChar d :: cs := by
  cases shown : paddedDigits w n with
  | nil => exact absurd (List.append_eq_nil_iff.mp shown).2 (digits_ne_nil 10 n)
  | cons d ds =>
    refine ⟨d, lt_of_mem_paddedDigits (shown ▸ List.mem_cons_self), ds.map digitChar, ?_⟩
    rw [atLeast_eq_map, shown, List.map_cons]

/-- The digits in front of a mark are taken, and nothing more. -/
theorem takeDigits_map {ds : List Nat} (rest : List Char) (small : ∀ d ∈ ds, d < 10)
    (enough : ds.length ≤ max) (other : decimalValue? mark = none) :
    takeDigits max (ds.map digitChar ++ mark :: rest) = (ds, mark :: rest) := by
  induction ds generalizing max with
  | nil =>
    cases max with
    | zero => rfl
    | succ max => simp [takeDigits, other]
  | cons d ds ih =>
    cases max with
    | zero => cases enough
    | succ max =>
      obtain ⟨digit, others⟩ := List.forall_mem_cons.mp small
      simp [takeDigits, decimalValue?_digitChar d digit, ih others (Nat.le_of_succ_le_succ enough)]

theorem readNumber_atLeast (rest : List Char) (enough : (paddedDigits w n).length ≤ max)
    (other : decimalValue? mark = none) :
    readNumber max (atLeast w n ++ mark :: rest) = some (n, mark :: rest) := by
  have taken := takeDigits_map rest (fun d => lt_of_mem_paddedDigits) enough other
  have number := value_paddedDigits w n
  rw [atLeast_eq_map, readNumber, taken]
  cases shown : paddedDigits w n with
  | nil => exact absurd (List.append_eq_nil_iff.mp shown).2 (digits_ne_nil 10 n)
  | cons d ds =>
    rw [shown] at number
    simp only [number]

end Numbers

section Fields

theorem isBlank_digitChar : ∀ d < 10, Text.isBlank (digitChar d) = false := by decide

theorem trimLeft_atLeast (w n : Nat) (rest : List Char) :
    Text.trimLeft (atLeast w n ++ rest) = atLeast w n ++ rest := by
  obtain ⟨d, digit, cs, shown⟩ := exists_atLeast w n
  rw [shown, List.cons_append, Text.trimLeft_cons (isBlank_digitChar d digit)]

theorem readField_atLeast (bounds : low ≤ n ∧ n ≤ high) (short : n < 100)
    (other : decimalValue? mark = none) :
    readField low high (atLeast 2 n ++ mark :: rest) = some (n, mark :: rest) := by
  have enough : (paddedDigits 2 n).length ≤ 2 := length_paddedDigits_le (w := 1) short
  simp [readField, trimLeft_atLeast, readNumber_atLeast rest enough other, bounds]

theorem readMark_cons (visible : Text.isBlank mark = false) :
    readMark mark (mark :: rest) = some rest := by
  simp [readMark, Text.trimLeft_cons visible]

/-- A year of four digits, and one of any length behind a sign, is read whole. -/
theorem readYear_writeYear (year : Int) (other : decimalValue? mark = none) :
    readYear (writeYear year ++ mark :: rest) = some (year, mark :: rest) := by
  rw [writeYear]
  split
  · rename_i plain
    have enough : (paddedDigits 4 year.toNat).length ≤ 4 :=
      length_paddedDigits_le (w := 3) (by omega)
    have read := readNumber_atLeast rest enough other
    obtain ⟨d, digit, cs, shown⟩ := exists_atLeast 4 year.toNat
    have signs : ∀ d < 10, digitChar d ≠ '-' ∧ digitChar d ≠ '+' := by decide
    obtain ⟨minus, plus⟩ := signs d digit
    rw [readYear, trimLeft_atLeast]
    rw [shown, List.cons_append] at read ⊢
    split
    · rename_i first
      exact absurd (List.cons.inj first).1 minus
    · rename_i first
      exact absurd (List.cons.inj first).1 plus
    · have number : (year.toNat : Int) = year := Int.toNat_of_nonneg plain.1
      simp only [read, Option.map_some, number]
  · rename_i long
    have enough : (paddedDigits 4 year.natAbs).length ≤
        (atLeast 4 year.natAbs ++ mark :: rest).length := by
      rw [atLeast_eq_map, List.length_append, List.length_map]
      omega
    have read := readNumber_atLeast rest enough other
    split
    · rename_i negative
      have number : -(year.natAbs : Int) = year := by omega
      rw [List.cons_append, readYear, Text.trimLeft_cons (by decide)]
      simp only [read, Option.map_some, number]
    · rename_i positive
      have number : (year.natAbs : Int) = year := by omega
      rw [List.cons_append, readYear, Text.trimLeft_cons (by decide)]
      simp only [read, Option.map_some, number]

end Fields

section Whole

/-- The instants of the calendar at a whole second. -/
structure IsWhole (t : Instant) : Prop where
  nanos : t.nanos = 0
  year_bounds : minYear ≤ (Calendar.ofDayNumber (t.seconds / 86400)).year ∧
    (Calendar.ofDayNumber (t.seconds / 86400)).year ≤ maxYear

theorem readDate_write {date : Date} (valid : Calendar.Valid date) (rest : List Char) :
    readDate (writeYear date.year ++
      '-' :: (atLeast 2 date.month ++ '-' :: (atLeast 2 date.day ++ 'T' :: rest))) =
      some (date, 'T' :: rest) := by
  obtain ⟨month_low, month_high, day_low, day_high⟩ := valid
  have day_bound : date.day ≤ 31 := by
    simp only [Calendar.daysInMonth] at day_high
    split_ifs at day_high
    all_goals omega
  have dash : decimalValue? '-' = none := by decide
  have letter : decimalValue? 'T' = none := by decide
  have visible : Text.isBlank '-' = false := by decide
  simp [readDate, readYear_writeYear date.year dash, readMark_cons visible,
    readField_atLeast ⟨month_low, month_high⟩ (by omega) dash,
    readField_atLeast ⟨day_low, day_bound⟩ (by omega) letter]

theorem readTime_write (time : Nat) (inDay : time < 86400) :
    readTime (atLeast 2 (time / 3600) ++
      ':' :: (atLeast 2 (time / 60 % 60) ++ ':' :: (atLeast 2 (time % 60) ++ ['Z']))) =
      some ((time, 0), ['Z']) := by
  have colon : decimalValue? ':' = none := by decide
  have letter : decimalValue? 'Z' = none := by decide
  have visible : Text.isBlank ':' = false := by decide
  have hour : ∀ rest, readField 0 23 (atLeast 2 (time / 3600) ++ ':' :: rest) =
      some (time / 3600, ':' :: rest) :=
    fun rest => readField_atLeast (by omega) (by omega) colon
  have minute : ∀ rest, readField 0 59 (atLeast 2 (time / 60 % 60) ++ ':' :: rest) =
      some (time / 60 % 60, ':' :: rest) :=
    fun rest => readField_atLeast (by omega) (by omega) colon
  have second : readField 0 60 (atLeast 2 (time % 60) ++ ['Z']) = some (time % 60, ['Z']) :=
    readField_atLeast (by omega) (by omega) letter
  have no_leap : time % 60 ≠ 60 := by omega
  have sum : time / 3600 * 3600 + time / 60 % 60 * 60 + time % 60 = time := by omega
  simp [readTime, hour, minute, second, readMark_cons visible, readFraction, no_leap, sum]

theorem IsWhole.ofLocal? {t : Instant} (whole : IsWhole t) :
    ofLocal? (Calendar.ofDayNumber (t.seconds / 86400)) (t.seconds % 86400).toNat 0 0 = some t := by
  obtain ⟨nanos, low, high⟩ := whole
  have valid := Calendar.valid_ofDayNumber (t.seconds / 86400)
  have seconds : t.seconds / 86400 * 86400 + ((t.seconds % 86400).toNat : Int) - 0 = t.seconds := by
    omega
  rw [Instant.ofLocal?, Calendar.dayNumber_ofDayNumber]
  simp only [seconds]
  rw [if_pos ⟨valid, low, high, by decide, by decide, low, high⟩, ← nanos]

/-- The text of a whole second in the calendar is read as this second. -/
theorem IsWhole.read?_write {t : Instant} (whole : IsWhole t) : read? t.write = some t := by
  have date := readDate_write (Calendar.valid_ofDayNumber (t.seconds / 86400))
  have time := readTime_write (t.seconds % 86400).toNat (by omega)
  have letter : Text.trimLeft ['Z'] = ['Z'] := by decide
  have done : Text.trimLeft [] = [] := by decide
  rw [read?, write, String.toList_ofList]
  simp [readChars?, writeChars, writeFraction, whole.nanos, date, separates, time, letter,
    readOffset, done, whole.ofLocal?]

/-- The days up to the last second of a timestamp lie in the years of the calendar. -/
theorem year_bounds {day : Int} (first : 0 ≤ day) (last : day ≤ 95026236) :
    minYear ≤ (Calendar.ofDayNumber day).year ∧ (Calendar.ofDayNumber day).year ≤ maxYear := by
  obtain ⟨year, month, dayOfMonth, d, shown, number⟩ := Calendar.exists_marchDay day
  obtain ⟨months, first_day, -, inYear, -⟩ := d
  simp only [Calendar.eraDays, Calendar.epochShift, Calendar.yearStart] at number
  have start : 0 ≤ Calendar.monthStart month ∧ (10 ≤ month → 306 ≤ Calendar.monthStart month) := by
    rw [Calendar.monthStart]
    omega
  have era : 0 ≤ year / 400 ∧ year / 400 ≤ 655 := by omega
  have final : year / 400 = 655 → year % 400 ≤ 142 ∧ (10 ≤ month → year % 400 ≤ 141) := by omega
  rw [shown, Calendar.marchDate]
  simp only [minYear, maxYear]
  split
  · simp only
    omega
  · simp only
    omega

theorem isWhole_of_time? {block : Block} {t : Instant} (stamp : block.time? = some t) :
    IsWhole t := by
  rw [Block.time?, ofTimestamp?] at stamp
  split at stamp
  · rename_i reached
    cases stamp
    have last : block.timestamp.toNat ≤ 8210266876799 := reached
    have first_day : 0 ≤ (block.timestamp.toNat : Int) / 86400 := by omega
    have last_day : (block.timestamp.toNat : Int) / 86400 ≤ 95026236 := by omega
    exact ⟨rfl, year_bounds first_day last_day⟩
  · cases stamp

end Whole

end StarWatch.Instant
