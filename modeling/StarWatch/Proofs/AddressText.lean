import Mathlib.Data.List.Forall2
import StarWatch.Address
import StarWatch.Proofs.Numerals
import StarWatch.Proofs.Trimming

/-!
# Which texts are addresses

What stands between the blanks of a text decides how it is read. There is a
marker in front or none, what follows is hexadecimal or something else, and the
digits are twenty pairs, another number of pairs, or not paired. Each text has
one of these forms, and `Address.parse` tells which.
-/

namespace StarWatch

namespace Numeral

/-- A character is the hexadecimal digit of a number below sixteen, in lower or in upper case. -/
def StandsFor (c : Char) (d : Nat) : Prop :=
  d < 16 ∧ (c = digitChar d ∨ c = (digitChar d).toUpper)

instance (c : Char) (d : Nat) : Decidable (StandsFor c d) :=
  inferInstanceAs (Decidable (d < 16 ∧ (c = digitChar d ∨ c = (digitChar d).toUpper)))

def IsHexDigit (c : Char) : Prop := ∃ d, StandsFor c d

section Hexadecimal

variable {c : Char} {d n : Nat} {cs : List Char} {ds : List Nat}

theorem toNat_lt_of_hexValue? (read : hexValue? c = some d) : c.toNat < 103 := by
  have ordered : ∀ {c d : Char}, c ≤ d → c.toNat ≤ d.toNat := fun below => below
  simp only [hexValue?] at read
  split at read
  · rename_i numeral
    exact Nat.lt_of_le_of_lt (ordered numeral.2) (by decide)
  · split at read
    · rename_i lower
      exact Nat.lt_of_le_of_lt (ordered lower.2) (by decide)
    · split at read
      · rename_i upper
        exact Nat.lt_of_le_of_lt (ordered upper.2) (by decide)
      · cases read

theorem hexValue?_eq_some_iff : hexValue? c = some d ↔ StandsFor c d := by
  constructor
  · intro read
    have table : ∀ n < 103, ∀ d ∈ hexValue? (Char.ofNat n), StandsFor (Char.ofNat n) d := by
      decide +kernel
    have found := table c.toNat (toNat_lt_of_hexValue? read)
    rw [Char.ofNat_toNat] at found
    exact found d read
  · have table : ∀ d < 16, hexValue? (digitChar d).toUpper = some d := by decide
    rintro ⟨small, rfl | rfl⟩
    · exact hexValue?_digitChar d small
    · exact table d small

theorem mapM_hexValue?_eq_some_iff :
    cs.mapM hexValue? = some ds ↔ List.Forall₂ StandsFor cs ds := by
  induction cs generalizing ds with
  | nil => simp [eq_comm]
  | cons c rest ih =>
    simp only [mapM_cons_eq_some_iff, List.forall₂_cons_left_iff, hexValue?_eq_some_iff, ih]
    constructor
    · rintro ⟨d, others, first, behind, rfl⟩
      exact ⟨d, others, first, behind, rfl⟩
    · rintro ⟨d, others, first, behind, rfl⟩
      exact ⟨d, others, first, behind, rfl⟩

theorem ofHexChars?_eq_some (digits : List.Forall₂ StandsFor cs ds) :
    ofHexChars? cs = some (value 16 ds) := by
  rw [ofHexChars?, mapM_hexValue?_eq_some_iff.mpr digits, Option.map_some]

theorem exists_forall₂_of_isHexDigit (digits : ∀ c ∈ cs, IsHexDigit c) :
    ∃ ds, List.Forall₂ StandsFor cs ds := by
  induction cs with
  | nil => exact ⟨[], .nil⟩
  | cons c rest ih =>
    obtain ⟨⟨d, first⟩, others⟩ := List.forall_mem_cons.mp digits
    obtain ⟨ds, behind⟩ := ih others
    exact ⟨d :: ds, .cons first behind⟩

theorem isHexDigit_of_ofHexChars? (read : ofHexChars? cs = some n) : ∀ c ∈ cs, IsHexDigit c := by
  rw [ofHexChars?, Option.map_eq_some_iff] at read
  obtain ⟨ds, values, -⟩ := read
  rw [mapM_hexValue?_eq_some_iff] at values
  induction values with
  | nil => simp
  | cons first _ ih => exact List.forall_mem_cons.mpr ⟨⟨_, first⟩, ih⟩

theorem value_lt_of_forall₂ (digits : List.Forall₂ StandsFor cs ds) :
    value 16 ds < 16 ^ cs.length := by
  rw [digits.length_eq]
  apply value_lt
  intro d member
  induction digits with
  | nil => cases member
  | cons first _ ih =>
    rcases List.mem_cons.mp member with rfl | behind
    · exact first.1
    · exact ih behind

/-- A digit takes one byte. -/
theorem size_of_isHexDigit (digits : ∀ c ∈ cs, IsHexDigit c) : Utf8.size cs = cs.length := by
  have table : ∀ d < 16, (digitChar d).utf8Size = 1 ∧ (digitChar d).toUpper.utf8Size = 1 := by
    decide
  induction cs with
  | nil => rfl
  | cons c rest ih =>
    obtain ⟨⟨d, small, first⟩, others⟩ := List.forall_mem_cons.mp digits
    have one : c.utf8Size = 1 := by
      rcases first with rfl | rfl
      · exact (table d small).1
      · exact (table d small).2
    rw [Utf8.size, one, ih others, List.length_cons, Nat.add_comm]

end Hexadecimal

end Numeral

namespace Address

def Marked (text rest : List Char) : Prop := text = '0' :: 'x' :: rest ∨ text = '0' :: 'X' :: rest

/-- What a text without blanks at its ends is found to be. -/
inductive Judged (text : List Char) : Except AddressError Address → Prop
  | accepted {rest : List Char} {ds : List Nat} {a : Address} (marked : Marked text rest)
      (width : rest.length = 40) (digits : List.Forall₂ Numeral.StandsFor rest ds)
      (number : a.bits.toNat = Numeral.value 16 ds) : Judged text (.ok a)
  | unmarked (bare : ∀ rest, ¬ Marked text rest) :
      Judged text (.error (.missingMarker (String.ofList text)))
  | garbled {rest : List Char} (marked : Marked text rest)
      (garbled : Utf8.size rest % 2 = 1 ∨ ∃ c ∈ rest, ¬ Numeral.IsHexDigit c) :
      Judged text (.error (.invalidHex (String.ofList text)))
  | misfit {rest : List Char} {n : Nat} (marked : Marked text rest)
      (digits : ∀ c ∈ rest, Numeral.IsHexDigit c) (width : rest.length = 2 * n)
      (other : n ≠ 20) : Judged text (.error (.invalidLength n))

section Judging

variable {input : String} {text rest : List Char} {answer : Except AddressError Address}

theorem body?_eq_some_iff : body? text = some rest ↔ Marked text rest := by
  unfold body? Marked
  split
  · simp
  · simp
  · simp_all

/-- Forty digits fill an address. -/
theorem exists_accepted (marked : Marked text rest) (width : rest.length = 40)
    (digits : ∀ c ∈ rest, Numeral.IsHexDigit c) : ∃ a, Judged text (.ok a) := by
  obtain ⟨ds, values⟩ := Numeral.exists_forall₂_of_isHexDigit digits
  have below := Numeral.value_lt_of_forall₂ values
  rw [width] at below
  refine ⟨⟨BitVec.ofNat 160 (Numeral.value 16 ds)⟩, .accepted marked width values ?_⟩
  rw [BitVec.toNat_ofNat]
  exact Nat.mod_eq_of_lt below

/-- Every text is found to be something. -/
theorem exists_judged (text : List Char) : ∃ answer, Judged text answer := by
  by_cases bare : ∀ rest, ¬ Marked text rest
  · exact ⟨_, .unmarked bare⟩
  · rw [not_forall_not] at bare
    obtain ⟨rest, marked⟩ := bare
    by_cases digits : ∀ c ∈ rest, Numeral.IsHexDigit c
    · by_cases odd : rest.length % 2 = 1
      · have size := Numeral.size_of_isHexDigit digits
        exact ⟨_, .garbled marked (.inl (size ▸ odd))⟩
      · by_cases width : rest.length = 40
        · obtain ⟨a, judged⟩ := exists_accepted marked width digits
          exact ⟨_, judged⟩
        · have pairs : rest.length = 2 * (rest.length / 2) := by omega
          exact ⟨_, .misfit marked digits pairs (by omega)⟩
    · simp only [not_forall] at digits
      obtain ⟨c, member, other⟩ := digits
      exact ⟨_, .garbled marked (.inr ⟨c, member, other⟩)⟩

theorem parse_of_judged (judged : Judged (Text.trim input.toList) answer) :
    parse input = answer := by
  unfold parse
  cases judged with
  | accepted marked width digits number =>
    rename_i ds a
    have whole : (⟨BitVec.ofNat 160 (Numeral.value 16 ds)⟩ : Address) = a := by
      rw [← number, BitVec.ofNat_toNat, BitVec.setWidth_eq]
    simp [body?_eq_some_iff.mpr marked, Numeral.ofHexChars?_eq_some digits, width, whole]
  | unmarked bare =>
    have none_there : body? (Text.trim input.toList) = none := by
      rw [Option.eq_none_iff_forall_ne_some]
      intro rest found
      exact bare rest (body?_eq_some_iff.mp found)
    simp [none_there]
  | garbled marked garbled =>
    rename_i rest
    simp only [body?_eq_some_iff.mpr marked]
    cases read : Numeral.ofHexChars? rest with
    | none => rfl
    | some n =>
      have digits := Numeral.isHexDigit_of_ofHexChars? read
      rcases garbled with odd | ⟨c, member, other⟩
      · rw [Numeral.size_of_isHexDigit digits] at odd
        simp [odd]
      · exact absurd (digits c member) other
  | misfit marked digits width other =>
    rename_i rest n
    obtain ⟨ds, values⟩ := Numeral.exists_forall₂_of_isHexDigit digits
    have even : ¬ rest.length % 2 = 1 := by omega
    have short : ¬ rest.length = 40 := by omega
    have half : rest.length / 2 = n := by omega
    simp [body?_eq_some_iff.mpr marked, Numeral.ofHexChars?_eq_some values, even, short, half]

end Judging

/-- The answer of `parse` follows from the form of what is left of a text without the blanks at
its ends: an address is a marker and forty hexadecimal digits. -/
theorem parse_judges (input : String) :
    ∃ text, (∀ other, Text.Trims input.toList other ↔ other = text) ∧
      ∀ answer, parse input = answer ↔ Judged text answer := by
  refine ⟨Text.trim input.toList, fun other => Text.trims_iff, ?_⟩
  intro answer
  constructor
  · rintro rfl
    obtain ⟨answer, judged⟩ := exists_judged (Text.trim input.toList)
    rw [parse_of_judged judged]
    exact judged
  · exact parse_of_judged

example : parse "\u20030XabcD\n" = .error (.invalidLength 2) := by decide +kernel

end Address

end StarWatch
