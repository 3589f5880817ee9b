import Mathlib.Algebra.Group.Nat.Defs
import Mathlib.Data.List.Basic
import Mathlib.Data.List.Induction
import StarWatch.Numeral

/-!
# Numerals are read back

The digits of a numeral lie below its base, a shortest numeral has no zero in
front and no more digits than its number needs, and the characters of digits are
read as these digits. So the decimal and the hexadecimal numeral of a number
denote that number.
-/

namespace StarWatch.Numeral

section Digits

variable {b n w d : Nat}

theorem digits_of_lt (small : n < b) : digits b n = [n] := by
  rw [digits, if_neg]
  omega

theorem digits_of_le (base : 2 ≤ b) (large : b ≤ n) :
    digits b n = digits b (n / b) ++ [n % b] := by
  rw [digits, if_pos ⟨base, large⟩]

theorem div_lt_of_base_le (base : 2 ≤ b) (large : b ≤ n) : n / b < n :=
  Nat.div_lt_self (by omega) (by omega)

theorem lt_of_mem_digits (base : 2 ≤ b) (member : d ∈ digits b n) : d < b := by
  induction n using Nat.strongRecOn with
  | ind n ih =>
    by_cases small : n < b
    · rw [digits_of_lt small, List.mem_singleton] at member
      omega
    · rw [Nat.not_lt] at small
      rw [digits_of_le base small, List.mem_append, List.mem_singleton] at member
      rcases member with front | rfl
      · exact ih _ (div_lt_of_base_le base small) front
      · exact Nat.mod_lt _ (by omega)

theorem digits_ne_nil (b n : Nat) : digits b n ≠ [] := by
  rw [digits]
  split
  · simp
  · simp

/-- A number below `b ^ (w + 1)` has at most `w + 1` digits. -/
theorem length_digits_le (base : 2 ≤ b) (small : n < b ^ (w + 1)) :
    (digits b n).length ≤ w + 1 := by
  induction w generalizing n with
  | zero =>
    rw [Nat.zero_add, Nat.pow_one] at small
    exact Nat.le_of_eq (congrArg List.length (digits_of_lt small))
  | succ w ih =>
    by_cases short : n < b
    · rw [digits_of_lt short, List.length_singleton]
      omega
    · rw [Nat.not_lt] at short
      have front : n / b < b ^ (w + 1) := by
        rw [Nat.div_lt_iff_lt_mul (by omega), ← Nat.pow_succ]
        exact small
      rw [digits_of_le base short, List.length_append, List.length_singleton]
      exact Nat.succ_le_succ (ih front)

/-- Only zero has a zero in front. -/
theorem eq_zero_of_head?_digits (base : 2 ≤ b) (front : (digits b n).head? = some 0) : n = 0 := by
  induction n using Nat.strongRecOn with
  | ind n ih =>
    by_cases small : n < b
    · rw [digits_of_lt small] at front
      exact Option.some.inj front
    · rw [Nat.not_lt] at small
      rw [digits_of_le base small, List.head?_append_of_ne_nil _ (digits_ne_nil _ _)] at front
      have none_left := ih _ (div_lt_of_base_le base small) front
      rw [Nat.div_eq_zero_iff] at none_left
      omega

theorem lt_of_mem_padded (base : 0 < b) (member : d ∈ padded b w n) : d < b := by
  induction w generalizing n with
  | zero => cases member
  | succ w ih =>
    rw [padded, List.mem_append, List.mem_singleton] at member
    rcases member with front | rfl
    · exact ih front
    · exact Nat.mod_lt _ base

theorem value_padded_of_lt (small : n < b ^ w) : value b (padded b w n) = n := by
  rw [value_padded]
  exact Nat.mod_eq_of_lt small

theorem value_append (b : Nat) (ds es : List Nat) :
    value b (ds ++ es) = value b ds * b ^ es.length + value b es := by
  induction es using List.reverseRecOn with
  | nil => simp [value]
  | append_singleton es e ih =>
    rw [← List.append_assoc, value_append_singleton, value_append_singleton, ih,
      List.length_append, List.length_singleton, Nat.pow_succ, Nat.add_mul, Nat.mul_assoc,
      Nat.add_assoc]

theorem value_zeros (b k : Nat) : value b (List.replicate k 0) = 0 := by
  induction k with
  | zero => rfl
  | succ k ih => rw [List.replicate_succ', value_append_singleton, ih, Nat.zero_mul]

/-- The last digit of a number, and the number without it. -/
theorem split_last (last : d < b) (n : Nat) : (n * b + d) / b = n ∧ (n * b + d) % b = d := by
  rw [Nat.mul_comm]
  constructor
  · rw [Nat.mul_add_div (by omega), Nat.div_eq_of_lt last, Nat.add_zero]
  · rw [Nat.mul_add_mod, Nat.mod_eq_of_lt last]

/-- Digits are the numeral of their number, in the width that they have. -/
theorem padded_value {ds : List Nat} (small : ∀ d ∈ ds, d < b) :
    padded b ds.length (value b ds) = ds := by
  induction ds using List.reverseRecOn with
  | nil => rfl
  | append_singleton ds d ih =>
    obtain ⟨quotient, remainder⟩ := split_last (small d (by simp)) (value b ds)
    have front := ih fun d member => small d (List.mem_append_left _ member)
    rw [List.length_append, List.length_singleton, padded, value_append_singleton, quotient,
      remainder, front]

theorem value_lt {ds : List Nat} (small : ∀ d ∈ ds, d < b) : value b ds < b ^ ds.length := by
  have digits := padded_value small
  have bounded := value_padded b ds.length (value b ds)
  rw [digits] at bounded
  cases ds with
  | nil => exact Nat.one_pos
  | cons d rest =>
    have base : 0 < b := Nat.lt_of_le_of_lt (Nat.zero_le d) (small d List.mem_cons_self)
    rw [bounded]
    exact Nat.mod_lt _ (Nat.pow_pos base)

theorem value_pos (base : 2 ≤ b) {ds : List Nat} (some_there : ds ≠ [])
    (leading : ds.head? ≠ some 0) : 0 < value b ds := by
  cases ds with
  | nil => exact absurd rfl some_there
  | cons first rest =>
    have nonzero : first ≠ 0 := by
      rintro rfl
      exact leading rfl
    have split := value_append b [first] rest
    have power : 0 < b ^ rest.length := Nat.pow_pos (by omega)
    have product : 0 < value b [first] * b ^ rest.length :=
      Nat.mul_pos (by simpa [value] using Nat.pos_of_ne_zero nonzero) power
    rw [List.singleton_append] at split
    omega

/-- Digits without a superfluous zero in front are the shortest numeral of their number. -/
theorem digits_value (base : 2 ≤ b) {ds : List Nat} (small : ∀ d ∈ ds, d < b)
    (some_there : ds ≠ []) (leading : ds.head? = some 0 → ds = [0]) :
    digits b (value b ds) = ds := by
  induction ds using List.reverseRecOn with
  | nil => exact absurd rfl some_there
  | append_singleton ds d ih =>
    have last : d < b := small d (by simp)
    by_cases alone : ds = []
    · subst alone
      have single : value b ([] ++ [d]) = d := by simp [value]
      rw [single, digits_of_lt last, List.nil_append]
    · have nonzero : ds.head? ≠ some 0 := by
        intro zero
        have whole := leading ((List.head?_append_of_ne_nil ds alone).trans zero)
        have length := congrArg List.length whole
        rw [List.length_append, List.length_singleton, List.length_singleton] at length
        exact alone (List.length_eq_zero_iff.mp (by omega))
      obtain ⟨quotient, remainder⟩ := split_last last (value b ds)
      have positive := value_pos base alone nonzero
      have large : b ≤ value b ds * b + d := by
        have := Nat.le_mul_of_pos_left b positive
        omega
      have front := ih (fun d member => small d (List.mem_append_left _ member)) alone
        fun zero => absurd zero nonzero
      rw [value_append_singleton, digits_of_le base large, quotient, remainder, front]

end Digits

section Characters

variable {ds : List Nat}

/-- Items whose texts are read one by one are read as a list. -/
theorem mapM_map_eq_some {α β γ : Type} {xs : List α} (text : α → β) (read : β → Option γ)
    (meaning : α → γ) (reads : ∀ x ∈ xs, read (text x) = some (meaning x)) :
    (xs.map text).mapM read = some (xs.map meaning) := by
  induction xs with
  | nil => rfl
  | cons x rest ih =>
    obtain ⟨first, others⟩ := List.forall_mem_cons.mp reads
    simp [List.mapM_cons, first, ih others]

theorem mapM_map_eq_self {α β : Type} {xs : List α} {text : α → β} {read : β → Option α}
    (reads : ∀ x ∈ xs, read (text x) = some x) : (xs.map text).mapM read = some xs := by
  have items := mapM_map_eq_some text read (fun x => x) reads
  rw [List.map_id'] at items
  exact items

theorem mapM_cons_eq_some_iff {α β : Type} {read : α → Option β} {x : α} {rest : List α}
    {ys : List β} :
    (x :: rest).mapM read = some ys ↔
      ∃ y others, read x = some y ∧ rest.mapM read = some others ∧ y :: others = ys := by
  simp [List.mapM_cons, Option.bind_eq_some_iff]

theorem ofHexChars?_map (small : ∀ d ∈ ds, d < 16) :
    ofHexChars? (ds.map digitChar) = some (value 16 ds) := by
  rw [ofHexChars?, mapM_map_eq_self fun d member => hexValue?_digitChar d (small d member),
    Option.map_some]

theorem ofDecimalChars?_map (small : ∀ d ∈ ds, d < 10) :
    ofDecimalChars? (ds.map digitChar) = some (value 10 ds) := by
  rw [ofDecimalChars?, mapM_map_eq_self fun d member => decimalValue?_digitChar d (small d member),
    Option.map_some]

theorem ofDecimalChars?_decimalChars (n : Nat) : ofDecimalChars? (decimalChars n) = some n := by
  rw [decimalChars, ofDecimalChars?_map fun d => lt_of_mem_digits (by decide), value_digits]

theorem ofHexChars?_hexPadded {w n : Nat} (small : n < 16 ^ w) :
    ofHexChars? (hexPadded w n) = some n := by
  rw [hexPadded, ofHexChars?_map fun d => lt_of_mem_padded (by decide), value_padded_of_lt small]

theorem decimalChars_ne_nil (n : Nat) : decimalChars n ≠ [] := by
  rw [decimalChars, ne_eq, List.map_eq_nil_iff]
  exact digits_ne_nil 10 n

end Characters

/-- Characters are decimal digits of a number, with a plus sign in front or not. -/
def Denotes (cs : List Char) (n : Nat) : Prop :=
  ∃ digits, (cs = digits ∨ cs = '+' :: digits) ∧ digits ≠ [] ∧ ofDecimalChars? digits = some n

def unsigned : List Char → List Char
  | '+' :: rest => rest
  | cs => cs

section Bounded

variable {bound n m : Nat} {cs : List Char}

theorem le_foldl (n : Nat) (ds : List Nat) : n ≤ ds.foldl (fun n d => n * 10 + d) n := by
  induction ds generalizing n with
  | nil => exact Nat.le_refl n
  | cons d rest ih =>
    have onward := ih (n * 10 + d)
    rw [List.foldl_cons]
    omega

/-- A number only grows with its digits, so one that is below the bound was so all along. -/
theorem readOnto_eq_ok_iff (small : n < bound) :
    readOnto bound n cs = .ok m ↔
      ∃ ds, cs.mapM decimalValue? = some ds ∧ ds.foldl (fun n d => n * 10 + d) n = m ∧
        m < bound := by
  induction cs generalizing n with
  | nil =>
    constructor
    · intro read
      cases read
      exact ⟨[], rfl, rfl, small⟩
    · rintro ⟨ds, none_there, rfl, _⟩
      cases none_there
      rfl
  | cons c rest ih =>
    cases digit : decimalValue? c with
    | none => simp [readOnto, List.mapM_cons, digit]
    | some d =>
      simp only [readOnto, digit]
      by_cases fits : n * 10 + d < bound
      · rw [if_pos fits, ih fits]
        constructor
        · rintro ⟨ds, read, value, below⟩
          exact ⟨d :: ds, mapM_cons_eq_some_iff.mpr ⟨d, ds, digit, read, rfl⟩, value, below⟩
        · rintro ⟨ds, read, value, below⟩
          obtain ⟨_, others, first, behind, rfl⟩ := mapM_cons_eq_some_iff.mp read
          cases digit.symm.trans first
          exact ⟨others, behind, value, below⟩
      · rw [if_neg fits]
        constructor
        · intro read
          cases read
        · rintro ⟨ds, read, rfl, below⟩
          obtain ⟨_, others, first, _, rfl⟩ := mapM_cons_eq_some_iff.mp read
          cases digit.symm.trans first
          have grown := le_foldl (n * 10 + d) others
          rw [List.foldl_cons] at below
          omega

theorem readOnto_zero (positive : 0 < bound) :
    readOnto bound 0 cs = .ok n ↔ ofDecimalChars? cs = some n ∧ n < bound := by
  rw [readOnto_eq_ok_iff positive, ofDecimalChars?, Option.map_eq_some_iff]
  constructor
  · rintro ⟨ds, read, value, below⟩
    exact ⟨⟨ds, read, value⟩, below⟩
  · rintro ⟨⟨ds, read, value⟩, below⟩
    exact ⟨ds, read, value, below⟩

/-- No digit is a sign. -/
theorem ofDecimalChars?_plus (rest : List Char) : ofDecimalChars? ('+' :: rest) = none := by
  have sign : decimalValue? '+' = none := by decide
  simp [ofDecimalChars?, List.mapM_cons, sign]

theorem eq_or_eq_plus (cs : List Char) : cs = unsigned cs ∨ cs = '+' :: unsigned cs := by
  unfold unsigned
  split
  · exact .inr rfl
  · exact .inl rfl

theorem denotes_iff : Denotes cs n ↔ unsigned cs ≠ [] ∧ ofDecimalChars? (unsigned cs) = some n := by
  constructor
  · rintro ⟨digits, rfl | rfl, some_there, read⟩
    · have plain : unsigned cs = cs := by
        unfold unsigned
        split
        · rw [ofDecimalChars?_plus] at read
          cases read
        · rfl
      rw [plain]
      exact ⟨some_there, read⟩
    · exact ⟨some_there, read⟩
  · rintro ⟨some_there, read⟩
    exact ⟨unsigned cs, eq_or_eq_plus cs, some_there, read⟩

theorem readBelow_eq (bound : Nat) (cs : List Char) :
    readBelow bound cs =
      if unsigned cs = [] then .error .digit else readOnto bound 0 (unsigned cs) := by
  have same : readBelow bound cs =
      if (unsigned cs).isEmpty then .error .digit else readOnto bound 0 (unsigned cs) := rfl
  simpa only [List.isEmpty_iff] using same

/-- A text is read exactly if it denotes a number below the bound, whatever zeros are in front. -/
theorem readBelow_eq_ok_iff (positive : 0 < bound) :
    readBelow bound cs = .ok n ↔ Denotes cs n ∧ n < bound := by
  rw [denotes_iff, readBelow_eq]
  split
  · rename_i none_there
    simp [none_there]
  · rename_i some_there
    rw [readOnto_zero positive]
    simp [some_there]

end Bounded

end StarWatch.Numeral
