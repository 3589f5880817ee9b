import Mathlib.Algebra.Group.Nat.Defs
import StarWatch.Proofs.Utf8

/-!
# Texts in padded fields

NUL is read from a zero byte alone. A first byte with further ones leaves no
room for it: the ranges of the second byte keep overlong forms, surrogates and
numbers above U+10FFFF out, so what is read is either the replacement or a
character above U+007F. A field without zero bytes at its end is therefore read
as a text without NUL at its end, whatever its bytes are, and such a text is
what a field that was filled up with zero bytes gives back.
-/

namespace StarWatch.Utf8

section Numbers

/-- `v` is a number of six more bits for each of `n` bytes, the first of them between two others. -/
def Within (bits first last n v : Nat) : Prop :=
  (bits * 64 + (first - 0x80)) * 64 ^ n ≤ v ∧ v < (bits * 64 + (last - 0x80) + 1) * 64 ^ n

/-- Bytes behind the second one give the replacement, or their bits below those before. -/
theorem finish_eq_replacement_or (n bits taken : Nat) (rest : Bytes) :
    (finish n 0x80 0xBF bits taken rest).1 = replacement ∨
      ∃ v, (finish n 0x80 0xBF bits taken rest).1 = Char.ofNat v ∧
        bits * 64 ^ n ≤ v ∧ v < (bits + 1) * 64 ^ n := by
  induction n generalizing bits taken rest with
  | zero => exact .inr ⟨bits, rfl, by omega, by omega⟩
  | succ n ih =>
    cases rest with
    | nil => exact .inl rfl
    | cons b rest =>
      simp only [finish]
      split
      · rcases ih (bits * 64 + b.toNat % 64) (taken + 1) rest with replaced | ⟨v, read, low, high⟩
        · exact .inl replaced
        · refine .inr ⟨v, read, ?_, ?_⟩
          · rw [Nat.pow_succ', ← Nat.mul_assoc]
            exact Nat.le_trans (Nat.mul_le_mul_right _ (by omega)) low
          · rw [Nat.pow_succ', ← Nat.mul_assoc]
            exact Nat.lt_of_lt_of_le high (Nat.mul_le_mul_right _ (by omega))
      · exact .inl rfl

/-- A second byte within its range and those behind it give the replacement, or a number whose
highest bits the first two bytes fix. -/
theorem finish_within {low high : UInt8} (least : 0x80 ≤ low.toNat) (most : high.toNat ≤ 0xBF)
    (n bits taken : Nat) (rest : Bytes) :
    (finish (n + 1) low high bits taken rest).1 = replacement ∨
      ∃ v, (finish (n + 1) low high bits taken rest).1 = Char.ofNat v ∧
        Within bits low.toNat high.toNat n v := by
  cases rest with
  | nil => exact .inl rfl
  | cons b rest =>
    simp only [finish]
    split
    · rename_i within
      rw [UInt8.le_iff_toNat_le, UInt8.le_iff_toNat_le] at within
      obtain ⟨above, below⟩ := within
      have digit : b.toNat % 64 = b.toNat - 0x80 := by omega
      rcases finish_eq_replacement_or n (bits * 64 + b.toNat % 64) (taken + 1) rest with
        replaced | ⟨v, read, from_low, to_high⟩
      · exact .inl replaced
      · refine .inr ⟨v, read, ?_, ?_⟩
        · exact Nat.le_trans (Nat.mul_le_mul_right _ (by omega)) from_low
        · exact Nat.lt_of_lt_of_le to_high (Nat.mul_le_mul_right _ (by omega))
    · exact .inl rfl

/-- A first byte stands for itself, or announces others and leaves only characters above U+007F. -/
theorem lead?_leaves {b : UInt8} {l : Lead} (lead : lead? b = some l) :
    (b.toNat < 0x80 ∧ l.bits = b.toNat ∧ l.following = 0) ∨
      0x80 ≤ l.low.toNat ∧ l.high.toNat ≤ 0xBF ∧ ∃ n, l.following = n + 1 ∧
        ∀ v, Within l.bits l.low.toNat l.high.toNat n v → 0x80 ≤ v ∧ v.isValidChar := by
  have byte := b.toNat_lt
  simp only [lead?, UInt8.lt_iff_toNat_lt, ← UInt8.toNat_inj, UInt8.reduceToNat] at lead
  split_ifs at lead with itself
  · obtain rfl := Option.some.inj lead
    exact .inl ⟨itself, rfl, rfl⟩
  all_goals
    obtain rfl := Option.some.inj lead
    refine .inr ⟨by simp, by simp, _, rfl, ?_⟩
    intro v within
    simp only [Within, Nat.isValidChar, UInt8.reduceToNat] at within ⊢
    omega

end Numbers

section Nul

theorem ofNat_ne_nul {v : Nat} (valid : v.isValidChar) (positive : 0 < v) :
    Char.ofNat v ≠ Char.ofNat 0 := by
  intro same
  have number : (Char.ofNat v).toNat = v := by
    rw [Char.ofNat, dif_pos valid]
    rfl
  rw [same] at number
  exact absurd number (Nat.ne_of_lt positive)

/-- NUL is read from a zero byte, and from nothing else. -/
theorem eq_zero_of_next_eq_nul {b : UInt8} {rest : Bytes}
    (read : (next b rest).1 = Char.ofNat 0) : b = 0 := by
  simp only [next] at read
  split at read
  · cases read
  · rename_i l lead
    rcases lead?_leaves lead with ⟨small, bits, alone⟩ | ⟨least, most, n, following, above⟩
    · by_contra nonzero
      have positive : 0 < b.toNat :=
        Nat.pos_of_ne_zero fun zero => nonzero (UInt8.toNat_inj.mp zero)
      rw [alone, bits] at read
      exact ofNat_ne_nul (.inl (by omega)) positive read
    · rw [following] at read
      rcases finish_within least most n l.bits 0 rest with replaced | ⟨v, number, within⟩
      · rw [replaced] at read
        cases read
      · obtain ⟨large, valid⟩ := above v within
        exact absurd (number.symm.trans read) (ofNat_ne_nul valid (by omega))

/-- A text ends in NUL only if a character before it did, or its last byte is zero. -/
theorem getLast?_decodeOnto (acc : List Char) {bs : Bytes} (last : bs.getLast? ≠ some 0)
    (before : bs = [] → acc.head? ≠ some (Char.ofNat 0)) :
    (decodeOnto acc bs).getLast? ≠ some (Char.ofNat 0) := by
  induction acc, bs using decodeOnto.induct with
  | case1 acc =>
    rw [decodeOnto, List.getLast?_reverse]
    exact before rfl
  | case2 acc b rest c taken read ih =>
    rw [decodeOnto, read]
    apply ih
    · rw [List.getLast?_drop]
      split
      · simp
      · rename_i more
        cases rest with
        | nil => simp at more
        | cons b' rest => exact last
    · intro through nul
      have nul_read : (next b rest).1 = Char.ofNat 0 := by
        rw [read]
        exact Option.some.inj nul
      obtain rfl := eq_zero_of_next_eq_nul nul_read
      have alone : taken = 0 := (congrArg Prod.snd read).symm
      rw [alone, List.drop_zero] at through
      rw [through] at last
      exact last rfl

theorem getLast?_cutZeros (bs : Bytes) : (cutZeros bs).getLast? ≠ some 0 := by
  rw [cutZeros, List.getLast?_reverse]
  intro zero
  have nonzero := List.head?_dropWhile_not (fun b : UInt8 => decide (b = 0)) bs.reverse
  rw [zero] at nonzero
  simp at nonzero

/-- Whatever the bytes are, the text of a field does not end in NUL. -/
theorem getLast?_ofPadded (bs : Bytes) :
    (ofPadded bs).toList.getLast? ≠ some (Char.ofNat 0) := by
  rw [ofPadded, String.toList_ofList]
  exact getLast?_decodeOnto [] (getLast?_cutZeros bs) (by simp)

end Nul

section Fields

/-- A text that does not end in NUL is recovered from a field that zero bytes fill up. The text of
any field, well formed or not, does not end in NUL, does not depend on the zero bytes at the end
of the field, and is recovered from a field of its own. -/
theorem padded_text_recovered (n : Nat) :
    (∀ s : String, s.toList.getLast? ≠ some (Char.ofNat 0) →
      ofPadded (encode s.toList ++ List.replicate n 0) = s) ∧
    ∀ bs : Bytes,
      (ofPadded bs).toList.getLast? ≠ some (Char.ofNat 0) ∧
      ofPadded (bs ++ List.replicate n 0) = ofPadded bs ∧
      ofPadded (encode (ofPadded bs).toList) = ofPadded bs := by
  refine ⟨fun s last => ofPadded_encode last n, ?_⟩
  intro bs
  have last := getLast?_ofPadded bs
  refine ⟨last, ?_, ?_⟩
  · rw [ofPadded, ofPadded, cutZeros_append_zeros]
  · simpa using ofPadded_encode last 0

/-- A NUL inside a text and a character of two bytes at its end are kept. -/
theorem text_with_nul_recovered :
    ['V', Char.ofNat 0, 'é'].getLast? ≠ some (Char.ofNat 0) ∧
      ofPadded (encode ['V', Char.ofNat 0, 'é'] ++ List.replicate 15 0) =
        String.ofList ['V', Char.ofNat 0, 'é'] := by
  have last : (String.ofList ['V', Char.ofNat 0, 'é']).toList.getLast? ≠ some (Char.ofNat 0) := by
    rw [String.toList_ofList]
    decide
  have recovered := (padded_text_recovered 15).1 _ last
  rw [String.toList_ofList] at last recovered
  exact ⟨last, recovered⟩

end Fields

end StarWatch.Utf8
