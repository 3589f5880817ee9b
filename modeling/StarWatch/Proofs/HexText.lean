import StarWatch.Proofs.Numerals
import StarWatch.Word.Hex

/-!
# Words, hashes and addresses are read back

A text of digits alone has no gaps, and its length in characters is its length
in bytes. Its digits pair up to bytes of the same number; where one digit is left
over in front, a zero before it does not change the number. So the written form
of a word, a hash or an address is read as what it was written from.
-/

namespace StarWatch

namespace Hex

section Digits

variable {ds : List Nat}

/-- A digit is one byte long, it is no gap, and it is read as itself. -/
theorem digitChar_plain : ∀ d < 16, (Numeral.digitChar d).utf8Size = 1 ∧
    isGap (Numeral.digitChar d) = false := by decide

theorem size_map_digitChar (small : ∀ d ∈ ds, d < 16) :
    Utf8.size (ds.map Numeral.digitChar) = ds.length := by
  induction ds with
  | nil => rfl
  | cons d rest ih =>
    obtain ⟨first, others⟩ := List.forall_mem_cons.mp small
    rw [List.map_cons, Utf8.size, (digitChar_plain d first).1, ih others, List.length_cons,
      Nat.add_comm]

theorem digitsFrom_map_digitChar (small : ∀ d ∈ ds, d < 16) (place : Nat) :
    digitsFrom place (ds.map Numeral.digitChar) = .ok ds := by
  induction ds generalizing place with
  | nil => rfl
  | cons d rest ih =>
    obtain ⟨first, others⟩ := List.forall_mem_cons.mp small
    simp [digitsFrom, (digitChar_plain d first).2, Numeral.hexValue?_digitChar d first, ih others]
    rfl

/-- Two digits are a byte, whatever the digits before them denote. -/
theorem foldl_pairs (even : ds.length % 2 = 0) (n : Nat) :
    (pairs ds).foldl (fun n d => n * 256 + d) n = ds.foldl (fun n d => n * 16 + d) n := by
  fun_induction pairs ds generalizing n with
  | case1 a b rest ih =>
    have rest_even : rest.length % 2 = 0 := by
      rw [List.length_cons, List.length_cons] at even
      omega
    have byte : n * 256 + (a * 16 + b) = (n * 16 + a) * 16 + b := by omega
    rw [List.foldl_cons, List.foldl_cons, List.foldl_cons, ih rest_even, byte]
  | case2 ds unpaired =>
    match ds with
    | [] => rfl
    | [d] => cases even
    | a :: b :: rest => exact absurd rfl (unpaired a b rest)

theorem length_pairs (ds : List Nat) : (pairs ds).length = ds.length / 2 := by
  fun_induction pairs ds with
  | case1 a b rest ih =>
    rw [List.length_cons, ih, List.length_cons, List.length_cons]
    omega
  | case2 ds unpaired =>
    match ds with
    | [] => rfl
    | [d] => simp
    | a :: b :: rest => exact absurd rfl (unpaired a b rest)

theorem number_bytesOf (ds : List Nat) : number (bytesOf ds.length ds) = Numeral.value 16 ds := by
  rw [number, Numeral.value, Numeral.value, bytesOf]
  split
  · rename_i odd
    have padded : (0 :: ds).length % 2 = 0 := by
      rw [List.length_cons]
      omega
    rw [foldl_pairs padded]
    rfl
  · rename_i even
    rw [foldl_pairs (by omega)]

/-- Digits behind the marker are read, if there are as many as the size admits. -/
theorem read_digits {size : Size} (small : ∀ d ∈ ds, d < 16)
    (admitted : size.admits ds.length = true) :
    read size ('0' :: 'x' :: ds.map Numeral.digitChar) = .ok (bytesOf ds.length ds) := by
  simp [read, body, size_map_digitChar small, admitted, digitsFrom_map_digitChar small]
  rfl

/-- A number that shows all its digits fills its field. -/
theorem exists_read_hexPadded (width : Nat) {n : Nat} (small : n < 16 ^ (2 * width)) :
    ∃ bytes, read (.exactly width) ('0' :: 'x' :: Numeral.hexPadded (2 * width) n) = .ok bytes ∧
      field width bytes = n := by
  have length := Numeral.length_padded 16 (2 * width) n
  have admitted : Size.admits (Numeral.padded 16 (2 * width) n).length (.exactly width) = true := by
    rw [length]
    exact decide_eq_true rfl
  refine ⟨_, read_digits (fun d => Numeral.lt_of_mem_padded (by decide)) admitted, ?_⟩
  have filled : (bytesOf (Numeral.padded 16 (2 * width) n).length
      (Numeral.padded 16 (2 * width) n)).length = width := by
    rw [bytesOf, if_neg (by omega), length_pairs]
    omega
  rw [field, filled, Nat.sub_self, List.replicate_zero, List.append_nil, number_bytesOf,
    Numeral.value_padded_of_lt small]

end Digits

end Hex

theorem Word.ofHexChars?_hexChars (w : Word) : Word.ofHexChars? w.hexChars = some w := by
  have small : ∀ d ∈ Numeral.digits 16 w.toNat, d < 16 :=
    fun d => Numeral.lt_of_mem_digits (by decide)
  have least := List.length_pos_iff.mpr (Numeral.digits_ne_nil 16 w.toNat)
  have most : (Numeral.digits 16 w.toNat).length ≤ 63 + 1 :=
    Numeral.length_digits_le (by decide) w.isLt
  have admitted : Word.size.admits (Numeral.digits 16 w.toNat).length = true := by
    simp only [Word.size, Hex.Size.admits, Bool.and_eq_true, decide_eq_true_eq]
    omega
  rw [Word.ofHexChars?, Word.hexChars, Numeral.hexChars, Hex.read_digits small admitted]
  simp [Except.map, Except.toOption, Word.ofBytes, Hex.number_bytesOf, Numeral.value_digits]

theorem Hash.ofHexChars?_hexChars (h : Hash) : Hash.ofHexChars? h.hexChars = some h := by
  obtain ⟨bytes, read, number⟩ := Hex.exists_read_hexPadded 32 h.bits.isLt
  simp [Hash.ofHexChars?, Hash.hexChars, Hash.size, read, Except.map, Except.toOption,
    Hash.ofBytes, number]

theorem Address.ofHexChars?_hexChars (a : Address) : Address.ofHexChars? a.hexChars = some a := by
  obtain ⟨bytes, read, number⟩ := Hex.exists_read_hexPadded 20 a.bits.isLt
  simp [Address.ofHexChars?, Address.hexChars, Address.digits, Address.size, read, Except.map,
    Except.toOption, Address.ofBytes, number]

end StarWatch
