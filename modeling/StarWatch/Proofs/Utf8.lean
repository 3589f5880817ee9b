import Mathlib.Data.List.Basic
import StarWatch.Text.Utf8

/-!
# UTF-8 is read back

A first byte announces how many bytes follow it and where the next one lies, and
each further byte carries six bits. So the encoding of a character is read as
that character whatever stands behind it, and no byte of it is zero but in the
encoding of NUL. The zero bytes that fill up a field can therefore be cut off
without a loss.
-/

namespace StarWatch.Utf8

section Leads

variable {n : Nat}

/-- Comparison of a byte with a fixed one, on numbers. -/
theorem ofNat_lt_iff (below : n < 256) (b : UInt8) : UInt8.ofNat n < b ↔ n < b.toNat := by
  rw [UInt8.lt_iff_toNat_lt, UInt8.toNat_ofNat_of_lt' below]

theorem ofNat_eq_iff (below : n < 256) (b : UInt8) : UInt8.ofNat n = b ↔ n = b.toNat := by
  rw [← UInt8.toNat_inj, UInt8.toNat_ofNat_of_lt' below]

theorem lead?_one (below : n < 0x80) : lead? (UInt8.ofNat n) = some ⟨n, 0, 0x80, 0xBF⟩ := by
  have byte : n < 256 := by omega
  simp only [lead?, ofNat_lt_iff byte, UInt8.toNat_ofNat_of_lt' byte, UInt8.reduceToNat]
  rw [if_pos below]

theorem lead?_two (least : 0xC2 ≤ n) (below : n < 0xE0) :
    lead? (UInt8.ofNat n) = some ⟨n - 0xC0, 1, 0x80, 0xBF⟩ := by
  have byte : n < 256 := by omega
  simp only [lead?, ofNat_lt_iff byte, UInt8.toNat_ofNat_of_lt' byte, UInt8.reduceToNat]
  rw [if_neg (by omega), if_neg (by omega), if_pos below]

theorem lead?_three (least : 0xE0 ≤ n) (below : n < 0xF0) :
    lead? (UInt8.ofNat n) = some ⟨n - 0xE0, 2, if n = 0xE0 then 0xA0 else 0x80,
      if n = 0xED then 0x9F else 0xBF⟩ := by
  have byte : n < 256 := by omega
  simp only [lead?, ofNat_lt_iff byte, ofNat_eq_iff byte, UInt8.toNat_ofNat_of_lt' byte,
    UInt8.reduceToNat]
  rw [if_neg (by omega), if_neg (by omega), if_neg (by omega)]
  by_cases overlong : n = 0xE0
  · simp [overlong]
  · by_cases surrogate : n = 0xED
    · simp [surrogate]
    · simp [overlong, surrogate, below]

theorem lead?_four (least : 0xF0 ≤ n) (most : n ≤ 0xF4) :
    lead? (UInt8.ofNat n) = some ⟨n - 0xF0, 3, if n = 0xF0 then 0x90 else 0x80,
      if n = 0xF4 then 0x8F else 0xBF⟩ := by
  have byte : n < 256 := by omega
  simp only [lead?, ofNat_lt_iff byte, ofNat_eq_iff byte, UInt8.toNat_ofNat_of_lt' byte,
    UInt8.reduceToNat]
  rw [if_neg (by omega), if_neg (by omega), if_neg (by omega), if_neg (by omega),
    if_neg (by omega), if_neg (by omega)]
  by_cases overlong : n = 0xF0
  · simp [overlong]
  · by_cases last : n = 0xF4
    · simp [last]
    · have within : n < 0xF4 := by omega
      simp [overlong, last, within]

end Leads

section Characters

/-- A byte behind the first one, with six bits of the character. -/
def tail (m : Nat) : UInt8 := UInt8.ofNat (m + 0x80)

theorem toNat_tail {m : Nat} (small : m < 0x40) : (tail m).toNat = m + 0x80 :=
  UInt8.toNat_ofNat_of_lt' (show m + 0x80 < 256 by omega)

/-- A further byte within its range gives its six bits. -/
theorem finish_tail {m n taken bits : Nat} {low high : UInt8} (small : m < 0x40)
    (least : low.toNat ≤ m + 0x80) (most : m + 0x80 ≤ high.toNat) (rest : Bytes) :
    finish (n + 1) low high bits taken (tail m :: rest) =
      finish n 0x80 0xBF (bits * 64 + m) (taken + 1) rest := by
  have within : low ≤ tail m ∧ tail m ≤ high := by
    rw [UInt8.le_iff_toNat_le, UInt8.le_iff_toNat_le, toNat_tail small]
    exact ⟨least, most⟩
  have low_bits : (m + 0x80) % 64 = m := by omega
  rw [finish, if_pos within, toNat_tail small, low_bits]

theorem finish_tails {taken bits : Nat} {ms : List Nat} (small : ∀ m ∈ ms, m < 0x40)
    (rest : Bytes) :
    finish ms.length 0x80 0xBF bits taken (ms.map tail ++ rest) =
      (Char.ofNat (ms.foldl (fun v m => v * 64 + m) bits), taken + ms.length) := by
  induction ms generalizing taken bits with
  | nil => rfl
  | cons m ms ih =>
    obtain ⟨first, others⟩ := List.forall_mem_cons.mp small
    have most : m + 0x80 ≤ (0xBF : UInt8).toNat := by
      simp only [UInt8.reduceToNat]
      omega
    rw [List.map_cons, List.cons_append, List.length_cons,
      finish_tail first (Nat.le_add_left _ _) most, ih others, List.foldl_cons]
    simp only [Prod.mk.injEq, true_and]
    omega

/-- A first byte and the bytes that it announces are read together. -/
theorem next_of_lead {b : UInt8} {c : Char} {bits m : Nat} {ms : List Nat} {low high : UInt8}
    (lead : lead? b = some ⟨bits, ms.length + 1, low, high⟩) (least : low.toNat ≤ m + 0x80)
    (most : m + 0x80 ≤ high.toNat) (small : ∀ k ∈ m :: ms, k < 0x40)
    (whole : Char.ofNat (ms.foldl (fun v k => v * 64 + k) (bits * 64 + m)) = c) (rest : Bytes) :
    next b ((m :: ms).map tail ++ rest) = (c, ((m :: ms).map tail).length) := by
  obtain ⟨first, others⟩ := List.forall_mem_cons.mp small
  simp only [next, lead, List.map_cons, List.cons_append]
  rw [finish_tail first least most, finish_tails others, whole]
  simp only [List.length_cons, List.length_map, Prod.mk.injEq, true_and]
  omega

/-- The encoding of a character is read as the character, whatever stands behind it. -/
theorem next_utf8EncodeChar (c : Char) (rest : Bytes) :
    ∃ b following, String.utf8EncodeChar c = b :: following ∧
      next b (following ++ rest) = (c, following.length) := by
  have valid : c.val.toNat < 0xD800 ∨ 0xDFFF < c.val.toNat ∧ c.val.toNat < 0x110000 := c.valid
  have whole : Char.ofNat c.val.toNat = c := Char.ofNat_toNat c
  generalize coded : String.utf8EncodeChar c = bytes
  simp only [String.utf8EncodeChar] at coded
  generalize c.val.toNat = v at valid whole coded
  split_ifs at coded with one two three
  · refine ⟨_, _, coded.symm, ?_⟩
    simp only [next, lead?_one (show v < 0x80 by omega), finish, whole, List.length_nil]
  · refine ⟨_, [v % 64].map tail, coded.symm, ?_⟩
    have bits : (v / 64 % 32 + 0xC0 - 0xC0) * 64 + v % 64 = v := by omega
    refine next_of_lead (lead?_two (by omega) (by omega)) ?_ ?_ ?_ ?_ rest
    · simp
    · simp only [UInt8.reduceToNat]
      omega
    · simp only [List.forall_mem_cons]
      exact ⟨by omega, nofun⟩
    · rw [List.foldl_nil, bits, whole]
  · refine ⟨_, [v / 64 % 64, v % 64].map tail, coded.symm, ?_⟩
    have bits : ((v / 4096 % 16 + 0xE0 - 0xE0) * 64 + v / 64 % 64) * 64 + v % 64 = v := by omega
    refine next_of_lead (lead?_three (by omega) (by omega)) ?_ ?_ ?_ ?_ rest
    -- a first byte 0xE0 would be overlong below 0x800, and 0xED begins the surrogates
    · split_ifs
      all_goals simp only [UInt8.reduceToNat]
      all_goals omega
    · split_ifs
      all_goals simp only [UInt8.reduceToNat]
      all_goals omega
    · simp only [List.forall_mem_cons]
      exact ⟨by omega, by omega, nofun⟩
    · rw [List.foldl_cons, List.foldl_nil, bits, whole]
  · refine ⟨_, [v / 4096 % 64, v / 64 % 64, v % 64].map tail, coded.symm, ?_⟩
    have bits : (((v / 262144 % 8 + 0xF0 - 0xF0) * 64 + v / 4096 % 64) * 64 + v / 64 % 64) * 64 +
        v % 64 = v := by omega
    refine next_of_lead (lead?_four (by omega) (by omega)) ?_ ?_ ?_ ?_ rest
    · split_ifs
      all_goals simp only [UInt8.reduceToNat]
      all_goals omega
    · split_ifs
      all_goals simp only [UInt8.reduceToNat]
      all_goals omega
    · simp only [List.forall_mem_cons]
      exact ⟨by omega, by omega, by omega, nofun⟩
    · rw [List.foldl_cons, List.foldl_cons, List.foldl_nil, bits, whole]

theorem decodeOnto_utf8EncodeChar (acc : List Char) (c : Char) (rest : Bytes) :
    decodeOnto acc (String.utf8EncodeChar c ++ rest) = decodeOnto (c :: acc) rest := by
  obtain ⟨b, following, coded, read⟩ := next_utf8EncodeChar c rest
  rw [coded, List.cons_append, decodeOnto, read]
  dsimp only
  rw [List.drop_left]

theorem decodeOnto_encode (acc cs : List Char) :
    decodeOnto acc (encode cs) = acc.reverse ++ cs := by
  induction cs generalizing acc with
  | nil =>
    rw [encode, List.flatMap_nil, decodeOnto, List.append_nil]
  | cons c rest ih =>
    have split : encode (c :: rest) = String.utf8EncodeChar c ++ encode rest := rfl
    rw [split, decodeOnto_utf8EncodeChar, ih, List.reverse_cons, List.append_assoc]
    rfl

/-- What was encoded is read back. -/
theorem decode_encode (cs : List Char) : decode (encode cs) = cs :=
  decodeOnto_encode [] cs

end Characters

section Padding

/-- Zero bytes at the end are cut, however many there are. -/
theorem cutZeros_append_zeros (bs : Bytes) (n : Nat) :
    cutZeros (bs ++ List.replicate n 0) = cutZeros bs := by
  rw [cutZeros, cutZeros, List.reverse_append, List.reverse_replicate,
    List.dropWhile_append_of_pos (by simp)]

theorem cutZeros_eq_self {bs : Bytes} (last : bs.getLast? ≠ some 0) : cutZeros bs = bs := by
  rw [cutZeros]
  rw [List.getLast?_eq_head?_reverse] at last
  have kept : bs.reverse.dropWhile (· = 0) = bs.reverse := by
    cases reversed : bs.reverse with
    | nil => rfl
    | cons b rest =>
      rw [reversed] at last
      exact List.dropWhile_cons_of_neg (by simpa using last)
  rw [kept, List.reverse_reverse]

/-- Of all characters only NUL ends in a zero byte. -/
theorem getLast?_utf8EncodeChar {c : Char}
    (zero : (String.utf8EncodeChar c).getLast? = some 0) : c = Char.ofNat 0 := by
  have whole : Char.ofNat c.val.toNat = c := Char.ofNat_toNat c
  rw [← whole]
  simp only [String.utf8EncodeChar] at zero
  generalize c.val.toNat = v at zero
  have tail_ne : UInt8.ofNat (v % 64 + 0x80) ≠ 0 := by
    rw [ne_eq, ofNat_eq_iff (by omega)]
    simp
  split_ifs at zero with one
  · have byte : UInt8.ofNat v = 0 := Option.some.inj zero
    rw [ofNat_eq_iff (by omega)] at byte
    rw [byte]
    rfl
  · exact absurd (Option.some.inj zero) tail_ne
  · exact absurd (Option.some.inj zero) tail_ne
  · exact absurd (Option.some.inj zero) tail_ne

theorem getLast?_encode {cs : List Char} (last : cs.getLast? ≠ some (Char.ofNat 0)) :
    (encode cs).getLast? ≠ some 0 := by
  rcases List.eq_nil_or_concat' cs with rfl | ⟨front, c, rfl⟩
  · simp [encode]
  · intro zero
    have split : encode (front ++ [c]) = encode front ++ String.utf8EncodeChar c := by
      simp [encode]
    rw [split, List.getLast?_append_of_ne_nil _ String.utf8EncodeChar_ne_nil] at zero
    rw [List.getLast?_append_of_ne_nil _ (List.cons_ne_nil c [])] at last
    exact last (congrArg some (getLast?_utf8EncodeChar zero))

/-- A text that does not end in NUL is read back from a field that zero bytes fill up. -/
theorem ofPadded_encode {s : String} (last : s.toList.getLast? ≠ some (Char.ofNat 0)) (n : Nat) :
    ofPadded (encode s.toList ++ List.replicate n 0) = s := by
  rw [ofPadded, cutZeros_append_zeros, cutZeros_eq_self (getLast?_encode last), decode_encode,
    String.ofList_toList]

end Padding

end StarWatch.Utf8
