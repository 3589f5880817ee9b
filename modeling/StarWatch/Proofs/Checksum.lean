import StarWatch.Proofs.AddressText

/-!
# Addresses in mixed case

A digest decides the case of letters and nothing else. So the digits in mixed
case are in lower case the digits of the address's bytes. An address is read in
any case, and only from its own digits. So whatever the digest is, what is
written with it is read back, and two addresses are never written alike.
-/

namespace StarWatch

namespace Keccak

theorem length_digest (message : Bytes) : (digest message).length = 32 := by
  simp [digest, toLittleEndian]

end Keccak

namespace Bytes

/-- The four-bit group at a place. Each byte has two of them, the high half first. -/
def nibble? (bs : Bytes) (i : Nat) : Option Nat :=
  bs[i / 2]?.map fun b => if i % 2 = 0 then b.toNat / 16 else b.toNat % 16

theorem hexDigits_append (bs bs' : Bytes) :
    hexDigits (bs ++ bs') = hexDigits bs ++ hexDigits bs' :=
  List.flatMap_append

/-- Two digits of a numeral are a byte. -/
theorem hexDigits_ofNat (w n : Nat) : hexDigits (ofNat w n) = Numeral.hexPadded (2 * w) n := by
  induction w generalizing n with
  | zero => rfl
  | succ w ih =>
    have front : n / 16 / 16 = n / 256 := by omega
    have high : n % 256 / 16 = n / 16 % 16 := by omega
    have low : n % 256 % 16 = n % 16 := by omega
    have last : hexDigits [UInt8.ofNat n] =
        [Numeral.digitChar (n / 16 % 16), Numeral.digitChar (n % 16)] := by
      simp [hexDigits, high, low]
    rw [ofNat, hexDigits_append, ih, last, Nat.mul_add, Numeral.hexPadded, Numeral.hexPadded,
      Numeral.padded, Numeral.padded, front]
    simp

end Bytes

namespace Numeral

section LetterCase

variable {c : Char} {d : Nat} {cs : List Char} {ds : List Nat}

theorem toNat_le_toLower (c : Char) : c.toNat ≤ c.toLower.toNat := by
  unfold Char.toLower
  split
  · rename_i upper
    have below : c.val.toNat ≤ 90 := upper.2
    have raised : (c.val + ('a'.val - 'A'.val)).toNat = (c.val.toNat + 32) % 2 ^ 32 := rfl
    change c.val.toNat ≤ (c.val + ('a'.val - 'A'.val)).toNat
    omega
  · exact Nat.le_refl _

/-- A digit stands for the same number in both cases. -/
theorem standsFor_iff_toLower : StandsFor c d ↔ d < 16 ∧ c.toLower = digitChar d := by
  constructor
  · have table : ∀ d < 16, (digitChar d).toLower = digitChar d ∧
        (digitChar d).toUpper.toLower = digitChar d := by decide
    rintro ⟨small, rfl | rfl⟩
    · exact ⟨small, (table d small).1⟩
    · exact ⟨small, (table d small).2⟩
  · rintro ⟨small, lower⟩
    have ascii : ∀ d < 16, (digitChar d).toNat < 103 := by decide
    have table : ∀ n < 103, ∀ d < 16, (Char.ofNat n).toLower = digitChar d →
        StandsFor (Char.ofNat n) d := by decide +kernel
    have below := toNat_le_toLower c
    rw [lower] at below
    have found := table c.toNat (Nat.lt_of_le_of_lt below (ascii d small)) d small
    rw [Char.ofNat_toNat] at found
    exact found lower

theorem forall₂_standsFor_iff : List.Forall₂ StandsFor cs ds ↔
    (∀ d ∈ ds, d < 16) ∧ cs.map Char.toLower = ds.map digitChar := by
  induction cs generalizing ds with
  | nil =>
    cases ds with
    | nil => simp
    | cons => simp
  | cons c rest ih =>
    cases ds with
    | nil => simp
    | cons d others =>
      simp only [List.forall₂_cons, standsFor_iff_toLower, ih, List.forall_mem_cons, List.map_cons,
        List.cons.injEq]
      exact and_and_and_comm

theorem isBlank_of_isHexDigit (digit : IsHexDigit c) : Text.isBlank c = false := by
  have table : ∀ d < 16, Text.isBlank (digitChar d) = false ∧
      Text.isBlank (digitChar d).toUpper = false := by decide
  obtain ⟨d, small, rfl | rfl⟩ := digit
  · exact (table d small).1
  · exact (table d small).2

end LetterCase

end Numeral

namespace Address

def bytes (a : Address) : Bytes := Bytes.ofNat 20 a.bits.toNat

theorem hexDigits_bytes (a : Address) : Bytes.hexDigits a.bytes = a.digits :=
  Bytes.hexDigits_ofNat 20 a.bits.toNat

theorem bits_lt (a : Address) : a.bits.toNat < 16 ^ 40 := a.bits.isLt

theorem digits_lt (a : Address) : ∀ d ∈ Numeral.padded 16 40 a.bits.toNat, d < 16 :=
  fun _ => Numeral.lt_of_mem_padded (by decide)

theorem getElem?_nibbles (bs : Bytes) (i : Nat) : (nibbles bs)[i]? = Bytes.nibble? bs i := by
  induction bs generalizing i with
  | nil => simp [nibbles, Bytes.nibble?]
  | cons b rest ih =>
    match i with
    | 0 => simp [nibbles, Bytes.nibble?]
    | 1 => simp [nibbles, Bytes.nibble?]
    | i + 2 =>
      have behind : (nibbles (b :: rest))[i + 2]? = (nibbles rest)[i]? := rfl
      have half : (i + 2) / 2 = i / 2 + 1 := by omega
      rw [behind, ih, Bytes.nibble?, Bytes.nibble?, half, List.getElem?_cons_succ,
        Nat.add_mod_right]

/-- Digits are those of an address, in the cases that a digest decides. -/
structure MixedCase (digest : Bytes) (a : Address) (cs : List Char) : Prop where
  width : cs.length = 40
  digits : ∀ c ∈ cs, Numeral.IsHexDigit c
  lower : cs.map Char.toLower = Bytes.hexDigits a.bytes
  upper : ∀ i c, cs[i]? = some c →
    (c.isUpper = true ↔ c.isAlpha = true ∧ ∃ n, Bytes.nibble? digest i = some n ∧ 8 ≤ n)

/-- What a digest does to a single digit. -/
theorem raise_digitChar {d : Nat} (digit : d < 16) (nibble : Nat) :
    let c := raise (Numeral.digitChar d) nibble
    Numeral.StandsFor c d ∧ (c.isUpper = true ↔ c.isAlpha = true ∧ 8 ≤ nibble) := by
  have both : ∀ d < 16, ∀ high : Bool,
      let c := Numeral.digitChar d
      let raised := if c.isAlpha && high then c.toUpper else c
      Numeral.StandsFor raised d ∧
        (raised.isUpper = true ↔ raised.isAlpha = true ∧ high = true) := by
    decide
  have found := both d digit (decide (8 ≤ nibble))
  rw [decide_eq_true_iff] at found
  exact found

section Digits

variable {ds ns : List Nat}

theorem forall₂_raise (small : ∀ d ∈ ds, d < 16) (enough : ds.length ≤ ns.length) :
    List.Forall₂ Numeral.StandsFor (List.zipWith raise (ds.map Numeral.digitChar) ns) ds := by
  induction ds generalizing ns with
  | nil => exact .nil
  | cons d rest ih =>
    cases ns with
    | nil => cases enough
    | cons nibble others =>
      obtain ⟨first, small⟩ := List.forall_mem_cons.mp small
      exact .cons (raise_digitChar first nibble).1 (ih small (Nat.le_of_succ_le_succ enough))

theorem upper_raise (small : ∀ d ∈ ds, d < 16) {i : Nat} {c : Char}
    (at_i : (List.zipWith raise (ds.map Numeral.digitChar) ns)[i]? = some c) :
    c.isUpper = true ↔ c.isAlpha = true ∧ ∃ n, ns[i]? = some n ∧ 8 ≤ n := by
  rw [List.getElem?_zipWith_eq_some] at at_i
  obtain ⟨digit, nibble, first, second, rfl⟩ := at_i
  rw [List.getElem?_map, Option.map_eq_some_iff] at first
  obtain ⟨d, member, rfl⟩ := first
  rw [(raise_digitChar (small d (List.mem_of_getElem? member)) nibble).2, second]
  simp

end Digits

section Reading

variable {a : Address} {digest : Bytes} {s : String} {cs : List Char}

/-- With a digest that is long enough, the digits are in mixed case. -/
theorem mixedCase_checksumDigits (enough : 20 ≤ digest.length) :
    MixedCase digest a (checksumDigits digest a) := by
  have width := Numeral.length_padded 16 40 a.bits.toNat
  have nibbles_enough : (Numeral.padded 16 40 a.bits.toNat).length ≤ (nibbles digest).length := by
    rw [width, nibbles, List.length_flatMap]
    simp
    omega
  have values := forall₂_raise a.digits_lt nibbles_enough
  constructor
  case width =>
    exact values.length_eq.trans width
  case digits =>
    exact Numeral.isHexDigit_of_ofHexChars? (Numeral.ofHexChars?_eq_some values)
  case lower =>
    rw [hexDigits_bytes]
    exact (Numeral.forall₂_standsFor_iff.mp values).2
  case upper =>
    intro i c at_i
    rw [← getElem?_nibbles]
    exact upper_raise a.digits_lt at_i

/-- A text that shows digits, each of them in lower or in upper case, is a marker and these digits
with blanks around them. -/
def Shows (s : String) (cs : List Char) : Prop :=
  ∃ before text rest after, s.toList = before ++ text ++ after ∧
    (∀ c ∈ before, Text.isBlank c = true) ∧ (∀ c ∈ after, Text.isBlank c = true) ∧
    Marked text rest ∧ rest.map Char.toLower = cs.map Char.toLower

/-- An address is read from its own digits, in any case, and from nothing else. -/
theorem parse_eq_ok_iff (lower : cs.map Char.toLower = a.digits) :
    parse s = .ok a ↔ Shows s cs := by
  constructor
  · intro read
    obtain ⟨answer, judged⟩ := exists_judged (Text.trim s.toList)
    cases (parse_of_judged judged).symm.trans read
    obtain ⟨before, after, split, blank, blank'⟩ := (Text.trims_trim s.toList).between
    cases judged with
    | @accepted rest ds _ marked width digits number =>
      refine ⟨before, _, rest, after, split, blank, blank', marked, ?_⟩
      obtain ⟨small, same⟩ := Numeral.forall₂_standsFor_iff.mp digits
      have shown := Numeral.padded_value small
      rw [← digits.length_eq, width, ← number] at shown
      rw [same, lower, ← shown]
      rfl
  · rintro ⟨before, text, rest, after, split, blank, blank', marked, same⟩
    have values : List.Forall₂ Numeral.StandsFor rest (Numeral.padded 16 40 a.bits.toNat) :=
      Numeral.forall₂_standsFor_iff.mpr ⟨a.digits_lt, same.trans lower⟩
    have digits := Numeral.isHexDigit_of_ofHexChars? (Numeral.ofHexChars?_eq_some values)
    have visible : ∀ c ∈ text, Text.isBlank c = false := by
      have hidden : ∀ c ∈ rest, Text.isBlank c = false :=
        fun c member => Numeral.isBlank_of_isHexDigit (digits c member)
      rcases marked with rfl | rfl
      · exact List.forall_mem_cons.mpr ⟨by decide, List.forall_mem_cons.mpr ⟨by decide, hidden⟩⟩
      · exact List.forall_mem_cons.mpr ⟨by decide, List.forall_mem_cons.mpr ⟨by decide, hidden⟩⟩
    apply parse_of_judged
    rw [← Text.trims_iff.mp (split ▸ Text.trims_of_visible blank blank' visible)]
    refine .accepted marked (values.length_eq.trans (Numeral.length_padded ..)) values ?_
    rw [Numeral.value_padded_of_lt a.bits_lt]

end Reading

def mixedCase (hash : Bytes → Bytes) (a : Address) : String :=
  String.ofList ('0' :: 'x' :: checksumDigits (hash (Utf8.encode a.digits)) a)

/-- A rendering of addresses in mixed case, by a hash. What was read from any text is read again
from its rendering, and two addresses are not written alike in whatever case. -/
structure Renders (hash : Bytes → Bytes) (render : Address → String) : Prop where
  shown : ∀ a, ∃ cs, (render a).toList = '0' :: 'x' :: cs ∧
    MixedCase (hash (Utf8.encode (Bytes.hexDigits a.bytes))) a cs ∧
    ∀ s, parse s = .ok a ↔ Shows s cs
  read : ∀ a, parse (render a) = .ok a
  again : ∀ s, (parse s).bind (fun a => parse (render a)) = parse s
  apart : Function.Injective fun a => (render a).toList.map Char.toLower

theorem renders_mixedCase {hash : Bytes → Bytes} (sized : ∀ message, (hash message).length = 32) :
    Renders hash (mixedCase hash) := by
  have mixed (a : Address) : MixedCase (hash (Utf8.encode a.digits)) a _ :=
    mixedCase_checksumDigits (by rw [sized]; decide)
  have lower (a : Address) := (mixed a).lower.trans a.hexDigits_bytes
  have written (a : Address) : (mixedCase hash a).toList = _ := String.toList_ofList
  have read (a : Address) : parse (mixedCase hash a) = .ok a := by
    rw [parse_eq_ok_iff (lower a)]
    exact ⟨[], _, _, [], by rw [written]; simp, by simp, by simp, .inl rfl, rfl⟩
  constructor
  case shown =>
    intro a
    rw [hexDigits_bytes]
    exact ⟨_, written a, mixed a, fun s => parse_eq_ok_iff (lower a)⟩
  case read => exact read
  case again =>
    intro s
    cases parse s with
    | error e => rfl
    | ok a => rw [Except.bind, read]
  case apart =>
    intro a b same
    have digits : a.digits = b.digits := by
      simpa [written, lower] using same
    have shows_a := (parse_eq_ok_iff (s := mixedCase hash a) (lower a)).mp (read a)
    have as_b : parse (mixedCase hash a) = .ok b :=
      (parse_eq_ok_iff ((lower a).trans digits)).mpr shows_a
    exact Except.ok.inj ((read a).symm.trans as_b)

/-- The mixed-case form of an address is read as the address. -/
theorem parse_checksum (a : Address) : parse a.checksum = .ok a :=
  (renders_mixedCase Keccak.length_digest).read a

/-- Addresses are written in mixed case by the digest of their lower-case digits, and are read back
from what is written, in whatever case. It does not depend on what the digests are. -/
theorem checksum_read_in_any_case :
    Renders Keccak.digest checksum ∧
      ∀ hash : Bytes → Vector UInt8 32,
        Renders (fun message => (hash message).toList)
          (mixedCase fun message => (hash message).toList) :=
  ⟨renders_mixedCase Keccak.length_digest,
    fun hash => renders_mixedCase fun message => (hash message).length_toList⟩

end Address

end StarWatch
