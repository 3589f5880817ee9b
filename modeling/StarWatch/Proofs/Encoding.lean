import Mathlib.Data.List.TakeWhile
import StarWatch.Proofs.Identity
import StarWatch.Proofs.Utf8

/-!
# The standard encoding is decoded

`encode` writes values by the contract language's rules: one head word for each
value, and the values without a fixed width behind the heads, where their head
words point to. The fields in front of the name may stand in topics instead, as
many of them as are indexed. Whatever the split, the decoder finds each head and
each tail where `encode` put it.
-/

namespace StarWatch

namespace Abi

/-- A value of a contract's event: a number, or a byte string of fixed width or of any length. -/
inductive Value where
  | address (a : Address)
  | uint (w : Word)
  | fixed (bs : Bytes)
  | bytes (bs : Bytes)

def word (n : Nat) : Bytes := Bytes.ofNat 32 n

def fillUp (bs : Bytes) : Bytes := bs ++ List.replicate ((32 - bs.length % 32) % 32) 0

namespace Value

/-- The head word. A byte string of any length has the offset of its tail there. -/
def head (offset : Nat) : Value → Bytes
  | address a => word a.bits.toNat
  | uint w => word w.toNat
  | fixed bs => bs ++ List.replicate (32 - bs.length) 0
  | bytes _ => word offset

/-- What stands behind the heads: the length, and the bytes in whole words. -/
def tail : Value → Bytes
  | bytes bs => word bs.length ++ fillUp bs
  | _ => []

def topic (v : Value) : Hash := ⟨BitVec.ofNat 256 (Bytes.toNat (v.head 0))⟩

/-- The tail adds a length word to the bytes, and less than a word of zeros. -/
theorem length_tail_bytes_lt (bs : Bytes) : (bytes bs).tail.length < bs.length + 64 := by
  simp only [tail, word, fillUp, List.length_append, List.length_replicate, Bytes.length_ofNat]
  omega

end Value

/-- The head words of values, the first tail of which stands at an offset. -/
def heads : Nat → List Value → Bytes
  | _, [] => []
  | offset, v :: rest => v.head offset ++ heads (offset + v.tail.length) rest

def tails (vs : List Value) : Bytes := vs.flatMap Value.tail

/-- The standard encoding of values; offsets count from its start. -/
def encode (vs : List Value) : Bytes := heads (32 * vs.length) vs ++ tails vs

end Abi

namespace Payload

def textBytes (s : String) : Bytes := Utf8.encode s.toList

def values : Payload → List Abi.Value
  | create owner id coordinates name =>
    [.address owner, .uint id, .fixed (textBytes coordinates), .bytes (textBytes name)]
  | changeName owner id newName => [.address owner, .uint id, .bytes (textBytes newName)]
  | putForSale owner id price => [.address owner, .uint id, .uint price]
  | removeFromSale owner id => [.address owner, .uint id]
  | purchase newOwner id => [.address newOwner, .uint id]

/-- The texts fit their fields and do not end in NUL. -/
structure Encodable (p : Payload) : Prop where
  coordinates : p.coordinates.toList.getLast? ≠ some (Char.ofNat 0)
  coordinates_fit : (textBytes p.coordinates).length ≤ Abi.coordinatesWidth
  name : p.name.toList.getLast? ≠ some (Char.ofNat 0)
  name_fits : (textBytes p.name).length < 2 ^ 31

end Payload

namespace Bytes

theorem ofNat_toNat (bs : Bytes) : ofNat bs.length (toNat bs) = bs := by
  induction bs using List.reverseRecOn with
  | nil => rfl
  | append_singleton bs b ih =>
    have small : b.toNat < 256 := b.toNat_lt
    have high : (toNat bs * 256 + b.toNat) / 256 = toNat bs := by omega
    have low : UInt8.ofNat (toNat bs * 256 + b.toNat) = b := by
      have byte : (UInt8.ofNat (toNat bs * 256 + b.toNat)).toNat =
          (toNat bs * 256 + b.toNat) % 256 := by simp
      rw [← UInt8.toNat_inj, byte]
      omega
    rw [List.length_append, List.length_singleton, ofNat, toNat_append_singleton, high, low, ih]

theorem toNat_lt (bs : Bytes) : toNat bs < 256 ^ bs.length := by
  induction bs using List.reverseRecOn with
  | nil => simp [toNat]
  | append_singleton bs b ih =>
    have small : b.toNat < 256 := b.toNat_lt
    rw [List.length_append, List.length_singleton, toNat_append_singleton, pow_succ]
    omega

end Bytes

namespace Abi

theorem Field.isIndexable_iff {field : Field} : field.isIndexable = true ↔ field ≠ .name := by
  cases field
  all_goals decide

def StandsAt (data bs : Bytes) (offset : Nat) : Prop :=
  ∃ front rest, data = front ++ (bs ++ rest) ∧ front.length = offset

section Standing

variable {data first second bs : Bytes} {offset n : Nat}

theorem StandsAt.left (stands : StandsAt data (first ++ second) offset) :
    StandsAt data first offset := by
  obtain ⟨front, rest, rfl, rfl⟩ := stands
  exact ⟨front, second ++ rest, by rw [List.append_assoc], rfl⟩

theorem StandsAt.right (stands : StandsAt data (first ++ second) offset) :
    StandsAt data second (offset + first.length) := by
  obtain ⟨front, rest, rfl, rfl⟩ := stands
  exact ⟨front ++ first, rest, by simp only [List.append_assoc], List.length_append⟩

theorem StandsAt.slice? (stands : StandsAt data bs offset) :
    slice? data offset bs.length = some bs := by
  obtain ⟨front, rest, rfl, rfl⟩ := stands
  have reaches : front.length + bs.length ≤ (front ++ (bs ++ rest)).length := by
    simp only [List.length_append]
    omega
  rw [Abi.slice?, if_pos reaches, List.drop_left, List.take_left]

theorem StandsAt.word? (stands : StandsAt data (word n) offset) (fits : n < 2 ^ 256) :
    word? data offset = some n := by
  have read := stands.slice?
  have whole : n % Nat.pow 256 32 = n := Nat.mod_eq_of_lt fits
  rw [word, Bytes.length_ofNat] at read
  rw [Abi.word?, read, Option.map_some, Bytes.toNat_ofNat, whole]

theorem StandsAt.size? (stands : StandsAt data (word n) offset) (fits : n < 2 ^ 32) :
    size? data offset = some n := by
  have read := stands.word? (Nat.lt_trans fits (by decide))
  rw [Abi.size?, read, Option.bind_some, if_pos (show n < UInt32.size from fits)]

end Standing

/-- The value of a field, and what the field is read as. -/
inductive Reads : Field → Value → Cell → Prop
  | owner (a : Address) : Reads .owner (.address a) (.address a)
  | tokenId (w : Word) : Reads .tokenId (.uint w) (.number w)
  | price (w : Word) : Reads .price (.uint w) (.number w)
  | coordinates {s : String} (last : s.toList.getLast? ≠ some (Char.ofNat 0))
      (fits : (Payload.textBytes s).length ≤ coordinatesWidth) :
      Reads .coordinates (.fixed (Payload.textBytes s)) (.text s)
  | name {s : String} (last : s.toList.getLast? ≠ some (Char.ofNat 0))
      (fits : (Payload.textBytes s).length < 2 ^ 31) :
      Reads .name (.bytes (Payload.textBytes s)) (.text s)

section Cells

variable {data : Bytes} {field : Field} {value : Value} {cell : Cell} {place offset : Nat}

theorem Reads.length_head (reads : Reads field value cell) (offset : Nat) :
    (value.head offset).length = 32 := by
  cases reads with
  | coordinates last fits =>
    simp only [Value.head, List.length_append, List.length_replicate]
    rw [coordinatesWidth] at fits
    omega
  | _ => exact Bytes.length_ofNat 32 _

/-- A field is read from its head and its tail, wherever they stand. -/
theorem Reads.cell? (reads : Reads field value cell)
    (head : StandsAt data (value.head offset) place)
    (tail : StandsAt data value.tail offset) (within : offset + value.tail.length < 2 ^ 32) :
    cell? data place field = some cell := by
  cases reads with
  | owner a =>
    have read := head.word? (Nat.lt_trans a.bits.isLt (by decide))
    simp [Abi.cell?, read]
  | tokenId w | price w =>
    have read := head.word? w.isLt
    simp [Abi.cell?, read]
  | @coordinates s last fits =>
    have split : Value.head offset (.fixed (Payload.textBytes s)) =
        (Payload.textBytes s ++ List.replicate (coordinatesWidth - (Payload.textBytes s).length) 0)
          ++ List.replicate (32 - coordinatesWidth) 0 := by
      rw [Value.head, List.append_assoc, ← List.replicate_add]
      rw [coordinatesWidth] at fits ⊢
      congr 2
      omega
    rw [split] at head
    have read := head.left.slice?
    have width : (Payload.textBytes s ++
        List.replicate (coordinatesWidth - (Payload.textBytes s).length) 0).length =
          coordinatesWidth := by
      simp only [List.length_append, List.length_replicate]
      omega
    rw [width] at read
    rw [Abi.cell?, read, Option.map_some, Payload.textBytes, Utf8.ofPadded_encode last]
  | @name s last fits =>
    simp only [Value.tail, fillUp, List.length_append, word, Bytes.length_ofNat] at within
    have there : size? data place = some offset := head.size? (by omega)
    have counted : size? data offset = some (Payload.textBytes s).length :=
      tail.left.size? (by omega)
    have read := tail.right.left.slice?
    rw [word, Bytes.length_ofNat] at read
    have kept : Utf8.ofPadded (Payload.textBytes s) = s := by
      simpa [Payload.textBytes] using Utf8.ofPadded_encode last 0
    simp [Abi.cell?, dynamic?, there, counted, read, kept]

/-- A value that a topic may hold has no tail. -/
theorem Reads.tail_eq_nil (reads : Reads field value cell) (indexable : field.isIndexable = true) :
    value.tail = [] := by
  cases reads with
  | name last fits => cases indexable
  | _ => rfl

/-- A topic has the bytes of the head word. -/
theorem Reads.topicBytes (reads : Reads field value cell) :
    topicBytes value.topic = value.head 0 := by
  have length := reads.length_head 0
  have small : Bytes.toNat (value.head 0) < 2 ^ 256 := by
    have below := Bytes.toNat_lt (value.head 0)
    rw [length] at below
    exact Nat.lt_of_lt_of_le below (by decide)
  have number : value.topic.bits.toNat = Bytes.toNat (value.head 0) := by
    rw [Value.topic, BitVec.toNat_ofNat, Nat.mod_eq_of_lt small]
  have back := Bytes.ofNat_toNat (value.head 0)
  rw [length] at back
  rw [Abi.topicBytes, number, back]

theorem Reads.cell?_topicBytes (reads : Reads field value cell)
    (indexable : field.isIndexable = true) :
    Abi.cell? (Abi.topicBytes value.topic) 0 field = some cell := by
  have none_behind := reads.tail_eq_nil indexable
  have head : StandsAt (value.head 0) (value.head 0) 0 := ⟨[], [], by simp, rfl⟩
  have tail : StandsAt (value.head 0) value.tail 0 := ⟨[], value.head 0, by simp [none_behind], rfl⟩
  rw [reads.topicBytes]
  exact reads.cell? head tail (by simp [none_behind])

end Cells

structure Entry where
  field : Field
  value : Value
  cell : Cell
  reads : Reads field value cell

section Entries

theorem length_heads (entries : List Entry) (offset : Nat) :
    (heads offset (entries.map Entry.value)).length = 32 * entries.length := by
  induction entries generalizing offset with
  | nil => rfl
  | cons entry rest ih =>
    rw [List.map_cons, heads, List.length_append, entry.reads.length_head, ih, List.length_cons]
    omega

/-- Fields are read from their heads in turn, while the tails follow one another elsewhere. -/
theorem cells?_entries {data : Bytes} {entries : List Entry} {place offset : Nat}
    (heads : StandsAt data (heads offset (entries.map Entry.value)) place)
    (tails : StandsAt data (tails (entries.map Entry.value)) offset)
    (within : offset + (Abi.tails (entries.map Entry.value)).length < 2 ^ 32) :
    cells? data place (entries.map Entry.field) = some (entries.map Entry.cell) := by
  induction entries generalizing place offset with
  | nil => rfl
  | cons entry rest ih =>
    rw [List.map_cons, Abi.heads] at heads
    rw [List.map_cons, Abi.tails, List.flatMap_cons] at tails within
    rw [List.length_append] at within
    have first := entry.reads.cell? heads.left tails.left (by omega)
    have next := heads.right
    rw [entry.reads.length_head] at next
    have others := ih next tails.right (by rw [Abi.tails]; omega)
    simp [cells?, first, others]

/-- Indexed fields are read each from its own topic. -/
theorem topicCells?_entries {entries : List Entry}
    (indexable : ∀ entry ∈ entries, entry.field.isIndexable = true) :
    topicCells? (entries.map Entry.field) (entries.map fun entry => entry.value.topic) =
      some (entries.map Entry.cell) := by
  rw [topicCells?]
  induction entries with
  | nil => rfl
  | cons entry rest ih =>
    obtain ⟨first, others⟩ := List.forall_mem_cons.mp indexable
    simp [List.mapM_cons, entry.reads.cell?_topicBytes first, ih others]

/-- However its fields are split between topics and data, a payload is put together again. -/
theorem decodeAs_entries {kind : EventKind} {front back : List Entry} {p : Payload}
    (declared : layout kind = (front ++ back).map Entry.field)
    (assembled : assemble? kind ((front ++ back).map Entry.cell) = some p)
    (indexable : ∀ entry ∈ front, entry.field.isIndexable = true)
    (within : 32 * back.length + (tails (back.map Entry.value)).length < 2 ^ 32)
    (trailing : Bytes) :
    decodeAs kind (front.map fun entry => entry.value.topic)
      (encode (back.map Entry.value) ++ trailing) = .ok p := by
  have inTopics : (layout kind).take front.length = front.map Entry.field := by
    rw [declared, List.map_append, List.take_left' (List.length_map _)]
  have inData : (layout kind).drop front.length = back.map Entry.field := by
    rw [declared, List.map_append, List.drop_left' (List.length_map _)]
  have few : ¬ (layout kind).length < front.length := by
    simp [declared]
  have allowed : (front.map Entry.field).find? (fun f => !f.isIndexable) = none := by
    simpa using indexable
  have atStart : StandsAt (encode (back.map Entry.value) ++ trailing)
      (encode (back.map Entry.value)) 0 := ⟨[], trailing, rfl, rfl⟩
  have tails := atStart.right
  rw [length_heads, Nat.zero_add] at tails
  have front_read := topicCells?_entries indexable
  have back_read := cells?_entries (List.length_map Entry.value ▸ atStart.left) tails within
  have filled : encode (back.map Entry.value) = [] → back = [] := by
    intro empty
    have words := length_heads back (32 * (back.map Entry.value).length)
    rw [(List.append_eq_nil_iff.mp empty).1, List.length_nil] at words
    exact List.eq_nil_of_length_eq_zero (by omega)
  have present : ¬ (!(back.map Entry.field).isEmpty &&
      (encode (back.map Entry.value) ++ trailing).isEmpty) = true := by
    simp only [Bool.and_eq_true, Bool.not_eq_true', List.isEmpty_iff, List.append_eq_nil_iff,
      List.isEmpty_eq_false_iff, List.map_eq_nil_iff, not_and, ne_eq]
    exact fun some_left empty => absurd (filled empty) some_left
  rw [List.map_append] at assembled
  simp only [decodeAs, List.length_map]
  rw [if_neg few, inTopics, inData, allowed]
  dsimp only
  rw [if_neg present, front_read, back_read]
  simp [assembled]

end Entries

end Abi

namespace Payload

variable {p : Payload}

def entries : (p : Payload) → p.Encodable → List Abi.Entry
  | create owner id _ _, fits =>
    [⟨.owner, _, _, .owner owner⟩, ⟨.tokenId, _, _, .tokenId id⟩,
      ⟨.coordinates, _, _, .coordinates fits.coordinates fits.coordinates_fit⟩,
      ⟨.name, _, _, .name fits.name fits.name_fits⟩]
  | changeName owner id _, fits =>
    [⟨.owner, _, _, .owner owner⟩, ⟨.tokenId, _, _, .tokenId id⟩,
      ⟨.name, _, _, .name fits.name fits.name_fits⟩]
  | putForSale owner id price, _ =>
    [⟨.owner, _, _, .owner owner⟩, ⟨.tokenId, _, _, .tokenId id⟩, ⟨.price, _, _, .price price⟩]
  | removeFromSale owner id, _ => [⟨.owner, _, _, .owner owner⟩, ⟨.tokenId, _, _, .tokenId id⟩]
  | purchase owner id, _ => [⟨.owner, _, _, .owner owner⟩, ⟨.tokenId, _, _, .tokenId id⟩]

theorem map_field_entries (fits : p.Encodable) :
    Abi.layout p.kind = (p.entries fits).map Abi.Entry.field := by
  cases p
  all_goals rfl

theorem map_value_entries (fits : p.Encodable) :
    (p.entries fits).map Abi.Entry.value = p.values := by
  cases p
  all_goals rfl

theorem assemble?_entries (fits : p.Encodable) :
    Abi.assemble? p.kind ((p.entries fits).map Abi.Entry.cell) = some p := by
  cases p
  all_goals rfl

/-- Of all fields only the name has a tail. -/
theorem length_tails_values_lt (p : Payload) :
    (Abi.tails p.values).length < (textBytes p.name).length + 64 := by
  have tail := Abi.Value.length_tail_bytes_lt (textBytes p.name)
  cases p with
  | create | changeName => simpa [values, Abi.tails, Abi.Value.tail, name] using tail
  | putForSale | removeFromSale | purchase => simp [values, Abi.tails, Abi.Value.tail]

/-- Offsets into the data of a payload stay small. -/
theorem length_encode_lt (fits : p.Encodable) (k : Nat) :
    32 * (p.values.drop k).length + (Abi.tails (p.values.drop k)).length < 2 ^ 32 := by
  have few : p.values.length ≤ 4 := by
    cases p
    all_goals simp [values]
  have short := p.length_tails_values_lt
  have name_fits := fits.name_fits
  have parts : (Abi.tails p.values).length =
      (Abi.tails (p.values.take k)).length + (Abi.tails (p.values.drop k)).length := by
    conv_lhs => rw [← List.take_append_drop k p.values]
    rw [Abi.tails, List.flatMap_append, List.length_append]
    rfl
  rw [List.length_drop]
  omega

/-- The fields in front of the name may all be indexed. -/
theorem isIndexable_take (fits : p.Encodable) {k : Nat}
    (split : k ≤ ((Abi.layout p.kind).takeWhile (· ≠ .name)).length) :
    ∀ entry ∈ (p.entries fits).take k, entry.field.isIndexable = true := by
  have leading : (Abi.layout p.kind).take k <+: (Abi.layout p.kind).takeWhile (· ≠ .name) :=
    List.prefix_of_prefix_length_le (List.take_prefix k _) (List.takeWhile_prefix _)
      ((List.length_take_le k _).trans split)
  intro entry chosen
  have early : entry.field ∈ (Abi.layout p.kind).take k := by
    rw [map_field_entries fits, ← List.map_take]
    exact List.mem_map_of_mem chosen
  have other : entry.field ≠ .name := by
    simpa using List.mem_takeWhile_imp (leading.subset early)
  exact Abi.Field.isIndexable_iff.mpr other

/-- A log that carries a payload: the first `k` fields in topics, the others in the data, and
any bytes behind them. -/
def carriedBy (p : Payload) (log : Log) (k : Nat) (trailing : Bytes) : Log :=
  { log with
    topics := p.kind.signature :: (p.values.take k).map Abi.Value.topic
    data := Abi.encode (p.values.drop k) ++ trailing }

end Payload

/-- Decoding undoes the standard encoding for every split between topics and data. -/
theorem decode_undoes_encode (log : Log) {p : Payload} (fits : p.Encodable) {k : Nat}
    (split : k ≤ ((Abi.layout p.kind).takeWhile (· ≠ .name)).length) (trailing : Bytes) :
    (p.carriedBy log k trailing).payload = .ok p := by
  have declared := p.map_field_entries fits
  have assembled := p.assemble?_entries fits
  have within := p.length_encode_lt fits k
  rw [← List.take_append_drop k (p.entries fits)] at declared assembled
  rw [← p.map_value_entries fits, ← List.map_drop, List.length_map] at within
  rw [Log.payload_eq_ok, Abi.decode, Payload.carriedBy]
  simp only [EventKind.ofSignature?_signature]
  rw [← p.map_value_entries fits, ← List.map_take, ← List.map_drop, List.map_map]
  exact Abi.decodeAs_entries declared assembled (p.isIndexable_take fits split) within trailing

section Star

def star : Payload := .create ⟨0xbeef⟩ 7 "ra_18h_36m" "Vega"

/-- A star with its owner and its token in topics, and a byte behind the data. -/
theorem star_read_from_topics_and_data :
    star.Encodable ∧ 2 ≤ ((Abi.layout star.kind).takeWhile (· ≠ .name)).length ∧
      (star.carriedBy purchaseLog 2 [0xff]).topics =
        [EventKind.create.signature, ⟨0xbeef⟩, ⟨7⟩] ∧
      (star.carriedBy purchaseLog 2 [0xff]).data.hex =
        "0x72615f3138685f33366d00000000000000000000000000000000000000000000" ++
          "0000000000000000000000000000000000000000000000000000000000000040" ++
          "0000000000000000000000000000000000000000000000000000000000000004" ++
          "5665676100000000000000000000000000000000000000000000000000000000ff" ∧
      (star.carriedBy purchaseLog 2 [0xff]).payload = .ok star := by
  have fits : star.Encodable :=
    ⟨by decide +kernel, by decide +kernel, by decide +kernel, by decide +kernel⟩
  exact ⟨fits, by decide, by decide +kernel, by decide +kernel,
    decode_undoes_encode purchaseLog fits (by decide) [0xff]⟩

end Star

end StarWatch
