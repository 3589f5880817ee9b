import StarWatch.Proofs.Encoding

/-!
# The grammar of logs

Which logs have a payload, said without the decoder: topic 0 names a kind, no
more topics follow than fields stand in front of the name, and the data have a
head word for each field that is left. The head word of a name leads to a length
word and to that many bytes, which may lie anywhere within the data. The decoder
accepts these logs and no others, and nothing behind the bytes that it reads
changes what it reads.
-/

namespace StarWatch

namespace Abi

def wordAt (data : Bytes) (offset : Nat) : Nat := Bytes.toNat ((data.drop offset).take 32)

/-- The head word at a place leads to a name within the data. -/
structure LeadsToName (data : Bytes) (place : Nat) : Prop where
  offset_small : wordAt data place < 2 ^ 32
  length_within : wordAt data place + 32 ≤ data.length
  length_small : wordAt data (wordAt data place) < 2 ^ 32
  bytes_within : wordAt data place + 32 + wordAt data (wordAt data place) ≤ data.length

structure HoldFields (kind : EventKind) (k : Nat) (data : Bytes) : Prop where
  heads : 32 * ((layout kind).length - k) ≤ data.length
  name : ∀ i, (layout kind)[k + i]? = some .name → LeadsToName data (32 * i)

/-- How many fields of a kind may be indexed: those in front of the name. -/
def indexable (kind : EventKind) : Nat := ((layout kind).takeWhile (· ≠ .name)).length

inductive Field.Takes : Field → Cell → Prop
  | owner (a : Address) : Field.Takes .owner (.address a)
  | tokenId (w : Word) : Field.Takes .tokenId (.number w)
  | price (w : Word) : Field.Takes .price (.number w)
  | coordinates (s : String) : Field.Takes .coordinates (.text s)
  | name (s : String) : Field.Takes .name (.text s)

end Abi

/-- A log that has a payload by its topics and the extent of its data alone. -/
def Log.InGrammar (log : Log) : Prop :=
  ∃ (kind : EventKind) (indexed : List Hash), log.topics = kind.signature :: indexed ∧
    indexed.length ≤ Abi.indexable kind ∧
    (indexed.length = (Abi.layout kind).length ∨
      Abi.HoldFields kind indexed.length log.data)

namespace Abi

section Reading

variable {data bs : Bytes} {offset n : Nat} {field : Field} {fields : List Field}

theorem slice?_eq_some_iff :
    slice? data offset n = some bs ↔ offset + n ≤ data.length ∧ (data.drop offset).take n = bs := by
  rw [slice?]
  split
  · rename_i within
    simp [within]
  · rename_i beyond
    simp [beyond]

theorem word?_eq_some_iff :
    word? data offset = some n ↔ offset + 32 ≤ data.length ∧ wordAt data offset = n := by
  simp only [word?, Option.map_eq_some_iff, slice?_eq_some_iff, wordAt]
  constructor
  · rintro ⟨bs, ⟨within, rfl⟩, rfl⟩
    exact ⟨within, rfl⟩
  · rintro ⟨within, rfl⟩
    exact ⟨_, ⟨within, rfl⟩, rfl⟩

theorem size?_eq_some_iff :
    size? data offset = some n ↔
      offset + 32 ≤ data.length ∧ wordAt data offset = n ∧ n < 2 ^ 32 := by
  simp only [size?, Option.bind_eq_some_iff, word?_eq_some_iff]
  constructor
  · rintro ⟨m, ⟨within, rfl⟩, small⟩
    split at small
    · rename_i below
      cases small
      exact ⟨within, rfl, below⟩
    · cases small
  · rintro ⟨within, rfl, small⟩
    exact ⟨_, ⟨within, rfl⟩, if_pos small⟩

theorem exists_dynamic?_iff :
    (∃ bs, dynamic? data offset = some bs) ↔
      offset + 32 ≤ data.length ∧ LeadsToName data offset := by
  simp only [dynamic?, Option.bind_eq_bind, Option.bind_eq_some_iff, size?_eq_some_iff,
    slice?_eq_some_iff]
  constructor
  · rintro ⟨bs, o, ⟨head, rfl, offset_small⟩, n, ⟨length_within, rfl, length_small⟩, reaches, -⟩
    exact ⟨head, offset_small, length_within, length_small, reaches⟩
  · rintro ⟨head, leads⟩
    exact ⟨_, _, ⟨head, rfl, leads.offset_small⟩, _,
      ⟨leads.length_within, rfl, leads.length_small⟩, leads.bytes_within, rfl⟩

/-- A field whose head word is there has a value, unless it is a name that leads nowhere. -/
theorem exists_cell?_iff (wide : field ≠ .coordinates) :
    (∃ cell, cell? data offset field = some cell) ↔
      offset + 32 ≤ data.length ∧ (field = .name → LeadsToName data offset) := by
  have number (f : Nat → Cell) : (∃ cell, (word? data offset).map f = some cell) ↔
      offset + 32 ≤ data.length := by
    simp only [Option.map_eq_some_iff, word?_eq_some_iff]
    constructor
    · rintro ⟨_, n, ⟨within, -⟩, -⟩
      exact within
    · intro within
      exact ⟨_, _, ⟨within, rfl⟩, rfl⟩
  cases field with
  | coordinates => exact absurd rfl wide
  | name => simpa [cell?] using exists_dynamic?_iff
  | owner => simpa [cell?] using number fun n => .address ⟨BitVec.ofNat 160 n⟩
  | tokenId | price => simpa [cell?] using number fun n => .number (BitVec.ofNat 256 n)

/-- The coordinates need less than their head word, so the whole of it suffices for any field. -/
theorem exists_cell? (within : offset + 32 ≤ data.length)
    (leads : field = .name → LeadsToName data offset) :
    ∃ cell, cell? data offset field = some cell := by
  by_cases wide : field = .coordinates
  · subst wide
    have narrow : offset + coordinatesWidth ≤ data.length := by
      rw [coordinatesWidth]
      omega
    exact ⟨_, by rw [cell?, slice?, if_pos narrow, Option.map_some]⟩
  · exact (exists_cell?_iff wide).mpr ⟨within, leads⟩

theorem Field.takes_of_cell? {cell : Cell} (read : cell? data offset field = some cell) :
    field.Takes cell := by
  cases field with
  | owner | tokenId | price | coordinates | name =>
    obtain ⟨_, _, rfl⟩ := Option.map_eq_some_iff.mp read
    constructor

theorem cells?_cons_eq_some_iff {cells : List Cell} :
    cells? data offset (field :: fields) = some cells ↔
      ∃ first rest, cell? data offset field = some first ∧
        cells? data (offset + 32) fields = some rest ∧ cells = first :: rest := by
  simp only [cells?, Option.bind_eq_bind, Option.bind_eq_some_iff, Option.some.injEq]
  constructor
  · rintro ⟨first, read, rest, others, rfl⟩
    exact ⟨first, rest, read, others, rfl⟩
  · rintro ⟨first, rest, read, others, rfl⟩
    exact ⟨first, read, rest, others, rfl⟩

theorem leadsToName_cons :
    (∀ i, (field :: fields)[i]? = some .name → LeadsToName data (offset + 32 * i)) ↔
      (field = .name → LeadsToName data offset) ∧
        ∀ i, fields[i]? = some .name → LeadsToName data (offset + 32 + 32 * i) := by
  constructor
  · intro names
    constructor
    · rintro rfl
      exact names 0 rfl
    · intro i named
      have behind := names (i + 1) named
      rwa [show offset + 32 * (i + 1) = offset + 32 + 32 * i by omega] at behind
  · rintro ⟨first, others⟩ i named
    cases i with
    | zero => exact first (Option.some.inj named)
    | succ i =>
      have behind := others i named
      rwa [show offset + 32 + 32 * i = offset + 32 * (i + 1) by omega] at behind

theorem exists_cells?_cons_iff :
    (∃ cells, cells? data offset (field :: fields) = some cells) ↔
      (∃ cell, cell? data offset field = some cell) ∧
        ∃ cells, cells? data (offset + 32) fields = some cells := by
  simp only [cells?_cons_eq_some_iff]
  constructor
  · rintro ⟨_, first, others, read, there, -⟩
    exact ⟨⟨first, read⟩, others, there⟩
  · rintro ⟨⟨first, read⟩, others, there⟩
    exact ⟨_, first, others, read, there, rfl⟩

/-- Fields have values exactly if their heads are within the data and names lead somewhere. The
coordinates need less than their head word, but they are never the last field. -/
theorem exists_cells?_iff (data : Bytes) (offset : Nat)
    (ends : fields.getLast? ≠ some .coordinates) :
    (∃ cells, cells? data offset fields = some cells) ↔
      (fields ≠ [] → offset + 32 * fields.length ≤ data.length) ∧
        ∀ i, fields[i]? = some .name → LeadsToName data (offset + 32 * i) := by
  induction fields generalizing offset with
  | nil => simp [cells?]
  | cons field rest ih =>
    rw [leadsToName_cons, List.length_cons, exists_cells?_cons_iff]
    by_cases last : rest = []
    · subst last
      have wide : field ≠ .coordinates := fun same => ends (by rw [same]; rfl)
      rw [exists_cell?_iff wide]
      simp [cells?]
    · rw [List.getLast?_cons_of_ne_nil last] at ends
      rw [ih (offset + 32) ends]
      constructor
      · rintro ⟨read, within, names⟩
        refine ⟨fun _ => by have := within last; omega, ?_, names⟩
        intro named
        have wide : field ≠ .coordinates := by
          rw [named]
          decide
        exact ((exists_cell?_iff wide).mp read).2 named
      · rintro ⟨within, first, names⟩
        have reach := within (List.cons_ne_nil field rest)
        exact ⟨exists_cell? (by omega) first, fun _ => by omega, names⟩

theorem takes_of_cells? {cells : List Cell} (read : cells? data offset fields = some cells) :
    List.Forall₂ Field.Takes fields cells := by
  induction fields generalizing offset cells with
  | nil =>
    cases read
    exact .nil
  | cons field rest ih =>
    obtain ⟨first, others, here, there, rfl⟩ := cells?_cons_eq_some_iff.mp read
    exact .cons (Field.takes_of_cell? here) (ih there)

/-- A topic holds a value of every field but a name. -/
theorem exists_topicCells? {topics : List Hash} (length : fields.length = topics.length)
    (fixed : ∀ field ∈ fields, field ≠ .name) :
    ∃ cells, topicCells? fields topics = some cells ∧ List.Forall₂ Field.Takes fields cells := by
  induction fields generalizing topics with
  | nil => exact ⟨[], by simp [topicCells?], .nil⟩
  | cons field rest ih =>
    cases topics with
    | nil => cases length
    | cons topic topics =>
      obtain ⟨first, others⟩ := List.forall_mem_cons.mp fixed
      have width : 0 + 32 ≤ (topicBytes topic).length := by
        rw [topicBytes, Bytes.length_ofNat]
      obtain ⟨cell, read⟩ := exists_cell? width fun named => absurd named first
      obtain ⟨cells, there, takes⟩ := ih (Nat.succ.inj length) others
      refine ⟨cell :: cells, ?_, .cons (Field.takes_of_cell? read) takes⟩
      rw [topicCells?] at there
      simp [topicCells?, List.mapM_cons, read, there]

end Reading

section Layouts

variable {kind : EventKind} {indexed : List Hash} {data : Bytes} {p : Payload}

/-- Values of the right types make a payload. -/
theorem exists_assembled : ∀ {kind : EventKind} {cells : List Cell},
    List.Forall₂ Field.Takes (layout kind) cells → ∃ p, assemble? kind cells = some p
  | .create, _, .cons (.owner _) (.cons (.tokenId _) (.cons (.coordinates _)
      (.cons (.name _) .nil))) => ⟨_, rfl⟩
  | .changeName, _, .cons (.owner _) (.cons (.tokenId _) (.cons (.name _) .nil)) => ⟨_, rfl⟩
  | .putForSale, _, .cons (.owner _) (.cons (.tokenId _) (.cons (.price _) .nil)) => ⟨_, rfl⟩
  | .removeFromSale, _, .cons (.owner _) (.cons (.tokenId _) .nil) => ⟨_, rfl⟩
  | .purchase, _, .cons (.owner _) (.cons (.tokenId _) .nil) => ⟨_, rfl⟩

/-- Every layout ends in a field that takes its whole head word. -/
theorem getLast?_drop_layout (kind : EventKind) (k : Nat) :
    ((layout kind).drop k).getLast? ≠ some .coordinates := by
  rw [List.getLast?_drop]
  split
  · simp
  · cases kind
    all_goals decide

/-- The leading fields may all be indexed as long as the name is not among them. -/
theorem forall_take_ne_name_iff {k : Nat} (few : k ≤ (layout kind).length) :
    (∀ field ∈ (layout kind).take k, field ≠ .name) ↔ k ≤ indexable kind := by
  constructor
  · intro fixed
    have kept : (layout kind).takeWhile (· ≠ .name) =
        (layout kind).take k ++ ((layout kind).drop k).takeWhile (· ≠ .name) := by
      conv_lhs => rw [← List.take_append_drop k (layout kind)]
      exact List.takeWhile_append_of_pos fun field chosen => decide_eq_true (fixed field chosen)
    rw [indexable, kept, List.length_append, List.length_take_of_le few]
    exact Nat.le_add_right _ _
  · intro within field chosen
    have leading : (layout kind).take k <+: (layout kind).takeWhile (· ≠ .name) :=
      List.prefix_of_prefix_length_le (List.take_prefix k _) (List.takeWhile_prefix _)
        ((List.length_take_le k _).trans within)
    simpa using List.mem_takeWhile_imp (leading.subset chosen)

theorem indexable_le (kind : EventKind) : indexable kind ≤ (layout kind).length :=
  (List.takeWhile_prefix _).length_le

theorem find?_not_isIndexable_iff {fields : List Field} :
    (fields.find? fun field => !field.isIndexable) = none ↔ ∀ field ∈ fields, field ≠ .name := by
  simp only [List.find?_eq_none, Bool.not_eq_true, Bool.not_eq_false', Field.isIndexable_iff]

/-- Everything that the decoder asks of the topics and the data of a kind. -/
theorem decodeAs_eq_ok_iff :
    decodeAs kind indexed data = .ok p ↔
      indexed.length ≤ (layout kind).length ∧
      (∀ field ∈ (layout kind).take indexed.length, field ≠ .name) ∧
      ((layout kind).drop indexed.length ≠ [] → data ≠ []) ∧
      ∃ front back, topicCells? ((layout kind).take indexed.length) indexed = some front ∧
        cells? data 0 ((layout kind).drop indexed.length) = some back ∧
        assemble? kind (front ++ back) = some p := by
  have present : (!((layout kind).drop indexed.length).isEmpty && data.isEmpty) = true ↔
      ¬ ((layout kind).drop indexed.length ≠ [] → data ≠ []) := by
    rw [Bool.and_eq_true, Bool.not_eq_true', List.isEmpty_eq_false_iff, List.isEmpty_iff,
      Classical.not_imp, not_not]
  simp only [decodeAs]
  rw [← find?_not_isIndexable_iff]
  split
  · rename_i many
    simp only [reduceCtorEq, false_iff]
    rintro ⟨few, -⟩
    omega
  rename_i few
  rw [Nat.not_lt] at few
  split
  · rename_i found
    simp [found]
  rename_i all_fixed
  split
  · rename_i empty
    simp only [reduceCtorEq, false_iff]
    rintro ⟨-, -, filled, -⟩
    exact present.mp empty filled
  rename_i filled
  rw [present, not_not] at filled
  constructor
  · intro decoded
    split at decoded
    · rename_i q read
      cases decoded
      obtain ⟨front, front_read, read⟩ := Option.bind_eq_some_iff.mp read
      obtain ⟨back, back_read, assembled⟩ := Option.bind_eq_some_iff.mp read
      exact ⟨few, all_fixed, filled, front, back, front_read, back_read, assembled⟩
    · cases decoded
  · rintro ⟨-, -, -, front, back, front_read, back_read, assembled⟩
    simp [front_read, back_read, assembled]

/-- The fields that are left have values exactly if there are none or the data hold them. -/
theorem exists_left_iff {k : Nat} (few : k ≤ (layout kind).length) :
    (∃ cells, cells? data 0 ((layout kind).drop k) = some cells) ↔
      k = (layout kind).length ∨ HoldFields kind k data := by
  rw [exists_cells?_iff data 0 (getLast?_drop_layout kind k)]
  simp only [Nat.zero_add, List.length_drop, List.getElem?_drop]
  constructor
  · rintro ⟨heads, names⟩
    by_cases all : k = (layout kind).length
    · exact .inl all
    · have left : (layout kind).drop k ≠ [] := by
        rw [ne_eq, List.drop_eq_nil_iff]
        omega
      exact .inr ⟨heads left, names⟩
  · rintro (rfl | held)
    · refine ⟨fun left => absurd List.drop_length left, ?_⟩
      intro i named
      rw [List.getElem?_eq_none (Nat.le_add_right _ i)] at named
      cases named
    · exact ⟨fun _ => held.heads, held.name⟩

theorem exists_decodeAs_iff :
    (∃ p, decodeAs kind indexed data = .ok p) ↔
      indexed.length ≤ indexable kind ∧
        (indexed.length = (layout kind).length ∨ HoldFields kind indexed.length data) := by
  constructor
  · rintro ⟨p, decoded⟩
    obtain ⟨few, fixed, -, -, back, -, back_read, -⟩ := decodeAs_eq_ok_iff.mp decoded
    exact ⟨(forall_take_ne_name_iff few).mp fixed, (exists_left_iff few).mp ⟨back, back_read⟩⟩
  · rintro ⟨within, held⟩
    have few := within.trans (indexable_le kind)
    have fixed := (forall_take_ne_name_iff few).mpr within
    obtain ⟨front, front_read, front_takes⟩ :=
      exists_topicCells? (List.length_take_of_le few) fixed
    obtain ⟨back, back_read⟩ := (exists_left_iff few).mpr held
    have takes : List.Forall₂ Field.Takes (layout kind) (front ++ back) := by
      rw [← List.take_append_drop indexed.length (layout kind)]
      exact List.rel_append front_takes (takes_of_cells? back_read)
    obtain ⟨p, assembled⟩ := exists_assembled takes
    refine ⟨p, decodeAs_eq_ok_iff.mpr ⟨few, fixed, ?_, front, back, front_read, back_read,
      assembled⟩⟩
    rintro left rfl
    rw [ne_eq, List.drop_eq_nil_iff, Nat.not_le] at left
    rcases held with all | ⟨heads, -⟩
    · omega
    · rw [List.length_nil] at heads
      omega

end Layouts

section Trailing

variable {data bs : Bytes} {offset n : Nat} {field : Field} {fields : List Field}

theorem slice?_append (read : slice? data offset n = some bs) (trailing : Bytes) :
    slice? (data ++ trailing) offset n = some bs := by
  obtain ⟨within, taken⟩ := slice?_eq_some_iff.mp read
  refine slice?_eq_some_iff.mpr ⟨?_, ?_⟩
  · rw [List.length_append]
    omega
  · rw [List.drop_append_of_le_length (by omega), List.take_append_of_le_length, taken]
    rw [List.length_drop]
    omega

theorem word?_append (read : word? data offset = some n) (trailing : Bytes) :
    word? (data ++ trailing) offset = some n := by
  obtain ⟨bs, sliced, rfl⟩ := Option.map_eq_some_iff.mp read
  rw [word?, slice?_append sliced, Option.map_some]

theorem size?_append (read : size? data offset = some n) (trailing : Bytes) :
    size? (data ++ trailing) offset = some n := by
  obtain ⟨m, word, small⟩ := Option.bind_eq_some_iff.mp read
  rw [size?, word?_append word, Option.bind_some, small]

theorem dynamic?_append (read : dynamic? data offset = some bs) (trailing : Bytes) :
    dynamic? (data ++ trailing) offset = some bs := by
  obtain ⟨place, head, read⟩ := Option.bind_eq_some_iff.mp read
  obtain ⟨length, counted, sliced⟩ := Option.bind_eq_some_iff.mp read
  simp [dynamic?, size?_append head, size?_append counted, slice?_append sliced]

theorem cell?_append {cell : Cell} (read : cell? data offset field = some cell)
    (trailing : Bytes) : cell? (data ++ trailing) offset field = some cell := by
  cases field with
  | owner | tokenId | price =>
    obtain ⟨n, word, rfl⟩ := Option.map_eq_some_iff.mp read
    rw [cell?, word?_append word, Option.map_some]
  | coordinates =>
    obtain ⟨bs, sliced, rfl⟩ := Option.map_eq_some_iff.mp read
    rw [cell?, slice?_append sliced, Option.map_some]
  | name =>
    obtain ⟨bs, found, rfl⟩ := Option.map_eq_some_iff.mp read
    rw [cell?, dynamic?_append found, Option.map_some]

/-- What stands behind the bytes that were read does not matter. -/
theorem cells?_append {cells : List Cell} (read : cells? data offset fields = some cells)
    (trailing : Bytes) : cells? (data ++ trailing) offset fields = some cells := by
  induction fields generalizing offset cells with
  | nil => exact read
  | cons field rest ih =>
    obtain ⟨first, others, here, there, rfl⟩ := cells?_cons_eq_some_iff.mp read
    exact cells?_cons_eq_some_iff.mpr ⟨first, others, cell?_append here trailing, ih there, rfl⟩

theorem decodeAs_append {kind : EventKind} {indexed : List Hash} {p : Payload}
    (decoded : decodeAs kind indexed data = .ok p) (trailing : Bytes) :
    decodeAs kind indexed (data ++ trailing) = .ok p := by
  obtain ⟨few, fixed, filled, front, back, front_read, back_read, assembled⟩ :=
    decodeAs_eq_ok_iff.mp decoded
  refine decodeAs_eq_ok_iff.mpr ⟨few, fixed, ?_, front, back, front_read,
    cells?_append back_read trailing, assembled⟩
  intro left empty
  exact filled left (List.append_eq_nil_iff.mp empty).1

end Trailing

end Abi

namespace Log

theorem exists_payload_iff (log : Log) : (∃ p, log.payload = .ok p) ↔ log.InGrammar := by
  simp only [payload_eq_ok, InGrammar]
  constructor
  · rintro ⟨p, decoded⟩
    rw [Abi.decode] at decoded
    split at decoded
    · cases decoded
    · rename_i signature indexed topics
      split at decoded
      · cases decoded
      · rename_i kind named
        refine ⟨kind, indexed, ?_, Abi.exists_decodeAs_iff.mp ⟨p, decoded⟩⟩
        rw [topics, EventKind.eq_signature_of_ofSignature? named]
  · rintro ⟨kind, indexed, topics, held⟩
    obtain ⟨p, decoded⟩ := Abi.exists_decodeAs_iff.mpr held
    refine ⟨p, ?_⟩
    simp only [Abi.decode, topics, EventKind.ofSignature?_signature, decoded]

theorem payload_append {log : Log} {p : Payload} (accepted : log.payload = .ok p)
    (trailing : Bytes) : ({ log with data := log.data ++ trailing } : Log).payload = .ok p := by
  rw [payload_eq_ok, Abi.decode] at accepted ⊢
  split at accepted
  · cases accepted
  · rename_i signature indexed topics
    split at accepted
    · cases accepted
    · rename_i kind named
      simp only [topics, named, Abi.decodeAs_append accepted]

end Log

/-- The decoder accepts exactly the logs of the grammar, answers every other log with a decoding
error, and reads the same out of an accepted log whatever is appended to its data. -/
theorem decodes_exactly_grammar (log : Log) :
    ((∃ p, log.payload = .ok p) ↔ log.InGrammar) ∧
      (¬ log.InGrammar → ∃ reason, log.payload = .error (.decode reason)) ∧
      ∀ p, log.payload = .ok p →
        ∀ trailing, ({ log with data := log.data ++ trailing } : Log).payload = .ok p := by
  refine ⟨log.exists_payload_iff, ?_, fun p accepted => Log.payload_append accepted⟩
  intro outside
  rw [Log.payload]
  cases decoded : Abi.decode log with
  | error e => exact ⟨e.message, rfl⟩
  | ok p => exact absurd (log.exists_payload_iff.mp ⟨p, Log.payload_eq_ok.mpr decoded⟩) outside

/-- A single head word of zeros leads to itself, as the length of an empty name. -/
example : Abi.decodeAs .changeName [⟨0xbeef⟩, ⟨7⟩] (List.replicate 32 0) =
    .ok (.changeName ⟨0xbeef⟩ 7 "") := by
  decide +kernel

end StarWatch
