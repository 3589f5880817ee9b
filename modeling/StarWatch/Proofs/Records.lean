import StarWatch.Api
import StarWatch.Proofs.HexText
import StarWatch.Proofs.InstantText
import StarWatch.Proofs.JsonText
import StarWatch.Proofs.Notices

/-!
# Records are read back

Logs, blocks, payloads and notices have JSON forms whose field names are distinct,
so each field is found with its own value. Every value is read back from its form:
hashes and words from their digits, numbers from integers, bytes from lists, dates
from their text. With the text of JSON this carries a record over the wire.
-/

namespace StarWatch

namespace Json

variable {names : List String} {values : List Json}

/-- Where names are distinct, a field is found with its value. -/
theorem find?_of_mem {fields : List (String × Json)} {name : String} {value : Json}
    (distinct : (fields.map Prod.fst).Nodup) (member : (name, value) ∈ fields) :
    (fields.find? fun f => f.1 == name) = some (name, value) := by
  induction fields with
  | nil => cases member
  | cons f rest ih =>
    obtain ⟨new, others⟩ := List.nodup_cons.mp distinct
    rcases List.mem_cons.mp member with rfl | later
    · simp
    · have other : f.1 ≠ name := by
        rintro rfl
        exact new (List.mem_map.mpr ⟨_, later, rfl⟩)
      rw [List.find?_cons_of_neg (by simpa using other)]
      exact ih others later

theorem field?_of_mem {fields : List (String × Json)} {name : String} {value : Json}
    (distinct : (fields.map Prod.fst).Nodup) (member : (name, value) ∈ fields) :
    (object fields).field? name = some value := by
  have reversed : (fields.reverse.map Prod.fst).Nodup := by
    rw [List.map_reverse]
    exact List.nodup_reverse.mpr distinct
  rw [field?, find?_of_mem reversed (List.mem_reverse.mpr member), Option.map_some]

/-- The fields of an object that is made from names and values. -/
theorem fields?_zip (distinct : names.Nodup) (same : names.length = values.length) :
    (object (names.zip values)).fields? names = some values := by
  have left : (names.zip values).map Prod.fst = names := List.map_fst_zip (by omega)
  have right : (names.zip values).map Prod.snd = values := List.map_snd_zip (by omega)
  have found : ∀ f ∈ names.zip values,
      (object (names.zip values)).field? f.1 = some f.2 := by
    intro f member
    exact field?_of_mem (left.symm ▸ distinct) member
  have items := Numeral.mapM_map_eq_some Prod.fst
    (fun name => (object (names.zip values)).field? name) Prod.snd found
  rw [left, right] at items
  exact items

theorem record?_zip (distinct : names.Nodup) (same : names.length = values.length) :
    (object (names.zip values)).record? names = some values := fields?_zip distinct same

theorem plain_zip (names : List String) (all : ∀ j ∈ values, Plain j) :
    Plain (object (names.zip values)) := by
  refine .object ?_
  intro f member
  exact all f.2 (List.of_mem_zip member).2

end Json

namespace Record

theorem hash?_hex (h : Hash) : hash? (.text h.hex) = some h := by
  simp [hash?, Json.text?, Hash.hex, Hash.ofHexChars?_hexChars]

theorem address?_hex (a : Address) : address? (.text a.hex) = some a := by
  simp [address?, Json.text?, Address.hex, Address.ofHexChars?_hexChars]

theorem word?_hex (w : Word) : word? (.text w.hex) = some w := by
  simp [word?, Json.text?, Word.hex, Word.ofHexChars?_hexChars]

theorem nat?_ofNat {bound n : Nat} (small : n < bound) : (Json.ofNat n).nat? bound = some n := by
  show (if n < bound then some n else none) = some n
  rw [if_pos small]

theorem uint64?_ofUInt64 (n : UInt64) : uint64? (ofUInt64 n) = some n := by
  rw [uint64?, ofUInt64, nat?_ofNat n.toNat_lt, Option.map_some, UInt64.ofNat_toNat]

theorem byte?_ofNat (b : UInt8) : byte? (.ofNat b.toNat) = some b := by
  rw [byte?, nat?_ofNat b.toNat_lt, Option.map_some, UInt8.ofNat_toNat]

theorem bytes?_ofBytes (bs : Bytes) : bytes? (ofBytes bs) = some bs := by
  simp [bytes?, ofBytes, Json.array?, Numeral.mapM_map_eq_self fun b _ => byte?_ofNat b]

theorem hashes?_texts (hs : List Hash) :
    hashes? (.array (hs.map fun h => .text h.hex)) = some hs := by
  simp [hashes?, Json.array?, Numeral.mapM_map_eq_self fun h _ => hash?_hex h]

theorem instant?_write {t : Instant} (whole : t.IsWhole) : instant? (.text t.write) = some t := by
  simp [instant?, Json.text?, whole.read?_write]

end Record

open Record

section Forms

theorem Log.ofJson?_toJson (log : Log) : ofJson? log.toJson = some log := by
  have distinct : Log.fieldNames.Nodup := by decide
  rw [ofJson?, toJson, Json.record?_zip distinct rfl]
  simp [address?_hex, hashes?_texts, bytes?_ofBytes, word?_hex, hash?_hex, uint64?_ofUInt64,
    Json.bool?]

theorem Block.ofJson?_toJson (block : Block) : ofJson? block.toJson = some block := by
  have distinct : Block.fieldNames.Nodup := by decide
  rw [ofJson?, toJson, Json.record?_zip distinct rfl]
  simp [word?_hex, hash?_hex, uint64?_ofUInt64]

namespace Payload

theorem ofFields?_fieldValues (p : Payload) : ofFields? p.kind p.fieldValues = some p := by
  cases p
  all_goals simp [fieldValues, ofFields?, kind, address?_hex, word?_hex, Json.text?]

theorem ofJson?_toJson (p : Payload) : ofJson? p.toJson = some p := by
  have distinct : (fieldNames p.kind).Nodup := by cases p.kind <;> decide
  have same : (fieldNames p.kind).length = p.fieldValues.length := by cases p <;> rfl
  calc ofJson? p.toJson
      = (EventKind.ofName? p.kind.name).bind fun kind =>
          ((Json.object ((fieldNames p.kind).zip p.fieldValues)).fields? (fieldNames kind)).bind
            (ofFields? kind) := rfl
    _ = ofFields? p.kind p.fieldValues := by
        rw [EventKind.ofName?_name, Option.bind_some, Json.fields?_zip distinct same,
          Option.bind_some]
    _ = some p := ofFields?_fieldValues p

end Payload

namespace Notice

theorem ofFields?_fieldValues {n : Notice} (whole : n.date.IsWhole) :
    ofFields? n.kind n.fieldValues = some n := by
  have date := instant?_write whole
  cases n
  all_goals
    simp only [Notice.date] at date
    simp [fieldValues, ofFields?, kind, Json.text?, date]

theorem ofJson?_toJson {n : Notice} (whole : n.date.IsWhole) :
    ofJson? n.kind n.toJson = some n := by
  have distinct : (fieldNames n.kind).Nodup := by cases n.kind <;> decide
  have same : (fieldNames n.kind).length = n.fieldValues.length := by cases n <;> rfl
  rw [ofJson?, toJson, Json.record?_zip distinct same, Option.bind_some,
    ofFields?_fieldValues whole]

end Notice

end Forms

section Texts

open Json (Plain)

theorem plain_texts (hs : List Hash) : Plain (.array (hs.map fun h => .text h.hex)) := by
  refine .array fun j member => ?_
  obtain ⟨h, -, rfl⟩ := List.mem_map.mp member
  exact .text h.hex

theorem plain_ofBytes (bs : Bytes) : Plain (ofBytes bs) := by
  refine .array fun j member => ?_
  obtain ⟨b, -, rfl⟩ := List.mem_map.mp member
  exact .integer _

theorem Log.plain_toJson (log : Log) : Plain log.toJson := by
  refine Json.plain_zip fieldNames ?_
  simp only [List.forall_mem_cons]
  exact ⟨.text _, plain_texts _, plain_ofBytes _, .text _, .text _, .text _, .integer _, .integer _,
    .bool _, nofun⟩

theorem Block.plain_toJson (block : Block) : Plain block.toJson := by
  refine Json.plain_zip fieldNames ?_
  simp only [List.forall_mem_cons]
  exact ⟨.text _, .text _, .integer _, nofun⟩

theorem Payload.plain_toJson (p : Payload) : Plain p.toJson := by
  have values : ∀ j ∈ p.fieldValues, Plain j := by
    cases p
    all_goals
      simp only [fieldValues, List.forall_mem_cons]
      simp [Plain.text]
  refine .object fun f member => ?_
  rw [List.mem_singleton.mp member]
  exact Json.plain_zip _ values

theorem Notice.plain_toJson (n : Notice) : Plain n.toJson := by
  refine Json.plain_zip _ ?_
  cases n
  all_goals
    simp only [fieldValues, List.forall_mem_cons]
    simp [Plain.text]

theorem Notice.read?_body (n : Notice) : Json.read? n.request.body = some n.toJson :=
  n.plain_toJson.read?_compact

theorem Notice.read_back {n : Notice} (whole : n.date.IsWhole) :
    (Json.read? n.request.body).bind (Notice.ofJson? n.kind) = some n := by
  rw [n.read?_body, Option.bind_some, ofJson?_toJson whole]

end Texts

/-- Logs, blocks, payloads and notices with the date of a block are read back from their text.
The text of a notice is an object with the fields of its kind, and no other notice of the kind has
the same. -/
theorem written_is_read_back :
    (∀ log : Log, (Json.read? log.toJson.compact).bind Log.ofJson? = some log) ∧
    (∀ block : Block, (Json.read? block.toJson.compact).bind Block.ofJson? = some block) ∧
    (∀ p : Payload, (Json.read? p.toJson.compact).bind Payload.ofJson? = some p) ∧
    (∀ (block : Block) (n : Notice), block.time? = some n.date →
      (Json.read? n.request.body).bind (Notice.ofJson? n.kind) = some n ∧
      ∃ fields, Json.read? n.request.body = some (.object fields) ∧
        fields.map Prod.fst = Notice.fieldNames n.kind) ∧
    ∀ (block block' : Block) (m n : Notice), block.time? = some m.date →
      block'.time? = some n.date → m.kind = n.kind → m.request.body = n.request.body → m = n := by
  refine ⟨?_, ?_, ?_, ?_, ?_⟩
  · intro log
    rw [log.plain_toJson.read?_compact, Option.bind_some, log.ofJson?_toJson]
  · intro block
    rw [block.plain_toJson.read?_compact, Option.bind_some, block.ofJson?_toJson]
  · intro p
    rw [p.plain_toJson.read?_compact, Option.bind_some, p.ofJson?_toJson]
  · intro block n stamp
    have same : (Notice.fieldNames n.kind).length = n.fieldValues.length := by cases n <;> rfl
    refine ⟨Notice.read_back (Instant.isWhole_of_time? stamp), _, n.read?_body, ?_⟩
    exact List.map_fst_zip (Nat.le_of_eq same)
  · intro block block' m n stamp stamp' kinds bodies
    have left := Notice.read_back (Instant.isWhole_of_time? stamp)
    have right := Notice.read_back (Instant.isWhole_of_time? stamp')
    rw [kinds, bodies, right] at left
    exact (Option.some.inj left).symm

/-- A notice from the year 10000, with a name that quotes, escapes and ends in NUL. -/
def farNotice : Notice :=
  .changeName "0x00" "7" (String.ofList ['"', '\\', '\n', 'é', Char.ofNat 0]) ⟨253402300800, 0⟩

theorem farNotice_read_back :
    (Json.read? farNotice.request.body).bind (Notice.ofJson? .changeName) = some farNotice :=
  (written_is_read_back.2.2.2.1 ⟨0, default, 253402300800⟩ farNotice (by decide)).1

end StarWatch
