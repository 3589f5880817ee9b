import StarWatch.Event.Notice
import StarWatch.Json.Writer
import StarWatch.Word.Hex

/-!
# JSON records

The JSON forms of logs, blocks, payloads, pending events and notices. Hashes
and addresses are hexadecimal text with all digits, words hexadecimal text
without leading zeros, 64-bit numbers integers, data an array of byte values,
amounts decimal ether, instants RFC 3339 text.

Reading needs every field, in any order, and does not look at others. A record may
also be the list of its values, except behind the name of a payload's kind.
-/

namespace StarWatch

namespace Record

def ofBytes (bs : Bytes) : Json := .array (bs.map fun b => .ofNat b.toNat)

def ofUInt64 (n : UInt64) : Json := .ofNat n.toNat

def hash? (j : Json) : Option Hash := j.text?.bind fun s => Hash.ofHexChars? s.toList

def address? (j : Json) : Option Address := j.text?.bind fun s => Address.ofHexChars? s.toList

def word? (j : Json) : Option Word := j.text?.bind fun s => Word.ofHexChars? s.toList

def uint64? (j : Json) : Option UInt64 := (j.nat? UInt64.size).map UInt64.ofNat

def byte? (j : Json) : Option UInt8 := (j.nat? 256).map UInt8.ofNat

def bytes? (j : Json) : Option Bytes := j.array?.bind fun items => items.mapM byte?

def hashes? (j : Json) : Option (List Hash) := j.array?.bind fun items => items.mapM hash?

def instant? (j : Json) : Option Instant := j.text?.bind Instant.read?

end Record

open Record

namespace Log

def fieldNames : List String :=
  ["address", "topics", "data", "block_number", "block_hash", "tx_hash", "tx_index", "log_index",
   "removed"]

def toJson (log : Log) : Json :=
  .object (fieldNames.zip
    [.text log.address.hex, .array (log.topics.map fun t => .text t.hex), ofBytes log.data,
     .text log.block.hex, .text log.blockHash.hex, .text log.txHash.hex, ofUInt64 log.txIndex,
     ofUInt64 log.logIndex, .bool log.removed])

def ofJson? (j : Json) : Option Log :=
  match j.record? fieldNames with
  | some [address, topics, data, block, blockHash, txHash, txIndex, logIndex, removed] => do
    some {
      address := ← address? address
      topics := ← hashes? topics
      data := ← bytes? data
      block := ← word? block
      blockHash := ← hash? blockHash
      txHash := ← hash? txHash
      txIndex := ← uint64? txIndex
      logIndex := ← uint64? logIndex
      removed := ← removed.bool? }
  | _ => none

end Log

namespace Block

def fieldNames : List String := ["number", "hash", "timestamp"]

def toJson (b : Block) : Json :=
  .object (fieldNames.zip [.text b.number.hex, .text b.hash.hex, ofUInt64 b.timestamp])

def ofJson? (j : Json) : Option Block :=
  match j.record? fieldNames with
  | some [number, hash, timestamp] => do
    some { number := ← word? number, hash := ← hash? hash, timestamp := ← uint64? timestamp }
  | _ => none

end Block

namespace EventKind

def toJson (k : EventKind) : Json := .text k.name

/-- The name alone, or as the only field of an object, with the value null. -/
def ofJson? : Json → Option EventKind
  | .text s => ofName? s
  | .object [(s, .null)] => ofName? s
  | _ => none

end EventKind

namespace Payload

def fieldNames : EventKind → List String
  | .create => ["owner", "token_id", "coordinates", "name"]
  | .changeName => ["owner", "token_id", "new_name"]
  | .putForSale => ["owner", "token_id", "price"]
  | .removeFromSale => ["owner", "token_id"]
  | .purchase => ["new_owner", "token_id"]

def fieldValues : Payload → List Json
  | create owner id coordinates name =>
    [.text owner.hex, .text id.hex, .text coordinates, .text name]
  | changeName owner id newName => [.text owner.hex, .text id.hex, .text newName]
  | putForSale owner id price => [.text owner.hex, .text id.hex, .text price.hex]
  | removeFromSale owner id => [.text owner.hex, .text id.hex]
  | purchase newOwner id => [.text newOwner.hex, .text id.hex]

/-- An object with the kind's name as its only field. -/
def toJson (p : Payload) : Json :=
  .object [(p.kind.name, .object ((fieldNames p.kind).zip p.fieldValues))]

def ofFields? : EventKind → List Json → Option Payload
  | .create, [owner, id, coordinates, name] => do
    some (create (← address? owner) (← word? id) (← coordinates.text?) (← name.text?))
  | .changeName, [owner, id, newName] => do
    some (changeName (← address? owner) (← word? id) (← newName.text?))
  | .putForSale, [owner, id, price] => do
    some (putForSale (← address? owner) (← word? id) (← word? price))
  | .removeFromSale, [owner, id] => do
    some (removeFromSale (← address? owner) (← word? id))
  | .purchase, [newOwner, id] => do
    some (purchase (← address? newOwner) (← word? id))
  | _, _ => none

/-- The fields behind the kind's name are an object, never a list. -/
def ofJson? : Json → Option Payload
  | .object [(s, fields)] => do
    let kind ← EventKind.ofName? s
    ofFields? kind (← fields.fields? (fieldNames kind))
  | _ => none

end Payload

namespace PendingEvent

def toJson (e : PendingEvent) : Json :=
  .object
    [("event_type", e.kind.toJson), ("contract_hash", .text e.contract.hex),
     ("topics", .array (e.topics.map fun t => .text t.hex)), ("data", ofBytes e.data),
     ("block_number", .text e.block.hex), ("block_hash", .text e.blockHash.hex),
     ("tx_hash", .text e.txHash.hex), ("tx_index", ofUInt64 e.txIndex),
     ("log_index", ofUInt64 e.logIndex), ("removed", .bool e.removed), ("sender", .text e.sender),
     ("token_id", .text e.tokenId), ("name", .text e.name), ("coordinates", .text e.coordinates),
     ("price", .text e.price.text),
     ("confirmed_at", match e.confirmedAt with
       | some time => .text time.write
       | none => .null)]

end PendingEvent

namespace Notice

def fieldNames : EventKind → List String
  | .create => ["owner", "token_id", "coordinates", "name", "date"]
  | .changeName => ["owner", "token_id", "name", "date"]
  | .putForSale => ["owner", "token_id", "price", "date"]
  | .removeFromSale => ["owner", "token_id", "date"]
  | .purchase => ["owner", "token_id", "date"]

def fieldValues : Notice → List Json
  | create owner id coordinates name date =>
    [.text owner, .text id, .text coordinates, .text name, .text date.write]
  | changeName owner id name date => [.text owner, .text id, .text name, .text date.write]
  | putForSale owner id price date => [.text owner, .text id, .text price, .text date.write]
  | removeFromSale owner id date => [.text owner, .text id, .text date.write]
  | purchase owner id date => [.text owner, .text id, .text date.write]

def toJson (n : Notice) : Json := .object ((fieldNames n.kind).zip n.fieldValues)

def body (n : Notice) : String := n.toJson.compact

def ofFields? : EventKind → List Json → Option Notice
  | .create, [owner, id, coordinates, name, date] => do
    some (create (← owner.text?) (← id.text?) (← coordinates.text?) (← name.text?)
      (← instant? date))
  | .changeName, [owner, id, name, date] => do
    some (changeName (← owner.text?) (← id.text?) (← name.text?) (← instant? date))
  | .putForSale, [owner, id, price, date] => do
    some (putForSale (← owner.text?) (← id.text?) (← price.text?) (← instant? date))
  | .removeFromSale, [owner, id, date] => do
    some (removeFromSale (← owner.text?) (← id.text?) (← instant? date))
  | .purchase, [owner, id, date] => do
    some (purchase (← owner.text?) (← id.text?) (← instant? date))
  | _, _ => none

/-- A notice does not say its kind; the reader knows it from the route. -/
def ofJson? (kind : EventKind) (j : Json) : Option Notice :=
  (j.record? (fieldNames kind)).bind (ofFields? kind)

end Notice

end StarWatch
