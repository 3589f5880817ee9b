import StarWatch.Event.Payload
import StarWatch.Text.Utf8

/-!
# Contract encoding

How the contract's logs encode the fields of an event. The leading fields may
be indexed: topic `i` then carries field `i - 1`, and the data carries the
others, one head word of 32 bytes each. The name has no fixed width: its head
word is an offset from the start of the data to a length word, and that many
bytes follow. Bytes that no field needs are not looked at.
-/

namespace StarWatch

namespace Abi

inductive Field where
  | owner
  | tokenId
  | coordinates
  | name
  | price
deriving DecidableEq

namespace Field

def label : Field → String
  | owner => "Owner"
  | tokenId => "TokenId"
  | coordinates => "Coordinates"
  | name => "Name"
  | price => "Price"

def type : Field → String
  | owner => "address"
  | tokenId => "uint256"
  | coordinates => "bytes19"
  | name => "bytes"
  | price => "uint256"

/-- A topic holds the value of a field of fixed width, but only a digest of a name. -/
def isIndexable : Field → Bool
  | name => false
  | _ => true

end Field

/-- The fields of a kind, in the order of its declaration. -/
def layout : EventKind → List Field
  | .create => [.owner, .tokenId, .coordinates, .name]
  | .changeName => [.owner, .tokenId, .name]
  | .putForSale => [.owner, .tokenId, .price]
  | .removeFromSale => [.owner, .tokenId]
  | .purchase => [.owner, .tokenId]

/-- The text whose digest is the kind's signature. -/
def declaration (k : EventKind) : String :=
  k.name ++ "(" ++ String.intercalate "," ((layout k).map Field.type) ++ ")"

end Abi

inductive AbiError where
  | noTopics
  | untracked (signature : Hash)
  | tooManyTopics (kind : EventKind) (indexed : Nat)
  | notIndexable (field : Abi.Field)
  | emptyData
  | invalidData
deriving DecidableEq

namespace AbiError

def message : AbiError → String
  | noTopics => "log has no topics"
  | untracked signature => "untracked signature " ++ signature.hex
  | tooManyTopics kind indexed =>
    kind.label ++ " has " ++ Numeral.decimal indexed ++ " indexed topics but only " ++
      Numeral.decimal (Abi.layout kind).length ++ " fields"
  | notIndexable field => field.label ++ " cannot be recovered from an indexed topic"
  | emptyData =>
    "Invalid name: please ensure the contract and method you're calling exist! " ++
      "failed to decode empty bytes. if you're using jsonrpc this is likely due to jsonrpc " ++
      "returning `0x` in case contract or method don't exist"
  | invalidData => "Invalid data"

end AbiError

namespace Abi

inductive Cell where
  | address (a : Address)
  | number (w : Word)
  | text (s : String)
deriving DecidableEq

def coordinatesWidth : Nat := 19

/-- The `n` bytes at an offset, if the data reaches so far. -/
def slice? (data : Bytes) (offset n : Nat) : Option Bytes :=
  if offset + n ≤ data.length then some ((data.drop offset).take n) else none

/-- The number in the word at an offset. -/
def word? (data : Bytes) (offset : Nat) : Option Nat :=
  (slice? data offset 32).map Bytes.toNat

/-- The number in the word at an offset, where it is an offset or a length. -/
def size? (data : Bytes) (offset : Nat) : Option Nat :=
  (word? data offset).bind fun n => if n < UInt32.size then some n else none

/-- The bytes of the field without a fixed width whose head stands at an offset. -/
def dynamic? (data : Bytes) (head : Nat) : Option Bytes := do
  let offset ← size? data head
  let length ← size? data offset
  slice? data (offset + 32) length

/-- The value of the field whose head stands at an offset. -/
def cell? (data : Bytes) (head : Nat) : Field → Option Cell
  | .owner => (word? data head).map fun n => .address ⟨BitVec.ofNat 160 n⟩
  | .tokenId => (word? data head).map fun n => .number (BitVec.ofNat 256 n)
  | .price => (word? data head).map fun n => .number (BitVec.ofNat 256 n)
  | .coordinates => (slice? data head coordinatesWidth).map fun bs => .text (Utf8.ofPadded bs)
  | .name => (dynamic? data head).map fun bs => .text (Utf8.ofPadded bs)

/-- The values of fields whose heads follow one another. -/
def cells? (data : Bytes) (head : Nat) : List Field → Option (List Cell)
  | [] => some []
  | field :: rest => do
    let cell ← cell? data head field
    let cells ← cells? data (head + 32) rest
    some (cell :: cells)

def topicBytes (topic : Hash) : Bytes := Bytes.ofNat 32 topic.bits.toNat

/-- The values of indexed fields, each in a topic of its own. -/
def topicCells? (fields : List Field) (topics : List Hash) : Option (List Cell) :=
  (fields.zip topics).mapM fun (field, topic) => cell? (topicBytes topic) 0 field

/-- The payload with the given field values. -/
def assemble? : EventKind → List Cell → Option Payload
  | .create, [.address owner, .number id, .text coordinates, .text name] =>
    some (.create owner id coordinates name)
  | .changeName, [.address owner, .number id, .text name] => some (.changeName owner id name)
  | .putForSale, [.address owner, .number id, .number price] => some (.putForSale owner id price)
  | .removeFromSale, [.address owner, .number id] => some (.removeFromSale owner id)
  | .purchase, [.address owner, .number id] => some (.purchase owner id)
  | _, _ => none

/-- Decodes the fields of a kind. -/
def decodeAs (kind : EventKind) (indexed : List Hash) (data : Bytes) : Except AbiError Payload :=
  let fields := layout kind
  let inTopics := fields.take indexed.length
  let inData := fields.drop indexed.length
  if fields.length < indexed.length then .error (.tooManyTopics kind indexed.length)
  else match inTopics.find? fun f => !f.isIndexable with
    | some f => .error (.notIndexable f)
    | none =>
      if !inData.isEmpty && data.isEmpty then .error .emptyData
      else
        let payload := do
          let front ← topicCells? inTopics indexed
          let back ← cells? data 0 inData
          assemble? kind (front ++ back)
        match payload with
        | some p => .ok p
        | none => .error .invalidData

/-- Decodes a log by the signature in its topic 0. -/
def decode (log : Log) : Except AbiError Payload :=
  match log.topics with
  | [] => .error .noTopics
  | signature :: indexed =>
    match EventKind.ofSignature? signature with
    | none => .error (.untracked signature)
    | some kind => decodeAs kind indexed log.data

end Abi

end StarWatch
