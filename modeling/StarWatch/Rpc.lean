import StarWatch.Json.Typed
import StarWatch.Provider
import StarWatch.Record

/-!
# Calls to the node

The watcher's requests as JSON-RPC calls, and the results of such calls read
back. Quantities are hexadecimal text without leading zeros; on reading, zeros
in front do not matter. A block may leave out any of its fields, and a log all
but its address, topics and data; a field that is there has to be well formed,
even where the watcher makes no use of it.
-/

namespace StarWatch

namespace Rpc

/-- A call of the node; the parameters are null where its method takes none. -/
structure Call where
  method : String
  params : Json

def height : Call := { method := "eth_blockNumber", params := .null }

def logs (contract : Address) (fromBlock : Word) : Call where
  method := "eth_getLogs"
  params := .array [.object
    [("address", .text contract.hex), ("fromBlock", .text fromBlock.hex),
     ("toBlock", .text "latest"), ("topics", .array [])]]

/-- Asks for a block's header, without its transactions. -/
def block (height : Word) : Call where
  method := "eth_getBlockByNumber"
  params := .array [.text height.hex, .bool false]

def subscribe (contract : Address) (kind : EventKind) : Call where
  method := "eth_subscribe"
  params := .array [.text "logs", .object
    [("address", .text contract.hex), ("topics", .array [.text kind.signature.hex])]]

def unsubscribe (subscription : Word) : Call where
  method := "eth_unsubscribe"
  params := .text subscription.hex

/-- The call of a request. Heights out of range are not asked for, and notices go elsewhere. -/
def ofRequest? : Request → Option Call
  | .height => some height
  | .logs contract fromBlock =>
    if (Provider.checkHeight fromBlock).isOk then some (logs contract fromBlock) else none
  | .block number => if (Provider.checkHeight number).isOk then some (block number) else none
  | .call _ => none

def hex (size : Hex.Size) : Json.Reading (List Nat) := fun s => do
  let t ← s.text size.expectation
  (Hex.read size t.toList).mapError fun e =>
    { reason := e.message size, place := some s.finish }

def readWord : Json.Reading Word := fun s => (hex Word.size s).map Word.ofBytes

def readHash : Json.Reading Hash := fun s => (hex Hash.size s).map Hash.ofBytes

def readAddress : Json.Reading Address := fun s => (hex Address.size s).map Address.ofBytes

def readQuantity : Json.Reading UInt64 := fun s =>
  (hex (.upTo 8) s).map fun bytes => UInt64.ofNat (Hex.number bytes)

/-- Byte strings; a complaint about one has no place of its own. -/
def readData : Json.Reading Bytes := fun s => do
  let t ← s.text "a string"
  (Bytes.read t.toList).mapError fun e => { reason := e.message, place := none }

def logFields : List Json.Field :=
  [.needed "address" readAddress, .needed "topics" (.list readHash), .needed "data" readData,
   .nullable "blockHash" readHash, .nullable "blockNumber" readQuantity,
   .nullable "transactionHash" readHash, .nullable "transactionIndex" readQuantity,
   .nullable "logIndex" readWord, .nullable "transactionLogIndex" readWord,
   .nullable "logType" .text, .nullable "removed" .bool]

/-- A value that was checked with its record. -/
def again {α : Type} (read : Json.Reading α) (value : Json) : Except Json.Complaint α :=
  read { value, start := 0 }

def readLog : Json.Reading ProviderLog := fun s => do
  match ← s.record "struct Log" logFields with
  | [address, topics, data, blockHash, block, txHash, txIndex, logIndex, _, _, removed] =>
    return {
      address := ← again readAddress address
      topics := ← again (.list readHash) topics
      data := ← again readData data
      block := ← again (.optional readQuantity) block
      blockHash := ← again (.optional readHash) blockHash
      txHash := ← again (.optional readHash) txHash
      txIndex := ← again (.optional readQuantity) txIndex
      logIndex := ← again (.optional readWord) logIndex
      removed := ← again (.optional .bool) removed }
  | _ => throw (s.mistyped "struct Log")

def readLogs : Json.Reading (List ProviderLog) := .list readLog

/-- A log that can be read. -/
def log? (j : Json) : Option ProviderLog := (readLog { value := j, start := 0 }).toOption

def withdrawalFields : List Json.Field :=
  [.needed "index" readQuantity, .needed "validatorIndex" readQuantity,
   .needed "address" readAddress, .needed "amount" readWord]

def checkWithdrawal : Json.Reading Unit := fun s =>
  (s.record "struct Withdrawal" withdrawalFields).map fun _ => ()

/-- The fields of a block's header, the hash and the time of which come first. -/
def blockFields : List Json.Field :=
  [.nullable "hash" readHash, .defaulted "timestamp" readWord,
   .defaulted "parentHash" readHash, .defaulted "sha3Uncles" readHash,
   .nullable "miner" readAddress, .defaulted "stateRoot" readHash,
   .defaulted "transactionsRoot" readHash, .defaulted "receiptsRoot" readHash,
   .nullable "number" readQuantity, .defaulted "gasUsed" readWord, .defaulted "gasLimit" readWord,
   .defaulted "extraData" readData, .nullable "logsBloom" (hex (.exactly 256)),
   .defaulted "difficulty" readWord, .nullable "totalDifficulty" readWord,
   .nullable "sealFields" (.list readData), .defaulted "uncles" (.list readHash),
   .defaulted "transactions" (.list readHash), .nullable "size" readWord,
   .nullable "mixHash" readHash, .nullable "nonce" (hex (.exactly 8)),
   .nullable "baseFeePerGas" readWord, .nullable "blobGasUsed" readWord,
   .nullable "excessBlobGas" readWord, .nullable "withdrawalsRoot" readHash,
   .nullable "withdrawals" (.list checkWithdrawal), .nullable "parentBeaconBlockRoot" readHash]

def readHeader : Json.Reading ProviderBlock := fun s => do
  match ← s.fields "struct Block" blockFields with
  | hash :: timestamp :: _ =>
    let time ← again (.optional readWord) timestamp
    return { hash := ← again (.optional readHash) hash, timestamp := time.getD 0 }
  | _ => throw (s.mistyped "struct Block")

/-- The header of a block; null where there is no such block. -/
def readBlock : Json.Reading (Option ProviderBlock) := .optional readHeader

/-- A result as it is read. -/
def replyOf {α : Type} (read : Json.Reading α) (value : Json) : Reply α :=
  match read { value, start := 0 } with
  | .ok a => .result a
  | .error complaint => .malformed complaint.message

/-- The reply in a message that has either a result or an error. -/
def readReply {α : Type} (read : Json.Reading α) (message : Json) : Reply α :=
  match message.field? "error" with
  | some error =>
    match error.field? "code", error.field? "message" with
    | some (.integer code), some (.text text) => .failure code text
    | _, _ => .malformed "the answer cannot be read"
  | none => replyOf read ((message.field? "result").getD .null)

end Rpc

end StarWatch
