import StarWatch.Scan
import StarWatch.Stream

/-!
# The provider

What the ledger's node hands out, before it takes the watcher's form. A field
that the node leaves out counts as zero or false. A log index and the time of a
block have 256 bits at the node and keep their low 64 bits here; block heights
have 64 bits at the node, and a larger one is never asked for.
-/

namespace StarWatch

/-- A log as the node reports it. -/
structure ProviderLog where
  address : Address
  topics : List Hash
  data : Bytes
  block : Option UInt64
  blockHash : Option Hash
  txHash : Option Hash
  txIndex : Option UInt64
  logIndex : Option Word
  removed : Option Bool
deriving DecidableEq

namespace ProviderLog

def log (l : ProviderLog) : Log where
  address := l.address
  topics := l.topics
  data := l.data
  block := BitVec.ofNat 256 (l.block.getD 0).toNat
  blockHash := l.blockHash.getD ⟨0⟩
  txHash := l.txHash.getD ⟨0⟩
  txIndex := l.txIndex.getD 0
  logIndex := (l.logIndex.getD 0).low64
  removed := l.removed.getD false

/-- The log with its decoded content, if it can be decoded. -/
def notification? (l : ProviderLog) : Option Notification :=
  l.log.payload.toOption.map fun payload => ⟨payload, l.log⟩

end ProviderLog

structure ProviderBlock where
  hash : Option Hash
  timestamp : Word
deriving DecidableEq

/-- The header in the watcher's form, numbered by the height that was asked for. -/
def ProviderBlock.block (b : ProviderBlock) (height : Word) : Block where
  number := height
  hash := b.hash.getD ⟨0⟩
  timestamp := b.timestamp.low64

/-- The node's answer to a call. A malformed one does not have the form of a result, and says what
is wrong with it. -/
inductive Reply (α : Type) where
  | result (a : α)
  | failure (code : Int) (message : String)
  | malformed (complaint : String)
deriving DecidableEq

namespace Reply

def failureText (code : Int) (message : String) : String :=
  "(code: " ++ (if code < 0 then "-" else "") ++ Numeral.decimal code.natAbs ++
    ", message: " ++ message ++ ", data: None)"

/-- The result, or the reason why there is none. -/
def result? {α : Type} : Reply α → Except String α
  | result a => .ok a
  | failure code message => .error (failureText code message)
  | malformed complaint => .error complaint

/-- The result of a query. -/
def query {α : Type} (r : Reply α) : Except LedgerError α := r.result?.mapError .query

end Reply

/-- The node, by its answers. Block lookups may be answered differently each time. -/
structure Provider where
  subscription : EventKind → Reply Word
  height : Reply UInt64
  logs : Address → Word → Reply (List ProviderLog)
  block : Nat → Word → Reply (Option ProviderBlock)

namespace Provider

/-- Refuses heights that the node cannot be asked for. -/
def checkHeight (height : Word) : Except LedgerError Unit :=
  if height.toNat < UInt64.size then .ok ()
  else .error (.query ("block " ++ height.decimal ++ " exceeds the provider range"))

def currentHeight (p : Provider) : Except LedgerError Word :=
  p.height.query.map fun n => BitVec.ofNat 256 n.toNat

def logsFrom (p : Provider) (contract : Address) (fromBlock : Word) :
    Except LedgerError (List Log) := do
  checkHeight fromBlock
  let logs ← (p.logs contract fromBlock).query
  return logs.map ProviderLog.log

/-- The header of a block, in lookup number `n`. -/
def blockAt (p : Provider) (n : Nat) (height : Word) : Except LedgerError Block := do
  checkHeight height
  match ← (p.block n height).query with
  | none => throw (.blockNotFound height)
  | some b => return b.block height

/-- The stream of a kind, if the node accepts the subscription. -/
def openStream (p : Provider) (buffer : Nat) (kind : EventKind) : Except LedgerError Stream :=
  match (p.subscription kind).result? with
  | .ok _ => .ok (Stream.start kind buffer)
  | .error reason => .error (.subscription kind reason)

/-- The node's answers, with those of a downstream interface. -/
def answers (p : Provider) (call : Nat → Notice → Except NotifyError Unit) : Answers where
  height := p.currentHeight
  logs := p.logsFrom
  payload := Log.payload
  block := p.blockAt
  call

end Provider

end StarWatch
