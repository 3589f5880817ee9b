import StarWatch.Bytes
import StarWatch.Event.Kind
import StarWatch.Instant

/-!
# Logs and blocks

What the ledger hands out: one log entry of the contract, not decoded yet, and
the header fields of a block.
-/

namespace StarWatch

/-- A log of a contract. Topic 0 is the event's signature and the others carry indexed fields;
`removed` is set when a reorganization of the chain took the log back. -/
structure Log where
  address : Address
  topics : List Hash
  data : Bytes
  block : Word
  blockHash : Hash
  txHash : Hash
  txIndex : UInt64
  logIndex : UInt64
  removed : Bool
deriving DecidableEq

namespace Log

def signature? (log : Log) : Option Hash := log.topics.head?

/-- The kind of event that topic 0 names, if it is a tracked one. -/
def kind? (log : Log) : Option EventKind := log.signature?.bind EventKind.ofSignature?

end Log

/-- The header of a block; its timestamp is Unix time in seconds. -/
structure Block where
  number : Word
  hash : Hash
  timestamp : UInt64
deriving DecidableEq

namespace Block

/-- The instant of the block, where the calendar reaches so far. -/
def time? (block : Block) : Option Instant := Instant.ofTimestamp? block.timestamp

end Block

end StarWatch
