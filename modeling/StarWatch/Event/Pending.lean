import StarWatch.Address
import StarWatch.Ether
import StarWatch.Event.Payload

/-!
# Pending events

The uniform record that waits for its confirmation. It is built once from a log
and its payload and then only stamped with the time of its block.

Two records describe the same log when their `identity` is equal. The identity
leaves out the `removed` flag, the kind and the stamp, so that the notice of a
removal matches the record of the log that it takes back.
-/

namespace StarWatch

/-- The record of a log, with the acting account in mixed case and the token id as a decimal
numeral. The time of its block is known once the event is confirmed. -/
structure PendingEvent where
  kind : EventKind
  contract : Address
  topics : List Hash
  data : Bytes
  block : Word
  blockHash : Hash
  txHash : Hash
  txIndex : UInt64
  logIndex : UInt64
  removed : Bool
  sender : String
  tokenId : String
  name : String
  coordinates : String
  price : Ether
  confirmedAt : Option Instant
deriving DecidableEq

/-- What makes a log the same log. -/
structure LogIdentity where
  block : Word
  logIndex : UInt64
  txIndex : UInt64
  blockHash : Hash
  txHash : Hash
  contract : Address
  topics : List Hash
  data : Bytes
  sender : String
  tokenId : String
  name : String
  coordinates : String
  price : Ether
deriving DecidableEq

namespace PendingEvent

/-- The record of a log, if its signature is tracked and names the payload's kind. -/
def ofLog? (payload : Payload) (log : Log) : Option PendingEvent :=
  match log.kind? with
  | none => none
  | some kind =>
    if payload.kind = kind then
      some {
        kind
        contract := log.address
        topics := log.topics
        data := log.data
        block := log.block
        blockHash := log.blockHash
        txHash := log.txHash
        txIndex := log.txIndex
        logIndex := log.logIndex
        removed := log.removed
        sender := payload.sender.checksum
        tokenId := payload.tokenId.decimal
        name := payload.name
        coordinates := payload.coordinates
        price := ⟨payload.price⟩
        confirmedAt := none }
    else none

def ofNotification? (n : Notification) : Option PendingEvent := ofLog? n.payload n.log

def identity (e : PendingEvent) : LogIdentity where
  block := e.block
  logIndex := e.logIndex
  txIndex := e.txIndex
  blockHash := e.blockHash
  txHash := e.txHash
  contract := e.contract
  topics := e.topics
  data := e.data
  sender := e.sender
  tokenId := e.tokenId
  name := e.name
  coordinates := e.coordinates
  price := e.price

def sameLog (a b : PendingEvent) : Bool := a.identity = b.identity

/-- Blocks on top of the event's block, unless that is ahead of the chain's head. -/
def confirmations? (e : PendingEvent) (latest : Word) : Option Word :=
  if e.block.toNat ≤ latest.toNat then some (latest - e.block) else none

/-- At least `depth` confirmations. -/
def isConfirmed (e : PendingEvent) (latest : Word) (depth : Nat) : Bool :=
  match e.confirmations? latest with
  | some n => depth ≤ n.toNat
  | none => false

/-- More than `depth` confirmations: a scan should have dealt with the event before. -/
def isLeftover (e : PendingEvent) (latest : Word) (depth : Nat) : Bool :=
  match e.confirmations? latest with
  | some n => depth < n.toNat
  | none => false

/-- The record stamped with the time of its block. -/
def stamp (e : PendingEvent) (time : Instant) : PendingEvent := { e with confirmedAt := some time }

end PendingEvent

end StarWatch
