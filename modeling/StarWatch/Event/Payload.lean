import StarWatch.Log

/-!
# Payloads

The typed content of a decoded log, and the pair of both that a live
subscription delivers.
-/

namespace StarWatch

inductive Payload where
  | create (owner : Address) (tokenId : Word) (coordinates name : String)
  | changeName (owner : Address) (tokenId : Word) (newName : String)
  | putForSale (owner : Address) (tokenId price : Word)
  | removeFromSale (owner : Address) (tokenId : Word)
  | purchase (newOwner : Address) (tokenId : Word)
deriving DecidableEq

namespace Payload

def kind : Payload → EventKind
  | create .. => .create
  | changeName .. => .changeName
  | putForSale .. => .putForSale
  | removeFromSale .. => .removeFromSale
  | purchase .. => .purchase

/-- The acting account: the owner, or the new owner of a purchase. -/
def sender : Payload → Address
  | create owner .. => owner
  | changeName owner .. => owner
  | putForSale owner .. => owner
  | removeFromSale owner _ => owner
  | purchase newOwner _ => newOwner

def tokenId : Payload → Word
  | create _ id .. => id
  | changeName _ id _ => id
  | putForSale _ id _ => id
  | removeFromSale _ id => id
  | purchase _ id => id

def name : Payload → String
  | create _ _ _ name => name
  | changeName _ _ newName => newName
  | _ => ""

def coordinates : Payload → String
  | create _ _ coordinates _ => coordinates
  | _ => ""

/-- The asked price in wei, where the kind has one. -/
def price : Payload → Word
  | putForSale _ _ price => price
  | _ => 0

end Payload

/-- A log with its decoded content. -/
structure Notification where
  payload : Payload
  log : Log
deriving DecidableEq

end StarWatch
