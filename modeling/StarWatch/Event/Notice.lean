import StarWatch.Event.Pending

/-!
# Notices

The narrow messages that go downstream, one shape for each kind of event. A
notice is the projection of a pending event that has its stamp; without a stamp
there is none.
-/

namespace StarWatch

inductive Notice where
  | create (owner tokenId coordinates name : String) (date : Instant)
  | changeName (owner tokenId name : String) (date : Instant)
  | putForSale (owner tokenId price : String) (date : Instant)
  | removeFromSale (owner tokenId : String) (date : Instant)
  | purchase (owner tokenId : String) (date : Instant)
deriving DecidableEq

namespace Notice

def kind : Notice → EventKind
  | create .. => .create
  | changeName .. => .changeName
  | putForSale .. => .putForSale
  | removeFromSale .. => .removeFromSale
  | purchase .. => .purchase

end Notice

/-- The notice of an event; the price is written in ether. -/
def PendingEvent.notice? (e : PendingEvent) : Option Notice :=
  e.confirmedAt.map fun date =>
    match e.kind with
    | .create => .create e.sender e.tokenId e.coordinates e.name date
    | .changeName => .changeName e.sender e.tokenId e.name date
    | .putForSale => .putForSale e.sender e.tokenId e.price.text date
    | .removeFromSale => .removeFromSale e.sender e.tokenId date
    | .purchase => .purchase e.sender e.tokenId date

end StarWatch
