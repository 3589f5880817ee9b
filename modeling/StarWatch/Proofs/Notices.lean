import StarWatch.Event.Notice
import StarWatch.Proofs.Amounts
import StarWatch.Proofs.Calls
import StarWatch.Proofs.Checksum
import StarWatch.Proofs.Identity

/-!
# What a notice tells

A notice renders the account, the token and the price of a log as text and
carries its texts and its stamp as they are. Each of these texts is read back as
the value that it came from, so a notice tells all of the payload and the stamp,
and no two payloads or stamps have the same notice.
-/

namespace StarWatch

namespace Notice

def owner : Notice → String
  | create owner .. => owner
  | changeName owner .. => owner
  | putForSale owner .. => owner
  | removeFromSale owner .. => owner
  | purchase owner .. => owner

def tokenId : Notice → String
  | create _ id .. => id
  | changeName _ id .. => id
  | putForSale _ id .. => id
  | removeFromSale _ id _ => id
  | purchase _ id _ => id

def name? : Notice → Option String
  | create _ _ _ name _ => some name
  | changeName _ _ name _ => some name
  | _ => none

def coordinates? : Notice → Option String
  | create _ _ coordinates _ _ => some coordinates
  | _ => none

def price? : Notice → Option String
  | putForSale _ _ price _ => some price
  | _ => none

/-- A notice is of a payload's kind, and what it says is read as the payload and the stamp. The
price is in ether. -/
structure Tells (n : Notice) (p : Payload) (time : Instant) : Prop where
  kind : n.kind = p.kind
  owner : Address.parse n.owner = .ok p.sender
  tokenId : Numeral.natural? n.tokenId.toList = some p.tokenId.toNat
  price : ∀ s, n.price? = some s →
    ∃ x : ℚ, Numeral.rational? s.toList = some x ∧ x * 10 ^ 18 = p.price.toNat
  name : ∀ s, n.name? = some s → s = p.name
  coordinates : ∀ s, n.coordinates? = some s → s = p.coordinates
  date : n.date = time

end Notice

namespace Payload

def make (kind : EventKind) (sender : Address) (id : Word) (coordinates name : String)
    (price : Word) : Payload :=
  match kind with
  | .create => .create sender id coordinates name
  | .changeName => .changeName sender id name
  | .putForSale => .putForSale sender id price
  | .removeFromSale => .removeFromSale sender id
  | .purchase => .purchase sender id

theorem make_eq (p : Payload) :
    make p.kind p.sender p.tokenId p.coordinates p.name p.price = p := by
  cases p
  all_goals rfl

/-- The notice of a payload with a stamp. -/
def notice (p : Payload) (time : Instant) : Notice :=
  match p with
  | create owner id coordinates name =>
    .create owner.checksum id.decimal coordinates name time
  | changeName owner id newName => .changeName owner.checksum id.decimal newName time
  | putForSale owner id price =>
    .putForSale owner.checksum id.decimal (Ether.text ⟨price⟩) time
  | removeFromSale owner id => .removeFromSale owner.checksum id.decimal time
  | purchase newOwner id => .purchase newOwner.checksum id.decimal time

end Payload

def Log.notice? (log : Log) (time : Instant) : Option Notice :=
  log.event?.bind fun event => (event.stamp time).notice?

section Telling

variable {log : Log} {p q : Payload} {n : Notice} {s t : Instant}

theorem PendingEvent.notice?_of_ofLog? {event : PendingEvent} (made : ofLog? p log = some event)
    (time : Instant) : (event.stamp time).notice? = some (p.notice time) := by
  simp only [ofLog?] at made
  split at made
  · cases made
  · split at made
    · rename_i same
      cases made
      subst same
      cases p
      all_goals rfl
    · cases made

theorem Log.notice?_eq (accepted : log.payload = .ok p) (time : Instant) :
    log.notice? time = some (p.notice time) := by
  obtain ⟨event, made⟩ := Log.exists_event accepted
  have read : log.event? = some event := Log.event?_eq_some_iff.mpr ⟨p, accepted, made⟩
  rw [Log.notice?, read, Option.bind_some, PendingEvent.notice?_of_ofLog? made]

theorem Payload.tells_notice (p : Payload) (time : Instant) : (p.notice time).Tells p time where
  kind := by
    cases p
    all_goals rfl
  owner := by
    have read := p.sender.parse_checksum
    cases p
    all_goals exact read
  tokenId := by
    have read := Numeral.natural?_decimal p.tokenId.toNat
    cases p
    all_goals exact read
  price := by
    intro s asked
    cases p with
    | putForSale owner id price =>
      cases asked
      exact Ether.rational?_text ⟨price⟩
    | create | changeName | removeFromSale | purchase => cases asked
  name := by
    intro s named
    cases p with
    | create | changeName =>
      cases named
      rfl
    | putForSale | removeFromSale | purchase => cases named
  coordinates := by
    intro s placed
    cases p with
    | create =>
      cases placed
      rfl
    | changeName | putForSale | removeFromSale | purchase => cases placed
  date := by
    cases p
    all_goals rfl

/-- A notice tells one payload and one stamp. -/
theorem Notice.Tells.unique (tells : n.Tells p s) (tells' : n.Tells q t) : p = q ∧ s = t := by
  refine ⟨?_, tells.date.symm.trans tells'.date⟩
  have kind : p.kind = q.kind := tells.kind.symm.trans tells'.kind
  have sender : p.sender = q.sender := Except.ok.inj (tells.owner.symm.trans tells'.owner)
  have tokenId : p.tokenId = q.tokenId :=
    BitVec.eq_of_toNat_eq (Option.some.inj (tells.tokenId.symm.trans tells'.tokenId))
  rw [← p.make_eq, ← q.make_eq, ← kind, ← sender, ← tokenId, ← tells.kind]
  cases n with
  | create owner id coordinates name date =>
    rw [← tells.name name rfl, ← tells'.name name rfl, ← tells.coordinates coordinates rfl,
      ← tells'.coordinates coordinates rfl]
    rfl
  | changeName owner id name date =>
    simp only [Notice.kind, Payload.make]
    rw [← tells.name name rfl, ← tells'.name name rfl]
  | putForSale owner id price date =>
    obtain ⟨x, read, amount⟩ := tells.price price rfl
    obtain ⟨x', read', amount'⟩ := tells'.price price rfl
    have same : (p.price.toNat : ℚ) = q.price.toNat := by
      rw [← amount, ← amount', Option.some.inj (read.symm.trans read')]
    simp only [Notice.kind, Payload.make]
    rw [BitVec.eq_of_toNat_eq (Nat.cast_injective same)]
  | removeFromSale | purchase => rfl

theorem Payload.notice_eq_iff : p.notice s = q.notice t ↔ p = q ∧ s = t := by
  constructor
  · intro same
    exact (p.tells_notice s).unique (same ▸ q.tells_notice t)
  · rintro ⟨rfl, rfl⟩
    rfl

end Telling

/-- A notice is faithful to its log: it tells the payload and the stamp, and two logs with stamps
have the same notice only if their payloads and stamps are the same. -/
theorem notices_are_faithful {a b : Log} {p q : Payload} (accepted : a.payload = .ok p)
    (accepted' : b.payload = .ok q) (s t : Instant) :
    ∃ m n, a.notice? s = some m ∧ b.notice? t = some n ∧ m.Tells p s ∧ n.Tells q t ∧
      (m = n ↔ p = q ∧ s = t) :=
  ⟨p.notice s, q.notice t, Log.notice?_eq accepted s, Log.notice?_eq accepted' t,
    p.tells_notice s, q.tells_notice t, Payload.notice_eq_iff⟩

section Sale

def saleLog : Log :=
  { purchaseLog with
    topics := [EventKind.putForSale.signature, ⟨0xbeef⟩, ⟨7⟩, ⟨2500000000000000000⟩] }

/-- The sale of a star and its purchase have notices of their own. -/
theorem sale_and_purchase_told_apart :
    saleLog.payload = .ok (.putForSale ⟨0xbeef⟩ 7 2500000000000000000) ∧
      indexedLog.payload = .ok (.purchase ⟨0xbeef⟩ 7) ∧
      Ether.text ⟨2500000000000000000⟩ = "2.5" ∧
      ∃ m n, saleLog.notice? ⟨1700000000, 0⟩ = some m ∧
        indexedLog.notice? ⟨1700000000, 0⟩ = some n ∧
        m.Tells (.putForSale ⟨0xbeef⟩ 7 2500000000000000000) ⟨1700000000, 0⟩ ∧
        n.Tells (.purchase ⟨0xbeef⟩ 7) ⟨1700000000, 0⟩ ∧ m ≠ n := by
  have sale : saleLog.payload = .ok (.putForSale ⟨0xbeef⟩ 7 2500000000000000000) := rfl
  have purchase : indexedLog.payload = .ok (.purchase ⟨0xbeef⟩ 7) := rfl
  obtain ⟨m, n, made, made', tells, tells', same_iff⟩ :=
    notices_are_faithful sale purchase ⟨1700000000, 0⟩ ⟨1700000000, 0⟩
  refine ⟨sale, purchase, by decide +kernel, m, n, made, made', tells, tells', ?_⟩
  intro same
  cases (same_iff.mp same).1

end Sale

end StarWatch
