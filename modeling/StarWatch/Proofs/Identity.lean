import StarWatch.Proofs.Sighting
import StarWatch.Provider

/-!
# The identity of a log

A log is decoded from its topics and its data, and the record of a pending event
keeps all that the log tells but the kind, which topic 0 names. So the records
of two accepted logs have one identity exactly when the logs agree on everything
but the `removed` flag: whichever copy of a log is read, live or pulled, and
whether it takes the log back or not.
-/

namespace StarWatch

namespace Abi

theorem assemble?_kind {kind : EventKind} {cells : List Cell} {payload : Payload}
    (assembled : assemble? kind cells = some payload) : payload.kind = kind := by
  unfold assemble? at assembled
  split at assembled
  all_goals cases assembled
  all_goals rfl

theorem decodeAs_kind {kind : EventKind} {indexed : List Hash} {data : Bytes} {payload : Payload}
    (decoded : decodeAs kind indexed data = .ok payload) : payload.kind = kind := by
  simp only [decodeAs] at decoded
  split at decoded
  · cases decoded
  split at decoded
  · cases decoded
  split at decoded
  · cases decoded
  split at decoded
  · rename_i read
    cases decoded
    obtain ⟨front, _, read⟩ := Option.bind_eq_some_iff.mp read
    obtain ⟨back, _, read⟩ := Option.bind_eq_some_iff.mp read
    exact assemble?_kind read
  · cases decoded

end Abi

namespace Log

theorem payload_eq_ok {log : Log} {payload : Payload} :
    log.payload = .ok payload ↔ Abi.decode log = .ok payload := by
  rw [Log.payload]
  cases Abi.decode log with
  | ok decoded => simp
  | error e => simp

/-- A decoded log is of the kind that its topic 0 names. -/
theorem kind_of_payload {log : Log} {payload : Payload} (accepted : log.payload = .ok payload) :
    log.kind? = some payload.kind := by
  rw [payload_eq_ok, Abi.decode] at accepted
  rw [kind?, signature?]
  cases topics : log.topics with
  | nil => simp [topics] at accepted
  | cons signature indexed =>
    simp only [topics] at accepted
    cases named : EventKind.ofSignature? signature with
    | none => simp [named] at accepted
    | some kind =>
      simp only [named] at accepted
      simp [named, Abi.decodeAs_kind accepted]

/-- Every decoded log has a record. -/
theorem exists_event {log : Log} {payload : Payload} (accepted : log.payload = .ok payload) :
    ∃ event, PendingEvent.ofLog? payload log = some event := by
  simp [PendingEvent.ofLog?, kind_of_payload accepted]

/-- Two logs agree on everything but the `removed` flag. -/
def Agrees (a b : Log) : Prop := { a with removed := b.removed } = b

instance (a b : Log) : Decidable (a.Agrees b) := inferInstanceAs (Decidable (_ = _))

theorem Agrees.topics {a b : Log} (agrees : a.Agrees b) : a.topics = b.topics := by
  rw [← show _ = b from agrees]

theorem Agrees.payload {a b : Log} (agrees : a.Agrees b) : a.payload = b.payload := by
  rw [← show _ = b from agrees]
  rfl

end Log

def Log.identity (log : Log) (payload : Payload) : LogIdentity where
  block := log.block
  logIndex := log.logIndex
  txIndex := log.txIndex
  blockHash := log.blockHash
  txHash := log.txHash
  contract := log.address
  topics := log.topics
  data := log.data
  sender := payload.sender.checksum
  tokenId := payload.tokenId.decimal
  name := payload.name
  coordinates := payload.coordinates
  price := ⟨payload.price⟩

namespace PendingEvent

theorem ofLog?_identity {log : Log} {payload : Payload} {event : PendingEvent}
    (read : ofLog? payload log = some event) :
    event.identity = log.identity payload ∧ log.kind? = some event.kind := by
  simp only [ofLog?] at read
  split at read
  · cases read
  · rename_i kind tracked
    split at read
    · cases read
      exact ⟨rfl, tracked⟩
    · cases read

end PendingEvent

namespace Log

variable {a b : Log} {p q : Payload}

theorem agrees_of_identity_eq (same : a.identity p = b.identity q) : a.Agrees b := by
  simp only [identity, LogIdentity.mk.injEq] at same
  obtain ⟨block, logIndex, txIndex, blockHash, txHash, address, topics, data, _⟩ := same
  simp only [Agrees, block, logIndex, txIndex, blockHash, txHash, address, topics, data]

/-- Two accepted logs have one identity exactly if they agree. -/
theorem identity_eq_iff (accepted : a.payload = .ok p) (accepted' : b.payload = .ok q) :
    a.identity p = b.identity q ↔ a.Agrees b := by
  constructor
  · exact agrees_of_identity_eq
  · intro agrees
    have same : p = q := by
      rw [agrees.payload, accepted'] at accepted
      exact (Except.ok.inj accepted).symm
    rw [same, ← show _ = b from agrees]
    rfl

/-- The record that an accepted log is read as. -/
def event? (log : Log) : Option PendingEvent :=
  log.payload.toOption.bind fun payload => PendingEvent.ofLog? payload log

theorem event?_eq_some_iff {log : Log} {event : PendingEvent} :
    log.event? = some event ↔
      ∃ payload, log.payload = .ok payload ∧ PendingEvent.ofLog? payload log = some event := by
  cases decoded : log.payload with
  | error e => simp [event?, decoded, Except.toOption]
  | ok payload => simp [event?, decoded, Except.toOption]

/-- The records of accepted logs describe the same log exactly if the logs agree. -/
theorem sameLog_iff_agrees {event other : PendingEvent} (read : a.event? = some event)
    (read' : b.event? = some other) : event.sameLog other = true ↔ a.Agrees b := by
  obtain ⟨p, accepted, made⟩ := event?_eq_some_iff.mp read
  obtain ⟨q, accepted', made'⟩ := event?_eq_some_iff.mp read'
  rw [PendingEvent.sameLog_iff, (PendingEvent.ofLog?_identity made).1,
    (PendingEvent.ofLog?_identity made').1, identity_eq_iff accepted accepted']

end Log

/-- The entries of a queue are the records of accepted logs, one of each. -/
def Queue.Holds (q : Queue) (logs : List Log) : Prop :=
  List.Forall₂ (fun entry log => Log.event? log = some entry) q.entries logs

/-- Taking the record of a log out of a queue takes out the records of the logs that agree with
it, and no others. -/
theorem Queue.Holds.removeMatching {q : Queue} {logs : List Log} (holds : q.Holds logs)
    {log : Log} {event : PendingEvent} (read : log.event? = some event) :
    (q.removeMatching event).Holds (logs.filter fun other => ¬ log.Agrees other) ∧
      q.countMatching event = logs.countP fun other => log.Agrees other := by
  obtain ⟨entries⟩ := q
  simp only [Holds, Queue.removeMatching, countMatching] at holds ⊢
  induction holds with
  | nil => exact ⟨.nil, rfl⟩
  | @cons entry other entries logs read' _ ih =>
    obtain ⟨left, counted⟩ := ih
    have same : entry.sameLog event = true ↔ log.Agrees other := by
      rw [← Log.sameLog_iff_agrees read read', PendingEvent.sameLog_iff, PendingEvent.sameLog_iff,
        eq_comm]
    rw [List.filter_cons, List.filter_cons, List.countP_cons, List.countP_cons, counted]
    by_cases agrees : log.Agrees other
    · simp only [same.mpr agrees, agrees]
      exact ⟨left, rfl⟩
    · have apart : entry.sameLog event = false := Bool.of_not_eq_true (mt same.mp agrees)
      simp only [apart, agrees]
      exact ⟨.cons read' left, rfl⟩

/-- How the records of two accepted logs compare. Every copy of the first, live or pulled, is
recognised, and takes the records of its copies out of a queue, and of no other log. -/
structure Log.Compared (a b : Log) (event other : PendingEvent) : Prop where
  same_iff : event.sameLog other = true ↔ a.Agrees b
  kind : event.sameLog other = true → event.kind = other.kind
  copies : ∀ copy, a.Agrees copy →
    ∃ record, copy.event? = some record ∧ event.sameLog record = true
  purged : ∀ (queue : Queue) (logs : List Log), queue.Holds logs →
    (queue.removeMatching event).Holds (logs.filter fun log => ¬ a.Agrees log) ∧
      queue.countMatching event = logs.countP fun log => a.Agrees log

/-- Identity is exact: the records of two accepted logs describe the same log if and only if the
logs agree on everything but the `removed` flag, and then they are of one kind. -/
theorem identity_is_exact {a b : Log} {p q : Payload} (accepted : a.payload = .ok p)
    (accepted' : b.payload = .ok q) :
    ∃ event other, PendingEvent.ofLog? p a = some event ∧ PendingEvent.ofLog? q b = some other ∧
      Log.Compared a b event other := by
  obtain ⟨event, made⟩ := Log.exists_event accepted
  obtain ⟨other, made'⟩ := Log.exists_event accepted'
  have read : a.event? = some event := Log.event?_eq_some_iff.mpr ⟨p, accepted, made⟩
  have read' : b.event? = some other := Log.event?_eq_some_iff.mpr ⟨q, accepted', made'⟩
  have same := Log.sameLog_iff_agrees read read'
  refine ⟨event, other, made, made', same, ?_, ?_, fun _ _ holds => holds.removeMatching read⟩
  · intro alike
    have kind := (PendingEvent.ofLog?_identity made).2
    rw [Log.kind?, Log.signature?, (same.mp alike).topics] at kind
    exact Option.some.inj (kind.symm.trans (PendingEvent.ofLog?_identity made').2)
  · intro copy agrees
    have accepted'' : copy.payload = .ok p := agrees.payload ▸ accepted
    obtain ⟨record, made''⟩ := Log.exists_event accepted''
    have read'' : copy.event? = some record :=
      Log.event?_eq_some_iff.mpr ⟨p, accepted'', made''⟩
    exact ⟨record, read'', (Log.sameLog_iff_agrees read read'').mpr agrees⟩

section Purchases

def indexedLog : Log :=
  { purchaseLog with topics := [EventKind.purchase.signature, ⟨0xbeef⟩, ⟨7⟩] }

def indexedRecord : ProviderLog :=
  { address := indexedLog.address, topics := indexedLog.topics, data := indexedLog.data
    block := some 100, blockHash := none, txHash := none, txIndex := none, logIndex := none
    removed := none }

/-- The notice that takes the purchase back is recognised, and the log beside it is not. -/
theorem notice_of_purchase_recognised :
    indexedLog.payload = .ok purchaseNotification.payload ∧
      ({ indexedLog with removed := true } : Log).payload = .ok purchaseNotification.payload ∧
      indexedLog.Agrees { indexedLog with removed := true } ∧
      ¬ indexedLog.Agrees { indexedLog with logIndex := 1 } ∧
      ∃ event other, PendingEvent.ofLog? purchaseNotification.payload indexedLog = some event ∧
        PendingEvent.ofLog? purchaseNotification.payload { indexedLog with removed := true } =
          some other ∧
        Log.Compared indexedLog { indexedLog with removed := true } event other :=
  ⟨rfl, rfl, rfl, by decide, identity_is_exact rfl rfl⟩

end Purchases

end StarWatch
