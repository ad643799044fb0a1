import Mathlib.Data.List.Basic
import Yatagarasu.Core.Proofs

/-! One list of rows per table, in insertion order, with the columns of the schema. The statements
below return `none` where the schema's constraints refuse the row. -/

namespace Yatagarasu

inductive Health
  | healthy
  | degraded
  deriving DecidableEq, Repr

structure ProviderRow where
  providerId : String
  kind : ProviderKind
  health : Health := .healthy
  deriving DecidableEq, Repr

structure ProviderEvidenceRow where
  providerId : String
  evidenceClass : EvidenceClass
  deriving DecidableEq, Repr

structure PrincipalBindingRow where
  providerId : String
  platformPrincipalId : String
  recipientId : String
  deriving DecidableEq, Repr

structure MessageBindingRow where
  providerId : String
  platformMessageId : String
  eventId : String
  deliveryId : String
  attemptId : String
  deriving DecidableEq, Repr

structure ReceiptRow where
  receiptId : String
  providerId : String
  sourceEventId : Option String
  eventId : String
  deliveryId : String
  attemptId : String
  bindingId : String
  evidenceClass : EvidenceClass
  proofMethod : String
  observedAt : String
  disposition : Option Disposition
  platformPrincipalId : Option String
  platformMessageId : Option String
  authoredByProvider : Bool
  infrastructureEvent : Bool
  sessionId : Option String
  markerSignature : Option String
  sourceEventChain : String
  turnId : Option String
  deriving DecidableEq, Repr

structure SessionBindingRow where
  bindingId : String
  recipientId : String
  providerId : String
  adapterInstanceId : String
  harness : String
  sessionId : String
  establishedAt : String
  expiresAt : String
  state : BindingState
  deriving DecidableEq, Repr

structure ProofMethodRow where
  bindingId : String
  registration : ProofMethodRegistration
  deriving DecidableEq, Repr

inductive SessionEntry
  | applicable
  | notApplicable
  deriving DecidableEq, Repr

/-- Rows are never deleted, so `audit_id` is the position of the row. -/
structure AuditRow where
  receiptId : String
  deliveryId : String
  fromState : DeliveryState
  toState : DeliveryState
  disposition : Option Disposition
  deliveryMode : DeliveryMode
  sessionEntry : SessionEntry
  evidenceClass : EvidenceClass
  proofMethod : String
  deriving DecidableEq, Repr

structure RejectionRow where
  receiptId : String
  deliveryId : String
  providerId : String
  evidenceClass : EvidenceClass
  proofMethod : String
  observedAt : String
  reason : String
  deriving DecidableEq, Repr

structure RoomMemberRow where
  roomId : String
  recipientId : String
  rosterOrdinal : Nat
  deriving DecidableEq, Repr

structure CanonicalEventRow where
  eventId : String
  actorId : String
  roomId : String
  content : String
  acceptedAt : String
  authorityScope : String
  deriving DecidableEq, Repr

structure BroadcastRow where
  broadcastId : String
  eventId : String
  roomId : String
  rosterSnapshotSize : Nat
  deriving DecidableEq, Repr

structure BroadcastRecipientRow where
  broadcastId : String
  recipientId : String
  rosterOrdinal : Nat
  bindingId : Option String
  deliveryId : String
  deriving DecidableEq, Repr

structure BroadcastAuditRow where
  broadcastId : String
  eventId : String
  rosterSnapshotSize : Nat
  deriving DecidableEq, Repr

structure Tables where
  deliveries : List Delivery := []
  providers : List ProviderRow := []
  providerEvidence : List ProviderEvidenceRow := []
  principalBindings : List PrincipalBindingRow := []
  platformMessageBindings : List MessageBindingRow := []
  receipts : List ReceiptRow := []
  sessionBindings : List SessionBindingRow := []
  bindingProofMethods : List ProofMethodRow := []
  auditLog : List AuditRow := []
  receiptRejections : List RejectionRow := []
  rooms : List String := []
  roomMembers : List RoomMemberRow := []
  canonicalEvents : List CanonicalEventRow := []
  broadcasts : List BroadcastRow := []
  broadcastRecipients : List BroadcastRecipientRow := []
  broadcastAudit : List BroadcastAuditRow := []

namespace Tables

def getDelivery (t : Tables) (deliveryId : String) : Option Delivery :=
  t.deliveries.find? (·.deliveryId = deliveryId)

def provider (t : Tables) (providerId : String) : Option ProviderRow :=
  t.providers.find? (·.providerId = providerId)

def providerDeclares (t : Tables) (providerId : String) (evidence : EvidenceClass) : Bool :=
  t.providerEvidence.any fun row => row.providerId = providerId ∧ row.evidenceClass = evidence

def principalMatches (t : Tables) (providerId platformPrincipalId recipientId : String) : Bool :=
  t.principalBindings.any fun row => row.providerId = providerId ∧
    row.platformPrincipalId = platformPrincipalId ∧ row.recipientId = recipientId

def messageBindingMatches (t : Tables) (providerId platformMessageId : String)
    (delivery : Delivery) : Bool :=
  t.platformMessageBindings.any fun row => row.providerId = providerId ∧
    row.platformMessageId = platformMessageId ∧ row.eventId = delivery.eventId ∧
    row.deliveryId = delivery.deliveryId ∧ row.attemptId = delivery.attemptId

def receiptRecord (t : Tables) (receiptId : String) : Option ReceiptRow :=
  t.receipts.find? (·.receiptId = receiptId)

/-- The newest session-entry receipt of the delivery, by `rowid DESC LIMIT 1`. -/
def sessionEntryChain (t : Tables) (deliveryId : String) : Option String :=
  (t.receipts.reverse.find? fun row => row.deliveryId = deliveryId ∧
    (row.evidenceClass = .harnessPromptAccepted ∨ row.evidenceClass = .harnessTurnStarted)).map
    (·.sourceEventChain)

def sourceSeen (t : Tables) (providerId sourceEventId : String) : Bool :=
  t.receipts.any fun row => row.providerId = providerId ∧ row.sourceEventId = some sourceEventId

/-- A `NULL` binding id equals no row's. -/
def sessionBinding (t : Tables) (bindingId : Option String) : Option SessionBindingRow :=
  t.sessionBindings.find? fun row => some row.bindingId = bindingId

def bindingProofMethod (t : Tables) (bindingId : Option String) (proofMethod : String) :
    Option ProofMethodRegistration :=
  (t.bindingProofMethods.find? fun row => some row.bindingId = bindingId ∧
    row.registration.proofMethod = proofMethod).map (·.registration)

def activeSessionBindingFor (t : Tables) (recipientId : String) : Option SessionBindingRow :=
  t.sessionBindings.find? fun row => row.recipientId = recipientId ∧ row.state = .active

def auditFor (t : Tables) (deliveryId : String) : List AuditRow :=
  t.auditLog.filter (·.deliveryId = deliveryId)

def receiptsFor (t : Tables) (deliveryId : String) : List ReceiptRow :=
  t.receipts.filter (·.deliveryId = deliveryId)

/-- The entry chain is a matter of the delivery's own receipts. -/
theorem sessionEntryChain_eq_receiptsFor (t : Tables) (deliveryId : String) :
    t.sessionEntryChain deliveryId = ((t.receiptsFor deliveryId).reverse.find? fun row =>
      row.evidenceClass = .harnessPromptAccepted ∨ row.evidenceClass = .harnessTurnStarted).map
      (·.sourceEventChain) := by
  unfold sessionEntryChain receiptsFor
  rw [← List.filter_reverse, List.find?_filter]
  congr 2
  funext row
  simp

/-- The live roster in ordinal order; a room's members are inserted in that order. -/
def roomRoster (t : Tables) (roomId : String) : List String :=
  ((t.roomMembers.filter (·.roomId = roomId)).mergeSort
    fun a b => decide (a.rosterOrdinal ≤ b.rosterOrdinal)).map (·.recipientId)

def insertDelivery (delivery : Delivery) (t : Tables) : Option Tables :=
  if t.deliveries.any (·.deliveryId = delivery.deliveryId) then none
  else some { t with deliveries := t.deliveries ++ [delivery] }

/-- `UPDATE deliveries ... WHERE delivery_id = ? AND state = ?`, with its row count. -/
def updateDelivery (deliveryId : String) (expected : DeliveryState) (f : Delivery → Delivery)
    (t : Tables) : Tables × Nat :=
  let hit := fun d : Delivery => decide (d.deliveryId = deliveryId ∧ d.state = expected)
  ({ t with deliveries := t.deliveries.map fun d => if hit d then f d else d },
    t.deliveries.countP hit)

def insertProvider (row : ProviderRow) (t : Tables) : Option Tables :=
  if t.providers.any (·.providerId = row.providerId) then none
  else some { t with providers := t.providers ++ [row] }

def insertProviderEvidence (row : ProviderEvidenceRow) (t : Tables) : Option Tables :=
  if row ∈ t.providerEvidence ∨ ¬ t.providers.any (·.providerId = row.providerId) then none
  else some { t with providerEvidence := t.providerEvidence ++ [row] }

def insertPrincipalBinding (row : PrincipalBindingRow) (t : Tables) : Option Tables :=
  if (t.principalBindings.any fun old => old.providerId = row.providerId ∧
      old.platformPrincipalId = row.platformPrincipalId) ∨
      ¬ t.providers.any (·.providerId = row.providerId) then none
  else some { t with principalBindings := t.principalBindings ++ [row] }

def insertMessageBinding (row : MessageBindingRow) (t : Tables) : Option Tables :=
  if (t.platformMessageBindings.any fun old => old.providerId = row.providerId ∧
      old.platformMessageId = row.platformMessageId) ∨
      ¬ t.providers.any (·.providerId = row.providerId) ∨
      ¬ t.deliveries.any (·.deliveryId = row.deliveryId) then none
  else some { t with platformMessageBindings := t.platformMessageBindings ++ [row] }

/-- The primary key, `UNIQUE (provider_id, source_event_id)`, and both foreign keys. -/
def insertReceipt (row : ReceiptRow) (t : Tables) : Option Tables :=
  if (t.receipts.any (·.receiptId = row.receiptId)) ∨
      (t.receipts.any fun old => old.providerId = row.providerId ∧ old.sourceEventId.isSome ∧
        old.sourceEventId = row.sourceEventId) ∨
      ¬ t.providers.any (·.providerId = row.providerId) ∨
      ¬ t.deliveries.any (·.deliveryId = row.deliveryId) then none
  else some { t with receipts := t.receipts ++ [row] }

theorem insertReceipt_eq_some {t t' : Tables} {row : ReceiptRow} : t.insertReceipt row = some t' ↔
    ((∀ old ∈ t.receipts, old.receiptId ≠ row.receiptId) ∧
      (∀ old ∈ t.receipts, old.providerId = row.providerId → old.sourceEventId.isSome →
        old.sourceEventId ≠ row.sourceEventId) ∧
      (∃ p ∈ t.providers, p.providerId = row.providerId) ∧
      ∃ d ∈ t.deliveries, d.deliveryId = row.deliveryId) ∧
    { t with receipts := t.receipts ++ [row] } = t' := by
  simp [insertReceipt]

/-- The primary key, one active binding per recipient, and the provider foreign key. -/
def insertSessionBindingRow (row : SessionBindingRow) (t : Tables) : Option Tables :=
  if (t.sessionBindings.any (·.bindingId = row.bindingId)) ∨
      (row.state = .active ∧ t.sessionBindings.any fun old =>
        old.recipientId = row.recipientId ∧ old.state = .active) ∨
      ¬ t.providers.any (·.providerId = row.providerId) then none
  else some { t with sessionBindings := t.sessionBindings ++ [row] }

def insertProofMethod (row : ProofMethodRow) (t : Tables) : Option Tables :=
  if (t.bindingProofMethods.any fun old => old.bindingId = row.bindingId ∧
      old.registration.proofMethod = row.registration.proofMethod) ∨
      ¬ t.sessionBindings.any (·.bindingId = row.bindingId) then none
  else some { t with bindingProofMethods := t.bindingProofMethods ++ [row] }

def insertAudit (row : AuditRow) (t : Tables) : Option Tables :=
  if (t.auditLog.any (·.receiptId = row.receiptId)) ∨
      ¬ t.receipts.any (·.receiptId = row.receiptId) ∨
      ¬ t.deliveries.any (·.deliveryId = row.deliveryId) then none
  else some { t with auditLog := t.auditLog ++ [row] }

theorem insertAudit_eq_some {t t' : Tables} {row : AuditRow} : t.insertAudit row = some t' ↔
    ((∀ old ∈ t.auditLog, old.receiptId ≠ row.receiptId) ∧
      (∃ r ∈ t.receipts, r.receiptId = row.receiptId) ∧
      ∃ d ∈ t.deliveries, d.deliveryId = row.deliveryId) ∧
    { t with auditLog := t.auditLog ++ [row] } = t' := by
  simp [insertAudit]

def insertRejection (row : RejectionRow) (t : Tables) : Option Tables :=
  some { t with receiptRejections := t.receiptRejections ++ [row] }

def insertRoomOrIgnore (roomId : String) (t : Tables) : Option Tables :=
  some { t with rooms := if roomId ∈ t.rooms then t.rooms else t.rooms ++ [roomId] }

def deleteRoomMembers (roomId : String) (t : Tables) : Option Tables :=
  some { t with roomMembers := t.roomMembers.filter (·.roomId ≠ roomId) }

def insertRoomMember (row : RoomMemberRow) (t : Tables) : Option Tables :=
  if (t.roomMembers.any fun old => old.roomId = row.roomId ∧
      (old.recipientId = row.recipientId ∨ old.rosterOrdinal = row.rosterOrdinal)) ∨
      row.roomId ∉ t.rooms then none
  else some { t with roomMembers := t.roomMembers ++ [row] }

def insertCanonicalEvent (row : CanonicalEventRow) (t : Tables) : Option Tables :=
  if (t.canonicalEvents.any (·.eventId = row.eventId)) ∨ row.roomId ∉ t.rooms then none
  else some { t with canonicalEvents := t.canonicalEvents ++ [row] }

def insertBroadcast (row : BroadcastRow) (t : Tables) : Option Tables :=
  if (t.broadcasts.any fun old => old.broadcastId = row.broadcastId ∨ old.eventId = row.eventId) ∨
      ¬ t.canonicalEvents.any (·.eventId = row.eventId) ∨ row.roomId ∉ t.rooms then none
  else some { t with broadcasts := t.broadcasts ++ [row] }

def insertBroadcastRecipient (row : BroadcastRecipientRow) (t : Tables) : Option Tables :=
  if (t.broadcastRecipients.any fun old => (old.broadcastId = row.broadcastId ∧
      (old.recipientId = row.recipientId ∨ old.rosterOrdinal = row.rosterOrdinal)) ∨
      old.deliveryId = row.deliveryId) ∨
      ¬ t.broadcasts.any (·.broadcastId = row.broadcastId) ∨
      ¬ t.deliveries.any (·.deliveryId = row.deliveryId) then none
  else some { t with broadcastRecipients := t.broadcastRecipients ++ [row] }

def insertBroadcastAudit (row : BroadcastAuditRow) (t : Tables) : Option Tables :=
  if (t.broadcastAudit.any (·.broadcastId = row.broadcastId)) ∨
      ¬ t.broadcasts.any (·.broadcastId = row.broadcastId) then none
  else some { t with broadcastAudit := t.broadcastAudit ++ [row] }

end Tables

end Yatagarasu
