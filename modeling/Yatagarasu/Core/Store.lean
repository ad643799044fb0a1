import Yatagarasu.Core.Tables
import Yatagarasu.Library.Sqlite

/-! The transactional store for the receipt reducer's durable contract. -/

namespace Yatagarasu

open Sqlite

instance : Errors PyError := ⟨.integrityError, .operationalError⟩

/-- The connection of one `CoreStore`. -/
abbrev CoreStore := Connection Tables

/-- A method of `CoreStore`: it reads and writes the connection, and may raise. -/
abbrev Method (α : Type) := Action PyError Tables α

/-- The statements of one `with connection` block. -/
abbrev Block (α : Type) := StateT Tables (Except PyError) α

namespace CoreStore

/-- A store that was just opened on an empty file. -/
def empty : CoreStore := { committed := {}, working := {} }

def addDelivery (delivery : Delivery) : Method Unit := do
  execute (Tables.insertDelivery delivery)
  commit

def insertRoomMembers (roomId : String) : Nat → List String → Block Unit
  | _, [] => pure ()
  | ordinal, recipientId :: rest => do
    insert (Tables.insertRoomMember { roomId, recipientId, rosterOrdinal := ordinal })
    insertRoomMembers roomId (ordinal + 1) rest

/-- Replace the live room roster without mutating prior snapshots. -/
def replaceRoomRoster (roomId : String) (recipients : List String) : Method Unit :=
  if roomId = "" ∨ recipients = [] ∨ "" ∈ recipients then
    throw (.valueError "room and recipients must not be empty")
  else if ¬ recipients.Nodup then
    throw (.valueError "room roster contains a duplicate recipient")
  else withConnection do
    insert (Tables.insertRoomOrIgnore roomId)
    insert (Tables.deleteRoomMembers roomId)
    insertRoomMembers roomId 0 recipients

def setDispatching (deliveryId : String) : Method Unit := do
  let changed ← update (Tables.updateDelivery deliveryId .queued fun d =>
    { d with state := .dispatching })
  if changed ≠ 1 then throw (.valueError "delivery_not_queued")
  else commit

def insertEvidenceClasses (providerId : String) : List EvidenceClass → Block Unit
  | [] => pure ()
  | evidenceClass :: rest => do
    insert (Tables.insertProviderEvidence { providerId, evidenceClass })
    insertEvidenceClasses providerId rest

def registerProvider (providerId : String) (kind : ProviderKind)
    (evidenceClasses : List EvidenceClass) : Method Unit :=
  withConnection do
    insert (Tables.insertProvider { providerId, kind })
    insertEvidenceClasses providerId evidenceClasses

def validateProofMethods (t : Tables) (providerId : String) :
    List ProofMethodRegistration → Except PyError Unit
  | [] => .ok ()
  | method :: rest =>
    if method.sourceInstanceId = "" ∨ method.evidenceClasses = [] then
      .error (.valueError "proof method source and evidence must not be empty")
    else if method.evidenceClasses.any fun evidence => ¬ t.providerDeclares providerId evidence then
      .error (.valueError "proof method evidence is not declared by provider")
    else validateProofMethods t providerId rest

def validateSessionBinding [Host] (binding : SessionBinding) (t : Tables) : Except PyError Unit := do
  if binding.state ≠ .active then throw (.valueError "new session binding must be active")
  if binding.bindingId = "" ∨ binding.recipientId = "" ∨ binding.providerId = "" ∨
      binding.adapterInstanceId = "" ∨ binding.harness = "" ∨ binding.sessionId = "" then
    throw (.valueError "binding identity fields must not be empty")
  let expires ← parseTimestamp binding.expiresAt
  let established ← parseTimestamp binding.establishedAt
  if expires ≤ established then throw (.valueError "binding expiry must follow establishment")
  if (t.provider binding.providerId).map (·.kind) ≠ some .sessionTransport then
    throw (.valueError "binding provider must be a registered session transport")
  if binding.proofMethods = [] then
    throw (.valueError "binding must declare at least one proof method")
  let names := binding.proofMethods.map (·.proofMethod)
  if ¬ names.Nodup ∨ "" ∈ names then
    throw (.valueError "binding proof methods must be unique and non-empty")
  validateProofMethods t binding.providerId binding.proofMethods

def insertProofMethods (bindingId : String) : List ProofMethodRegistration → Block Unit
  | [] => pure ()
  | registration :: rest => do
    insert (Tables.insertProofMethod { bindingId, registration })
    insertProofMethods bindingId rest

def bindingRow (binding : SessionBinding) : SessionBindingRow :=
  { bindingId := binding.bindingId, recipientId := binding.recipientId
    providerId := binding.providerId, adapterInstanceId := binding.adapterInstanceId
    harness := binding.harness, sessionId := binding.sessionId
    establishedAt := binding.establishedAt, expiresAt := binding.expiresAt
    state := binding.state }

def insertSessionBinding (binding : SessionBinding) : Block Unit := do
  insert (Tables.insertSessionBindingRow (bindingRow binding))
  insertProofMethods binding.bindingId binding.proofMethods

/-- A read that may raise. -/
def query {α : Type} (f : Tables → Except PyError α) : Method α := fun c => (f c.working, c)

/-- `except sqlite3.IntegrityError` around a block. -/
def onIntegrityError {α : Type} (x : Method α) (e : PyError) : Method α := fun c =>
  match x.exec c with
  | (.error .integrityError, c') => (.error e, c')
  | result => result

/-- Register one active authoritative session, failing closed on conflict. -/
def registerSessionBinding [Host] (binding : SessionBinding) : Method Unit := do
  query (validateSessionBinding binding)
  onIntegrityError (withConnection (insertSessionBinding binding))
    (.bindingConflict ("active binding conflict for recipient " ++ binding.recipientId))

def validateSupersession [Host] (oldBindingId : String) (replacement : SessionBinding)
    (t : Tables) : Except PyError Unit :=
  match t.sessionBinding (some oldBindingId) with
  | none => .error (.bindingConflict "binding to supersede is not active")
  | some old =>
    if old.state ≠ .active then .error (.bindingConflict "binding to supersede is not active")
    else if old.recipientId ≠ replacement.recipientId then
      .error (.bindingConflict "replacement owns a different recipient")
    else validateSessionBinding replacement t

/-- `UPDATE session_bindings SET state = ? WHERE binding_id = ?`, without a state guard. -/
def setBindingState (bindingId : String) (state : BindingState) (t : Tables) : Option Tables :=
  some { t with sessionBindings := t.sessionBindings.map fun row =>
    if row.bindingId = bindingId then { row with state } else row }

/-- Atomically retire one binding and install its replacement. -/
def supersedeSessionBinding [Host] (oldBindingId : String) (replacement : SessionBinding) :
    Method Unit := do
  query (validateSupersession oldBindingId replacement)
  withConnection do
    insert (setBindingState oldBindingId .superseded)
    insertSessionBinding replacement

def revokeActive (bindingId : String) (t : Tables) : Tables × Nat :=
  let hit := fun row : SessionBindingRow => decide (row.bindingId = bindingId ∧ row.state = .active)
  ({ t with sessionBindings := t.sessionBindings.map fun row =>
      if hit row then { row with state := .revoked } else row },
    t.sessionBindings.countP hit)

def revokeSessionBinding (bindingId : String) : Method Unit := do
  let changed ← update (revokeActive bindingId)
  if changed ≠ 1 then throw (.valueError "binding_not_active")
  else commit

def bindPrincipal (providerId platformPrincipalId recipientId : String) : Method Unit := do
  execute (Tables.insertPrincipalBinding { providerId, platformPrincipalId, recipientId })
  commit

def bindPlatformMessage (providerId platformMessageId eventId deliveryId attemptId : String) :
    Method Unit := do
  execute (Tables.insertMessageBinding
    { providerId, platformMessageId, eventId, deliveryId, attemptId })
  commit

def degrade (providerId : String) (t : Tables) : Option Tables :=
  some { t with providers := t.providers.map fun row =>
    if row.providerId = providerId then { row with health := .degraded } else row }

def markProviderDegraded (providerId : String) : Method Unit := do
  execute (degrade providerId)
  commit

def rejectionRow (receipt : Receipt) (reason : String) : RejectionRow :=
  { receiptId := receipt.receiptId, deliveryId := receipt.deliveryId
    providerId := receipt.evidenceProviderId, evidenceClass := receipt.evidenceClass
    proofMethod := receipt.proofMethod, observedAt := receipt.observedAt, reason }

def recordRejection (receipt : Receipt) (reason : String) : Method Unit := do
  execute (Tables.insertRejection (rejectionRow receipt reason))
  commit

def sessionEntry (delivery : Delivery) : SessionEntry :=
  if delivery.deliveryMode = .channelNative then .notApplicable else .applicable

/-- The row of an accepted receipt: keys from the delivery, evidence from the receipt. -/
def receiptRow (receipt : Receipt) (delivery : Delivery) (bindingId : String)
    (disposition : Option Disposition) (proof : ProofFields) : ReceiptRow :=
  { receiptId := receipt.receiptId, providerId := receipt.evidenceProviderId
    sourceEventId := receipt.sourceEventId, eventId := delivery.eventId
    deliveryId := delivery.deliveryId, attemptId := delivery.attemptId, bindingId
    evidenceClass := receipt.evidenceClass, proofMethod := receipt.proofMethod
    observedAt := receipt.observedAt, disposition
    platformPrincipalId := receipt.platformPrincipalId
    platformMessageId := receipt.platformMessageId
    authoredByProvider := receipt.authoredByProvider
    infrastructureEvent := receipt.infrastructureEvent, sessionId := proof.sessionId
    markerSignature := proof.markerSignature, sourceEventChain := proof.sourceEventChain
    turnId := proof.turnId }

def auditRow (receipt : Receipt) (delivery : Delivery) (next : DeliveryState)
    (disposition : Option Disposition) : AuditRow :=
  { receiptId := receipt.receiptId, deliveryId := delivery.deliveryId
    fromState := delivery.state, toState := next, disposition
    deliveryMode := delivery.deliveryMode, sessionEntry := sessionEntry delivery
    evidenceClass := receipt.evidenceClass, proofMethod := receipt.proofMethod }

/-- The receipt, the guarded state change and the audit row, in one transaction. -/
def acceptBlock (receipt : Receipt) (delivery : Delivery) (next : DeliveryState)
    (disposition : Option Disposition) (proof : ProofFields) : Block Unit := do
  match delivery.bindingId with
  -- `receipts.binding_id` is NOT NULL
  | none => throw .integrityError
  | some bindingId =>
    insert (Tables.insertReceipt (receiptRow receipt delivery bindingId disposition proof))
    let changed ← modifyGet fun t => Prod.swap <|
      t.updateDelivery delivery.deliveryId delivery.state fun d =>
        { d with state := next, disposition }
    if changed ≠ 1 then throw .concurrentTransition
    else insert (Tables.insertAudit (auditRow receipt delivery next disposition))

end CoreStore

end Yatagarasu
