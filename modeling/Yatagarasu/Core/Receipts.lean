import Yatagarasu.Core.Store
import Yatagarasu.Library.Program

/-! `submit` is a program: each lookup is a read of the tables of its own, and each write a call, so
that one definition runs on a single connection and between other reducers. -/

namespace Yatagarasu

open Sqlite Program

/-- The writes a reducer makes. -/
inductive StoreCall
  | acceptReceipt (receipt : Receipt) (delivery : Delivery) (next : DeliveryState)
      (disposition : Option Disposition)
  | recordRejection (receipt : Receipt) (reason : String)
  | markProviderDegraded (providerId : String)

abbrev Reducer (α : Type) := Program Tables StoreCall (Except PyError Unit) α

namespace StoreCall

/-- The call as a method of one store. -/
def method : StoreCall → Method Unit
  | acceptReceipt receipt delivery next disposition =>
    match proofStorageFields receipt.proof with
    | .error e => throw e
    | .ok proof => withConnection (CoreStore.acceptBlock receipt delivery next disposition proof)
  | recordRejection receipt reason => CoreStore.recordRejection receipt reason
  | markProviderDegraded providerId => CoreStore.markProviderDegraded providerId

end StoreCall

namespace ReceiptReducer

def participantEvidence : List EvidenceClass :=
  [.participantReplyAuthored, .participantReactionAuthored]

def sessionProofEvidence : List EvidenceClass :=
  [.harnessPromptAccepted, .harnessTurnStarted, .harnessTurnCompleted]

/-- A text that is neither `None` nor empty. -/
def present (text : Option String) : Option String := text.filter (· ≠ "")

def reject (reason : String) (receipt : Receipt) : Reducer (Except PyError ReceiptResult) := do
  match ← send (.recordRejection receipt reason) with
  | .ok _ => return .ok (.rejected reason)
  | .error e => return .error e

def canonicalDisposition (receipt : Receipt) : Option Disposition :=
  match receipt.disposition with
  | some disposition => some disposition
  | none =>
    if receipt.evidenceClass = .participantReplyAuthored then some .answered
    else if receipt.evidenceClass = .harnessTurnCompleted then some .completed
    else none

/-- The columns of a stored receipt that a resubmission must repeat. -/
def SameColumns (existing : ReceiptRow) (receipt : Receipt) (proof : ProofFields) : Prop :=
  existing.providerId = receipt.evidenceProviderId ∧
  existing.sourceEventId = receipt.sourceEventId ∧
  existing.eventId = receipt.eventId ∧
  existing.deliveryId = receipt.deliveryId ∧
  existing.attemptId = receipt.attemptId ∧
  some existing.bindingId = receipt.bindingId ∧
  existing.evidenceClass = receipt.evidenceClass ∧
  existing.proofMethod = receipt.proofMethod ∧
  existing.observedAt = receipt.observedAt ∧
  existing.disposition = canonicalDisposition receipt ∧
  existing.platformPrincipalId = receipt.platformPrincipalId ∧
  existing.platformMessageId = receipt.platformMessageId ∧
  existing.authoredByProvider = receipt.authoredByProvider ∧
  existing.infrastructureEvent = receipt.infrastructureEvent ∧
  existing.sessionId = proof.sessionId ∧
  existing.markerSignature = proof.markerSignature ∧
  existing.sourceEventChain = proof.sourceEventChain ∧
  existing.turnId = proof.turnId

instance (existing : ReceiptRow) (receipt : Receipt) (proof : ProofFields) :
    Decidable (SameColumns existing receipt proof) := by
  unfold SameColumns
  infer_instance

/-- A duplicate ID is idempotent only when its semantic claim is equal. -/
def sameReceipt (existing : ReceiptRow) (receipt : Receipt) : Except PyError Bool :=
  match proofStorageFields receipt.proof with
  | .error e => .error e
  | .ok proof => .ok (SameColumns existing receipt proof)

/-- The verdict on a receipt whose id is stored. -/
def repeatedReceipt (receipt : Receipt) (existing : ReceiptRow) :
    Reducer (Except PyError ReceiptResult) := do
  match sameReceipt existing receipt with
  | .error e => return .error e
  | .ok false =>
    match ← send (.markProviderDegraded receipt.evidenceProviderId) with
    | .error e => return .error e
    | .ok _ => reject "receipt_id_contradiction" receipt
  | .ok true =>
    let delivery ← fetch (·.getDelivery receipt.deliveryId)
    return .ok (.duplicate (delivery.map (·.state)) (delivery.bind (·.disposition)))

def existingReceiptResult (receipt : Receipt) :
    Reducer (Except PyError (Option ReceiptResult)) := do
  match ← fetch (·.receiptRecord receipt.receiptId) with
  | none => return .ok none
  | some existing => return (← repeatedReceipt receipt existing).map some

def validateKeys (receipt : Receipt) (delivery : Delivery) : Option String :=
  if receipt.eventId ≠ delivery.eventId then some "event_mismatch"
  else if receipt.attemptId ≠ delivery.attemptId then some "attempt_mismatch"
  else if receipt.bindingId ≠ delivery.bindingId then some "binding_mismatch"
  else none

def validateParticipant (receipt : Receipt) (delivery : Delivery) (kind : ProviderKind) :
    Reducer (Option String) := do
  if delivery.deliveryMode ≠ .channelNative then return some "evidence_class_wrong_delivery_mode"
  else if kind ≠ .commsView then return some "provider_kind_not_comms_view"
  else if delivery.state ≠ .transportSubmitted then return some "invalid_transition"
  else if receipt.authoredByProvider ∨ receipt.infrastructureEvent then
    return some "self_echo_or_infrastructure_event"
  else match present receipt.sourceEventId with
    | none => return some "source_event_id_required"
    | some sourceEventId =>
      if ← fetch (·.sourceSeen receipt.evidenceProviderId sourceEventId) then
        return some "source_event_replayed"
      else match present receipt.platformPrincipalId with
        | none => return some "principal_mismatch"
        | some principalId =>
          if ¬ (← fetch (·.principalMatches receipt.evidenceProviderId principalId
              delivery.recipientId)) then
            return some "principal_mismatch"
          else match present receipt.platformMessageId with
            | none => return some "platform_message_binding_mismatch"
            | some messageId =>
              if ¬ (← fetch (·.messageBindingMatches receipt.evidenceProviderId messageId
                  delivery)) then
                return some "platform_message_binding_mismatch"
              else return none

/-- Participant evidence has checks of its own; a channel-native delivery takes nothing else but a
transport acknowledgement. -/
def validateMode (receipt : Receipt) (delivery : Delivery) (kind : ProviderKind) :
    Reducer (Option String) :=
  if receipt.evidenceClass ∈ participantEvidence then validateParticipant receipt delivery kind
  else if delivery.deliveryMode = .channelNative ∧ receipt.evidenceClass ≠ .transportSubmitAck then
    return some "evidence_class_wrong_delivery_mode"
  else return none

abbrev Transition := DeliveryState × Option Disposition

def ackTransition (receipt : Receipt) (delivery : Delivery) (kind : ProviderKind) :
    Reducer (Except String Transition) := do
  if delivery.state ≠ .dispatching then return .error "invalid_transition"
  else if receipt.disposition ≠ none then return .error "disposition_not_allowed"
  else if delivery.deliveryMode = .channelNative then
    if kind ≠ .commsView then return .error "provider_kind_not_comms_view"
    else match present receipt.platformMessageId with
      | none => return .error "platform_message_binding_mismatch"
      | some messageId =>
        if ¬ (← fetch (·.messageBindingMatches receipt.evidenceProviderId messageId delivery)) then
          return .error "platform_message_binding_mismatch"
        else return .ok (.transportSubmitted, none)
  else if kind ≠ .sessionTransport then return .error "provider_kind_not_session_transport"
  else return .ok (.transportSubmitted, none)

def harnessTransition (receipt : Receipt) (delivery : Delivery) (kind : ProviderKind)
    (state : DeliveryState) (allowed : Option Disposition) (overclaim : String)
    (next : Transition) : Except String Transition :=
  if delivery.deliveryMode ≠ .sessionBound then .error "evidence_class_wrong_delivery_mode"
  else if kind ≠ .sessionTransport then .error "provider_kind_not_session_transport"
  else if delivery.state ≠ state then .error "invalid_transition"
  else if receipt.disposition ≠ none ∧ receipt.disposition ≠ allowed then .error overclaim
  else .ok next

/-- An evidence class maps to at most one transition. -/
def transition (receipt : Receipt) (delivery : Delivery) (kind : ProviderKind) :
    Reducer (Except String Transition) :=
  match receipt.evidenceClass with
  | .transportSubmitAck => ackTransition receipt delivery kind
  | .harnessPromptAccepted | .harnessTurnStarted =>
    return harnessTransition receipt delivery kind .transportSubmitted none
      "disposition_not_allowed" (.inSession, none)
  | .harnessTurnCompleted =>
    return harnessTransition receipt delivery kind .inSession (some .completed)
      "disposition_overclaim" (.processed, some .completed)
  | .participantReplyAuthored =>
    if receipt.disposition = none ∨ receipt.disposition = some .answered then
      return .ok (.processed, some .answered)
    else return .error "disposition_overclaim"
  | .participantReactionAuthored =>
    if receipt.disposition = some .acknowledged ∨ receipt.disposition = some .held then
      return .ok (.processed, receipt.disposition)
    else return .error "reaction_disposition_invalid"
  | .sessionReplyAuthored | .sessionReactionAuthored | .sessionDispositionAuthored =>
    return .error "unsupported_evidence_class"

/-- The facts a receipt must agree on with its binding's row. -/
def validateBinding [Host] (receipt : Receipt) (delivery : Delivery) (proof : SessionProof)
    (binding : SessionBindingRow) : Option String :=
  if binding.state ≠ .active then some "binding_not_active"
  else if binding.providerId ≠ receipt.evidenceProviderId then
    some "provider_not_authorized_for_binding"
  else if binding.recipientId ≠ delivery.recipientId then some "binding_does_not_own_recipient"
  else match parseTimestamp receipt.observedAt, parseTimestamp binding.establishedAt,
      parseTimestamp binding.expiresAt with
    | .ok observed, .ok established, .ok expires =>
      if observed < established ∨ observed ≥ expires then some "binding_expired_or_not_yet_active"
      else if proof.sessionId ≠ binding.sessionId then some "authoritative_session_mismatch"
      else none
    | _, _, _ => some "binding_timestamp_invalid"

/-- A turn end must close the chain that was accepted as the entry of its delivery. -/
def closesAccepted (receipt : Receipt) (delivery : Delivery) (events : List SourceEventRef) :
    Reducer Bool :=
  if receipt.evidenceClass = .harnessTurnCompleted then
    fetch fun t => decide (t.sessionEntryChain delivery.deliveryId =
      some (sourceChainJson events.dropLast))
  else return true

/-- The checks that follow a valid proof: the accepted chain and the source event. -/
def validateClosing (receipt : Receipt) (delivery : Delivery) (events : List SourceEventRef) :
    Reducer (Option String) := do
  if ¬ (← closesAccepted receipt delivery events) then
    return some "turn_end_does_not_close_accepted_prompt"
  else match present receipt.sourceEventId with
    | none => return some "receipt_source_event_mismatch"
    | some sourceEventId =>
      if events.getLast?.map (·.sourceEventId) ≠ some sourceEventId then
        return some "receipt_source_event_mismatch"
      else if ← fetch (·.sourceSeen receipt.evidenceProviderId sourceEventId) then
        return some "source_event_replayed"
      else return none

def validateSessionReceipt [Host] (authority : Option MarkerAuthority) (receipt : Receipt)
    (delivery : Delivery) : Reducer (Except PyError (Option String)) := do
  match receipt.proof with
  | none => return .ok (some "session_proof_required")
  | some .other => return .ok (some "session_proof_shape_invalid")
  | some (.typed proof) =>
    match authority with
    | none => return .ok (some "marker_authority_unavailable")
    | some authority =>
      match ← fetch (·.sessionBinding receipt.bindingId) with
      | none => return .ok (some "binding_not_registered")
      | some binding =>
        match validateBinding receipt delivery proof binding with
        | some reason => return .ok (some reason)
        | none =>
          match ← fetch (·.bindingProofMethod receipt.bindingId receipt.proofMethod) with
          | none => return .ok (some "proof_method_not_registered_for_binding")
          | some registration =>
            match validateSessionProof proof delivery receipt.evidenceClass registration authority
                receipt.observedAt, proof.sourceEvents.typedTuple with
            | .error e, _ => return .error e
            | .ok (some reason), _ => return .ok (some reason)
            -- a proof that validates holds a tuple of source events
            | .ok none, none => return .error .attributeError
            | .ok none, some events => return .ok (← validateClosing receipt delivery events)

/-- Session proof is asked of the harness classes only. -/
def validateProof [Host] (authority : Option MarkerAuthority) (receipt : Receipt)
    (delivery : Delivery) : Reducer (Except PyError (Option String)) :=
  if receipt.evidenceClass ∈ sessionProofEvidence then
    validateSessionReceipt authority receipt delivery
  else return .ok none

/-- `receipt.source_event_id and self.store.source_seen(...)`. -/
def sourceReplayed (receipt : Receipt) : Reducer Bool :=
  match present receipt.sourceEventId with
  | some sourceEventId => fetch (·.sourceSeen receipt.evidenceProviderId sourceEventId)
  | none => return false

/-- Re-read durable winners after a uniqueness or foreign-key race. -/
def recoverIntegrityCollision (receipt : Receipt) : Reducer (Except PyError ReceiptResult) := do
  match ← existingReceiptResult receipt with
  | .error e => return .error e
  | .ok (some result) => return .ok result
  | .ok none =>
    if ← sourceReplayed receipt then reject "source_event_replayed" receipt
    else if (← fetch (·.getDelivery receipt.deliveryId)) = none then
      reject "delivery_not_found" receipt
    else if (← fetch (·.provider receipt.evidenceProviderId)) = none then
      reject "provider_not_registered" receipt
    else reject "storage_integrity_error" receipt

def commitReceipt (receipt : Receipt) (delivery : Delivery) (next : Transition) :
    Reducer (Except PyError ReceiptResult) := do
  match ← send (.acceptReceipt receipt delivery next.1 next.2) with
  | .ok _ => return .ok (.accepted next.1 next.2)
  | .error .concurrentTransition => reject "delivery_state_changed" receipt
  | .error .integrityError => recoverIntegrityCollision receipt
  | .error e => return .error e

/-- The part of `submit` after the provider was read. -/
def submitEvidence [Host] (authority : Option MarkerAuthority) (receipt : Receipt)
    (delivery : Delivery) (kind : ProviderKind) : Reducer (Except PyError ReceiptResult) := do
  match ← validateMode receipt delivery kind with
  | some reason => reject reason receipt
  | none =>
    match ← transition receipt delivery kind with
    | .error reason => reject reason receipt
    | .ok next =>
      match ← validateProof authority receipt delivery with
      | .error e => return .error e
      | .ok (some reason) => reject reason receipt
      | .ok none => commitReceipt receipt delivery next

/-- The part of `submit` after the delivery was read. -/
def submitDelivery [Host] (authority : Option MarkerAuthority) (receipt : Receipt)
    (delivery : Delivery) : Reducer (Except PyError ReceiptResult) := do
  match validateKeys receipt delivery with
  | some reason => reject reason receipt
  | none =>
    match ← fetch (·.provider receipt.evidenceProviderId) with
    | none => reject "provider_not_registered" receipt
    | some provider =>
      if ¬ (← fetch (·.providerDeclares receipt.evidenceProviderId receipt.evidenceClass)) then
        reject "evidence_class_not_declared" receipt
      else submitEvidence authority receipt delivery provider.kind

/-- The part of `submit` after the receipt id was found unused. -/
def submitFresh [Host] (authority : Option MarkerAuthority) (receipt : Receipt) :
    Reducer (Except PyError ReceiptResult) := do
  match ← fetch (·.getDelivery receipt.deliveryId) with
  | none => reject "delivery_not_found" receipt
  | some delivery => submitDelivery authority receipt delivery

/-- Accept evidence and advance one delivery no farther than it proves. -/
def submit [Host] (authority : Option MarkerAuthority) (receipt : Receipt) :
    Reducer (Except PyError ReceiptResult) := do
  if receipt.proofMethod = "" ∨ receipt.observedAt = "" then reject "audit_fields_required" receipt
  else if receipt.proof = some .other then reject "session_proof_shape_invalid" receipt
  else match ← existingReceiptResult receipt with
    | .error e => return .error e
    | .ok (some result) => return .ok result
    | .ok none => submitFresh authority receipt

end ReceiptReducer

/-- `submit` of a reducer on its own store. -/
def CoreStore.submit [Host] (authority : Option MarkerAuthority) (receipt : Receipt)
    (c : CoreStore) : Except PyError ReceiptResult × CoreStore :=
  (ReceiptReducer.submit authority receipt).run Connection.working (fun i c => i.method.exec c) c

end Yatagarasu
