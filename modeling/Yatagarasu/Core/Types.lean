import Mathlib.Logic.Basic

/-! Canonical delivery and receipt types for the Round-1 core. -/

namespace Yatagarasu

inductive DeliveryMode
  | sessionBound
  | channelNative
  deriving DecidableEq, Repr

inductive DeliveryState
  | queued
  | dispatching
  | transportSubmitted
  | inSession
  | processed
  deriving DecidableEq, Repr

inductive Disposition
  | completed
  | answered
  | acknowledged
  | held
  | declined
  deriving DecidableEq, Repr

inductive EvidenceClass
  | transportSubmitAck
  | harnessPromptAccepted
  | harnessTurnStarted
  | harnessTurnCompleted
  | sessionReplyAuthored
  | sessionReactionAuthored
  | sessionDispositionAuthored
  | participantReplyAuthored
  | participantReactionAuthored
  deriving DecidableEq, Repr

inductive ProviderKind
  | sessionTransport
  | commsView
  deriving DecidableEq, Repr

inductive SourceKind
  | directHook
  | eventBus
  deriving DecidableEq, Repr

inductive CorrelationRule
  | cmuxHarnessChain
  deriving DecidableEq, Repr

inductive BindingState
  | active
  | revoked
  | superseded
  deriving DecidableEq, Repr

structure ProofMethodRegistration where
  proofMethod : String
  sourceKind : SourceKind
  sourceInstanceId : String
  correlationRule : CorrelationRule
  evidenceClasses : List EvidenceClass
  deriving DecidableEq, Repr

structure SessionBinding where
  bindingId : String
  recipientId : String
  providerId : String
  adapterInstanceId : String
  harness : String
  sessionId : String
  establishedAt : String
  expiresAt : String
  proofMethods : List ProofMethodRegistration
  state : BindingState := .active
  deriving DecidableEq, Repr

structure DeliveryMarker where
  schemaVersion : Int
  eventId : String
  deliveryId : String
  attemptId : String
  bindingId : String
  authorityScope : String
  issuedAt : String
  expiresAt : String
  signature : String
  deriving DecidableEq, Repr

structure SourceEventRef where
  sourceInstanceId : String
  bootId : String
  seq : Int
  sourceEventId : String
  eventName : String
  sessionId : Option String := none
  bindingId : Option String := none
  markerSignature : Option String := none
  deriving DecidableEq, Repr

/-- A field that Python does not check on construction: a value of the declared type, or some
other object, on which every attribute access raises. -/
inductive Untyped (α : Type)
  | typed (a : α)
  | other
  deriving DecidableEq, Repr

/-- What a proof may carry as its chain: a tuple, a list, or an object that cannot be iterated. -/
inductive SourceEvents
  | tuple (events : List (Untyped SourceEventRef))
  | list (events : List (Untyped SourceEventRef))
  | other
  deriving DecidableEq, Repr

structure SessionProof where
  sessionId : String
  marker : Untyped DeliveryMarker
  sourceEvents : SourceEvents
  turnId : Option String := none
  deriving DecidableEq, Repr

structure Delivery where
  eventId : String
  deliveryId : String
  attemptId : String
  bindingId : Option String
  recipientId : String
  deliveryMode : DeliveryMode
  state : DeliveryState := .queued
  disposition : Option Disposition := none
  deriving DecidableEq, Repr

/-- `bindingId` is optional because nothing checks it before the reducer does, and `proof` may be
an object that is no `SessionProof`. -/
structure Receipt where
  receiptId : String
  eventId : String
  deliveryId : String
  attemptId : String
  bindingId : Option String
  evidenceProviderId : String
  evidenceClass : EvidenceClass
  proofMethod : String
  observedAt : String
  sourceEventId : Option String := none
  platformPrincipalId : Option String := none
  platformMessageId : Option String := none
  disposition : Option Disposition := none
  authoredByProvider : Bool := false
  infrastructureEvent : Bool := false
  proof : Option (Untyped SessionProof) := none
  deriving DecidableEq, Repr

inductive ReceiptResult
  | accepted (state : DeliveryState) (disposition : Option Disposition)
  | duplicate (state : Option DeliveryState) (disposition : Option Disposition)
  | rejected (reason : String)
  deriving DecidableEq, Repr

structure BroadcastOutcome where
  recipientId : String
  deliveryId : String
  bindingId : Option String
  state : DeliveryState
  disposition : Option Disposition
  unavailableReason : Option String
  deriving DecidableEq, Repr

structure BroadcastResult where
  broadcastId : String
  eventId : String
  roomId : String
  rosterSnapshotSize : Nat
  outcomes : List BroadcastOutcome
  allDelivered : Bool
  deriving DecidableEq, Repr

/-- The exceptions that leave a core call. `raised` is whatever an injected callable raises. -/
inductive PyError
  | valueError (message : String)
  | typeError
  | attributeError
  | keyError (key : String)
  | bindingConflict (message : String)
  | concurrentTransition
  | broadcastConflict (message : String)
  | integrityError
  | operationalError
  | raised (description : String)
  deriving DecidableEq, Repr

end Yatagarasu
