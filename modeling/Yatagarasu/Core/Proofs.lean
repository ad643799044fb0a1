import Mathlib.Data.List.Basic
import Mathlib.Data.List.Chain
import Mathlib.Data.List.Dedup
import Yatagarasu.Core.Types
import Yatagarasu.Library.Encodings
import Yatagarasu.Library.Decoded

/-! Binding-scoped delivery markers and session-proof correlation. -/

namespace Yatagarasu

open PyJson

/-- A parsed `datetime`: its instant in microseconds, and whether it carries a timezone. -/
structure Datetime where
  instant : Int
  aware : Bool

/-- What the code takes from Python's `datetime` and `hmac` modules and from its floats.
`hmacSha256` is the hexadecimal digest of a text's UTF-8 bytes under a key, and `floatEq` says
whether a float literal equals an integer. -/
class Host where
  fromisoformat : String → Option Datetime
  hmacSha256 : List UInt8 → String → String
  floatEq : String → Int → Bool

def authorityScope : String := "conversation"

def markerSchemaVersion : Int := 1

def promptChain : List String :=
  ["surface.input_sent", "workspace.prompt.submitted", "agent.hook.UserPromptSubmit"]

def completedChain : List String := promptChain ++ ["agent.hook.Stop"]

/-- `value.replace("Z", "+00:00")`. -/
def replaceZ (value : String) : String :=
  String.ofList (value.toList.flatMap fun c => if c = 'Z' then "+00:00".toList else [c])

/-- An aware ISO-8601 timestamp as an instant, accepting the canonical Z suffix. -/
def parseTimestamp [Host] (value : String) : Except PyError Int :=
  match Host.fromisoformat (replaceZ value) with
  | none => .error (.valueError "Invalid isoformat string")
  | some parsed =>
    if parsed.aware then .ok parsed.instant
    else .error (.valueError "timestamp must include a timezone")

/-- `hmac.compare_digest` on two `str` arguments, which must both be ASCII. -/
def compareDigest (a b : String) : Except PyError Bool :=
  if a.toList.all (·.toNat < 128) ∧ b.toList.all (·.toNat < 128) then .ok (a = b)
  else .error .typeError

/-- The core-held signing key and lifetime bound; the constructor refuses an empty key and a
bound that is not positive. -/
structure MarkerAuthority where
  signingKey : List UInt8
  maxLifetimeSeconds : Int
  signingKey_ne : signingKey ≠ []
  maxLifetime_pos : 0 < maxLifetimeSeconds

namespace MarkerAuthority

def maxLifetime (authority : MarkerAuthority) : Int := authority.maxLifetimeSeconds * 1000000

def signPayload (marker : DeliveryMarker) : Json :=
  .obj [("attempt_id", .str marker.attemptId), ("authority_scope", .str marker.authorityScope),
    ("binding_id", .str marker.bindingId), ("delivery_id", .str marker.deliveryId),
    ("event_id", .str marker.eventId), ("expires_at", .str marker.expiresAt),
    ("issued_at", .str marker.issuedAt), ("schema_version", .int marker.schemaVersion)]

def sign [Host] (authority : MarkerAuthority) (marker : DeliveryMarker) : String :=
  Host.hmacSha256 authority.signingKey (PyJson.dumps (signPayload marker))

def mint [Host] (authority : MarkerAuthority) (delivery : Delivery) (issuedAt expiresAt : String) :
    Except PyError DeliveryMarker := do
  match delivery.bindingId with
  | none => throw (.valueError "cannot mint a marker without an authoritative binding")
  | some bindingId =>
    let expires ← parseTimestamp expiresAt
    let issued ← parseTimestamp issuedAt
    if expires - issued ≤ 0 then throw (.valueError "marker expiry must follow issue time")
    if expires - issued > authority.maxLifetime then
      throw (.valueError "marker lifetime exceeds configured maximum")
    let unsigned : DeliveryMarker :=
      { schemaVersion := markerSchemaVersion, eventId := delivery.eventId
        deliveryId := delivery.deliveryId, attemptId := delivery.attemptId, bindingId
        authorityScope := authorityScope, issuedAt, expiresAt, signature := "" }
    return { unsigned with signature := authority.sign unsigned }

/-- The fields a marker must share with the delivery it is presented for. -/
def FieldsMatch (marker : DeliveryMarker) (delivery : Delivery) : Prop :=
  marker.schemaVersion = markerSchemaVersion ∧ marker.eventId = delivery.eventId ∧
    marker.deliveryId = delivery.deliveryId ∧ marker.attemptId = delivery.attemptId ∧
    some marker.bindingId = delivery.bindingId ∧ marker.authorityScope = Yatagarasu.authorityScope

instance (marker : DeliveryMarker) (delivery : Delivery) :
    Decidable (FieldsMatch marker delivery) := by
  unfold FieldsMatch
  infer_instance

/-- Returns the reason for a refusal, or `none`. -/
def validate [Host] (authority : MarkerAuthority) (marker : Untyped DeliveryMarker)
    (delivery : Delivery) (observedAt : String) : Except PyError (Option String) :=
  match marker with
  | .other => .ok (some "marker_shape_invalid")
  | .typed marker =>
    if ¬ FieldsMatch marker delivery then .ok (some "marker_fields_mismatch")
    else match compareDigest marker.signature (authority.sign marker) with
      | .error e => .error e
      | .ok false => .ok (some "marker_signature_invalid")
      | .ok true =>
        match parseTimestamp marker.issuedAt, parseTimestamp marker.expiresAt,
            parseTimestamp observedAt with
        | .ok issued, .ok expires, .ok observed =>
          if expires - issued > authority.maxLifetime then
            .ok (some "marker_lifetime_exceeds_limit")
          else if expires ≤ issued ∨ observed < issued ∨ observed ≥ expires then
            .ok (some "marker_expired_or_not_yet_valid")
          else .ok none
        | _, _, _ => .ok (some "marker_timestamp_invalid")

def encodePayload (marker : DeliveryMarker) : Json :=
  .obj [("attempt_id", .str marker.attemptId), ("authority_scope", .str marker.authorityScope),
    ("binding_id", .str marker.bindingId), ("delivery_id", .str marker.deliveryId),
    ("event_id", .str marker.eventId), ("expires_at", .str marker.expiresAt),
    ("issued_at", .str marker.issuedAt), ("schema_version", .int marker.schemaVersion),
    ("signature", .str marker.signature)]

/-- One bounded, URL-safe token. The JSON text is ASCII, so its bytes are its characters. -/
def encode (marker : DeliveryMarker) : String :=
  "ygr1." ++ String.ofList (Encodings.encode64
    ((PyJson.dumps (encodePayload marker)).toList.map fun c => UInt8.ofNat c.toNat))

def markerFields : List String :=
  ["attempt_id", "authority_scope", "binding_id", "delivery_id", "event_id", "expires_at",
    "issued_at", "schema_version", "signature"]

/-- `isinstance(value, int)`: a Python `bool` is an `int`, and `True` equals 1. -/
def intField (fields : List (String × Json)) (key : String) : Option Int :=
  match fields.lookup key with
  | some (.int n) => some n
  | some (.bool b) => some (if b then 1 else 0)
  | _ => none

def strField (fields : List (String × Json)) (key : String) : Option String :=
  match fields.lookup key with
  | some (.str s) => some s
  | _ => none

def ofFields (fields : List (String × Json)) : Option DeliveryMarker := do
  return {
    schemaVersion := ← intField fields "schema_version"
    eventId := ← strField fields "event_id"
    deliveryId := ← strField fields "delivery_id"
    attemptId := ← strField fields "attempt_id"
    bindingId := ← strField fields "binding_id"
    authorityScope := ← strField fields "authority_scope"
    issuedAt := ← strField fields "issued_at"
    expiresAt := ← strField fields "expires_at"
    signature := ← strField fields "signature" }

/-- The JSON text of an untrusted marker token; `none` stands for the `MarkerError`. -/
def tokenText (token : String) : Option (List PyStr.Point) := do
  let encoded ← if "ygr1.".toList.isPrefixOf token.toList then some (token.toList.drop 5) else none
  if encoded.length = 0 ∨ encoded.length > 4096 then none
  let bytes ← Encodings.decode64 encoded
  Encodings.decodeJsonBytes bytes

/-- Parse an untrusted marker token whose texts hold no surrogates. -/
def decode (token : String) : Option DeliveryMarker := do
  let text ← (tokenText token).bind PyStr.unicode
  match PyJson.loads (String.ofList text) with
  | some (.obj fields) =>
    if (∀ key ∈ fields.map Prod.fst, key ∈ markerFields) ∧
        (∀ key ∈ markerFields, key ∈ fields.map Prod.fst) then ofFields fields
    else none
  | _ => none

end MarkerAuthority

/-- The chain an evidence class must show; `none` for a class that carries no session proof. -/
def expectedNames : EvidenceClass → Option (List String)
  | .harnessPromptAccepted | .harnessTurnStarted => some promptChain
  | .harnessTurnCompleted => some completedChain
  | _ => none

/-- The events of a tuple that holds nothing but source events. -/
def typedEvents : List (Untyped SourceEventRef) → Option (List SourceEventRef)
  | [] => some []
  | .typed event :: rest => (typedEvents rest).map (event :: ·)
  | .other :: _ => none

def SourceEvents.typedTuple : SourceEvents → Option (List SourceEventRef)
  | .tuple events => typedEvents events
  | _ => none

theorem typedEvents_map {events : List SourceEventRef} :
    typedEvents (events.map .typed) = some events := by
  induction events with
  | nil => rfl
  | cons event events ih => simp [typedEvents, ih]

/-- The structural checks on a chain, in the source's order. -/
def validateChain (proof : SessionProof) (delivery : Delivery)
    (registration : ProofMethodRegistration) (marker : DeliveryMarker) (names : List String)
    (events : List SourceEventRef) : Option String :=
  if events.map (·.eventName) ≠ names then some "source_event_chain_wrong_shape"
  else if events.any fun event => event.sourceInstanceId ≠ registration.sourceInstanceId then
    some "source_instance_mismatch"
  else if events.any fun event =>
      event.bootId = "" ∨ event.sourceEventId = "" ∨ event.seq < 0 then
    some "source_event_identity_invalid"
  else if (events.map (·.bootId)).dedup.length ≠ 1 then some "source_boot_changed_within_chain"
  else if (events.map (·.sourceEventId)).dedup.length ≠ events.length then
    some "source_event_repeated_within_chain"
  else if (events.zip events.tail).any fun pair => pair.1.seq ≥ pair.2.seq then
    some "source_event_chain_out_of_order"
  else if (events.drop 1).take 1 |>.any fun prompt =>
      prompt.bindingId ≠ delivery.bindingId ∨ prompt.markerSignature ≠ some marker.signature then
    some "prompt_marker_binding_mismatch"
  else if (events.drop 2).any fun event => event.sessionId ≠ some proof.sessionId then
    some "hook_session_mismatch"
  else none

/-- Validate the assembled bundle without inventing fields on every event. -/
def validateSessionProof [Host] (proof : SessionProof) (delivery : Delivery)
    (evidenceClass : EvidenceClass) (registration : ProofMethodRegistration)
    (markerAuthority : MarkerAuthority) (observedAt : String) : Except PyError (Option String) :=
  if evidenceClass ∉ registration.evidenceClasses then
    .ok (some "evidence_class_not_declared_for_proof_method")
  else if registration.correlationRule ≠ .cmuxHarnessChain then
    .ok (some "proof_correlation_rule_unsupported")
  else if registration.sourceKind ≠ .eventBus then .ok (some "proof_source_kind_mismatch")
  else match markerAuthority.validate proof.marker delivery observedAt, proof.marker with
    | .error e, _ => .error e
    | .ok (some reason), _ => .ok (some reason)
    -- a marker that validates is a `DeliveryMarker`
    | .ok none, .other => .error .attributeError
    | .ok none, .typed marker =>
      match expectedNames evidenceClass with
      | none => .ok (some "evidence_class_not_session_proof")
      | some names =>
        match proof.sourceEvents.typedTuple with
        | none => .ok (some "source_event_chain_shape_invalid")
        | some events => .ok (validateChain proof delivery registration marker names events)

/-- The chain that `validateChain` lets through. -/
structure ChainValid (proof : SessionProof) (delivery : Delivery)
    (registration : ProofMethodRegistration) (marker : DeliveryMarker) (names : List String)
    (events : List SourceEventRef) : Prop where
  names : events.map (·.eventName) = names
  instances : ∀ event ∈ events, event.sourceInstanceId = registration.sourceInstanceId
  identities : ∀ event ∈ events, event.bootId ≠ "" ∧ event.sourceEventId ≠ "" ∧ 0 ≤ event.seq
  oneBoot : (events.map (·.bootId)).dedup.length = 1
  distinct : (events.map (·.sourceEventId)).Nodup
  ordered : events.IsChain fun event later => event.seq < later.seq
  prompt : ∀ prompt ∈ (events.drop 1).take 1, prompt.bindingId = delivery.bindingId ∧
    prompt.markerSignature = some marker.signature
  hooks : ∀ event ∈ events.drop 2, event.sessionId = some proof.sessionId

theorem dedup_length_eq_iff (l : List String) : l.dedup.length = l.length ↔ l.Nodup := by
  constructor
  · intro h
    rw [← (l.dedup_sublist).eq_of_length h]
    exact l.nodup_dedup
  · intro h
    rw [h.dedup]

theorem eq_of_dedup_length_one {l : List String} (h : l.dedup.length = 1) :
    ∃ a, ∀ b ∈ l, b = a := by
  obtain ⟨a, ha⟩ := List.length_eq_one_iff.mp h
  refine ⟨a, fun b hb => ?_⟩
  have hmem : b ∈ l.dedup := List.mem_dedup.mpr hb
  rw [ha] at hmem
  exact List.mem_singleton.mp hmem

theorem isChain_iff_zip {α : Type} {R : α → α → Prop} {l : List α} :
    l.IsChain R ↔ ∀ pair ∈ l.zip l.tail, R pair.1 pair.2 := by
  induction l with
  | nil => simp
  | cons a l ih =>
    cases l with
    | nil => simp
    | cons b l =>
      rw [List.isChain_cons_cons, ih]
      simp

/-- One check of a validator that returns its first reason. -/
theorem check_eq_none {p : Prop} [Decidable p] {reason : String} {rest : Option String} :
    (if p then some reason else rest) = none ↔ ¬ p ∧ rest = none := by
  by_cases hp : p <;> simp [hp]

theorem validateChain_eq_none {proof : SessionProof} {delivery : Delivery}
    {registration : ProofMethodRegistration} {marker : DeliveryMarker} {names : List String}
    {events : List SourceEventRef} :
    validateChain proof delivery registration marker names events = none ↔
      ChainValid proof delivery registration marker names events := by
  have hdistinct : (events.map (·.sourceEventId)).dedup.length = events.length ↔
      (events.map (·.sourceEventId)).Nodup := by
    rw [← dedup_length_eq_iff, List.length_map]
  unfold validateChain
  simp only [check_eq_none, not_not, ne_eq, hdistinct]
  constructor
  · rintro ⟨hnames, hinstances, hidentities, hboot, hnodup, hordered, hprompt, hhooks, -⟩
    exact ⟨hnames, by simpa using hinstances, by simpa [not_or] using hidentities, hboot, hnodup,
      isChain_iff_zip.mpr (by simpa using hordered), by simpa [not_or] using hprompt,
      by simpa using hhooks⟩
  · intro h
    exact ⟨h.names, by simpa using h.instances, by simpa [not_or] using h.identities, h.oneBoot,
      h.distinct, by simpa using isChain_iff_zip.mp h.ordered, by simpa [not_or] using h.prompt,
      by simpa using h.hooks, trivial⟩

/-- The marker that `validate` lets through. -/
structure MarkerValid [Host] (authority : MarkerAuthority) (marker : DeliveryMarker)
    (delivery : Delivery) (observedAt : String) : Prop where
  fields : MarkerAuthority.FieldsMatch marker delivery
  signed : marker.signature = authority.sign marker
  window : ∃ issued expires observed, parseTimestamp marker.issuedAt = .ok issued ∧
    parseTimestamp marker.expiresAt = .ok expires ∧ parseTimestamp observedAt = .ok observed ∧
    expires - issued ≤ authority.maxLifetime ∧ issued ≤ observed ∧ observed < expires

theorem markerValid_of_validate [Host] {authority : MarkerAuthority}
    {marker : Untyped DeliveryMarker} {delivery : Delivery} {observedAt : String}
    (h : authority.validate marker delivery observedAt = .ok none) :
    ∃ m, marker = .typed m ∧ MarkerValid authority m delivery observedAt := by
  unfold MarkerAuthority.validate at h
  split at h
  · cases h
  rename_i m
  split at h
  · cases h
  rename_i hfields
  split at h
  · cases h
  · cases h
  rename_i hdigest
  have hsigned : m.signature = authority.sign m := by
    unfold compareDigest at hdigest
    split at hdigest
    · simpa using hdigest
    · cases hdigest
  split at h
  · rename_i issued expires observed hissued hexpires hobserved
    split at h
    · cases h
    rename_i hlifetime
    split at h
    · cases h
    rename_i hwindow
    refine ⟨m, rfl, not_not.mp hfields, hsigned, issued, expires, observed, hissued, hexpires,
      hobserved, ?_⟩
    simp only [not_or, Int.not_le, Int.not_lt, ge_iff_le, gt_iff_lt] at hlifetime hwindow
    exact ⟨hlifetime, hwindow.2.1, hwindow.2.2⟩
  · cases h

/-- A proof is valid exactly when its registration covers the class, its marker validates and its
chain does. -/
theorem validateSessionProof_eq_ok [Host] {proof : SessionProof} {delivery : Delivery}
    {evidenceClass : EvidenceClass} {registration : ProofMethodRegistration}
    {authority : MarkerAuthority} {observedAt : String} :
    validateSessionProof proof delivery evidenceClass registration authority observedAt =
        .ok none ↔
      (evidenceClass ∈ registration.evidenceClasses ∧
        registration.correlationRule = .cmuxHarnessChain ∧ registration.sourceKind = .eventBus) ∧
      ∃ marker names events, proof.marker = .typed marker ∧
        authority.validate (.typed marker) delivery observedAt = .ok none ∧
        expectedNames evidenceClass = some names ∧ proof.sourceEvents.typedTuple = some events ∧
        ChainValid proof delivery registration marker names events := by
  unfold validateSessionProof
  constructor
  · intro h
    split at h
    · cases h
    rename_i hclass
    split at h
    · cases h
    rename_i hrule
    split at h
    · cases h
    rename_i hkind
    refine ⟨⟨not_not.mp hclass, not_not.mp hrule, not_not.mp hkind⟩, ?_⟩
    split at h
    · cases h
    · cases h
    · cases h
    rename_i marker hvalid hmarker
    split at h
    · cases h
    rename_i names hnames
    split at h
    · cases h
    rename_i events hevents
    rw [hmarker] at hvalid
    exact ⟨marker, names, events, hmarker, hvalid, hnames, hevents,
      validateChain_eq_none.mp (Except.ok.inj h)⟩
  · rintro ⟨⟨hclass, hrule, hkind⟩, marker, names, events, hmarker, hvalid, hnames, hevents, hchain⟩
    simp [hclass, hrule, hkind, hmarker, hvalid, hnames, hevents, validateChain_eq_none.mpr hchain]

def optionStr : Option String → Json
  | some s => .str s
  | none => .null

def sourceEventJson (event : SourceEventRef) : Json :=
  .obj [("binding_id", optionStr event.bindingId), ("boot_id", .str event.bootId),
    ("event_name", .str event.eventName), ("marker_signature", optionStr event.markerSignature),
    ("seq", .int event.seq), ("session_id", optionStr event.sessionId),
    ("source_event_id", .str event.sourceEventId),
    ("source_instance_id", .str event.sourceInstanceId)]

/-- Canonical content-free representation used for exact-chain comparison. -/
def sourceChainJson (events : List SourceEventRef) : String :=
  PyJson.dumps (.arr (events.map sourceEventJson))

theorem sortKeys_optionStr (s : Option String) : sortKeys (optionStr s) = optionStr s := by
  cases s <;> rfl

theorem readable_optionStr (s : Option String) : Readable (optionStr s) := by
  cases s <;> trivial

theorem optionStr_injective {a b : Option String} (h : optionStr a = optionStr b) : a = b := by
  cases a <;> cases b <;> simp_all [optionStr]

theorem sortKeys_sourceEventJson (event : SourceEventRef) :
    sortKeys (sourceEventJson event) = sourceEventJson event := by
  refine sortKeys_obj_of_sorted ?_ ?_
  · simp
  · simp [sortKeys, sortKeys_optionStr]

theorem readable_sourceEventJson (event : SourceEventRef) : Readable (sourceEventJson event) := by
  simp [sourceEventJson, Readable, ReadableFields, readable_optionStr]

theorem sourceEventJson_injective : Function.Injective sourceEventJson := by
  intro a b h
  simp only [sourceEventJson, Json.obj.injEq, List.cons.injEq, Prod.mk.injEq, true_and, and_true,
    Json.str.injEq, Json.int.injEq] at h
  obtain ⟨hbinding, hboot, hname, hsignature, hseq, hsession, hid, hinstance⟩ := h
  have hbinding := optionStr_injective hbinding
  have hsignature := optionStr_injective hsignature
  have hsession := optionStr_injective hsession
  cases a
  cases b
  simp_all

theorem readable_chain (events : List SourceEventRef) :
    Readable (.arr (events.map sourceEventJson)) := by
  induction events with
  | nil => trivial
  | cons event events ih => exact ⟨readable_sourceEventJson event, ih⟩

theorem sortKeys_chain (events : List SourceEventRef) :
    sortKeys (.arr (events.map sourceEventJson)) = .arr (events.map sourceEventJson) := by
  rw [sortKeys, sortItems_of_sorted]
  intro x hx
  obtain ⟨event, -, rfl⟩ := List.mem_map.mp hx
  exact sortKeys_sourceEventJson event

/-- Equal chain texts are equal chains. -/
theorem sourceChainJson_injective : Function.Injective sourceChainJson := by
  intro a b h
  have harr := sortKeys_of_dumps (readable_chain a) (readable_chain b) h
  rw [sortKeys_chain, sortKeys_chain] at harr
  exact List.map_injective_iff.mpr sourceEventJson_injective (Json.arr.inj harr)

/-- The durable columns of a proof. -/
structure ProofFields where
  sessionId : Option String
  markerSignature : Option String
  sourceEventChain : String
  turnId : Option String
  deriving DecidableEq

/-- The chain text of whatever the proof carries; iterating a non-iterable is a `TypeError`, and
reading a field of something that is no event an `AttributeError`. -/
def storedChain : SourceEvents → Except PyError String
  | .tuple events | .list events =>
    match typedEvents events with
    | some events => .ok (sourceChainJson events)
    | none => .error .attributeError
  | .other => .error .typeError

/-- Content-free durable fields for receipt equality and auditability. -/
def proofStorageFields : Option (Untyped SessionProof) → Except PyError ProofFields
  | none => .ok { sessionId := none, markerSignature := none, sourceEventChain := "[]", turnId := none }
  | some .other => .error .attributeError
  | some (.typed proof) =>
    match proof.marker with
    | .other => .error .attributeError
    | .typed marker =>
      match storedChain proof.sourceEvents with
      | .error e => .error e
      | .ok chain =>
        .ok { sessionId := some proof.sessionId, markerSignature := some marker.signature
              sourceEventChain := chain, turnId := proof.turnId }

theorem storedChain_of_typed {chain : SourceEvents} {events : List SourceEventRef}
    (h : chain.typedTuple = some events) :
    storedChain chain = .ok (sourceChainJson events) := by
  cases chain with
  | tuple l =>
    have hl : typedEvents l = some events := h
    simp [storedChain, hl]
  | list l => cases h
  | other => cases h

end Yatagarasu
