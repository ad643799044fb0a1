import Yatagarasu.Cmux.Deliver
import Yatagarasu.Core.Resubmission
import Yatagarasu.Core.TurnEnds

/-! The result of a `deliver` call becomes a transport acknowledgement or nothing, and an
acknowledgement goes to the reducer. -/

namespace Yatagarasu.Cmux

open ReceiptReducer Program Sqlite FirstSeen

namespace SubmitResult

def proofMethod : String := "cmux.transport.submit_ack"

/-- Translate a proven submit into a receipt, or return `None`. -/
def submitAckReceipt [PyText] (result : SubmitResult) (delivery : Delivery)
    (evidenceProviderId observedAt receiptId : String) (sourceEventId : Option String) :
    Except PyError (Option Receipt) :=
  if result.outcome ≠ .submitted then .ok none
  else if result.deliveryId ≠ delivery.deliveryId then .error (.valueError
    ("submit result is for delivery " ++ PyText.repr result.deliveryId ++
      " but was given delivery " ++ PyText.repr delivery.deliveryId ++
      "; correlating these would attribute one delivery's evidence to another"))
  else if delivery.bindingId = none then .error (.valueError
    ("delivery " ++ PyText.repr delivery.deliveryId ++
      " has no binding; a receipt without a binding cannot be correlated to a session and the" ++
      " reducer would reject it on shape rather than on substance"))
  else .ok (some
    { receiptId, eventId := delivery.eventId, deliveryId := delivery.deliveryId
      attemptId := delivery.attemptId, bindingId := delivery.bindingId, evidenceProviderId
      evidenceClass := .transportSubmitAck, proofMethod, observedAt, sourceEventId })

end SubmitResult

/-- What the caller of `deliver` adds to its result. -/
structure Acknowledgement where
  delivery : Delivery
  evidenceProviderId : String
  observedAt : String
  receiptId : String
  sourceEventId : Option String := none

namespace Acknowledgement

variable [Host] [PyText]

/-- The result of `deliver` through the translation; `none` if one of them raised. -/
def receipt (ack : Acknowledgement) : Except Raised SubmitResult → Option Receipt
  | .error _ => none
  | .ok result =>
    match result.submitAckReceipt ack.delivery ack.evidenceProviderId ack.observedAt
        ack.receiptId ack.sourceEventId with
    | .error _ => none
    | .ok receipt => receipt

/-- The receipt, if there is one, through the reducer. -/
def pass (ack : Acknowledgement) (authority : Option MarkerAuthority)
    (result : Except Raised SubmitResult) (c : CoreStore) :
    Option (Except PyError ReceiptResult) × CoreStore :=
  match ack.receipt result with
  | none => (none, c)
  | some receipt =>
    let (answer, c) := CoreStore.submit authority receipt c
    (some answer, c)

end Acknowledgement

section Evidence

variable {names seen : List String} {call : DeliverCall} {w : Collaborators}

/-- The names as far as the first that completes the pair, or all of them. -/
structure UpTo (names seen : List String) : Prop where
  front : seen <+: names
  ends : BothIn seen ∨ seen = names
  first : ∀ shorter, shorter <+: seen → shorter ≠ seen → ¬ BothIn shorter

theorem bothIn_mono (h : BothIn seen) (hsub : seen ⊆ names) : BothIn names :=
  ⟨hsub h.1, hsub h.2⟩

theorem noteAll_dedup (names : List String) : noteAll [] names = names.eraseDups := by
  rw [noteAll_eq, List.nil_append]
  congr 1
  apply List.filter_eq_self.mpr
  intro name _
  exact decide_eq_true List.not_mem_nil

theorem not_bothIn_nil : ¬ BothIn [] := fun h => List.not_mem_nil h.1

/-- Whatever the loop returns shows each name once, in the order of the first occurrences. -/
theorem awaitProof_events {result : SubmitResult} (h : call.awaitProof w [] w.names = .ok result) :
    result.deliveryId = call.deliveryId ∧ (result.outcome = .submitted ↔ BothIn w.names) ∧
      ∃ seen, UpTo w.names seen ∧ result.sourceEvents = seen.eraseDups := by
  rcases @awaitProof_cases call w [] w.names not_bothIn_nil with
    ⟨before, last, after, hnames, hbefore, hboth, hawait⟩ | ⟨hmissing, hawait⟩
  · rw [bothIn_noteAll] at hbefore hboth
    rw [noteAll_dedup] at hawait
    cases hawait.symm.trans h
    have hfront : before ++ [last] <+: w.names := ⟨after, by simp [hnames]⟩
    refine ⟨rfl, ⟨fun _ => bothIn_mono hboth hfront.subset, fun _ => rfl⟩, _,
      ⟨hfront, .inl hboth, ?_⟩, rfl⟩
    intro shorter hfront hne hshorter
    rcases List.prefix_concat_iff.mp hfront with heq | hbefore'
    · exact hne heq
    · exact hbefore (bothIn_mono hshorter hbefore'.subset)
  · rw [bothIn_noteAll] at hmissing
    cases hobserver : w.observerRaises with
    | some e =>
      rw [hobserver] at hawait
      cases hawait.symm.trans h
    | none =>
      rw [hobserver] at hawait
      cases hawait.symm.trans h
      have hevents : (classifyShortfall call.deliveryId (noteAll [] w.names)).sourceEvents =
          noteAll [] w.names := by
        unfold classifyShortfall
        split
        · rename_i hnone
          exact hnone.symm
        · split <;> rfl
      refine ⟨?_, ⟨fun hsubmitted => ?_, fun hboth => absurd hboth hmissing⟩, w.names,
        ⟨List.prefix_rfl, .inr rfl, ?_⟩, hevents.trans (noteAll_dedup _)⟩
      · unfold classifyShortfall
        split
        · rfl
        · split <;> rfl
      · rcases @shortfall_outcome call w.names with hunknown | ⟨-, hnegative⟩
        · cases hunknown.symm.trans hsubmitted
        · cases hnegative.symm.trans hsubmitted
      · intro shorter hfront _ hshorter
        exact hmissing (bothIn_mono hshorter hfront.subset)

variable [Host] [PyText] {authority : MarkerAuthority}

/-- Minting, rendering, resolution and the transport succeed, and the callback does not object. -/
def Transported (authority : MarkerAuthority) (call : DeliverCall) (w : Collaborators) : Prop :=
  ∃ effect, Reaches authority call w effect ∧ (∀ e, w.effectPending ≠ some (.error e)) ∧
    w.Transports effect.keys

theorem deliver_transported (h : Transported authority call w) :
    (call.deliver authority w).2 = call.awaitProof w [] w.names := by
  obtain ⟨effect, ⟨marker, profile, hmint, henvelope, hresolve, hkeys⟩, hpending, htransports⟩ := h
  have hinject : (call.inject w effect.surface effect.text effect.keys).2 =
      call.awaitProof w [] w.names := by
    unfold DeliverCall.inject
    dsimp only
    rcases @transport_cases call w effect.surface effect.text effect.keys with
      ⟨hok, -⟩ | ⟨e, -, hfails, -⟩
    · rw [hok]
    · exact absurd htransports hfails
  rw [hkeys] at hinject
  unfold DeliverCall.deliver
  simp only [hmint, henvelope, hresolve]
  exact hinject

/-- A call that does not get through its transport submits nothing. -/
theorem not_submitted_of_failed (h : ¬ Transported authority call w) {result : SubmitResult}
    (hresult : (call.deliver authority w).2 = .ok result) : result.outcome ≠ .submitted := by
  have hrefused : ∀ label e, call.refused label e = .ok result → result.outcome ≠ .submitted := by
    intro label e he
    unfold DeliverCall.refused at he
    split at he
    · cases he
      exact fun hsubmitted => by cases hsubmitted
    · cases he
  unfold DeliverCall.deliver at hresult
  split at hresult
  · exact hrefused _ _ hresult
  rename_i marker hmint
  split at hresult
  · exact hrefused _ _ hresult
  rename_i profile text henvelope
  split at hresult
  · dsimp only at hresult
    split at hresult
    · cases hresult
      exact fun hsubmitted => by cases hsubmitted
    · cases hresult
  rename_i surface hresolve
  split at hresult
  · cases hresult
  rename_i hpending
  unfold DeliverCall.inject at hresult
  dsimp only at hresult
  rcases @transport_cases call w surface text profile.submitKeys with
    ⟨-, htransports⟩ | ⟨e, herror, -⟩
  · exact absurd ⟨⟨surface, text, profile.submitKeys⟩, ⟨marker, profile, hmint, henvelope, hresolve,
      rfl⟩, hpending, htransports⟩ h
  · rw [herror] at hresult
    dsimp only at hresult
    split at hresult
    · cases hresult
      exact fun hsubmitted => by cases hsubmitted
    · cases hresult

/-- A submission is what the observer has shown, after everything before it succeeded. -/
theorem submitted_bothIn {result : SubmitResult}
    (hresult : (call.deliver authority w).2 = .ok result)
    (hsubmitted : result.outcome = .submitted) : BothIn w.names := by
  by_cases h : Transported authority call w
  · rw [deliver_transported h] at hresult
    exact (awaitProof_events hresult).2.1.mp hsubmitted
  · exact absurd hsubmitted (not_submitted_of_failed h hresult)

end Evidence

section Receipts

variable [Host] [PyText] {ack : Acknowledgement} {authority : MarkerAuthority}
  {call : DeliverCall} {w : Collaborators} {receipt : Receipt} {t : Tables} {stored : Delivery}
  {c : CoreStore} {bindingId : String}

/-- The receipt of a proven submit. -/
def Acknowledgement.proven (ack : Acknowledgement) : Receipt :=
  { receiptId := ack.receiptId, eventId := ack.delivery.eventId
    deliveryId := ack.delivery.deliveryId, attemptId := ack.delivery.attemptId
    bindingId := ack.delivery.bindingId, evidenceProviderId := ack.evidenceProviderId
    evidenceClass := .transportSubmitAck, proofMethod := SubmitResult.proofMethod
    observedAt := ack.observedAt, sourceEventId := ack.sourceEventId }

omit [Host] in
theorem receipt_eq_some {outcome : Except Raised SubmitResult} :
    ack.receipt outcome = some receipt ↔ receipt = ack.proven ∧ ack.delivery.bindingId ≠ none ∧
      ∃ result, outcome = .ok result ∧ result.outcome = .submitted ∧
        result.deliveryId = ack.delivery.deliveryId := by
  unfold Acknowledgement.receipt SubmitResult.submitAckReceipt
  cases outcome with
  | error e => simp
  | ok result =>
    by_cases hsubmitted : result.outcome = .submitted
    · by_cases hid : result.deliveryId = ack.delivery.deliveryId
      · by_cases hbound : ack.delivery.bindingId = none
        · simp [hsubmitted, hid, hbound]
        · simp [hsubmitted, hid, hbound, Acknowledgement.proven, eq_comm]
      · simp [hsubmitted, hid]
    · simp [hsubmitted]

/-- Without both events there is no receipt, whatever else the call met. -/
theorem receipt_none (h : ¬ BothIn w.names) : ack.receipt (call.deliver authority w).2 = none := by
  rw [Option.eq_none_iff_forall_not_mem]
  intro receipt hreceipt
  obtain ⟨-, -, result, hresult, hsubmitted, -⟩ := receipt_eq_some.mp hreceipt
  exact h (submitted_bothIn hresult hsubmitted)

omit [Host] [PyText] in
/-- The store is ready for the acknowledgement of a delivery that it holds. -/
structure Awaits (t : Tables) (ack : Acknowledgement) (stored : Delivery) : Prop where
  delivery : t.getDelivery ack.delivery.deliveryId = some stored
  same : stored.eventId = ack.delivery.eventId ∧ stored.attemptId = ack.delivery.attemptId ∧
    stored.bindingId = ack.delivery.bindingId
  bound : stored.bindingId ≠ none
  mode : stored.deliveryMode = .sessionBound
  state : stored.state = .dispatching
  transport : (t.provider ack.evidenceProviderId).map (·.kind) = some .sessionTransport
  declares : t.providerDeclares ack.evidenceProviderId .transportSubmitAck
  observed : ack.observedAt ≠ ""
  receiptId : t.receiptRecord ack.receiptId = none
  source : ∀ source, ack.sourceEventId = some source →
    t.sourceSeen ack.evidenceProviderId source = false

omit [Host] [PyText] in
theorem awaits_presented (h : Awaits t ack stored) :
    Presented t ack.proven stored (.transportSubmitted, none) := by
  obtain ⟨provider, hprovider, hkind⟩ := Option.map_eq_some_iff.mp h.transport
  obtain ⟨hevent, hattempt, hbinding⟩ := h.same
  refine ⟨h.receiptId, h.delivery, ?_, provider, hprovider, h.declares, ?_, ?_⟩
  · simp [validateKeys, Acknowledgement.proven, hevent, hattempt, hbinding]
  · simp [validateMode, Acknowledgement.proven, participantEvidence]
  · simp [transition, ackTransition, Acknowledgement.proven, h.state, h.mode, hkind]

omit [Host] [PyText] in
theorem awaits_commits (hk : Keyed t) (haudit : AuditStored t) (h : Awaits t ack stored)
    (hbound : stored.bindingId = some bindingId) : Commits t ack.proven stored bindingId := by
  have hunused : ∀ row ∈ t.receipts, row.receiptId ≠ ack.receiptId := by
    intro row hrow
    simpa using List.find?_eq_none.mp h.receiptId row hrow
  obtain ⟨hmem, -⟩ := (getDelivery_eq_some hk).mp h.delivery
  refine ⟨hbound, hunused, ?_, ?_, ?_, ?_⟩
  · intro row hrow hprovider hgiven hsame
    obtain ⟨source, hsource⟩ := Option.isSome_iff_exists.mp hgiven
    have hunseen := h.source source (hsame.symm.trans hsource)
    refine absurd (List.any_eq_true.mpr ⟨row, hrow, ?_⟩) (Bool.eq_false_iff.mp hunseen)
    exact decide_eq_true ⟨hprovider, hsource⟩
  · obtain ⟨provider, hprovider, -⟩ := Option.map_eq_some_iff.mp h.transport
    have hid : provider.providerId = ack.evidenceProviderId := by
      simpa using List.find?_some hprovider
    exact ⟨provider, List.mem_of_find?_eq_some hprovider, hid⟩
  · have hle := countP_key_le_one (k := stored.deliveryId)
      (p := fun d : Delivery => decide (d.deliveryId = stored.deliveryId ∧ d.state = stored.state))
      hk.deliveries fun d hd => (of_decide_eq_true hd).1
    have hpos : 0 < t.deliveries.countP fun d =>
        decide (d.deliveryId = stored.deliveryId ∧ d.state = stored.state) :=
      List.countP_pos_iff.mpr ⟨stored, hmem, decide_eq_true ⟨rfl, rfl⟩⟩
    exact Nat.le_antisymm hle hpos
  · intro row hrow hid
    obtain ⟨receipt, hreceipt, hsame⟩ := haudit row hrow
    exact hunused receipt hreceipt (hsame.trans hid)

omit [PyText] in
/-- A store that awaits the acknowledgement takes it. -/
theorem awaits_accepted (reducer : Option MarkerAuthority) (hs : Sound c)
    (haudit : AuditStored c.working) (h : Awaits c.working ack stored) :
    (CoreStore.submit reducer ack.proven c).1 = .ok (.accepted .transportSubmitted none) ∧
      (CoreStore.submit reducer ack.proven c).2.working.getDelivery ack.delivery.deliveryId =
        some { stored with state := .transportSubmitted, disposition := none } := by
  obtain ⟨bindingId, hbound⟩ := Option.ne_none_iff_exists'.mp h.bound
  have haudited : ¬ (ack.proven.proofMethod = "" ∨ ack.proven.observedAt = "") := by
    rintro (hmethod | hobserved)
    · simp [Acknowledgement.proven, SubmitResult.proofMethod] at hmethod
    · exact h.observed hobserved
  have hshaped : ack.proven.proof ≠ some .other := by
    intro hproof
    cases hproof
  obtain ⟨checked, hchecked, hadvance⟩ :=
    submit_advance_presented reducer haudited hshaped (awaits_presented h)
  have hnone : checked = .ok none := by
    have hvalue : (validateProof reducer ack.proven stored).value c.working = some (.ok none) := by
      simp [validateProof, Acknowledgement.proven, sessionProofEvidence]
    exact Option.some.inj (hchecked.symm.trans hvalue)
  subst hnone
  obtain ⟨fields, hfields⟩ : ∃ fields, proofStorageFields ack.proven.proof = .ok fields :=
    ⟨_, rfl⟩
  have haccepts : Accepts reducer c.working ack.proven stored (.transportSubmitted, none) bindingId
      fields := ⟨hadvance, hfields, awaits_commits hs.keyed haudit h hbound⟩
  refine ⟨submit_of_accepts haccepts, ?_⟩
  have hafter : (CoreStore.submit reducer ack.proven c).2.working =
      accepted c.working ack.proven stored (.transportSubmitted, none) bindingId fields :=
    submit_exec_accepted haccepts
  have hkeyed := (exec_sound (.submit reducer ack.proven) hs).1.keyed
  have hkeyed : Keyed (CoreStore.submit reducer ack.proven c).2.working := hkeyed
  obtain ⟨hmem, hid⟩ := (getDelivery_eq_some hs.keyed).mp h.delivery
  rw [hafter] at hkeyed ⊢
  exact (getDelivery_eq_some hkeyed).mpr ⟨(mem_moved hs.keyed hmem).mpr (.inl rfl), hid⟩

end Receipts

/-- A call, the translation of its result and the submission of the receipt. -/
def acknowledge [Host] [PyText] (authority : MarkerAuthority) (reducer : Option MarkerAuthority)
    (call : DeliverCall) (w : Collaborators) (ack : Acknowledgement) (c : CoreStore) :
    Option (Except PyError ReceiptResult) × CoreStore :=
  ack.pass reducer (call.deliver authority w).2 c

/-- A delivery leaves `DISPATCHING` on the strength of both host events and of nothing less, and
with both of them it does. -/
theorem acknowledge_iff_both [Host] [PyText] (ops : List Op) (authority : MarkerAuthority)
    (reducer : Option MarkerAuthority) (call : DeliverCall) (w : Collaborators)
    (ack : Acknowledgement) :
    ((∃ deliveryId before after,
        (run ops CoreStore.empty).working.getDelivery deliveryId = some before ∧
        before.state = .dispatching ∧
        (acknowledge authority reducer call w ack (run ops CoreStore.empty)).2.working.getDelivery
          deliveryId = some after ∧ after.state ≠ .dispatching) → BothIn w.names) ∧
    (BothIn w.names → Transported authority call w →
      call.deliveryId = ack.delivery.deliveryId →
      ∀ stored, Awaits (run ops CoreStore.empty).working ack stored →
        (acknowledge authority reducer call w ack (run ops CoreStore.empty)).1 =
          some (.ok (.accepted .transportSubmitted none)) ∧
        (acknowledge authority reducer call w ack (run ops CoreStore.empty)).2.working.getDelivery
          ack.delivery.deliveryId =
            some { stored with state := .transportSubmitted, disposition := none }) ∧
    (¬ BothIn w.names → ack.receipt (call.deliver authority w).2 = none ∧
      acknowledge authority reducer call w ack (run ops CoreStore.empty) =
        (none, run ops CoreStore.empty)) ∧
    ∀ result, (call.deliver authority w).2 = .ok result → Transported authority call w →
      ∃ seen, UpTo w.names seen ∧ result.sourceEvents = seen.eraseDups := by
  have hmissing : ¬ BothIn w.names → ack.receipt (call.deliver authority w).2 = none ∧
      acknowledge authority reducer call w ack (run ops CoreStore.empty) =
        (none, run ops CoreStore.empty) := by
    intro hmissing
    have hnone := @receipt_none _ _ ack authority call w hmissing
    refine ⟨hnone, ?_⟩
    unfold acknowledge Acknowledgement.pass
    rw [hnone]
  refine ⟨?_, ?_, hmissing, ?_⟩
  · rintro ⟨deliveryId, before, after, hbefore, hstate, hafter, hmoved⟩
    by_contra hnot
    rw [(hmissing hnot).2] at hafter
    cases hbefore.symm.trans hafter
    exact hmoved hstate
  · intro hboth htransported hid stored hawaits
    have hdeliver := deliver_transported htransported
    obtain ⟨result, hresult, hsubmitted⟩ : ∃ result, call.awaitProof w [] w.names = .ok result ∧
        result.outcome = .submitted := by
      rcases @await_outcome call w with ⟨-, hok⟩ | ⟨hnot, -⟩ | ⟨hnot, -⟩
      · exact hok
      · exact absurd hboth hnot
      · exact absurd hboth hnot
    have hunbound : ack.delivery.bindingId ≠ none := by
      rw [← hawaits.same.2.2]
      exact hawaits.bound
    have hreceipt : ack.receipt (call.deliver authority w).2 = some ack.proven :=
      receipt_eq_some.mpr ⟨rfl, hunbound, result, hdeliver.trans hresult, hsubmitted,
        (awaitProof_events hresult).1.trans hid⟩
    have hsound := sound_run ops sound_empty
    obtain ⟨haccepted, hafter⟩ :=
      awaits_accepted reducer hsound (auditStored_run ops) hawaits
    unfold acknowledge Acknowledgement.pass
    rw [hreceipt]
    exact ⟨congrArg some haccepted, hafter⟩
  · intro result hresult htransported
    rw [deliver_transported htransported] at hresult
    exact (awaitProof_events hresult).2.2

/-- The receipt of a submit of the sample delivery. -/
def sampleAcknowledgement : Acknowledgement where
  delivery := sampleDelivery
  evidenceProviderId := "cmux"
  receiptId := "receipt-1"
  observedAt := "2026-01-01T00:30:00Z"

theorem awaits_sampleSetup : Awaits (@run sampleHost sampleSetup CoreStore.empty).working
    sampleAcknowledgement { sampleDelivery with state := .dispatching } := by
  constructor <;> first | rfl | decide

theorem transported_sampleCall (names : List String) :
    @Transported sampleHost sampleText sampleAuthority sampleCall
      (sampleCollaborators names none) := by
  obtain ⟨effect, hreaches⟩ := reaches_sampleCall names none
  refine ⟨effect, hreaches, fun e hpending => ?_, rfl, fun _ _ => rfl⟩
  cases hpending

/-- Both events are seen, and the delivery leaves `DISPATCHING`. -/
theorem acknowledge_iff_both_sample :
    (@acknowledge sampleHost sampleText sampleAuthority (some sampleAuthority) sampleCall
      (sampleCollaborators [eventInputSent, eventPromptSubmitted] none) sampleAcknowledgement
      (@run sampleHost sampleSetup CoreStore.empty)).1 =
        some (.ok (.accepted .transportSubmitted none)) ∧
    (@acknowledge sampleHost sampleText sampleAuthority (some sampleAuthority) sampleCall
      (sampleCollaborators [eventInputSent, eventPromptSubmitted] none) sampleAcknowledgement
      (@run sampleHost sampleSetup CoreStore.empty)).2.working.getDelivery "delivery-1" =
        some { sampleDelivery with state := .transportSubmitted, disposition := none } := by
  have hboth : BothIn [eventInputSent, eventPromptSubmitted] := by constructor <;> decide
  exact (@acknowledge_iff_both sampleHost sampleText sampleSetup sampleAuthority
    (some sampleAuthority) sampleCall
    (sampleCollaborators [eventInputSent, eventPromptSubmitted] none) sampleAcknowledgement).2.1
    hboth (transported_sampleCall _) rfl { sampleDelivery with state := .dispatching }
    awaits_sampleSetup

end Yatagarasu.Cmux
