import Yatagarasu.Core.Resubmission
import Yatagarasu.Core.TurnEnds

/-! `Admissible` is the whole checklist of the reducer and of the constraints of its transaction, as
facts about the tables. A receipt is accepted exactly when it is on it. -/

namespace Yatagarasu

open Sqlite Program ReceiptReducer

section Validators

variable {authority : Option MarkerAuthority} {t : Tables} {r : Receipt} {d : Delivery}
  {kind : ProviderKind} {next : Transition}

theorem value_of_participantChecked (h : ParticipantChecked t r d) :
    (validateParticipant r d .commsView).value t = some none := by
  obtain ⟨source, hsource, hunseen⟩ := h.source
  obtain ⟨principal, hprincipal, hmatches⟩ := h.principal
  obtain ⟨message, hmessage, hanswers⟩ := h.message
  obtain ⟨hauthored, hinfrastructure⟩ := not_or.mp h.notInfrastructure
  simp [validateParticipant, h.mode, h.state, hauthored, hinfrastructure, hsource, hunseen,
    hprincipal, hmatches, hmessage, hanswers]

/-- The checks of the mode and of the transition, read the other way. -/
theorem value_of_permitted (h : Permitted t r d kind next) :
    (validateMode r d kind).value t = some none ∧
      (transition r d kind).value t = some (.ok next) := by
  cases h with
  | ackSession hclass hmode hstate hdisposition =>
    refine ⟨by simp [validateMode, hclass, participantEvidence], ?_⟩
    simp [transition, ackTransition, hclass, hmode, hstate, hdisposition]
  | ackChannel message hclass hmode hstate hdisposition hmessage hanswers =>
    refine ⟨by simp [validateMode, hclass, participantEvidence], ?_⟩
    simp [transition, ackTransition, hclass, hmode, hstate, hdisposition, hmessage, hanswers]
  | entry hclass hmode hstate hdisposition =>
    rcases hclass with hclass | hclass <;>
      refine ⟨by simp [validateMode, hclass, participantEvidence, hmode], ?_⟩ <;>
      simp [transition, harnessTransition, hclass, hmode, hstate, hdisposition]
  | completed hclass hmode hstate hdisposition =>
    refine ⟨by simp [validateMode, hclass, participantEvidence, hmode], ?_⟩
    have hclaims : ¬ (r.disposition ≠ none ∧ r.disposition ≠ some .completed) := by
      rcases hdisposition with hnone | hcompleted
      · simp [hnone]
      · simp [hcompleted]
    simp [transition, harnessTransition, hclass, hmode, hstate, hclaims]
  | reply hclass hchecked hdisposition =>
    refine ⟨?_, by simp [transition, hclass, hdisposition]⟩
    rw [validateMode, if_pos (by simp [hclass, participantEvidence])]
    exact value_of_participantChecked hchecked
  | reaction hclass hchecked hdisposition =>
    refine ⟨?_, by simp [transition, hclass, hdisposition]⟩
    rw [validateMode, if_pos (by simp [hclass, participantEvidence])]
    exact value_of_participantChecked hchecked

variable [Host] {a : MarkerAuthority} {proof : SessionProof} {binding : SessionBindingRow}
  {registration : ProofMethodRegistration} {events : List SourceEventRef}

omit [Host] in
theorem value_of_closing (hcloses : r.evidenceClass = .harnessTurnCompleted →
      t.sessionEntryChain d.deliveryId = some (sourceChainJson events.dropLast))
    (hsource : ∃ s, present r.sourceEventId = some s ∧
      events.getLast?.map (·.sourceEventId) = some s ∧
        t.sourceSeen r.evidenceProviderId s = false) :
    (validateClosing r d events).value t = some none := by
  obtain ⟨source, hpresent, hlast, hunseen⟩ := hsource
  have haccepted : (closesAccepted r d events).value t = some true := by
    unfold closesAccepted
    split
    · rename_i hclass
      simp [hcloses hclass]
    · rfl
  unfold validateClosing
  rw [value_bind, haccepted]
  simp [hpresent, hlast, hunseen]

theorem value_of_sessionChecked (h : SessionChecked t r d a proof binding registration events) :
    (validateSessionReceipt (some a) r d).value t = some (.ok none) := by
  have hclosing := value_of_closing h.closes h.source
  unfold validateSessionReceipt
  simp only [h.carried, fetch_bind, value_read, h.registered, h.owner, h.method, h.valid, h.chain,
    value_bind, hclosing]
  rfl

end Validators

section Checklist

variable [Host] {authority : Option MarkerAuthority} {t : Tables} {r : Receipt} {d : Delivery}
  {next : Transition} {c : CoreStore}

/-- Everything that is asked of a receipt, of the delivery that it names and of the tables. -/
structure Admissible (authority : Option MarkerAuthority) (t : Tables) (r : Receipt) (d : Delivery)
    (next : Transition) : Prop where
  audited : r.proofMethod ≠ "" ∧ r.observedAt ≠ ""
  unused : ∀ row ∈ t.receipts, row.receiptId ≠ r.receiptId
  delivery : t.getDelivery r.deliveryId = some d
  keys : r.eventId = d.eventId ∧ r.attemptId = d.attemptId ∧ r.bindingId = d.bindingId
  bound : d.bindingId ≠ none
  provider : ∃ provider, t.provider r.evidenceProviderId = some provider ∧
    Permitted t r d provider.kind next
  declares : t.providerDeclares r.evidenceProviderId r.evidenceClass
  session : r.evidenceClass ∈ sessionProofEvidence →
    ∃ a proof binding registration events, authority = some a ∧
      SessionChecked t r d a proof binding registration events
  storable : ∃ fields, proofStorageFields r.proof = .ok fields
  source : ∀ row ∈ t.receipts, row.providerId = r.evidenceProviderId →
    row.sourceEventId.isSome → row.sourceEventId ≠ r.sourceEventId

theorem Admissible.checked (h : Admissible authority t r d next) :
    (validateProof authority r d).value t = some (.ok none) := by
  unfold validateProof
  split
  · rename_i hclass
    obtain ⟨a, proof, binding, registration, events, rfl, hchecked⟩ := h.session hclass
    exact value_of_sessionChecked hchecked
  · rfl

theorem Admissible.presented (h : Admissible authority t r d next) : Presented t r d next := by
  obtain ⟨provider, hprovider, hpermitted⟩ := h.provider
  obtain ⟨hmode, htransition⟩ := value_of_permitted hpermitted
  obtain ⟨hevent, hattempt, hbinding⟩ := h.keys
  refine ⟨?_, h.delivery, ?_, provider, hprovider, h.declares, hmode, htransition⟩
  · exact List.find?_eq_none.mpr fun row hrow => by simpa using h.unused row hrow
  · simp [validateKeys, hevent, hattempt, hbinding]

theorem Admissible.commits (h : Admissible authority t r d next) (hk : Keyed t)
    (haudit : AuditStored t) : ∃ bindingId, Commits t r d bindingId := by
  obtain ⟨bindingId, hbound⟩ := Option.ne_none_iff_exists'.mp h.bound
  obtain ⟨provider, hprovider, -⟩ := h.provider
  obtain ⟨hmem, -⟩ := (getDelivery_eq_some hk).mp h.delivery
  refine ⟨bindingId, hbound, h.unused, h.source, ?_, ?_, fun row hrow hid => ?_⟩
  · exact ⟨provider, List.mem_of_find?_eq_some hprovider, by simpa using List.find?_some hprovider⟩
  · have hle := countP_key_le_one (k := d.deliveryId)
      (p := fun d' : Delivery => decide (d'.deliveryId = d.deliveryId ∧ d'.state = d.state))
      hk.deliveries fun d' hd' => (of_decide_eq_true hd').1
    have hpos : 0 < t.deliveries.countP fun d' =>
        decide (d'.deliveryId = d.deliveryId ∧ d'.state = d.state) :=
      List.countP_pos_iff.mpr ⟨d, hmem, decide_eq_true ⟨rfl, rfl⟩⟩
    exact Nat.le_antisymm hle hpos
  · obtain ⟨receipt, hreceipt, hsame⟩ := haudit row hrow
    exact h.unused receipt hreceipt (hsame.trans hid)

/-- What is on the checklist is accepted, and stored as it is. -/
theorem Admissible.accepts (h : Admissible authority t r d next) (hk : Keyed t)
    (haudit : AuditStored t) :
    ∃ bindingId fields, Accepts authority t r d next bindingId fields := by
  obtain ⟨fields, hfields⟩ := h.storable
  obtain ⟨bindingId, hcommits⟩ := h.commits hk haudit
  have haudited : ¬ (r.proofMethod = "" ∨ r.observedAt = "") := not_or.mpr h.audited
  have hshaped : r.proof ≠ some .other := by
    intro hproof
    rw [hproof] at hfields
    cases hfields
  obtain ⟨checked, hchecked, hadvance⟩ :=
    submit_advance_presented authority haudited hshaped h.presented
  cases hchecked.symm.trans h.checked
  exact ⟨bindingId, fields, hadvance, hfields, hcommits⟩

/-- What a submission on the checklist leaves. -/
structure Admitted (r : Receipt) (d : Delivery) (next : Transition) (t t' : Tables) : Prop where
  stored : ∃ bindingId fields, proofStorageFields r.proof = .ok fields ∧
    t' = accepted t r d next bindingId fields
  delivery : t'.getDelivery r.deliveryId =
    some { d with state := next.1, disposition := next.2 }

theorem Admissible.submitted (h : Admissible authority c.working r d next) (hs : Sound c)
    (haudit : AuditStored c.working) :
    (CoreStore.submit authority r c).1 = .ok (.accepted next.1 next.2) ∧
      Admitted r d next c.working (CoreStore.submit authority r c).2.working := by
  obtain ⟨bindingId, fields, haccepts⟩ := h.accepts hs.keyed haudit
  have hafter : (CoreStore.submit authority r c).2.working =
      accepted c.working r d next bindingId fields := submit_exec_accepted haccepts
  refine ⟨submit_of_accepts haccepts, ⟨bindingId, fields, haccepts.fields, hafter⟩, ?_⟩
  have hkeyed : Keyed (CoreStore.submit authority r c).2.working :=
    (exec_sound (.submit authority r) hs).1.keyed
  obtain ⟨hmem, hid⟩ := (getDelivery_eq_some hs.keyed).mp h.delivery
  rw [hafter] at hkeyed ⊢
  exact (getDelivery_eq_some hkeyed).mpr ⟨(mem_moved hs.keyed hmem).mpr (.inl rfl), hid⟩

/-- What is accepted was on the checklist. -/
theorem admissible_of_accepts {bindingId : String} {fields : ProofFields}
    (h : Accepts authority t r d next bindingId fields) : Admissible authority t r d next := by
  have haccept := h.acceptable
  refine ⟨not_or.mp haccept.audited, h.allowed.receiptId, haccept.delivery, ?_, ?_,
    haccept.permitted, haccept.declares, haccept.session, ⟨fields, h.fields⟩,
    h.allowed.sourceEventId⟩
  · exact keys_eq haccept.keys
  · rw [h.allowed.bound]
    exact Option.some_ne_none _

omit [Host] in
theorem Admitted.auditLog {t' : Tables} (h : Admitted r d next t t') :
    t'.auditLog = t.auditLog ++ [CoreStore.auditRow r d next.1 next.2] := by
  obtain ⟨bindingId, fields, -, rfl⟩ := h.stored
  rfl

end Checklist

/-- In every reachable store a submission is accepted, with this outcome, exactly when the receipt
is on the checklist for it. The delivery that it names then stands where the outcome says. -/
theorem submit_accepts_iff [Host] (ops : List Op) (authority : Option MarkerAuthority) (r : Receipt)
    (next : Transition) :
    let c := run ops CoreStore.empty
    ((CoreStore.submit authority r c).1 = .ok (.accepted next.1 next.2) ↔
      ∃ d, Admissible authority c.working r d next) ∧
    ∀ d, Admissible authority c.working r d next →
      (CoreStore.submit authority r c).2.working.getDelivery r.deliveryId =
        some { d with state := next.1, disposition := next.2 } := by
  intro c
  have hs : Sound c := sound_run ops sound_empty
  have haudit : AuditStored c.working := auditStored_run ops
  refine ⟨⟨fun hanswer => ?_, ?_⟩, fun d h => (h.submitted hs haudit).2.delivery⟩
  · obtain ⟨d, next', bindingId, fields, haccepts⟩ := accepting_of_submit hs.clean hanswer
    have hsame := (submit_of_accepts haccepts).symm.trans hanswer
    simp only [Except.ok.injEq, ReceiptResult.accepted.injEq] at hsame
    obtain rfl : next' = next := Prod.ext hsame.1 hsame.2
    exact ⟨d, admissible_of_accepts haccepts⟩
  · rintro ⟨d, h⟩
    exact (h.submitted hs haudit).1

/-- The acknowledgement of the sample delivery is on the checklist. -/
theorem submit_accepts_iff_sample : ∃ d,
    @Admissible sampleHost (some sampleAuthority) (@run sampleHost sampleSetup CoreStore.empty).working
      sampleAck d (.transportSubmitted, none) ∧
    (@CoreStore.submit sampleHost (some sampleAuthority) sampleAck
      (@run sampleHost sampleSetup CoreStore.empty)).2.working.getDelivery sampleAck.deliveryId =
        some { d with state := .transportSubmitted, disposition := none } := by
  obtain ⟨hiff, hafter⟩ := @submit_accepts_iff sampleHost sampleSetup (some sampleAuthority)
    sampleAck (.transportSubmitted, none)
  have hanswer : (@CoreStore.submit sampleHost (some sampleAuthority) sampleAck
      (@run sampleHost sampleSetup CoreStore.empty)).1 =
        .ok (.accepted .transportSubmitted none) := by decide +kernel
  obtain ⟨d, h⟩ := hiff.mp hanswer
  exact ⟨d, h, hafter d h⟩

end Yatagarasu
