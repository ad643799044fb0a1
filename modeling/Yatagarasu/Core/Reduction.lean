import Yatagarasu.Core.Receipts

/-! `Acceptable` collects what the validators have checked when the reducer goes on to commit, and
`Outcome` is everything that one `submit` can leave behind. -/

namespace Yatagarasu

open Sqlite Program

namespace ReceiptReducer

section Validators

variable {authority : Option MarkerAuthority} {t : Tables} {r : Receipt} {d : Delivery}
  {kind : ProviderKind} {next : Transition}

theorem validateParticipant_readOnly (r : Receipt) (d : Delivery) (kind : ProviderKind) :
    (validateParticipant r d kind).ReadOnly := by
  unfold validateParticipant
  simp only [fetch_bind]
  repeat' first | exact trivial | (intro s; dsimp only) | split

theorem validateMode_readOnly (r : Receipt) (d : Delivery) (kind : ProviderKind) :
    (validateMode r d kind).ReadOnly := by
  unfold validateMode
  split
  · exact validateParticipant_readOnly r d kind
  · split <;> exact trivial

theorem transition_readOnly (r : Receipt) (d : Delivery) (kind : ProviderKind) :
    (transition r d kind).ReadOnly := by
  unfold transition ackTransition
  simp only [fetch_bind]
  repeat' first | exact trivial | (intro s; dsimp only) | split

theorem validateClosing_readOnly (r : Receipt) (d : Delivery) (events : List SourceEventRef) :
    (validateClosing r d events).ReadOnly := by
  have hc : (closesAccepted r d events).ReadOnly := by
    unfold closesAccepted
    split <;> simp
  refine readOnly_bind hc fun closes => ?_
  simp only [fetch_bind]
  repeat' first | exact trivial | (intro s; dsimp only) | split

theorem validateProof_readOnly [Host] (authority : Option MarkerAuthority) (r : Receipt)
    (d : Delivery) : (validateProof authority r d).ReadOnly := by
  unfold validateProof validateSessionReceipt
  simp only [fetch_bind]
  repeat' first
    | exact trivial
    | exact readOnly_bind (validateClosing_readOnly r d _) fun _ => trivial
    | (intro s; dsimp only)
    | split

theorem present_eq_some {text : Option String} {s : String} (h : present text = some s) :
    text = some s := by
  cases text with
  | none => cases h
  | some a =>
    rw [present, Option.filter_eq_some_iff] at h
    exact h.1

/-- Participant evidence that passed: whose it is, and which message it answers. -/
structure ParticipantChecked (t : Tables) (r : Receipt) (d : Delivery) : Prop where
  mode : d.deliveryMode = .channelNative
  state : d.state = .transportSubmitted
  notInfrastructure : ¬ (r.authoredByProvider ∨ r.infrastructureEvent)
  source : ∃ s, present r.sourceEventId = some s ∧ t.sourceSeen r.evidenceProviderId s = false
  principal : ∃ p, present r.platformPrincipalId = some p ∧
    t.principalMatches r.evidenceProviderId p d.recipientId
  message : ∃ m, present r.platformMessageId = some m ∧
    t.messageBindingMatches r.evidenceProviderId m d

theorem participantChecked_of_value (h : (validateParticipant r d kind).value t = some none) :
    kind = .commsView ∧ ParticipantChecked t r d := by
  unfold validateParticipant at h
  simp only [fetch_bind] at h
  split at h
  · cases h
  rename_i hmode
  split at h
  · cases h
  rename_i hkind
  split at h
  · cases h
  rename_i hstate
  split at h
  · cases h
  rename_i hself
  split at h
  · cases h
  rename_i s hs
  simp only [value_read] at h
  split at h
  · cases h
  rename_i hseen
  split at h
  · cases h
  rename_i p hp
  simp only [value_read] at h
  split at h
  · cases h
  rename_i hprincipal
  split at h
  · cases h
  rename_i m hm
  simp only [value_read] at h
  split at h
  · cases h
  rename_i hmessage
  exact ⟨not_not.mp hkind, ⟨not_not.mp hmode, not_not.mp hstate, hself, ⟨s, hs, by simpa using hseen⟩,
    ⟨p, hp, not_not.mp hprincipal⟩, ⟨m, hm, not_not.mp hmessage⟩⟩⟩

/-- The transitions of the reducer, with the evidence that permits each. -/
inductive Permitted (t : Tables) (r : Receipt) (d : Delivery) : ProviderKind → Transition → Prop
  | ackSession : r.evidenceClass = .transportSubmitAck → d.deliveryMode = .sessionBound →
      d.state = .dispatching → r.disposition = none →
      Permitted t r d .sessionTransport (.transportSubmitted, none)
  | ackChannel (message : String) : r.evidenceClass = .transportSubmitAck →
      d.deliveryMode = .channelNative → d.state = .dispatching → r.disposition = none →
      present r.platformMessageId = some message →
      t.messageBindingMatches r.evidenceProviderId message d →
      Permitted t r d .commsView (.transportSubmitted, none)
  | entry : r.evidenceClass = .harnessPromptAccepted ∨ r.evidenceClass = .harnessTurnStarted →
      d.deliveryMode = .sessionBound → d.state = .transportSubmitted → r.disposition = none →
      Permitted t r d .sessionTransport (.inSession, none)
  | completed : r.evidenceClass = .harnessTurnCompleted → d.deliveryMode = .sessionBound →
      d.state = .inSession → r.disposition = none ∨ r.disposition = some .completed →
      Permitted t r d .sessionTransport (.processed, some .completed)
  | reply : r.evidenceClass = .participantReplyAuthored → ParticipantChecked t r d →
      r.disposition = none ∨ r.disposition = some .answered →
      Permitted t r d .commsView (.processed, some .answered)
  | reaction : r.evidenceClass = .participantReactionAuthored → ParticipantChecked t r d →
      r.disposition = some .acknowledged ∨ r.disposition = some .held →
      Permitted t r d .commsView (.processed, r.disposition)

theorem permitted_of_ack (hc : r.evidenceClass = .transportSubmitAck)
    (h : (ackTransition r d kind).value t = some (.ok next)) : Permitted t r d kind next := by
  unfold ackTransition at h
  simp only [fetch_bind] at h
  split at h
  · cases h
  rename_i hstate
  split at h
  · cases h
  rename_i hdisposition
  split at h
  · rename_i hmode
    split at h
    · cases h
    rename_i hkind
    split at h
    · cases h
    rename_i m hm
    simp only [value_read] at h
    split at h
    · cases h
    rename_i hmatch
    cases h
    rw [not_not.mp hkind]
    exact .ackChannel m hc hmode (not_not.mp hstate) (not_not.mp hdisposition) hm
      (not_not.mp hmatch)
  · rename_i hmode
    split at h
    · cases h
    rename_i hkind
    cases h
    rw [not_not.mp hkind]
    refine .ackSession hc ?_ (not_not.mp hstate) (not_not.mp hdisposition)
    cases hd : d.deliveryMode with
    | sessionBound => rfl
    | channelNative => exact (hmode hd).elim

theorem harnessTransition_ok {state : DeliveryState} {allowed : Option Disposition}
    {overclaim : String} {target : Transition}
    (h : harnessTransition r d kind state allowed overclaim target = .ok next) :
    d.deliveryMode = .sessionBound ∧ kind = .sessionTransport ∧ d.state = state ∧
      (r.disposition = none ∨ r.disposition = allowed) ∧ next = target := by
  unfold harnessTransition at h
  split at h
  · cases h
  rename_i hmode
  split at h
  · cases h
  rename_i hkind
  split at h
  · cases h
  rename_i hstate
  split at h
  · cases h
  rename_i hdisposition
  cases h
  refine ⟨not_not.mp hmode, not_not.mp hkind, not_not.mp hstate, ?_, rfl⟩
  by_cases hn : r.disposition = none
  · exact Or.inl hn
  · exact Or.inr (not_not.mp fun ha => hdisposition ⟨hn, ha⟩)

theorem permitted_of_value (hm : (validateMode r d kind).value t = some none)
    (h : (transition r d kind).value t = some (.ok next)) : Permitted t r d kind next := by
  unfold validateMode at hm
  unfold transition at h
  cases hc : r.evidenceClass with
  | transportSubmitAck => rw [hc] at h; exact permitted_of_ack hc h
  | harnessPromptAccepted | harnessTurnStarted =>
    rw [hc] at h
    obtain ⟨hmode, rfl, hstate, hdisposition, rfl⟩ :=
      harnessTransition_ok (Option.some.inj h)
    exact .entry (by simp [hc]) hmode hstate (or_self_iff.mp hdisposition)
  | harnessTurnCompleted =>
    rw [hc] at h
    obtain ⟨hmode, rfl, hstate, hdisposition, rfl⟩ :=
      harnessTransition_ok (Option.some.inj h)
    exact .completed hc hmode hstate hdisposition
  | participantReplyAuthored =>
    rw [if_pos (by simp [hc, participantEvidence])] at hm
    obtain ⟨rfl, hp⟩ := participantChecked_of_value hm
    rw [hc] at h
    dsimp only at h
    split at h
    · rename_i hdisposition
      cases h
      exact .reply hc hp hdisposition
    · cases h
  | participantReactionAuthored =>
    rw [if_pos (by simp [hc, participantEvidence])] at hm
    obtain ⟨rfl, hp⟩ := participantChecked_of_value hm
    rw [hc] at h
    dsimp only at h
    split at h
    · rename_i hdisposition
      cases h
      exact .reaction hc hp hdisposition
    · cases h
  | sessionReplyAuthored | sessionReactionAuthored | sessionDispositionAuthored =>
    rw [hc] at h
    cases h

/-- Harness evidence that passed, with the rows and values that the checks went through. -/
structure SessionChecked [Host] (t : Tables) (r : Receipt) (d : Delivery)
    (authority : MarkerAuthority) (proof : SessionProof) (binding : SessionBindingRow)
    (registration : ProofMethodRegistration) (events : List SourceEventRef) : Prop where
  carried : r.proof = some (.typed proof)
  registered : t.sessionBinding r.bindingId = some binding
  owner : validateBinding r d proof binding = none
  method : t.bindingProofMethod r.bindingId r.proofMethod = some registration
  valid : validateSessionProof proof d r.evidenceClass registration authority r.observedAt =
    .ok none
  chain : proof.sourceEvents.typedTuple = some events
  closes : r.evidenceClass = .harnessTurnCompleted →
    t.sessionEntryChain d.deliveryId = some (sourceChainJson events.dropLast)
  source : ∃ s, present r.sourceEventId = some s ∧
    events.getLast?.map (·.sourceEventId) = some s ∧ t.sourceSeen r.evidenceProviderId s = false

theorem validateClosing_value {events : List SourceEventRef}
    (h : (validateClosing r d events).value t = some none) :
    (r.evidenceClass = .harnessTurnCompleted →
      t.sessionEntryChain d.deliveryId = some (sourceChainJson events.dropLast)) ∧
    ∃ s, present r.sourceEventId = some s ∧ events.getLast?.map (·.sourceEventId) = some s ∧
      t.sourceSeen r.evidenceProviderId s = false := by
  have hc : (closesAccepted r d events).value t = some (decide
      (r.evidenceClass = .harnessTurnCompleted →
        t.sessionEntryChain d.deliveryId = some (sourceChainJson events.dropLast))) := by
    unfold closesAccepted
    split
    · rename_i hc
      simp [hc]
    · rename_i hc
      simp [hc]
  unfold validateClosing at h
  rw [value_bind, hc] at h
  simp only [Option.bind_some, decide_eq_true_eq, fetch_bind] at h
  split at h
  · cases h
  rename_i hclose
  split at h
  · cases h
  rename_i s hs
  split at h
  · cases h
  rename_i hlast
  simp only [value_read] at h
  split at h
  · cases h
  rename_i hseen
  exact ⟨not_not.mp hclose, s, hs, not_not.mp hlast, by simpa using hseen⟩

theorem sessionChecked_of_value [Host]
    (h : (validateSessionReceipt authority r d).value t = some (.ok none)) :
    ∃ a proof binding registration events, authority = some a ∧
      SessionChecked t r d a proof binding registration events := by
  unfold validateSessionReceipt at h
  simp only [fetch_bind] at h
  split at h
  · cases h
  · cases h
  rename_i proof hproof
  split at h
  · cases h
  rename_i a
  simp only [value_read] at h
  split at h
  · cases h
  rename_i binding hbinding
  split at h
  · cases h
  rename_i howner
  simp only [value_read] at h
  split at h
  · cases h
  rename_i registration hmethod
  split at h
  · cases h
  · cases h
  · cases h
  rename_i events hvalid hevents
  rw [value_bind] at h
  obtain ⟨res, hres⟩ := value_of_readOnly (validateClosing_readOnly r d events) t
  rw [hres] at h
  have hnone : res = none := by simpa using h
  rw [hnone] at hres
  obtain ⟨hcloses, hsource⟩ := validateClosing_value hres
  exact ⟨a, proof, binding, registration, events, rfl,
    ⟨hproof, hbinding, howner, hmethod, hvalid, hevents, hcloses, hsource⟩⟩

/-- Everything the reducer knows when it commits. -/
structure Acceptable [Host] (authority : Option MarkerAuthority) (t : Tables) (r : Receipt)
    (d : Delivery) (next : Transition) : Prop where
  audited : ¬ (r.proofMethod = "" ∨ r.observedAt = "")
  shaped : r.proof ≠ some .other
  unused : t.receiptRecord r.receiptId = none
  delivery : t.getDelivery r.deliveryId = some d
  keys : validateKeys r d = none
  declares : t.providerDeclares r.evidenceProviderId r.evidenceClass
  permitted : ∃ provider, t.provider r.evidenceProviderId = some provider ∧
    Permitted t r d provider.kind next
  proof : (validateProof authority r d).value t = some (.ok none)

theorem Acceptable.session [Host] (h : Acceptable authority t r d next)
    (hc : r.evidenceClass ∈ sessionProofEvidence) :
    ∃ a proof binding registration events, authority = some a ∧
      SessionChecked t r d a proof binding registration events := by
  have hp := h.proof
  rw [validateProof, if_pos hc] at hp
  exact sessionChecked_of_value hp

theorem keys_eq (h : validateKeys r d = none) :
    r.eventId = d.eventId ∧ r.attemptId = d.attemptId ∧ r.bindingId = d.bindingId := by
  unfold validateKeys at h
  split at h
  · cases h
  rename_i he
  split at h
  · cases h
  rename_i ha
  split at h
  · cases h
  rename_i hb
  exact ⟨not_not.mp he, not_not.mp ha, not_not.mp hb⟩

/-- What is left of a submission after the reads it makes alone on `t`. -/
inductive Verdict [Host] (authority : Option MarkerAuthority) (t : Tables) (r : Receipt) :
    Reducer (Except PyError ReceiptResult) → Prop
  | commit {d : Delivery} {next : Transition} : Acceptable authority t r d next →
      Verdict authority t r (commitReceipt r d next)
  | reject (reason : String) : Verdict authority t r (reject reason r)
  | raise (e : PyError) : Verdict authority t r (done (.error e))
  | duplicate {row : ReceiptRow} : t.receiptRecord r.receiptId = some row →
      sameReceipt row r = .ok true → Verdict authority t r
        (done (.ok (.duplicate ((t.getDelivery r.deliveryId).map (·.state))
          ((t.getDelivery r.deliveryId).bind (·.disposition)))))
  | contradiction {p : Reducer (Except PyError ReceiptResult)} {row : ReceiptRow} :
      t.receiptRecord r.receiptId = some row → sameReceipt row r = .ok false →
      p = call (.markProviderDegraded r.evidenceProviderId) (fun
        | .error e => done (.error e)
        | .ok _ => reject "receipt_id_contradiction" r) → Verdict authority t r p

theorem submitEvidence_advance [Host] {provider : ProviderRow}
    (haudited : ¬ (r.proofMethod = "" ∨ r.observedAt = "")) (hshaped : r.proof ≠ some .other)
    (hunused : t.receiptRecord r.receiptId = none) (hdelivery : t.getDelivery r.deliveryId = some d)
    (hkeys : validateKeys r d = none) (hprovider : t.provider r.evidenceProviderId = some provider)
    (hdeclares : t.providerDeclares r.evidenceProviderId r.evidenceClass) :
    Verdict authority t r ((submitEvidence authority r d provider.kind).advance t) := by
  unfold submitEvidence
  obtain ⟨mode, hmode⟩ := value_of_readOnly (validateMode_readOnly r d provider.kind) t
  rw [advance_bind_of_value hmode]
  cases mode with
  | some reason => exact .reject reason
  | none =>
    obtain ⟨step, hstep⟩ := value_of_readOnly (transition_readOnly r d provider.kind) t
    rw [advance_bind_of_value hstep]
    cases step with
    | error reason => exact .reject reason
    | ok next =>
      obtain ⟨proof, hproof⟩ := value_of_readOnly (validateProof_readOnly authority r d) t
      rw [advance_bind_of_value hproof]
      match proof, hproof with
      | .error e, _ => exact .raise e
      | .ok (some reason), _ => exact .reject reason
      | .ok none, hproof =>
        exact .commit ⟨haudited, hshaped, hunused, hdelivery, hkeys, hdeclares,
          ⟨provider, hprovider, permitted_of_value hmode hstep⟩, hproof⟩

theorem submitDelivery_advance [Host] (haudited : ¬ (r.proofMethod = "" ∨ r.observedAt = ""))
    (hshaped : r.proof ≠ some .other) (hunused : t.receiptRecord r.receiptId = none)
    (hdelivery : t.getDelivery r.deliveryId = some d) :
    Verdict authority t r ((submitDelivery authority r d).advance t) := by
  unfold submitDelivery
  cases hkeys : validateKeys r d with
  | some reason => exact .reject reason
  | none =>
    rw [fetch_bind, advance_read]
    cases hprovider : t.provider r.evidenceProviderId with
    | none => exact .reject _
    | some provider =>
      dsimp only
      rw [fetch_bind, advance_read]
      split
      · exact .reject _
      · rename_i hdeclares
        exact submitEvidence_advance haudited hshaped hunused hdelivery hkeys hprovider
          (not_not.mp hdeclares)

theorem submitFresh_advance [Host] (haudited : ¬ (r.proofMethod = "" ∨ r.observedAt = ""))
    (hshaped : r.proof ≠ some .other) (hunused : t.receiptRecord r.receiptId = none) :
    Verdict authority t r ((submitFresh authority r).advance t) := by
  unfold submitFresh
  rw [fetch_bind, advance_read]
  cases hdelivery : t.getDelivery r.deliveryId with
  | none => exact .reject _
  | some d => exact submitDelivery_advance haudited hshaped hunused hdelivery

/-- Alone on `t`, a submission comes to exactly one of these. -/
theorem submit_verdict [Host] (authority : Option MarkerAuthority) (t : Tables) (r : Receipt) :
    Verdict authority t r ((submit authority r).advance t) := by
  unfold submit
  split
  · exact .reject _
  rename_i haudited
  split
  · exact .reject _
  rename_i hshaped
  cases hrow : t.receiptRecord r.receiptId with
  | none =>
    have hv : (existingReceiptResult r).value t = some (.ok none) := by
      simp [existingReceiptResult, hrow]
    rw [advance_bind_of_value hv]
    exact submitFresh_advance haudited hshaped hrow
  | some row =>
    cases hsame : sameReceipt row r with
    | error e =>
      have hv : (existingReceiptResult r).value t = some (.error e) := by
        simp [existingReceiptResult, repeatedReceipt, hrow, hsame, Except.map]
      rw [advance_bind_of_value hv]
      exact .raise e
    | ok same =>
      cases same with
      | true =>
        have hv : (existingReceiptResult r).value t = some (.ok (some (.duplicate
            ((t.getDelivery r.deliveryId).map (·.state))
            ((t.getDelivery r.deliveryId).bind (·.disposition))))) := by
          simp [existingReceiptResult, repeatedReceipt, hrow, hsame, Except.map]
        rw [advance_bind_of_value hv]
        exact .duplicate hrow hsame
      | false =>
        refine .contradiction hrow hsame ?_
        unfold existingReceiptResult repeatedReceipt
        simp only [fetch_bind, read_bind, advance_read, hrow, hsame, send_bind, call_bind,
          advance_call]
        refine congrArg _ (funext fun o => ?_)
        cases o with
        | error e => rfl
        | ok u =>
          simp only [reject, send_bind, call_bind]
          refine congrArg _ (funext fun o => ?_)
          cases o <;> rfl

end Validators

section Commit

variable {t t' : Tables} {r : Receipt} {d : Delivery} {next : Transition} {proof : ProofFields}

/-- The guarded update of one delivery's row. -/
def moved (rows : List Delivery) (d : Delivery) (f : Delivery → Delivery) : List Delivery :=
  rows.map fun d' => if d'.deliveryId = d.deliveryId ∧ d'.state = d.state then f d' else d'

/-- The tables after a receipt was committed. -/
def accepted (t : Tables) (r : Receipt) (d : Delivery) (next : Transition) (bindingId : String)
    (proof : ProofFields) : Tables :=
  { t with
    receipts := t.receipts ++ [CoreStore.receiptRow r d bindingId next.2 proof]
    deliveries := moved t.deliveries d fun d' => { d' with state := next.1, disposition := next.2 }
    auditLog := t.auditLog ++ [CoreStore.auditRow r d next.1 next.2] }

/-- The constraints and the guard under which the transaction commits. -/
structure Commits (t : Tables) (r : Receipt) (d : Delivery) (bindingId : String) : Prop where
  bound : d.bindingId = some bindingId
  receiptId : ∀ row ∈ t.receipts, row.receiptId ≠ r.receiptId
  sourceEventId : ∀ row ∈ t.receipts, row.providerId = r.evidenceProviderId →
    row.sourceEventId.isSome → row.sourceEventId ≠ r.sourceEventId
  provider : ∃ row ∈ t.providers, row.providerId = r.evidenceProviderId
  guard : t.deliveries.countP (fun d' => d'.deliveryId = d.deliveryId ∧ d'.state = d.state) = 1
  auditId : ∀ row ∈ t.auditLog, row.receiptId ≠ r.receiptId

theorem acceptBlock_ok : (CoreStore.acceptBlock r d next.1 next.2 proof).run t = .ok ((), t') ↔
    ∃ bindingId, Commits t r d bindingId ∧ accepted t r d next bindingId proof = t' := by
  unfold CoreStore.acceptBlock
  cases hb : d.bindingId with
  | none =>
    constructor
    · intro h
      cases h
    · rintro ⟨b, h, -⟩
      cases hb.symm.trans h.bound
  | some bindingId =>
    simp only [block_bind_ok, insert_ok, Tables.insertReceipt_eq_some]
    constructor
    · rintro ⟨_, m, ⟨⟨hid, hsource, hprovider, -⟩, rfl⟩, changed, m', hmod, h⟩
      cases hmod
      split at h
      · cases h
      rename_i hguard
      rw [insert_ok, Tables.insertAudit_eq_some] at h
      obtain ⟨⟨haudit, -⟩, rfl⟩ := h
      refine ⟨bindingId, ⟨hb, hid, hsource, hprovider, not_not.mp hguard, haudit⟩, ?_⟩
      simp [accepted, moved, Tables.updateDelivery]
    · rintro ⟨b, h, rfl⟩
      obtain rfl : bindingId = b := Option.some.inj (hb.symm.trans h.bound)
      have hone : 0 < t.deliveries.countP
          (fun d' => d'.deliveryId = d.deliveryId ∧ d'.state = d.state) := by
        rw [h.guard]
        exact Nat.one_pos
      obtain ⟨d', hd', hkey⟩ := List.countP_pos_iff.mp hone
      have hkey : d'.deliveryId = d.deliveryId ∧ d'.state = d.state := by simpa using hkey
      refine ⟨(), _, ⟨⟨h.receiptId, h.sourceEventId, h.provider, d', hd', hkey.1⟩, rfl⟩, 1,
        { t with
          receipts := (accepted t r d next bindingId proof).receipts
          deliveries := (accepted t r d next bindingId proof).deliveries }, ?_, ?_⟩
      · refine congrArg Except.ok (Prod.ext h.guard ?_)
        simp [accepted, moved, Tables.updateDelivery]
      · rw [if_neg (by simp), insert_ok, Tables.insertAudit_eq_some]
        refine ⟨⟨h.auditId, ⟨_, List.mem_append_right _ (List.mem_singleton_self _), rfl⟩, ?_⟩, rfl⟩
        refine ⟨_, List.mem_map_of_mem hd', ?_⟩
        rw [if_pos hkey]
        exact hkey.1

end Commit

section Outcome

variable {authority : Option MarkerAuthority} {t : Tables} {r : Receipt} {c c' : CoreStore}

def withRejection (t : Tables) (r : Receipt) (reason : String) : Tables :=
  { t with receiptRejections := t.receiptRejections ++ [CoreStore.rejectionRow r reason] }

def withDegraded (t : Tables) (providerId : String) : Tables :=
  { t with providers := t.providers.map fun row =>
      if row.providerId = providerId then { row with health := .degraded } else row }

/-- The result of one submission and the tables it leaves. -/
inductive Outcome [Host] (authority : Option MarkerAuthority) (t : Tables) (r : Receipt) :
    Except PyError ReceiptResult → Tables → Prop
  | accepted {d : Delivery} {next : Transition} {bindingId : String} {proof : ProofFields} :
      Acceptable authority t r d next → proofStorageFields r.proof = .ok proof →
      Commits t r d bindingId → Outcome authority t r (.ok (.accepted next.1 next.2))
        (accepted t r d next bindingId proof)
  | duplicate {row : ReceiptRow} : t.receiptRecord r.receiptId = some row →
      sameReceipt row r = .ok true → Outcome authority t r
        (.ok (.duplicate ((t.getDelivery r.deliveryId).map (·.state))
          ((t.getDelivery r.deliveryId).bind (·.disposition)))) t
  | rejected (reason : String) :
      Outcome authority t r (.ok (.rejected reason)) (withRejection t r reason)
  | contradiction {row : ReceiptRow} : t.receiptRecord r.receiptId = some row →
      sameReceipt row r = .ok false →
      Outcome authority t r (.ok (.rejected "receipt_id_contradiction"))
        (withRejection (withDegraded t r.evidenceProviderId) r "receipt_id_contradiction")
  | raised (e : PyError) : Outcome authority t r (.error e) t

abbrev runOn (p : Reducer (Except PyError ReceiptResult)) (c : CoreStore) :=
  p.run Connection.working (fun i c => i.method.exec c) c

theorem reject_run (reason : String) (r : Receipt) (c : CoreStore) :
    ∃ c', runOn (reject reason r) c = (.ok (.rejected reason), c') ∧ Clean c' ∧
      c'.working = withRejection c.working r reason :=
  ⟨_, rfl, rfl, rfl⟩

theorem recover_advance (h : t.receiptRecord r.receiptId = none) :
    ∃ reason, (recoverIntegrityCollision r).advance t = reject reason r := by
  have hv : (existingReceiptResult r).value t = some (.ok none) := by
    simp [existingReceiptResult, h]
  have hs : ∃ seen, (sourceReplayed r).value t = some seen := by
    unfold sourceReplayed
    split <;> exact ⟨_, rfl⟩
  obtain ⟨seen, hs⟩ := hs
  unfold recoverIntegrityCollision
  rw [advance_bind_of_value hv]
  dsimp only
  rw [advance_bind_of_value hs]
  simp only [fetch_bind]
  split
  · exact ⟨_, rfl⟩
  · rw [advance_read]
    split
    · exact ⟨_, rfl⟩
    · rw [advance_read]
      split <;> exact ⟨_, rfl⟩

theorem reject_outcome [Host] {res : Except PyError ReceiptResult} {reason : String}
    (h : runOn (reject reason r) c = (res, c')) :
    Clean c' ∧ Outcome authority c.working r res c'.working := by
  obtain ⟨c₁, hrun, hc₁, hw⟩ := reject_run reason r c
  obtain ⟨rfl, rfl⟩ := Prod.mk.inj (hrun.symm.trans h)
  exact ⟨hc₁, hw ▸ .rejected reason⟩

/-- The transaction is in, or the connection is back where it was. -/
theorem acceptReceipt_exec {d : Delivery} {next : Transition} {res : Except PyError Unit}
    (hc : Clean c)
    (h : (StoreCall.acceptReceipt r d next.1 next.2).method.exec c = (res, c')) :
    Clean c' ∧ ((∃ bindingId proof, proofStorageFields r.proof = .ok proof ∧
        Commits c.working r d bindingId ∧ res = .ok () ∧
        c'.working = accepted c.working r d next bindingId proof) ∨
      (∃ e, res = .error e ∧ c'.working = c.working)) := by
  simp only [StoreCall.method] at h
  cases hf : proofStorageFields r.proof with
  | error e =>
    rw [hf] at h
    cases h
    exact ⟨hc, Or.inr ⟨e, rfl, rfl⟩⟩
  | ok proof =>
    rw [hf] at h
    obtain ⟨hc', ⟨_, hb, hres⟩ | ⟨e, -, hres, hw⟩⟩ := withConnection_cases hc h
    · obtain ⟨bindingId, hcommit, hw⟩ := acceptBlock_ok.mp hb
      exact ⟨hc', Or.inl ⟨bindingId, proof, rfl, hcommit, hres, hw.symm⟩⟩
    · exact ⟨hc', Or.inr ⟨e, hres, hw⟩⟩

theorem commit_outcome [Host] {d : Delivery} {next : Transition}
    {res : Except PyError ReceiptResult} (hc : Clean c)
    (ha : Acceptable authority c.working r d next)
    (h : runOn (commitReceipt r d next) c = (res, c')) :
    Clean c' ∧ Outcome authority c.working r res c'.working := by
  unfold commitReceipt at h
  rw [send_bind] at h
  obtain ⟨o, c₁, hexec⟩ : ∃ o c₁,
      (StoreCall.acceptReceipt r d next.1 next.2).method.exec c = (o, c₁) := ⟨_, _, rfl⟩
  simp only [runOn, Program.run, hexec] at h
  obtain ⟨hc₁, ⟨bindingId, proof, hf, hcommit, rfl, hw⟩ | ⟨e, rfl, hw⟩⟩ :=
    acceptReceipt_exec hc hexec
  · obtain ⟨rfl, rfl⟩ := Prod.mk.inj h
    exact ⟨hc₁, hw ▸ .accepted ha hf hcommit⟩
  · -- the transaction rolled back, so what follows starts from the same tables
    rw [← hw] at ha ⊢
    split at h
    · rename_i hok
      cases hok
    · exact reject_outcome h
    · obtain ⟨reason, hadv⟩ := recover_advance ha.unused
      rw [← run_advance, hadv] at h
      exact reject_outcome h
    · obtain ⟨rfl, rfl⟩ := Prod.mk.inj h
      exact ⟨hc₁, .raised _⟩

/-- One submission on a clean connection: it leaves a clean one, and one of the outcomes. -/
theorem submit_outcome [Host] {res : Except PyError ReceiptResult} (hc : Clean c)
    (h : CoreStore.submit authority r c = (res, c')) :
    Clean c' ∧ Outcome authority c.working r res c'.working := by
  unfold CoreStore.submit at h
  rw [← run_advance] at h
  have hv := submit_verdict authority c.working r
  generalize (submit authority r).advance c.working = p at h hv
  cases hv with
  | commit ha => exact commit_outcome hc ha h
  | reject reason => exact reject_outcome h
  | raise e =>
    obtain ⟨rfl, rfl⟩ := Prod.mk.inj h
    exact ⟨hc, .raised e⟩
  | duplicate hrow hsame =>
    obtain ⟨rfl, rfl⟩ := Prod.mk.inj h
    exact ⟨hc, .duplicate hrow hsame⟩
  | contradiction hrow hsame hp =>
    subst hp
    obtain ⟨rfl, rfl⟩ := Prod.mk.inj h
    exact ⟨rfl, .contradiction hrow hsame⟩

end Outcome

end ReceiptReducer

end Yatagarasu
