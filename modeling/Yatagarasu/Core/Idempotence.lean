import Yatagarasu.Core.AuditReplay

/-! Idempotent acceptance and inert rejection. -/

namespace Yatagarasu

open ReceiptReducer Program Sqlite

section Same

variable {t t' : Tables} {r : Receipt} {d : Delivery} {kind : ProviderKind} {next : Transition}

/-- The disposition stored for an accepted receipt is the one a resubmission compares with. -/
theorem canonicalDisposition_eq (h : Permitted t r d kind next) :
    canonicalDisposition r = next.2 := by
  cases h with
  | ackSession hc _ _ hd => simp [canonicalDisposition, hd, hc]
  | ackChannel _ hc _ _ hd => simp [canonicalDisposition, hd, hc]
  | entry hc _ _ hd => rcases hc with hc | hc <;> simp [canonicalDisposition, hd, hc]
  | completed hc _ _ hd => rcases hd with hd | hd <;> simp [canonicalDisposition, hd, hc]
  | reply hc _ hd => rcases hd with hd | hd <;> simp [canonicalDisposition, hd, hc]
  | reaction hc _ hd => rcases hd with hd | hd <;> simp [canonicalDisposition, hd]

theorem sameReceipt_accepted [Host] {authority : Option MarkerAuthority} {bindingId : String}
    {proof : ProofFields} (ha : Acceptable authority t r d next)
    (hid : d.deliveryId = r.deliveryId) (hb : d.bindingId = some bindingId)
    (hf : proofStorageFields r.proof = .ok proof) :
    sameReceipt (CoreStore.receiptRow r d bindingId next.2 proof) r = .ok true := by
  obtain ⟨hevent, hattempt, hbinding⟩ := keys_eq ha.keys
  obtain ⟨provider, -, hpermitted⟩ := ha.permitted
  have hdisposition := canonicalDisposition_eq hpermitted
  simp [sameReceipt, hf, SameColumns, CoreStore.receiptRow, hevent, hattempt, hbinding, hb, hid,
    hdisposition]

/-- A stored receipt that is submitted again only reads. -/
theorem submit_value_existing [Host] (authority : Option MarkerAuthority)
    (haudited : ¬ (r.proofMethod = "" ∨ r.observedAt = "")) (hshaped : r.proof ≠ some .other)
    {row : ReceiptRow} (hrow : t.receiptRecord r.receiptId = some row)
    (hsame : sameReceipt row r = .ok true) :
    (submit authority r).value t =
      some (.ok (.duplicate ((t.getDelivery r.deliveryId).map (·.state))
        ((t.getDelivery r.deliveryId).bind (·.disposition)))) := by
  unfold submit
  rw [if_neg haudited, if_neg hshaped, value_bind]
  simp [existingReceiptResult, repeatedReceipt, hrow, hsame, Except.map]

end Same

section Persist

variable [Host] {P : Delivery → Prop} {t t' : Tables} {op : Op}

theorem receipts_prefix (h : Change P t op t') : t.receipts <+: t'.receipts := by
  cases h with
  | grows h => exact h.receipts ▸ List.prefix_rfl
  | dispatched => exact List.prefix_rfl
  | accepted => exact List.prefix_append _ _

theorem receiptRecord_persists (h : Change P t op t') {receiptId : String} {row : ReceiptRow}
    (hrow : t.receiptRecord receiptId = some row) : t'.receiptRecord receiptId = some row := by
  obtain ⟨rest, hrest⟩ := receipts_prefix h
  unfold Tables.receiptRecord at hrow ⊢
  rw [← hrest, List.find?_append, hrow, Option.some_or]

theorem receiptRecord_run {c : CoreStore} (hs : Sound c) {receiptId : String} {row : ReceiptRow}
    (hrow : c.working.receiptRecord receiptId = some row) (ops : List Op) :
    (run ops c).working.receiptRecord receiptId = some row := by
  induction ops generalizing c with
  | nil => exact hrow
  | cons op ops ih =>
    obtain ⟨hs', hchange⟩ := exec_sound op hs
    exact ih hs' (receiptRecord_persists hchange hrow)

end Persist

section Main

variable [Host] {c c' : CoreStore} {authority : Option MarkerAuthority} {r : Receipt}

/-- Once accepted, a receipt is a duplicate after every further run, and changes nothing. -/
theorem resubmission_duplicate (hs : Sound c) {state : DeliveryState}
    {disposition : Option Disposition}
    (h : CoreStore.submit authority r c = (.ok (.accepted state disposition), c'))
    (later : List Op) (authority' : Option MarkerAuthority) :
    ∃ d, (run later c').working.getDelivery r.deliveryId = some d ∧
      CoreStore.submit authority' r (run later c') =
        (.ok (.duplicate (some d.state) d.disposition), run later c') := by
  obtain ⟨hc', ho⟩ := submit_outcome hs.clean h
  have hs' : Sound c' := by
    have hexec : Op.exec (.submit authority r) c = c' := congrArg Prod.snd h
    exact hexec ▸ (exec_sound _ hs).1
  generalize ht : c'.working = t' at ho
  cases ho with
  | @accepted d next bindingId proof ha hf hcommit =>
    obtain ⟨hd, hid⟩ := (getDelivery_eq_some hs.keyed).mp ha.delivery
    have hmoved : { d with state := next.1, disposition := next.2 } ∈ c'.working.deliveries := by
      rw [ht]
      exact (mem_moved hs.keyed hd).mpr (Or.inl rfl)
    have hrow : c'.working.receiptRecord r.receiptId =
        some (CoreStore.receiptRow r d bindingId next.2 proof) := by
      have hnone : c.working.receipts.find? (·.receiptId = r.receiptId) = none := ha.unused
      rw [ht]
      simp [Tables.receiptRecord, accepted, List.find?_append, hnone, CoreStore.receiptRow]
    obtain ⟨last, hlast, hlastId, -⟩ := advances_run hs' hmoved later
    have hdelivery : (run later c').working.getDelivery r.deliveryId = some last :=
      (getDelivery_eq_some (sound_run later hs').keyed).mpr ⟨hlast, hlastId.trans hid⟩
    have hvalue := submit_value_existing authority' ha.audited ha.shaped
      (receiptRecord_run hs' hrow later) (sameReceipt_accepted ha hid hcommit.bound hf)
    rw [hdelivery] at hvalue
    exact ⟨last, hdelivery, run_of_value hvalue⟩

/-- A rejected or repeated submission is inert: at most one row for the audit of rejections, and
the provider's health when it contradicts itself. -/
theorem refusal_inert (hs : Sound c) {res : ReceiptResult}
    (h : CoreStore.submit authority r c = (.ok res, c')) :
    (∀ state disposition, res = .duplicate state disposition → c'.working = c.working) ∧
    (∀ reason, res = .rejected reason →
      c'.working = withRejection c.working r reason ∨
      (reason = "receipt_id_contradiction" ∧
        c'.working = withRejection (withDegraded c.working r.evidenceProviderId) r reason)) := by
  obtain ⟨-, ho⟩ := submit_outcome hs.clean h
  generalize c'.working = t' at ho
  cases ho with
  | accepted => exact ⟨by simp, by simp⟩
  | duplicate => exact ⟨by simp, by simp⟩
  | rejected reason =>
    refine ⟨by simp, fun reason' heq => Or.inl ?_⟩
    cases heq
    rfl
  | contradiction =>
    refine ⟨by simp, fun reason' heq => Or.inr ?_⟩
    cases heq
    exact ⟨rfl, rfl⟩

/-- Idempotent acceptance and inert rejection, from every reachable store. -/
theorem submit_idempotent (ops : List Op) {res : ReceiptResult}
    (h : CoreStore.submit authority r (run ops CoreStore.empty) = (.ok res, c')) :
    (∀ state disposition, res = .accepted state disposition →
      ∀ (later : List Op) (authority' : Option MarkerAuthority), ∃ d,
        (run later c').working.getDelivery r.deliveryId = some d ∧
        CoreStore.submit authority' r (run later c') =
          (.ok (.duplicate (some d.state) d.disposition), run later c')) ∧
    (∀ state disposition, res = .duplicate state disposition →
      c'.working = (run ops CoreStore.empty).working) ∧
    (∀ reason, res = .rejected reason →
      c'.working = withRejection (run ops CoreStore.empty).working r reason ∨
      (reason = "receipt_id_contradiction" ∧ c'.working =
        withRejection (withDegraded (run ops CoreStore.empty).working r.evidenceProviderId) r
          reason)) := by
  have hs := sound_run ops sound_empty
  refine ⟨?_, refusal_inert hs h⟩
  intro state disposition hres later authority'
  exact resubmission_duplicate hs (hres ▸ h) later authority'

end Main

/-- The acknowledgement of the sample run, accepted and then repeated after the prompt. -/
theorem submit_idempotent_sample :
    (@CoreStore.submit sampleHost none sampleAck (@run sampleHost sampleSetup CoreStore.empty)).1 =
      .ok (.accepted .transportSubmitted none) ∧
    ∃ d, (@run sampleHost [.submit (some sampleAuthority) sampleEntry] (@CoreStore.submit sampleHost
        none sampleAck (@run sampleHost sampleSetup CoreStore.empty)).2).working.getDelivery
        "delivery-1" = some d ∧
      (@CoreStore.submit sampleHost none sampleAck (@run sampleHost
        [.submit (some sampleAuthority) sampleEntry] (@CoreStore.submit sampleHost none sampleAck
          (@run sampleHost sampleSetup CoreStore.empty)).2)).1 =
        .ok (.duplicate (some d.state) d.disposition) := by
  have hres : (@CoreStore.submit sampleHost none sampleAck
      (@run sampleHost sampleSetup CoreStore.empty)).1 =
      .ok (.accepted .transportSubmitted none) := by decide +kernel
  obtain ⟨d, hd, hdup⟩ := (@submit_idempotent sampleHost _ none sampleAck sampleSetup _
    (Prod.ext hres rfl)).1 _ _ rfl [.submit (some sampleAuthority) sampleEntry] none
  exact ⟨hres, d, hd, congrArg Prod.fst hdup⟩

end Yatagarasu
