import Yatagarasu.Core.Concurrent
import Yatagarasu.Core.Idempotence

/-! A session transport submits the same receipts over and over, always in the order in which they
were made. Once submitted, a receipt is never accepted again, whatever the first verdict was. -/

namespace Yatagarasu

open ReceiptReducer Program Sqlite

/-- A stored receipt makes the same claim. -/
def Stored (t : Tables) (r : Receipt) : Prop :=
  ∃ row, t.receiptRecord r.receiptId = some row ∧ sameReceipt row r = .ok true

/-- The source events that a receipt's proof shows. -/
def Receipt.chain (r : Receipt) : Option (List SourceEventRef) :=
  match r.proof with
  | some (.typed proof) => proof.sourceEvents.typedTuple
  | _ => none

/-- The chain of `r` goes on where the chain of `entry` ends. -/
def Receipt.Extends (r entry : Receipt) : Prop :=
  ∃ events, r.chain = some events ∧ entry.chain = some events.dropLast

section Verdicts

variable [Host] {authority : Option MarkerAuthority} {t u : Tables} {r entry : Receipt}
  {d : Delivery} {next : Transition} {bindingId : String} {proof : ProofFields}
  {c c' : CoreStore} {res : ReceiptResult}

theorem Stored.not_accepting (h : Stored t r) : ¬ Accepting authority t r := by
  rintro ⟨d, next, bindingId, proof, haccepts⟩
  obtain ⟨row, hrow, -⟩ := h
  cases hrow.symm.trans haccepts.acceptable.unused

omit [Host] in
theorem Stored.later (h : Stored t r) (hlater : Later t u) : Stored u r := by
  obtain ⟨row, hrow, hsame⟩ := h
  exact ⟨row, hlater.receiptRecord_some hrow, hsame⟩

theorem stored_of_accepts (hk : Keyed t) (h : Accepts authority t r d next bindingId proof) :
    Stored (accepted t r d next bindingId proof) r := by
  have ha := h.acceptable
  obtain ⟨-, hid⟩ := (getDelivery_eq_some hk).mp ha.delivery
  refine ⟨_, ?_, sameReceipt_accepted ha hid h.allowed.bound h.fields⟩
  have hnone : t.receipts.find? (·.receiptId = r.receiptId) = none := ha.unused
  simp [Tables.receiptRecord, accepted, List.find?_append, hnone, CoreStore.receiptRow]

theorem later_of_accepts (hk : Keyed t) (h : Accepts authority t r d next bindingId proof) :
    Later t (accepted t r d next bindingId proof) := by
  obtain ⟨hd, -⟩ := (getDelivery_eq_some hk).mp h.acceptable.delivery
  obtain ⟨provider, -, hpermitted⟩ := h.acceptable.permitted
  exact later_accepted hk hd (permitted_step hpermitted).rank_lt.2

theorem submit_of_accepts (h : Accepts authority c.working r d next bindingId proof) :
    (CoreStore.submit authority r c).1 = .ok (.accepted next.1 next.2) := by
  obtain ⟨next', hcall, hok, -⟩ := commitReceipt_cases r d next
  rw [CoreStore.submit, ← run_advance, h.commits, hcall]
  simp only [Program.run, acceptReceipt_ok h.fields h.allowed, hok]

/-- Only a submission that the tables accept is answered so. -/
theorem accepting_of_submit (hc : Clean c) {state : DeliveryState}
    {disposition : Option Disposition}
    (h : (CoreStore.submit authority r c).1 = .ok (.accepted state disposition)) :
    Accepting authority c.working r := by
  rw [CoreStore.submit, ← run_advance] at h
  rcases verdict_cases (submit_verdict authority c.working r) with ⟨d, step, heq, -⟩ | hinert
  · obtain ⟨next, hcall, -, herror⟩ := commitReceipt_cases r d step
    obtain ⟨res, c₁, hexec⟩ : ∃ res c₁,
        (StoreCall.acceptReceipt r d step.1 step.2).method.exec c = (res, c₁) := ⟨_, _, rfl⟩
    obtain ⟨-, ⟨b, proof, hf, hcommit, -⟩ | ⟨e, rfl, -⟩⟩ := acceptReceipt_exec hc hexec
    · exact ⟨d, step, b, proof, heq, hf, hcommit⟩
    · rw [heq, hcall] at h
      simp only [Program.run, hexec] at h
      exact absurd h (run_of_always (herror e) _ _)
  · exact absurd h (run_of_always hinert state disposition)

/-- A stored receipt is a duplicate, and nothing is written. -/
theorem submit_of_stored (haudited : ¬ (r.proofMethod = "" ∨ r.observedAt = ""))
    (hshaped : r.proof ≠ some .other) (h : Stored c.working r) :
    ∃ state disposition,
      CoreStore.submit authority r c = (.ok (.duplicate state disposition), c) := by
  obtain ⟨row, hrow, hsame⟩ := h
  exact ⟨_, _, run_of_value (submit_value_existing authority haudited hshaped hrow hsame)⟩

/-- A submission that is neither accepted nor stored can only be rejected. -/
theorem rejected_of_submit (hc : Clean c) (hnew : ¬ Stored c.working r)
    (hspent : ¬ Accepting authority c.working r)
    (h : (CoreStore.submit authority r c).1 = .ok res) : ∃ reason, res = .rejected reason := by
  obtain ⟨-, ho⟩ := submit_outcome hc (Prod.ext h rfl : CoreStore.submit authority r c =
    (.ok res, (CoreStore.submit authority r c).2))
  generalize (CoreStore.submit authority r c).2.working = t' at ho
  cases ho with
  | accepted => exact absurd (accepting_of_submit hc h) hspent
  | duplicate hrow hsame => exact absurd ⟨_, hrow, hsame⟩ hnew
  | rejected reason => exact ⟨reason, rfl⟩
  | contradiction => exact ⟨_, rfl⟩

omit [Host] in
theorem stored_of_view (h : view t = view u) (hstored : Stored t r) : Stored u r := by
  obtain ⟨row, hrow, hsame⟩ := hstored
  exact ⟨row, (congrArg (·.receiptRecord r.receiptId) h.symm).trans hrow, hsame⟩

/-- After an answer, the receipt is stored unless it was rejected. -/
theorem stored_of_submit (hs : Sound c) (haudited : ¬ (r.proofMethod = "" ∨ r.observedAt = ""))
    (hshaped : r.proof ≠ some .other) (h : CoreStore.submit authority r c = (.ok res, c')) :
    Stored c'.working r ↔ ∀ reason, res ≠ .rejected reason := by
  have hresult : (CoreStore.submit authority r c).1 = .ok res := congrArg Prod.fst h
  have hafter : Op.exec (.submit authority r) c = c' := congrArg Prod.snd h
  by_cases haccepting : Accepting authority c.working r
  · obtain ⟨d, next, bindingId, proof, haccepts⟩ := haccepting
    cases (submit_of_accepts haccepts).symm.trans hresult
    rw [← hafter, submit_exec_accepted haccepts]
    exact ⟨fun _ _ => ReceiptResult.noConfusion, fun _ => stored_of_accepts hs.keyed haccepts⟩
  · have hview : view c'.working = view c.working :=
      hafter ▸ submit_exec_refused hs.clean haccepting
    by_cases hstored : Stored c.working r
    · obtain ⟨state, disposition, hduplicate⟩ := submit_of_stored haudited hshaped hstored
      cases hduplicate.symm.trans h
      exact ⟨fun _ _ => ReceiptResult.noConfusion, fun _ => hstored⟩
    · obtain ⟨reason, rfl⟩ := rejected_of_submit hs.clean hstored haccepting hresult
      exact ⟨fun hnow => absurd (stored_of_view hview hnow) hstored,
        fun hnever => absurd rfl (hnever reason)⟩

/-- A submission stores no other receipt. -/
theorem stored_submit_iff (hs : Sound c)
    (hother : ¬ Accepting authority c.working entry ∨ r.receiptId ≠ entry.receiptId) :
    Stored (CoreStore.submit authority entry c).2.working r ↔ Stored c.working r := by
  by_cases haccepting : Accepting authority c.working entry
  · obtain ⟨d, next, bindingId, proof, haccepts⟩ := haccepting
    have hne := hother.resolve_left (not_not.mpr ⟨d, next, bindingId, proof, haccepts⟩)
    have hafter : (CoreStore.submit authority entry c).2.working =
        accepted c.working entry d next bindingId proof := submit_exec_accepted haccepts
    have hrecord : (accepted c.working entry d next bindingId proof).receiptRecord r.receiptId =
        c.working.receiptRecord r.receiptId := by
      simp [Tables.receiptRecord, accepted, CoreStore.receiptRow, hne.symm]
    unfold Stored
    rw [hafter, hrecord]
  · have hview := submit_exec_refused hs.clean haccepting
    exact ⟨stored_of_view hview, stored_of_view hview.symm⟩

/-- What a submission does to the tables is a matter of their view. -/
theorem view_submit (hc : Clean c) (hc' : Clean c') (h : view c.working = view c'.working) :
    view (CoreStore.submit authority r c).2.working =
      view (CoreStore.submit authority r c').2.working := by
  by_cases haccepting : Accepting authority c.working r
  · obtain ⟨d, next, bindingId, proof, haccepts⟩ := haccepting
    have hafter : (CoreStore.submit authority r c).2.working =
        accepted c.working r d next bindingId proof := submit_exec_accepted haccepts
    have hafter' : (CoreStore.submit authority r c').2.working =
        accepted c'.working r d next bindingId proof :=
      submit_exec_accepted (accepts_of_view h haccepts)
    rw [hafter, hafter']
    have hview : ∀ t : Tables, view (accepted t r d next bindingId proof) =
        accepted (view t) r d next bindingId proof := fun _ => rfl
    rw [hview, hview, h]
  · have hrefused : ¬ Accepting authority c'.working r := fun haccepting' =>
      haccepting (accepting_of_view h.symm haccepting')
    exact (submit_exec_refused hc haccepting).trans
      (h.trans (submit_exec_refused hc' hrefused).symm)

end Verdicts

section Spent

variable [Host] {authority : Option MarkerAuthority} {t : Tables} {r entry : Receipt}
  {d d' : Delivery} {next next' : Transition} {bindingId bindingId' : String}
  {proof proof' : ProofFields}

/-- Where another delivery was moved, a submission is accepted if it was before. -/
theorem accepting_before (hk : Keyed t)
    (hentry : Accepts authority t entry d next bindingId proof)
    (h : Accepts authority (accepted t entry d next bindingId proof) r d' next' bindingId' proof')
    (hother : d'.deliveryId ≠ d.deliveryId) : Accepting authority t r := by
  have hlater := later_of_accepts hk hentry
  have ha := h.acceptable
  have hfree := h.allowed.unclaimed
  obtain ⟨hd, -⟩ := (getDelivery_eq_some hk).mp hentry.acceptable.delivery
  obtain ⟨hd', hid⟩ := (getDelivery_eq_some hlater.keyed.2).mp ha.delivery
  have hbefore : t.getDelivery r.deliveryId = some d' := by
    rcases (mem_moved hk hd).mp hd' with heq | ⟨hmem, -⟩
    · rw [heq] at hother
      exact absurd rfl hother
    · exact (getDelivery_eq_some hk).mpr ⟨hmem, hid⟩
  refine ⟨d', next', bindingId', proof', ?_, h.fields, hlater.commits (hid ▸ hbefore) h.allowed⟩
  calc (submit authority r).advance t
    _ = (submitDelivery authority r d').advance t :=
      submit_advance_delivery ha.audited ha.shaped (hlater.unclaimed hfree).record hbefore
    _ = (submitDelivery authority r d').advance (accepted t entry d next bindingId proof) :=
      advance_congr (submitDelivery_tracks authority hid)
        (hlater.agree hbefore ha.delivery hfree) fun _ => rfl
    _ = (submit authority r).advance (accepted t entry d next bindingId proof) :=
      (submit_advance_delivery ha.audited ha.shaped hfree.record ha.delivery).symm
    _ = commitReceipt r d' next' := h.commits

omit [Host] in
/-- What harness evidence moves a delivery to. -/
theorem permitted_harness {kind : ProviderKind} (h : Permitted t r d kind next)
    (hclass : r.evidenceClass ∈ sessionProofEvidence) :
    (next.1 = .inSession ∧ (r.evidenceClass = .harnessPromptAccepted ∨
      r.evidenceClass = .harnessTurnStarted)) ∨ next.1 = .processed := by
  cases h with
  | ackSession hc | ackChannel _ hc =>
    rw [hc] at hclass
    exact absurd hclass (by decide)
  | entry hc => exact Or.inl ⟨rfl, hc⟩
  | completed | reply | reaction => exact Or.inr rfl

/-- The chain that is stored with a receipt is the one that its proof shows. -/
theorem chain_of_checked {a : MarkerAuthority} {session : SessionProof}
    {binding : SessionBindingRow} {registration : ProofMethodRegistration}
    {events : List SourceEventRef}
    (h : SessionChecked t r d a session binding registration events)
    (hfields : proofStorageFields r.proof = .ok proof) :
    r.chain = some events ∧ proof.sourceEventChain = sourceChainJson events := by
  obtain ⟨-, marker, _, _, hmarked, -⟩ := validateSessionProof_eq_ok.mp h.valid
  rw [h.carried] at hfields
  simp only [proofStorageFields, hmarked, storedChain_of_typed h.chain] at hfields
  cases hfields
  refine ⟨?_, rfl⟩
  unfold Receipt.chain
  rw [h.carried]
  exact h.chain

/-- A turn end can only be accepted after the entry that it extends. -/
theorem extends_of_accepts (hk : Keyed t) (hclass : entry.evidenceClass ∈ sessionProofEvidence)
    (hclass' : r.evidenceClass ∈ sessionProofEvidence)
    (hentry : Accepts authority t entry d next bindingId proof)
    (h : Accepts authority (accepted t entry d next bindingId proof) r d' next' bindingId' proof')
    (hsame : d'.deliveryId = d.deliveryId) : r.Extends entry := by
  have ha := h.acceptable
  obtain ⟨hd, -⟩ := (getDelivery_eq_some hk).mp hentry.acceptable.delivery
  obtain ⟨hd', -⟩ :=
    (getDelivery_eq_some (later_of_accepts hk hentry).keyed.2).mp ha.delivery
  obtain ⟨_, -, hpermitted⟩ := hentry.acceptable.permitted
  obtain ⟨_, -, hpermitted'⟩ := ha.permitted
  -- the delivery stands where the entry left it
  have hstate : next.1 = requiredState r.evidenceClass := by
    rw [← hpermitted'.state]
    rcases (mem_moved hk hd).mp hd' with rfl | ⟨-, hother⟩
    · rfl
    · exact absurd hsame hother
  obtain ⟨hat, hopened⟩ : next.1 = .inSession ∧ (entry.evidenceClass = .harnessPromptAccepted ∨
      entry.evidenceClass = .harnessTurnStarted) := by
    rcases permitted_harness hpermitted hclass with hin | hprocessed
    · exact hin
    · rw [hprocessed] at hstate
      unfold requiredState at hstate
      split at hstate <;> cases hstate
  have hcloses : r.evidenceClass = .harnessTurnCompleted := by
    rw [hat] at hstate
    unfold requiredState at hstate
    split at hstate
    · cases hstate
    · assumption
    · cases hstate
  obtain ⟨_, _, _, _, events, -, hchecked⟩ := hentry.acceptable.session hclass
  obtain ⟨_, _, _, _, events', -, hchecked'⟩ := ha.session hclass'
  obtain ⟨hchain, hjson⟩ := chain_of_checked hchecked hentry.fields
  obtain ⟨hchain', -⟩ := chain_of_checked hchecked' h.fields
  have hstored := hchecked'.closes hcloses
  have hnewest : (accepted t entry d next bindingId proof).sessionEntryChain d'.deliveryId =
      some proof.sourceEventChain := by
    simp [Tables.sessionEntryChain, accepted, CoreStore.receiptRow, hsame, hopened]
  rw [hnewest, hjson, Option.some.injEq] at hstored
  exact ⟨events', hchain', sourceChainJson_injective hstored ▸ hchain⟩

/-- A receipt that is not accepted stays so after a later one that it does not extend. -/
theorem spent_accepted (hk : Keyed t) (hclass : entry.evidenceClass ∈ sessionProofEvidence)
    (hclass' : r.evidenceClass ∈ sessionProofEvidence)
    (hentry : Accepts authority t entry d next bindingId proof) (hspent : ¬ Accepting authority t r)
    (horder : ¬ r.Extends entry) :
    ¬ Accepting authority (accepted t entry d next bindingId proof) r := by
  rintro ⟨d', next', bindingId', proof', h⟩
  by_cases hsame : d'.deliveryId = d.deliveryId
  · exact horder (extends_of_accepts hk hclass hclass' hentry h hsame)
  · exact hspent (accepting_before hk hentry h hsame)

/-- Once submitted, a receipt is not accepted again, whatever is submitted after it, so long as it
does not extend a later one. -/
theorem spent_submits {c : CoreStore} (hs : Sound c) {receipts : List Receipt}
    (hclass : ∀ r ∈ receipts, r.evidenceClass ∈ sessionProofEvidence)
    (horder : receipts.Pairwise fun r later => ¬ r.Extends later) :
    ∀ r ∈ receipts, ¬ Accepting authority (run (receipts.map (.submit authority)) c).working r := by
  induction receipts using List.reverseRecOn with
  | nil => simp
  | append_singleton receipts entry ih =>
    rw [List.pairwise_append] at horder
    have hspent := ih (fun r hr => hclass r (List.mem_append_left _ hr)) horder.1
    have hentryClass := hclass entry (List.mem_append_right _ (List.mem_singleton_self _))
    have hs₁ := sound_run (receipts.map (.submit authority)) hs
    rw [List.map_append, run_append]
    generalize run (receipts.map (.submit authority)) c = c₁ at hspent hs₁
    intro r hr
    change ¬ Accepting authority (Op.exec (.submit authority entry) c₁).working r
    by_cases haccepting : Accepting authority c₁.working entry
    · obtain ⟨d, next, bindingId, proof, haccepts⟩ := haccepting
      rw [submit_exec_accepted haccepts]
      rcases List.mem_append.mp hr with hold | hnew
      · exact spent_accepted hs₁.keyed hentryClass (hclass r hr) haccepts (hspent r hold)
          (horder.2.2 r hold entry (List.mem_singleton_self _))
      · rw [List.mem_singleton.mp hnew]
        exact (stored_of_accepts hs₁.keyed haccepts).not_accepting
    · have hview := submit_exec_refused hs₁.clean haccepting
      intro hagain
      have hbefore := accepting_of_view hview hagain
      rcases List.mem_append.mp hr with hold | hnew
      · exact hspent r hold hbefore
      · rw [List.mem_singleton.mp hnew] at hbefore
        exact haccepting hbefore

end Spent

end Yatagarasu
