import Yatagarasu.Core.AuditReplay

/-! Every state of a delivery is backed by the receipts that were accepted for it, and every receipt
by what its submission was checked against. -/

namespace Yatagarasu

open ReceiptReducer

section Evidence

variable [Host]

/-- The row was stored by a submission of the run, which was checked on the tables `before`. -/
structure Submitted (ops : List Op) (d : Delivery) (row : ReceiptRow)
    (authority : Option MarkerAuthority) (r : Receipt) (before : Tables) : Prop where
  submitted : ∃ earlier later, ops = earlier ++ .submit authority r :: later ∧
    before = (run earlier CoreStore.empty).working
  stored : ∃ bindingId disposition proof, d.bindingId = some bindingId ∧
    proofStorageFields r.proof = .ok proof ∧
    row = CoreStore.receiptRow r d bindingId disposition proof

/-- The provider kind that may submit for a delivery mode. -/
def submitter : DeliveryMode → ProviderKind
  | .sessionBound => .sessionTransport
  | .channelNative => .commsView

/-- A transport acknowledgement; on a channel, of the message that is bound to the delivery. -/
def AckEvidence (ops : List Op) (d : Delivery) (row : ReceiptRow) : Prop :=
  ∃ authority r before provider, Submitted ops d row authority r before ∧
    row.evidenceClass = .transportSubmitAck ∧ row.disposition = none ∧
    before.provider row.providerId = some provider ∧ provider.kind = submitter d.deliveryMode ∧
    (d.deliveryMode = .channelNative → ∃ message, row.platformMessageId = some message ∧
      before.messageBindingMatches row.providerId message d)

/-- What backs a harness receipt: the active binding and its owner, the registered method, the
signed marker, both windows, and the source chain. -/
structure HarnessFacts (before : Tables) (d : Delivery) (row : ReceiptRow)
    (authority : MarkerAuthority) (binding : SessionBindingRow)
    (registration : ProofMethodRegistration) (marker : DeliveryMarker)
    (events : List SourceEventRef) : Prop where
  bound : before.sessionBinding d.bindingId = some binding
  active : binding.state = .active
  owner : binding.providerId = row.providerId
  recipient : binding.recipientId = d.recipientId
  session : row.sessionId = some binding.sessionId
  method : before.bindingProofMethod d.bindingId row.proofMethod = some registration
  covers : row.evidenceClass ∈ registration.evidenceClasses
  fields : MarkerAuthority.FieldsMatch marker d
  signed : marker.signature = authority.sign marker ∧ row.markerSignature = some marker.signature
  window : ∃ observed issued expires established ends, parseTimestamp row.observedAt = .ok observed ∧
    parseTimestamp marker.issuedAt = .ok issued ∧ parseTimestamp marker.expiresAt = .ok expires ∧
    parseTimestamp binding.establishedAt = .ok established ∧
    parseTimestamp binding.expiresAt = .ok ends ∧
    issued ≤ observed ∧ observed < expires ∧ established ≤ observed ∧ observed < ends
  names : expectedNames row.evidenceClass = some (events.map (·.eventName))
  oneBoot : ∃ boot, ∀ event ∈ events, event.bootId = boot
  distinct : (events.map (·.sourceEventId)).Nodup
  ordered : events.IsChain fun event later => event.seq < later.seq
  chain : row.sourceEventChain = sourceChainJson events

def HarnessEvidence (ops : List Op) (d : Delivery) (row : ReceiptRow)
    (events : List SourceEventRef) : Prop :=
  ∃ authority r before binding registration marker,
    Submitted ops d row (some authority) r before ∧
    HarnessFacts before d row authority binding registration marker events

/-- Evidence of the addressed participant, on the message that is bound to the delivery. -/
def ParticipantEvidence (ops : List Op) (d : Delivery) (row : ReceiptRow) : Prop :=
  ∃ authority r before provider principal message, Submitted ops d row authority r before ∧
    before.provider row.providerId = some provider ∧ provider.kind = .commsView ∧
    row.authoredByProvider = false ∧ row.infrastructureEvent = false ∧
    row.platformPrincipalId = some principal ∧
    before.principalMatches row.providerId principal d.recipientId ∧
    row.platformMessageId = some message ∧ before.messageBindingMatches row.providerId message d ∧
    ((row.evidenceClass = .participantReplyAuthored ∧ row.disposition = some .answered) ∨
      (row.evidenceClass = .participantReactionAuthored ∧
        (row.disposition = some .acknowledged ∨ row.disposition = some .held)))

/-- One acknowledgement, then one prompt acceptance or turn start. -/
def SessionEntered (ops : List Op) (d : Delivery) (rows : List ReceiptRow) : Prop :=
  ∃ ack entry events, rows = [ack, entry] ∧ AckEvidence ops d ack ∧
    (entry.evidenceClass = .harnessPromptAccepted ∨ entry.evidenceClass = .harnessTurnStarted) ∧
    HarnessEvidence ops d entry events

/-- The same and one turn end, whose chain is the accepted entry chain and a Stop. -/
def SessionCompleted (ops : List Op) (d : Delivery) (rows : List ReceiptRow) : Prop :=
  ∃ ack entry done events stop, rows = [ack, entry, done] ∧ AckEvidence ops d ack ∧
    (entry.evidenceClass = .harnessPromptAccepted ∨ entry.evidenceClass = .harnessTurnStarted) ∧
    HarnessEvidence ops d entry events ∧
    done.evidenceClass = .harnessTurnCompleted ∧ done.disposition = some .completed ∧
    HarnessEvidence ops d done (events ++ [stop]) ∧ stop.eventName = "agent.hook.Stop"

/-- One acknowledgement, then one reply or reaction, whose disposition the delivery carries. -/
def ChannelAnswered (ops : List Op) (d : Delivery) (rows : List ReceiptRow) : Prop :=
  ∃ ack answer, rows = [ack, answer] ∧ AckEvidence ops d ack ∧ ParticipantEvidence ops d answer ∧
    d.disposition = answer.disposition

/-- The receipts that a delivery's state calls for. -/
def EvidenceFor (ops : List Op) (d : Delivery) (rows : List ReceiptRow) : Prop :=
  match d.state with
  | .queued | .dispatching => rows = [] ∧ d.disposition = none
  | .transportSubmitted => ∃ ack, rows = [ack] ∧ AckEvidence ops d ack ∧ d.disposition = none
  | .inSession => d.deliveryMode = .sessionBound ∧ SessionEntered ops d rows ∧ d.disposition = none
  | .processed =>
    (d.deliveryMode = .sessionBound ∧ SessionCompleted ops d rows ∧
      d.disposition = some .completed) ∨
    (d.deliveryMode = .channelNative ∧ ChannelAnswered ops d rows)

end Evidence

section Facts

variable [Host] {t : Tables} {r : Receipt} {d : Delivery} {authority : MarkerAuthority}
  {proof : SessionProof} {binding : SessionBindingRow} {registration : ProofMethodRegistration}
  {events : List SourceEventRef}

theorem validateBinding_none (h : validateBinding r d proof binding = none) :
    binding.state = .active ∧ binding.providerId = r.evidenceProviderId ∧
      binding.recipientId = d.recipientId ∧ proof.sessionId = binding.sessionId ∧
      ∃ observed established ends, parseTimestamp r.observedAt = .ok observed ∧
        parseTimestamp binding.establishedAt = .ok established ∧
        parseTimestamp binding.expiresAt = .ok ends ∧ established ≤ observed ∧ observed < ends := by
  unfold validateBinding at h
  split at h
  · cases h
  rename_i hactive
  split at h
  · cases h
  rename_i howner
  split at h
  · cases h
  rename_i hrecipient
  split at h
  · rename_i observed established ends hobserved hestablished hends
    split at h
    · cases h
    rename_i hwindow
    split at h
    · cases h
    rename_i hsession
    simp only [not_or, Int.not_lt, ge_iff_le, Int.not_le] at hwindow
    exact ⟨not_not.mp hactive, not_not.mp howner, not_not.mp hrecipient, not_not.mp hsession,
      observed, established, ends, hobserved, hestablished, hends, hwindow⟩
  · cases h

/-- Checked harness evidence backs the row that it becomes. -/
theorem harnessFacts_of_checked
    (h : SessionChecked t r d authority proof binding registration events)
    (hkeys : validateKeys r d = none) {fields : ProofFields}
    (hf : proofStorageFields r.proof = .ok fields) (bindingId : String)
    (disposition : Option Disposition) :
    ∃ marker, HarnessFacts t d (CoreStore.receiptRow r d bindingId disposition fields) authority
      binding registration marker events := by
  obtain ⟨hactive, howner, hrecipient, hsession, observed, established, ends, hobserved,
    hestablished, hends, hfrom, huntil⟩ := validateBinding_none h.owner
  obtain ⟨⟨hcovers, -⟩, marker, names, events', hmarker, hvalid, hnames, hevents, hchain⟩ :=
    validateSessionProof_eq_ok.mp h.valid
  obtain rfl : events = events' := Option.some.inj (h.chain.symm.trans hevents)
  obtain ⟨m, hm, hmv⟩ := markerValid_of_validate hvalid
  obtain rfl : marker = m := Untyped.typed.inj hm
  obtain ⟨issued, expires, observed', hissued, hexpires, hobserved', -, hlow, hhigh⟩ := hmv.window
  obtain rfl : observed = observed' := Except.ok.inj (hobserved.symm.trans hobserved')
  have hfields : fields = { sessionId := some proof.sessionId, markerSignature := some marker.signature
                            sourceEventChain := sourceChainJson events, turnId := proof.turnId } := by
    rw [h.carried] at hf
    simp only [proofStorageFields, hmarker, storedChain_of_typed hevents] at hf
    exact (Except.ok.inj hf).symm
  have hbinding : r.bindingId = d.bindingId := (keys_eq hkeys).2.2
  refine ⟨marker, ?_⟩
  exact {
    bound := hbinding ▸ h.registered
    active := hactive
    owner := howner
    recipient := hrecipient
    session := by simp [CoreStore.receiptRow, hfields, hsession]
    method := hbinding ▸ h.method
    covers := hcovers
    fields := hmv.fields
    signed := ⟨hmv.signed, by simp [CoreStore.receiptRow, hfields]⟩
    window := ⟨observed, issued, expires, established, ends, hobserved, hissued, hexpires,
      hestablished, hends, hlow, hhigh, hfrom, huntil⟩
    names := hnames.trans (congrArg some hchain.names.symm)
    oneBoot := by
      obtain ⟨boot, hboot⟩ := eq_of_dedup_length_one hchain.oneBoot
      exact ⟨boot, fun event hevent => hboot _ (List.mem_map_of_mem hevent)⟩
    distinct := hchain.distinct
    ordered := hchain.ordered
    chain := by simp [CoreStore.receiptRow, hfields] }

end Facts

section Step

variable [Host] {ops : List Op} {t t' : Tables} {r : Receipt} {d : Delivery}
  {authority : Option MarkerAuthority} {row : ReceiptRow} {rows : List ReceiptRow}
  {next : Transition}

theorem Submitted.extend {before : Tables} (h : Submitted ops d row authority r before) (op : Op) :
    Submitted (ops ++ [op]) d row authority r before := by
  obtain ⟨earlier, later, rfl, hbefore⟩ := h.submitted
  exact ⟨⟨earlier, later ++ [op], by simp, hbefore⟩, h.stored⟩

theorem AckEvidence.extend (h : AckEvidence ops d row) (op : Op) :
    AckEvidence (ops ++ [op]) d row := by
  obtain ⟨authority, r, before, provider, hs, hfacts⟩ := h
  exact ⟨authority, r, before, provider, hs.extend op, hfacts⟩

theorem HarnessEvidence.extend {events : List SourceEventRef} (h : HarnessEvidence ops d row events)
    (op : Op) : HarnessEvidence (ops ++ [op]) d row events := by
  obtain ⟨authority, r, before, binding, registration, marker, hs, hfacts⟩ := h
  exact ⟨authority, r, before, binding, registration, marker, hs.extend op, hfacts⟩

theorem ParticipantEvidence.extend (h : ParticipantEvidence ops d row) (op : Op) :
    ParticipantEvidence (ops ++ [op]) d row := by
  obtain ⟨authority, r, before, provider, principal, message, hs, hfacts⟩ := h
  exact ⟨authority, r, before, provider, principal, message, hs.extend op, hfacts⟩

theorem EvidenceFor.extend (h : EvidenceFor ops d rows) (op : Op) :
    EvidenceFor (ops ++ [op]) d rows := by
  unfold EvidenceFor at h ⊢
  split at h
  · exact h
  · exact h
  · obtain ⟨ack, hrows, hack, hd⟩ := h
    exact ⟨ack, hrows, hack.extend op, hd⟩
  · obtain ⟨hm, ⟨ack, entry, events, hrows, hack, hclass, hentry⟩, hd⟩ := h
    exact ⟨hm, ⟨ack, entry, events, hrows, hack.extend op, hclass, hentry.extend op⟩, hd⟩
  · rcases h with ⟨hm, ⟨ack, entry, done, events, stop, hrows, hack, hclass, hentry, hdone, hdisp,
      hharness, hstop⟩, hd⟩ | ⟨hm, ack, answer, hrows, hack, hanswer, hd⟩
    · exact Or.inl ⟨hm, ⟨ack, entry, done, events, stop, hrows, hack.extend op, hclass,
        hentry.extend op, hdone, hdisp, hharness.extend op, hstop⟩, hd⟩
    · exact Or.inr ⟨hm, ack, answer, hrows, hack.extend op, hanswer.extend op, hd⟩

/-! Evidence speaks of a delivery's keys, which no transition changes. -/

theorem Submitted.moved {before : Tables} (h : Submitted ops d row authority r before)
    (next : Transition) :
    Submitted ops { d with state := next.1, disposition := next.2 } row authority r before :=
  ⟨h.submitted, h.stored⟩

theorem AckEvidence.moved (h : AckEvidence ops d row) (next : Transition) :
    AckEvidence ops { d with state := next.1, disposition := next.2 } row := by
  obtain ⟨authority, r, before, provider, hs, hfacts⟩ := h
  exact ⟨authority, r, before, provider, hs.moved next, hfacts⟩

theorem HarnessEvidence.moved {events : List SourceEventRef} (h : HarnessEvidence ops d row events)
    (next : Transition) :
    HarnessEvidence ops { d with state := next.1, disposition := next.2 } row events := by
  obtain ⟨authority, r, before, binding, registration, marker, hs, h⟩ := h
  exact ⟨authority, r, before, binding, registration, marker, hs.moved next, h.bound, h.active,
    h.owner, h.recipient, h.session, h.method, h.covers, h.fields, h.signed, h.window, h.names,
    h.oneBoot, h.distinct, h.ordered, h.chain⟩

omit [Host] in
/-- The entry chain is that of the newest entry receipt of the delivery. -/
theorem sessionEntryChain_eq {ack entry : ReceiptRow} {deliveryId : String}
    (hrows : t.receiptsFor deliveryId = [ack, entry])
    (hentry : entry.evidenceClass = .harnessPromptAccepted ∨
      entry.evidenceClass = .harnessTurnStarted) :
    t.sessionEntryChain deliveryId = some entry.sourceEventChain := by
  rw [Tables.sessionEntryChain_eq_receiptsFor, hrows]
  simp [hentry]

theorem submitted_here {bindingId : String} {proof : ProofFields}
    {disposition : Option Disposition} (hb : d.bindingId = some bindingId)
    (hf : proofStorageFields r.proof = .ok proof) :
    Submitted (ops ++ [.submit authority r]) d
      (CoreStore.receiptRow r d bindingId disposition proof) authority r
      (run ops CoreStore.empty).working :=
  ⟨⟨ops, [], rfl, rfl⟩, ⟨bindingId, disposition, proof, hb, hf, rfl⟩⟩

/-- Harness evidence that is accepted here, with its chain. -/
theorem harness_here {bindingId : String} {proof : ProofFields}
    (disposition : Option Disposition)
    (ha : Acceptable authority (run ops CoreStore.empty).working r d next)
    (hc : r.evidenceClass ∈ sessionProofEvidence) (hb : d.bindingId = some bindingId)
    (hf : proofStorageFields r.proof = .ok proof) :
    ∃ events, HarnessEvidence (ops ++ [.submit authority r]) d
        (CoreStore.receiptRow r d bindingId disposition proof) events ∧
      (r.evidenceClass = .harnessTurnCompleted →
        (run ops CoreStore.empty).working.sessionEntryChain d.deliveryId =
          some (sourceChainJson events.dropLast)) := by
  obtain ⟨a, sessionProof, binding, registration, events, rfl, hchecked⟩ := ha.session hc
  obtain ⟨marker, hfacts⟩ := harnessFacts_of_checked hchecked ha.keys hf bindingId disposition
  exact ⟨events, ⟨a, r, _, binding, registration, marker, submitted_here hb hf, hfacts⟩,
    hchecked.closes⟩

theorem participant_here {bindingId : String} {proof : ProofFields}
    {provider : ProviderRow} (hp : ParticipantChecked t r d)
    (hs : Submitted ops { d with state := next.1, disposition := next.2 }
      (CoreStore.receiptRow r d bindingId next.2 proof) authority r t)
    (hprovider : t.provider r.evidenceProviderId = some provider)
    (hkind : provider.kind = .commsView)
    (hclass : (r.evidenceClass = .participantReplyAuthored ∧ next.2 = some .answered) ∨
      (r.evidenceClass = .participantReactionAuthored ∧
        (next.2 = some .acknowledged ∨ next.2 = some .held))) :
    ParticipantEvidence ops { d with state := next.1, disposition := next.2 }
      (CoreStore.receiptRow r d bindingId next.2 proof) := by
  obtain ⟨principal, hprincipal, hprincipalMatch⟩ := hp.principal
  obtain ⟨message, hmessage, hmatch⟩ := hp.message
  have hself := hp.notInfrastructure
  simp only [not_or, Bool.not_eq_true] at hself
  exact ⟨authority, r, t, provider, principal, message, hs, hprovider, hkind, hself.1, hself.2,
    present_eq_some hprincipal, hprincipalMatch, present_eq_some hmessage, hmatch, hclass⟩

omit [Host] in
/-- A chain of the completed shape is its entry and a Stop. -/
theorem stop_of_completed {events : List SourceEventRef}
    (h : some completedChain = some (events.map (·.eventName))) :
    ∃ stop, events = events.dropLast ++ [stop] ∧ stop.eventName = "agent.hook.Stop" := by
  have hmap : events.map (·.eventName) = promptChain ++ ["agent.hook.Stop"] :=
    (Option.some.inj h).symm
  obtain ⟨front, back, rfl, -, hback⟩ := List.map_eq_append_iff.mp hmap
  obtain ⟨stop, rest, rfl, hstop, hrest⟩ := List.map_eq_cons_iff.mp hback
  obtain rfl := List.map_eq_nil_iff.mp hrest
  exact ⟨stop, by simp, hstop⟩

theorem evidence_accepted {bindingId : String} {proof : ProofFields}
    (ht : t = (run ops CoreStore.empty).working) (ha : Acceptable authority t r d next)
    (hb : d.bindingId = some bindingId) (hf : proofStorageFields r.proof = .ok proof)
    (h : EvidenceFor ops d (t.receiptsFor d.deliveryId)) :
    EvidenceFor (ops ++ [.submit authority r])
      { d with state := next.1, disposition := next.2 }
      (t.receiptsFor d.deliveryId ++ [CoreStore.receiptRow r d bindingId next.2 proof]) := by
  have hsub : ∀ next : Transition, Submitted (ops ++ [.submit authority r])
      { d with state := next.1, disposition := next.2 }
      (CoreStore.receiptRow r d bindingId next.2 proof) authority r t :=
    fun next => (ht ▸ submitted_here hb hf : Submitted _ d _ authority r t).moved next
  obtain ⟨provider, hprovider, hpermitted⟩ := ha.permitted
  generalize hkind : provider.kind = kind at hpermitted
  cases hpermitted with
  | ackSession hc hm hs hd =>
    simp only [EvidenceFor, hs] at h
    rw [h.1]
    refine ⟨_, rfl, ⟨authority, r, t, provider, hsub _, hc, rfl, hprovider, ?_, ?_⟩, rfl⟩
    · rw [hkind]
      exact (congrArg submitter hm).symm
    · intro hm'
      cases hm.symm.trans hm'
  | ackChannel message hc hm hs hd hmessage hmatch =>
    simp only [EvidenceFor, hs] at h
    rw [h.1]
    refine ⟨_, rfl, ⟨authority, r, t, provider, hsub _, hc, rfl, hprovider, ?_, ?_⟩, rfl⟩
    · rw [hkind]
      exact (congrArg submitter hm).symm
    · intro _
      exact ⟨message, present_eq_some hmessage, hmatch⟩
  | entry hc hm hs hd =>
    simp only [EvidenceFor, hs] at h
    obtain ⟨ack, hrows, hack, -⟩ := h
    obtain ⟨events, hharness, -⟩ := harness_here none (ht ▸ ha)
      (by rcases hc with hc | hc <;> simp [hc, sessionProofEvidence]) hb hf
    rw [hrows]
    exact ⟨hm, ⟨ack, _, events, rfl, (hack.extend _).moved _, hc, hharness.moved _⟩, rfl⟩
  | completed hc hm hs hd =>
    simp only [EvidenceFor, hs] at h
    obtain ⟨-, ⟨ack, entry, events, hrows, hack, hclass, hentry⟩, -⟩ := h
    obtain ⟨all, hharness, hcloses⟩ := harness_here (some .completed) (ht ▸ ha)
      (by simp [hc, sessionProofEvidence]) hb hf
    obtain ⟨stop, hall, hstop⟩ : ∃ stop, all = all.dropLast ++ [stop] ∧
        stop.eventName = "agent.hook.Stop" := by
      obtain ⟨_, _, _, _, _, _, -, hfacts⟩ := hharness
      have hnames := hfacts.names
      simp only [CoreStore.receiptRow, hc, expectedNames] at hnames
      exact stop_of_completed hnames
    have hentryChain : entry.sourceEventChain = sourceChainJson events := by
      obtain ⟨_, _, _, _, _, _, -, hfacts⟩ := hentry
      exact hfacts.chain
    -- the reducer compared texts, and equal texts are equal chains
    have hevents : all.dropLast = events := by
      have hchain := hcloses hc
      rw [← ht, sessionEntryChain_eq hrows hclass, hentryChain] at hchain
      exact (sourceChainJson_injective (Option.some.inj hchain)).symm
    rw [hevents] at hall
    rw [hrows]
    exact Or.inl ⟨hm, ⟨ack, entry, _, events, stop, rfl, (hack.extend _).moved _, hclass,
      (hentry.extend _).moved _, hc, rfl, hall ▸ hharness.moved _, hstop⟩, rfl⟩
  | reply hc hp hd =>
    simp only [EvidenceFor, hp.state] at h
    obtain ⟨ack, hrows, hack, -⟩ := h
    rw [hrows]
    exact Or.inr ⟨hp.mode, ack, _, rfl, (hack.extend _).moved _,
      participant_here hp (hsub _) hprovider hkind (Or.inl ⟨hc, rfl⟩), rfl⟩
  | reaction hc hp hd =>
    simp only [EvidenceFor, hp.state] at h
    obtain ⟨ack, hrows, hack, -⟩ := h
    rw [hrows]
    exact Or.inr ⟨hp.mode, ack, _, rfl, (hack.extend _).moved _,
      participant_here hp (hsub _) hprovider hkind (Or.inr ⟨hc, hd⟩), rfl⟩

omit [Host] in
theorem receiptsFor_append (hr : t'.receipts = t.receipts ++ [row]) (deliveryId : String) :
    t'.receiptsFor deliveryId =
      t.receiptsFor deliveryId ++ if row.deliveryId = deliveryId then [row] else [] := by
  by_cases h : row.deliveryId = deliveryId
  · simp [Tables.receiptsFor, hr, List.filter_append, h]
  · simp [Tables.receiptsFor, hr, List.filter_append, h]

omit [Host] in
/-- A delivery that no audit row names has no receipt. -/
theorem receiptsFor_nil (h : AuditReplays t) {deliveryId : String}
    (hnew : ∀ d ∈ t.deliveries, d.deliveryId ≠ deliveryId) : t.receiptsFor deliveryId = [] := by
  refine List.filter_eq_nil_iff.mpr fun row hrow hid => ?_
  have hpair : (row.receiptId, row.deliveryId) ∈
      t.auditLog.map fun row => (row.receiptId, row.deliveryId) := by
    rw [h.paired]
    exact List.mem_map_of_mem hrow
  obtain ⟨audit, haudit, heq⟩ := List.mem_map.mp hpair
  obtain ⟨d, hd, hsame⟩ := h.known audit haudit
  refine hnew d hd ?_
  rw [hsame, (Prod.mk.inj heq).2]
  simpa using hid

/-- The invariant of a run: every delivery has the evidence for its state. -/
def Evidenced (ops : List Op) (t : Tables) : Prop :=
  ∀ d ∈ t.deliveries, EvidenceFor ops d (t.receiptsFor d.deliveryId)

theorem evidenced_grows {op : Op} (hgrows : Grows (fun d => d.state = .queued ∧ d.disposition = none)
    t t') (hk : Keyed t) (haudit : AuditReplays t) (h : Evidenced ops t) :
    Evidenced (ops ++ [op]) t' := by
  obtain ⟨new, hnew, hqueued⟩ := hgrows.deliveries
  have hrows : ∀ id, t'.receiptsFor id = t.receiptsFor id := by
    intro id
    simp [Tables.receiptsFor, hgrows.receipts]
  intro d hd
  rw [hrows]
  rw [hnew] at hd
  rcases List.mem_append.mp hd with hd | hd
  · exact (h d hd).extend op
  · have hnodup := (hgrows.keyed hk).deliveries
    rw [hnew, List.map_append] at hnodup
    have hfresh : ∀ old ∈ t.deliveries, old.deliveryId ≠ d.deliveryId := by
      intro old hold hsame
      exact List.disjoint_of_nodup_append hnodup (List.mem_map_of_mem hold)
        (hsame ▸ List.mem_map_of_mem hd)
    rw [receiptsFor_nil haudit hfresh]
    simp only [EvidenceFor, (hqueued d hd).1]
    exact ⟨trivial, (hqueued d hd).2⟩

theorem evidenced_change {op : Op} (ht : t = (run ops CoreStore.empty).working)
    (hchange : Change (fun d => d.state = .queued ∧ d.disposition = none) t op t') (hk : Keyed t)
    (haudit : AuditReplays t) (h : Evidenced ops t) : Evidenced (ops ++ [op]) t' := by
  cases hchange with
  | grows hgrows => exact evidenced_grows hgrows hk haudit h
  | @dispatched d hd hq =>
    intro d' hd'
    rcases (mem_moved hk hd).mp hd' with rfl | ⟨hd', -⟩
    · have hold := h d hd
      simp only [EvidenceFor, hq] at hold
      exact hold
    · exact (h d' hd').extend _
  | @accepted authority r d next bindingId proof ha hf hcommit =>
    obtain ⟨hd, -⟩ := (getDelivery_eq_some hk).mp ha.delivery
    intro d' hd'
    rw [receiptsFor_append (t := t) rfl]
    rcases (mem_moved hk hd).mp hd' with rfl | ⟨hd', hne⟩
    · rw [if_pos (show (CoreStore.receiptRow r d bindingId next.2 proof).deliveryId =
        d.deliveryId from rfl)]
      exact evidence_accepted ht ha hcommit.bound hf (h d hd)
    · rw [if_neg fun heq => hne heq.symm, List.append_nil]
      exact (h d' hd').extend _

end Step

section Run

variable [Host] {ops : List Op}

theorem evidenced_run
    (hops : ∀ op ∈ ops, op.Enters fun d => d.state = .queued ∧ d.disposition = none) :
    Evidenced ops (run ops CoreStore.empty).working := by
  have hboth : AuditReplays (run ops CoreStore.empty).working ∧
      Evidenced ops (run ops CoreStore.empty).working :=
    run_induction (I := fun ops t => AuditReplays t ∧ Evidenced ops t) (fun _ hq hd => ⟨hq, hd⟩)
      ⟨auditReplays_empty, by simp [Evidenced]⟩
      (fun hk ht hchange hI => ⟨replays_change (fun _ hd => hd.1) hchange hk hI.1,
        evidenced_change ht hchange hk hI.1 hI.2⟩) hops
  exact hboth.2

/-- No delivery enters a session or is processed without the evidence that its mode asks for. -/
theorem evidence_soundness
    (hops : ∀ op ∈ ops, op.Enters fun d => d.state = .queued ∧ d.disposition = none)
    {id : String} {d : Delivery}
    (hd : (run ops CoreStore.empty).working.getDelivery id = some d) :
    (d.deliveryMode = .sessionBound →
      (d.state = .inSession →
        SessionEntered ops d ((run ops CoreStore.empty).working.receiptsFor id)) ∧
      (d.state = .processed →
        SessionCompleted ops d ((run ops CoreStore.empty).working.receiptsFor id) ∧
        d.disposition = some .completed)) ∧
    (d.deliveryMode = .channelNative →
      d.state ≠ .inSession ∧
      (d.state = .processed →
        ChannelAnswered ops d ((run ops CoreStore.empty).working.receiptsFor id))) := by
  have hs := sound_run ops sound_empty
  obtain ⟨hmem, rfl⟩ := (getDelivery_eq_some hs.keyed).mp hd
  have h := evidenced_run hops d hmem
  unfold EvidenceFor at h
  refine ⟨fun hm => ⟨fun hstate => ?_, fun hstate => ?_⟩,
    fun hm => ⟨fun hstate => ?_, fun hstate => ?_⟩⟩
  · rw [hstate] at h
    exact h.2.1
  · rw [hstate] at h
    rcases h with h | ⟨hm', -⟩
    · exact h.2
    · cases hm.symm.trans hm'
  · rw [hstate] at h
    cases hm.symm.trans h.1
  · rw [hstate] at h
    rcases h with ⟨hm', -⟩ | h
    · cases hm.symm.trans hm'
    · exact h.2

end Run

theorem evidence_soundness_sample :
    (∀ op ∈ sampleOps, op.Enters fun d => d.state = .queued ∧ d.disposition = none) ∧
    (@run sampleHost sampleOps CoreStore.empty).working.getDelivery "delivery-1" =
      some { sampleDelivery with state := .inSession } ∧
    @SessionEntered sampleHost sampleOps { sampleDelivery with state := .inSession }
      ((@run sampleHost sampleOps CoreStore.empty).working.receiptsFor "delivery-1") := by
  have hd : (@run sampleHost sampleOps CoreStore.empty).working.getDelivery "delivery-1" =
      some { sampleDelivery with state := .inSession } := by decide +kernel
  have hops := sampleOps_enters (P := fun d => d.state = .queued ∧ d.disposition = none) ⟨rfl, rfl⟩
  exact ⟨hops, hd, ((@evidence_soundness sampleHost _ hops _ _ hd).1 rfl).1 rfl⟩

end Yatagarasu
