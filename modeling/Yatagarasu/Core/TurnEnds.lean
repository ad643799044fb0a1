import Yatagarasu.Core.EvidenceSoundness
import Yatagarasu.Core.Interleaving
import Yatagarasu.Core.Snapshots
import Yatagarasu.Core.Supersession
import Yatagarasu.Core.Verdicts

/-! What was checked when a prompt was accepted still holds when its turn ends, apart from the time:
the windows of the binding and of the marker are asked again. -/

namespace Yatagarasu

open Sqlite Program ReceiptReducer

/-- The kind of a provider, a registered method and a binding's row stay as they are. -/
structure Lasting (t t' : Tables) : Prop where
  kinds : ∀ providerId kind, (t.provider providerId).map (·.kind) = some kind →
    (t'.provider providerId).map (·.kind) = some kind
  methods : ∀ bindingId proofMethod registration,
    t.bindingProofMethod bindingId proofMethod = some registration →
    t'.bindingProofMethod bindingId proofMethod = some registration
  bindings : BindingsLast t t'

/-- A method declares what the provider of its binding declares. -/
def MethodsDeclared (t : Tables) : Prop :=
  ∀ row ∈ t.bindingProofMethods, ∀ b ∈ t.sessionBindings, b.bindingId = row.bindingId →
    ∀ evidence ∈ row.registration.evidenceClasses, t.providerDeclares b.providerId evidence

/-- The audit log names stored receipts. -/
def AuditStored (t : Tables) : Prop :=
  ∀ row ∈ t.auditLog, ∃ receipt ∈ t.receipts, receipt.receiptId = row.receiptId

section Step

variable [Host] {t t' u : Tables} {op : Op}

omit [Host] in
theorem Lasting.trans (h : Lasting t t') (h' : Lasting t' u) : Lasting t u where
  kinds providerId kind hkind := h'.kinds providerId kind (h.kinds providerId kind hkind)
  methods bindingId proofMethod registration hmethod :=
    h'.methods _ _ _ (h.methods bindingId proofMethod registration hmethod)
  bindings := h.bindings.trans h'.bindings

omit [Host] in
theorem kinds_degraded (hk : Keyed t) {degraded providerId : String} :
    ((withDegraded t degraded).provider providerId).map (·.kind) =
      (t.provider providerId).map (·.kind) :=
  kind_of_find (later_withDegraded hk degraded).providers

omit [Host] in
theorem methods_append {new : List ProofMethodRow}
    (hnew : t'.bindingProofMethods = t.bindingProofMethods ++ new) {bindingId : Option String}
    {proofMethod : String} {registration : ProofMethodRegistration}
    (h : t.bindingProofMethod bindingId proofMethod = some registration) :
    t'.bindingProofMethod bindingId proofMethod = some registration := by
  unfold Tables.bindingProofMethod at h ⊢
  obtain ⟨row, hrow, rfl⟩ := Option.map_eq_some_iff.mp h
  rw [hnew, List.find?_append, hrow]
  rfl

theorem lasting_step (hk : Keyed t) (h : Effect t op t') : Lasting t t' := by
  have hbindings := bindingsLast_step hk h
  cases h with
  | provided =>
    refine ⟨fun providerId kind hkind => ?_, fun _ _ _ hmethod => hmethod, hbindings⟩
    unfold Tables.provider at hkind ⊢
    obtain ⟨row, hrow, rfl⟩ := Option.map_eq_some_iff.mp hkind
    dsimp only
    rw [List.find?_append, hrow]
    rfl
  | bound =>
    exact ⟨fun _ _ hkind => hkind, fun _ _ _ hmethod => methods_append rfl hmethod, hbindings⟩
  | superseded =>
    exact ⟨fun _ _ hkind => hkind, fun _ _ _ hmethod => methods_append rfl hmethod, hbindings⟩
  | degraded =>
    exact ⟨fun _ _ hkind => (kinds_degraded hk).trans hkind, fun _ _ _ hmethod => hmethod, hbindings⟩
  | contradicted =>
    exact ⟨fun _ _ hkind => (kinds_degraded hk).trans hkind, fun _ _ _ hmethod => hmethod, hbindings⟩
  | _ => exact ⟨fun _ _ hkind => hkind, fun _ _ _ hmethod => hmethod, hbindings⟩

theorem auditStored_step (h : Effect t op t') (hstored : AuditStored t) : AuditStored t' := by
  cases h with
  | accepted =>
    intro row hrow
    rcases List.mem_append.mp hrow with hrow | hrow
    · obtain ⟨receipt, hreceipt, hid⟩ := hstored row hrow
      exact ⟨receipt, List.mem_append_left _ hreceipt, hid⟩
    · rw [List.mem_singleton.mp hrow]
      exact ⟨_, List.mem_append_right _ (List.mem_singleton_self _), rfl⟩
  | _ => exact hstored

omit [Host] in
theorem validateProofMethods_ok {providerId : String} {methods : List ProofMethodRegistration}
    (h : CoreStore.validateProofMethods t providerId methods = .ok ()) :
    ∀ method ∈ methods, ∀ evidence ∈ method.evidenceClasses,
      t.providerDeclares providerId evidence := by
  induction methods with
  | nil =>
    intro method hmethod
    cases hmethod
  | cons first rest ih =>
    unfold CoreStore.validateProofMethods at h
    split at h
    · cases h
    split at h
    · cases h
    rename_i hdeclared
    intro method hmethod evidence hevidence
    rcases List.mem_cons.mp hmethod with rfl | hmethod
    · by_contra hmissing
      exact hdeclared (List.any_eq_true.mpr ⟨evidence, hevidence, decide_eq_true hmissing⟩)
    · exact ih h method hmethod evidence hevidence

omit [Host] in
theorem methodsDeclared_bound {binding : SessionBinding} (howned : MethodsOwned t)
    (hbindable : Bindable t binding) (hdeclared : ∀ method ∈ binding.proofMethods,
      ∀ evidence ∈ method.evidenceClasses, t.providerDeclares binding.providerId evidence)
    (h : MethodsDeclared t) : MethodsDeclared (bound t binding) := by
  intro row hrow b hb hid evidence hevidence
  rcases List.mem_append.mp hrow with hrow | hrow
  · rcases List.mem_append.mp hb with hb | hb
    · exact h row hrow b hb hid evidence hevidence
    · obtain ⟨owner, howner, hsame⟩ := howned row hrow
      rw [List.mem_singleton.mp hb] at hid
      exact absurd (hsame.trans hid.symm) (hbindable.unused owner howner)
  · obtain ⟨registration, hregistration, rfl⟩ := List.mem_map.mp hrow
    rcases List.mem_append.mp hb with hb | hb
    · exact absurd hid (hbindable.unused b hb)
    · rw [List.mem_singleton.mp hb]
      exact hdeclared registration hregistration evidence hevidence

omit [Host] in
theorem methodsDeclared_map {f : SessionBindingRow → SessionBindingRow}
    (hf : ∀ row, (f row).bindingId = row.bindingId ∧ (f row).providerId = row.providerId)
    (h : MethodsDeclared t) :
    MethodsDeclared { t with sessionBindings := t.sessionBindings.map f } := by
  intro row hrow b hb hid evidence hevidence
  obtain ⟨old, hold, rfl⟩ := List.mem_map.mp hb
  rw [(hf old).2]
  exact h row hrow old hold ((hf old).1.symm.trans hid) evidence hevidence

theorem validateSessionBinding_methods {binding : SessionBinding}
    (h : CoreStore.validateSessionBinding binding t = .ok ()) :
    ∀ method ∈ binding.proofMethods, ∀ evidence ∈ method.evidenceClasses,
      t.providerDeclares binding.providerId evidence := by
  unfold CoreStore.validateSessionBinding at h
  dsimp only at h
  obtain ⟨-, h⟩ := guard_ok.mp h
  obtain ⟨-, h⟩ := guard_ok.mp h
  obtain ⟨_, -, h⟩ := except_bind_ok.mp h
  obtain ⟨_, -, h⟩ := except_bind_ok.mp h
  obtain ⟨-, h⟩ := guard_ok.mp h
  obtain ⟨-, h⟩ := guard_ok.mp h
  obtain ⟨-, h⟩ := guard_ok.mp h
  obtain ⟨-, h⟩ := guard_ok.mp h
  exact validateProofMethods_ok h

theorem methodsDeclared_step (h : Effect t op t') (howned : MethodsOwned t)
    (hdeclared : MethodsDeclared t) : MethodsDeclared t' := by
  cases h with
  | provided =>
    intro row hrow b hb hid evidence hevidence
    obtain ⟨old, hold, hsame⟩ :=
      List.any_eq_true.mp (hdeclared row hrow b hb hid evidence hevidence)
    exact List.any_eq_true.mpr ⟨old, List.mem_append_left _ hold, hsame⟩
  | bound hvalid hbindable =>
    exact methodsDeclared_bound howned hbindable (validateSessionBinding_methods hvalid) hdeclared
  | @superseded oldBindingId _ hvalid hbindable =>
    obtain ⟨-, -, -, -, hbinding⟩ := validateSupersession_ok hvalid
    have hretired : MethodsDeclared (retired t oldBindingId) := by
      refine methodsDeclared_map (fun row => ?_) hdeclared
      split <;> exact ⟨rfl, rfl⟩
    have hmethods := validateSessionBinding_methods hbinding
    exact methodsDeclared_bound (methodsOwned_map retired_id howned rfl rfl) hbindable hmethods
      hretired
  | revoked =>
    refine methodsDeclared_map (fun row => ?_) hdeclared
    split <;> exact ⟨rfl, rfl⟩
  | _ => exact hdeclared

end Step

/-- The delivery of an accepted entry: only its state and disposition moved on, and the entry is
still the one that a Stop has to close. -/
structure InTurn (first : Delivery) (chain : String) (t : Tables) : Prop where
  delivery : ∃ d ∈ t.deliveries, d = { first with state := d.state, disposition := d.disposition } ∧
    (d.state = .inSession ∨ d.state = .processed)
  entry : t.sessionEntryChain first.deliveryId = some chain

section Turn

variable [Host] {t t' : Tables} {op : Op} {first : Delivery} {chain : String}

omit [Host] in
/-- A row of another delivery, or one that is no entry, is passed over. -/
theorem sessionEntryChain_append {row : ReceiptRow} {deliveryId : String}
    (h : row.deliveryId ≠ deliveryId ∨ ¬ (row.evidenceClass = .harnessPromptAccepted ∨
      row.evidenceClass = .harnessTurnStarted)) (hreceipts : t'.receipts = t.receipts ++ [row]) :
    t'.sessionEntryChain deliveryId = t.sessionEntryChain deliveryId := by
  unfold Tables.sessionEntryChain
  rw [hreceipts, List.reverse_append, List.reverse_singleton, List.singleton_append,
    List.find?_cons_of_neg]
  rcases h with hid | hclass
  · simp [hid]
  · simp [hclass]

theorem inTurn_accepted {authority : Option MarkerAuthority} {r : Receipt} {d : Delivery}
    {next : Transition} {bindingId : String} {proof : ProofFields} (hk : Keyed t)
    (haccept : Acceptable authority t r d next) (h : InTurn first chain t) :
    InTurn first chain (accepted t r d next bindingId proof) := by
  obtain ⟨hmem, -⟩ := (getDelivery_eq_some hk).mp haccept.delivery
  obtain ⟨x, hx, hsame, hstate⟩ := h.delivery
  have hid : x.deliveryId = first.deliveryId := by rw [hsame]
  by_cases hother : d.deliveryId = first.deliveryId
  · -- the delivery of the turn itself: it can only be completed
    obtain rfl := eq_of_deliveryId hk hmem hx (hother.trans hid.symm)
    obtain ⟨provider, -, hpermitted⟩ := haccept.permitted
    have hcompleted : next.1 = .processed ∧ r.evidenceClass ≠ .harnessPromptAccepted ∧
        r.evidenceClass ≠ .harnessTurnStarted := by
      generalize provider.kind = kind at hpermitted
      cases hpermitted with
      | ackSession _ _ hat => simp [hat] at hstate
      | ackChannel _ _ _ hat => simp [hat] at hstate
      | entry _ _ hat => simp [hat] at hstate
      | completed hclass => exact ⟨rfl, by simp [hclass], by simp [hclass]⟩
      | reply hclass => exact ⟨rfl, by simp [hclass], by simp [hclass]⟩
      | reaction hclass => exact ⟨rfl, by simp [hclass], by simp [hclass]⟩
    obtain ⟨hnext, hprompt, hstarted⟩ := hcompleted
    refine ⟨⟨_, (mem_moved hk hmem).mpr (Or.inl rfl), ?_, Or.inr hnext⟩, ?_⟩
    · dsimp only
      conv_lhs => rw [hsame]
    · refine (sessionEntryChain_append (Or.inr ?_) rfl).trans h.entry
      exact not_or.mpr ⟨hprompt, hstarted⟩
  · refine ⟨⟨x, (mem_moved hk hmem).mpr (Or.inr ⟨hx, ?_⟩), hsame, hstate⟩, ?_⟩
    · rw [hid]
      exact Ne.symm hother
    · exact (sessionEntryChain_append (Or.inl hother) rfl).trans h.entry

theorem inTurn_step (hk : Keyed t) (h : Effect t op t') (hturn : InTurn first chain t) :
    InTurn first chain t' := by
  obtain ⟨x, hx, hsame, hstate⟩ := hturn.delivery
  cases h with
  | added => exact ⟨⟨x, List.mem_append_left _ hx, hsame, hstate⟩, hturn.entry⟩
  | broadcast => exact ⟨⟨x, List.mem_append_left _ hx, hsame, hstate⟩, hturn.entry⟩
  | dispatched hmem hqueued =>
    refine ⟨⟨x, (mem_moved hk hmem).mpr (Or.inr ⟨hx, fun hid => ?_⟩), hsame, hstate⟩, hturn.entry⟩
    obtain rfl := eq_of_deliveryId hk hx hmem hid
    simp [hqueued] at hstate
  | accepted haccept => exact inTurn_accepted hk haccept hturn
  | _ => exact ⟨⟨x, hx, hsame, hstate⟩, hturn.entry⟩

end Turn

/-- The marker has not expired when it is observed. -/
def Unexpired [Host] (marker : DeliveryMarker) (observedAt : String) : Prop :=
  ∃ observed expires, parseTimestamp observedAt = .ok observed ∧
    parseTimestamp marker.expiresAt = .ok expires ∧ observed < expires

/-- The proof of an entry, with one more event in its chain. -/
def stopProof (proof : SessionProof) (events : List SourceEventRef) (event : SourceEventRef)
    (turnId : Option String) : SessionProof :=
  { sessionId := proof.sessionId, marker := proof.marker
    sourceEvents := .tuple ((events ++ [event]).map .typed), turnId }

/-- A turn end with the provider, method, marker and session of the entry, whose chain is that of
the entry and one Stop event, inside the window of the binding that is still active. -/
structure StopOf [Host] (t : Tables) (d : Delivery) (entry : Receipt) (proof : SessionProof)
    (events : List SourceEventRef) (stop : Receipt) (event : SourceEventRef) : Prop where
  evidenceClass : stop.evidenceClass = .harnessTurnCompleted
  keys : stop.eventId = d.eventId ∧ stop.deliveryId = d.deliveryId ∧
    stop.attemptId = d.attemptId ∧ stop.bindingId = d.bindingId
  unused : t.receiptRecord stop.receiptId = none
  provider : stop.evidenceProviderId = entry.evidenceProviderId
  method : stop.proofMethod = entry.proofMethod
  declared : ∃ registration, t.bindingProofMethod d.bindingId entry.proofMethod =
    some registration ∧ .harnessTurnCompleted ∈ registration.evidenceClasses
  disposition : stop.disposition = none ∨ stop.disposition = some .completed
  carries : ∃ turnId, stop.proof = some (.typed (stopProof proof events event turnId))
  named : event.eventName = "agent.hook.Stop" ∧ event.sessionId = some proof.sessionId
  source : ∀ earlier ∈ events, event.sourceInstanceId = earlier.sourceInstanceId ∧
    event.bootId = earlier.bootId ∧ earlier.seq < event.seq
  fresh : stop.sourceEventId = some event.sourceEventId ∧ event.sourceEventId ≠ "" ∧
    (∀ earlier ∈ events, earlier.sourceEventId ≠ event.sourceEventId) ∧
    t.sourceSeen entry.evidenceProviderId event.sourceEventId = false
  binding : ∃ row, t.sessionBinding d.bindingId = some row ∧ row.state = .active ∧
    InWindow row stop.observedAt
  after : ∃ observed entered, parseTimestamp stop.observedAt = .ok observed ∧
    parseTimestamp entry.observedAt = .ok entered ∧ entered ≤ observed

section Stop

variable [Host] {t : Tables} {d : Delivery} {entry stop : Receipt} {proof : SessionProof}
  {marker : DeliveryMarker} {events : List SourceEventRef} {event : SourceEventRef}
  {a : MarkerAuthority} {registration : ProofMethodRegistration}

/-- A marker that was valid is valid later, up to its expiry. -/
theorem validate_later {observedAt later : String} {observed observed' : Int}
    (h : a.validate (.typed marker) d observedAt = .ok none)
    (hobserved : parseTimestamp observedAt = .ok observed)
    (hlater : parseTimestamp later = .ok observed') (hle : observed ≤ observed')
    (hunexpired : Unexpired marker later) : a.validate (.typed marker) d later = .ok none := by
  obtain ⟨now, expiry, hnow, hexpiry, hbefore⟩ := hunexpired
  cases hlater.symm.trans hnow
  unfold MarkerAuthority.validate at h ⊢
  dsimp only at h ⊢
  split at h
  · cases h
  rename_i hfields
  rw [if_neg hfields]
  split at h
  · cases h
  · cases h
  split at h
  swap
  · cases h
  rename_i issued expires observed'' hissued hexpires hobserved''
  cases hobserved.symm.trans hobserved''
  cases hexpires.symm.trans hexpiry
  rw [hissued, hexpires, hlater]
  dsimp only
  split at h
  · cases h
  rename_i hlifetime
  rw [if_neg hlifetime]
  split at h
  · cases h
  rename_i hwindow
  rw [if_neg]
  omega

omit [Host] in
theorem dedup_length_of_eq {l : List String} {x : String} (hne : l ≠ []) (h : ∀ y ∈ l, y = x) :
    l.dedup.length = 1 := by
  have hl : l = List.replicate l.length x := List.eq_replicate_iff.mpr ⟨rfl, h⟩
  rw [hl, List.replicate_dedup]
  · rfl
  · exact fun hzero => hne (List.length_eq_zero_iff.mp hzero)

/-- The accepted chain and a Stop of the same source, boot and session. -/
theorem chainValid_stop (turnId : Option String)
    (h : ChainValid proof d registration marker promptChain events)
    (hstop : StopOf t d entry proof events stop event) :
    ChainValid (stopProof proof events event turnId) d registration marker completedChain
      (events ++ [event]) := by
  obtain ⟨e₁, e₂, e₃, rfl⟩ : ∃ e₁ e₂ e₃, events = [e₁, e₂, e₃] := by
    have hlength := congrArg List.length h.names
    rw [List.length_map] at hlength
    exact List.length_eq_three.mp hlength
  have hfirst := hstop.source e₁ (by simp)
  have hthird := hstop.source e₃ (by simp)
  have hidentities := h.identities e₃ (by simp)
  obtain ⟨hfresh, hnonempty, hunlike, -⟩ := hstop.fresh
  refine ⟨?_, ?_, ?_, ?_, ?_, ?_, ?_, ?_⟩
  · rw [List.map_append, h.names, List.map_singleton, hstop.named.1]
    rfl
  · intro other hother
    rcases List.mem_append.mp hother with hother | hother
    · exact h.instances other hother
    · rw [List.mem_singleton.mp hother, hfirst.1]
      exact h.instances e₁ (by simp)
  · intro other hother
    rcases List.mem_append.mp hother with hother | hother
    · exact h.identities other hother
    · rw [List.mem_singleton.mp hother, hthird.2.1]
      refine ⟨hidentities.1, hnonempty, ?_⟩
      have hseq := hthird.2.2
      have hpos := hidentities.2.2
      omega
  · obtain ⟨boot, hboot⟩ := eq_of_dedup_length_one h.oneBoot
    refine dedup_length_of_eq (by simp) (fun other hother => ?_) (x := boot)
    rw [List.map_append, List.mem_append] at hother
    rcases hother with hother | hother
    · exact hboot other hother
    · have hlast : other = event.bootId := List.mem_singleton.mp hother
      exact hlast.trans (hfirst.2.1.trans (hboot e₁.bootId (by simp)))
  · rw [List.map_append]
    refine List.Nodup.append h.distinct (List.nodup_singleton _) ?_
    intro id hid hsame
    obtain ⟨earlier, hearlier, rfl⟩ := List.mem_map.mp hid
    exact hunlike earlier hearlier (List.mem_singleton.mp hsame)
  · have hordered := h.ordered
    simp only [List.isChain_cons_cons, List.isChain_singleton, and_true] at hordered
    simp only [List.cons_append, List.nil_append, List.isChain_cons_cons, List.isChain_singleton,
      and_true]
    exact ⟨hordered.1, hordered.2, hthird.2.2⟩
  · intro prompt hprompt
    exact h.prompt prompt hprompt
  · intro hook hhook
    have hmem : hook = e₃ ∨ hook = event := by simpa using hhook
    rcases hmem with rfl | rfl
    · exact h.hooks hook (by simp)
    · exact hstop.named.2

/-- The way of a turn end to the commit. -/
theorem stop_presented {kind : ProviderKind} (hstop : StopOf t d entry proof events stop event)
    (hd : t.getDelivery d.deliveryId = some d) (hmode : d.deliveryMode = .sessionBound)
    (hstate : d.state = .inSession) (hkind : kind = .sessionTransport)
    (hprovider : (t.provider entry.evidenceProviderId).map (·.kind) = some kind)
    (hdeclares : t.providerDeclares entry.evidenceProviderId .harnessTurnCompleted) :
    Presented t stop d (.processed, some .completed) := by
  obtain ⟨heventId, hdeliveryId, hattemptId, hbindingId⟩ := hstop.keys
  obtain ⟨provider, hfound, hsession⟩ := Option.map_eq_some_iff.mp hprovider
  refine ⟨hstop.unused, hdeliveryId ▸ hd, ?_, provider, hstop.provider ▸ hfound, ?_, ?_, ?_⟩
  · simp [validateKeys, heventId, hattemptId, hbindingId]
  · rw [hstop.provider, hstop.evidenceClass]
    exact hdeclares
  · simp [validateMode, hstop.evidenceClass, participantEvidence, hmode]
  · have hnot : ¬ (stop.disposition ≠ none ∧ stop.disposition ≠ some .completed) := by
      rcases hstop.disposition with hnone | hcompleted
      · simp [hnone]
      · simp [hcompleted]
    unfold transition
    rw [hstop.evidenceClass]
    simp [harnessTransition, hmode, hsession, hkind, hstate, hnot]

/-- The proof of a turn end passes where that of its entry did. -/
theorem stop_checked {row : SessionBindingRow} (hstop : StopOf t d entry proof events stop event)
    (hmarked : proof.marker = .typed marker) (hunexpired : Unexpired marker stop.observedAt)
    (hentry : t.sessionEntryChain d.deliveryId = some (sourceChainJson events))
    (hrow : t.sessionBinding d.bindingId = some row) (hactive : row.state = .active)
    (howner : row.providerId = entry.evidenceProviderId ∧ row.recipientId = d.recipientId ∧
      row.sessionId = proof.sessionId)
    (hmethod : t.bindingProofMethod d.bindingId entry.proofMethod = some registration)
    (hrule : registration.correlationRule = .cmuxHarnessChain)
    (hkind : registration.sourceKind = .eventBus)
    (hvalid : a.validate (.typed marker) d entry.observedAt = .ok none)
    (hchain : ChainValid proof d registration marker promptChain events) :
    (validateProof (some a) stop d).value t = some (.ok none) := by
  obtain ⟨turnId, hproof⟩ := hstop.carries
  obtain ⟨-, -, -, hbindingId⟩ := hstop.keys
  obtain ⟨hsource, hnonempty, -, hseen⟩ := hstop.fresh
  obtain ⟨observed, entered, hobserved, hentered, hle⟩ := hstop.after
  obtain ⟨row', hrow', -, observed', established, expires, hobserved', hestablished, hexpires,
    hwindow⟩ := hstop.binding
  cases hrow.symm.trans hrow'
  cases hobserved.symm.trans hobserved'
  obtain ⟨registration', hregistration', hdeclared⟩ := hstop.declared
  cases hmethod.symm.trans hregistration'
  have hbinding : validateBinding stop d (stopProof proof events event turnId) row = none := by
    obtain ⟨hproviderId, hrecipientId, hsessionId⟩ := howner
    have hinside : ¬ (observed < established ∨ observed ≥ expires) := by omega
    simp [validateBinding, stopProof, hactive, hproviderId, hstop.provider, hrecipientId,
      hobserved, hestablished, hexpires, hinside, hsessionId]
  have htyped : (stopProof proof events event turnId).sourceEvents.typedTuple =
      some (events ++ [event]) := typedEvents_map
  have hsession : validateSessionProof (stopProof proof events event turnId) d
      .harnessTurnCompleted registration a stop.observedAt = .ok none := by
    refine validateSessionProof_eq_ok.mpr ⟨⟨hdeclared, hrule, hkind⟩, marker, completedChain,
      events ++ [event], hmarked, ?_, rfl, htyped, chainValid_stop turnId hchain hstop⟩
    exact validate_later hvalid hentered hobserved hle hunexpired
  have hcloses : (validateClosing stop d (events ++ [event])).value t = some none := by
    have hpresent : present stop.sourceEventId = some event.sourceEventId := by
      simp [present, hsource, hnonempty]
    unfold validateClosing closesAccepted
    rw [if_pos hstop.evidenceClass]
    simp [hentry, hpresent, hstop.provider, hseen]
  unfold validateProof validateSessionReceipt
  rw [if_pos (by simp [hstop.evidenceClass, sessionProofEvidence]), hproof]
  simp only [fetch_bind, value_read, hbindingId, hrow, hbinding, hstop.method, hmethod,
    hstop.evidenceClass, hsession, htyped, value_bind, hcloses]
  rfl

omit [Host] in
theorem commitReceipt_ok {c : CoreStore} {r : Receipt} {next : Transition} {bindingId : String}
    {fields : ProofFields} (hfields : proofStorageFields r.proof = .ok fields)
    (h : Commits c.working r d bindingId) :
    runOn (commitReceipt r d next) c = (.ok (.accepted next.1 next.2),
      { committed := accepted c.working r d next bindingId fields
        working := accepted c.working r d next bindingId fields }) := by
  unfold commitReceipt
  rw [send_bind]
  simp only [runOn, Program.run, acceptReceipt_ok hfields h]
  rfl

theorem stop_commits {bindingId : String} (hk : Keyed t) (haudit : AuditStored t)
    (hstop : StopOf t d entry proof events stop event)
    (hd : t.getDelivery d.deliveryId = some d) (hbound : d.bindingId = some bindingId)
    (hprovider : ∃ kind, (t.provider entry.evidenceProviderId).map (·.kind) = some kind) :
    Commits t stop d bindingId := by
  have hunused : ∀ row ∈ t.receipts, row.receiptId ≠ stop.receiptId := by
    intro row hrow
    simpa using List.find?_eq_none.mp hstop.unused row hrow
  obtain ⟨hsource, -, -, hseen⟩ := hstop.fresh
  obtain ⟨hmem, -⟩ := (getDelivery_eq_some hk).mp hd
  refine ⟨hbound, hunused, fun row hrow hid _ hsame => ?_, ?_, ?_, fun row hrow hid => ?_⟩
  · rw [hsource] at hsame
    rw [hstop.provider] at hid
    refine absurd (List.any_eq_true.mpr ⟨row, hrow, ?_⟩) (Bool.eq_false_iff.mp hseen)
    exact decide_eq_true ⟨hid, hsame⟩
  · obtain ⟨kind, hkind⟩ := hprovider
    obtain ⟨row, hrow, -⟩ := Option.map_eq_some_iff.mp hkind
    refine ⟨row, List.mem_of_find?_eq_some hrow, ?_⟩
    rw [hstop.provider]
    simpa using List.find?_some hrow
  · have hle := countP_key_le_one (k := d.deliveryId)
      (p := fun d' : Delivery => decide (d'.deliveryId = d.deliveryId ∧ d'.state = d.state))
      hk.deliveries fun d' hd' => (of_decide_eq_true hd').1
    have hpos : 0 < t.deliveries.countP fun d' =>
        decide (d'.deliveryId = d.deliveryId ∧ d'.state = d.state) :=
      List.countP_pos_iff.mpr ⟨d, hmem, decide_eq_true ⟨rfl, rfl⟩⟩
    exact Nat.le_antisymm hle hpos
  · obtain ⟨receipt, hreceipt, hsame⟩ := haudit row hrow
    exact hunused receipt hreceipt (hsame.trans hid)

/-- What the acceptance of an entry settles for the rest of its turn. -/
structure EntryOf (a : MarkerAuthority) (t : Tables) (entry : Receipt) (d : Delivery)
    (proof : SessionProof) (marker : DeliveryMarker) (events : List SourceEventRef)
    (row : SessionBindingRow) (registration : ProofMethodRegistration) : Prop where
  audited : entry.proofMethod ≠ ""
  mode : d.deliveryMode = .sessionBound
  bound : ∃ bindingId, d.bindingId = some bindingId
  kind : (t.provider entry.evidenceProviderId).map (·.kind) = some .sessionTransport
  stored : t.sessionBinding d.bindingId = some row
  owner : row.providerId = entry.evidenceProviderId ∧ row.recipientId = d.recipientId ∧
    row.sessionId = proof.sessionId
  method : t.bindingProofMethod d.bindingId entry.proofMethod = some registration
  rule : registration.correlationRule = .cmuxHarnessChain
  source : registration.sourceKind = .eventBus
  valid : a.validate (.typed marker) d entry.observedAt = .ok none
  chain : ChainValid proof d registration marker promptChain events

theorem entryOf_accepted {next : Transition} {bindingId : String}
    (haccept : Acceptable (some a) t entry d next) (hcommit : Commits t entry d bindingId)
    (hnext : next.1 = .inSession) (hcarried : entry.proof = some (.typed proof))
    (hmarked : proof.marker = .typed marker)
    (hevents : proof.sourceEvents.typedTuple = some events) :
    (entry.evidenceClass = .harnessPromptAccepted ∨ entry.evidenceClass = .harnessTurnStarted) ∧
    ∃ row registration, EntryOf a t entry d proof marker events row registration := by
  obtain ⟨provider, hprovider, hpermitted⟩ := haccept.permitted
  have hentry : (entry.evidenceClass = .harnessPromptAccepted ∨
      entry.evidenceClass = .harnessTurnStarted) ∧ d.deliveryMode = .sessionBound ∧
      provider.kind = .sessionTransport := by
    generalize provider.kind = kind at hpermitted
    cases hpermitted with
    | entry hclass hmode => exact ⟨hclass, hmode, rfl⟩
    | ackSession => cases hnext
    | ackChannel => cases hnext
    | completed => cases hnext
    | reply => cases hnext
    | reaction => cases hnext
  obtain ⟨hclass, hmode, hkind⟩ := hentry
  have hsession : entry.evidenceClass ∈ sessionProofEvidence := by
    rcases hclass with hclass | hclass <;> simp [hclass, sessionProofEvidence]
  obtain ⟨a', proof', row, registration, events', hauthority, hchecked⟩ := haccept.session hsession
  cases hauthority
  cases hcarried.symm.trans hchecked.carried
  obtain ⟨⟨-, hrule, hsource⟩, marker', names, events'', hmarked', hvalid, hnames, hevents'', hchain⟩ :=
    validateSessionProof_eq_ok.mp hchecked.valid
  cases hmarked.symm.trans hmarked'
  cases hevents.symm.trans hevents''
  have hprompt : names = promptChain := by
    rcases hclass with hclass | hclass <;> (rw [hclass] at hnames; cases hnames; rfl)
  obtain ⟨-, hproviderId, hrecipientId, hsessionId, -⟩ := validateBinding_none hchecked.owner
  have hbindingId := (keys_eq haccept.keys).2.2
  refine ⟨hclass, row, registration, fun hempty => haccept.audited (Or.inl hempty), hmode,
    ⟨bindingId, hcommit.bound⟩, ?_, hbindingId ▸ hchecked.registered,
    ⟨hproviderId, hrecipientId, hsessionId.symm⟩, hbindingId ▸ hchecked.method, hrule, hsource,
    hvalid, hprompt ▸ hchain⟩
  rw [hprovider, Option.map_some, hkind]

end Stop

section Run

variable [Host]

/-- A run in which this entry was accepted and its delivery is still in session. -/
structure OpenTurn (before later : List Op) (a : MarkerAuthority) (entry : Receipt)
    (proof : SessionProof) (marker : DeliveryMarker) (events : List SourceEventRef)
    (d : Delivery) : Prop where
  entered : (CoreStore.submit (some a) entry (run before CoreStore.empty)).1 =
    .ok (.accepted .inSession none)
  carried : entry.proof = some (.typed proof)
  marked : proof.marker = .typed marker
  chain : proof.sourceEvents.typedTuple = some events
  delivery : (run (before ++ .submit (some a) entry :: later) CoreStore.empty).working.getDelivery
    entry.deliveryId = some d
  inSession : d.state = .inSession

theorem lasting_run (later : List Op) {c : CoreStore} (hs : Sound c) :
    Lasting c.working (run later c).working :=
  run_invariant (fun hk heffect hlast => hlast.trans (lasting_step hk heffect)) later hs
    ⟨fun _ _ hkind => hkind, fun _ _ _ hmethod => hmethod, bindingsLast_of_eq rfl⟩

theorem auditStored_run (ops : List Op) : AuditStored (run ops CoreStore.empty).working := by
  refine run_invariant (fun _ heffect hstored => auditStored_step heffect hstored) ops sound_empty ?_
  intro row hrow
  cases hrow

theorem methodsDeclared_run (ops : List Op) : MethodsDeclared (run ops CoreStore.empty).working := by
  have hboth : MethodsOwned (run ops CoreStore.empty).working ∧
      MethodsDeclared (run ops CoreStore.empty).working := by
    refine run_invariant (I := fun t => MethodsOwned t ∧ MethodsDeclared t) ?_ ops sound_empty
      ⟨(constrained_run []).methods, ?_⟩
    · intro t op t' _ heffect hboth
      exact ⟨methodsOwned_step heffect hboth.1, methodsDeclared_step heffect hboth.1 hboth.2⟩
    · intro row hrow
      cases hrow
  exact hboth.2

theorem outcome_accepted {authority : Option MarkerAuthority} {t t' : Tables} {r : Receipt}
    {state : DeliveryState} {disposition : Option Disposition}
    (h : Outcome authority t r (.ok (.accepted state disposition)) t') :
    ∃ d next bindingId fields, Acceptable authority t r d next ∧
      proofStorageFields r.proof = .ok fields ∧ Commits t r d bindingId ∧ next.1 = state ∧
      t' = accepted t r d next bindingId fields := by
  generalize hres : (Except.ok (.accepted state disposition) : Except PyError ReceiptResult) = res
    at h
  cases h with
  | accepted haccept hfields hcommit =>
    cases hres
    exact ⟨_, _, _, _, haccept, hfields, hcommit, rfl, rfl⟩
  | duplicate => cases hres
  | rejected => cases hres
  | contradiction => cases hres
  | raised => cases hres

/-- The tables right after the entry. -/
theorem inTurn_entered {t : Tables} {a : MarkerAuthority} {entry : Receipt} {proof : SessionProof}
    {marker : DeliveryMarker} {events : List SourceEventRef} {d : Delivery} {next : Transition}
    {bindingId : String} {fields : ProofFields} (hk : Keyed t)
    (haccept : Acceptable (some a) t entry d next)
    (hclass : entry.evidenceClass = .harnessPromptAccepted ∨
      entry.evidenceClass = .harnessTurnStarted)
    (hnext : next.1 = .inSession) (hfields : proofStorageFields entry.proof = .ok fields)
    (hcarried : entry.proof = some (.typed proof)) (hmarked : proof.marker = .typed marker)
    (hevents : proof.sourceEvents.typedTuple = some events) :
    InTurn d (sourceChainJson events) (accepted t entry d next bindingId fields) := by
  obtain ⟨hmem, -⟩ := (getDelivery_eq_some hk).mp haccept.delivery
  have hchain : fields.sourceEventChain = sourceChainJson events := by
    rw [hcarried] at hfields
    simp only [proofStorageFields, hmarked, storedChain_of_typed hevents] at hfields
    cases hfields
    rfl
  refine ⟨⟨_, (mem_moved hk hmem).mpr (Or.inl rfl), rfl, Or.inl hnext⟩, ?_⟩
  unfold Tables.sessionEntryChain accepted
  dsimp only
  rw [List.reverse_append, List.reverse_singleton, List.singleton_append, List.find?_cons_of_pos]
  · exact congrArg some hchain
  · simp [CoreStore.receiptRow, hclass]

/-- What an open turn finds in the tables at its end. -/
theorem OpenTurn.facts {before later : List Op} {a : MarkerAuthority} {entry : Receipt}
    {proof : SessionProof} {marker : DeliveryMarker} {events : List SourceEventRef} {d : Delivery}
    (h : OpenTurn before later a entry proof marker events d) :
    let t := (run (before ++ .submit (some a) entry :: later) CoreStore.empty).working
    t.sessionEntryChain d.deliveryId = some (sourceChainJson events) ∧
    ∃ row registration, EntryOf a t entry d proof marker events row registration := by
  intro t
  have hs₀ : Sound (run before CoreStore.empty) := sound_run before sound_empty
  cases hsubmit : CoreStore.submit (some a) entry (run before CoreStore.empty) with
  | mk res c₁ =>
  have hrun : run (before ++ .submit (some a) entry :: later) CoreStore.empty = run later c₁ := by
    rw [run_append, run_cons]
    exact congrArg (run later) (congrArg Prod.snd hsubmit)
  have hs₁ : Sound c₁ := by
    have hs := (exec_sound (.submit (some a) entry) hs₀).1
    rwa [show Op.exec (.submit (some a) entry) (run before CoreStore.empty) = c₁ from
      congrArg Prod.snd hsubmit] at hs
  have hs : Sound (run later c₁) := sound_run later hs₁
  have hlast : Lasting (run before CoreStore.empty).working t := by
    have hlast := lasting_run (.submit (some a) entry :: later) hs₀
    rwa [← run_append] at hlast
  have hentered := h.entered
  obtain ⟨-, houtcome⟩ := submit_outcome hs₀.clean hsubmit
  rw [hsubmit] at hentered
  dsimp only at hentered
  rw [hentered] at houtcome
  obtain ⟨d₀, next, bindingId, fields, haccept, hfields, hcommit, hnext, hworking⟩ :=
    outcome_accepted houtcome
  obtain ⟨hclass, row, registration, hentry⟩ :=
    entryOf_accepted haccept hcommit hnext h.carried h.marked h.chain
  have hturn : InTurn d₀ (sourceChainJson events) (run later c₁).working := by
    refine run_invariant (fun hk heffect hturn => inTurn_step hk heffect hturn) later hs₁ ?_
    rw [hworking]
    exact inTurn_entered hs₀.keyed haccept hclass hnext hfields h.carried h.marked h.chain
  have hid : d₀.deliveryId = entry.deliveryId :=
    ((getDelivery_eq_some hs₀.keyed).mp haccept.delivery).2
  have hd := h.delivery
  have ht : t = (run later c₁).working := congrArg Connection.working hrun
  rw [hrun] at hd
  obtain ⟨hmem, hdid⟩ := (getDelivery_eq_some hs.keyed).mp hd
  obtain ⟨x, hx, hsame, -⟩ := hturn.delivery
  obtain rfl : x = d := by
    refine eq_of_deliveryId hs.keyed hx hmem ?_
    rw [hsame, hdid]
    exact hid
  have hbindingId : x.bindingId = d₀.bindingId := by rw [hsame]
  obtain ⟨owned, hbound⟩ := hentry.bound
  have hstored := hentry.stored
  rw [hbound] at hstored
  obtain ⟨hrow, hrowid⟩ := (sessionBinding_eq_some hs₀.keyed).mp hstored
  obtain ⟨row', hrow', hsamerow, -⟩ := hlast.bindings row hrow
  have hrowid' : row'.bindingId = owned := by
    rw [hsamerow]
    exact hrowid
  refine ⟨?_, row', registration, hentry.audited, ?_, ⟨owned, hbindingId.trans hbound⟩,
    hlast.kinds _ _ hentry.kind, ?_, ?_, ?_, hentry.rule, hentry.source, ?_, ?_⟩
  · rw [ht, hdid, ← hid]
    exact hturn.entry
  · rw [hsame]
    exact hentry.mode
  · rw [hbindingId, hbound]
    rw [ht] at hrow' ⊢
    exact (sessionBinding_eq_some hs.keyed).mpr ⟨hrow', hrowid'⟩
  · rw [hsamerow, hsame]
    exact hentry.owner
  · rw [hbindingId]
    exact hlast.methods _ _ _ hentry.method
  · rw [hsame]
    exact hentry.valid
  · have hchain := hentry.chain
    exact ⟨hchain.names, hchain.instances, hchain.identities, hchain.oneBoot, hchain.distinct,
      hchain.ordered, hbindingId ▸ hchain.prompt, hchain.hooks⟩

theorem declares_of_method {t : Tables} {a : MarkerAuthority} {entry : Receipt} {d : Delivery}
    {proof : SessionProof} {marker : DeliveryMarker} {events : List SourceEventRef}
    {row : SessionBindingRow} {registration : ProofMethodRegistration} {evidence : EvidenceClass}
    (hk : Keyed t) (hdeclared : MethodsDeclared t)
    (h : EntryOf a t entry d proof marker events row registration)
    (hevidence : evidence ∈ registration.evidenceClasses) :
    t.providerDeclares entry.evidenceProviderId evidence := by
  obtain ⟨bindingId, hbound⟩ := h.bound
  have hstored := h.stored
  have hmethod := h.method
  rw [hbound] at hstored hmethod
  obtain ⟨hrow, hid⟩ := (sessionBinding_eq_some hk).mp hstored
  obtain ⟨method, hfound, rfl⟩ := Option.map_eq_some_iff.mp hmethod
  have hmatch : method.bindingId = bindingId ∧ method.registration.proofMethod =
      entry.proofMethod := by
    simpa using List.find?_some hfound
  rw [← h.owner.1]
  exact hdeclared method (List.mem_of_find?_eq_some hfound) row hrow
    (hid.trans hmatch.1.symm) evidence hevidence

theorem parseTimestamp_empty (h : Host.fromisoformat "" = none) :
    parseTimestamp "" = .error (.valueError "Invalid isoformat string") := by
  have hreplace : replaceZ "" = "" := rfl
  rw [parseTimestamp, hreplace, h]

/-- The Stop of an open turn is accepted as long as the marker of the turn has not expired. -/
theorem stop_closes_turn (before later : List Op) (a : MarkerAuthority) (entry stop : Receipt)
    (proof : SessionProof) (marker : DeliveryMarker) (events : List SourceEventRef)
    (event : SourceEventRef) (d : Delivery) (hempty : Host.fromisoformat "" = none)
    (hturn : OpenTurn before later a entry proof marker events d)
    (hstop : StopOf (run (before ++ .submit (some a) entry :: later) CoreStore.empty).working d
      entry proof events stop event) (hunexpired : Unexpired marker stop.observedAt) :
    let c := run (before ++ .submit (some a) entry :: later) CoreStore.empty
    (CoreStore.submit (some a) stop c).1 = .ok (.accepted .processed (some .completed)) ∧
    (CoreStore.submit (some a) stop c).2.working.getDelivery d.deliveryId =
      some { d with state := .processed, disposition := some .completed } := by
  intro c
  have hs : Sound c := sound_run _ sound_empty
  obtain ⟨hentry, row, registration, hfacts⟩ := hturn.facts
  obtain ⟨bindingId, hbound⟩ := hfacts.bound
  obtain ⟨hmem, -⟩ := (getDelivery_eq_some hs.keyed).mp hturn.delivery
  have hd : c.working.getDelivery d.deliveryId = some d :=
    (getDelivery_eq_some hs.keyed).mpr ⟨hmem, rfl⟩
  have hactive : row.state = .active := by
    obtain ⟨row', hrow', hactive, -⟩ := hstop.binding
    cases hfacts.stored.symm.trans hrow'
    exact hactive
  have hdeclares : c.working.providerDeclares entry.evidenceProviderId .harnessTurnCompleted := by
    obtain ⟨registration', hregistration', hdeclared⟩ := hstop.declared
    cases hfacts.method.symm.trans hregistration'
    exact declares_of_method hs.keyed (methodsDeclared_run _) hfacts hdeclared
  have haudited : ¬ (stop.proofMethod = "" ∨ stop.observedAt = "") := by
    rintro (hmethod | hobserved)
    · exact hfacts.audited (hstop.method.symm.trans hmethod)
    · obtain ⟨observed, _, hparsed, -⟩ := hstop.after
      rw [hobserved, parseTimestamp_empty hempty] at hparsed
      cases hparsed
  obtain ⟨turnId, hproof⟩ := hstop.carries
  have hshaped : stop.proof ≠ some .other := by simp [hproof]
  have hpresented := stop_presented hstop hd hfacts.mode hturn.inSession rfl hfacts.kind hdeclares
  have hchecked := stop_checked hstop hturn.marked hunexpired hentry hfacts.stored hactive
    hfacts.owner hfacts.method hfacts.rule hfacts.source hfacts.valid hfacts.chain
  obtain ⟨checked, hvalue, hadvance⟩ := submit_advance_presented (some a) haudited hshaped hpresented
  cases hvalue.symm.trans hchecked
  dsimp only at hadvance
  have hcommits := stop_commits hs.keyed (auditStored_run _) hstop hd hbound ⟨_, hfacts.kind⟩
  obtain ⟨fields, hfields⟩ : ∃ fields, proofStorageFields stop.proof = .ok fields := by
    have htyped : (stopProof proof events event turnId).sourceEvents.typedTuple =
        some (events ++ [event]) := typedEvents_map
    have hmarked : (stopProof proof events event turnId).marker = .typed marker := hturn.marked
    rw [hproof]
    simp [proofStorageFields, hmarked, storedChain_of_typed htyped]
  have hsubmit : CoreStore.submit (some a) stop c = (.ok (.accepted .processed (some .completed)),
      { committed := accepted c.working stop d (.processed, some .completed) bindingId fields
        working := accepted c.working stop d (.processed, some .completed) bindingId fields }) := by
    rw [CoreStore.submit, ← run_advance, hadvance]
    exact commitReceipt_ok hfields hcommits
  have hsound' : Sound (CoreStore.submit (some a) stop c).2 :=
    (exec_sound (.submit (some a) stop) hs).1
  rw [hsubmit] at hsound' ⊢
  refine ⟨rfl, (getDelivery_eq_some hsound'.keyed).mpr ⟨?_, rfl⟩⟩
  exact (mem_moved hs.keyed hmem).mpr (Or.inl rfl)

end Run

/-- The digest of the marker below under the sample key. -/
abbrev turnHost : Host :=
  { sampleHost with
    hmacSha256 := fun _ _ => "d022f96d27f1a512d81108592803c0dfa14318eced97bb23f58fa117ee032ac6" }

def turnMarker : DeliveryMarker :=
  { sampleMarker with
    expiresAt := "2026-01-01T00:30:00Z"
    signature := "d022f96d27f1a512d81108592803c0dfa14318eced97bb23f58fa117ee032ac6" }

def turnEvents : List SourceEventRef :=
  [{ sourceInstanceId := "cmux-1", bootId := "boot-1", seq := 1, sourceEventId := "e-1"
     eventName := "surface.input_sent" },
   { sourceInstanceId := "cmux-1", bootId := "boot-1", seq := 2, sourceEventId := "e-2"
     eventName := "workspace.prompt.submitted", bindingId := some "binding-1"
     markerSignature := some turnMarker.signature },
   { sourceInstanceId := "cmux-1", bootId := "boot-1", seq := 3, sourceEventId := "e-3"
     eventName := "agent.hook.UserPromptSubmit", sessionId := some "session-1" }]

def turnProof : SessionProof :=
  { sessionId := "session-1", marker := .typed turnMarker
    sourceEvents := .tuple (turnEvents.map .typed) }

def turnEntry : Receipt :=
  { sampleEntry with observedAt := "2026-01-01T00:00:00Z", proof := some (.typed turnProof) }

def turnStopEvent : SourceEventRef :=
  { sourceInstanceId := "cmux-1", bootId := "boot-1", seq := 4, sourceEventId := "e-4"
    eventName := "agent.hook.Stop", sessionId := some "session-1" }

def turnStop (observedAt : String) : Receipt :=
  { turnEntry with
    receiptId := "receipt-3", evidenceClass := .harnessTurnCompleted, observedAt
    sourceEventId := some "e-4"
    proof := some (.typed (stopProof turnProof turnEvents turnStopEvent none)) }

def turnBefore : List Op :=
  [.registerProvider "cmux" .sessionTransport
     [.transportSubmitAck, .harnessPromptAccepted, .harnessTurnCompleted],
   .registerSessionBinding { sampleBinding with
     proofMethods := [{ proofMethod := "cmux-chain", sourceKind := .eventBus
                        sourceInstanceId := "cmux-1", correlationRule := .cmuxHarnessChain
                        evidenceClasses := [.harnessPromptAccepted, .harnessTurnCompleted] }] },
   .addDelivery sampleDelivery, .setDispatching "delivery-1",
   .submit (some sampleAuthority) sampleAck]

def turnDelivery : Delivery := { sampleDelivery with state := .inSession }

theorem turn_open : @OpenTurn turnHost turnBefore [] sampleAuthority turnEntry turnProof turnMarker
    turnEvents turnDelivery := by
  refine @OpenTurn.mk turnHost _ _ _ _ _ _ _ _ ?_ rfl rfl rfl ?_ rfl
  · decide +kernel
  · decide +kernel

theorem turn_stop {observedAt : String} {observed : Int}
    (hobserved : @parseTimestamp turnHost observedAt = .ok observed)
    (hwindow : 1767225600000000 ≤ observed ∧ observed < 1767229200000000) :
    @StopOf turnHost (@run turnHost (turnBefore ++ [.submit (some sampleAuthority) turnEntry])
      CoreStore.empty).working turnDelivery turnEntry turnProof turnEvents (turnStop observedAt)
      turnStopEvent := by
  refine @StopOf.mk turnHost _ _ _ _ _ _ _ rfl ⟨rfl, rfl, rfl, rfl⟩ rfl rfl rfl ⟨_, rfl, by decide⟩
    (Or.inl rfl) ⟨none, rfl⟩ ⟨rfl, rfl⟩ (by decide) ⟨rfl, by decide, by decide, rfl⟩
    ⟨_, rfl, rfl, observed, 1767225600000000, 1767229200000000, hobserved, rfl, rfl, hwindow⟩
    ⟨observed, 1767225600000000, hobserved, rfl, hwindow.1⟩

/-- A turn of half an hour cannot be closed under a marker of half an hour, although its binding
lasts for an hour. -/
theorem expired_marker_refuses_stop :
    @OpenTurn turnHost turnBefore [] sampleAuthority turnEntry turnProof turnMarker turnEvents
      turnDelivery ∧
    @StopOf turnHost (@run turnHost (turnBefore ++ [.submit (some sampleAuthority) turnEntry])
      CoreStore.empty).working turnDelivery turnEntry turnProof turnEvents
      (turnStop "2026-01-01T00:30:00Z") turnStopEvent ∧
    (@CoreStore.submit turnHost (some sampleAuthority) (turnStop "2026-01-01T00:30:00Z")
      (@run turnHost (turnBefore ++ [.submit (some sampleAuthority) turnEntry])
        CoreStore.empty)).1 = .ok (.rejected "marker_expired_or_not_yet_valid") := by
  have hobserved : @parseTimestamp turnHost "2026-01-01T00:30:00Z" = .ok 1767227400000000 := rfl
  exact ⟨turn_open, turn_stop hobserved (by decide), by decide +kernel⟩

theorem stop_closes_turn_sample :
    @Unexpired turnHost turnMarker (turnStop "2026-01-01T00:00:00Z").observedAt ∧
    (@CoreStore.submit turnHost (some sampleAuthority) (turnStop "2026-01-01T00:00:00Z")
      (@run turnHost (turnBefore ++ [.submit (some sampleAuthority) turnEntry])
        CoreStore.empty)).1 = .ok (.accepted .processed (some .completed)) := by
  have hunexpired : @Unexpired turnHost turnMarker (turnStop "2026-01-01T00:00:00Z").observedAt :=
    ⟨1767225600000000, 1767227400000000, rfl, rfl, by decide⟩
  have hobserved : @parseTimestamp turnHost "2026-01-01T00:00:00Z" = .ok 1767225600000000 := rfl
  exact ⟨hunexpired, (@stop_closes_turn turnHost turnBefore [] sampleAuthority turnEntry
    (turnStop "2026-01-01T00:00:00Z") turnProof turnMarker turnEvents turnStopEvent turnDelivery rfl
    turn_open (turn_stop hobserved (by decide)) hunexpired).1⟩

end Yatagarasu
