import Yatagarasu.Cmux.Resident
import Yatagarasu.Cmux.Turns

/-! Every chain that the producer submits has the shape which the validator asks for, so that a
proof stands or falls with its registration, its marker and the marker that was observed on the
wire. -/

namespace Yatagarasu.Cmux

open PyJson ReceiptReducer

/-- The reasons for a refusal that speak of the chain alone. -/
def structuralReasons : List String :=
  ["session_proof_shape_invalid", "evidence_class_not_session_proof",
    "source_event_chain_shape_invalid", "source_event_chain_wrong_shape",
    "source_event_identity_invalid", "source_boot_changed_within_chain",
    "source_event_repeated_within_chain", "source_event_chain_out_of_order",
    "hook_session_mismatch"]

/-- A chain that passes the checks which compare it with nothing else. -/
structure Structured (proof : SessionProof) (names : List String) (events : List SourceEventRef) :
    Prop where
  names : events.map (·.eventName) = names
  identities : ∀ event ∈ events, event.bootId ≠ "" ∧ event.sourceEventId ≠ "" ∧ 0 ≤ event.seq
  oneBoot : (events.map (·.bootId)).dedup.length = 1
  distinct : (events.map (·.sourceEventId)).Nodup
  ordered : events.IsChain fun event later => event.seq < later.seq
  hooks : ∀ event ∈ events.drop 2, event.sessionId = some proof.sessionId

/-- The prompt of a chain carries the binding of a delivery and the signature of a marker. -/
def PromptMatches (delivery : Delivery) (marker : DeliveryMarker) (events : List SourceEventRef) :
    Prop :=
  ∀ prompt ∈ (events.drop 1).take 1, prompt.bindingId = delivery.bindingId ∧
    prompt.markerSignature = some marker.signature

/-- The registration covers the class, with the rule and the kind of this source. -/
structure Registered (registration : ProofMethodRegistration) (evidenceClass : EvidenceClass)
    (source : String) : Prop where
  declared : evidenceClass ∈ registration.evidenceClasses
  kind : registration.sourceKind = .eventBus
  rule : registration.correlationRule = .cmuxHarnessChain
  source : registration.sourceInstanceId = source

section Validator

variable {proof : SessionProof} {delivery : Delivery} {registration : ProofMethodRegistration}
  {marker : DeliveryMarker} {names : List String} {events : List SourceEventRef} {source : String}

theorem chainValid_iff (h : Structured proof names events) (hne : events ≠ [])
    (hsource : ∀ event ∈ events, event.sourceInstanceId = source) :
    ChainValid proof delivery registration marker names events ↔
      registration.sourceInstanceId = source ∧ PromptMatches delivery marker events := by
  constructor
  · intro hvalid
    obtain ⟨event, hevent⟩ := List.exists_mem_of_ne_nil _ hne
    exact ⟨(hvalid.instances event hevent).symm.trans (hsource event hevent), hvalid.prompt⟩
  · rintro ⟨rfl, hprompt⟩
    exact ⟨h.names, hsource, h.identities, h.oneBoot, h.distinct, h.ordered, hprompt, h.hooks⟩

/-- A well-shaped chain is refused for its source or for its prompt. -/
theorem validateChain_structured (h : Structured proof names events) {reason : String}
    (hreason : validateChain proof delivery registration marker names events = some reason) :
    reason = "source_instance_mismatch" ∨ reason = "prompt_marker_binding_mismatch" := by
  have hidentities : ¬ events.any fun event =>
      event.bootId = "" ∨ event.sourceEventId = "" ∨ event.seq < 0 := by
    simpa [not_or] using h.identities
  have hdistinct : (events.map (·.sourceEventId)).dedup.length = events.length := by
    rw [h.distinct.dedup, List.length_map]
  have hordered : ¬ (events.zip events.tail).any fun pair => pair.1.seq ≥ pair.2.seq := by
    simpa using isChain_iff_zip.mp h.ordered
  have hhooks : ¬ (events.drop 2).any fun event => event.sessionId ≠ some proof.sessionId := by
    simpa using h.hooks
  unfold validateChain at hreason
  rw [if_neg (not_not.mpr h.names), if_neg hidentities, if_neg (not_not.mpr h.oneBoot),
    if_neg (not_not.mpr hdistinct), if_neg hordered, if_neg hhooks] at hreason
  split at hreason
  · cases hreason
    exact Or.inl rfl
  split at hreason
  · cases hreason
    exact Or.inr rfl
  · cases hreason

/-- The authority's own reasons say nothing of the chain. -/
theorem validate_not_structural [Host] {authority : MarkerAuthority}
    {untyped : Untyped DeliveryMarker} {observedAt reason : String}
    (h : authority.validate untyped delivery observedAt = .ok (some reason)) :
    reason ∉ structuralReasons := by
  unfold MarkerAuthority.validate at h
  split at h
  · cases h
    decide
  split at h
  · cases h
    decide
  split at h
  · cases h
  · cases h
    decide
  split at h
  · split at h
    · cases h
      decide
    split at h
    · cases h
      decide
    · cases h
  · cases h
    decide

variable [Host] {evidenceClass : EvidenceClass} {authority : MarkerAuthority} {observedAt : String}

/-- What the validator decides of a proof whose chain is well shaped. -/
theorem validate_structured_iff (hmarker : proof.marker = .typed marker)
    (hnames : expectedNames evidenceClass = some names)
    (hevents : proof.sourceEvents.typedTuple = some events)
    (h : Structured proof names events) (hne : events ≠ [])
    (hsource : ∀ event ∈ events, event.sourceInstanceId = source) :
    validateSessionProof proof delivery evidenceClass registration authority observedAt =
        .ok none ↔
      Registered registration evidenceClass source ∧
        authority.validate (.typed marker) delivery observedAt = .ok none ∧
        PromptMatches delivery marker events := by
  rw [validateSessionProof_eq_ok]
  constructor
  · rintro ⟨⟨hclass, hrule, hkind⟩, marker', names', events', hmarker', hvalid, hnames', hevents',
      hchain⟩
    cases hmarker.symm.trans hmarker'
    cases hnames.symm.trans hnames'
    cases hevents.symm.trans hevents'
    obtain ⟨hinstance, hprompt⟩ := (chainValid_iff h hne hsource).mp hchain
    exact ⟨⟨hclass, hkind, hrule, hinstance⟩, hvalid, hprompt⟩
  · rintro ⟨⟨hclass, hkind, hrule, hinstance⟩, hvalid, hprompt⟩
    exact ⟨⟨hclass, hrule, hkind⟩, marker, names, events, hmarker, hvalid, hnames, hevents,
      (chainValid_iff h hne hsource).mpr ⟨hinstance, hprompt⟩⟩

/-- No structural reason is given for it. -/
theorem validate_structured_reason
    (hnames : expectedNames evidenceClass = some names)
    (hevents : proof.sourceEvents.typedTuple = some events)
    (h : Structured proof names events) {reason : String}
    (hreason : validateSessionProof proof delivery evidenceClass registration authority observedAt =
      .ok (some reason)) : reason ∉ structuralReasons := by
  unfold validateSessionProof at hreason
  split at hreason
  · cases hreason
    decide
  split at hreason
  · cases hreason
    decide
  split at hreason
  · cases hreason
    decide
  split at hreason
  · cases hreason
  · rename_i hrefused
    cases hreason
    exact validate_not_structural hrefused
  · cases hreason
  · rw [hnames, hevents] at hreason
    rcases validateChain_structured h (Except.ok.inj hreason) with rfl | rfl
    · decide
    · decide

end Validator

section Emission

variable {config : EmitterConfig} {client : CoreClient} {p : Production} {r : Receipt}
  {obs : TranslatedObservation} {before : List TranslatedObservation}

/-- The delivery and the marker that a receipt speaks for, and the observations it is made of. -/
structure Emission (config : EmitterConfig) (observed : List TranslatedObservation) (r : Receipt)
    (delivery : Delivery) (marker : DeliveryMarker) (wire : WireMarker)
    (parts : List TranslatedObservation) : Prop where
  made : ∃ disposition session last, r = harnessReceipt config delivery marker r.evidenceClass
      disposition session last.observedAt last.sourceEvent (parts.map (·.sourceEvent)) ∧
    parts.getLast? = some last ∧ ∀ hook ∈ parts.drop 2, hook.session = some session
  names : expectedNames r.evidenceClass = some (parts.map (·.name))
  observed : parts.Sublist observed
  marked : ∃ prompt, parts[1]? = some prompt ∧ prompt.marker = some wire
  resolved : config.deliveryLookup wire.deliveryId = some (delivery, marker)

theorem Emission.mono {observed later : List TranslatedObservation} {delivery : Delivery}
    {marker : DeliveryMarker} {wire : WireMarker} {parts : List TranslatedObservation}
    (h : Emission config observed r delivery marker wire parts) (hsub : observed.Sublist later) :
    Emission config later r delivery marker wire parts :=
  ⟨h.made, h.names, h.observed.trans hsub, h.marked, h.resolved⟩

/-- A chain that a hook correlates to shows its three observations. -/
theorem emission_accepted {session : String} {chain : ActiveChain} (h : PendingTraced before p)
    (hname : obs.name = userPromptSubmit) (hsession : obs.session = some session)
    (hcorrelates : correlate config (p.pending obs.key) obs.sourceEvent = some chain) :
    ∃ wire parts, Emission config (before ++ [obs])
      (acceptedReceipt config chain session obs.observedAt obs.sourceEvent) chain.delivery
      chain.marker wire parts := by
  obtain ⟨input', prompt', marker, hpending, hlookup, -, hevents⟩ := correlate_eq_some hcorrelates
  obtain ⟨input, prompt, hsub, rfl, hinput, rfl, hprompt, hmarker⟩ :=
    (h obs.key _ hpending).prompt _ _ rfl rfl
  refine ⟨marker, [input, prompt, obs], ⟨none, session, obs, ?_, rfl, ?_⟩, ?_, ?_,
    ⟨prompt, rfl, hmarker⟩, hlookup⟩
  · simp only [acceptedReceipt, hevents]
    rfl
  · intro hook hhook
    rw [List.mem_singleton.mp hhook, hsession]
  · simp only [List.map_cons, List.map_nil, hinput.1, hprompt.1, hname]
    rfl
  · exact hsub.append (List.Sublist.refl [obs])

/-- A stop adds itself to the chain that its session has open. -/
theorem emission_completed {session : String} {chain : ActiveChain}
    {prompt hook : TranslatedObservation} {since : List TranslatedObservation}
    (h : ChainFrom config before obs.key session chain prompt hook since)
    (hname : obs.name = stop) (hsession : obs.session = some session) :
    ∃ wire parts, Emission config (before ++ [obs])
      (completedReceipt config chain session obs.observedAt obs.sourceEvent) chain.delivery
      chain.marker wire parts := by
  obtain ⟨input, earlier, rfl, hsub, hinput, hevents⟩ := h.parts
  obtain ⟨marker, hmarker, hlookup⟩ := h.resolved
  refine ⟨marker, [input, prompt, hook, obs], ⟨some .completed, session, obs, ?_, rfl, ?_⟩, ?_, ?_,
    ⟨prompt, rfl, hmarker⟩, hlookup⟩
  · simp only [completedReceipt, hevents]
    rfl
  · intro event hevent
    rcases List.mem_cons.mp hevent with rfl | hevent
    · exact h.observed
    · rw [List.mem_singleton.mp hevent, hsession]
  · simp only [List.map_cons, List.map_nil, hinput.1, h.submitted.1, h.hooked.1, hname]
    rfl
  · have hchain : [input, prompt, hook].Sublist (earlier ++ hook :: since) :=
      hsub.append (List.singleton_sublist.mpr List.mem_cons_self)
    exact hchain.append (List.Sublist.refl [obs])

variable [Host]

/-- Every receipt that an observation adds is made of what was observed. -/
theorem emission_feed {Q : String → String → TranslatedObservation →
    List TranslatedObservation → Prop} (h : Traced config Q before p)
    (hr : r ∈ (p.feed config client obs).emitted) : r ∈ p.emitted ∨
      ∃ delivery marker wire parts, Emission config (before ++ [obs]) r delivery marker wire parts := by
  have hfed := feed_fed config client p obs
  generalize (p.feed config client obs).state.emitter = emitter at hfed
  generalize (p.feed config client obs).emitted = emitted at hfed hr
  cases hfed with
  | ignored | input | prompt | popped => exact Or.inl hr
  | opened hname haccept hsession hchain =>
    rcases List.mem_append.mp hr with hr | hr
    · exact Or.inl hr
    · rw [List.mem_singleton.mp hr]
      exact Or.inr ⟨_, _, emission_accepted h.pending hname hsession hchain⟩
  | closed hname haccept hsession hactive heq =>
    rw [heq] at hr
    rcases List.mem_append.mp hr with hr | hr
    · exact Or.inl hr
    · split at hr
      · cases hr
      rw [List.mem_singleton.mp hr]
      obtain ⟨prompt, hook, since, hfrom, -⟩ := h.active _ _ _ hactive
      exact Or.inr ⟨_, _, emission_completed hfrom hname hsession⟩

theorem emission_run (config : EmitterConfig) (client : CoreClient) (events : List DerivedEvent)
    (hr : r ∈ (Production.run config client events {}).emitted) :
    ∃ delivery marker wire parts,
      Emission config (observations events) r delivery marker wire parts := by
  induction events using List.reverseRecOn with
  | nil => cases hr
  | append_singleton events event ih =>
    rw [observations_append]
    have hsub := List.sublist_append_left (observations events) (observations [event])
    cases htranslate : translateDerivedEvent event with
    | error e =>
      rw [Production.run_error config client htranslate] at hr
      obtain ⟨delivery, marker, wire, parts, hemission⟩ := ih hr
      exact ⟨delivery, marker, wire, parts, hemission.mono hsub⟩
    | ok obs =>
      rw [Production.run_ok config client htranslate] at hr
      rcases emission_feed (traced_run config client events) hr with hbefore | hnew
      · obtain ⟨delivery, marker, wire, parts, hemission⟩ := ih hbefore
        exact ⟨delivery, marker, wire, parts, hemission.mono hsub⟩
      · rw [observations_ok htranslate]
        exact hnew

end Emission

/-- What a projector makes of one boot's stream, the boot being the one a stream ack names. -/
structure Projected [Host] (source : String) (ack : StreamAck) (events : List DerivedEvent) :
    Prop where
  acknowledged : ∃ frame, StreamAck.parse frame = .ok ack
  projected : ∀ event ∈ events, ∃ frame, project source frame ack.bootId = .ok event
  increasing : events.Pairwise fun event later => event.seq < later.seq
  distinct : (events.map DerivedEvent.sourceEventId).Nodup

theorem parse_bootId [Host] {frame : Dict} {ack : StreamAck} (h : StreamAck.parse frame = .ok ack) :
    ack.bootId ≠ "" := by
  unfold StreamAck.parse at h
  split at h
  · cases h
  split at h
  · split at h
    · cases h
    rename_i hidentity
    split at h
    · cases h
    · cases h
      exact fun hempty => hidentity (Or.inl hempty)
  · cases h

section Agreement

variable [Host] {source : String} {ack : StreamAck} {events : List DerivedEvent}
  {parts : List TranslatedObservation}

/-- The identity of an observation of the stream. -/
theorem Projected.identity (h : Projected source ack events) {obs : TranslatedObservation}
    (hobs : obs ∈ observations events) : obs.sourceEvent.sourceInstanceId = source ∧
      obs.sourceEvent.bootId = ack.bootId ∧ obs.sourceEvent.sourceEventId ≠ "" ∧
      0 ≤ obs.sourceEvent.seq := by
  obtain ⟨event, hevent, htranslate⟩ := mem_observations.mp hobs
  obtain ⟨frame, hframe⟩ := h.projected event hevent
  obtain ⟨hinstance, hboot, hseq, hid, -⟩ := translate_eq_ok htranslate
  obtain ⟨hsource, hack, hpos, hne, -⟩ := project_eq_ok hframe
  rw [hinstance, hboot, hseq, hid]
  exact ⟨hsource, hack, hne, hpos⟩

theorem Projected.ordered (h : Projected source ack events) :
    (observations events).Pairwise fun obs later =>
      obs.sourceEvent.seq < later.sourceEvent.seq := by
  refine h.increasing.filterMap _ fun event later hlt obs hobs obs' hobs' => ?_
  have htranslates : ∀ {event : DerivedEvent} {obs : TranslatedObservation},
      (translateDerivedEvent event).toOption = some obs → obs.sourceEvent.seq = event.seq := by
    intro event obs hsome
    cases htranslate : translateDerivedEvent event with
    | error e =>
      rw [htranslate] at hsome
      cases hsome
    | ok translated =>
      rw [htranslate] at hsome
      cases hsome
      exact (translate_eq_ok htranslate).2.2.1
  rw [htranslates hobs, htranslates hobs']
  exact hlt

omit [Host] in
theorem dedup_of_constant {α : Type} [DecidableEq α] {l : List α} {a : α} (hne : l ≠ [])
    (h : ∀ b ∈ l, b = a) : l.dedup.length = 1 := by
  rw [List.eq_replicate_of_mem h, List.replicate_dedup]
  · rfl
  · exact fun hlength => hne (List.length_eq_zero_iff.mp hlength)

/-- Every part of the stream is well shaped, with hooks of one session. -/
theorem Projected.structured (h : Projected source ack events) (hsub : parts.Sublist
    (observations events)) (hne : parts ≠ []) {proof : SessionProof}
    (hhooks : ∀ hook ∈ parts.drop 2, hook.session = some proof.sessionId) :
    Structured proof (parts.map (·.name)) (parts.map (·.sourceEvent)) := by
  obtain ⟨frame, hparse⟩ := h.acknowledged
  have hidentity : ∀ obs ∈ parts, _ := fun obs hobs => h.identity (hsub.subset hobs)
  refine ⟨by rw [List.map_map]; rfl, ?_, ?_, ?_, ?_, ?_⟩
  · intro event hevent
    obtain ⟨obs, hobs, rfl⟩ := List.mem_map.mp hevent
    obtain ⟨-, hboot, hid, hseq⟩ := hidentity obs hobs
    exact ⟨hboot ▸ parse_bootId hparse, hid, hseq⟩
  · refine dedup_of_constant (a := ack.bootId) (by simpa using hne) ?_
    intro boot hboot
    rw [List.map_map] at hboot
    obtain ⟨obs, hobs, rfl⟩ := List.mem_map.mp hboot
    exact (hidentity obs hobs).2.1
  · rw [List.map_map]
    exact (nodup_observations h.distinct).sublist (hsub.map _)
  · refine List.Pairwise.isChain ?_
    rw [List.pairwise_map]
    exact h.ordered.sublist hsub
  · intro event hevent
    rw [← List.map_drop] at hevent
    obtain ⟨hook, hhook, rfl⟩ := List.mem_map.mp hevent
    exact present_eq_some (hhooks hook hhook)

/-- The receipt carries the keys of the delivery and the id of the chain's last event. -/
structure SpeaksFor (r : Receipt) (delivery : Delivery) (chain : List SourceEventRef) : Prop where
  eventId : r.eventId = delivery.eventId
  deliveryId : r.deliveryId = delivery.deliveryId
  attemptId : r.attemptId = delivery.attemptId
  bindingId : r.bindingId = delivery.bindingId
  sourceEventId : ∃ last, chain.getLast? = some last ∧ r.sourceEventId = some last.sourceEventId

omit [Host] in
/-- What the prompt of a chain carries is what was observed on the wire. -/
theorem promptMatches_iff {delivery : Delivery} {marker : DeliveryMarker} {wire : WireMarker}
    {prompt : TranslatedObservation} (hprompt : parts[1]? = some prompt)
    (hbinding : prompt.sourceEvent.bindingId = some wire.bindingId)
    (hsignature : prompt.sourceEvent.markerSignature = some wire.signature) :
    PromptMatches delivery marker (parts.map (·.sourceEvent)) ↔
      some wire.bindingId = delivery.bindingId ∧ wire.signature = marker.signature := by
  have hsecond : ((parts.map (·.sourceEvent)).drop 1).take 1 = [prompt.sourceEvent] := by
    rcases parts with _ | ⟨first, _ | ⟨second, rest⟩⟩
    · cases hprompt
    · cases hprompt
    · cases hprompt
      rfl
  unfold PromptMatches
  rw [hsecond]
  simp only [List.mem_singleton, forall_eq, hbinding, hsignature, Option.some.injEq]

/-- The validator accepts an emitted proof exactly when the registration covers it, the marker of
the lookup validates, and the marker on the wire is that one. No structural reason is ever given,
and a wire marker with another binding or signature is never accepted. -/
theorem producer_agrees_with_validator (h : Projected source ack events) (config : EmitterConfig)
    (client : CoreClient) {r : Receipt}
    (hr : r ∈ (Production.run config client events {}).emitted) :
    ∃ delivery marker wire prompt proof chain,
      prompt ∈ observations events ∧ prompt.marker = some wire ∧
      config.deliveryLookup wire.deliveryId = some (delivery, marker) ∧
      r.proof = some (.typed proof) ∧ proof.marker = .typed marker ∧
      proof.sourceEvents = .tuple (chain.map .typed) ∧ chain[1]? = some prompt.sourceEvent ∧
      SpeaksFor r delivery chain ∧
      ∀ registration authority,
        (validateSessionProof proof delivery r.evidenceClass registration authority r.observedAt =
            .ok none ↔
          Registered registration r.evidenceClass source ∧
            authority.validate (.typed marker) delivery r.observedAt = .ok none ∧
            some wire.bindingId = delivery.bindingId ∧ wire.signature = marker.signature) ∧
        (∀ reason, validateSessionProof proof delivery r.evidenceClass registration authority
            r.observedAt = .ok (some reason) → reason ∉ structuralReasons) ∧
        (some wire.bindingId ≠ delivery.bindingId ∨ wire.signature ≠ marker.signature →
          validateSessionProof proof delivery r.evidenceClass registration authority
            r.observedAt ≠ .ok none) := by
  obtain ⟨delivery, marker, wire, parts, hemission⟩ := emission_run config client events hr
  obtain ⟨disposition, session, last, hmade, hlast, hhooks⟩ := hemission.made
  obtain ⟨prompt, hprompt, hmarked⟩ := hemission.marked
  have hobserved : prompt ∈ observations events :=
    hemission.observed.subset (List.mem_of_getElem? hprompt)
  obtain ⟨event, -, htranslate⟩ := mem_observations.mp hobserved
  obtain ⟨-, -, -, -, -, hbinding, hsignature⟩ := translate_eq_ok htranslate
  rw [hmarked, Option.map_some] at hbinding hsignature
  have hne : parts ≠ [] := List.ne_nil_of_mem (List.mem_of_getElem? hprompt)
  let proof : SessionProof := { sessionId := session, marker := .typed marker
                                sourceEvents := .tuple ((parts.map (·.sourceEvent)).map .typed) }
  have hproof : r.proof = some (.typed proof) := by rw [hmade]; rfl
  have htyped : proof.sourceEvents.typedTuple = some (parts.map (·.sourceEvent)) := typedEvents_map
  have hstructured : Structured proof (parts.map (·.name)) (parts.map (·.sourceEvent)) :=
    h.structured hemission.observed hne hhooks
  have hsource : ∀ event ∈ parts.map (·.sourceEvent), event.sourceInstanceId = source := by
    intro event hevent
    obtain ⟨obs, hobs, rfl⟩ := List.mem_map.mp hevent
    exact (h.identity (hemission.observed.subset hobs)).1
  have hiff : ∀ registration authority, validateSessionProof proof delivery r.evidenceClass
      registration authority r.observedAt = .ok none ↔
        Registered registration r.evidenceClass source ∧
          authority.validate (.typed marker) delivery r.observedAt = .ok none ∧
          some wire.bindingId = delivery.bindingId ∧ wire.signature = marker.signature := by
    intro registration authority
    rw [← promptMatches_iff hprompt hbinding hsignature]
    exact validate_structured_iff rfl hemission.names htyped hstructured (by simpa using hne) hsource
  refine ⟨delivery, marker, wire, prompt, proof, parts.map (·.sourceEvent), hobserved, hmarked,
    hemission.resolved, hproof, rfl, rfl, by simp [hprompt], ?_, fun registration authority => ?_⟩
  · refine ⟨?_, ?_, ?_, ?_, last.sourceEvent, by simp [hlast], ?_⟩ <;> rw [hmade] <;> rfl
  · refine ⟨hiff registration authority, fun reason hreason => ?_, fun hforged haccepted => ?_⟩
    · exact validate_structured_reason hemission.names htyped hstructured hreason
    · obtain ⟨-, -, hbound, hsigned⟩ := (hiff registration authority).mp haccepted
      rcases hforged with hother | hother
      · exact hother hbound
      · exact hother hsigned

end Agreement

def sampleStreamAck : StreamAck := ⟨"boot-1", 0, ⟨none, 0, 0, 1, false⟩⟩

theorem projected_sampleTurn [Host] : Projected "cmux-1" sampleStreamAck sampleTurn := by
  refine ⟨⟨_, parse_sampleAckFrame 0 0 false⟩, ?_, by decide, by decide⟩
  intro event hevent
  simp only [sampleTurn, List.mem_cons, List.not_mem_nil, or_false] at hevent
  rcases hevent with rfl | rfl | rfl
  · exact ⟨_, project_sampleFrame samplePayload_empty (by decide)⟩
  · exact ⟨_, project_sampleFrame samplePayload_token (by decide)⟩
  · exact ⟨_, project_sampleFrame samplePayload_session (by decide)⟩

/-- The turn's one receipt, and the registration and the authority that accept it. -/
theorem producer_agrees_with_validator_sample :
    ∃ r ∈ (@Production.run sampleHost sampleConfig returning sampleTurn {}).emitted,
      ∃ (delivery : Delivery) (marker : DeliveryMarker) (wire : WireMarker) (proof : SessionProof),
        sampleConfig.deliveryLookup wire.deliveryId = some (delivery, marker) ∧
        r.proof = some (.typed proof) ∧
        ∀ registration authority,
          (@validateSessionProof sampleHost proof delivery r.evidenceClass registration authority
              r.observedAt = .ok none ↔
            Registered registration r.evidenceClass "cmux-1" ∧
              @MarkerAuthority.validate sampleHost authority (.typed marker) delivery r.observedAt =
                .ok none ∧
              some wire.bindingId = delivery.bindingId ∧ wire.signature = marker.signature) := by
  have hemitted : (@Production.run sampleHost sampleConfig returning sampleTurn {}).emitted ≠ [] := by
    rw [@Production.run_eq_feedAll sampleHost, @observations_sampleTurn sampleHost]
    decide +kernel
  obtain ⟨r, hr⟩ := List.exists_mem_of_ne_nil _ hemitted
  obtain ⟨delivery, marker, wire, prompt, proof, chain, -, -, hlookup, hproof, -, -, -, -, hagrees⟩ :=
    @producer_agrees_with_validator sampleHost _ _ _ (@projected_sampleTurn sampleHost) sampleConfig
      returning r hr
  exact ⟨r, hr, delivery, marker, wire, proof, hlookup, hproof, fun registration authority =>
    (hagrees registration authority).1⟩

end Yatagarasu.Cmux
