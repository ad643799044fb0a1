import Yatagarasu.Cmux.Duplicates
import Yatagarasu.Cmux.ProofAgreement
import Yatagarasu.Core.Resubmission
import Yatagarasu.Core.Verdicts

/-! A fresh producer on the rows of the outbox emits every receipt of the past again, in the same
order. The core takes each of them once. -/

namespace Yatagarasu.Cmux

open PyJson ReceiptReducer Sqlite

section Receipts

variable [Host] {config : EmitterConfig} {events : List DerivedEvent} {event : DerivedEvent}
  {r : Receipt}

theorem recovered_append (events : List DerivedEvent) (event : DerivedEvent) :
    recovered config (events ++ [event]) = (recovered config events).after returning
      ((recovered config events).state.observe config event) := by
  rw [recovered, Production.run_append]
  rfl

theorem recovered_emitted (events : List DerivedEvent) (event : DerivedEvent) :
    (recovered config (events ++ [event])).emitted = (recovered config events).emitted ++
      ((recovered config events).state.observe config event).receipt.toList := by
  rw [recovered_append]
  rfl

theorem recovered_mono (events later : List DerivedEvent) :
    (recovered config events).emitted <+: (recovered config (events ++ later)).emitted := by
  induction later using List.reverseRecOn with
  | nil => simp
  | append_singleton later event ih =>
    rw [← List.append_assoc, recovered_emitted]
    exact ih.trans (List.prefix_append _ _)

theorem translate_observedAt {obs : TranslatedObservation}
    (h : translateDerivedEvent event = .ok obs) : obs.observedAt ≠ "" := by
  unfold translateDerivedEvent at h
  split at h
  · cases h
  · split at h
    · cases h
    split at h
    · cases h
    rename_i observedAt hpresent
    cases h
    unfold present at hpresent
    rw [Option.filter_eq_some_iff] at hpresent
    simpa using hpresent.2
  · cases h

/-- What every emitted receipt looks like. -/
structure WellMade (config : EmitterConfig) (events : List DerivedEvent) (r : Receipt) : Prop where
  harness : r.evidenceClass ∈ sessionProofEvidence
  audited : ¬ (r.proofMethod = "" ∨ r.observedAt = "")
  proof : ∃ (proof : SessionProof) (delivery : Delivery) (marker : DeliveryMarker) (id : String)
    (chain : List SourceEventRef), r.proof = some (.typed proof) ∧
    config.deliveryLookup id = some (delivery, marker) ∧ proof.marker = .typed marker ∧
    proof.sourceEvents = .tuple (chain.map .typed) ∧
    (∀ ref ∈ chain, ref.sourceEventId ∈ events.map (·.sourceEventId)) ∧
    ∃ last ∈ chain, r.receiptId = "rec-" ++ last.sourceEventId ∧
      r.sourceEventId = some last.sourceEventId

theorem wellMade (hr : r ∈ (recovered config events).emitted) : WellMade config events r := by
  obtain ⟨delivery, marker, wire, parts, hemission⟩ := emission_run config returning events hr
  obtain ⟨disposition, session, last, hmade, hlast, -⟩ := hemission.made
  have hobserved : last ∈ observations events :=
    hemission.observed.subset (List.mem_of_getLast? hlast)
  obtain ⟨event, -, htranslate⟩ := mem_observations.mp hobserved
  refine ⟨?_, ?_, ?_⟩
  · have hnames := hemission.names
    cases hclass : r.evidenceClass <;> rw [hclass] at hnames <;>
      first | cases hnames | decide
  · rw [hmade]
    rintro (hmethod | hmissing)
    · have hempty : "cmux.event_bus.harness_hook_relay" = "" := hmethod
      exact absurd hempty (by decide)
    · exact translate_observedAt htranslate hmissing
  · refine ⟨{ sessionId := session, marker := .typed marker
              sourceEvents := .tuple ((parts.map (·.sourceEvent)).map .typed) }, delivery, marker,
      wire.deliveryId, parts.map (·.sourceEvent), ?_, hemission.resolved, rfl, rfl, ?_,
      last.sourceEvent, List.mem_map_of_mem (List.mem_of_getLast? hlast), ?_, ?_⟩
    · rw [hmade]
      rfl
    · intro ref href
      obtain ⟨obs, hobs, rfl⟩ := List.mem_map.mp href
      obtain ⟨source, hsource, htranslated⟩ :=
        mem_observations.mp (hemission.observed.subset hobs)
      rw [(translate_eq_ok htranslated).2.2.2.1]
      exact List.mem_map_of_mem hsource
    · rw [hmade]
      rfl
    · rw [hmade]
      rfl

omit [Host] in
theorem WellMade.shaped (h : WellMade config events r) : r.proof ≠ some .other := by
  obtain ⟨proof, _, _, _, _, hproof, -⟩ := h.proof
  rw [hproof]
  intro hother
  cases hother

/-- A receipt of the last event carries its id. -/
theorem receipt_named (hr : r ∈ ((recovered config events).state.observe config event).receipt) :
    r.sourceEventId = some event.sourceEventId := by
  unfold ProducerState.observe at hr
  cases htranslate : translateDerivedEvent event with
  | error e =>
    rw [htranslate] at hr
    cases hr
  | ok obs =>
    rw [htranslate] at hr
    obtain ⟨new, hnew, hnamed⟩ := feed_emitted config returning (recovered config events) obs
    have hemitted : new = ((recovered config events).state.feed config obs).receipt.toList :=
      (List.append_cancel_left hnew).symm
    rw [← (translate_eq_ok htranslate).2.2.2.1]
    refine hnamed r ?_
    rw [hemitted, hr]
    exact List.mem_singleton_self r

omit [Host] in
theorem WellMade.chain (h : WellMade config events r) : ∃ chain, r.chain = some chain ∧
    (∀ ref ∈ chain, ref.sourceEventId ∈ events.map (·.sourceEventId)) ∧
    ∃ last ∈ chain, r.receiptId = "rec-" ++ last.sourceEventId ∧
      r.sourceEventId = some last.sourceEventId := by
  obtain ⟨proof, _, _, _, chain, hproof, -, -, hsource, hknown, hlast⟩ := h.proof
  refine ⟨chain, ?_, hknown, hlast⟩
  unfold Receipt.chain
  rw [hproof]
  dsimp only
  rw [hsource]
  exact typedEvents_map

/-- A receipt of the last event names an event that no earlier receipt knows. -/
theorem receipt_fresh (hnodup : ((events ++ [event]).map (·.sourceEventId)).Nodup)
    {last : Receipt} (hlast : last ∈ ((recovered config events).state.observe config event).receipt)
    (hr : r ∈ (recovered config events).emitted) :
    ¬ r.Extends last ∧ r.receiptId ≠ last.receiptId := by
  have hmade : WellMade config (events ++ [event]) last := by
    refine wellMade ?_
    rw [recovered_emitted, show _ = some last from hlast]
    exact List.mem_append_right _ (List.mem_singleton_self _)
  obtain ⟨chain, hchain, hknown, old, hold, hid, -⟩ := (wellMade hr).chain
  obtain ⟨chain', hchain', -, new, hnew, hid', hsource⟩ := hmade.chain
  have hnamed : new.sourceEventId = event.sourceEventId :=
    Option.some.inj (hsource.symm.trans (receipt_named hlast))
  rw [List.map_append, List.nodup_append] at hnodup
  have hunknown : event.sourceEventId ∉ events.map (·.sourceEventId) := fun hmem =>
    hnodup.2.2 _ hmem event.sourceEventId (by simp) rfl
  refine ⟨?_, ?_⟩
  · rintro ⟨shown, hshown, hentry⟩
    rw [hchain, Option.some.injEq] at hshown
    rw [hchain', Option.some.injEq] at hentry
    subst hshown hentry
    exact hunknown (hnamed ▸ hknown new (List.mem_of_mem_dropLast hnew))
  · intro hsame
    rw [hid, hid', String.append_right_inj] at hsame
    exact hunknown (hnamed ▸ hsame ▸ hknown old hold)

/-- No receipt extends a later one. -/
theorem recovered_order (hnodup : (events.map (·.sourceEventId)).Nodup) :
    (recovered config events).emitted.Pairwise fun r later => ¬ r.Extends later := by
  induction events using List.reverseRecOn with
  | nil => exact List.Pairwise.nil
  | append_singleton events event ih =>
    have hbefore : (events.map (·.sourceEventId)).Nodup := by
      rw [List.map_append] at hnodup
      exact hnodup.of_append_left
    rw [recovered_emitted, List.pairwise_append]
    refine ⟨ih hbefore, ?_, fun r hr last hlast => (receipt_fresh hnodup ?_ hr).1⟩
    · cases ((recovered config events).state.observe config event).receipt with
      | none => exact List.Pairwise.nil
      | some last => exact List.pairwise_singleton _ _
    · exact Option.mem_toList.mp hlast

end Receipts

section Core

variable [Host] {config : EmitterConfig} {authority : Option MarkerAuthority}
  {events : List DerivedEvent} {event : DerivedEvent} {r : Receipt} {c core : CoreStore}

variable (config authority) in
/-- The core after every receipt of the events. -/
def reported (events : List DerivedEvent) (c : CoreStore) : CoreStore :=
  run ((recovered config events).emitted.map (.submit authority)) c

theorem reported_silent
    (h : ((recovered config events).state.observe config event).receipt = none) :
    reported config authority (events ++ [event]) c = reported config authority events c := by
  unfold reported
  rw [recovered_emitted, h, Option.toList_none, List.append_nil]

theorem reported_append
    (h : ((recovered config events).state.observe config event).receipt = some r) :
    reported config authority (events ++ [event]) c =
      (CoreStore.submit authority r (reported config authority events c)).2 := by
  unfold reported
  rw [recovered_emitted, h, Option.toList_some, List.map_append, run_append]
  rfl

/-- A receipt that is emitted again is not accepted again. -/
theorem reported_spent (hs : Sound c) (hnodup : (events.map (·.sourceEventId)).Nodup)
    (hview : view core.working = view (reported config authority events c).working)
    (hr : r ∈ (recovered config events).emitted) : ¬ Accepting authority core.working r := by
  intro haccepting
  have hspent : ¬ Accepting authority (reported config authority events c).working r :=
    spent_submits hs (fun r hr => (wellMade hr).harness) (recovered_order hnodup) r hr
  exact hspent (accepting_of_view hview haccepting)

/-- Every marker that the lookup hands out has an ASCII signature, as a minted one does. -/
def Minted (config : EmitterConfig) : Prop :=
  ∀ id delivery marker, config.deliveryLookup id = some (delivery, marker) → Ascii marker.signature

/-- The core raises on no receipt whose marker was minted. -/
theorem WellMade.answered (h : WellMade config events r) (hclean : Clean c) (hdigest : HexDigests)
    (hminted : Minted config) : ∃ res, (CoreStore.submit authority r c).1 = .ok res := by
  obtain ⟨proof, delivery, marker, id, chain, hproof, hlookup, hmarked, hsource, -⟩ := h.proof
  have htyped : proof.sourceEvents.typedTuple = some chain := by
    rw [hsource]
    exact typedEvents_map
  have hformed : ¬ Malformed r.proof := not_malformed hproof hmarked htyped
  cases hres : (CoreStore.submit authority r c).1 with
  | ok res => exact ⟨res, rfl⟩
  | error e =>
    obtain ⟨-, hraises⟩ := (submit_raises_iff hclean hdigest).mp ⟨e, hres⟩
    cases hraises with
    | repeated _ hmalformed => exact absurd hmalformed hformed
    | stored _ hclass => exact absurd h.harness hclass
    | compared _ _ hcompared =>
      cases hproof.symm.trans hcompared.carried
      cases hmarked.symm.trans hcompared.marked
      exact absurd (hminted id delivery marker hlookup) hcompared.signature

end Core

end Yatagarasu.Cmux
