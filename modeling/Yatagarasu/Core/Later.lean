import Yatagarasu.Core.AuditReplay
import Yatagarasu.Core.Footprint

/-! `Later` is what a reducer may rely on while others commit: deliveries only advance, receipts are
only added for deliveries that advanced, and bindings are only revoked. -/

namespace Yatagarasu

open ReceiptReducer

/-- The bindings with these ids, revoked if they were active. -/
def revokedBy (ids : List String) (rows : List SessionBindingRow) : List SessionBindingRow :=
  rows.map fun row =>
    if row.bindingId ∈ ids ∧ row.state = .active then { row with state := .revoked } else row

structure Later (t t' : Tables) : Prop where
  keyed : Keyed t ∧ Keyed t'
  deliveries : ∀ d ∈ t.deliveries, ∃ d' ∈ t'.deliveries, d'.deliveryId = d.deliveryId ∧
    (d' = d ∨ d.state.rank < d'.state.rank)
  known : ∀ d' ∈ t'.deliveries, ∃ d ∈ t.deliveries, d.deliveryId = d'.deliveryId
  receipts : ∃ new, t'.receipts = t.receipts ++ new ∧ ∀ row ∈ new, ∃ d ∈ t.deliveries,
    ∃ d' ∈ t'.deliveries, d.deliveryId = row.deliveryId ∧ d'.deliveryId = row.deliveryId ∧
      d.state.rank < d'.state.rank
  auditLog : t.auditLog <+: t'.auditLog
  providers : t'.providers.map (fun p => (p.providerId, p.kind)) =
    t.providers.map fun p => (p.providerId, p.kind)
  evidence : t'.providerEvidence = t.providerEvidence
  principals : t'.principalBindings = t.principalBindings
  messages : t'.platformMessageBindings = t.platformMessageBindings
  methods : t'.bindingProofMethods = t.bindingProofMethods
  bindings : ∃ ids, t'.sessionBindings = revokedBy ids t.sessionBindings

section Later

variable {s t u : Tables} {r : Receipt} {d d' : Delivery} {id : String}

theorem revokedBy_nil (rows : List SessionBindingRow) : revokedBy [] rows = rows := by
  simp [revokedBy]

theorem revokedBy_revokedBy (ids more : List String) (rows : List SessionBindingRow) :
    revokedBy more (revokedBy ids rows) = revokedBy (ids ++ more) rows := by
  unfold revokedBy
  rw [List.map_map]
  refine List.map_congr_left fun row _ => ?_
  by_cases hs : row.state = .active
  · by_cases hi : row.bindingId ∈ ids
    · simp [hs, hi]
    · simp [hs, hi]
  · simp [hs]

theorem later_refl (hk : Keyed t) : Later t t where
  keyed := ⟨hk, hk⟩
  deliveries d hd := ⟨d, hd, rfl, Or.inl rfl⟩
  known d hd := ⟨d, hd, rfl⟩
  receipts := ⟨[], by simp⟩
  auditLog := List.prefix_rfl
  providers := rfl
  evidence := rfl
  principals := rfl
  messages := rfl
  methods := rfl
  bindings := ⟨[], (revokedBy_nil _).symm⟩

/-- The rank of a delivery never falls. -/
theorem Later.rank_le (h : Later t u) (hd : d ∈ t.deliveries) (hd' : d' ∈ u.deliveries)
    (hid : d.deliveryId = d'.deliveryId) : d' = d ∨ d.state.rank < d'.state.rank := by
  obtain ⟨x, hx, hxid, hcase⟩ := h.deliveries d hd
  obtain rfl := eq_of_deliveryId h.keyed.2 hx hd' (hxid.trans hid)
  exact hcase

theorem Later.trans (h : Later s t) (h' : Later t u) : Later s u := by
  refine ⟨⟨h.keyed.1, h'.keyed.2⟩, ?_, ?_, ?_, h.auditLog.trans h'.auditLog,
    h'.providers.trans h.providers, h'.evidence.trans h.evidence,
    h'.principals.trans h.principals, h'.messages.trans h.messages,
    h'.methods.trans h.methods, ?_⟩
  · intro d hd
    obtain ⟨m, hm, hmid, hmcase⟩ := h.deliveries d hd
    obtain ⟨e, he, heid, hecase⟩ := h'.deliveries m hm
    refine ⟨e, he, heid.trans hmid, ?_⟩
    rcases hmcase with rfl | hlt
    · exact hecase
    · rcases hecase with rfl | hlt'
      · exact Or.inr hlt
      · exact Or.inr (hlt.trans hlt')
  · intro e he
    obtain ⟨m, hm, hmid⟩ := h'.known e he
    obtain ⟨d, hd, hdid⟩ := h.known m hm
    exact ⟨d, hd, hdid.trans hmid⟩
  · obtain ⟨new, hnew, hrows⟩ := h.receipts
    obtain ⟨new', hnew', hrows'⟩ := h'.receipts
    refine ⟨new ++ new', by rw [hnew', hnew, List.append_assoc], fun row hrow => ?_⟩
    rcases List.mem_append.mp hrow with hrow | hrow
    · obtain ⟨d, hd, m, hm, hdid, hmid, hlt⟩ := hrows row hrow
      obtain ⟨e, he, heid, hcase⟩ := h'.deliveries m hm
      refine ⟨d, hd, e, he, hdid, heid.trans hmid, ?_⟩
      rcases hcase with rfl | hlt'
      · exact hlt
      · exact hlt.trans hlt'
    · obtain ⟨m, hm, e, he, hmid, heid, hlt⟩ := hrows' row hrow
      obtain ⟨d, hd, hdid⟩ := h.known m hm
      refine ⟨d, hd, e, he, hdid.trans hmid, heid, ?_⟩
      rcases h.rank_le hd hm hdid with rfl | hlt'
      · exact hlt
      · exact hlt'.trans hlt
  · obtain ⟨ids, hids⟩ := h.bindings
    obtain ⟨more, hmore⟩ := h'.bindings
    exact ⟨ids ++ more, by rw [hmore, hids, revokedBy_revokedBy]⟩

theorem Later.receiptRecord_some (h : Later t u) {row : ReceiptRow}
    (hrow : t.receiptRecord id = some row) : u.receiptRecord id = some row := by
  obtain ⟨new, hnew, -⟩ := h.receipts
  unfold Tables.receiptRecord at hrow ⊢
  rw [hnew, List.find?_append, hrow, Option.some_or]

/-- A delivery that is the same at both ends did not change in between. -/
theorem Later.settled (h : Later s t) (h' : Later t u) (hs : s.getDelivery id = some d)
    (hu : u.getDelivery id = some d') (hstate : d'.state = d.state) :
    d' = d ∧ t.getDelivery id = some d := by
  obtain ⟨hds, rfl⟩ := (getDelivery_eq_some h.keyed.1).mp hs
  obtain ⟨hdu, hid⟩ := (getDelivery_eq_some h'.keyed.2).mp hu
  obtain ⟨m, hm, hmid, hcase⟩ := h.deliveries d hds
  have hcase' := h'.rank_le hm hdu (hmid.trans hid.symm)
  rw [getDelivery_eq_some h'.keyed.1]
  rcases hcase with rfl | hlt
  · rcases hcase' with rfl | hlt'
    · exact ⟨rfl, hm, hmid⟩
    · rw [hstate] at hlt'
      omega
  · rcases hcase' with rfl | hlt'
    · rw [hstate] at hlt
      omega
    · rw [hstate] at hlt'
      omega

theorem Later.receiptsFor_eq (h : Later t u) (ht : t.getDelivery id = some d)
    (hu : u.getDelivery id = some d) : u.receiptsFor id = t.receiptsFor id := by
  obtain ⟨new, hnew, hrows⟩ := h.receipts
  obtain ⟨hdt, rfl⟩ := (getDelivery_eq_some h.keyed.1).mp ht
  obtain ⟨hdu, -⟩ := (getDelivery_eq_some h.keyed.2).mp hu
  unfold Tables.receiptsFor
  rw [hnew, List.filter_append]
  have hnone : new.filter (·.deliveryId = d.deliveryId) = [] := by
    refine List.filter_eq_nil_iff.mpr fun row hrow hid => ?_
    have hid : row.deliveryId = d.deliveryId := by simpa using hid
    obtain ⟨x, hx, y, hy, hxid, hyid, hlt⟩ := hrows row hrow
    obtain rfl := eq_of_deliveryId h.keyed.1 hx hdt (hxid.trans hid)
    obtain rfl := eq_of_deliveryId h.keyed.2 hy hdu (hyid.trans hid)
    exact lt_irrefl _ hlt
  rw [hnone, List.append_nil]

end Later

section Changes

variable {t u : Tables} {r : Receipt} {d : Delivery} {next : Transition}

/-- A change of rows that reducers do not read. -/
theorem later_of_eq (hk : Keyed t) (hd : u.deliveries = t.deliveries)
    (hr : u.receipts = t.receipts) (ha : u.auditLog = t.auditLog)
    (hp : u.providers.map (fun p => (p.providerId, p.kind)) =
      t.providers.map fun p => (p.providerId, p.kind))
    (he : u.providerEvidence = t.providerEvidence)
    (hpr : u.principalBindings = t.principalBindings)
    (hm : u.platformMessageBindings = t.platformMessageBindings)
    (hpm : u.bindingProofMethods = t.bindingProofMethods)
    (hb : ∃ ids, u.sessionBindings = revokedBy ids t.sessionBindings) : Later t u := by
  obtain ⟨ids, hids⟩ := hb
  have hk' : Keyed u := by
    refine ⟨hd ▸ hk.deliveries, ?_⟩
    rw [hids]
    unfold revokedBy
    have h := map_bindingId_of_state t.sessionBindings
      (fun row => decide (row.bindingId ∈ ids ∧ row.state = .active)) .revoked
    simp only [decide_eq_true_eq] at h
    rw [h]
    exact hk.sessionBindings
  refine ⟨⟨hk, hk'⟩, fun d hmem => ⟨d, hd ▸ hmem, rfl, Or.inl rfl⟩, fun d hmem => ⟨d, hd ▸ hmem, rfl⟩,
    ⟨[], by simp [hr]⟩, ha ▸ List.prefix_rfl, hp, he, hpr, hm, hpm, ids, hids⟩

theorem later_withRejection (hk : Keyed t) (reason : String) :
    Later t (withRejection t r reason) :=
  later_of_eq hk rfl rfl rfl rfl rfl rfl rfl rfl ⟨[], (revokedBy_nil _).symm⟩

theorem later_withDegraded (hk : Keyed t) (providerId : String) :
    Later t (withDegraded t providerId) := by
  refine later_of_eq hk rfl rfl rfl ?_ rfl rfl rfl rfl ⟨[], (revokedBy_nil _).symm⟩
  unfold withDegraded
  rw [List.map_map]
  refine List.map_congr_left fun row _ => ?_
  by_cases h : row.providerId = providerId <;> simp [h]

theorem revokeActive_eq (bindingId : String) (t : Tables) :
    (CoreStore.revokeActive bindingId t).1 =
      { t with sessionBindings := revokedBy [bindingId] t.sessionBindings } := by
  simp [CoreStore.revokeActive, revokedBy]

theorem later_revoked (hk : Keyed t) (bindingId : String) :
    Later t (CoreStore.revokeActive bindingId t).1 := by
  rw [revokeActive_eq]
  exact later_of_eq hk rfl rfl rfl rfl rfl rfl rfl rfl ⟨_, rfl⟩

/-- Only `d` moves, and forwards; receipts are added for nothing else. -/
theorem later_moved (hk : Keyed t) (hd : d ∈ t.deliveries) {f : Delivery → Delivery}
    (hf : ∀ d, (f d).deliveryId = d.deliveryId) (hlt : d.state.rank < (f d).state.rank)
    {rows : List ReceiptRow} (hrows : ∀ row ∈ rows, row.deliveryId = d.deliveryId)
    (audit : List AuditRow) :
    Later t { t with deliveries := moved t.deliveries d f, receipts := t.receipts ++ rows
                     auditLog := t.auditLog ++ audit } := by
  refine ⟨⟨hk, ⟨moved_nodup hk.deliveries d hf, hk.sessionBindings⟩⟩, ?_, ?_, ⟨rows, rfl, ?_⟩,
    List.prefix_append _ _, rfl, rfl, rfl, rfl, rfl, [], (revokedBy_nil _).symm⟩
  · intro x hx
    by_cases hid : x.deliveryId = d.deliveryId
    · obtain rfl := eq_of_deliveryId hk hx hd hid
      exact ⟨f x, (mem_moved hk hd).mpr (Or.inl rfl), hf x, Or.inr hlt⟩
    · exact ⟨x, (mem_moved hk hd).mpr (Or.inr ⟨hx, hid⟩), rfl, Or.inl rfl⟩
  · intro x hx
    rcases (mem_moved hk hd).mp hx with rfl | ⟨hx, -⟩
    · exact ⟨d, hd, (hf d).symm⟩
    · exact ⟨x, hx, rfl⟩
  · intro row hrow
    exact ⟨d, hd, f d, (mem_moved hk hd).mpr (Or.inl rfl), (hrows row hrow).symm,
      (hf d).trans (hrows row hrow).symm, hlt⟩

theorem later_dispatched (hk : Keyed t) (hd : d ∈ t.deliveries) (hq : d.state = .queued) :
    Later t { t with deliveries := moved t.deliveries d fun d =>
      { d with state := .dispatching } } := by
  have hlt : d.state.rank < DeliveryState.dispatching.rank := by
    rw [hq]
    exact Nat.zero_lt_one
  have hnone : ∀ row ∈ ([] : List ReceiptRow), row.deliveryId = d.deliveryId := by simp
  have h := later_moved hk hd (f := fun d => { d with state := .dispatching }) (fun _ => rfl) hlt
    hnone []
  simpa using h

theorem later_setDispatching (hk : Keyed t) (deliveryId : String) :
    Later t (t.updateDelivery deliveryId .queued fun d => { d with state := .dispatching }).1 := by
  by_cases hn : (t.updateDelivery deliveryId .queued fun d =>
      { d with state := .dispatching }).2 = 1
  · obtain ⟨d, hd, -, hq, hmoved⟩ := updateDelivery_hit hn
    rw [hmoved]
    exact later_dispatched hk hd hq
  · rw [updateDelivery_idle hk hn]
    exact later_refl hk

theorem later_accepted {bindingId : String} {proof : ProofFields} (hk : Keyed t)
    (hd : d ∈ t.deliveries) (hlt : d.state.rank < next.1.rank) :
    Later t (accepted t r d next bindingId proof) := by
  refine later_moved hk hd (f := fun d => { d with state := next.1, disposition := next.2 })
    (fun _ => rfl) hlt (fun row hrow => ?_) _
  rw [List.mem_singleton.mp hrow]
  rfl

end Changes

section Reads

variable {s t u : Tables} {r : Receipt} {d : Delivery}

/-- No stored receipt has the id of `r` or its source event. -/
structure Unclaimed (r : Receipt) (t : Tables) : Prop where
  record : t.receiptRecord r.receiptId = none
  source : ∀ source, present r.sourceEventId = some source →
    t.sourceSeen r.evidenceProviderId source = false

theorem Later.unclaimed (h : Later t u) (hu : Unclaimed r u) : Unclaimed r t := by
  obtain ⟨new, hnew, -⟩ := h.receipts
  refine ⟨?_, fun source hsource => ?_⟩
  · have hrecord := hu.record
    rw [Tables.receiptRecord, hnew, List.find?_append] at hrecord
    exact (Option.or_eq_none_iff.mp hrecord).1
  · have hseen := hu.source source hsource
    rw [Tables.sourceSeen, hnew, List.any_append] at hseen
    exact (Bool.or_eq_false_iff.mp hseen).1

theorem kind_of_find {rows rows' : List ProviderRow} {providerId : String}
    (h : rows'.map (fun p => (p.providerId, p.kind)) = rows.map fun p => (p.providerId, p.kind)) :
    (rows'.find? (·.providerId = providerId)).map (·.kind) =
      (rows.find? (·.providerId = providerId)).map (·.kind) := by
  have key : ∀ rows : List ProviderRow, (rows.find? (·.providerId = providerId)).map (·.kind) =
      ((rows.map fun p => (p.providerId, p.kind)).find? (·.1 = providerId)).map (·.2) := by
    intro rows
    rw [List.find?_map, Option.map_map]
    rfl
  rw [key, key, h]

/-- While its delivery stays and nothing claims its id, the validators see the same facts. -/
theorem Later.agree (h : Later t u) (ht : t.getDelivery r.deliveryId = some d)
    (hu : u.getDelivery r.deliveryId = some d) (hfree : Unclaimed r u) : Agree r t u where
  kind := (kind_of_find h.providers).symm
  evidence := h.evidence.symm
  principals := h.principals.symm
  messages := h.messages.symm
  methods := h.methods.symm
  entry := by
    rw [Tables.sessionEntryChain_eq_receiptsFor, Tables.sessionEntryChain_eq_receiptsFor,
      h.receiptsFor_eq ht hu]
  seen source hsource := by
    rw [hfree.source source hsource, (h.unclaimed hfree).source source hsource]

theorem sessionBinding_revokedBy (ids : List String) (rows : List SessionBindingRow)
    (bindingId : Option String) :
    (revokedBy ids rows).find? (fun row => some row.bindingId = bindingId) =
      (rows.find? fun row => some row.bindingId = bindingId).map fun row =>
        if row.bindingId ∈ ids ∧ row.state = .active then { row with state := .revoked }
        else row := by
  unfold revokedBy
  rw [List.find?_map]
  congr 2
  funext row
  by_cases h : row.bindingId ∈ ids ∧ row.state = .active <;> simp [h]

/-- A binding is unchanged, or it was active and was revoked. -/
theorem Later.sessionBinding (h : Later t u) (bindingId : Option String) :
    u.sessionBinding bindingId = t.sessionBinding bindingId ∨
      ∃ row, u.sessionBinding bindingId = some row ∧ row.state ≠ .active := by
  obtain ⟨ids, hids⟩ := h.bindings
  unfold Tables.sessionBinding
  rw [hids, sessionBinding_revokedBy]
  cases t.sessionBindings.find? fun row => some row.bindingId = bindingId with
  | none => exact Or.inl rfl
  | some row =>
    by_cases hrow : row.bindingId ∈ ids ∧ row.state = .active
    · exact Or.inr ⟨_, rfl, by simp [hrow]⟩
    · exact Or.inl (by simp [hrow])

end Reads

end Yatagarasu
