import Mathlib.Data.List.Induction
import Yatagarasu.Core.Broadcasts
import Yatagarasu.Core.Reduction

/-! Every operation that the store, the broadcast kernel and the reducer offer, and what one of them
can change. `accept_receipt` is the commit of `submit` and of nothing else. -/

namespace Yatagarasu

open Sqlite

inductive Op
  | addDelivery (delivery : Delivery)
  | replaceRoomRoster (roomId : String) (recipients : List String)
  | setDispatching (deliveryId : String)
  | registerProvider (providerId : String) (kind : ProviderKind) (classes : List EvidenceClass)
  | registerSessionBinding (binding : SessionBinding)
  | supersedeSessionBinding (oldBindingId : String) (replacement : SessionBinding)
  | revokeSessionBinding (bindingId : String)
  | bindPrincipal (providerId platformPrincipalId recipientId : String)
  | bindPlatformMessage (providerId platformMessageId eventId deliveryId attemptId : String)
  | markProviderDegraded (providerId : String)
  | recordRejection (receipt : Receipt) (reason : String)
  | broadcast (ids : IdFactory) (actorId roomId content acceptedAt : String)
  | submit (authority : Option MarkerAuthority) (receipt : Receipt)
  -- the store is closed and opened again: what was not committed is gone
  | reopen

namespace Op

/-- The store after the operation, whether it returned or raised. -/
def exec [Host] : Op → CoreStore → CoreStore
  | addDelivery delivery, c => ((CoreStore.addDelivery delivery).exec c).2
  | replaceRoomRoster roomId recipients, c =>
    ((CoreStore.replaceRoomRoster roomId recipients).exec c).2
  | setDispatching deliveryId, c => ((CoreStore.setDispatching deliveryId).exec c).2
  | registerProvider providerId kind classes, c =>
    ((CoreStore.registerProvider providerId kind classes).exec c).2
  | registerSessionBinding binding, c => ((CoreStore.registerSessionBinding binding).exec c).2
  | supersedeSessionBinding oldBindingId replacement, c =>
    ((CoreStore.supersedeSessionBinding oldBindingId replacement).exec c).2
  | revokeSessionBinding bindingId, c => ((CoreStore.revokeSessionBinding bindingId).exec c).2
  | bindPrincipal providerId platformPrincipalId recipientId, c =>
    ((CoreStore.bindPrincipal providerId platformPrincipalId recipientId).exec c).2
  | bindPlatformMessage providerId platformMessageId eventId deliveryId attemptId, c =>
    ((CoreStore.bindPlatformMessage providerId platformMessageId eventId deliveryId
      attemptId).exec c).2
  | markProviderDegraded providerId, c => ((CoreStore.markProviderDegraded providerId).exec c).2
  | recordRejection receipt reason, c => ((CoreStore.recordRejection receipt reason).exec c).2
  | broadcast ids actorId roomId content acceptedAt, c =>
    ((BroadcastKernel.broadcast ids actorId roomId content acceptedAt).exec c).2
  | submit authority receipt, c => (CoreStore.submit authority receipt c).2
  | reopen, c => { committed := c.committed, working := c.committed }

/-- What a caller of `add_delivery` promises of the delivery. -/
def Enters (P : Delivery → Prop) : Op → Prop
  | addDelivery delivery => P delivery
  | _ => True

end Op

def run [Host] (ops : List Op) (c : CoreStore) : CoreStore := ops.foldl (fun c op => op.exec c) c

/-- The primary keys that the guarded updates rely on. -/
structure Keyed (t : Tables) : Prop where
  deliveries : (t.deliveries.map (·.deliveryId)).Nodup
  sessionBindings : (t.sessionBindings.map (·.bindingId)).Nodup

/-- Deliveries may enter; no evidence changes. -/
structure Grows (P : Delivery → Prop) (t t' : Tables) : Prop where
  receipts : t'.receipts = t.receipts
  auditLog : t'.auditLog = t.auditLog
  deliveries : ∃ new, t'.deliveries = t.deliveries ++ new ∧ ∀ d ∈ new, P d
  keyed : Keyed t → Keyed t'

section Grows

variable {P : Delivery → Prop} {t t' u : Tables}

theorem grows_refl (P : Delivery → Prop) (t : Tables) : Grows P t t :=
  ⟨rfl, rfl, ⟨[], by simp⟩, id⟩

theorem grows_trans (h : Grows P t t') (h' : Grows P t' u) : Grows P t u := by
  obtain ⟨new, hnew, hP⟩ := h.deliveries
  obtain ⟨new', hnew', hP'⟩ := h'.deliveries
  refine ⟨h'.receipts.trans h.receipts, h'.auditLog.trans h.auditLog,
    ⟨new ++ new', by rw [hnew', hnew, List.append_assoc], ?_⟩, h'.keyed ∘ h.keyed⟩
  intro d hd
  rcases List.mem_append.mp hd with hd | hd
  · exact hP d hd
  · exact hP' d hd

instance : IsPreorder Tables (Grows P) where
  refl := grows_refl P
  trans _ _ _ := grows_trans

/-- A statement on another table. -/
theorem grows_of_eq (hd : t'.deliveries = t.deliveries) (hr : t'.receipts = t.receipts)
    (ha : t'.auditLog = t.auditLog)
    (hb : t'.sessionBindings.map (·.bindingId) = t.sessionBindings.map (·.bindingId)) :
    Grows P t t' := by
  refine ⟨hr, ha, ⟨[], by simp [hd]⟩, ?_⟩
  intro hk
  exact ⟨hd ▸ hk.deliveries, hb ▸ hk.sessionBindings⟩

theorem grows_of_guard {p : Prop} [Decidable p] (h : (if p then none else some u) = some t')
    (hu : Grows P t u) : Grows P t t' := by
  split at h
  · cases h
  · cases h
    exact hu

theorem insertDelivery_grows {d : Delivery} (hd : P d) (h : t.insertDelivery d = some t') :
    Grows P t t' := by
  unfold Tables.insertDelivery at h
  split at h
  · cases h
  rename_i hfresh
  cases h
  refine ⟨rfl, rfl, ⟨[d], rfl, by simpa using hd⟩, ?_⟩
  intro hk
  refine ⟨?_, hk.sessionBindings⟩
  rw [List.map_append]
  refine hk.deliveries.append (List.nodup_singleton _) ?_
  intro id hid hsame
  obtain ⟨old, hold, rfl⟩ := List.mem_map.mp hid
  obtain hsame := List.mem_singleton.mp hsame
  exact hfresh (List.any_eq_true.mpr ⟨old, hold, by simpa using hsame⟩)

theorem insertSessionBindingRow_grows {row : SessionBindingRow}
    (h : t.insertSessionBindingRow row = some t') : Grows P t t' := by
  unfold Tables.insertSessionBindingRow at h
  split at h
  · cases h
  rename_i hfresh
  cases h
  refine ⟨rfl, rfl, ⟨[], by simp⟩, ?_⟩
  intro hk
  refine ⟨hk.deliveries, ?_⟩
  rw [List.map_append]
  refine hk.sessionBindings.append (List.nodup_singleton _) ?_
  intro id hid hsame
  obtain ⟨old, hold, rfl⟩ := List.mem_map.mp hid
  obtain hsame := List.mem_singleton.mp hsame
  exact hfresh (Or.inl (List.any_eq_true.mpr ⟨old, hold, by simpa using hsame⟩))

theorem map_bindingId_of_state (rows : List SessionBindingRow) (p : SessionBindingRow → Bool)
    (state : BindingState) :
    (rows.map fun row => if p row then { row with state } else row).map (·.bindingId) =
      rows.map (·.bindingId) := by
  rw [List.map_map]
  refine List.map_congr_left fun row _ => ?_
  by_cases hp : p row <;> simp [hp]

theorem setBindingState_grows {bindingId : String} {state : BindingState}
    (h : CoreStore.setBindingState bindingId state t = some t') : Grows P t t' := by
  cases h
  refine grows_of_eq rfl rfl rfl ?_
  simpa using map_bindingId_of_state t.sessionBindings (fun row => row.bindingId = bindingId) state

end Grows

section Blocks

variable {P : Delivery → Prop}

theorem insertRoomMembers_grows (roomId : String) (ordinal : Nat) (recipients : List String) :
    Preserves (Grows P) (CoreStore.insertRoomMembers roomId ordinal recipients) := by
  induction recipients generalizing ordinal with
  | nil => exact preserves_pure ()
  | cons recipientId rest ih =>
    refine preserves_bind (preserves_insert fun s t h => ?_) fun _ => ih (ordinal + 1)
    exact grows_of_guard h (grows_of_eq rfl rfl rfl rfl)

theorem insertEvidenceClasses_grows (providerId : String) (classes : List EvidenceClass) :
    Preserves (Grows P) (CoreStore.insertEvidenceClasses providerId classes) := by
  induction classes with
  | nil => exact preserves_pure ()
  | cons evidenceClass rest ih =>
    refine preserves_bind (preserves_insert fun s t h => ?_) fun _ => ih
    exact grows_of_guard h (grows_of_eq rfl rfl rfl rfl)

theorem insertProofMethods_grows (bindingId : String) (methods : List ProofMethodRegistration) :
    Preserves (Grows P) (CoreStore.insertProofMethods bindingId methods) := by
  induction methods with
  | nil => exact preserves_pure ()
  | cons registration rest ih =>
    refine preserves_bind (preserves_insert fun s t h => ?_) fun _ => ih
    exact grows_of_guard h (grows_of_eq rfl rfl rfl rfl)

theorem insertSessionBinding_grows (binding : SessionBinding) :
    Preserves (Grows P) (CoreStore.insertSessionBinding binding) :=
  preserves_bind (preserves_insert fun _ _ h => insertSessionBindingRow_grows h)
    fun _ => insertProofMethods_grows _ _

theorem replaceRoomRoster_leaves (roomId : String) (recipients : List String) :
    Leaves (Grows P) (CoreStore.replaceRoomRoster roomId recipients) := by
  unfold CoreStore.replaceRoomRoster
  split
  · exact leaves_throw _
  split
  · exact leaves_throw _
  refine leaves_withConnection (preserves_bind ?_ fun _ =>
    preserves_bind ?_ fun _ => insertRoomMembers_grows _ _ _)
  · refine preserves_insert fun s t h => ?_
    cases h
    exact grows_of_eq rfl rfl rfl rfl
  · refine preserves_insert fun s t h => ?_
    cases h
    exact grows_of_eq rfl rfl rfl rfl

theorem registerProvider_leaves (providerId : String) (kind : ProviderKind)
    (classes : List EvidenceClass) :
    Leaves (Grows P) (CoreStore.registerProvider providerId kind classes) := by
  refine leaves_withConnection (preserves_bind ?_ fun _ =>
    insertEvidenceClasses_grows _ _)
  exact preserves_insert fun s t h => grows_of_guard h (grows_of_eq rfl rfl rfl rfl)

theorem leaves_query {α : Type} (f : Tables → Except PyError α) :
    Leaves (Grows P) (CoreStore.query f) :=
  fun c hc => ⟨hc, grows_refl P c.working⟩

theorem leaves_onIntegrityError {α : Type} {x : Method α} {e : PyError} (h : Leaves (Grows P) x) :
    Leaves (Grows P) (CoreStore.onIntegrityError x e) := by
  intro c hc
  have hx := h c hc
  have heq : ((CoreStore.onIntegrityError x e).exec c).2 = (x.exec c).2 := by
    unfold CoreStore.onIntegrityError
    simp only [Action.exec, ExceptT.run, StateT.run]
    split <;> simp_all
  rwa [heq]

theorem registerSessionBinding_leaves [Host] (binding : SessionBinding) :
    Leaves (Grows P) (CoreStore.registerSessionBinding binding) :=
  leaves_bind (leaves_query _) fun _ => leaves_onIntegrityError
    (leaves_withConnection (insertSessionBinding_grows binding))

theorem supersedeSessionBinding_leaves [Host] (oldBindingId : String)
    (replacement : SessionBinding) :
    Leaves (Grows P) (CoreStore.supersedeSessionBinding oldBindingId replacement) := by
  refine leaves_bind (leaves_query _) fun _ =>
    leaves_withConnection (preserves_bind ?_ fun _ =>
      insertSessionBinding_grows replacement)
  exact preserves_insert fun _ _ h => setBindingState_grows h

theorem insertSeats_grows (hP : ∀ d : Delivery, d.state = .queued → d.disposition = none → P d)
    (broadcastId eventId : String) (ordinal : Nat) (seats : List (String × Seat)) :
    Preserves (Grows P) (BroadcastKernel.insertSeats broadcastId eventId ordinal seats) := by
  induction seats generalizing ordinal with
  | nil => exact preserves_pure ()
  | cons seat rest ih =>
    refine preserves_bind ?_ fun _ => preserves_bind ?_ fun _ => ih _
    · exact preserves_insert fun _ _ h => insertDelivery_grows (hP _ rfl rfl) h
    · exact preserves_insert fun _ _ h => grows_of_guard h (grows_of_eq rfl rfl rfl rfl)

theorem expandBlock_grows [Host]
    (hP : ∀ d : Delivery, d.state = .queued → d.disposition = none → P d) (ids : IdFactory)
    (actorId roomId content acceptedAt broadcastId eventId : String) :
    Preserves (Grows P) (BroadcastKernel.expandBlock ids actorId roomId content acceptedAt
      broadcastId eventId) := by
  have hexpansion : ∀ roster rows, Preserves (Grows P) (BroadcastKernel.expansion actorId roomId
      content acceptedAt broadcastId eventId roster rows) := by
    intro roster rows
    refine preserves_bind ?_ fun _ => preserves_bind ?_ fun _ =>
      preserves_bind (insertSeats_grows hP _ _ _ _) fun _ => ?_
    all_goals
      exact preserves_insert fun _ _ h => grows_of_guard h (grows_of_eq rfl rfl rfl rfl)
  intro s a t h
  simp only [StateT.run, BroadcastKernel.expandBlock] at h
  split at h
  · cases h
  split at h
  · cases h
  split at h
  · cases h
  exact hexpansion _ _ s a t h

theorem broadcast_leaves [Host]
    (hP : ∀ d : Delivery, d.state = .queued → d.disposition = none → P d) (ids : IdFactory)
    (actorId roomId content acceptedAt : String) :
    Leaves (Grows P) (BroadcastKernel.broadcast ids actorId roomId content acceptedAt) := by
  unfold BroadcastKernel.broadcast
  split
  · exact leaves_throw _
  refine leaves_bind (leaves_query _) fun _ => leaves_bind
    (leaves_query _) fun _ => leaves_bind (leaves_query _) fun _ =>
    leaves_bind (leaves_onIntegrityError ?_) fun _ => leaves_query _
  exact leaves_withImmediate (expandBlock_grows hP _ _ _ _ _ _ _)

end Blocks

section Change

variable {P : Delivery → Prop} {t t' : Tables} {c : CoreStore} {op : Op}

/-- Everything that one operation can do to deliveries and evidence. -/
inductive Change [Host] (P : Delivery → Prop) (t : Tables) : Op → Tables → Prop
  | grows {op : Op} {t' : Tables} : Grows P t t' → Change P t op t'
  | dispatched {d : Delivery} : d ∈ t.deliveries → d.state = .queued →
      Change P t (.setDispatching d.deliveryId)
        { t with deliveries := ReceiptReducer.moved t.deliveries d fun d =>
            { d with state := .dispatching } }
  | accepted {authority : Option MarkerAuthority} {r : Receipt} {d : Delivery}
      {next : ReceiptReducer.Transition} {bindingId : String} {proof : ProofFields} :
      ReceiptReducer.Acceptable authority t r d next → proofStorageFields r.proof = .ok proof →
      ReceiptReducer.Commits t r d bindingId → Change P t (.submit authority r)
        (ReceiptReducer.accepted t r d next bindingId proof)

/-- A key hits one row at most, so a row count other than one is zero. -/
theorem countP_key_le_one {α : Type} {key : α → String} {rows : List α} {p : α → Bool}
    {k : String} (hk : (rows.map key).Nodup) (hp : ∀ a, p a → key a = k) :
    rows.countP p ≤ 1 := by
  induction rows with
  | nil => simp
  | cons a rest ih =>
    rw [List.map_cons, List.nodup_cons] at hk
    by_cases ha : p a
    · have hrest : rest.countP p = 0 := by
        refine List.countP_eq_zero.mpr fun b hb hpb => hk.1 ?_
        rw [hp a ha, ← hp b hpb]
        exact List.mem_map_of_mem hb
      simp [ha, hrest]
    · simpa [ha] using ih hk.2

theorem map_of_countP_zero {α : Type} {rows : List α} {p : α → Bool} {f : α → α}
    (h : rows.countP p = 0) : (rows.map fun a => if p a then f a else a) = rows := by
  refine (List.map_congr_left fun a ha => ?_).trans (List.map_id rows)
  simp [List.countP_eq_zero.mp h a ha]

theorem updateDelivery_idle (hk : Keyed t) {deliveryId : String} {state : DeliveryState}
    {f : Delivery → Delivery} (h : (t.updateDelivery deliveryId state f).2 ≠ 1) :
    (t.updateDelivery deliveryId state f).1 = t := by
  have hle := countP_key_le_one (k := deliveryId)
    (p := fun d : Delivery => decide (d.deliveryId = deliveryId ∧ d.state = state)) hk.deliveries
    fun d hd => (of_decide_eq_true hd).1
  have hzero : (t.updateDelivery deliveryId state f).2 = 0 := by
    have hle : (t.updateDelivery deliveryId state f).2 ≤ 1 := hle
    omega
  simp only [Tables.updateDelivery]
  rw [map_of_countP_zero hzero]

theorem revokeActive_idle (hk : Keyed t) {bindingId : String}
    (h : (CoreStore.revokeActive bindingId t).2 ≠ 1) :
    (CoreStore.revokeActive bindingId t).1 = t := by
  have hle := countP_key_le_one (k := bindingId)
    (p := fun row : SessionBindingRow => decide (row.bindingId = bindingId ∧ row.state = .active))
    hk.sessionBindings fun row hrow => (of_decide_eq_true hrow).1
  have hzero : (CoreStore.revokeActive bindingId t).2 = 0 := by
    have hle : (CoreStore.revokeActive bindingId t).2 ≤ 1 := hle
    omega
  simp only [CoreStore.revokeActive]
  rw [map_of_countP_zero hzero]

theorem revokeActive_grows (bindingId : String) :
    Grows P t (CoreStore.revokeActive bindingId t).1 := by
  refine grows_of_eq rfl rfl rfl ?_
  exact map_bindingId_of_state t.sessionBindings
    (fun row => row.bindingId = bindingId ∧ row.state = .active) .revoked

theorem moved_nodup {rows : List Delivery} (h : (rows.map (·.deliveryId)).Nodup) (d : Delivery)
    {f : Delivery → Delivery} (hf : ∀ d, (f d).deliveryId = d.deliveryId) :
    ((ReceiptReducer.moved rows d f).map (·.deliveryId)).Nodup := by
  have hids : (ReceiptReducer.moved rows d f).map (·.deliveryId) = rows.map (·.deliveryId) := by
    unfold ReceiptReducer.moved
    rw [List.map_map]
    refine List.map_congr_left fun d' _ => ?_
    by_cases hd : d'.deliveryId = d.deliveryId ∧ d'.state = d.state
    · simp [hd, hf]
    · simp [hd]
  rwa [hids]

theorem change_keyed [Host] (h : Change P t op t') (hk : Keyed t) : Keyed t' := by
  cases h with
  | grows h => exact h.keyed hk
  | dispatched hd hq => exact ⟨moved_nodup hk.deliveries _ fun _ => rfl, hk.sessionBindings⟩
  | accepted ha hf hcommit =>
    exact ⟨moved_nodup hk.deliveries _ fun _ => rfl, hk.sessionBindings⟩

theorem updateDelivery_hit {deliveryId : String} {state : DeliveryState} {f : Delivery → Delivery}
    (h : (t.updateDelivery deliveryId state f).2 = 1) :
    ∃ d ∈ t.deliveries, d.deliveryId = deliveryId ∧ d.state = state ∧
      (t.updateDelivery deliveryId state f).1 =
        { t with deliveries := ReceiptReducer.moved t.deliveries d f } := by
  have hpos : 0 < t.deliveries.countP
      fun d => decide (d.deliveryId = deliveryId ∧ d.state = state) := by
    have hone : t.deliveries.countP
      (fun d => decide (d.deliveryId = deliveryId ∧ d.state = state)) = 1 := h
    omega
  obtain ⟨d, hd, hhit⟩ := List.countP_pos_iff.mp hpos
  obtain ⟨rfl, rfl⟩ := of_decide_eq_true hhit
  refine ⟨d, hd, rfl, rfl, ?_⟩
  simp [Tables.updateDelivery, ReceiptReducer.moved]

theorem setDispatching_change [Host] (deliveryId : String) (hc : Clean c) (hk : Keyed c.working) :
    Clean (Op.exec (.setDispatching deliveryId) c) ∧
      Change P c.working (.setDispatching deliveryId)
        (Op.exec (.setDispatching deliveryId) c).working := by
  obtain ⟨res, c', hexec⟩ : ∃ res c', (CoreStore.setDispatching deliveryId).exec c = (res, c') :=
    ⟨_, _, rfl⟩
  simp only [Op.exec, hexec]
  obtain ⟨hc', ⟨hn, -, hw⟩ | ⟨-, -, hw⟩⟩ := guardedUpdate_cases hc (updateDelivery_idle hk) hexec
  · obtain ⟨d, hd, rfl, hq, hmoved⟩ := updateDelivery_hit hn
    exact ⟨hc', (hw.trans hmoved) ▸ .dispatched hd hq⟩
  · exact ⟨hc', hw ▸ .grows (grows_refl P _)⟩

theorem revokeSessionBinding_grows (bindingId : String) (hc : Clean c) (hk : Keyed c.working) :
    Clean ((CoreStore.revokeSessionBinding bindingId).exec c).2 ∧
      Grows P c.working ((CoreStore.revokeSessionBinding bindingId).exec c).2.working := by
  obtain ⟨hc', ⟨-, -, hw⟩ | ⟨-, -, hw⟩⟩ := guardedUpdate_cases hc
    (revokeActive_idle hk) (rfl : (CoreStore.revokeSessionBinding bindingId).exec c = _)
  · exact ⟨hc', hw ▸ revokeActive_grows bindingId⟩
  · exact ⟨hc', hw ▸ grows_refl P _⟩

theorem submit_change [Host] (authority : Option MarkerAuthority) (r : Receipt) (hc : Clean c) :
    Clean (Op.exec (.submit authority r) c) ∧ Change P c.working (.submit authority r)
      (Op.exec (.submit authority r) c).working := by
  obtain ⟨res, c', hsubmit⟩ : ∃ res c', CoreStore.submit authority r c = (res, c') := ⟨_, _, rfl⟩
  simp only [Op.exec, hsubmit]
  obtain ⟨hc', ho⟩ := ReceiptReducer.submit_outcome hc hsubmit
  refine ⟨hc', ?_⟩
  generalize c'.working = t' at ho
  cases ho with
  | accepted ha hf hcommit => exact .accepted ha hf hcommit
  | duplicate => exact .grows (grows_refl P _)
  | rejected => exact .grows (grows_of_eq rfl rfl rfl rfl)
  | contradiction => exact .grows (grows_of_eq rfl rfl rfl rfl)
  | raised => exact .grows (grows_refl P _)

/-- An operation leaves a clean connection clean, whether it returned or raised. -/
theorem exec_change [Host] (hP : ∀ d : Delivery, d.state = .queued → d.disposition = none → P d)
    (hop : op.Enters P) (hc : Clean c) (hk : Keyed c.working) :
    Clean (op.exec c) ∧ Change P c.working op (op.exec c).working := by
  have hquiet : ∀ {α : Type} {x : Method α}, Leaves (Grows P) x →
      Clean (x.exec c).2 ∧ Change P c.working op (x.exec c).2.working :=
    fun h => ⟨(h c hc).1, .grows (h c hc).2⟩
  cases op with
  | addDelivery delivery =>
    exact hquiet (leaves_execute_commit fun _ _ h => insertDelivery_grows hop h)
  | replaceRoomRoster roomId recipients => exact hquiet (replaceRoomRoster_leaves _ _)
  | setDispatching deliveryId => exact setDispatching_change deliveryId hc hk
  | registerProvider providerId kind classes => exact hquiet (registerProvider_leaves _ _ _)
  | registerSessionBinding binding => exact hquiet (registerSessionBinding_leaves _)
  | supersedeSessionBinding oldBindingId replacement =>
    exact hquiet (supersedeSessionBinding_leaves _ _)
  | revokeSessionBinding bindingId =>
    obtain ⟨hc', hgrows⟩ := revokeSessionBinding_grows (P := P) bindingId hc hk
    exact ⟨hc', .grows hgrows⟩
  | bindPrincipal providerId platformPrincipalId recipientId =>
    exact hquiet (leaves_execute_commit fun _ _ h =>
      grows_of_guard h (grows_of_eq rfl rfl rfl rfl))
  | bindPlatformMessage providerId platformMessageId eventId deliveryId attemptId =>
    exact hquiet (leaves_execute_commit fun _ _ h =>
      grows_of_guard h (grows_of_eq rfl rfl rfl rfl))
  | markProviderDegraded providerId =>
    refine hquiet (leaves_execute_commit fun _ _ h => ?_)
    cases h
    exact grows_of_eq rfl rfl rfl rfl
  | recordRejection receipt reason =>
    refine hquiet (leaves_execute_commit fun _ _ h => ?_)
    cases h
    exact grows_of_eq rfl rfl rfl rfl
  | broadcast ids actorId roomId content acceptedAt =>
    exact hquiet (broadcast_leaves hP _ _ _ _ _)
  | submit authority receipt => exact submit_change authority receipt hc
  | reopen => exact ⟨rfl, .grows (hc ▸ grows_refl P _)⟩

end Change

section Keys

variable {t : Tables} {d d' : Delivery}

theorem eq_of_deliveryId (hk : Keyed t) (hd : d ∈ t.deliveries) (hd' : d' ∈ t.deliveries)
    (h : d.deliveryId = d'.deliveryId) : d = d' :=
  List.inj_on_of_nodup_map hk.deliveries hd hd' h

theorem getDelivery_eq_some (hk : Keyed t) {deliveryId : String} :
    t.getDelivery deliveryId = some d ↔ d ∈ t.deliveries ∧ d.deliveryId = deliveryId := by
  constructor
  · intro h
    exact ⟨List.mem_of_find?_eq_some h, by simpa using List.find?_some h⟩
  · rintro ⟨hd, rfl⟩
    cases h : t.getDelivery d.deliveryId with
    | none => exact absurd (List.find?_eq_none.mp h d hd) (by simp)
    | some d' =>
      have hid : d'.deliveryId = d.deliveryId := by simpa using List.find?_some h
      rw [eq_of_deliveryId hk (List.mem_of_find?_eq_some h) hd hid]

/-- After an update of `d`, a row is the updated one or belongs to another delivery. -/
theorem mem_moved (hk : Keyed t) (hd : d ∈ t.deliveries) {f : Delivery → Delivery} :
    d' ∈ ReceiptReducer.moved t.deliveries d f ↔
      d' = f d ∨ (d' ∈ t.deliveries ∧ d'.deliveryId ≠ d.deliveryId) := by
  unfold ReceiptReducer.moved
  rw [List.mem_map]
  constructor
  · rintro ⟨x, hx, rfl⟩
    by_cases h : x.deliveryId = d.deliveryId
    · rw [eq_of_deliveryId hk hx hd h]
      exact Or.inl (by simp)
    · rw [if_neg fun hboth => h hboth.1]
      exact Or.inr ⟨hx, h⟩
  · rintro (rfl | ⟨hx, h⟩)
    · exact ⟨d, hd, by simp⟩
    · exact ⟨d', hx, if_neg fun hboth => h hboth.1⟩

end Keys

section Run

variable [Host] {P : Delivery → Prop} {ops : List Op}

@[simp] theorem run_append (ops later : List Op) (c : CoreStore) :
    run (ops ++ later) c = run later (run ops c) := List.foldl_append ..

@[simp] theorem run_nil (c : CoreStore) : run [] c = c := rfl

@[simp] theorem run_cons (op : Op) (ops : List Op) (c : CoreStore) :
    run (op :: ops) c = run ops (op.exec c) := rfl

/-- The states of a connection between operations. -/
structure Sound (c : CoreStore) : Prop where
  clean : Clean c
  keyed : Keyed c.working

omit [Host] in
theorem sound_empty : Sound CoreStore.empty :=
  ⟨rfl, by simp [CoreStore.empty], by simp [CoreStore.empty]⟩

/-- One operation, whatever a caller adds. -/
theorem exec_sound {c : CoreStore} (op : Op) (h : Sound c) :
    Sound (op.exec c) ∧ Change (fun _ => True) c.working op (op.exec c).working := by
  have henters : op.Enters fun _ => True := by cases op <;> trivial
  obtain ⟨hc, hchange⟩ := exec_change (fun _ _ _ => trivial) henters h.clean h.keyed
  exact ⟨⟨hc, change_keyed hchange h.keyed⟩, hchange⟩

theorem sound_run (ops : List Op) {c : CoreStore} (h : Sound c) : Sound (run ops c) := by
  induction ops generalizing c with
  | nil => exact h
  | cons op ops ih => exact ih (exec_sound op h).1

/-- Induction along a run, with the operations made so far. -/
theorem run_induction (hP : ∀ d : Delivery, d.state = .queued → d.disposition = none → P d)
    {I : List Op → Tables → Prop} (hinit : I [] {})
    (hstep : ∀ {ops op t t'}, Keyed t → t = (run ops CoreStore.empty).working → Change P t op t' →
      I ops t → I (ops ++ [op]) t')
    (hops : ∀ op ∈ ops, op.Enters P) : I ops (run ops CoreStore.empty).working := by
  induction ops using List.reverseRecOn with
  | nil => exact hinit
  | append_singleton ops op ih =>
    have hs := sound_run ops sound_empty
    obtain ⟨-, hchange⟩ := exec_change hP (hops op (by simp)) hs.clean hs.keyed
    have hI := ih fun o ho => hops o (List.mem_append_left _ ho)
    rw [run_append, run_cons, run_nil]
    exact hstep hs.keyed rfl hchange hI

end Run

/-- `fromisoformat` and the digest at the values of the samples, which hold no float. -/
abbrev sampleHost : Host where
  fromisoformat text :=
    if text = "2026-01-01T00:00:00+00:00" then some ⟨1767225600000000, true⟩
    else if text = "2026-01-01T00:30:00+00:00" then some ⟨1767227400000000, true⟩
    else if text = "2026-01-01T01:00:00+00:00" then some ⟨1767229200000000, true⟩
    else none
  hmacSha256 _ _ := "fc0bcaec35d952d2a15d7cacf20e2805936d50d1e44f9318a7f0b4f1722b89ea"
  floatEq _ _ := false

/-- The key is the text `key`. -/
def sampleAuthority : MarkerAuthority := ⟨[107, 101, 121], 3600, by decide, by decide⟩

def sampleDelivery : Delivery :=
  { eventId := "event-1", deliveryId := "delivery-1", attemptId := "attempt-1"
    bindingId := some "binding-1", recipientId := "alice", deliveryMode := .sessionBound }

def sampleMarker : DeliveryMarker :=
  { schemaVersion := 1, eventId := "event-1", deliveryId := "delivery-1"
    attemptId := "attempt-1", bindingId := "binding-1", authorityScope := "conversation"
    issuedAt := "2026-01-01T00:00:00Z", expiresAt := "2026-01-01T01:00:00Z"
    signature := "fc0bcaec35d952d2a15d7cacf20e2805936d50d1e44f9318a7f0b4f1722b89ea" }

def sampleEvents : List SourceEventRef :=
  [{ sourceInstanceId := "cmux-1", bootId := "boot-1", seq := 1, sourceEventId := "e-1"
     eventName := "surface.input_sent" },
   { sourceInstanceId := "cmux-1", bootId := "boot-1", seq := 2, sourceEventId := "e-2"
     eventName := "workspace.prompt.submitted", bindingId := some "binding-1"
     markerSignature := some sampleMarker.signature },
   { sourceInstanceId := "cmux-1", bootId := "boot-1", seq := 3, sourceEventId := "e-3"
     eventName := "agent.hook.UserPromptSubmit", sessionId := some "session-1" }]

def sampleAck : Receipt :=
  { receiptId := "receipt-1", eventId := "event-1", deliveryId := "delivery-1"
    attemptId := "attempt-1", bindingId := some "binding-1", evidenceProviderId := "cmux"
    evidenceClass := .transportSubmitAck, proofMethod := "socket"
    observedAt := "2026-01-01T00:30:00Z" }

def sampleEntry : Receipt :=
  { sampleAck with
    receiptId := "receipt-2", evidenceClass := .harnessPromptAccepted
    proofMethod := "cmux-chain", sourceEventId := some "e-3"
    proof := some (.typed
      { sessionId := "session-1", marker := .typed sampleMarker
        sourceEvents := .tuple (sampleEvents.map .typed) }) }

def sampleBinding : SessionBinding :=
  { bindingId := "binding-1", recipientId := "alice", providerId := "cmux"
    adapterInstanceId := "adapter-1", harness := "claude", sessionId := "session-1"
    establishedAt := "2026-01-01T00:00:00Z", expiresAt := "2026-01-01T01:00:00Z"
    proofMethods := [{ proofMethod := "cmux-chain", sourceKind := .eventBus
                       sourceInstanceId := "cmux-1", correlationRule := .cmuxHarnessChain
                       evidenceClasses := [.harnessPromptAccepted] }] }

def sampleSetup : List Op :=
  [.registerProvider "cmux" .sessionTransport [.transportSubmitAck, .harnessPromptAccepted],
   .registerSessionBinding sampleBinding, .addDelivery sampleDelivery,
   .setDispatching "delivery-1"]

def sampleOps : List Op :=
  sampleSetup ++ [.submit (some sampleAuthority) sampleAck,
    .submit (some sampleAuthority) sampleEntry]

theorem sampleOps_enters {P : Delivery → Prop} (h : P sampleDelivery) :
    ∀ op ∈ sampleOps, op.Enters P := by
  intro op hop
  simp only [sampleOps, sampleSetup, List.cons_append, List.nil_append, List.mem_cons,
    List.not_mem_nil, or_false] at hop
  rcases hop with rfl | rfl | rfl | rfl | rfl | rfl <;> first | exact h | trivial

end Yatagarasu
