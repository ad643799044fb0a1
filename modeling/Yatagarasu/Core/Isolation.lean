import Mathlib.Data.List.Find
import Yatagarasu.Core.Interleaving
import Yatagarasu.Core.Transactions

/-! Two runs beside each other: one with every submission, one without those for other deliveries.
-/

namespace Yatagarasu

open ReceiptReducer Program Sqlite

def Op.IsBroadcast : Op → Prop
  | broadcast .. => True
  | _ => False

/-- Of another delivery, only whether it is still queued. -/
def shade (deliveryId : String) (d : Delivery) : Delivery :=
  if d.deliveryId = deliveryId then d
  else { d with state := if d.state = .queued then .queued else .dispatching, disposition := none }

/-- The tables agree on everything but the progress and the evidence of other deliveries. -/
structure Beside (deliveryId : String) (t u : Tables) : Prop where
  deliveries : t.deliveries.map (shade deliveryId) = u.deliveries.map (shade deliveryId)
  receipts : t.receiptsFor deliveryId = u.receiptsFor deliveryId
  auditLog : t.auditFor deliveryId = u.auditFor deliveryId
  providers : t.providers.map (fun p => (p.providerId, p.kind)) =
    u.providers.map fun p => (p.providerId, p.kind)
  evidence : t.providerEvidence = u.providerEvidence
  principals : t.principalBindings = u.principalBindings
  messages : t.platformMessageBindings = u.platformMessageBindings
  bindings : t.sessionBindings = u.sessionBindings
  methods : t.bindingProofMethods = u.bindingProofMethods
  rooms : t.rooms = u.rooms
  members : t.roomMembers = u.roomMembers
  events : t.canonicalEvents = u.canonicalEvents
  broadcasts : t.broadcasts = u.broadcasts
  recipients : t.broadcastRecipients = u.broadcastRecipients
  audits : t.broadcastAudit = u.broadcastAudit

section Statements

variable {deliveryId : String} {t u : Tables}

@[simp] theorem shade_deliveryId (d : Delivery) :
    (shade deliveryId d).deliveryId = d.deliveryId := by
  unfold shade
  split <;> rfl

@[simp] theorem shade_self {d : Delivery} (h : d.deliveryId = deliveryId) :
    shade deliveryId d = d := if_pos h

theorem shade_queued (d : Delivery) :
    (shade deliveryId d).state = .queued ↔ d.state = .queued := by
  unfold shade
  split
  · rfl
  · by_cases h : d.state = .queued <;> simp [h]

/-- A change that keeps what is seen of a delivery. -/
theorem shade_eq {d d' : Delivery} (h : d.deliveryId ≠ deliveryId) (hqueued : d.state ≠ .queued)
    (hqueued' : d'.state ≠ .queued)
    (hsame : d' = { d with state := d'.state, disposition := d'.disposition }) :
    shade deliveryId d' = shade deliveryId d := by
  rw [hsame]
  simp [shade, h, hqueued, hqueued']

theorem beside_refl (deliveryId : String) (t : Tables) : Beside deliveryId t t := by
  constructor <;> rfl

/-- The delivery exists in both or in neither. -/
theorem Beside.knows (h : Beside deliveryId t u) (id : String) :
    t.deliveries.any (·.deliveryId = id) = u.deliveries.any (·.deliveryId = id) := by
  have hany := congrArg (fun rows : List Delivery => rows.any (·.deliveryId = id)) h.deliveries
  simpa [List.any_map, Function.comp_def] using hany

theorem Beside.registers (h : Beside deliveryId t u) (id : String) :
    t.providers.any (·.providerId = id) = u.providers.any (·.providerId = id) := by
  have hany := congrArg (fun rows : List (String × ProviderKind) => rows.any (·.1 = id))
    h.providers
  simpa [List.any_map, Function.comp_def] using hany

theorem insertDelivery_beside (d : Delivery) (h : Beside deliveryId t u) :
    Option.Rel (Beside deliveryId) (t.insertDelivery d) (u.insertDelivery d) := by
  refine rel_guard (by rw [h.knows]) { h with deliveries := ?_ }
  simp only [List.map_append, h.deliveries]

theorem insertProvider_beside (row : ProviderRow) (h : Beside deliveryId t u) :
    Option.Rel (Beside deliveryId) (t.insertProvider row) (u.insertProvider row) := by
  refine rel_guard (by rw [h.registers]) { h with providers := ?_ }
  simp only [List.map_append, h.providers]

theorem insertProviderEvidence_beside (row : ProviderEvidenceRow) (h : Beside deliveryId t u) :
    Option.Rel (Beside deliveryId) (t.insertProviderEvidence row)
      (u.insertProviderEvidence row) := by
  refine rel_guard (by rw [h.registers, h.evidence]) { h with evidence := ?_ }
  simp only [h.evidence]

theorem insertPrincipalBinding_beside (row : PrincipalBindingRow) (h : Beside deliveryId t u) :
    Option.Rel (Beside deliveryId) (t.insertPrincipalBinding row)
      (u.insertPrincipalBinding row) := by
  refine rel_guard (by rw [h.registers, h.principals]) { h with principals := ?_ }
  simp only [h.principals]

theorem insertMessageBinding_beside (row : MessageBindingRow) (h : Beside deliveryId t u) :
    Option.Rel (Beside deliveryId) (t.insertMessageBinding row) (u.insertMessageBinding row) := by
  refine rel_guard (by rw [h.registers, h.knows, h.messages]) { h with messages := ?_ }
  simp only [h.messages]

theorem insertSessionBindingRow_beside (row : SessionBindingRow) (h : Beside deliveryId t u) :
    Option.Rel (Beside deliveryId) (t.insertSessionBindingRow row)
      (u.insertSessionBindingRow row) := by
  refine rel_guard (by rw [h.registers, h.bindings]) { h with bindings := ?_ }
  simp only [h.bindings]

theorem insertProofMethod_beside (row : ProofMethodRow) (h : Beside deliveryId t u) :
    Option.Rel (Beside deliveryId) (t.insertProofMethod row) (u.insertProofMethod row) := by
  refine rel_guard (by rw [h.bindings, h.methods]) { h with methods := ?_ }
  simp only [h.methods]

theorem setBindingState_beside (bindingId : String) (state : BindingState)
    (h : Beside deliveryId t u) :
    Option.Rel (Beside deliveryId) (CoreStore.setBindingState bindingId state t)
      (CoreStore.setBindingState bindingId state u) := by
  refine .some { h with bindings := ?_ }
  simp only [h.bindings]

theorem insertRejection_beside (row row' : RejectionRow) (h : Beside deliveryId t u) :
    Option.Rel (Beside deliveryId) (t.insertRejection row) (u.insertRejection row') :=
  .some { h with }

theorem degrade_map (providerId : String) (rows : List ProviderRow) :
    (rows.map fun row => if row.providerId = providerId then
      { row with health := .degraded } else row).map (fun p => (p.providerId, p.kind)) =
      rows.map fun p => (p.providerId, p.kind) := by
  rw [List.map_map]
  refine List.map_congr_left fun row _ => ?_
  by_cases h : row.providerId = providerId <;> simp [h]

theorem degrade_beside (providerId : String) (h : Beside deliveryId t u) :
    Option.Rel (Beside deliveryId) (CoreStore.degrade providerId t)
      (CoreStore.degrade providerId u) := by
  refine .some { h with providers := ?_ }
  simp only [degrade_map, h.providers]

theorem insertRoomOrIgnore_beside (roomId : String) (h : Beside deliveryId t u) :
    Option.Rel (Beside deliveryId) (t.insertRoomOrIgnore roomId) (u.insertRoomOrIgnore roomId) := by
  refine .some { h with rooms := ?_ }
  simp only [h.rooms]

theorem deleteRoomMembers_beside (roomId : String) (h : Beside deliveryId t u) :
    Option.Rel (Beside deliveryId) (t.deleteRoomMembers roomId) (u.deleteRoomMembers roomId) := by
  refine .some { h with members := ?_ }
  simp only [h.members]

theorem insertRoomMember_beside (row : RoomMemberRow) (h : Beside deliveryId t u) :
    Option.Rel (Beside deliveryId) (t.insertRoomMember row) (u.insertRoomMember row) := by
  refine rel_guard (by rw [h.members, h.rooms]) { h with members := ?_ }
  simp only [h.members]

theorem insertCanonicalEvent_beside (row : CanonicalEventRow) (h : Beside deliveryId t u) :
    Option.Rel (Beside deliveryId) (t.insertCanonicalEvent row) (u.insertCanonicalEvent row) := by
  refine rel_guard (by rw [h.events, h.rooms]) { h with events := ?_ }
  simp only [h.events]

theorem insertBroadcast_beside (row : BroadcastRow) (h : Beside deliveryId t u) :
    Option.Rel (Beside deliveryId) (t.insertBroadcast row) (u.insertBroadcast row) := by
  refine rel_guard (by rw [h.broadcasts, h.events, h.rooms]) { h with broadcasts := ?_ }
  simp only [h.broadcasts]

theorem insertBroadcastRecipient_beside (row : BroadcastRecipientRow)
    (h : Beside deliveryId t u) :
    Option.Rel (Beside deliveryId) (t.insertBroadcastRecipient row)
      (u.insertBroadcastRecipient row) := by
  refine rel_guard (by rw [h.recipients, h.broadcasts, h.knows]) { h with recipients := ?_ }
  simp only [h.recipients]

theorem insertBroadcastAudit_beside (row : BroadcastAuditRow) (h : Beside deliveryId t u) :
    Option.Rel (Beside deliveryId) (t.insertBroadcastAudit row) (u.insertBroadcastAudit row) := by
  refine rel_guard (by rw [h.audits, h.broadcasts]) { h with audits := ?_ }
  simp only [h.audits]

end Statements

section Calls

variable {deliveryId : String} {t u : Tables} {c c' : CoreStore}

/-- An update whose guard and effect are not blurred by the shade. -/
theorem update_beside {hit : Delivery → Bool} {f : Delivery → Delivery}
    (hhit : ∀ d, hit (shade deliveryId d) = hit d)
    (hf : ∀ d, hit d → shade deliveryId (f d) = shade deliveryId (f (shade deliveryId d)))
    (h : Beside deliveryId t u) :
    Beside deliveryId { t with deliveries := t.deliveries.map fun d => if hit d then f d else d }
        { u with deliveries := u.deliveries.map fun d => if hit d then f d else d } ∧
      t.deliveries.countP hit = u.deliveries.countP hit := by
  have hmap : ∀ rows : List Delivery,
      (rows.map fun d => if hit d then f d else d).map (shade deliveryId) =
      (rows.map (shade deliveryId)).map fun d =>
        if hit d then shade deliveryId (f d) else d := by
    intro rows
    rw [List.map_map, List.map_map]
    refine List.map_congr_left fun d _ => ?_
    simp only [Function.comp, hhit]
    by_cases hd : hit d
    · rw [if_pos hd, if_pos hd, hf d hd]
    · rw [if_neg hd, if_neg hd]
  have hcount : ∀ rows : List Delivery,
      rows.countP hit = (rows.map (shade deliveryId)).countP hit := by
    intro rows
    rw [List.countP_map]
    exact List.countP_congr fun d _ => by simp only [Function.comp, hhit]
  constructor
  · refine { h with deliveries := ?_ }
    dsimp only
    rw [hmap, hmap, h.deliveries]
  · rw [hcount, hcount u.deliveries, h.deliveries]

theorem setDispatching_beside (id : String) (h : Beside deliveryId t u) :
    Beside deliveryId (t.updateDelivery id .queued fun d => { d with state := .dispatching }).1
        (u.updateDelivery id .queued fun d => { d with state := .dispatching }).1 ∧
      (t.updateDelivery id .queued fun d => { d with state := .dispatching }).2 =
        (u.updateDelivery id .queued fun d => { d with state := .dispatching }).2 := by
  refine update_beside (fun d => ?_) (fun d _ => ?_) h
  · simp only [shade_deliveryId, shade_queued]
  · by_cases hd : d.deliveryId = deliveryId <;> simp [shade, hd]

theorem mirrored_query {α : Type} {f : Tables → Except PyError α}
    (h : ∀ t u, Beside deliveryId t u → f t = f u) :
    Mirrored (Beside deliveryId) (CoreStore.query f) :=
  fun _ _ hc => ⟨h _ _ hc.working, hc⟩

theorem mirrored_onIntegrityError {α : Type} {x : Method α} {e : PyError}
    (h : Mirrored (Beside deliveryId) x) :
    Mirrored (Beside deliveryId) (CoreStore.onIntegrityError x e) := by
  intro c c' hc
  obtain ⟨hres, hnext⟩ := h c c' hc
  rw [onIntegrityError_exec, onIntegrityError_exec]
  generalize x.exec c = p, x.exec c' = p' at hres hnext
  obtain ⟨res, c₁⟩ := p
  obtain ⟨res', c₁'⟩ := p'
  obtain rfl : res = res' := hres
  split
  · rename_i heq
    cases heq
    exact ⟨rfl, hnext⟩
  · rename_i hother
    split
    · rename_i heq
      cases heq
      exact absurd rfl (hother c₁)
    · exact ⟨rfl, hnext⟩

theorem mirrored_statement {f : Tables → Option Tables}
    (h : ∀ t u, Beside deliveryId t u → Option.Rel (Beside deliveryId) (f t) (f u)) :
    Mirrored (Beside deliveryId) (do execute f; commit : Method Unit) :=
  mirrored_bind (mirrored_execute h) fun _ => mirrored_commit

theorem mirrored_guarded {f : Tables → Tables × Nat} {e : PyError}
    (h : ∀ t u, Beside deliveryId t u → Beside deliveryId (f t).1 (f u).1 ∧ (f t).2 = (f u).2) :
    Mirrored (Beside deliveryId)
      (do let n ← update f; if n ≠ 1 then throw e else commit : Method Unit) := by
  refine mirrored_bind (mirrored_update h) fun n => ?_
  split
  · exact mirrored_throw e
  · exact mirrored_commit

theorem insertRoomMembers_mirrors (roomId : String) (ordinal : Nat) (recipients : List String) :
    Mirrors (Beside deliveryId) (CoreStore.insertRoomMembers roomId ordinal recipients) := by
  induction recipients generalizing ordinal with
  | nil => exact mirrors_pure ()
  | cons recipientId rest ih =>
    exact mirrors_bind (mirrors_insert fun _ _ h => insertRoomMember_beside _ h) fun _ =>
      ih (ordinal + 1)

theorem insertEvidenceClasses_mirrors (providerId : String) (classes : List EvidenceClass) :
    Mirrors (Beside deliveryId) (CoreStore.insertEvidenceClasses providerId classes) := by
  induction classes with
  | nil => exact mirrors_pure ()
  | cons evidenceClass rest ih =>
    exact mirrors_bind (mirrors_insert fun _ _ h => insertProviderEvidence_beside _ h) fun _ => ih

theorem insertProofMethods_mirrors (bindingId : String)
    (methods : List ProofMethodRegistration) :
    Mirrors (Beside deliveryId) (CoreStore.insertProofMethods bindingId methods) := by
  induction methods with
  | nil => exact mirrors_pure ()
  | cons registration rest ih =>
    exact mirrors_bind (mirrors_insert fun _ _ h => insertProofMethod_beside _ h) fun _ => ih

theorem insertSessionBinding_mirrors (binding : SessionBinding) :
    Mirrors (Beside deliveryId) (CoreStore.insertSessionBinding binding) :=
  mirrors_bind (mirrors_insert fun _ _ h => insertSessionBindingRow_beside _ h) fun _ =>
    insertProofMethods_mirrors _ _

theorem insertSeats_mirrors (broadcastId eventId : String) (ordinal : Nat)
    (seats : List (String × Seat)) :
    Mirrors (Beside deliveryId) (BroadcastKernel.insertSeats broadcastId eventId ordinal seats) := by
  induction seats generalizing ordinal with
  | nil => exact mirrors_pure ()
  | cons seat rest ih =>
    refine mirrors_bind (mirrors_insert fun _ _ h => insertDelivery_beside _ h) fun _ => ?_
    exact mirrors_bind (mirrors_insert fun _ _ h => insertBroadcastRecipient_beside _ h) fun _ =>
      ih (ordinal + 1)

theorem replaceRoomRoster_mirrored (roomId : String) (recipients : List String) :
    Mirrored (Beside deliveryId) (CoreStore.replaceRoomRoster roomId recipients) := by
  unfold CoreStore.replaceRoomRoster
  split
  · exact mirrored_throw _
  split
  · exact mirrored_throw _
  apply mirrored_withConnection
  refine mirrors_bind (mirrors_insert fun _ _ h => insertRoomOrIgnore_beside _ h) fun _ => ?_
  refine mirrors_bind (mirrors_insert fun _ _ h => deleteRoomMembers_beside _ h) fun _ => ?_
  exact insertRoomMembers_mirrors _ _ _

theorem validateProofMethods_beside (h : Beside deliveryId t u) (providerId : String)
    (methods : List ProofMethodRegistration) :
    CoreStore.validateProofMethods t providerId methods =
      CoreStore.validateProofMethods u providerId methods := by
  induction methods with
  | nil => rfl
  | cons method rest ih =>
    unfold CoreStore.validateProofMethods Tables.providerDeclares
    rw [ih, h.evidence]

theorem Beside.kind (h : Beside deliveryId t u) (providerId : String) :
    (t.provider providerId).map (·.kind) = (u.provider providerId).map (·.kind) := by
  have hfind := congrArg (fun rows : List (String × ProviderKind) =>
    (rows.find? (·.1 = providerId)).map (·.2)) h.providers
  simpa [List.find?_map, Function.comp_def, Tables.provider] using hfind

theorem validateSessionBinding_beside [Host] (binding : SessionBinding)
    (h : Beside deliveryId t u) :
    CoreStore.validateSessionBinding binding t = CoreStore.validateSessionBinding binding u := by
  unfold CoreStore.validateSessionBinding
  rw [h.kind, validateProofMethods_beside h]

theorem Beside.sessionBinding (h : Beside deliveryId t u) (bindingId : Option String) :
    t.sessionBinding bindingId = u.sessionBinding bindingId := by
  unfold Tables.sessionBinding
  rw [h.bindings]

theorem registerSessionBinding_mirrored [Host] (binding : SessionBinding) :
    Mirrored (Beside deliveryId) (CoreStore.registerSessionBinding binding) := by
  refine mirrored_bind (mirrored_query fun _ _ h => validateSessionBinding_beside binding h)
    fun _ => ?_
  exact mirrored_onIntegrityError (mirrored_withConnection (insertSessionBinding_mirrors binding))

theorem supersedeSessionBinding_mirrored [Host] (oldBindingId : String)
    (replacement : SessionBinding) :
    Mirrored (Beside deliveryId)
      (CoreStore.supersedeSessionBinding oldBindingId replacement) := by
  refine mirrored_bind (mirrored_query fun t u h => ?_) fun _ => mirrored_withConnection ?_
  · unfold CoreStore.validateSupersession
    rw [h.sessionBinding, validateSessionBinding_beside replacement h]
  · exact mirrors_bind (mirrors_insert fun _ _ h => setBindingState_beside _ _ h) fun _ =>
      insertSessionBinding_mirrors replacement

theorem revokeActive_beside (bindingId : String) (h : Beside deliveryId t u) :
    Beside deliveryId (CoreStore.revokeActive bindingId t).1
        (CoreStore.revokeActive bindingId u).1 ∧
      (CoreStore.revokeActive bindingId t).2 = (CoreStore.revokeActive bindingId u).2 := by
  refine ⟨{ h with bindings := ?_ }, ?_⟩ <;> simp only [CoreStore.revokeActive, h.bindings]

theorem seats_beside [Host] (ids : IdFactory) (acceptedAt : String) (h : Beside deliveryId t u)
    (n : Nat) (roster : List String) :
    BroadcastKernel.seats ids acceptedAt t n roster =
      BroadcastKernel.seats ids acceptedAt u n roster := by
  induction roster generalizing n with
  | nil => rfl
  | cons recipientId rest ih =>
    have hactive : BroadcastKernel.activeSessionBindingFor t recipientId acceptedAt =
        BroadcastKernel.activeSessionBindingFor u recipientId acceptedAt := by
      unfold BroadcastKernel.activeSessionBindingFor Tables.activeSessionBindingFor
      rw [h.bindings]
    unfold BroadcastKernel.seats
    rw [hactive, ih]

theorem expandBlock_mirrors [Host] (ids : IdFactory)
    (actorId roomId content acceptedAt broadcastId eventId : String) :
    Mirrors (Beside deliveryId) (BroadcastKernel.expandBlock ids actorId roomId content acceptedAt
      broadcastId eventId) := by
  have hexpansion : ∀ roster rows, Mirrors (Beside deliveryId) (BroadcastKernel.expansion actorId
      roomId content acceptedAt broadcastId eventId roster rows) := by
    intro roster rows
    refine mirrors_bind (mirrors_insert fun _ _ h => insertCanonicalEvent_beside _ h) fun _ => ?_
    refine mirrors_bind (mirrors_insert fun _ _ h => insertBroadcast_beside _ h) fun _ => ?_
    refine mirrors_bind (insertSeats_mirrors _ _ _ _) fun _ => ?_
    exact mirrors_insert fun _ _ h => insertBroadcastAudit_beside _ h
  intro t u h
  have hroster : t.roomRoster roomId = u.roomRoster roomId := by
    unfold Tables.roomRoster
    rw [h.members]
  simp only [StateT.run, BroadcastKernel.expandBlock, hroster, seats_beside ids acceptedAt h]
  split
  · exact .inr ⟨_, rfl, rfl⟩
  split
  · exact .inr ⟨_, rfl, rfl⟩
  split
  · exact .inr ⟨_, rfl, rfl⟩
  · exact hexpansion _ _ t u h

theorem expanded_snd {α β : Type} (x : Method α) (e : PyError) (q : Tables → Except PyError β)
    (c : CoreStore) :
    ((CoreStore.onIntegrityError x e >>= fun _ => CoreStore.query q).exec c).2 =
      (x.exec c).2 := by
  rw [← onIntegrityError_snd x e, exec_bind]
  split
  · rename_i heq
    rw [heq]
    rfl
  · rename_i heq
    rw [heq]

/-- Two broadcasts expand alike if both or none of them find a transaction open. -/
theorem broadcast_beside [Host] {ids : IdFactory} {actorId roomId content acceptedAt : String}
    (hc : Alike (Beside deliveryId) c c')
    (hopen : c'.inTransaction = true → c.inTransaction = true) :
    Alike (Beside deliveryId)
      ((BroadcastKernel.broadcast ids actorId roomId content acceptedAt).exec c).2
      ((BroadcastKernel.broadcast ids actorId roomId content acceptedAt).exec c').2 := by
  unfold BroadcastKernel.broadcast
  split
  · exact hc
  simp only [exec_query_bind]
  cases parseTimestamp acceptedAt with
  | error e => exact hc
  | ok accepted =>
    cases ids 0 "broadcast" with
    | error e => exact hc
    | ok broadcastId =>
      cases ids 1 "event" with
      | error e => exact hc
      | ok eventId =>
        dsimp only
        rw [expanded_snd, expanded_snd]
        exact (withImmediate_mirrored (expandBlock_mirrors ids actorId roomId content acceptedAt
          broadcastId eventId) hc hopen).2

/-- The call is no submission, and a broadcast of it does not depend on an open transaction. -/
theorem exec_beside [Host] {op : Op} (hc : Alike (Beside deliveryId) c c')
    (hsubmit : ∀ authority r, op ≠ .submit authority r)
    (hopen : op.IsBroadcast → c'.inTransaction = true → c.inTransaction = true) :
    Alike (Beside deliveryId) (op.exec c) (op.exec c') := by
  cases op with
  | addDelivery delivery =>
    exact (mirrored_statement (fun _ _ h => insertDelivery_beside delivery h) c c' hc).2
  | replaceRoomRoster roomId recipients =>
    exact (replaceRoomRoster_mirrored roomId recipients c c' hc).2
  | setDispatching id => exact (mirrored_guarded (fun _ _ h => setDispatching_beside id h) c c' hc).2
  | registerProvider providerId kind classes =>
    refine (mirrored_withConnection (mirrors_bind ?_ fun _ => ?_) c c' hc).2
    · exact mirrors_insert fun _ _ h => insertProvider_beside _ h
    · exact insertEvidenceClasses_mirrors providerId classes
  | registerSessionBinding binding => exact (registerSessionBinding_mirrored binding c c' hc).2
  | supersedeSessionBinding oldBindingId replacement =>
    exact (supersedeSessionBinding_mirrored oldBindingId replacement c c' hc).2
  | revokeSessionBinding bindingId =>
    exact (mirrored_guarded (fun _ _ h => revokeActive_beside bindingId h) c c' hc).2
  | bindPrincipal providerId platformPrincipalId recipientId =>
    exact (mirrored_statement (fun _ _ h => insertPrincipalBinding_beside _ h) c c' hc).2
  | bindPlatformMessage providerId platformMessageId eventId id attemptId =>
    exact (mirrored_statement (fun _ _ h => insertMessageBinding_beside _ h) c c' hc).2
  | markProviderDegraded providerId =>
    exact (mirrored_statement (fun _ _ h => degrade_beside providerId h) c c' hc).2
  | recordRejection receipt reason =>
    exact (mirrored_statement (fun _ _ h => insertRejection_beside _ _ h) c c' hc).2
  | broadcast ids actorId roomId content acceptedAt => exact broadcast_beside hc (hopen trivial)
  | submit authority receipt => exact absurd rfl (hsubmit authority receipt)
  | reopen => exact ⟨hc.committed, hc.committed, id⟩

end Calls

section Foreign

variable {deliveryId : String} {t u : Tables} {c c' : CoreStore} {r : Receipt}

theorem moved_shade {rows : List Delivery} {d : Delivery} {next : Transition}
    (hother : d.deliveryId ≠ deliveryId) (hstate : d.state ≠ .queued) (hnext : next.1 ≠ .queued) :
    (moved rows d fun d' => { d' with state := next.1, disposition := next.2 }).map
      (shade deliveryId) = rows.map (shade deliveryId) := by
  unfold moved
  rw [List.map_map]
  refine List.map_congr_left fun d' _ => ?_
  by_cases hhit : d'.deliveryId = d.deliveryId ∧ d'.state = d.state
  · simp only [Function.comp, if_pos hhit]
    exact shade_eq (by rw [hhit.1]; exact hother) (by rw [hhit.2]; exact hstate) hnext rfl
  · simp only [Function.comp, if_neg hhit]

theorem ReceiptReducer.Permitted.moves {d : Delivery} {kind : ProviderKind} {next : Transition}
    (h : Permitted t r d kind next) : d.state ≠ .queued ∧ next.1 ≠ .queued := by
  constructor
  · rw [h.state]
    cases r.evidenceClass <;> exact fun heq => by cases heq
  · cases h <;> exact fun heq => by cases heq

/-- What a submission for another delivery leaves is still beside the tables. -/
theorem outcome_beside [Host] {authority : Option MarkerAuthority}
    {res : Except PyError ReceiptResult} {t' : Tables} (hother : r.deliveryId ≠ deliveryId)
    (ho : Outcome authority t r res t') (h : Beside deliveryId t u) : Beside deliveryId t' u := by
  cases ho with
  | @accepted d next bindingId proof ha hf hcommit =>
    obtain ⟨provider, -, hpermitted⟩ := ha.permitted
    obtain ⟨hstate, hnext⟩ := hpermitted.moves
    have hid : d.deliveryId = r.deliveryId := by simpa using List.find?_some ha.delivery
    have hd : d.deliveryId ≠ deliveryId := by rwa [hid]
    refine { h with deliveries := ?_, receipts := ?_, auditLog := ?_ }
    · rw [← h.deliveries]
      exact moved_shade hd hstate hnext
    · rw [← h.receipts]
      simp [ReceiptReducer.accepted, Tables.receiptsFor, CoreStore.receiptRow, hd]
    · rw [← h.auditLog]
      simp [ReceiptReducer.accepted, Tables.auditFor, CoreStore.auditRow, hd]
  | duplicate => exact h
  | rejected => exact { h with }
  | contradiction =>
    refine { h with providers := ?_ }
    rw [← h.providers]
    exact degrade_map _ _
  | raised => exact h

theorem submit_closed [Host] (authority : Option MarkerAuthority) (r : Receipt) {c : CoreStore}
    (hclosed : c.inTransaction = false) : (CoreStore.submit authority r c).2.inTransaction = false :=
  Program.run_keeps (J := fun c : CoreStore => c.inTransaction = false)
    (fun call _ h => storeCall_closed call h) _ hclosed

theorem submit_foreign [Host] {authority : Option MarkerAuthority} (hclean : Clean c)
    (hother : r.deliveryId ≠ deliveryId) (hc : Alike (Beside deliveryId) c c') :
    Alike (Beside deliveryId) (CoreStore.submit authority r c).2 c' := by
  obtain ⟨res, c₁, hsubmit⟩ : ∃ res c₁, CoreStore.submit authority r c = (res, c₁) := ⟨_, _, rfl⟩
  have hclosed := submit_closed authority r (c := c)
  rw [hsubmit] at hclosed ⊢
  obtain ⟨hclean₁, ho⟩ := submit_outcome hclean hsubmit
  have hbeside : ∀ {u}, Beside deliveryId c.working u → Beside deliveryId c₁.working u :=
    outcome_beside hother ho
  refine ⟨?_, hbeside hc.working, fun hopen => hc.transaction ?_⟩
  · have hcommitted : Beside deliveryId c.working c'.committed := by
      rw [hclean]
      exact hc.committed
    have hleft := hbeside hcommitted
    rwa [hclean₁] at hleft
  · by_contra hnot
    rw [hclosed (by simpa using hnot)] at hopen
    cases hopen

end Foreign

section Own

variable {t u : Tables} {r : Receipt} {d : Delivery}

/-- The evidence of other deliveries shares no key with the receipt. -/
structure Apart (r : Receipt) (t : Tables) : Prop where
  receipts : ∀ row ∈ t.receipts, row.deliveryId ≠ r.deliveryId → row.receiptId ≠ r.receiptId ∧
    (row.providerId = r.evidenceProviderId → row.sourceEventId.isSome →
      row.sourceEventId ≠ r.sourceEventId)
  auditLog : ∀ row ∈ t.auditLog, row.deliveryId ≠ r.deliveryId → row.receiptId ≠ r.receiptId

structure Together (r : Receipt) (t u : Tables) : Prop where
  beside : Beside r.deliveryId t u
  left : Apart r t
  right : Apart r u

theorem find?_among {α : Type} {rows : List α} {p q : α → Bool}
    (h : ∀ a ∈ rows, q a → p a) : rows.find? q = (rows.filter p).find? q := by
  rw [List.find?_filter]
  refine List.find?_congr fun a ha => ?_
  by_cases hq : q a
  · simp [hq, h a ha hq]
  · simp [hq]

theorem any_among {α : Type} {rows : List α} {p q : α → Bool}
    (h : ∀ a ∈ rows, q a → p a) : rows.any q = (rows.filter p).any q := by
  rw [Bool.eq_iff_iff, List.any_eq_true, List.any_eq_true]
  constructor
  · rintro ⟨a, ha, hq⟩
    exact ⟨a, List.mem_filter.mpr ⟨ha, h a ha hq⟩, hq⟩
  · rintro ⟨a, ha, hq⟩
    exact ⟨a, (List.mem_filter.mp ha).1, hq⟩

/-! A row that shares a key with the receipt is the delivery's own. -/

theorem Apart.receiptId (h : Apart r t) (row : ReceiptRow) (hrow : row ∈ t.receipts)
    (hid : row.receiptId = r.receiptId) : row.deliveryId = r.deliveryId := by
  by_contra hother
  exact (h.receipts row hrow hother).1 hid

theorem Apart.source (h : Apart r t) (row : ReceiptRow) (hrow : row ∈ t.receipts)
    (hprovider : row.providerId = r.evidenceProviderId) (hsome : row.sourceEventId.isSome)
    (hsource : row.sourceEventId = r.sourceEventId) : row.deliveryId = r.deliveryId := by
  by_contra hother
  exact (h.receipts row hrow hother).2 hprovider hsome hsource

theorem Apart.auditId (h : Apart r t) (row : AuditRow) (hrow : row ∈ t.auditLog)
    (hid : row.receiptId = r.receiptId) : row.deliveryId = r.deliveryId := by
  by_contra hother
  exact h.auditLog row hrow hother hid

theorem Beside.getDelivery {deliveryId : String} (h : Beside deliveryId t u) :
    t.getDelivery deliveryId = u.getDelivery deliveryId := by
  have hown : ∀ t : Tables, (t.deliveries.map (shade deliveryId)).find?
      (·.deliveryId = deliveryId) = t.getDelivery deliveryId := by
    intro t
    rw [List.find?_map]
    simp only [Function.comp_def, shade_deliveryId]
    cases hd : t.getDelivery deliveryId with
    | none =>
      unfold Tables.getDelivery at hd
      rw [hd]
      rfl
    | some d =>
      have hid : d.deliveryId = deliveryId := by simpa using List.find?_some hd
      unfold Tables.getDelivery at hd
      rw [hd, Option.map_some, shade_self hid]
  rw [← hown t, ← hown u, h.deliveries]

theorem Together.receiptRecord (h : Together r t u) :
    t.receiptRecord r.receiptId = u.receiptRecord r.receiptId := by
  have hown : ∀ {t : Tables}, Apart r t → t.receiptRecord r.receiptId =
      (t.receiptsFor r.deliveryId).find? (·.receiptId = r.receiptId) := by
    intro t ht
    refine find?_among fun row hrow hid => ?_
    exact decide_eq_true (ht.receiptId row hrow (of_decide_eq_true hid))
  rw [hown h.left, hown h.right, h.beside.receipts]

theorem Together.anyReceipt (h : Together r t u) {q : ReceiptRow → Bool}
    (hq : ∀ {t}, Apart r t → ∀ row ∈ t.receipts, q row → row.deliveryId = r.deliveryId) :
    t.receipts.any q = u.receipts.any q := by
  have hown : ∀ {t : Tables}, Apart r t →
      t.receipts.any q = (t.receiptsFor r.deliveryId).any q := by
    intro t ht
    exact any_among fun row hrow hrowq => decide_eq_true (hq ht row hrow hrowq)
  rw [hown h.left, hown h.right, h.beside.receipts]

theorem Together.anyAudit (h : Together r t u) :
    t.auditLog.any (·.receiptId = r.receiptId) = u.auditLog.any (·.receiptId = r.receiptId) := by
  have hown : ∀ {t : Tables}, Apart r t → t.auditLog.any (·.receiptId = r.receiptId) =
      (t.auditFor r.deliveryId).any (·.receiptId = r.receiptId) := by
    intro t ht
    refine any_among fun row hrow hid => ?_
    exact decide_eq_true (ht.auditId row hrow (of_decide_eq_true hid))
  rw [hown h.left, hown h.right, h.beside.auditLog]

/-- Whatever the submission reads, it reads the same in both. -/
theorem Together.same (h : Together r t u) : Same r t u where
  agree :=
    { kind := h.beside.kind _
      evidence := h.beside.evidence
      principals := h.beside.principals
      messages := h.beside.messages
      methods := h.beside.methods
      entry := by
        rw [Tables.sessionEntryChain_eq_receiptsFor, Tables.sessionEntryChain_eq_receiptsFor,
          h.beside.receipts]
      seen := by
        intro source hsource
        refine h.anyReceipt fun ht row hrow hq => ?_
        have hq := of_decide_eq_true hq
        refine ht.source row hrow hq.1 (by simp [hq.2]) ?_
        rw [hq.2, present_eq_some hsource] }
  binding _ := h.beside.sessionBinding _
  record := h.receiptRecord
  delivery := h.beside.getDelivery

/-! Its writes keep the tables together. -/

theorem insertRejection_together (row : RejectionRow) (h : Together r t u) :
    Option.Rel (Together r) (t.insertRejection row) (u.insertRejection row) :=
  .some ⟨{ h.beside with }, ⟨h.left.receipts, h.left.auditLog⟩,
    ⟨h.right.receipts, h.right.auditLog⟩⟩

theorem degrade_together (providerId : String) (h : Together r t u) :
    Option.Rel (Together r) (CoreStore.degrade providerId t) (CoreStore.degrade providerId u) := by
  refine .some ⟨{ h.beside with providers := ?_ }, ⟨h.left.receipts, h.left.auditLog⟩,
    ⟨h.right.receipts, h.right.auditLog⟩⟩
  simp only [degrade_map, h.beside.providers]

theorem insertReceipt_together (hid : d.deliveryId = r.deliveryId) (bindingId : String)
    (disposition : Option Disposition) (proof : ProofFields) (h : Together r t u) :
    Option.Rel (Together r) (t.insertReceipt (CoreStore.receiptRow r d bindingId disposition proof))
      (u.insertReceipt (CoreStore.receiptRow r d bindingId disposition proof)) := by
  have hids : ∀ {t : Tables}, Apart r t → ∀ row ∈ t.receipts,
      (decide (row.receiptId = r.receiptId)) → row.deliveryId = r.deliveryId :=
    fun ht row hrow hq => ht.receiptId row hrow (of_decide_eq_true hq)
  have hsources : ∀ {t : Tables}, Apart r t → ∀ row ∈ t.receipts,
      (decide (row.providerId = r.evidenceProviderId ∧ row.sourceEventId.isSome ∧
        row.sourceEventId = r.sourceEventId)) → row.deliveryId = r.deliveryId := by
    intro t ht row hrow hq
    obtain ⟨hprovider, hsome, hsource⟩ := of_decide_eq_true hq
    exact ht.source row hrow hprovider hsome hsource
  have happart : ∀ {t : Tables}, Apart r t → Apart r { t with
      receipts := t.receipts ++ [CoreStore.receiptRow r d bindingId disposition proof] } := by
    intro t ht
    refine ⟨fun row hrow hother => ?_, ht.auditLog⟩
    rcases List.mem_append.mp hrow with hrow | hrow
    · exact ht.receipts row hrow hother
    · rw [List.mem_singleton.mp hrow] at hother
      exact absurd hid hother
  refine rel_guard ?_ ⟨{ h.beside with receipts := ?_ }, happart h.left, happart h.right⟩
  · apply or_congr (Bool.eq_iff_iff.mp (h.anyReceipt hids))
    apply or_congr (Bool.eq_iff_iff.mp (h.anyReceipt hsources))
    exact or_congr (not_congr (Bool.eq_iff_iff.mp (h.beside.registers _)))
      (not_congr (Bool.eq_iff_iff.mp (h.beside.knows _)))
  · have hreceipts := h.beside.receipts
    unfold Tables.receiptsFor at hreceipts ⊢
    rw [List.filter_append, List.filter_append, hreceipts]

theorem insertAudit_together (hid : d.deliveryId = r.deliveryId) (next : DeliveryState)
    (disposition : Option Disposition) (h : Together r t u) :
    Option.Rel (Together r) (t.insertAudit (CoreStore.auditRow r d next disposition))
      (u.insertAudit (CoreStore.auditRow r d next disposition)) := by
  have hids : ∀ {t : Tables}, Apart r t → ∀ row ∈ t.receipts,
      (decide (row.receiptId = r.receiptId)) → row.deliveryId = r.deliveryId :=
    fun ht row hrow hq => ht.receiptId row hrow (of_decide_eq_true hq)
  have happart : ∀ {t : Tables}, Apart r t → Apart r { t with
      auditLog := t.auditLog ++ [CoreStore.auditRow r d next disposition] } := by
    intro t ht
    refine ⟨ht.receipts, fun row hrow hother => ?_⟩
    rcases List.mem_append.mp hrow with hrow | hrow
    · exact ht.auditLog row hrow hother
    · rw [List.mem_singleton.mp hrow] at hother
      exact absurd hid hother
  refine rel_guard ?_ ⟨{ h.beside with auditLog := ?_ }, happart h.left, happart h.right⟩
  · apply or_congr (Bool.eq_iff_iff.mp h.anyAudit)
    exact or_congr (not_congr (Bool.eq_iff_iff.mp (h.anyReceipt hids)))
      (not_congr (Bool.eq_iff_iff.mp (h.beside.knows _)))
  · have haudits := h.beside.auditLog
    unfold Tables.auditFor at haudits ⊢
    rw [List.filter_append, List.filter_append, haudits]

theorem advance_together (hid : d.deliveryId = r.deliveryId) (next : Transition)
    (h : Together r t u) :
    Together r
        (t.updateDelivery d.deliveryId d.state fun d =>
          { d with state := next.1, disposition := next.2 }).1
        (u.updateDelivery d.deliveryId d.state fun d =>
          { d with state := next.1, disposition := next.2 }).1 ∧
      (t.updateDelivery d.deliveryId d.state fun d =>
          { d with state := next.1, disposition := next.2 }).2 =
        (u.updateDelivery d.deliveryId d.state fun d =>
          { d with state := next.1, disposition := next.2 }).2 := by
  rw [hid]
  have hhit : ∀ d' : Delivery, decide ((shade r.deliveryId d').deliveryId = r.deliveryId ∧
      (shade r.deliveryId d').state = d.state) =
      decide (d'.deliveryId = r.deliveryId ∧ d'.state = d.state) := by
    intro d'
    by_cases hown : d'.deliveryId = r.deliveryId
    · rw [shade_self hown]
    · simp [hown]
  obtain ⟨hbeside, hcount⟩ := @update_beside r.deliveryId t u
    (fun d' => decide (d'.deliveryId = r.deliveryId ∧ d'.state = d.state))
    (fun d' => { d' with state := next.1, disposition := next.2 }) hhit
    (fun d' hd' => by rw [shade_self (of_decide_eq_true hd').1]) h.beside
  exact ⟨⟨hbeside, ⟨h.left.receipts, h.left.auditLog⟩, ⟨h.right.receipts, h.right.auditLog⟩⟩,
    hcount⟩

theorem acceptBlock_mirrors (hid : d.deliveryId = r.deliveryId) (next : Transition)
    (proof : ProofFields) :
    Mirrors (Together r) (CoreStore.acceptBlock r d next.1 next.2 proof) := by
  unfold CoreStore.acceptBlock
  split
  · exact mirrors_throw _
  refine mirrors_bind (mirrors_insert fun _ _ h => insertReceipt_together hid _ _ _ h) fun _ => ?_
  refine mirrors_bind (mirrors_modifyGet fun _ _ h => ?_) fun changed => ?_
  · obtain ⟨htogether, hcount⟩ := advance_together hid next h
    exact ⟨hcount, htogether⟩
  split
  · exact mirrors_throw _
  · exact mirrors_insert fun _ _ h => insertAudit_together hid _ _ h

abbrev AgreesOn (r : Receipt) (p : Reducer (Except PyError ReceiptResult)) : Prop :=
  p.Agrees Connection.working (fun i (c : CoreStore) => i.method.exec c) (Alike (Together r))

theorem reject_agrees (reason : String) (r : Receipt) : AgreesOn r (reject reason r) := by
  refine agrees_call (mirrored_bind ?_ fun _ => mirrored_commit) fun o => ?_
  · exact mirrored_execute fun _ _ h => insertRejection_together _ h
  · cases o <;> exact agrees_done _

theorem degraded_mirrored (providerId : String) :
    Mirrored (Together r) (CoreStore.markProviderDegraded providerId) :=
  mirrored_bind (mirrored_execute fun _ _ h => degrade_together providerId h) fun _ =>
    mirrored_commit

theorem repeatedReceipt_agrees (row : ReceiptRow) : AgreesOn r (repeatedReceipt r row) := by
  unfold repeatedReceipt
  split
  · exact agrees_done _
  · refine agrees_call (degraded_mirrored _) fun o => ?_
    cases o with
    | error e => exact agrees_done _
    | ok _ => exact reject_agrees _ r
  · refine agrees_read (fun c c' hc => ?_) fun _ => agrees_done _
    dsimp only
    rw [hc.working.beside.getDelivery]

theorem sourceReplayed_agrees : (sourceReplayed r).Agrees Connection.working
    (fun i (c : CoreStore) => i.method.exec c) (Alike (Together r)) := by
  unfold sourceReplayed
  split
  · rename_i source hsource
    refine agrees_read (fun c c' hc => ?_) fun _ => agrees_done _
    exact congrArg done (hc.working.same.agree.seen source hsource)
  · exact agrees_done _

theorem existingReceiptResult_agrees : (existingReceiptResult r).Agrees Connection.working
    (fun i (c : CoreStore) => i.method.exec c) (Alike (Together r)) := by
  unfold existingReceiptResult
  rw [fetch_bind]
  refine agrees_read (fun c c' hc => by rw [hc.working.receiptRecord]) fun t => ?_
  split
  · exact agrees_done _
  · exact agrees_bind (repeatedReceipt_agrees _) fun _ => agrees_done _

theorem Together.provider_none (h : Together r t u) :
    t.provider r.evidenceProviderId = none ↔ u.provider r.evidenceProviderId = none := by
  rw [← Option.map_eq_none_iff, h.same.agree.kind, Option.map_eq_none_iff]

theorem recover_agrees : AgreesOn r (recoverIntegrityCollision r) := by
  unfold recoverIntegrityCollision
  refine agrees_bind existingReceiptResult_agrees fun res => ?_
  split
  · exact agrees_done _
  · exact agrees_done _
  refine agrees_bind sourceReplayed_agrees fun seen => ?_
  simp only [fetch_bind]
  split
  · exact reject_agrees _ r
  refine agrees_read (fun c c' hc => by rw [hc.working.beside.getDelivery]) fun t => ?_
  split
  · exact reject_agrees _ r
  refine agrees_read (fun c c' hc => ?_) fun t => ?_
  · simp only [hc.working.provider_none]
  · split <;> exact reject_agrees _ r

theorem commitReceipt_agrees (hid : d.deliveryId = r.deliveryId) (next : Transition) :
    AgreesOn r (commitReceipt r d next) := by
  unfold commitReceipt
  rw [send_bind]
  refine agrees_call ?_ fun o => ?_
  · unfold StoreCall.method
    dsimp only
    cases proofStorageFields r.proof with
    | error e => exact mirrored_throw e
    | ok proof => exact mirrored_withConnection (acceptBlock_mirrors hid next proof)
  · split
    · exact agrees_done _
    · exact reject_agrees _ r
    · exact recover_agrees
    · exact agrees_done _

theorem verdict_agrees [Host] {authority : Option MarkerAuthority}
    {p : Reducer (Except PyError ReceiptResult)} (h : Verdict authority t r p) : AgreesOn r p := by
  cases h with
  | commit ha => exact commitReceipt_agrees (by simpa using List.find?_some ha.delivery) _
  | reject reason => exact reject_agrees reason r
  | raise e => exact agrees_done _
  | duplicate => exact agrees_done _
  | contradiction _ _ hp =>
    subst hp
    refine agrees_call (degraded_mirrored _) fun o => ?_
    cases o with
    | error e => exact agrees_done _
    | ok _ => exact reject_agrees _ r

/-- The submission answers the same in both, and leaves them together. -/
theorem submit_own [Host] (authority : Option MarkerAuthority) {c c' : CoreStore}
    (hc : Alike (Together r) c c') :
    (CoreStore.submit authority r c).1 = (CoreStore.submit authority r c').1 ∧
      Alike (Together r) (CoreStore.submit authority r c).2 (CoreStore.submit authority r c').2 := by
  have hsame := advance_of_follows (submit_follows authority r) hc.working.same
  unfold CoreStore.submit
  rw [← run_advance, ← run_advance Connection.working _ _ c', ← hsame]
  exact verdict_agrees (submit_verdict authority c.working r) c c' hc

end Own

/-- A submission that names another delivery. -/
def Op.ForOther (deliveryId : String) : Op → Bool
  | submit _ receipt => receipt.deliveryId ≠ deliveryId
  | _ => false

/-- The run without the submissions for other deliveries. -/
def without (deliveryId : String) (ops : List Op) : List Op :=
  ops.filter fun op => ! op.ForOther deliveryId

/-- What the operation returns, if it is a submission for the delivery. -/
def Op.answer [Host] (deliveryId : String) (c : CoreStore) :
    Op → Option (Except PyError ReceiptResult)
  | submit authority receipt =>
    if receipt.deliveryId = deliveryId then some (CoreStore.submit authority receipt c).1 else none
  | _ => none

/-- What the submissions for the delivery return, in order. -/
def answers [Host] (deliveryId : String) : List Op → CoreStore → List (Except PyError ReceiptResult)
  | [], _ => []
  | op :: ops, c => (op.answer deliveryId c).toList ++ answers deliveryId ops (op.exec c)

/-- No receipt id and no source event of a provider is shared with another delivery. -/
def Unshared (deliveryId : String) (ops : List Op) : Prop :=
  ∀ authority r authority' r', .submit authority r ∈ ops → .submit authority' r' ∈ ops →
    r.deliveryId = deliveryId → r'.deliveryId ≠ deliveryId → r'.receiptId ≠ r.receiptId ∧
      (r'.evidenceProviderId = r.evidenceProviderId → r'.sourceEventId.isSome →
        r'.sourceEventId ≠ r.sourceEventId)

/-- A broadcast that finds a transaction open in the run without the other submissions finds it
open with them too. -/
def Unblocked [Host] (deliveryId : String) (ops : List Op) : Prop :=
  ∀ before op after, ops = before ++ op :: after → op.IsBroadcast →
    (run (without deliveryId before) CoreStore.empty).inTransaction = true →
      (run before CoreStore.empty).inTransaction = true

section Runs

variable {deliveryId : String} {ops : List Op}

theorem without_append (ops later : List Op) :
    without deliveryId (ops ++ later) = without deliveryId ops ++ without deliveryId later :=
  List.filter_append ..

theorem without_subset : without deliveryId ops ⊆ ops := List.filter_subset_self ops

theorem Unshared.subset {later : List Op} (h : Unshared deliveryId later) (hsub : ops ⊆ later) :
    Unshared deliveryId ops :=
  fun a r a' r' hr hr' => h a r a' r' (hsub hr) (hsub hr')

theorem answers_append [Host] (ops later : List Op) (c : CoreStore) :
    answers deliveryId (ops ++ later) c =
      answers deliveryId ops c ++ answers deliveryId later (run ops c) := by
  induction ops generalizing c with
  | nil => rfl
  | cons op ops ih =>
    rw [List.cons_append, answers, ih, answers, List.append_assoc, run_cons]

/-- Every row of evidence comes from a submission. -/
structure Filed (ops : List Op) (t : Tables) : Prop where
  receipts : ∀ row ∈ t.receipts, ∃ authority r, .submit authority r ∈ ops ∧
    row.deliveryId = r.deliveryId ∧ row.receiptId = r.receiptId ∧
    row.providerId = r.evidenceProviderId ∧ row.sourceEventId = r.sourceEventId
  auditLog : ∀ row ∈ t.auditLog, ∃ authority r, .submit authority r ∈ ops ∧
    row.deliveryId = r.deliveryId ∧ row.receiptId = r.receiptId

theorem Filed.later {t : Tables} (h : Filed ops t) (op : Op) :
    Filed (ops ++ [op]) t := by
  constructor
  · intro row hrow
    obtain ⟨authority, r, hmem, hfacts⟩ := h.receipts row hrow
    exact ⟨authority, r, List.mem_append_left _ hmem, hfacts⟩
  · intro row hrow
    obtain ⟨authority, r, hmem, hfacts⟩ := h.auditLog row hrow
    exact ⟨authority, r, List.mem_append_left _ hmem, hfacts⟩

theorem filed_step [Host] {P : Delivery → Prop} {op : Op} {t t' : Tables}
    (hchange : Change P t op t') (h : Filed ops t) : Filed (ops ++ [op]) t' := by
  cases hchange with
  | grows hgrows =>
    have hlater := h.later op
    exact ⟨hgrows.receipts ▸ hlater.receipts, hgrows.auditLog ▸ hlater.auditLog⟩
  | dispatched => exact ⟨(h.later _).receipts, (h.later _).auditLog⟩
  | @accepted authority r d next bindingId proof ha hf hcommit =>
    have hid : d.deliveryId = r.deliveryId := by simpa using List.find?_some ha.delivery
    have hmem : Op.submit authority r ∈ ops ++ [.submit authority r] := by simp
    constructor
    · intro row hrow
      rcases List.mem_append.mp hrow with hrow | hrow
      · exact (h.later _).receipts row hrow
      · rw [List.mem_singleton.mp hrow]
        exact ⟨authority, r, hmem, hid, rfl, rfl, rfl⟩
    · intro row hrow
      rcases List.mem_append.mp hrow with hrow | hrow
      · exact (h.later _).auditLog row hrow
      · rw [List.mem_singleton.mp hrow]
        exact ⟨authority, r, hmem, hid, rfl⟩

theorem filed_run [Host] (ops : List Op) :
    Filed ops (run ops CoreStore.empty).working := by
  refine run_induction (P := fun _ => True) (fun _ _ _ => trivial) ⟨?_, ?_⟩ ?_ ?_
  · intro row hrow
    cases hrow
  · intro row hrow
    cases hrow
  · intro ops op t t' _ _ hchange h
    exact filed_step hchange h
  · intro op _
    cases op <;> trivial

/-- With no shared keys, what other submissions stored is apart from a receipt of the delivery. -/
theorem apart_of_filed {t : Tables} {stored : List Op} {authority : Option MarkerAuthority}
    {r : Receipt} (h : Filed stored t) (hstored : stored ⊆ ops)
    (hunshared : Unshared deliveryId ops) (hr : .submit authority r ∈ ops)
    (hown : r.deliveryId = deliveryId) : Apart r t := by
  constructor
  · intro row hrow hother
    obtain ⟨authority', r', hmem, hid, hreceipt, hprovider, hsource⟩ := h.receipts row hrow
    obtain ⟨hne, hsources⟩ := hunshared authority r authority' r' hr (hstored hmem) hown
      (by rw [← hid, ← hown]; exact hother)
    rw [hreceipt, hprovider, hsource]
    exact ⟨hne, hsources⟩
  · intro row hrow hother
    obtain ⟨authority', r', hmem, hid, hreceipt⟩ := h.auditLog row hrow
    rw [hreceipt]
    exact (hunshared authority r authority' r' hr (hstored hmem) hown
      (by rw [← hid, ← hown]; exact hother)).1

theorem forOther_iff {op : Op} : op.ForOther deliveryId = true ↔
    ∃ authority r, op = .submit authority r ∧ r.deliveryId ≠ deliveryId := by
  constructor
  · intro h
    cases op with
    | submit authority r => exact ⟨authority, r, rfl, of_decide_eq_true h⟩
    | _ => cases h
  · rintro ⟨authority, r, rfl, hother⟩
    exact decide_eq_true hother

/-- One operation that both runs make. -/
theorem exec_kept [Host] {op : Op} {c c' : CoreStore} (hclean : Clean c) (hclean' : Clean c')
    (halike : Alike (Beside deliveryId) c c') (hkept : ¬ op.ForOther deliveryId)
    (happart : ∀ authority r, op = .submit authority r →
      Apart r c.working ∧ Apart r c'.working)
    (hopen : op.IsBroadcast → c'.inTransaction = true → c.inTransaction = true) :
    Alike (Beside deliveryId) (op.exec c) (op.exec c') ∧
      op.answer deliveryId c = op.answer deliveryId c' := by
  by_cases hsubmit : ∃ authority r, op = .submit authority r
  · obtain ⟨authority, r, rfl⟩ := hsubmit
    have hown : r.deliveryId = deliveryId := by
      by_contra hother
      exact hkept (forOther_iff.mpr ⟨authority, r, rfl, hother⟩)
    subst hown
    obtain ⟨hleft, hright⟩ := happart authority r rfl
    have htogether : Alike (Together r) c c' := by
      refine ⟨⟨halike.committed, ?_, ?_⟩, ⟨halike.working, hleft, hright⟩, halike.transaction⟩
      · rwa [← show c.working = c.committed from hclean]
      · rwa [← show c'.working = c'.committed from hclean']
    obtain ⟨hres, hnext⟩ := submit_own authority htogether
    refine ⟨⟨hnext.committed.beside, hnext.working.beside, hnext.transaction⟩, ?_⟩
    simp only [Op.answer, if_true, hres]
  · have hnot : ∀ authority r, op ≠ .submit authority r :=
      fun authority r heq => hsubmit ⟨authority, r, heq⟩
    refine ⟨exec_beside halike hnot hopen, ?_⟩
    cases op with
    | submit authority r => exact absurd rfl (hnot authority r)
    | _ => rfl

/-- Along both runs the connections stay alike, and the delivery's submissions are answered
alike. -/
theorem alike_runs [Host] (hunshared : Unshared deliveryId ops)
    (hunblocked : Unblocked deliveryId ops) :
    Alike (Beside deliveryId) (run ops CoreStore.empty)
        (run (without deliveryId ops) CoreStore.empty) ∧
      answers deliveryId ops CoreStore.empty =
        answers deliveryId (without deliveryId ops) CoreStore.empty := by
  induction ops using List.reverseRecOn with
  | nil => exact ⟨⟨beside_refl _ _, beside_refl _ _, id⟩, rfl⟩
  | append_singleton ops op ih =>
    obtain ⟨halike, hanswers⟩ := ih
      (hunshared.subset (List.subset_append_left ops [op])) (by
        intro before other after heq
        refine hunblocked before other (after ++ [op]) ?_
        rw [heq, List.append_assoc, List.cons_append])
    have hclean := (sound_run ops sound_empty).clean
    rw [without_append, run_append, answers_append]
    by_cases hforeign : op.ForOther deliveryId
    · -- the operation is made in the first run only
      have hnone : without deliveryId [op] = [] := by simp [without, hforeign]
      rw [hnone, List.append_nil, ← hanswers]
      obtain ⟨authority, r, rfl, hother⟩ := forOther_iff.mp hforeign
      refine ⟨submit_foreign hclean hother halike, ?_⟩
      simp [answers, Op.answer, hother]
    · have hkept : without deliveryId [op] = [op] := by simp [without, hforeign]
      have hclean' := (sound_run (without deliveryId ops) sound_empty).clean
      have happart : ∀ authority r, op = .submit authority r →
          Apart r (run ops CoreStore.empty).working ∧
            Apart r (run (without deliveryId ops) CoreStore.empty).working := by
        rintro authority r rfl
        have hown : r.deliveryId = deliveryId := by
          by_contra hother
          exact hforeign (forOther_iff.mpr ⟨authority, r, rfl, hother⟩)
        have hmem : Op.submit authority r ∈ ops ++ [.submit authority r] := by simp
        have hsub : ops ⊆ ops ++ [.submit authority r] := List.subset_append_left _ _
        exact ⟨apart_of_filed (filed_run ops) hsub hunshared hmem hown,
          apart_of_filed (filed_run _) (List.Subset.trans without_subset hsub) hunshared hmem hown⟩
      obtain ⟨hnext, hanswer⟩ := exec_kept hclean hclean' halike hforeign happart
        fun hbroadcast => hunblocked ops op [] rfl hbroadcast
      rw [hkept, run_append, answers_append, hanswers]
      refine ⟨hnext, ?_⟩
      simp only [answers, hanswer]

end Runs

section Isolated

variable [Host]

/-- The delivery fares the same with and without the submissions for other deliveries. -/
structure Isolated (deliveryId : String) (ops : List Op) : Prop where
  delivery : (run ops CoreStore.empty).working.getDelivery deliveryId =
    (run (without deliveryId ops) CoreStore.empty).working.getDelivery deliveryId
  auditLog : (run ops CoreStore.empty).working.auditFor deliveryId =
    (run (without deliveryId ops) CoreStore.empty).working.auditFor deliveryId
  receipts : (run ops CoreStore.empty).working.receiptsFor deliveryId =
    (run (without deliveryId ops) CoreStore.empty).working.receiptsFor deliveryId
  results : answers deliveryId ops CoreStore.empty =
    answers deliveryId (without deliveryId ops) CoreStore.empty

/-- Deliveries that share no receipt id and no source event are isolated, unless a submission for
another one closes a transaction that a refused call left open before a broadcast. -/
theorem deliveries_isolated (deliveryId : String) (ops : List Op)
    (hunshared : Unshared deliveryId ops) (hunblocked : Unblocked deliveryId ops) :
    Isolated deliveryId ops := by
  obtain ⟨halike, hanswers⟩ := alike_runs hunshared hunblocked
  exact ⟨halike.working.getDelivery, halike.working.auditLog, halike.working.receipts, hanswers⟩

end Isolated

/-- A dispatch that leaves its transaction open, a rejected submission that closes it, and a
broadcast. -/
def sampleForeign : List Op :=
  [.replaceRoomRoster "room-1" ["bob"], .setDispatching "delivery-2",
    .submit none { sampleAck with deliveryId := "delivery-2" },
    .broadcast sampleFactory "alice" "room-1" "hello" "2026-01-01T00:30:00Z"]

theorem sampleForeign_unshared : Unshared "delivery++" sampleForeign := by
  intro authority r authority' r' hr _ hown _
  simp [sampleForeign, sampleAck] at hr
  simp [hr.2] at hown

/-- Without the submission for the other delivery, the broadcast raises and its delivery is
missing. -/
theorem foreign_submission_unblocks : ¬ ∀ deliveryId ops, Unshared deliveryId ops →
    @Isolated sampleHost deliveryId ops := by
  intro h
  have hexpanded : ((@run sampleHost sampleForeign CoreStore.empty).working.getDelivery
      "delivery++").isSome := by
    decide +kernel
  have hmissing : (@run sampleHost (without "delivery++" sampleForeign)
      CoreStore.empty).working.getDelivery "delivery++" = none := by
    decide +kernel
  have hsame := @Isolated.delivery sampleHost _ _
    (h "delivery++" sampleForeign sampleForeign_unshared)
  rw [hsame, hmissing] at hexpanded
  cases hexpanded

/-- The sample run with a submission for another delivery in the middle. -/
def sampleMixed : List Op :=
  sampleSetup ++ [.submit (some sampleAuthority) sampleAck,
    .submit none { sampleAck with receiptId := "receipt-9", deliveryId := "delivery-2" },
    .submit (some sampleAuthority) sampleEntry]

theorem deliveries_isolated_mixed : @Isolated sampleHost "delivery-1" sampleMixed := by
  refine @deliveries_isolated sampleHost "delivery-1" sampleMixed ?_ ?_
  · intro authority r authority' r' hr hr' hown hother
    simp [sampleMixed, sampleSetup] at hr hr'
    rcases hr with ⟨-, rfl⟩ | ⟨-, rfl⟩ | ⟨-, rfl⟩ <;>
      rcases hr' with ⟨-, rfl⟩ | ⟨-, rfl⟩ | ⟨-, rfl⟩ <;>
      simp [sampleAck, sampleEntry] at hown hother ⊢
  · intro before op after heq hbroadcast
    have hmem : op ∈ sampleMixed := by simp [heq]
    simp only [sampleMixed, sampleSetup, List.cons_append, List.nil_append, List.mem_cons,
      List.not_mem_nil, or_false] at hmem
    rcases hmem with rfl | rfl | rfl | rfl | rfl | rfl | rfl <;> cases hbroadcast

end Yatagarasu
