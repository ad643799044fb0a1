import Yatagarasu.Core.Runs

/-! `Change` says what happens to deliveries and evidence; an effect says it of every table. -/

namespace Yatagarasu

open Sqlite

def seatDelivery (eventId : String) (seat : String × Seat) : Delivery :=
  { eventId, deliveryId := seat.2.deliveryId, attemptId := seat.2.attemptId
    bindingId := seat.2.bindingId, recipientId := seat.1, deliveryMode := .sessionBound
    state := .queued, disposition := none }

def seatRow (broadcastId : String) (ordinal : Nat) (seat : String × Seat) :
    BroadcastRecipientRow :=
  { broadcastId, recipientId := seat.1, rosterOrdinal := ordinal, bindingId := seat.2.bindingId
    deliveryId := seat.2.deliveryId }

def seatRows (broadcastId : String) : Nat → List (String × Seat) → List BroadcastRecipientRow
  | _, [] => []
  | ordinal, seat :: rest => seatRow broadcastId ordinal seat ::
    seatRows broadcastId (ordinal + 1) rest

/-- The tables after an expansion was committed. -/
def expanded (t : Tables) (actorId roomId content acceptedAt broadcastId eventId : String)
    (seats : List (String × Seat)) : Tables :=
  { t with
    canonicalEvents := t.canonicalEvents ++
      [{ eventId, actorId, roomId, content, acceptedAt, authorityScope }]
    broadcasts := t.broadcasts ++
      [{ broadcastId, eventId, roomId, rosterSnapshotSize := seats.length }]
    deliveries := t.deliveries ++ seats.map (seatDelivery eventId)
    broadcastRecipients := t.broadcastRecipients ++ seatRows broadcastId 0 seats
    broadcastAudit := t.broadcastAudit ++
      [{ broadcastId, eventId, rosterSnapshotSize := seats.length }] }

section Seats

variable {t t' : Tables} {broadcastId eventId : String} {ordinal : Nat}
  {seats : List (String × Seat)}

/-- Every seat is in, and its delivery is new. -/
theorem insertSeats_ok
    (h : (BroadcastKernel.insertSeats broadcastId eventId ordinal seats).run t = .ok ((), t')) :
    t' = { t with
      deliveries := t.deliveries ++ seats.map (seatDelivery eventId)
      broadcastRecipients := t.broadcastRecipients ++ seatRows broadcastId ordinal seats } ∧
    (∀ seat ∈ seats, ∀ d ∈ t.deliveries, d.deliveryId ≠ seat.2.deliveryId) ∧
    (seats.map fun seat => seat.2.deliveryId).Nodup := by
  induction seats generalizing ordinal t with
  | nil =>
    cases h
    simp [seatRows]
  | cons seat rest ih =>
    obtain ⟨_, s₁, hdelivery, h⟩ := block_bind_ok.mp h
    obtain ⟨_, s₂, hrow, h⟩ := block_bind_ok.mp h
    have hdelivery := insert_ok.mp hdelivery
    have hrow := insert_ok.mp hrow
    unfold Tables.insertDelivery at hdelivery
    split at hdelivery
    · cases hdelivery
    rename_i hfresh
    cases hdelivery
    unfold Tables.insertBroadcastRecipient at hrow
    split at hrow
    · cases hrow
    cases hrow
    obtain ⟨rfl, hrest, hnodup⟩ := ih h
    have hold : ∀ d ∈ t.deliveries, d.deliveryId ≠ seat.2.deliveryId := by
      intro d hd hid
      exact hfresh (List.any_eq_true.mpr ⟨d, hd, by simpa using hid⟩)
    refine ⟨by simp [seatRows, seatRow, seatDelivery], ?_, ?_⟩
    · intro other hother d hd
      rcases List.mem_cons.mp hother with rfl | hother
      · exact hold d hd
      · exact hrest other hother d (List.mem_append_left _ hd)
    · rw [List.map_cons, List.nodup_cons]
      refine ⟨fun hmem => ?_, hnodup⟩
      obtain ⟨other, hother, hid⟩ := List.mem_map.mp hmem
      exact hrest other hother _ (List.mem_append_right _ (List.mem_singleton_self _)) hid.symm

theorem expansion_ok {actorId roomId content acceptedAt : String} {roster : List String}
    {rows : List Seat} (hlength : rows.length = roster.length)
    (h : (BroadcastKernel.expansion actorId roomId content acceptedAt broadcastId eventId roster
      rows).run t = .ok ((), t')) :
    t' = expanded t actorId roomId content acceptedAt broadcastId eventId (roster.zip rows) ∧
    (∀ header ∈ t.broadcasts, header.broadcastId ≠ broadcastId) ∧
    (∀ seat ∈ roster.zip rows, ∀ d ∈ t.deliveries, d.deliveryId ≠ seat.2.deliveryId) ∧
    ((roster.zip rows).map fun seat => seat.2.deliveryId).Nodup := by
  obtain ⟨_, s₁, hevent, h⟩ := block_bind_ok.mp h
  obtain ⟨_, s₂, hheader, h⟩ := block_bind_ok.mp h
  obtain ⟨_, s₃, hseats, haudit⟩ := block_bind_ok.mp h
  have hevent := insert_ok.mp hevent
  have hheader := insert_ok.mp hheader
  have haudit := insert_ok.mp haudit
  unfold Tables.insertCanonicalEvent at hevent
  split at hevent
  · cases hevent
  cases hevent
  unfold Tables.insertBroadcast at hheader
  split at hheader
  · cases hheader
  rename_i hfresh
  cases hheader
  obtain ⟨rfl, hdeliveries, hnodup⟩ := insertSeats_ok hseats
  unfold Tables.insertBroadcastAudit at haudit
  split at haudit
  · cases haudit
  cases haudit
  have hsize : (roster.zip rows).length = roster.length := by
    rw [List.length_zip, hlength, Nat.min_self]
  refine ⟨by simp [expanded, hsize], fun header hheader hid => hfresh (Or.inl ?_), hdeliveries,
    hnodup⟩
  exact List.any_eq_true.mpr ⟨header, hheader, by simp [hid]⟩

theorem seats_length [Host] {ids : IdFactory} {acceptedAt : String} {n : Nat}
    {roster : List String} {rows : List Seat}
    (h : BroadcastKernel.seats ids acceptedAt t n roster = .ok rows) :
    rows.length = roster.length := by
  induction roster generalizing n rows with
  | nil =>
    cases h
    rfl
  | cons recipientId rest ih =>
    unfold BroadcastKernel.seats at h
    obtain ⟨deliveryId, -, h⟩ := except_bind_ok.mp h
    obtain ⟨attemptId, -, h⟩ := except_bind_ok.mp h
    obtain ⟨binding, -, h⟩ := except_bind_ok.mp h
    obtain ⟨others, hothers, h⟩ := except_bind_ok.mp h
    cases h
    simp [ih hothers]

end Seats

theorem exec_query_bind {α β : Type} (f : Tables → Except PyError α) (g : α → Method β)
    (c : CoreStore) : (CoreStore.query f >>= g).exec c = match f c.working with
      | .ok a => (g a).exec c
      | .error e => (.error e, c) := by
  rw [exec_bind]
  have hquery : (CoreStore.query f).exec c = (f c.working, c) := rfl
  rw [hquery]
  cases f c.working <;> rfl

theorem onIntegrityError_exec {α : Type} (x : Method α) (e : PyError) (c : CoreStore) :
    (CoreStore.onIntegrityError x e).exec c = match x.exec c with
      | (.error .integrityError, c') => (.error e, c')
      | result => result := rfl

/-- Only the name of an integrity error changes. -/
theorem onIntegrityError_cases {α : Type} {x : Method α} {e : PyError} {c c' : CoreStore}
    {r : Except PyError α} (h : (CoreStore.onIntegrityError x e).exec c = (r, c')) :
    (∃ a, r = .ok a ∧ x.exec c = (.ok a, c')) ∨
      ∃ e' e'', r = .error e' ∧ x.exec c = (.error e'', c') := by
  rw [onIntegrityError_exec] at h
  split at h
  · rename_i hx
    cases h
    exact Or.inr ⟨_, _, rfl, hx⟩
  · cases r with
    | ok a => exact Or.inl ⟨a, rfl, h⟩
    | error e' => exact Or.inr ⟨e', e', rfl, h⟩

section Broadcast

variable [Host] {t : Tables} {c c' : CoreStore} {ids : IdFactory}
  {actorId roomId content acceptedAt : String}

/-- The roster that a broadcast freezes. -/
def frozenRoster (t : Tables) (actorId roomId : String) : List String :=
  (t.roomRoster roomId).filter (· ≠ actorId)

/-- What the tables and the factory say when an expansion commits. -/
structure Expands (t : Tables) (ids : IdFactory) (actorId roomId acceptedAt broadcastId
    eventId : String) (rows : List Seat) : Prop where
  named : ids 0 "broadcast" = .ok broadcastId ∧ ids 1 "event" = .ok eventId
  roster : frozenRoster t actorId roomId ≠ []
  seats : BroadcastKernel.seats ids acceptedAt t 2 (frozenRoster t actorId roomId) = .ok rows
  header : ∀ header ∈ t.broadcasts, header.broadcastId ≠ broadcastId
  deliveries : ∀ seat ∈ (frozenRoster t actorId roomId).zip rows, ∀ d ∈ t.deliveries,
    d.deliveryId ≠ seat.2.deliveryId
  distinct : (((frozenRoster t actorId roomId).zip rows).map fun seat => seat.2.deliveryId).Nodup

theorem expandBlock_ok {t' : Tables} {broadcastId eventId : String}
    (hbroadcast : ids 0 "broadcast" = .ok broadcastId) (hevent : ids 1 "event" = .ok eventId)
    (h : (BroadcastKernel.expandBlock ids actorId roomId content acceptedAt broadcastId
      eventId).run t = .ok ((), t')) :
    ∃ rows, Expands t ids actorId roomId acceptedAt broadcastId eventId rows ∧
      t' = expanded t actorId roomId content acceptedAt broadcastId eventId
        ((frozenRoster t actorId roomId).zip rows) := by
  simp only [StateT.run, BroadcastKernel.expandBlock] at h
  split at h
  · cases h
  rename_i hroster
  split at h
  · cases h
  rename_i rows hseats
  split at h
  · cases h
  obtain ⟨rfl, hheader, hdeliveries, hdistinct⟩ := expansion_ok (seats_length hseats) h
  exact ⟨rows, ⟨⟨hbroadcast, hevent⟩, hroster, hseats, hheader, hdeliveries, hdistinct⟩, rfl⟩

/-- A broadcast leaves the tables alone, or it is in as a whole and answers with its result. -/
theorem broadcast_cases (hc : Clean c) {r : Except PyError BroadcastResult}
    (h : (BroadcastKernel.broadcast ids actorId roomId content acceptedAt).exec c = (r, c')) :
    Clean c' ∧ ((∃ e, r = .error e ∧ c'.working = c.working) ∨
      ∃ broadcastId eventId rows,
        Expands c.working ids actorId roomId acceptedAt broadcastId eventId rows ∧
        c'.working = expanded c.working actorId roomId content acceptedAt broadcastId eventId
          ((frozenRoster c.working actorId roomId).zip rows) ∧
        r = BroadcastKernel.result broadcastId c'.working) := by
  unfold BroadcastKernel.broadcast at h
  split at h
  · cases h
    exact ⟨hc, Or.inl ⟨_, rfl, rfl⟩⟩
  rw [exec_query_bind] at h
  split at h
  swap
  · cases h
    exact ⟨hc, Or.inl ⟨_, rfl, rfl⟩⟩
  rw [exec_query_bind] at h
  split at h
  swap
  · cases h
    exact ⟨hc, Or.inl ⟨_, rfl, rfl⟩⟩
  rename_i broadcastId hbroadcast
  rw [exec_query_bind] at h
  split at h
  swap
  · cases h
    exact ⟨hc, Or.inl ⟨_, rfl, rfl⟩⟩
  rename_i eventId hevent
  rw [exec_bind] at h
  split at h
  · rename_i u c₁ hexpand
    rcases onIntegrityError_cases hexpand with ⟨a, ha, hexec⟩ | ⟨e', e'', he, -⟩
    · obtain ⟨hc₁, ⟨_, hblock, -⟩ | ⟨e, he, -⟩⟩ := withImmediate_cases hc hexec
      · obtain ⟨rows, hexpands, hworking⟩ := expandBlock_ok hbroadcast hevent hblock
        cases h
        exact ⟨hc₁, Or.inr ⟨broadcastId, eventId, rows, hexpands, hworking, rfl⟩⟩
      · cases he
    · cases he
  · rename_i e c₁ hexpand
    cases h
    rcases onIntegrityError_cases hexpand with ⟨a, ha, -⟩ | ⟨e', e'', he, hexec⟩
    · cases ha
    · obtain ⟨hc₁, ⟨_, -, he⟩ | ⟨_, -, hworking⟩⟩ := withImmediate_cases hc hexec
      · cases he
      · exact ⟨hc₁, Or.inl ⟨_, rfl, hworking⟩⟩

end Broadcast

section Bindings

variable {t t' : Tables} {c c' : CoreStore} {binding : SessionBinding}

/-- The tables after a binding and its proof methods were inserted. -/
def bound (t : Tables) (binding : SessionBinding) : Tables :=
  { t with
    sessionBindings := t.sessionBindings ++ [CoreStore.bindingRow binding]
    bindingProofMethods := t.bindingProofMethods ++ binding.proofMethods.map fun registration =>
      { bindingId := binding.bindingId, registration } }

/-- `UPDATE session_bindings SET state = 'superseded' WHERE binding_id = ?`. -/
def retired (t : Tables) (bindingId : String) : Tables :=
  { t with sessionBindings := t.sessionBindings.map fun row =>
      if row.bindingId = bindingId then { row with state := .superseded } else row }

theorem insertProofMethods_ok {bindingId : String} {methods : List ProofMethodRegistration}
    (h : (CoreStore.insertProofMethods bindingId methods).run t = .ok ((), t')) :
    t' = { t with bindingProofMethods := t.bindingProofMethods ++ methods.map fun registration =>
      { bindingId, registration } } := by
  induction methods generalizing t with
  | nil =>
    cases h
    simp
  | cons registration rest ih =>
    obtain ⟨_, s, hrow, h⟩ := block_bind_ok.mp h
    have hrow := insert_ok.mp hrow
    unfold Tables.insertProofMethod at hrow
    split at hrow
    · cases hrow
    cases hrow
    rw [ih h]
    simp

/-- No row has the binding's id, and no other binding of the recipient is active. -/
structure Bindable (t : Tables) (binding : SessionBinding) : Prop where
  unused : ∀ row ∈ t.sessionBindings, row.bindingId ≠ binding.bindingId
  alone : binding.state = .active → ∀ row ∈ t.sessionBindings,
    row.recipientId = binding.recipientId → row.state ≠ .active

theorem insertSessionBinding_ok
    (h : (CoreStore.insertSessionBinding binding).run t = .ok ((), t')) :
    Bindable t binding ∧ t' = bound t binding := by
  obtain ⟨_, s, hrow, h⟩ := block_bind_ok.mp h
  have hrow := insert_ok.mp hrow
  unfold Tables.insertSessionBindingRow at hrow
  split at hrow
  · cases hrow
  rename_i hfree
  cases hrow
  rw [not_or, not_or] at hfree
  refine ⟨⟨fun row hmem hid => hfree.1 ?_, fun hactive row hmem hrecipient hstate => ?_⟩,
    insertProofMethods_ok h⟩
  · exact List.any_eq_true.mpr ⟨row, hmem, by simp [CoreStore.bindingRow, hid]⟩
  · refine hfree.2.1 ⟨hactive, List.any_eq_true.mpr ⟨row, hmem, ?_⟩⟩
    simp [CoreStore.bindingRow, hrecipient, hstate]

/-- A registration is in, or it raised and changed nothing. -/
theorem registerSessionBinding_cases [Host] (hc : Clean c) {r : Except PyError Unit}
    (h : (CoreStore.registerSessionBinding binding).exec c = (r, c')) :
    Clean c' ∧ ((∃ e, r = .error e ∧ c'.working = c.working) ∨
      (r = .ok () ∧ CoreStore.validateSessionBinding binding c.working = .ok () ∧
        Bindable c.working binding ∧ c'.working = bound c.working binding)) := by
  unfold CoreStore.registerSessionBinding at h
  rw [exec_query_bind] at h
  split at h
  swap
  · cases h
    exact ⟨hc, Or.inl ⟨_, rfl, rfl⟩⟩
  rename_i hvalid
  rcases onIntegrityError_cases h with ⟨a, rfl, hexec⟩ | ⟨e', e'', rfl, hexec⟩
  · obtain ⟨hc', ⟨_, hblock, -⟩ | ⟨_, -, he, -⟩⟩ := withConnection_cases hc hexec
    · obtain ⟨hbindable, hworking⟩ := insertSessionBinding_ok hblock
      exact ⟨hc', Or.inr ⟨rfl, hvalid, hbindable, hworking⟩⟩
    · cases he
  · obtain ⟨hc', ⟨_, -, he⟩ | ⟨_, -, -, hworking⟩⟩ := withConnection_cases hc hexec
    · cases he
    · exact ⟨hc', Or.inl ⟨_, rfl, hworking⟩⟩

theorem supersedeBlock_ok {oldBindingId : String} (h : (do
      Sqlite.insert (CoreStore.setBindingState oldBindingId .superseded)
      CoreStore.insertSessionBinding binding : Block Unit).run t = .ok ((), t')) :
    Bindable (retired t oldBindingId) binding ∧ t' = bound (retired t oldBindingId) binding := by
  obtain ⟨_, s, hstate, h⟩ := block_bind_ok.mp h
  have hstate := insert_ok.mp hstate
  cases hstate
  exact insertSessionBinding_ok h

/-- A supersession is in, or it raised and changed nothing. -/
theorem supersedeSessionBinding_cases [Host] {oldBindingId : String} (hc : Clean c)
    {r : Except PyError Unit}
    (h : (CoreStore.supersedeSessionBinding oldBindingId binding).exec c = (r, c')) :
    Clean c' ∧ ((∃ e, r = .error e ∧ c'.working = c.working) ∨
      (r = .ok () ∧ CoreStore.validateSupersession oldBindingId binding c.working = .ok () ∧
        Bindable (retired c.working oldBindingId) binding ∧
        c'.working = bound (retired c.working oldBindingId) binding)) := by
  unfold CoreStore.supersedeSessionBinding at h
  rw [exec_query_bind] at h
  split at h
  swap
  · cases h
    exact ⟨hc, Or.inl ⟨_, rfl, rfl⟩⟩
  rename_i hvalid
  obtain ⟨hc', ⟨_, hblock, rfl⟩ | ⟨_, -, rfl, hworking⟩⟩ := withConnection_cases hc h
  · obtain ⟨hbindable, hworking⟩ := supersedeBlock_ok hblock
    exact ⟨hc', Or.inr ⟨rfl, hvalid, hbindable, hworking⟩⟩
  · exact ⟨hc', Or.inl ⟨_, rfl, hworking⟩⟩

/-- A revocation hits one active row, or it raised and changed nothing. -/
theorem revokeSessionBinding_cases {bindingId : String} (hc : Clean c) (hk : Keyed c.working)
    {r : Except PyError Unit}
    (h : (CoreStore.revokeSessionBinding bindingId).exec c = (r, c')) :
    Clean c' ∧ ((∃ e, r = .error e ∧ c'.working = c.working) ∨
      (r = .ok () ∧ c'.working = (CoreStore.revokeActive bindingId c.working).1)) := by
  obtain ⟨hc', ⟨-, hr, hworking⟩ | ⟨-, hr, hworking⟩⟩ := guardedUpdate_cases hc
    (revokeActive_idle hk) h
  · exact ⟨hc', Or.inr ⟨hr, hworking⟩⟩
  · exact ⟨hc', Or.inl ⟨_, hr, hworking⟩⟩

end Bindings

section Rosters

variable {t t' : Tables}

def memberRows (roomId : String) : Nat → List String → List RoomMemberRow
  | _, [] => []
  | ordinal, recipientId :: rest => { roomId, recipientId, rosterOrdinal := ordinal } ::
    memberRows roomId (ordinal + 1) rest

theorem insertRoomMembers_ok {roomId : String} {ordinal : Nat} {recipients : List String}
    (h : (CoreStore.insertRoomMembers roomId ordinal recipients).run t = .ok ((), t')) :
    t' = { t with roomMembers := t.roomMembers ++ memberRows roomId ordinal recipients } := by
  induction recipients generalizing ordinal t with
  | nil =>
    cases h
    simp [memberRows]
  | cons recipientId rest ih =>
    obtain ⟨_, s, hrow, h⟩ := block_bind_ok.mp h
    have hrow := insert_ok.mp hrow
    unfold Tables.insertRoomMember at hrow
    split at hrow
    · cases hrow
    cases hrow
    rw [ih h]
    simp [memberRows]

/-- The tables after the live roster of a room was replaced. -/
def rostered (t : Tables) (roomId : String) (recipients : List String) : Tables :=
  { t with
    rooms := if roomId ∈ t.rooms then t.rooms else t.rooms ++ [roomId]
    roomMembers := t.roomMembers.filter (·.roomId ≠ roomId) ++ memberRows roomId 0 recipients }

theorem replaceRoomRoster_cases {c c' : CoreStore} {roomId : String} {recipients : List String}
    (hc : Clean c) {r : Except PyError Unit}
    (h : (CoreStore.replaceRoomRoster roomId recipients).exec c = (r, c')) :
    Clean c' ∧ ((∃ e, r = .error e ∧ c'.working = c.working) ∨
      (r = .ok () ∧ recipients.Nodup ∧ c'.working = rostered c.working roomId recipients)) := by
  unfold CoreStore.replaceRoomRoster at h
  split at h
  · cases h
    exact ⟨hc, Or.inl ⟨_, rfl, rfl⟩⟩
  split at h
  · cases h
    exact ⟨hc, Or.inl ⟨_, rfl, rfl⟩⟩
  rename_i hnodup
  obtain ⟨hc', ⟨_, hblock, rfl⟩ | ⟨_, -, rfl, hworking⟩⟩ := withConnection_cases hc h
  · obtain ⟨_, s₁, hroom, hblock⟩ := block_bind_ok.mp hblock
    obtain ⟨_, s₂, hdelete, hblock⟩ := block_bind_ok.mp hblock
    have hroom := insert_ok.mp hroom
    have hdelete := insert_ok.mp hdelete
    cases hroom
    cases hdelete
    exact ⟨hc', Or.inr ⟨rfl, not_not.mp hnodup, insertRoomMembers_ok hblock⟩⟩
  · exact ⟨hc', Or.inl ⟨_, rfl, hworking⟩⟩

theorem insertEvidenceClasses_ok {providerId : String} {classes : List EvidenceClass}
    (h : (CoreStore.insertEvidenceClasses providerId classes).run t = .ok ((), t')) :
    ∃ new, t' = { t with providerEvidence := t.providerEvidence ++ new } := by
  induction classes generalizing t with
  | nil =>
    cases h
    exact ⟨[], by simp⟩
  | cons evidenceClass rest ih =>
    obtain ⟨_, s, hrow, h⟩ := block_bind_ok.mp h
    have hrow := insert_ok.mp hrow
    unfold Tables.insertProviderEvidence at hrow
    split at hrow
    · cases hrow
    cases hrow
    obtain ⟨new, rfl⟩ := ih h
    exact ⟨{ providerId, evidenceClass } :: new, by simp⟩

theorem registerProvider_cases {c c' : CoreStore} {providerId : String} {kind : ProviderKind}
    {classes : List EvidenceClass} (hc : Clean c) {r : Except PyError Unit}
    (h : (CoreStore.registerProvider providerId kind classes).exec c = (r, c')) :
    Clean c' ∧ ((∃ e, r = .error e ∧ c'.working = c.working) ∨
      (r = .ok () ∧ (∀ p ∈ c.working.providers, p.providerId ≠ providerId) ∧
        ∃ new, c'.working = { c.working with
          providers := c.working.providers ++ [{ providerId, kind }]
          providerEvidence := c.working.providerEvidence ++ new })) := by
  obtain ⟨hc', ⟨_, hblock, rfl⟩ | ⟨_, -, rfl, hworking⟩⟩ := withConnection_cases hc h
  · obtain ⟨_, s, hprovider, hblock⟩ := block_bind_ok.mp hblock
    have hprovider := insert_ok.mp hprovider
    unfold Tables.insertProvider at hprovider
    split at hprovider
    · cases hprovider
    rename_i hfresh
    cases hprovider
    obtain ⟨new, hnew⟩ := insertEvidenceClasses_ok hblock
    refine ⟨hc', Or.inr ⟨rfl, fun p hp hid => hfresh ?_, new, hnew⟩⟩
    exact List.any_eq_true.mpr ⟨p, hp, by simp [hid]⟩
  · exact ⟨hc', Or.inl ⟨_, rfl, hworking⟩⟩

end Rosters

/-- Everything that one operation can do to the tables. -/
inductive Effect [Host] (t : Tables) : Op → Tables → Prop
  | none {op : Op} : Effect t op t
  | added {d : Delivery} : (∀ old ∈ t.deliveries, old.deliveryId ≠ d.deliveryId) →
      Effect t (.addDelivery d) { t with deliveries := t.deliveries ++ [d] }
  | rostered {roomId : String} {recipients : List String} : recipients.Nodup →
      Effect t (.replaceRoomRoster roomId recipients) (Yatagarasu.rostered t roomId recipients)
  | dispatched {d : Delivery} : d ∈ t.deliveries → d.state = .queued →
      Effect t (.setDispatching d.deliveryId)
        { t with deliveries := ReceiptReducer.moved t.deliveries d fun d =>
            { d with state := .dispatching } }
  | provided {providerId : String} {kind : ProviderKind} {classes : List EvidenceClass}
      {new : List ProviderEvidenceRow} : (∀ p ∈ t.providers, p.providerId ≠ providerId) →
      Effect t (.registerProvider providerId kind classes)
        { t with
          providers := t.providers ++ [{ providerId, kind }]
          providerEvidence := t.providerEvidence ++ new }
  | bound {binding : SessionBinding} :
      CoreStore.validateSessionBinding binding t = .ok () → Bindable t binding →
      Effect t (.registerSessionBinding binding) (Yatagarasu.bound t binding)
  | superseded {oldBindingId : String} {binding : SessionBinding} :
      CoreStore.validateSupersession oldBindingId binding t = .ok () →
      Bindable (retired t oldBindingId) binding →
      Effect t (.supersedeSessionBinding oldBindingId binding)
        (Yatagarasu.bound (retired t oldBindingId) binding)
  | revoked {bindingId : String} :
      Effect t (.revokeSessionBinding bindingId) (CoreStore.revokeActive bindingId t).1
  | principal {providerId platformPrincipalId recipientId : String} {row : PrincipalBindingRow} :
      Effect t (.bindPrincipal providerId platformPrincipalId recipientId)
        { t with principalBindings := t.principalBindings ++ [row] }
  | message {providerId platformMessageId eventId deliveryId attemptId : String}
      {row : MessageBindingRow} :
      Effect t (.bindPlatformMessage providerId platformMessageId eventId deliveryId attemptId)
        { t with platformMessageBindings := t.platformMessageBindings ++ [row] }
  | degraded {op : Op} {providerId : String} :
      Effect t op (ReceiptReducer.withDegraded t providerId)
  | rejected {op : Op} {r : Receipt} {reason : String} :
      Effect t op (ReceiptReducer.withRejection t r reason)
  | contradicted {op : Op} {r : Receipt} {reason providerId : String} : Effect t op
      (ReceiptReducer.withRejection (ReceiptReducer.withDegraded t providerId) r reason)
  | broadcast {ids : IdFactory} {actorId roomId content acceptedAt broadcastId eventId : String}
      {rows : List Seat} : Expands t ids actorId roomId acceptedAt broadcastId eventId rows →
      Effect t (.broadcast ids actorId roomId content acceptedAt)
        (expanded t actorId roomId content acceptedAt broadcastId eventId
          ((frozenRoster t actorId roomId).zip rows))
  | accepted {authority : Option MarkerAuthority} {r : Receipt} {d : Delivery}
      {next : ReceiptReducer.Transition} {bindingId : String} {proof : ProofFields} :
      ReceiptReducer.Acceptable authority t r d next → proofStorageFields r.proof = .ok proof →
      ReceiptReducer.Commits t r d bindingId → Effect t (.submit authority r)
        (ReceiptReducer.accepted t r d next bindingId proof)

section Effect

variable [Host] {c : CoreStore}

theorem execute_commit_effect {op : Op} {f : Tables → Option Tables} (hc : Clean c)
    (h : ∀ t', f c.working = some t' → Effect c.working op t') :
    Effect c.working op ((do execute f; commit : Method Unit).exec c).2.working := by
  cases hexec : (do execute f; commit : Method Unit).exec c with
  | mk res c' =>
    obtain ⟨-, ⟨t', hf, -, hw⟩ | ⟨-, -, hw⟩⟩ := execute_commit_cases hc hexec
    · exact hw ▸ h t' hf
    · exact hw ▸ .none

theorem submit_effect (authority : Option MarkerAuthority) (r : Receipt) (hc : Clean c) :
    Effect c.working (.submit authority r) (CoreStore.submit authority r c).2.working := by
  cases hsubmit : CoreStore.submit authority r c with
  | mk res c' =>
  obtain ⟨-, ho⟩ := ReceiptReducer.submit_outcome hc hsubmit
  change Effect c.working (.submit authority r) c'.working
  generalize c'.working = t' at ho
  cases ho with
  | accepted ha hf hcommit => exact .accepted ha hf hcommit
  | duplicate => exact .none
  | rejected => exact .rejected
  | contradiction => exact .contradicted
  | raised => exact .none

/-- An operation has one of the effects, whether it returned or raised. -/
theorem exec_effect (op : Op) (h : Sound c) : Effect c.working op (op.exec c).working := by
  have hc := h.clean
  cases op with
  | addDelivery delivery =>
    refine execute_commit_effect hc fun t' hf => ?_
    unfold Tables.insertDelivery at hf
    split at hf
    · cases hf
    rename_i hfresh
    cases hf
    refine .added fun old hold hid => hfresh ?_
    exact List.any_eq_true.mpr ⟨old, hold, by simp [hid]⟩
  | replaceRoomRoster roomId recipients =>
    obtain ⟨-, ⟨e, -, hw⟩ | ⟨-, hnodup, hw⟩⟩ := replaceRoomRoster_cases hc
      (rfl : (CoreStore.replaceRoomRoster roomId recipients).exec c = _)
    · exact hw ▸ .none
    · exact hw ▸ .rostered hnodup
  | setDispatching deliveryId =>
    obtain ⟨-, ⟨hn, -, hw⟩ | ⟨-, -, hw⟩⟩ := guardedUpdate_cases hc (updateDelivery_idle h.keyed)
      (rfl : (CoreStore.setDispatching deliveryId).exec c = _)
    · obtain ⟨d, hd, rfl, hq, hmoved⟩ := updateDelivery_hit hn
      exact (hw.trans hmoved) ▸ .dispatched hd hq
    · exact hw ▸ .none
  | registerProvider providerId kind classes =>
    obtain ⟨-, ⟨e, -, hw⟩ | ⟨-, hfresh, new, hw⟩⟩ := registerProvider_cases hc
      (rfl : (CoreStore.registerProvider providerId kind classes).exec c = _)
    · exact hw ▸ .none
    · exact hw ▸ .provided hfresh
  | registerSessionBinding binding =>
    obtain ⟨-, ⟨e, -, hw⟩ | ⟨-, hvalid, hbindable, hw⟩⟩ := registerSessionBinding_cases hc
      (rfl : (CoreStore.registerSessionBinding binding).exec c = _)
    · exact hw ▸ .none
    · exact hw ▸ .bound hvalid hbindable
  | supersedeSessionBinding oldBindingId replacement =>
    obtain ⟨-, ⟨e, -, hw⟩ | ⟨-, hvalid, hbindable, hw⟩⟩ := supersedeSessionBinding_cases hc
      (rfl : (CoreStore.supersedeSessionBinding oldBindingId replacement).exec c = _)
    · exact hw ▸ .none
    · exact hw ▸ .superseded hvalid hbindable
  | revokeSessionBinding bindingId =>
    obtain ⟨-, ⟨e, -, hw⟩ | ⟨-, hw⟩⟩ := revokeSessionBinding_cases hc h.keyed
      (rfl : (CoreStore.revokeSessionBinding bindingId).exec c = _)
    · exact hw ▸ .none
    · exact hw ▸ .revoked
  | bindPrincipal providerId platformPrincipalId recipientId =>
    refine execute_commit_effect hc fun t' hf => ?_
    unfold Tables.insertPrincipalBinding at hf
    split at hf
    · cases hf
    · cases hf
      exact .principal
  | bindPlatformMessage providerId platformMessageId eventId deliveryId attemptId =>
    refine execute_commit_effect hc fun t' hf => ?_
    unfold Tables.insertMessageBinding at hf
    split at hf
    · cases hf
    · cases hf
      exact .message
  | markProviderDegraded providerId =>
    refine execute_commit_effect hc fun t' hf => ?_
    cases hf
    exact .degraded
  | recordRejection receipt reason =>
    refine execute_commit_effect hc fun t' hf => ?_
    cases hf
    exact .rejected
  | broadcast ids actorId roomId content acceptedAt =>
    obtain ⟨-, ⟨e, -, hw⟩ | ⟨broadcastId, eventId, rows, hexpands, hw, -⟩⟩ := broadcast_cases hc
      (rfl : (BroadcastKernel.broadcast ids actorId roomId content acceptedAt).exec c = _)
    · exact hw ▸ .none
    · exact hw ▸ .broadcast hexpands
  | submit authority receipt => exact submit_effect authority receipt hc
  | reopen =>
    have hw : (Op.exec .reopen c).working = c.working := hc.symm
    exact hw ▸ .none

/-- A fact about the tables that every effect keeps holds after every run. -/
theorem run_invariant {I : Tables → Prop}
    (hstep : ∀ {t op t'}, Keyed t → Effect t op t' → I t → I t') (ops : List Op) (hs : Sound c)
    (h : I c.working) : I (run ops c).working := by
  induction ops generalizing c with
  | nil => exact h
  | cons op ops ih => exact ih (exec_sound op hs).1 (hstep hs.keyed (exec_effect op hs) h)

end Effect

end Yatagarasu
