import Yatagarasu.Core.Snapshots
import Yatagarasu.Core.Supersession

/-! Some calls run one statement and commit it only if it went through. A refused statement leaves
its transaction open, and the next broadcast cannot begin one of its own. -/

namespace Yatagarasu

open Sqlite ReceiptReducer

/-- The statement of the call is refused by the schema, or its guard hits no row. -/
def Op.Leaks (t : Tables) : Op → Prop
  | addDelivery delivery => ∃ old ∈ t.deliveries, old.deliveryId = delivery.deliveryId
  | setDispatching deliveryId =>
    ∀ d ∈ t.deliveries, d.deliveryId = deliveryId → d.state ≠ .queued
  | revokeSessionBinding bindingId =>
    ∀ row ∈ t.sessionBindings, row.bindingId = bindingId → row.state ≠ .active
  | bindPrincipal providerId platformPrincipalId _ =>
    (∃ old ∈ t.principalBindings, old.providerId = providerId ∧
      old.platformPrincipalId = platformPrincipalId) ∨
    ∀ p ∈ t.providers, p.providerId ≠ providerId
  | bindPlatformMessage providerId platformMessageId _ deliveryId _ =>
    (∃ old ∈ t.platformMessageBindings, old.providerId = providerId ∧
      old.platformMessageId = platformMessageId) ∨
    (∀ p ∈ t.providers, p.providerId ≠ providerId) ∨
    ∀ d ∈ t.deliveries, d.deliveryId ≠ deliveryId
  | _ => False

section Calls

variable {t : Tables} {c : CoreStore}

theorem refused_iff {α : Type} {p : Prop} [Decidable p] {row : α} :
    (if p then none else some row) = none ↔ p := by
  split
  · rename_i hp
    exact iff_of_true rfl hp
  · rename_i hp
    exact iff_of_false (by simp) hp

theorem insertDelivery_none {d : Delivery} :
    t.insertDelivery d = none ↔ ∃ old ∈ t.deliveries, old.deliveryId = d.deliveryId := by
  rw [Tables.insertDelivery, refused_iff]
  simp only [List.any_eq_true, decide_eq_true_eq]

theorem insertPrincipalBinding_none {row : PrincipalBindingRow} :
    t.insertPrincipalBinding row = none ↔
      (∃ old ∈ t.principalBindings, old.providerId = row.providerId ∧
        old.platformPrincipalId = row.platformPrincipalId) ∨
      ∀ p ∈ t.providers, p.providerId ≠ row.providerId := by
  rw [Tables.insertPrincipalBinding, refused_iff]
  simp only [List.any_eq_true, decide_eq_true_eq, not_exists, not_and, ne_eq]

theorem insertMessageBinding_none {row : MessageBindingRow} :
    t.insertMessageBinding row = none ↔
      (∃ old ∈ t.platformMessageBindings, old.providerId = row.providerId ∧
        old.platformMessageId = row.platformMessageId) ∨
      (∀ p ∈ t.providers, p.providerId ≠ row.providerId) ∨
      ∀ d ∈ t.deliveries, d.deliveryId ≠ row.deliveryId := by
  rw [Tables.insertMessageBinding, refused_iff]
  simp only [List.any_eq_true, decide_eq_true_eq, not_exists, not_and, ne_eq]

theorem updateDelivery_misses (hk : Keyed t) {deliveryId : String} {state : DeliveryState}
    {f : Delivery → Delivery} : (t.updateDelivery deliveryId state f).2 ≠ 1 ↔
      ∀ d ∈ t.deliveries, d.deliveryId = deliveryId → d.state ≠ state := by
  have hle : (t.updateDelivery deliveryId state f).2 ≤ 1 :=
    countP_key_le_one (k := deliveryId) hk.deliveries fun d hd => (of_decide_eq_true hd).1
  have hzero : (t.updateDelivery deliveryId state f).2 = 0 ↔
      ∀ d ∈ t.deliveries, d.deliveryId = deliveryId → d.state ≠ state := by
    simp [Tables.updateDelivery, List.countP_eq_zero]
  rw [← hzero]
  omega

theorem revokeActive_idle_iff (hk : Keyed t) {bindingId : String} :
    (CoreStore.revokeActive bindingId t).2 ≠ 1 ↔
      ∀ row ∈ t.sessionBindings, row.bindingId = bindingId → row.state ≠ .active := by
  constructor
  · intro hmiss row hrow hid hactive
    exact hmiss (revokeActive_hits hk ⟨row, hrow, hid, hactive⟩)
  · intro hnone
    refine revokeActive_misses ?_
    rintro ⟨row, hrow, hid, hactive⟩
    exact hnone row hrow hid hactive

/-- The writes of a reducer end their transactions. -/
theorem storeCall_closed (call : StoreCall) (hclosed : c.inTransaction = false) :
    (call.method.exec c).2.inTransaction = false := by
  cases call with
  | acceptReceipt receipt delivery next disposition =>
    unfold StoreCall.method
    dsimp only
    cases proofStorageFields receipt.proof with
    | error e => exact hclosed
    | ok proof => exact withConnection_closed _ _
  | recordRejection receipt reason => rfl
  | markProviderDegraded providerId => rfl

theorem onIntegrityError_snd {α : Type} (x : Method α) (e : PyError) :
    ((CoreStore.onIntegrityError x e).exec c).2 = (x.exec c).2 := by
  rw [onIntegrityError_exec]
  split
  · rename_i hx
    rw [hx]
  · rfl

theorem query_bind_closed {α β : Type} {f : Tables → Except PyError α} {g : α → Method β}
    (hclosed : c.inTransaction = false) (h : ∀ a, ((g a).exec c).2.inTransaction = false) :
    ((CoreStore.query f >>= g).exec c).2.inTransaction = false := by
  rw [exec_query_bind]
  split
  · exact h _
  · exact hclosed

theorem broadcast_closed [Host] {ids : IdFactory} {actorId roomId content acceptedAt : String}
    (hclosed : c.inTransaction = false) :
    ((BroadcastKernel.broadcast ids actorId roomId content acceptedAt).exec c).2.inTransaction =
      false := by
  unfold BroadcastKernel.broadcast
  split
  · exact hclosed
  refine query_bind_closed hclosed fun _ => query_bind_closed hclosed fun broadcastId =>
    query_bind_closed hclosed fun eventId => ?_
  rw [exec_bind]
  have hexpand := onIntegrityError_snd (c := c) (withImmediate (BroadcastKernel.expandBlock ids
    actorId roomId content acceptedAt broadcastId eventId))
    (.broadcastConflict "broadcast expansion was rolled back")
  have hend : ((CoreStore.onIntegrityError (withImmediate (BroadcastKernel.expandBlock ids
      actorId roomId content acceptedAt broadcastId eventId))
      (.broadcastConflict "broadcast expansion was rolled back")).exec c).2.inTransaction =
      false := by
    rw [hexpand]
    exact withImmediate_closed _ _
  split
  · rename_i u c₁ hrun
    rw [hrun] at hend
    exact hend
  · rename_i e c₁ hrun
    rw [hrun] at hend
    exact hend

/-- A call leaves a transaction open exactly when it leaks. -/
theorem exec_open [Host] (op : Op) (hs : Sound c) (hclosed : c.inTransaction = false) :
    (op.exec c).inTransaction = true ↔ op.Leaks c.working := by
  have hfalse : ∀ {b : Bool} {p : Prop}, b = false → ¬ p → (b = true ↔ p) :=
    fun hb hp => iff_of_false (by simp [hb]) hp
  cases op with
  | addDelivery delivery => exact execute_commit_open.trans insertDelivery_none
  | setDispatching deliveryId => exact guardedUpdate_open.trans (updateDelivery_misses hs.keyed)
  | revokeSessionBinding bindingId =>
    exact guardedUpdate_open.trans (revokeActive_idle_iff hs.keyed)
  | bindPrincipal providerId platformPrincipalId recipientId =>
    exact execute_commit_open.trans insertPrincipalBinding_none
  | bindPlatformMessage providerId platformMessageId eventId deliveryId attemptId =>
    exact execute_commit_open.trans insertMessageBinding_none
  | replaceRoomRoster roomId recipients =>
    refine hfalse ?_ id
    unfold Op.exec CoreStore.replaceRoomRoster
    dsimp only
    split
    · exact hclosed
    · split
      · exact hclosed
      · exact withConnection_closed _ _
  | registerProvider providerId kind classes => exact hfalse (withConnection_closed _ _) id
  | registerSessionBinding binding =>
    refine hfalse (query_bind_closed hclosed fun _ => ?_) id
    rw [onIntegrityError_snd]
    exact withConnection_closed _ _
  | supersedeSessionBinding oldBindingId replacement =>
    exact hfalse (query_bind_closed hclosed fun _ => withConnection_closed _ _) id
  | markProviderDegraded providerId => exact hfalse rfl id
  | recordRejection receipt reason => exact hfalse rfl id
  | broadcast ids actorId roomId content acceptedAt => exact hfalse (broadcast_closed hclosed) id
  | submit authority receipt =>
    exact hfalse (Program.run_keeps (J := fun c : CoreStore => c.inTransaction = false)
      (fun call _ h => storeCall_closed call h) _ hclosed) id
  | reopen => exact hfalse rfl id

end Calls

/-- Both ends of a binding's window are timestamps. -/
def Timed [Host] (row : SessionBindingRow) : Prop :=
  (∃ established, parseTimestamp row.establishedAt = .ok established) ∧
    ∃ expires, parseTimestamp row.expiresAt = .ok expires

/-- What the schema and the checks of the callers keep of rooms, headers and bindings. -/
structure Consistent [Host] (t : Tables) : Prop where
  rooms : ∀ member ∈ t.roomMembers, member.roomId ∈ t.rooms
  rosters : ∀ roomId, ((t.roomMembers.filter (·.roomId = roomId)).map (·.recipientId)).Nodup
  events : ∀ header ∈ t.broadcasts, ∃ event ∈ t.canonicalEvents, event.eventId = header.eventId
  windows : ∀ row ∈ t.sessionBindings, Timed row

section Consistent

variable [Host] {t t' : Tables} {op : Op} {roomId : String} {recipients : List String}

omit [Host] in
theorem mem_memberRows {ordinal : Nat} {member : RoomMemberRow}
    (h : member ∈ memberRows roomId ordinal recipients) : member.roomId = roomId := by
  induction recipients generalizing ordinal with
  | nil => cases h
  | cons recipientId rest ih =>
    rcases List.mem_cons.mp h with rfl | h
    · rfl
    · exact ih h

omit [Host] in
theorem memberRows_recipients {ordinal : Nat} :
    (memberRows roomId ordinal recipients).map (·.recipientId) = recipients := by
  induction recipients generalizing ordinal with
  | nil => rfl
  | cons recipientId rest ih => rw [memberRows, List.map_cons, ih]

omit [Host] in
theorem rosters_rostered (hnodup : recipients.Nodup)
    (h : ∀ other, ((t.roomMembers.filter (·.roomId = other)).map (·.recipientId)).Nodup)
    (other : String) : (((rostered t roomId recipients).roomMembers.filter
      (·.roomId = other)).map (·.recipientId)).Nodup := by
  unfold rostered
  rw [List.filter_append, List.filter_filter]
  by_cases hsame : other = roomId
  · have hold : t.roomMembers.filter (fun member => decide (member.roomId = other) &&
        decide (member.roomId ≠ roomId)) = [] := by
      refine List.filter_eq_nil_iff.mpr fun member _ hboth => ?_
      simp [hsame] at hboth
    have hnew : (memberRows roomId 0 recipients).filter (·.roomId = other) =
        memberRows roomId 0 recipients :=
      List.filter_eq_self.mpr fun member hmember =>
        decide_eq_true ((mem_memberRows hmember).trans hsame.symm)
    rw [hold, hnew, List.nil_append, memberRows_recipients]
    exact hnodup
  · have hold : t.roomMembers.filter (fun member => decide (member.roomId = other) &&
        decide (member.roomId ≠ roomId)) = t.roomMembers.filter (·.roomId = other) := by
      refine List.filter_congr fun member _ => ?_
      by_cases hroom : member.roomId = other
      · simp [hroom, hsame]
      · simp [hroom]
    have hnew : (memberRows roomId 0 recipients).filter (·.roomId = other) = [] := by
      refine List.filter_eq_nil_iff.mpr fun member hmember hroom => hsame ?_
      exact (of_decide_eq_true hroom).symm.trans (mem_memberRows hmember)
    rw [hold, hnew, List.append_nil]
    exact h other

theorem windows_bound {binding : SessionBinding}
    (hvalid : CoreStore.validateSessionBinding binding t' = .ok ())
    (h : ∀ row ∈ t.sessionBindings, Timed row) :
    ∀ row ∈ (bound t binding).sessionBindings, Timed row := by
  obtain ⟨-, -, -, hexpires, hestablished⟩ := validateSessionBinding_ok hvalid
  intro row hrow
  rcases List.mem_append.mp hrow with hrow | hrow
  · exact h row hrow
  · rw [List.mem_singleton.mp hrow]
    exact ⟨hestablished, hexpires⟩

theorem windows_map {f : SessionBindingRow → SessionBindingRow}
    (hf : ∀ row, (f row).establishedAt = row.establishedAt ∧ (f row).expiresAt = row.expiresAt)
    (h : ∀ row ∈ t.sessionBindings, Timed row) : ∀ row ∈ t.sessionBindings.map f, Timed row := by
  intro row hrow
  obtain ⟨old, hold, rfl⟩ := List.mem_map.mp hrow
  unfold Timed
  rw [(hf old).1, (hf old).2]
  exact h old hold

theorem consistent_step (h : Effect t op t') (hs : Consistent t) : Consistent t' := by
  cases h with
  | rostered hnodup =>
    refine ⟨fun member hmember => ?_, rosters_rostered hnodup hs.rosters, hs.events, hs.windows⟩
    unfold rostered
    rcases List.mem_append.mp hmember with hmember | hmember
    · have hroom := hs.rooms member (List.mem_of_mem_filter hmember)
      dsimp only
      split
      · exact hroom
      · exact List.mem_append_left _ hroom
    · rw [mem_memberRows hmember]
      dsimp only
      split
      · assumption
      · exact List.mem_append_right _ (List.mem_singleton_self _)
  | bound hvalid =>
    exact ⟨hs.rooms, hs.rosters, hs.events, windows_bound hvalid hs.windows⟩
  | superseded hvalid =>
    obtain ⟨-, -, -, -, hbinding⟩ := validateSupersession_ok hvalid
    refine ⟨hs.rooms, hs.rosters, hs.events, windows_bound hbinding (windows_map ?_ hs.windows)⟩
    intro row
    split <;> exact ⟨rfl, rfl⟩
  | revoked =>
    refine ⟨hs.rooms, hs.rosters, hs.events, windows_map ?_ hs.windows⟩
    intro row
    split <;> exact ⟨rfl, rfl⟩
  | broadcast =>
    refine ⟨hs.rooms, hs.rosters, fun header hheader => ?_, hs.windows⟩
    rcases List.mem_append.mp hheader with hheader | hheader
    · obtain ⟨event, hevent, hid⟩ := hs.events header hheader
      exact ⟨event, List.mem_append_left _ hevent, hid⟩
    · rw [List.mem_singleton.mp hheader]
      exact ⟨_, List.mem_append_right _ (List.mem_singleton_self _), rfl⟩
  | _ => exact ⟨hs.rooms, hs.rosters, hs.events, hs.windows⟩

theorem consistent_run (ops : List Op) : Consistent (run ops CoreStore.empty).working := by
  refine run_invariant (fun _ heffect hs => consistent_step heffect hs) ops sound_empty ?_
  refine ⟨?_, fun roomId => List.nodup_nil, ?_, ?_⟩ <;> (intro _ h; cases h)

end Consistent

/-- An `id_factory` that returns, and returns what neither it nor the store has used. -/
structure FreshIds (t : Tables) (ids : IdFactory) : Prop where
  returns : ∀ n kind, ∃ id, ids n kind = .ok id
  distinct : ∀ m n kind id, ids m kind = .ok id → ids n kind = .ok id → m = n
  broadcast : ∀ n id, ids n "broadcast" = .ok id → ∀ row ∈ t.broadcasts, row.broadcastId ≠ id
  event : ∀ n id, ids n "event" = .ok id → ∀ row ∈ t.canonicalEvents, row.eventId ≠ id
  delivery : ∀ n id, ids n "delivery" = .ok id → ∀ d ∈ t.deliveries, d.deliveryId ≠ id

section Expansion

variable {t : Tables} {ids : IdFactory} {broadcastId eventId : String} {ordinal : Nat}
  {seats : List (String × Seat)}

theorem insertSeats_succeeds (hids : (seats.map fun seat => seat.2.deliveryId).Nodup)
    (hroster : (seats.map Prod.fst).Nodup)
    (hfresh : ∀ seat ∈ seats, ∀ d ∈ t.deliveries, d.deliveryId ≠ seat.2.deliveryId)
    (hdelivered : ∀ row ∈ t.broadcastRecipients, ∃ d ∈ t.deliveries, d.deliveryId = row.deliveryId)
    (hown : ∀ row ∈ t.broadcastRecipients, row.broadcastId = broadcastId →
      row.rosterOrdinal < ordinal ∧ ∀ seat ∈ seats, row.recipientId ≠ seat.1)
    (hheader : ∃ header ∈ t.broadcasts, header.broadcastId = broadcastId) :
    ∃ t', (BroadcastKernel.insertSeats broadcastId eventId ordinal seats).run t =
      .ok ((), t') := by
  induction seats generalizing t ordinal with
  | nil => exact ⟨t, rfl⟩
  | cons seat rest ih =>
    rw [List.map_cons, List.nodup_cons] at hids hroster
    obtain ⟨header, hheader, hid⟩ := hheader
    have hdelivery : t.insertDelivery (seatDelivery eventId seat) = some { t with
        deliveries := t.deliveries ++ [seatDelivery eventId seat] } := by
      unfold Tables.insertDelivery
      rw [if_neg]
      intro hold
      obtain ⟨old, hold, hsame⟩ := List.any_eq_true.mp hold
      exact hfresh seat List.mem_cons_self old hold (of_decide_eq_true hsame)
    have hrow : ({ t with deliveries := t.deliveries ++ [seatDelivery eventId seat] } :
        Tables).insertBroadcastRecipient (seatRow broadcastId ordinal seat) = some { t with
          deliveries := t.deliveries ++ [seatDelivery eventId seat]
          broadcastRecipients := t.broadcastRecipients ++ [seatRow broadcastId ordinal seat] } := by
      unfold Tables.insertBroadcastRecipient
      rw [if_neg]
      rintro (hold | hmissing | hmissing)
      · obtain ⟨old, hold, hsame⟩ := List.any_eq_true.mp hold
        rcases of_decide_eq_true hsame with ⟨hbroadcast, hseat⟩ | hdeliveryId
        · obtain ⟨hless, hothers⟩ := hown old hold hbroadcast
          rcases hseat with hrecipient | hordinal
          · exact hothers seat List.mem_cons_self hrecipient
          · exact absurd hordinal (Nat.ne_of_lt hless)
        · obtain ⟨d, hd, hsame⟩ := hdelivered old hold
          exact hfresh seat List.mem_cons_self d hd (hsame.trans hdeliveryId)
      · exact hmissing (List.any_eq_true.mpr ⟨header, hheader, by simp [seatRow, hid]⟩)
      · refine hmissing (List.any_eq_true.mpr ⟨seatDelivery eventId seat, ?_, ?_⟩)
        · exact List.mem_append_right _ (List.mem_singleton_self _)
        · simp [seatRow, seatDelivery]
    have hrest : ∃ t', (BroadcastKernel.insertSeats broadcastId eventId (ordinal + 1) rest).run
        { t with
          deliveries := t.deliveries ++ [seatDelivery eventId seat]
          broadcastRecipients := t.broadcastRecipients ++ [seatRow broadcastId ordinal seat] } =
        .ok ((), t') := by
      refine ih hids.2 hroster.2 ?_ ?_ ?_ ⟨header, hheader, hid⟩
      · intro other hother d hd
        rcases List.mem_append.mp hd with hd | hd
        · exact hfresh other (List.mem_cons_of_mem _ hother) d hd
        · rw [List.mem_singleton.mp hd]
          intro hsame
          exact hids.1 (List.mem_map.mpr ⟨other, hother, hsame.symm⟩)
      · intro row hrow
        rcases List.mem_append.mp hrow with hrow | hrow
        · obtain ⟨d, hd, hsame⟩ := hdelivered row hrow
          exact ⟨d, List.mem_append_left _ hd, hsame⟩
        · rw [List.mem_singleton.mp hrow]
          exact ⟨_, List.mem_append_right _ (List.mem_singleton_self _), rfl⟩
      · intro row hrow hbroadcast
        rcases List.mem_append.mp hrow with hrow | hrow
        · obtain ⟨hless, hothers⟩ := hown row hrow hbroadcast
          exact ⟨Nat.lt_succ_of_lt hless, fun other hother =>
            hothers other (List.mem_cons_of_mem _ hother)⟩
        · rw [List.mem_singleton.mp hrow]
          refine ⟨Nat.lt_succ_self _, fun other hother hsame => ?_⟩
          exact hroster.1 (List.mem_map.mpr ⟨other, hother, hsame.symm⟩)
    obtain ⟨t', ht'⟩ := hrest
    exact ⟨t', block_bind_ok.mpr ⟨(), _, insert_ok.mpr hdelivery,
      block_bind_ok.mpr ⟨(), _, insert_ok.mpr hrow, ht'⟩⟩⟩

/-- The seats of a roster, with the delivery ids in the order of the calls of the factory. -/
theorem seats_succeeds [Host] {acceptedAt : String} {accepted : Int} {n : Nat}
    {roster : List String} (hwindows : ∀ row ∈ t.sessionBindings, Timed row)
    (haccepted : parseTimestamp acceptedAt = .ok accepted) (hfresh : FreshIds t ids) :
    ∃ rows, BroadcastKernel.seats ids acceptedAt t n roster = .ok rows ∧
      (∀ row ∈ rows, ∃ m, n ≤ m ∧ ids m "delivery" = .ok row.deliveryId) ∧
      (rows.map (·.deliveryId)).Nodup := by
  induction roster generalizing n with
  | nil => exact ⟨[], rfl, by simp, List.nodup_nil⟩
  | cons recipientId rest ih =>
    obtain ⟨others, hothers, hcalls, hnodup⟩ := ih (n := n + 2)
    obtain ⟨deliveryId, hdelivery⟩ := hfresh.returns n "delivery"
    obtain ⟨attemptId, hattempt⟩ := hfresh.returns (n + 1) "attempt"
    obtain ⟨binding, hbinding⟩ : ∃ binding,
        BroadcastKernel.activeSessionBindingFor t recipientId acceptedAt = .ok binding := by
      unfold BroadcastKernel.activeSessionBindingFor
      split
      · exact ⟨none, rfl⟩
      · rename_i row hrow
        obtain ⟨⟨established, hestablished⟩, expires, hexpires⟩ :=
          hwindows row (List.mem_of_find?_eq_some hrow)
        rw [haccepted, hestablished, hexpires]
        exact ⟨_, rfl⟩
    refine ⟨{ deliveryId, attemptId, bindingId := binding.map (·.bindingId) } :: others, ?_, ?_, ?_⟩
    · unfold BroadcastKernel.seats
      rw [hdelivery, hattempt, hbinding, hothers]
      rfl
    · intro row hrow
      rcases List.mem_cons.mp hrow with rfl | hrow
      · exact ⟨n, Nat.le_refl n, hdelivery⟩
      · obtain ⟨m, hm, hcall⟩ := hcalls row hrow
        exact ⟨m, by omega, hcall⟩
    · rw [List.map_cons, List.nodup_cons]
      refine ⟨fun hmem => ?_, hnodup⟩
      obtain ⟨row, hrow, hsame⟩ := List.mem_map.mp hmem
      obtain ⟨m, hm, hcall⟩ := hcalls row hrow
      have heq := hfresh.distinct m n "delivery" deliveryId
        (hcall.trans (congrArg Except.ok hsame)) hdelivery
      omega

variable [Host] {actorId roomId content acceptedAt : String}

omit [Host] in
theorem frozenRoster_nodup
    (h : ((t.roomMembers.filter (·.roomId = roomId)).map (·.recipientId)).Nodup) :
    (frozenRoster t actorId roomId).Nodup := by
  refine List.Nodup.filter _ ?_
  exact ((List.mergeSort_perm _ _).map _).nodup_iff.mpr h

/-- The room of a roster that is not empty is stored. -/
theorem room_stored (hs : Consistent t) (hroster : frozenRoster t actorId roomId ≠ []) :
    roomId ∈ t.rooms := by
  obtain ⟨recipientId, hmem⟩ := List.exists_mem_of_ne_nil _ hroster
  obtain ⟨member, hmember, -⟩ := List.mem_map.mp (List.mem_of_mem_filter hmem)
  have hstored := (List.mergeSort_perm _ _).mem_iff.mp hmember
  have hroom : member.roomId = roomId := by simpa using (List.mem_filter.mp hstored).2
  exact hroom ▸ hs.rooms member (List.mem_of_mem_filter hstored)

/-- Fresh identifiers meet no constraint of the six tables. -/
theorem expansion_succeeds {roster : List String} {rows : List Seat} (hs : Snapshots t)
    (hc : Consistent t) (hroom : roomId ∈ t.rooms)
    (hevent : ∀ row ∈ t.canonicalEvents, row.eventId ≠ eventId)
    (hheader : ∀ row ∈ t.broadcasts, row.broadcastId ≠ broadcastId)
    (hdeliveries : ∀ seat ∈ roster.zip rows, ∀ d ∈ t.deliveries, d.deliveryId ≠ seat.2.deliveryId)
    (hids : ((roster.zip rows).map fun seat => seat.2.deliveryId).Nodup)
    (hroster : ((roster.zip rows).map Prod.fst).Nodup) :
    ∃ t', (BroadcastKernel.expansion actorId roomId content acceptedAt broadcastId eventId roster
      rows).run t = .ok ((), t') := by
  let event : CanonicalEventRow := { eventId, actorId, roomId, content, acceptedAt, authorityScope }
  let header : BroadcastRow := { broadcastId, eventId, roomId, rosterSnapshotSize := roster.length }
  let t₁ : Tables := { t with canonicalEvents := t.canonicalEvents ++ [event] }
  let t₂ : Tables := { t₁ with broadcasts := t.broadcasts ++ [header] }
  have hinsert₁ : t.insertCanonicalEvent event = some t₁ := by
    unfold Tables.insertCanonicalEvent
    rw [if_neg]
    rintro (hold | hmissing)
    · obtain ⟨old, hold, hid⟩ := List.any_eq_true.mp hold
      exact hevent old hold (of_decide_eq_true hid)
    · exact hmissing hroom
  have hinsert₂ : t₁.insertBroadcast header = some t₂ := by
    unfold Tables.insertBroadcast
    rw [if_neg]
    rintro (hold | hmissing | hmissing)
    · obtain ⟨old, hold, hid⟩ := List.any_eq_true.mp hold
      rcases of_decide_eq_true hid with hid | hid
      · exact hheader old hold hid
      · -- an event with this id would be stored with its broadcast
        obtain ⟨stored, hstored, hsame⟩ := hc.events old hold
        exact hevent stored hstored (hsame.trans hid)
    · refine hmissing (List.any_eq_true.mpr ⟨event, ?_, decide_eq_true rfl⟩)
      exact List.mem_append_right _ (List.mem_singleton_self _)
    · exact hmissing hroom
  have hseats : ∃ t₃, (BroadcastKernel.insertSeats broadcastId eventId 0 (roster.zip rows)).run t₂ =
      .ok ((), t₃) := by
    refine insertSeats_succeeds hids hroster hdeliveries hs.delivered ?_
      ⟨header, List.mem_append_right _ (List.mem_singleton_self _), rfl⟩
    intro row hrow hid
    obtain ⟨old, hold, hsame⟩ := hs.owned row hrow
    exact absurd (hsame.trans hid) (hheader old hold)
  obtain ⟨t₃, hseats⟩ := hseats
  have haudit : ∃ t₄, t₃.insertBroadcastAudit
      { broadcastId, eventId, rosterSnapshotSize := roster.length } = some t₄ := by
    obtain ⟨rfl, -, -⟩ := insertSeats_ok hseats
    unfold Tables.insertBroadcastAudit
    rw [if_neg]
    · exact ⟨_, rfl⟩
    rintro (hold | hmissing)
    · obtain ⟨old, hold, hid⟩ := List.any_eq_true.mp hold
      obtain ⟨stored, hstored, hsame⟩ := hs.audited old hold
      exact hheader stored hstored (hsame.trans (of_decide_eq_true hid))
    · refine hmissing (List.any_eq_true.mpr ⟨header, ?_, decide_eq_true rfl⟩)
      exact List.mem_append_right _ (List.mem_singleton_self _)
  obtain ⟨t₄, haudit⟩ := haudit
  exact ⟨t₄, block_bind_ok.mpr ⟨(), t₁, insert_ok.mpr hinsert₁, block_bind_ok.mpr
    ⟨(), t₂, insert_ok.mpr hinsert₂, block_bind_ok.mpr ⟨(), t₃, hseats, insert_ok.mpr haudit⟩⟩⟩⟩

theorem expandBlock_succeeds {accepted : Int} (hs : Snapshots t) (hc : Consistent t)
    (hfresh : FreshIds t ids) (hbroadcast : ids 0 "broadcast" = .ok broadcastId)
    (hevent : ids 1 "event" = .ok eventId) (haccepted : parseTimestamp acceptedAt = .ok accepted)
    (hroster : frozenRoster t actorId roomId ≠ []) :
    ∃ t', (BroadcastKernel.expandBlock ids actorId roomId content acceptedAt broadcastId
      eventId).run t = .ok ((), t') := by
  obtain ⟨rows, hseats, hcalls, hnodup⟩ : ∃ rows,
      BroadcastKernel.seats ids acceptedAt t 2 (frozenRoster t actorId roomId) = .ok rows ∧
      (∀ row ∈ rows, ∃ m, 2 ≤ m ∧ ids m "delivery" = .ok row.deliveryId) ∧
      (rows.map (·.deliveryId)).Nodup := seats_succeeds hc.windows haccepted hfresh
  have hlength := seats_length hseats
  have hids : ((frozenRoster t actorId roomId).zip rows).map (fun seat => seat.2.deliveryId) =
      rows.map (·.deliveryId) := by
    have hsnd := List.map_snd_zip (Nat.le_of_eq hlength)
    conv_rhs => rw [← hsnd]
    rw [List.map_map]
    rfl
  have hfst : ((frozenRoster t actorId roomId).zip rows).map Prod.fst =
      frozenRoster t actorId roomId := List.map_fst_zip (Nat.le_of_eq hlength.symm)
  have hexpansion : ∃ t', (BroadcastKernel.expansion actorId roomId content acceptedAt broadcastId
      eventId (frozenRoster t actorId roomId) rows).run t = .ok ((), t') := by
    refine expansion_succeeds hs hc (room_stored hc hroster) (hfresh.event 1 eventId hevent)
      (hfresh.broadcast 0 broadcastId hbroadcast) ?_ (hids ▸ hnodup) ?_
    · intro seat hseat
      obtain ⟨m, -, hcall⟩ := hcalls seat.2 (List.of_mem_zip hseat).2
      exact hfresh.delivery m _ hcall
    · rw [hfst]
      exact frozenRoster_nodup (hc.rosters roomId)
  obtain ⟨t', hexpansion⟩ := hexpansion
  refine ⟨t', ?_⟩
  simp only [StateT.run, BroadcastKernel.expandBlock]
  unfold frozenRoster at hroster hseats hexpansion
  rw [if_neg hroster, hseats]
  dsimp only
  rw [if_neg (not_not.mpr hnodup)]
  exact hexpansion

/-- A broadcast with valid arguments goes through unless a transaction is open. -/
theorem broadcast_succeeds {c : CoreStore} {accepted : Int} (hsound : Sound c)
    (hs : Snapshots c.working) (hc : Consistent c.working) (hclosed : c.inTransaction = false)
    (harguments : actorId ≠ "" ∧ roomId ≠ "" ∧ content ≠ "")
    (haccepted : parseTimestamp acceptedAt = .ok accepted)
    (hroster : frozenRoster c.working actorId roomId ≠ []) (hfresh : FreshIds c.working ids) :
    ∃ res, ((BroadcastKernel.broadcast ids actorId roomId content acceptedAt).exec c).1 =
      .ok res := by
  obtain ⟨broadcastId, hbroadcast⟩ := hfresh.returns 0 "broadcast"
  obtain ⟨eventId, hevent⟩ := hfresh.returns 1 "event"
  obtain ⟨t', hblock⟩ : ∃ t', (BroadcastKernel.expandBlock ids actorId roomId content acceptedAt
      broadcastId eventId).run c.working = .ok ((), t') :=
    expandBlock_succeeds hs hc hfresh hbroadcast hevent haccepted hroster
  have hexpand : (CoreStore.onIntegrityError (withImmediate (BroadcastKernel.expandBlock ids
      actorId roomId content acceptedAt broadcastId eventId))
      (.broadcastConflict "broadcast expansion was rolled back")).exec c =
      (.ok (), { committed := t', working := t', inTransaction := false }) := by
    have hblock : BroadcastKernel.expandBlock ids actorId roomId content acceptedAt broadcastId
        eventId c.working = .ok ((), t') := hblock
    have himmediate : (withImmediate (BroadcastKernel.expandBlock ids actorId roomId content
        acceptedAt broadcastId eventId)).exec c =
        (.ok (), { committed := t', working := t', inTransaction := false }) := by
      simp [Action.exec, withImmediate, withConnection, ExceptT.run, StateT.run, hclosed, hblock]
    rw [onIntegrityError_exec, himmediate]
  have hexec : (BroadcastKernel.broadcast ids actorId roomId content acceptedAt).exec c =
      (BroadcastKernel.result broadcastId t',
        { committed := t', working := t', inTransaction := false }) := by
    unfold BroadcastKernel.broadcast
    rw [if_neg (by simp [harguments]), exec_query_bind, haccepted]
    dsimp only
    rw [exec_query_bind, hbroadcast]
    dsimp only
    rw [exec_query_bind, hevent]
    dsimp only
    rw [exec_bind, hexpand]
    rfl
  obtain ⟨rows, hexpands, hworking⟩ := expandBlock_ok hbroadcast hevent hblock
  have hsound' : Sound ((BroadcastKernel.broadcast ids actorId roomId content acceptedAt).exec c).2 :=
    (exec_sound (.broadcast ids actorId roomId content acceptedAt) hsound).1
  rw [hexec] at hsound' ⊢
  have hsnapshots : Snapshots t' := hworking ▸ snapshots_expanded hs hexpands
  have hheader : (⟨broadcastId, eventId, roomId,
      ((frozenRoster c.working actorId roomId).zip rows).length⟩ : BroadcastRow) ∈ t'.broadcasts :=
    hworking ▸ List.mem_append_right _ (List.mem_singleton_self _)
  exact ⟨_, result_ok hsound'.keyed hsnapshots hheader⟩

end Expansion

section Poison

variable [Host]

/-- No call of the sequence left a transaction open, and the next valid broadcast succeeds. -/
structure Unpoisoned (ops : List Op) : Prop where
  closed : ∀ before after, ops = before ++ after →
    (run before CoreStore.empty).inTransaction = false
  broadcast : ∀ ids actorId roomId content acceptedAt accepted,
    let c := run ops CoreStore.empty
    actorId ≠ "" ∧ roomId ≠ "" ∧ content ≠ "" → parseTimestamp acceptedAt = .ok accepted →
    frozenRoster c.working actorId roomId ≠ [] → FreshIds c.working ids →
    ∃ res, ((BroadcastKernel.broadcast ids actorId roomId content acceptedAt).exec c).1 = .ok res

/-- While no call leaks, no transaction stays open. -/
theorem closed_run (ops : List Op)
    (h : ∀ before op after, ops = before ++ op :: after →
      ¬ op.Leaks (run before CoreStore.empty).working) :
    (run ops CoreStore.empty).inTransaction = false := by
  induction ops using List.reverseRecOn with
  | nil => rfl
  | append_singleton ops op ih =>
    have hbefore : (run ops CoreStore.empty).inTransaction = false := by
      refine ih fun before other after heq => h before other (after ++ [op]) ?_
      rw [heq, List.append_assoc, List.cons_append]
    have hstep := exec_open op (sound_run ops sound_empty) hbefore
    have hkept := h ops op [] rfl
    rw [run_append, run_cons, run_nil]
    exact Bool.eq_false_iff.mpr fun hopen => hkept (hstep.mp hopen)

/-- A failed call poisons the next one exactly when its statement is outside a block: a refused
insert of a delivery, principal or message, or a guarded update that hits no row. -/
theorem unpoisoned_iff (ops : List Op) : Unpoisoned ops ↔
    ∀ before op after, ops = before ++ op :: after →
      ¬ op.Leaks (run before CoreStore.empty).working := by
  constructor
  · intro h before op after heq hleaks
    have hbefore := h.closed before (op :: after) heq
    have hopen := (exec_open op (sound_run before sound_empty) hbefore).mpr hleaks
    have hafter := h.closed (before ++ [op]) after (by rw [heq, List.append_assoc]; rfl)
    rw [run_append, run_cons, run_nil, hopen] at hafter
    cases hafter
  · intro h
    refine ⟨fun before after heq => closed_run before fun first op rest hfirst => ?_, ?_⟩
    · exact h first op (rest ++ after) (by rw [heq, hfirst, List.append_assoc]; rfl)
    · intro ids actorId roomId content acceptedAt accepted c harguments haccepted hroster hfresh
      exact broadcast_succeeds (sound_run ops sound_empty) (snapshots_run ops) (consistent_run ops)
        (closed_run ops h) harguments haccepted hroster hfresh

end Poison

/-- A roster, and a dispatch of a delivery that does not exist. -/
def samplePoison : List Op := [.replaceRoomRoster "room-1" ["bob"], .setDispatching "delivery-1"]

/-- Each call of the factory returns a longer text. -/
def sampleFactory : IdFactory := fun n kind => .ok (kind ++ String.ofList (List.replicate n '+'))

theorem sampleFactory_fresh :
    FreshIds (@run sampleHost samplePoison CoreStore.empty).working sampleFactory := by
  refine ⟨fun n kind => ⟨_, rfl⟩, fun m n kind id hm hn => ?_, ?_, ?_, ?_⟩
  · have hsame := congrArg String.length (Except.ok.inj (hm.trans hn.symm))
    simpa [String.length_append] using hsame
  · intro _ _ _ _ h
    cases h
  · intro _ _ _ _ h
    cases h
  · intro _ _ _ _ h
    cases h

/-- The dispatch raises, and the broadcast after it raises too. -/
theorem failed_dispatch_poisons : ¬ @Unpoisoned sampleHost samplePoison := by
  intro h
  have hroster : frozenRoster (@run sampleHost samplePoison CoreStore.empty).working "alice"
      "room-1" ≠ [] := by
    decide +kernel
  have hraised : ((@BroadcastKernel.broadcast sampleHost sampleFactory "alice" "room-1" "hello"
      "2026-01-01T00:30:00Z").exec (@run sampleHost samplePoison CoreStore.empty)).1 =
        .error .operationalError := by
    rfl
  obtain ⟨res, hres⟩ := @Unpoisoned.broadcast sampleHost _ h sampleFactory "alice" "room-1" "hello"
    "2026-01-01T00:30:00Z" 1767227400000000 (by decide) (by rfl) hroster sampleFactory_fresh
  rw [hraised] at hres
  cases hres

end Yatagarasu
