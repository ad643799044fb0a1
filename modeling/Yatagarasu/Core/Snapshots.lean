import Mathlib.Data.List.Sort
import Yatagarasu.Core.Revocation

/-! A broadcast is stored with its audit row and one row per seat. No later operation touches them,
so its result can be read back from every later store. -/

namespace Yatagarasu

open Sqlite ReceiptReducer

/-- The seats of one broadcast, in insertion order. -/
def seatsOf (t : Tables) (broadcastId : String) : List BroadcastRecipientRow :=
  t.broadcastRecipients.filter (·.broadcastId = broadcastId)

/-- A broadcast with its audit row and all of its seats. -/
structure Whole (t : Tables) (header : BroadcastRow) : Prop where
  audit : t.broadcastAudit.find? (·.broadcastId = header.broadcastId) =
    some ⟨header.broadcastId, header.eventId, header.rosterSnapshotSize⟩
  size : (seatsOf t header.broadcastId).length = header.rosterSnapshotSize
  seated : seatsOf t header.broadcastId ≠ []
  ordered : (seatsOf t header.broadcastId).Pairwise fun a b => a.rosterOrdinal ≤ b.rosterOrdinal

/-- The primary key of `broadcasts`, the foreign keys that point to it and to `deliveries`, and
whole broadcasts. -/
structure Snapshots (t : Tables) : Prop where
  keyed : ∀ a ∈ t.broadcasts, ∀ b ∈ t.broadcasts, a.broadcastId = b.broadcastId → a = b
  whole : ∀ header ∈ t.broadcasts, Whole t header
  owned : ∀ seat ∈ t.broadcastRecipients, ∃ header ∈ t.broadcasts,
    header.broadcastId = seat.broadcastId
  audited : ∀ row ∈ t.broadcastAudit, ∃ header ∈ t.broadcasts,
    header.broadcastId = row.broadcastId
  delivered : ∀ seat ∈ t.broadcastRecipients, ∃ d ∈ t.deliveries,
    d.deliveryId = seat.deliveryId

section Rows

variable {broadcastId : String} {ordinal : Nat} {seats : List (String × Seat)}
  {row : BroadcastRecipientRow}

theorem seatRows_length : (seatRows broadcastId ordinal seats).length = seats.length := by
  induction seats generalizing ordinal with
  | nil => rfl
  | cons seat rest ih => simp [seatRows, ih]

theorem mem_seatRows (h : row ∈ seatRows broadcastId ordinal seats) :
    ordinal ≤ row.rosterOrdinal ∧ ∃ seat ∈ seats, row = seatRow broadcastId row.rosterOrdinal seat := by
  induction seats generalizing ordinal with
  | nil => cases h
  | cons seat rest ih =>
    rcases List.mem_cons.mp h with rfl | h
    · exact ⟨Nat.le_refl _, seat, List.mem_cons_self, rfl⟩
    · obtain ⟨hle, other, hother, hrow⟩ := ih h
      exact ⟨Nat.le_of_succ_le hle, other, List.mem_cons_of_mem _ hother, hrow⟩

theorem broadcastId_of_mem_seatRows (h : row ∈ seatRows broadcastId ordinal seats) :
    row.broadcastId = broadcastId := by
  obtain ⟨-, seat, -, hrow⟩ := mem_seatRows h
  rw [hrow]
  rfl

theorem seatRows_ordered : (seatRows broadcastId ordinal seats).Pairwise fun a b =>
    a.rosterOrdinal ≤ b.rosterOrdinal := by
  induction seats generalizing ordinal with
  | nil => exact List.Pairwise.nil
  | cons seat rest ih =>
    refine List.pairwise_cons.mpr ⟨fun other hother => ?_, ih⟩
    exact Nat.le_of_succ_le (mem_seatRows hother).1

/-- Who a seat is for, and the identifiers that were frozen with it. -/
def seatKey (row : BroadcastRecipientRow) : String × String × Option String :=
  (row.recipientId, row.deliveryId, row.bindingId)

theorem seatRows_key : (seatRows broadcastId ordinal seats).map seatKey =
    seats.map fun seat => (seat.1, seat.2.deliveryId, seat.2.bindingId) := by
  induction seats generalizing ordinal with
  | nil => rfl
  | cons seat rest ih =>
    rw [seatRows, List.map_cons, ih]
    rfl

end Rows

section Step

variable [Host] {t t' : Tables} {op : Op}

/-- Only a broadcast touches the tables of broadcasts. -/
theorem broadcasts_step (h : Effect t op t') :
    (t'.broadcasts = t.broadcasts ∧ t'.broadcastRecipients = t.broadcastRecipients ∧
      t'.broadcastAudit = t.broadcastAudit ∧ t'.canonicalEvents = t.canonicalEvents) ∨
    ∃ ids actorId roomId content acceptedAt broadcastId eventId rows,
      Expands t ids actorId roomId acceptedAt broadcastId eventId rows ∧
      t' = expanded t actorId roomId content acceptedAt broadcastId eventId
        ((frozenRoster t actorId roomId).zip rows) := by
  cases h with
  | broadcast hexpands => exact Or.inr ⟨_, _, _, _, _, _, _, _, hexpands, rfl⟩
  | _ => exact Or.inl ⟨rfl, rfl, rfl, rfl⟩

/-- Deliveries are never deleted. -/
theorem deliveries_last (h : Effect t op t') {d : Delivery} (hd : d ∈ t.deliveries) :
    ∃ d' ∈ t'.deliveries, d'.deliveryId = d.deliveryId := by
  cases h with
  | added => exact ⟨d, List.mem_append_left _ hd, rfl⟩
  | broadcast => exact ⟨d, List.mem_append_left _ hd, rfl⟩
  | dispatched =>
    refine ⟨_, List.mem_map_of_mem hd, ?_⟩
    split <;> rfl
  | accepted =>
    refine ⟨_, List.mem_map_of_mem hd, ?_⟩
    split <;> rfl
  | _ => exact ⟨d, hd, rfl⟩

variable {ids : IdFactory} {actorId roomId content acceptedAt broadcastId eventId : String}
  {rows : List Seat} {header : BroadcastRow}

omit [Host] in
/-- The seats of the new broadcast are the inserted ones. -/
theorem seatsOf_new (hs : Snapshots t) (hfresh : ∀ old ∈ t.broadcasts, old.broadcastId ≠ broadcastId)
    {seats : List (String × Seat)} :
    seatsOf (expanded t actorId roomId content acceptedAt broadcastId eventId seats) broadcastId =
      seatRows broadcastId 0 seats := by
  unfold seatsOf expanded
  have hold : t.broadcastRecipients.filter (·.broadcastId = broadcastId) = [] := by
    refine List.filter_eq_nil_iff.mpr fun seat hseat hid => ?_
    obtain ⟨old, hold, hsame⟩ := hs.owned seat hseat
    exact hfresh old hold (hsame.trans (of_decide_eq_true hid))
  have hnew : (seatRows broadcastId 0 seats).filter (·.broadcastId = broadcastId) =
      seatRows broadcastId 0 seats :=
    List.filter_eq_self.mpr fun row hrow => decide_eq_true (broadcastId_of_mem_seatRows hrow)
  rw [List.filter_append, hold, hnew, List.nil_append]

omit [Host] in
/-- The other broadcasts keep theirs. -/
theorem seatsOf_old {seats : List (String × Seat)} {other : String} (hne : other ≠ broadcastId) :
    seatsOf (expanded t actorId roomId content acceptedAt broadcastId eventId seats) other =
      seatsOf t other := by
  unfold seatsOf expanded
  have hnew : (seatRows broadcastId 0 seats).filter (·.broadcastId = other) = [] := by
    refine List.filter_eq_nil_iff.mpr fun row hrow hid => ?_
    exact hne ((of_decide_eq_true hid).symm.trans (broadcastId_of_mem_seatRows hrow))
  rw [List.filter_append, hnew, List.append_nil]

theorem seatsOf_step (h : Effect t op t') (hheader : header ∈ t.broadcasts) :
    header ∈ t'.broadcasts ∧ seatsOf t' header.broadcastId = seatsOf t header.broadcastId := by
  rcases broadcasts_step h with ⟨hbroadcasts, hseats, -, -⟩ | ⟨_, _, _, _, _, _, _, _, hexpands, rfl⟩
  · refine ⟨hbroadcasts ▸ hheader, ?_⟩
    unfold seatsOf
    rw [hseats]
  · exact ⟨List.mem_append_left _ hheader, seatsOf_old (hexpands.header header hheader)⟩

omit [Host] in
theorem whole_old {seats : List (String × Seat)} (hne : header.broadcastId ≠ broadcastId)
    (h : Whole t header) :
    Whole (expanded t actorId roomId content acceptedAt broadcastId eventId seats) header := by
  have hsame : seatsOf (expanded t actorId roomId content acceptedAt broadcastId eventId seats)
      header.broadcastId = seatsOf t header.broadcastId := seatsOf_old hne
  refine ⟨?_, hsame ▸ h.size, hsame ▸ h.seated, hsame ▸ h.ordered⟩
  unfold expanded
  rw [List.find?_append, h.audit]
  rfl

omit [Host] in
theorem whole_new (hs : Snapshots t) {seats : List (String × Seat)} (hseats : seats ≠ [])
    (hfresh : ∀ old ∈ t.broadcasts, old.broadcastId ≠ broadcastId) :
    Whole (expanded t actorId roomId content acceptedAt broadcastId eventId seats)
      { broadcastId, eventId, roomId, rosterSnapshotSize := seats.length } := by
  have hnew : seatsOf (expanded t actorId roomId content acceptedAt broadcastId eventId seats)
      broadcastId = seatRows broadcastId 0 seats := seatsOf_new hs hfresh
  refine ⟨?_, hnew ▸ seatRows_length, fun hnil => hseats ?_, hnew ▸ seatRows_ordered⟩
  · have hold : t.broadcastAudit.find? (·.broadcastId = broadcastId) = none := by
      refine List.find?_eq_none.mpr fun row hrow hid => ?_
      obtain ⟨old, hold, hsame⟩ := hs.audited row hrow
      exact hfresh old hold (hsame.trans (of_decide_eq_true hid))
    unfold expanded
    rw [List.find?_append, hold]
    simp
  · rw [hnew] at hnil
    have hlength := congrArg List.length hnil
    rw [seatRows_length] at hlength
    exact List.length_eq_zero_iff.mp hlength

theorem zip_ne_nil (h : Expands t ids actorId roomId acceptedAt broadcastId eventId rows) :
    (frozenRoster t actorId roomId).zip rows ≠ [] := by
  intro hnil
  have hlength := congrArg List.length hnil
  rw [List.length_zip, seats_length h.seats, Nat.min_self] at hlength
  exact h.roster (List.length_eq_zero_iff.mp hlength)

theorem snapshots_expanded (hs : Snapshots t)
    (h : Expands t ids actorId roomId acceptedAt broadcastId eventId rows) :
    Snapshots (expanded t actorId roomId content acceptedAt broadcastId eventId
      ((frozenRoster t actorId roomId).zip rows)) := by
  refine ⟨?_, ?_, ?_, ?_, ?_⟩
  · intro a ha b hb hid
    rcases List.mem_append.mp ha with ha | ha
    · rcases List.mem_append.mp hb with hb | hb
      · exact hs.keyed a ha b hb hid
      · cases List.mem_singleton.mp hb
        exact absurd hid (h.header a ha)
    · cases List.mem_singleton.mp ha
      rcases List.mem_append.mp hb with hb | hb
      · exact absurd hid.symm (h.header b hb)
      · exact (List.mem_singleton.mp hb).symm
  · intro other hother
    rcases List.mem_append.mp hother with hother | hother
    · exact whole_old (h.header other hother) (hs.whole other hother)
    · cases List.mem_singleton.mp hother
      exact whole_new hs (zip_ne_nil h) h.header
  · intro seat hseat
    rcases List.mem_append.mp hseat with hseat | hseat
    · obtain ⟨old, hold, hid⟩ := hs.owned seat hseat
      exact ⟨old, List.mem_append_left _ hold, hid⟩
    · exact ⟨_, List.mem_append_right _ (List.mem_singleton_self _),
        (broadcastId_of_mem_seatRows hseat).symm⟩
  · intro row hrow
    rcases List.mem_append.mp hrow with hrow | hrow
    · obtain ⟨old, hold, hid⟩ := hs.audited row hrow
      exact ⟨old, List.mem_append_left _ hold, hid⟩
    · rw [List.mem_singleton.mp hrow]
      exact ⟨_, List.mem_append_right _ (List.mem_singleton_self _), rfl⟩
  · intro seat hseat
    rcases List.mem_append.mp hseat with hseat | hseat
    · obtain ⟨d, hd, hid⟩ := hs.delivered seat hseat
      exact ⟨d, List.mem_append_left _ hd, hid⟩
    · obtain ⟨-, frozen, hfrozen, hrow⟩ := mem_seatRows hseat
      refine ⟨_, List.mem_append_right _ (List.mem_map_of_mem hfrozen), ?_⟩
      rw [hrow]
      rfl

theorem snapshots_step (h : Effect t op t') (hs : Snapshots t) : Snapshots t' := by
  rcases broadcasts_step h with
    ⟨hbroadcasts, hseats, haudit, -⟩ | ⟨_, _, _, _, _, _, _, _, hexpands, rfl⟩
  · have hsame : ∀ header, seatsOf t' header = seatsOf t header := fun header => by
      unfold seatsOf
      rw [hseats]
    refine ⟨hbroadcasts ▸ hs.keyed, fun header hheader => ?_, ?_, ?_, fun seat hseat => ?_⟩
    · have hwhole := hs.whole header (hbroadcasts ▸ hheader)
      exact ⟨haudit ▸ hwhole.audit, hsame _ ▸ hwhole.size, hsame _ ▸ hwhole.seated,
        hsame _ ▸ hwhole.ordered⟩
    · rw [hbroadcasts, hseats]
      exact hs.owned
    · rw [hbroadcasts, haudit]
      exact hs.audited
    · obtain ⟨d, hd, hid⟩ := hs.delivered seat (hseats ▸ hseat)
      obtain ⟨d', hd', hid'⟩ := deliveries_last h hd
      exact ⟨d', hd', hid'.trans hid⟩
  · exact snapshots_expanded hs hexpands

end Step

section Result

variable {t : Tables} {header : BroadcastRow}

def outcomeKey (outcome : BroadcastOutcome) : String × String × Option String :=
  (outcome.recipientId, outcome.deliveryId, outcome.bindingId)

theorem outcomes_eq (h : Whole t header) :
    BroadcastKernel.outcomes t header.broadcastId = (seatsOf t header.broadcastId).filterMap
      fun row => (t.getDelivery row.deliveryId).map (BroadcastKernel.outcome t row) := by
  unfold BroadcastKernel.outcomes
  have hsorted := List.mergeSort_of_pairwise (h.ordered.imp
    (fun hle => decide_eq_true hle : ∀ {a b : BroadcastRecipientRow}, _ → _))
  unfold seatsOf at hsorted ⊢
  rw [hsorted]

/-- Every seat has an outcome with its own identifiers. -/
theorem outcomes_key (hk : Keyed t) (hs : Snapshots t) (h : Whole t header) :
    (BroadcastKernel.outcomes t header.broadcastId).map outcomeKey =
      (seatsOf t header.broadcastId).map seatKey := by
  rw [outcomes_eq h, List.map_filterMap]
  refine List.filterMap_eq_map_iff_forall_eq_some.mpr fun row hrow => ?_
  obtain ⟨d, hd, hid⟩ := hs.delivered row (List.mem_of_mem_filter hrow)
  rw [(getDelivery_eq_some hk).mpr ⟨hd, hid⟩]
  rfl

theorem header_eq (hs : Snapshots t) (hheader : header ∈ t.broadcasts) :
    t.broadcasts.find? (·.broadcastId = header.broadcastId) = some header := by
  cases hfind : t.broadcasts.find? (·.broadcastId = header.broadcastId) with
  | none => exact absurd (List.find?_eq_none.mp hfind header hheader) (by simp)
  | some other =>
    have hid : other.broadcastId = header.broadcastId := by simpa using List.find?_some hfind
    rw [hs.keyed other (List.mem_of_find?_eq_some hfind) header hheader hid]

/-- The result of a stored broadcast never raises. -/
theorem result_ok (hk : Keyed t) (hs : Snapshots t) (hheader : header ∈ t.broadcasts) :
    BroadcastKernel.result header.broadcastId t = .ok {
      broadcastId := header.broadcastId, eventId := header.eventId, roomId := header.roomId
      rosterSnapshotSize := header.rosterSnapshotSize
      outcomes := BroadcastKernel.outcomes t header.broadcastId
      allDelivered := BroadcastKernel.outcomes t header.broadcastId ≠ [] ∧
        ∀ row ∈ BroadcastKernel.outcomes t header.broadcastId,
          row.state = .transportSubmitted ∨ row.state = .inSession ∨ row.state = .processed } := by
  have hwhole := hs.whole header hheader
  have hlength := congrArg List.length (outcomes_key hk hs hwhole)
  rw [List.length_map, List.length_map, hwhole.size] at hlength
  unfold BroadcastKernel.result
  rw [header_eq hs hheader]
  dsimp only
  rw [hwhole.audit]
  dsimp only
  rw [if_neg]
  rintro (hsize | hevent | hsize)
  · exact hsize hlength
  · exact hevent rfl
  · exact hsize rfl

end Result

section Run

variable [Host]

theorem snapshots_run (ops : List Op) : Snapshots (run ops CoreStore.empty).working := by
  refine run_invariant (fun _ heffect hs => snapshots_step heffect hs) ops sound_empty ?_
  refine ⟨?_, ?_, ?_, ?_, ?_⟩ <;> (intro _ h; cases h)

/-- A stored broadcast keeps its header and its seats along a run. -/
theorem seatsOf_run {header : BroadcastRow} (later : List Op) {c : CoreStore} (hsound : Sound c)
    (hheader : header ∈ c.working.broadcasts) :
    header ∈ (run later c).working.broadcasts ∧
      seatsOf (run later c).working header.broadcastId = seatsOf c.working header.broadcastId := by
  refine run_invariant (I := fun t => header ∈ t.broadcasts ∧
    seatsOf t header.broadcastId = seatsOf c.working header.broadcastId) ?_ later hsound
    ⟨hheader, rfl⟩
  intro t op t' _ heffect ⟨hmem, hsame⟩
  obtain ⟨hmem', hsame'⟩ := seatsOf_step heffect hmem
  exact ⟨hmem', hsame'.trans hsame⟩

/-- The window of a binding contains an observation. -/
def InWindow (row : SessionBindingRow) (observedAt : String) : Prop :=
  ∃ observed established expires, parseTimestamp observedAt = .ok observed ∧
    parseTimestamp row.establishedAt = .ok established ∧
    parseTimestamp row.expiresAt = .ok expires ∧ established ≤ observed ∧ observed < expires

/-- The binding of a seat is the active one of its recipient whose window contains the time of
acceptance, if there is one. -/
def BoundAt (t : Tables) (acceptedAt : String) (seat : String × Seat) : Prop :=
  ∀ bindingId, seat.2.bindingId = some bindingId ↔ ∃ row ∈ t.sessionBindings,
    row.bindingId = bindingId ∧ row.recipientId = seat.1 ∧ row.state = .active ∧
    InWindow row acceptedAt

theorem activeSessionBindingFor_ok {t : Tables} {recipientId acceptedAt : String}
    {found : Option SessionBindingRow} (hone : OneActive t)
    (h : BroadcastKernel.activeSessionBindingFor t recipientId acceptedAt = .ok found)
    (row : SessionBindingRow) : found = some row ↔ row ∈ t.sessionBindings ∧
      row.recipientId = recipientId ∧ row.state = .active ∧ InWindow row acceptedAt := by
  unfold BroadcastKernel.activeSessionBindingFor at h
  split at h
  · rename_i hnone
    cases h
    refine iff_of_false (by simp) ?_
    rintro ⟨hrow, hrecipient, hactive, -⟩
    exact absurd (List.find?_eq_none.mp hnone row hrow) (by simp [hrecipient, hactive])
  · rename_i active hactive
    obtain ⟨observed, hobserved, h⟩ := except_bind_ok.mp h
    obtain ⟨established, hestablished, h⟩ := except_bind_ok.mp h
    obtain ⟨expires, hexpires, h⟩ := except_bind_ok.mp h
    cases h
    have hmem := List.mem_of_find?_eq_some hactive
    have hfirst : active.recipientId = recipientId ∧ active.state = .active := by
      simpa using List.find?_some hactive
    obtain ⟨hrecipient, hstate⟩ := hfirst
    constructor
    · intro hfound
      split at hfound
      · rename_i hwindow
        cases hfound
        exact ⟨hmem, hrecipient, hstate, observed, established, expires, hobserved, hestablished,
          hexpires, hwindow⟩
      · cases hfound
    · rintro ⟨hrow, hrecipient', hstate', observed', established', expires', ho, he, hx, hwindow⟩
      obtain rfl := hone row hrow active hmem hstate' hstate (hrecipient'.trans hrecipient.symm)
      cases hobserved.symm.trans ho
      cases hestablished.symm.trans he
      cases hexpires.symm.trans hx
      exact if_pos hwindow

theorem seats_boundAt {t : Tables} {ids : IdFactory} {acceptedAt : String} {n : Nat}
    {roster : List String} {rows : List Seat} (hone : OneActive t)
    (h : BroadcastKernel.seats ids acceptedAt t n roster = .ok rows) :
    ∀ seat ∈ roster.zip rows, BoundAt t acceptedAt seat := by
  induction roster generalizing n rows with
  | nil =>
    intro seat hseat
    cases hseat
  | cons recipientId rest ih =>
    unfold BroadcastKernel.seats at h
    obtain ⟨deliveryId, -, h⟩ := except_bind_ok.mp h
    obtain ⟨attemptId, -, h⟩ := except_bind_ok.mp h
    obtain ⟨binding, hbinding, h⟩ := except_bind_ok.mp h
    obtain ⟨others, hothers, h⟩ := except_bind_ok.mp h
    cases h
    intro seat hseat
    rcases List.mem_cons.mp hseat with rfl | hseat
    · have hfound := activeSessionBindingFor_ok hone hbinding
      intro bindingId
      constructor
      · intro hid
        obtain ⟨row, hrow, hid⟩ := Option.map_eq_some_iff.mp hid
        obtain ⟨hmem, hrest⟩ := (hfound row).mp hrow
        exact ⟨row, hmem, hid, hrest⟩
      · rintro ⟨row, hmem, hid, hrest⟩
        exact Option.map_eq_some_iff.mpr ⟨row, (hfound row).mpr ⟨hmem, hrest⟩, hid⟩
    · exact ih hothers seat hseat

/-- A broadcast raises and changes nothing, or it adds its event, its header, its audit row and
one queued delivery per seat of the roster; its result then lists these seats for good. -/
theorem broadcast_frozen (ops : List Op) (ids : IdFactory)
    (actorId roomId content acceptedAt : String) :
    let c := run ops CoreStore.empty
    let called := (BroadcastKernel.broadcast ids actorId roomId content acceptedAt).exec c
    (∃ e, called.1 = .error e ∧ called.2.committed = c.committed ∧
      called.2.working = c.working) ∨
    ∃ broadcastId eventId seats res, called.1 = .ok res ∧ res.broadcastId = broadcastId ∧
      called.2.committed = expanded c.committed actorId roomId content acceptedAt broadcastId
        eventId seats ∧
      called.2.working = called.2.committed ∧
      seats.map Prod.fst = frozenRoster c.committed actorId roomId ∧
      (∀ seat ∈ seats, BoundAt c.committed acceptedAt seat) ∧
      ∀ later, ∃ res', BroadcastKernel.result broadcastId (run later called.2).working = .ok res' ∧
        res'.outcomes.map outcomeKey =
          seats.map fun seat => (seat.1, seat.2.deliveryId, seat.2.bindingId) := by
  intro c called
  have hsound : Sound c := sound_run ops sound_empty
  have hsnapshots : Snapshots c.working := snapshots_run ops
  have hone : OneActive c.working := oneActive_run ops
  have hclean : c.working = c.committed := hsound.clean
  obtain ⟨hclean', ⟨e, he, hw⟩ | ⟨broadcastId, eventId, rows, hexpands, hw, hres⟩⟩ :=
    broadcast_cases hsound.clean (rfl : (BroadcastKernel.broadcast ids actorId roomId content
      acceptedAt).exec c = called)
  · exact Or.inl ⟨e, he, hclean'.symm.trans (hw.trans hclean), hw⟩
  have hsound' : Sound called.2 := (exec_sound (.broadcast ids actorId roomId content acceptedAt)
    hsound).1
  have hsnapshots' : Snapshots called.2.working := hw ▸ snapshots_expanded hsnapshots hexpands
  have hseats : seatsOf called.2.working broadcastId =
      seatRows broadcastId 0 ((frozenRoster c.working actorId roomId).zip rows) :=
    hw ▸ seatsOf_new hsnapshots hexpands.header
  have hheader : (⟨broadcastId, eventId, roomId,
      ((frozenRoster c.working actorId roomId).zip rows).length⟩ : BroadcastRow) ∈
      called.2.working.broadcasts :=
    hw ▸ List.mem_append_right _ (List.mem_singleton_self _)
  have hroster : ((frozenRoster c.working actorId roomId).zip rows).map Prod.fst =
      frozenRoster c.working actorId roomId :=
    List.map_fst_zip (Nat.le_of_eq (seats_length hexpands.seats).symm)
  have hread := result_ok hsound'.keyed hsnapshots' hheader
  rw [← hclean]
  refine Or.inr ⟨broadcastId, eventId, _, _, hres.trans hread, rfl, hclean'.symm.trans hw, hclean',
    hroster, seats_boundAt hone hexpands.seats, fun later => ?_⟩
  have hsound'' := sound_run later hsound'
  have hsnapshots'' : Snapshots (run later called.2).working :=
    run_invariant (fun _ heffect hs => snapshots_step heffect hs) later hsound' hsnapshots'
  obtain ⟨hheader', hseats'⟩ := seatsOf_run later hsound' hheader
  refine ⟨_, result_ok hsound''.keyed hsnapshots'' hheader', ?_⟩
  exact (outcomes_key hsound''.keyed hsnapshots'' (hsnapshots''.whole _ hheader')).trans
    ((congrArg (List.map seatKey) (hseats'.trans hseats)).trans seatRows_key)

end Run

end Yatagarasu
