import Yatagarasu.Core.Snapshots

/-! A seat counts as delivered by the state of its delivery. Along every run that state says what
the audit log says: whether an acknowledgement of the transport was accepted. -/

namespace Yatagarasu

open Sqlite ReceiptReducer

/-- The states that the roll-up counts as delivered. -/
def HandedOver (d : Delivery) : Prop :=
  d.state = .transportSubmitted ∨ d.state = .inSession ∨ d.state = .processed

/-- An accepted `transport.submit_ack` of the delivery. -/
def Acknowledged (t : Tables) (deliveryId : String) : Prop :=
  ∃ row ∈ t.auditLog, row.deliveryId = deliveryId ∧ row.evidenceClass = .transportSubmitAck

/-- The delivery of a seat, as it was frozen and as the audit log has it. -/
structure Honest (t : Tables) (seat : BroadcastRecipientRow) (d : Delivery) : Prop where
  mode : d.deliveryMode = .sessionBound
  binding : d.bindingId = seat.bindingId
  acked : HandedOver d ↔ Acknowledged t d.deliveryId
  unbound : d.bindingId = none → ¬ HandedOver d

/-- Every delivery of a seat is honest, and the audit log knows its deliveries. -/
structure HonestSeats (t : Tables) : Prop where
  seats : ∀ seat ∈ t.broadcastRecipients, ∀ d ∈ t.deliveries, d.deliveryId = seat.deliveryId →
    Honest t seat d
  known : ∀ row ∈ t.auditLog, ∃ d ∈ t.deliveries, d.deliveryId = row.deliveryId

section Step

variable [Host] {t t' : Tables} {op : Op} {d : Delivery}

omit [Host] in
theorem honest_of_eq {seat : BroadcastRecipientRow} (h : Honest t seat d)
    (haudit : t'.auditLog = t.auditLog) : Honest t' seat d := by
  refine ⟨h.mode, h.binding, ?_, h.unbound⟩
  unfold Acknowledged
  rw [haudit]
  exact h.acked

/-- An audit row is never deleted. -/
theorem acknowledged_step (h : Effect t op t') {deliveryId : String}
    (hacked : Acknowledged t deliveryId) : Acknowledged t' deliveryId := by
  obtain ⟨row, hrow, hid, hclass⟩ := hacked
  cases h with
  | accepted => exact ⟨row, List.mem_append_left _ hrow, hid, hclass⟩
  | _ => exact ⟨row, hrow, hid, hclass⟩

theorem known_step (h : Effect t op t') (hhonest : HonestSeats t) :
    ∀ row ∈ t'.auditLog, ∃ d ∈ t'.deliveries, d.deliveryId = row.deliveryId := by
  intro row hrow
  have hold : ∀ row ∈ t.auditLog, ∃ d ∈ t'.deliveries, d.deliveryId = row.deliveryId := by
    intro row hrow
    obtain ⟨d, hd, hid⟩ := hhonest.known row hrow
    obtain ⟨d', hd', hid'⟩ := deliveries_last h hd
    exact ⟨d', hd', hid'.trans hid⟩
  cases h with
  | accepted haccept =>
    rcases List.mem_append.mp hrow with hrow | hrow
    · exact hold row hrow
    · rw [List.mem_singleton.mp hrow]
      refine ⟨_, List.mem_map_of_mem (List.mem_of_find?_eq_some haccept.delivery), ?_⟩
      split <;> rfl
  | _ => exact hold row hrow

omit [Host] in
/-- The guarded update of a dispatch. -/
theorem honest_dispatched {seat : BroadcastRecipientRow} (hq : d.state = .queued)
    (h : Honest t seat d) : Honest t seat { d with state := .dispatching } := by
  have hnot : ¬ HandedOver d := by simp [HandedOver, hq]
  refine ⟨h.mode, h.binding, iff_of_false (by simp [HandedOver]) fun hacked => ?_,
    fun _ => by simp [HandedOver]⟩
  exact hnot (h.acked.mpr hacked)

/-- An acknowledgement hands the delivery over, and what is accepted later was acknowledged. -/
theorem honest_accepted {authority : Option MarkerAuthority} {r : Receipt} {next : Transition}
    {bindingId : String} {proof : ProofFields} {seat : BroadcastRecipientRow}
    (haccept : Acceptable authority t r d next) (hcommit : Commits t r d bindingId)
    (h : Honest t seat d) : Honest (accepted t r d next bindingId proof) seat
      { d with state := next.1, disposition := next.2 } := by
  have hbound : d.bindingId ≠ none := by
    rw [hcommit.bound]
    simp
  have hrow : CoreStore.auditRow r d next.1 next.2 ∈
      (accepted t r d next bindingId proof).auditLog :=
    List.mem_append_right _ (List.mem_singleton_self _)
  have hlast : HandedOver d → Acknowledged (accepted t r d next bindingId proof) d.deliveryId := by
    intro hover
    obtain ⟨row, hold, hid⟩ := h.acked.mp hover
    exact ⟨row, List.mem_append_left _ hold, hid⟩
  have hnext : HandedOver { d with state := next.1, disposition := next.2 } ∧
      Acknowledged (accepted t r d next bindingId proof) d.deliveryId := by
    obtain ⟨provider, -, hpermitted⟩ := haccept.permitted
    generalize provider.kind = kind at hpermitted
    cases hpermitted with
    | ackSession hclass => exact ⟨Or.inl rfl, _, hrow, rfl, hclass⟩
    | ackChannel _ _ hmode =>
      rw [h.mode] at hmode
      cases hmode
    | entry _ _ hstate => exact ⟨Or.inr (Or.inl rfl), hlast (Or.inl hstate)⟩
    | completed _ _ hstate => exact ⟨Or.inr (Or.inr rfl), hlast (Or.inr (Or.inl hstate))⟩
    | reply _ hchecked =>
      have hmode := hchecked.mode
      rw [h.mode] at hmode
      cases hmode
    | reaction _ hchecked =>
      have hmode := hchecked.mode
      rw [h.mode] at hmode
      cases hmode
  exact ⟨h.mode, h.binding, iff_of_true hnext.1 hnext.2, fun hnone => absurd hnone hbound⟩

omit [Host] in
/-- A row of another delivery says nothing about this one. -/
theorem honest_other {r : Receipt} {other : Delivery} {next : Transition} {bindingId : String}
    {proof : ProofFields} {seat : BroadcastRecipientRow} (hne : d.deliveryId ≠ other.deliveryId)
    (h : Honest t seat d) : Honest (accepted t r other next bindingId proof) seat d := by
  refine ⟨h.mode, h.binding, h.acked.trans ⟨?_, ?_⟩, h.unbound⟩
  · rintro ⟨row, hrow, hid⟩
    exact ⟨row, List.mem_append_left _ hrow, hid⟩
  · rintro ⟨row, hrow, hid, hclass⟩
    rcases List.mem_append.mp hrow with hrow | hrow
    · exact ⟨row, hrow, hid, hclass⟩
    · rw [List.mem_singleton.mp hrow] at hid
      exact absurd hid.symm hne

/-- The seats of a new broadcast start queued, with no row in the audit log. -/
theorem honest_expanded {ids : IdFactory}
    {actorId roomId content acceptedAt broadcastId eventId : String} {rows : List Seat}
    (hs : Snapshots t) (hhonest : HonestSeats t)
    (hexpands : Expands t ids actorId roomId acceptedAt broadcastId eventId rows)
    {seat : BroadcastRecipientRow} (hseat : seat ∈ t.broadcastRecipients ++ seatRows broadcastId 0
      ((frozenRoster t actorId roomId).zip rows))
    (hd : d ∈ t.deliveries ++ ((frozenRoster t actorId roomId).zip rows).map
      (seatDelivery eventId)) (hid : d.deliveryId = seat.deliveryId) :
    Honest (expanded t actorId roomId content acceptedAt broadcastId eventId
      ((frozenRoster t actorId roomId).zip rows)) seat d := by
  rcases List.mem_append.mp hseat with hseat | hseat
  · rcases List.mem_append.mp hd with hd | hd
    · exact honest_of_eq (hhonest.seats seat hseat d hd hid) rfl
    · obtain ⟨new, hnew, rfl⟩ := List.mem_map.mp hd
      obtain ⟨old, hold, hsame⟩ := hs.delivered seat hseat
      exact absurd (hsame.trans hid.symm) (hexpands.deliveries new hnew old hold)
  · obtain ⟨-, frozen, hfrozen, hrow⟩ := mem_seatRows hseat
    rw [hrow] at hid ⊢
    rcases List.mem_append.mp hd with hd | hd
    · exact absurd hid (hexpands.deliveries frozen hfrozen d hd)
    · obtain ⟨new, hnew, rfl⟩ := List.mem_map.mp hd
      obtain rfl := List.inj_on_of_nodup_map hexpands.distinct hnew hfrozen hid
      refine ⟨rfl, rfl, iff_of_false (by simp [HandedOver, seatDelivery]) ?_,
        fun _ => by simp [HandedOver, seatDelivery]⟩
      rintro ⟨row, hrow, hrowid, -⟩
      obtain ⟨old, hold, hsame⟩ := hhonest.known row hrow
      exact hexpands.deliveries new hnew old hold (hsame.trans hrowid)

theorem honestSeats_step (hk : Keyed t) (h : Effect t op t') (hs : Snapshots t)
    (hhonest : HonestSeats t) : HonestSeats t' := by
  refine ⟨fun seat hseat d hd hid => ?_, known_step h hhonest⟩
  cases h with
  | added hfresh =>
    rcases List.mem_append.mp hd with hd | hd
    · exact honest_of_eq (hhonest.seats seat hseat d hd hid) rfl
    · obtain ⟨old, hold, hsame⟩ := hs.delivered seat hseat
      rw [List.mem_singleton.mp hd] at hid
      exact absurd (hsame.trans hid.symm) (hfresh old hold)
  | dispatched hmem hq =>
    rcases (mem_moved hk hmem).mp hd with rfl | ⟨hd, -⟩
    · exact honest_of_eq (honest_dispatched hq (hhonest.seats seat hseat _ hmem hid)) rfl
    · exact honest_of_eq (hhonest.seats seat hseat d hd hid) rfl
  | broadcast hexpands => exact honest_expanded hs hhonest hexpands hseat hd hid
  | accepted haccept _ hcommit =>
    obtain ⟨hmem, -⟩ := (getDelivery_eq_some hk).mp haccept.delivery
    rcases (mem_moved hk hmem).mp hd with rfl | ⟨hd, hne⟩
    · exact honest_accepted haccept hcommit (hhonest.seats seat hseat _ hmem hid)
    · exact honest_other hne (hhonest.seats seat hseat d hd hid)
  | _ => exact honest_of_eq (hhonest.seats seat hseat d hd hid) rfl

end Step

section Result

variable {t : Tables} {header : BroadcastRow}

theorem outcomes_ne_nil (hk : Keyed t) (hs : Snapshots t) (h : Whole t header) :
    BroadcastKernel.outcomes t header.broadcastId ≠ [] := by
  intro hnil
  have hkeys := outcomes_key hk hs h
  rw [hnil, List.map_nil] at hkeys
  exact h.seated (List.map_eq_nil_iff.mp hkeys.symm)

theorem outcomes_handedOver (hk : Keyed t) (hs : Snapshots t) (hhonest : HonestSeats t)
    (h : Whole t header) :
    (∀ row ∈ BroadcastKernel.outcomes t header.broadcastId,
      row.state = .transportSubmitted ∨ row.state = .inSession ∨ row.state = .processed) ↔
    ∀ seat ∈ seatsOf t header.broadcastId, Acknowledged t seat.deliveryId := by
  have hseat : ∀ seat ∈ seatsOf t header.broadcastId, ∃ d,
      t.getDelivery seat.deliveryId = some d ∧
        (HandedOver d ↔ Acknowledged t seat.deliveryId) := by
    intro seat hseat
    have hstored := List.mem_of_mem_filter hseat
    obtain ⟨d, hd, hid⟩ := hs.delivered seat hstored
    refine ⟨d, (getDelivery_eq_some hk).mpr ⟨hd, hid⟩, ?_⟩
    rw [← hid]
    exact (hhonest.seats seat hstored d hd hid).acked
  rw [outcomes_eq h]
  constructor
  · intro hall seat hmem
    obtain ⟨d, hd, hacked⟩ := hseat seat hmem
    have hrow : BroadcastKernel.outcome t seat d ∈ (seatsOf t header.broadcastId).filterMap
        fun row => (t.getDelivery row.deliveryId).map (BroadcastKernel.outcome t row) := by
      refine List.mem_filterMap.mpr ⟨seat, hmem, ?_⟩
      rw [hd]
      rfl
    exact hacked.mp (hall _ hrow)
  · intro hall row hrow
    obtain ⟨seat, hmem, hrow⟩ := List.mem_filterMap.mp hrow
    obtain ⟨d, hd, hacked⟩ := hseat seat hmem
    rw [hd] at hrow
    cases hrow
    exact hacked.mpr (hall seat hmem)

end Result

section Run

variable [Host]

theorem honestSeats_run (ops : List Op) : HonestSeats (run ops CoreStore.empty).working := by
  have hboth : Snapshots (run ops CoreStore.empty).working ∧
      HonestSeats (run ops CoreStore.empty).working := by
    refine run_invariant (I := fun t => Snapshots t ∧ HonestSeats t) ?_ ops sound_empty
      ⟨snapshots_run [], ⟨?_, ?_⟩⟩
    · intro t op t' hk heffect hboth
      exact ⟨snapshots_step heffect hboth.1, honestSeats_step hk heffect hboth.1 hboth.2⟩
    · intro seat hseat
      cases hseat
    · intro row hrow
      cases hrow
  exact hboth.2

/-- The roll-up of a stored broadcast is true when every seat was acknowledged. -/
theorem allDelivered_iff (ops : List Op) {header : BroadcastRow}
    (hheader : header ∈ (run ops CoreStore.empty).working.broadcasts) :
    let t := (run ops CoreStore.empty).working
    ∃ res, BroadcastKernel.result header.broadcastId t = .ok res ∧
      (res.allDelivered = true ↔
        ∀ seat ∈ seatsOf t header.broadcastId, Acknowledged t seat.deliveryId) := by
  intro t
  have hk : Keyed t := (sound_run ops sound_empty).keyed
  have hs : Snapshots t := snapshots_run ops
  have hwhole := hs.whole header hheader
  refine ⟨_, result_ok hk hs hheader, ?_⟩
  rw [decide_eq_true_iff, ← outcomes_handedOver hk hs (honestSeats_run ops) hwhole]
  exact and_iff_right (outcomes_ne_nil hk hs hwhole)

/-- The roll-up is what the audit log says, never falls back, and is false for good once a seat
was frozen without a binding. -/
theorem roll_up_never_overclaims (ops : List Op) (header : BroadcastRow)
    (hheader : header ∈ (run ops CoreStore.empty).committed.broadcasts) :
    let c := run ops CoreStore.empty
    ∃ res, BroadcastKernel.result header.broadcastId c.working = .ok res ∧
      (res.allDelivered = true ↔ ∀ seat ∈ seatsOf c.working header.broadcastId,
        Acknowledged c.working seat.deliveryId) ∧
      ∀ later, ∃ res', BroadcastKernel.result header.broadcastId (run later c).working = .ok res' ∧
        (res.allDelivered = true → res'.allDelivered = true) ∧
        ((∃ seat ∈ seatsOf c.working header.broadcastId, seat.bindingId = none) →
          res'.allDelivered = false) := by
  intro c
  have hsound : Sound c := sound_run ops sound_empty
  have hstored : header ∈ c.working.broadcasts := hsound.clean ▸ hheader
  obtain ⟨res, hres, hiff⟩ := allDelivered_iff ops hstored
  refine ⟨res, hres, hiff, fun later => ?_⟩
  obtain ⟨hstored', hseats⟩ := seatsOf_run later hsound hstored
  have hrun : run (ops ++ later) CoreStore.empty = run later c := run_append _ _ _
  obtain ⟨res', hres', hiff'⟩ := allDelivered_iff (ops ++ later) (hrun ▸ hstored')
  rw [hrun] at hres' hiff'
  refine ⟨res', hres', fun hall => hiff'.mpr fun seat hseat => ?_, ?_⟩
  · rw [hseats] at hseat
    refine run_invariant (fun _ heffect hacked => acknowledged_step heffect hacked) later hsound ?_
    exact hiff.mp hall seat hseat
  · rintro ⟨seat, hseat, hunbound⟩
    rw [Bool.eq_false_iff]
    intro hall
    rw [← hseats] at hseat
    have hacked := hiff'.mp hall seat hseat
    have hs := hrun ▸ snapshots_run (ops ++ later)
    have hhonest := hrun ▸ honestSeats_run (ops ++ later)
    obtain ⟨d, hd, hid⟩ := hs.delivered seat (List.mem_of_mem_filter hseat)
    have hseated := hhonest.seats seat (List.mem_of_mem_filter hseat) d hd hid
    refine hseated.unbound (hseated.binding.trans hunbound) (hseated.acked.mpr ?_)
    rwa [hid]

end Run

def sampleIds : IdFactory := fun n _ =>
  .ok (["broadcast-1", "event-2", "delivery-2", "attempt-2"].getD n "")

def sampleBroadcast : List Op :=
  sampleSetup ++ [.replaceRoomRoster "room-1" ["bob"],
    .broadcast sampleIds "alice" "room-1" "hello" "2026-01-01T00:30:00Z"]

def sampleHeader : BroadcastRow :=
  { broadcastId := "broadcast-1", eventId := "event-2", roomId := "room-1"
    rosterSnapshotSize := 1 }

theorem roll_up_never_overclaims_sample :
    sampleHeader ∈ (@run sampleHost sampleBroadcast CoreStore.empty).committed.broadcasts ∧
    ∃ res, BroadcastKernel.result "broadcast-1"
      (@run sampleHost sampleBroadcast CoreStore.empty).working = .ok res ∧
      res.allDelivered = false := by
  have hheader : sampleHeader ∈
      (@run sampleHost sampleBroadcast CoreStore.empty).committed.broadcasts := by
    decide +kernel
  have hunbound : ∃ seat ∈ seatsOf (@run sampleHost sampleBroadcast CoreStore.empty).working
      "broadcast-1", seat.bindingId = none := by
    decide +kernel
  obtain ⟨res, hres, -, hlater⟩ :=
    @roll_up_never_overclaims sampleHost sampleBroadcast sampleHeader hheader
  obtain ⟨res', hres', -, hfalse⟩ := hlater []
  exact ⟨hheader, res', hres', hfalse hunbound⟩

end Yatagarasu
