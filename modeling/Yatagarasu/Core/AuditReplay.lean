import Mathlib.Data.List.Chain
import Yatagarasu.Core.Runs

/-! The audit log replays to the live state. -/

namespace Yatagarasu

open ReceiptReducer

/-- The states in the order a delivery takes them. -/
def DeliveryState.rank : DeliveryState → Nat
  | .queued => 0
  | .dispatching => 1
  | .transportSubmitted => 2
  | .inSession => 3
  | .processed => 4

/-- The audited steps of each delivery mode. -/
inductive AuditStep : DeliveryMode → DeliveryState → DeliveryState → Prop
  | submitted (mode : DeliveryMode) : AuditStep mode .dispatching .transportSubmitted
  | entered : AuditStep .sessionBound .transportSubmitted .inSession
  | completed : AuditStep .sessionBound .inSession .processed
  | answered : AuditStep .channelNative .transportSubmitted .processed

/-- The rows of one delivery, in `audit_id` order, lead from dispatching to the live row. -/
structure Replays (rows : List AuditRow) (d : Delivery) : Prop where
  first : ∀ row ∈ rows.head?, row.fromState = .dispatching
  connected : rows.IsChain fun row later => row.toState = later.fromState
  steps : ∀ row ∈ rows, AuditStep d.deliveryMode row.fromState row.toState
  last : ∀ row ∈ rows.getLast?, row.toState = d.state ∧ row.disposition = d.disposition
  idle : rows = [] → d.state = .queued ∨ d.state = .dispatching

structure AuditReplays (t : Tables) : Prop where
  replays : ∀ d ∈ t.deliveries, Replays (t.auditFor d.deliveryId) d
  /-- Receipts and audit rows pair up, in order, by receipt and delivery. -/
  paired : t.auditLog.map (fun row => (row.receiptId, row.deliveryId)) =
    t.receipts.map fun row => (row.receiptId, row.deliveryId)
  receiptIds : (t.receipts.map (·.receiptId)).Nodup
  /-- Every audit row belongs to a delivery. -/
  known : ∀ row ∈ t.auditLog, ∃ d ∈ t.deliveries, d.deliveryId = row.deliveryId

section Step

variable {t t' : Tables} {r : Receipt} {d : Delivery} {kind : ProviderKind} {next : Transition}

theorem permitted_step (h : Permitted t r d kind next) :
    AuditStep d.deliveryMode d.state next.1 := by
  cases h with
  | ackSession _ hm hs _ => rw [hs]; exact .submitted _
  | ackChannel _ _ hm hs _ _ _ => rw [hs]; exact .submitted _
  | entry _ hm hs _ => rw [hm, hs]; exact .entered
  | completed _ hm hs _ => rw [hm, hs]; exact .completed
  | reply _ hp _ => rw [hp.mode, hp.state]; exact .answered
  | reaction _ hp _ => rw [hp.mode, hp.state]; exact .answered

theorem AuditStep.rank_lt {mode : DeliveryMode} {s u : DeliveryState} (h : AuditStep mode s u) :
    0 < s.rank ∧ s.rank < u.rank := by
  cases h <;> decide

/-- A queued delivery was never audited. -/
theorem audit_nil_of_queued {rows : List AuditRow} (h : Replays rows d) (hq : d.state = .queued) :
    rows = [] := by
  rcases List.eq_nil_or_concat rows with rfl | ⟨front, row, rfl⟩
  · rfl
  · have hl := (h.last row (by simp)).1
    have hs := h.steps row (by simp)
    rw [hl, hq] at hs
    exact absurd hs.rank_lt (by simp [DeliveryState.rank])

/-- The audit row of an accepted receipt extends the path of its delivery. -/
theorem replays_append {rows : List AuditRow} (h : Replays rows d)
    (hstep : AuditStep d.deliveryMode d.state next.1) :
    Replays (rows ++ [CoreStore.auditRow r d next.1 next.2])
      { d with state := next.1, disposition := next.2 } := by
  refine ⟨?_, ?_, ?_, ?_, by simp⟩
  · intro row hrow
    cases rows with
    | nil =>
      obtain rfl : CoreStore.auditRow r d next.1 next.2 = row := by simpa using hrow
      rcases h.idle rfl with hs | hs
      · rw [hs] at hstep
        exact absurd hstep.rank_lt.1 (by decide)
      · exact hs
    | cons first rest => exact h.first row (by simpa using hrow)
  · refine h.connected.append (List.isChain_singleton _) ?_
    intro row hrow row' hrow'
    obtain rfl : CoreStore.auditRow r d next.1 next.2 = row' := by simpa using hrow'
    exact (h.last row hrow).1
  · intro row hrow
    rcases List.mem_append.mp hrow with hrow | hrow
    · exact h.steps row hrow
    · rw [List.mem_singleton.mp hrow]
      exact hstep
  · intro row hrow
    obtain rfl : CoreStore.auditRow r d next.1 next.2 = row := by simpa using hrow
    exact ⟨rfl, rfl⟩

theorem auditFor_append (rows : List AuditRow) (row : AuditRow) (deliveryId : String) :
    ({ t with auditLog := rows ++ [row] } : Tables).auditFor deliveryId =
      ({ t with auditLog := rows } : Tables).auditFor deliveryId ++
        if row.deliveryId = deliveryId then [row] else [] := by
  by_cases h : row.deliveryId = deliveryId
  · simp [Tables.auditFor, List.filter_append, h]
  · simp [Tables.auditFor, List.filter_append, h]

theorem replays_grows {P : Delivery → Prop} (hP : ∀ d, P d → d.state = .queued)
    (hgrows : Grows P t t') (hk : Keyed t) (h : AuditReplays t) : AuditReplays t' := by
  obtain ⟨new, hnew, hqueued⟩ := hgrows.deliveries
  have hold : ∀ id, t'.auditFor id = t.auditFor id := by
    intro id
    simp [Tables.auditFor, hgrows.auditLog]
  refine ⟨?_, by rw [hgrows.auditLog, hgrows.receipts]; exact h.paired,
    by rw [hgrows.receipts]; exact h.receiptIds, ?_⟩
  · intro d hd
    rw [hold]
    rw [hnew] at hd
    rcases List.mem_append.mp hd with hd | hd
    · exact h.replays d hd
    · have hnone : t.auditFor d.deliveryId = [] := by
        -- a row of the log belongs to an older delivery, and the key of a new one is fresh
        refine List.filter_eq_nil_iff.mpr fun row hrow hid => ?_
        obtain ⟨old, hold, hsame⟩ := h.known row hrow
        have hnodup := (hgrows.keyed hk).deliveries
        rw [hnew, List.map_append] at hnodup
        refine List.disjoint_of_nodup_append hnodup (List.mem_map_of_mem hold) ?_
        rw [hsame, show row.deliveryId = d.deliveryId by simpa using hid]
        exact List.mem_map_of_mem hd
      rw [hnone]
      exact ⟨by simp, List.isChain_nil, by simp, by simp, fun _ => Or.inl (hP d (hqueued d hd))⟩
  · intro row hrow
    rw [hgrows.auditLog] at hrow
    obtain ⟨d, hd, hid⟩ := h.known row hrow
    exact ⟨d, by rw [hnew]; exact List.mem_append_left _ hd, hid⟩

theorem known_moved (hk : Keyed t) (hd : d ∈ t.deliveries) {f : Delivery → Delivery}
    (hf : ∀ d, (f d).deliveryId = d.deliveryId) {deliveryId : String}
    (h : ∃ d ∈ t.deliveries, d.deliveryId = deliveryId) :
    ∃ d' ∈ moved t.deliveries d f, d'.deliveryId = deliveryId := by
  obtain ⟨x, hx, rfl⟩ := h
  by_cases hid : x.deliveryId = d.deliveryId
  · exact ⟨f d, (mem_moved hk hd).mpr (Or.inl rfl), by rw [hf, hid]⟩
  · exact ⟨x, (mem_moved hk hd).mpr (Or.inr ⟨hx, hid⟩), rfl⟩

theorem replays_dispatched (hk : Keyed t) (hd : d ∈ t.deliveries) (hq : d.state = .queued)
    (h : AuditReplays t) :
    AuditReplays { t with deliveries := moved t.deliveries d fun d =>
      { d with state := .dispatching } } := by
  refine ⟨fun d' hd' => ?_, h.paired, h.receiptIds, fun row hrow =>
    known_moved hk hd ?_ (h.known row hrow)⟩
  swap
  · intro x
    rfl
  rcases (mem_moved hk hd).mp hd' with rfl | ⟨hd', -⟩
  · have hnone : t.auditFor d.deliveryId = [] := audit_nil_of_queued (h.replays d hd) hq
    change Replays (t.auditFor d.deliveryId) _
    rw [hnone]
    exact ⟨by simp, List.isChain_nil, by simp, by simp, fun _ => Or.inr rfl⟩
  · exact h.replays d' hd'

theorem replays_accepted [Host] {authority : Option MarkerAuthority} {bindingId : String}
    {proof : ProofFields} (hk : Keyed t) (ha : Acceptable authority t r d next)
    (hcommit : Commits t r d bindingId) (h : AuditReplays t) :
    AuditReplays (accepted t r d next bindingId proof) := by
  obtain ⟨hd, hid⟩ := (getDelivery_eq_some hk).mp ha.delivery
  obtain ⟨provider, -, hpermitted⟩ := ha.permitted
  refine ⟨?_, ?_, ?_, ?_⟩
  · intro d' hd'
    change Replays (Tables.auditFor { t with auditLog := t.auditLog ++ _ } d'.deliveryId) d'
    rw [auditFor_append]
    rcases (mem_moved hk hd).mp hd' with rfl | ⟨hd', hne⟩
    · rw [if_pos (show (CoreStore.auditRow r d next.1 next.2).deliveryId = d.deliveryId from rfl)]
      exact replays_append (h.replays d hd) (permitted_step hpermitted)
    · rw [if_neg fun heq => hne heq.symm, List.append_nil]
      exact h.replays d' hd'
  · simp [accepted, h.paired, CoreStore.auditRow, CoreStore.receiptRow]
  · simp only [accepted, List.map_append]
    refine h.receiptIds.append (List.nodup_singleton _) ?_
    intro id hold hnew
    obtain ⟨row, hrow, rfl⟩ := List.mem_map.mp hold
    exact hcommit.receiptId row hrow (List.mem_singleton.mp hnew)
  · intro row hrow
    refine known_moved hk hd ?_ ?_
    · intro x
      rfl
    rcases List.mem_append.mp hrow with hrow | hrow
    · exact h.known row hrow
    · rw [List.mem_singleton.mp hrow]
      exact ⟨d, hd, rfl⟩

theorem replays_change [Host] {P : Delivery → Prop} {op : Op}
    (hP : ∀ d, P d → d.state = .queued) (hchange : Change P t op t') (hk : Keyed t)
    (h : AuditReplays t) : AuditReplays t' := by
  cases hchange with
  | grows hgrows => exact replays_grows hP hgrows hk h
  | dispatched hd hq => exact replays_dispatched hk hd hq h
  | accepted ha hf hcommit => exact replays_accepted hk ha hcommit h

/-- A step moves no delivery back, and touches none that is processed. -/
theorem advances_change [Host] {P : Delivery → Prop} {op : Op} (hchange : Change P t op t')
    (hk : Keyed t) (hd : d ∈ t.deliveries) :
    ∃ d' ∈ t'.deliveries, d'.deliveryId = d.deliveryId ∧ d.state.rank ≤ d'.state.rank ∧
      (d.state = .processed → d' = d) := by
  cases hchange with
  | grows hgrows =>
    obtain ⟨new, hnew, -⟩ := hgrows.deliveries
    exact ⟨d, by rw [hnew]; exact List.mem_append_left _ hd, rfl, le_rfl, fun _ => rfl⟩
  | @dispatched x hx hq =>
    by_cases hid : d.deliveryId = x.deliveryId
    · obtain rfl := eq_of_deliveryId hk hd hx hid
      refine ⟨_, (mem_moved hk hd).mpr (Or.inl rfl), rfl, ?_, ?_⟩
      · rw [hq]
        exact Nat.zero_le _
      · intro hp
        cases hq.symm.trans hp
    · exact ⟨d, (mem_moved hk hx).mpr (Or.inr ⟨hd, hid⟩), rfl, le_rfl, fun _ => rfl⟩
  | @accepted _ _ x next _ _ ha hf hcommit =>
    obtain ⟨hx, -⟩ := (getDelivery_eq_some hk).mp ha.delivery
    obtain ⟨provider, -, hpermitted⟩ := ha.permitted
    have hlt := (permitted_step hpermitted).rank_lt.2
    by_cases hid : d.deliveryId = x.deliveryId
    · obtain rfl := eq_of_deliveryId hk hd hx hid
      refine ⟨_, (mem_moved hk hd).mpr (Or.inl rfl), rfl, hlt.le, ?_⟩
      intro hp
      rw [hp] at hlt
      exact absurd hlt (by cases next.1 <;> decide)
    · exact ⟨d, (mem_moved hk hx).mpr (Or.inr ⟨hd, hid⟩), rfl, le_rfl, fun _ => rfl⟩

end Step

section Run

variable [Host] {ops : List Op}

omit [Host] in
theorem auditReplays_empty : AuditReplays {} := ⟨by simp, rfl, List.nodup_nil, by simp⟩

theorem auditReplays_run (hops : ∀ op ∈ ops, op.Enters (·.state = .queued)) :
    AuditReplays (run ops CoreStore.empty).working :=
  run_induction (I := fun _ t => AuditReplays t) (fun _ hq _ => hq) auditReplays_empty
    (fun hk _ hchange hI => replays_change (fun _ hd => hd) hchange hk hI) hops

/-- From any state between operations, deliveries only advance. -/
theorem advances_run {c : CoreStore} (hs : Sound c) {d : Delivery} (hd : d ∈ c.working.deliveries)
    (ops : List Op) :
    ∃ d' ∈ (run ops c).working.deliveries, d'.deliveryId = d.deliveryId ∧
      d.state.rank ≤ d'.state.rank ∧ (d.state = .processed → d' = d) := by
  induction ops generalizing c d with
  | nil => exact ⟨d, hd, rfl, le_rfl, fun _ => rfl⟩
  | cons op ops ih =>
    obtain ⟨hs', hchange⟩ := exec_sound op hs
    obtain ⟨m, hm, hid, hrank, hsame⟩ := advances_change hchange hs.keyed hd
    obtain ⟨d', hd', hid', hrank', hsame'⟩ := ih hs' hm
    refine ⟨d', hd', hid'.trans hid, hrank.trans hrank', ?_⟩
    intro hp
    obtain rfl := hsame hp
    exact hsame' hp

/-- The audit log of every delivery leads to its row, and no later operation takes it back. -/
theorem audit_replays_run (ops later : List Op)
    (hops : ∀ op ∈ ops, op.Enters (·.state = .queued)) :
    AuditReplays (run ops CoreStore.empty).working ∧
    ∀ id d, (run ops CoreStore.empty).working.getDelivery id = some d →
      ∃ d', (run (ops ++ later) CoreStore.empty).working.getDelivery id = some d' ∧
        d.state.rank ≤ d'.state.rank ∧ (d.state = .processed → d' = d) := by
  refine ⟨auditReplays_run hops, ?_⟩
  intro id d hd
  have hs := sound_run ops sound_empty
  obtain ⟨hmem, rfl⟩ := (getDelivery_eq_some hs.keyed).mp hd
  obtain ⟨d', hd', hid, hrank, hsame⟩ := advances_run hs hmem later
  refine ⟨d', ?_, hrank, hsame⟩
  rw [run_append]
  exact (getDelivery_eq_some (sound_run later hs).keyed).mpr ⟨hd', hid⟩

end Run

/-- The sample run ends in session, with both steps on the log. -/
theorem audit_replays_sample :
    (∀ op ∈ sampleOps, op.Enters (·.state = .queued)) ∧
    AuditReplays (@run sampleHost sampleOps CoreStore.empty).working ∧
    ((@run sampleHost sampleOps CoreStore.empty).working.auditFor "delivery-1").map
      (fun row => (row.fromState, row.toState)) =
      [(.dispatching, .transportSubmitted), (.transportSubmitted, .inSession)] :=
  ⟨sampleOps_enters rfl, (@audit_replays_run sampleHost sampleOps [] (sampleOps_enters rfl)).1,
    by decide +kernel⟩

end Yatagarasu
