import Mathlib.Data.Fintype.Basic
import Yatagarasu.Core.Interleaving

/-! Any number of calls, each on a connection of its own. A schedule says whose turn it is: a
submission then makes one read of the committed tables or one call, and a dispatch or a revocation
is one step. -/

namespace Yatagarasu

open ReceiptReducer Program Sqlite

inductive Call
  | submit (authority : Option MarkerAuthority) (receipt : Receipt)
  | setDispatching (deliveryId : String)
  | revokeSessionBinding (bindingId : String)

def Call.op : Call → Op
  | submit authority receipt => .submit authority receipt
  | setDispatching deliveryId => .setDispatching deliveryId
  | revokeSessionBinding bindingId => .revokeSessionBinding bindingId

inductive Progress
  | waiting
  | finished
  | reducing (p : Reducer (Except PyError ReceiptResult))

def Progress.result : Progress → Option (Except PyError ReceiptResult)
  | reducing (done res) => some res
  | _ => none

/-- The call has returned or raised. -/
def Progress.Over : Progress → Prop
  | waiting => False
  | finished => True
  | reducing p => ∃ res, p = done res

theorem over_of_result {p : Progress} {res : Except PyError ReceiptResult}
    (h : p.result = some res) : p.Over := by
  cases p with
  | waiting => cases h
  | finished => exact trivial
  | reducing q =>
    cases q with
    | done res => exact ⟨res, rfl⟩
    | read _ => cases h
    | call _ _ => cases h

def Call.start [Host] : Call → Progress
  | submit authority receipt => .reducing (ReceiptReducer.submit authority receipt)
  | _ => .waiting

/-- The next step of one call, and the committed tables after it. -/
def Call.step : Call → Progress → Tables → Progress × Tables
  | _, .reducing (.read next), t => (.reducing (next t), t)
  | _, .reducing (.call i next), t =>
    (.reducing (next (serve i.method t).1), (serve i.method t).2)
  | setDispatching deliveryId, .waiting, t =>
    (.finished, (serve (CoreStore.setDispatching deliveryId) t).2)
  | revokeSessionBinding bindingId, .waiting, t =>
    (.finished, (serve (CoreStore.revokeSessionBinding bindingId) t).2)
  | _, progress, t => (progress, t)

structure System (n : Nat) where
  tables : Tables
  progress : Fin n → Progress

namespace System

variable {n : Nat}

theorem over_of_results {s : System n} (h : ∀ i, ∃ res, (s.progress i).result = some res) :
    ∀ i, (s.progress i).Over :=
  fun i => (h i).elim fun _ => over_of_result

def start [Host] (calls : Fin n → Call) (t : Tables) : System n := ⟨t, fun i => (calls i).start⟩

/-- The system after call `i` has come to `p`. -/
def move (s : System n) (i : Fin n) (p : Progress) (t : Tables) : System n :=
  { tables := t, progress := Function.update s.progress i p }

@[simp] theorem move_tables (s : System n) (i : Fin n) (p : Progress) (t : Tables) :
    (s.move i p t).tables = t := rfl

@[simp] theorem move_self (s : System n) (i : Fin n) (p : Progress) (t : Tables) :
    (s.move i p t).progress i = p := Function.update_self ..

@[simp] theorem move_other (s : System n) {i j : Fin n} (h : j ≠ i) (p : Progress) (t : Tables) :
    (s.move i p t).progress j = s.progress j := Function.update_of_ne h ..

theorem move_idle (s : System n) (i : Fin n) : s.move i (s.progress i) s.tables = s := by
  simp [move]

def step (calls : Fin n → Call) (s : System n) (i : Fin n) : System n :=
  s.move i ((calls i).step (s.progress i) s.tables).1 ((calls i).step (s.progress i) s.tables).2

/-- The system after the schedule. -/
def run [Host] (calls : Fin n → Call) (t : Tables) (schedule : List (Fin n)) : System n :=
  schedule.foldl (step calls) (start calls t)

end System

section Alone

variable {authority : Option MarkerAuthority} {t : Tables} {r : Receipt} {d : Delivery}
  {next : Transition} {bindingId : String} {proof : ProofFields} {c : CoreStore}

theorem quiet_exec {i : StoreCall} (hi : ∀ r d next disposition,
    i ≠ .acceptReceipt r d next disposition) (c : CoreStore) :
    view (i.method.exec c).2.working = view c.working := by
  cases i with
  | acceptReceipt r d next disposition => exact absurd rfl (hi r d next disposition)
  | recordRejection receipt reason => rfl
  | markProviderDegraded providerId => exact view_withDegraded c.working providerId

theorem inert_run {p : Reducer (Except PyError ReceiptResult)} (h : Inert p) (c : CoreStore) :
    view (runOn p c).2.working = view c.working := by
  induction p generalizing c with
  | done a => rfl
  | read next ih => exact ih c.working (h c.working) c
  | call i next ih => exact (ih _ (h.2 _) _).trans (quiet_exec h.1 c)

theorem submit_exec [Host] (authority : Option MarkerAuthority) (r : Receipt) (c : CoreStore) :
    Op.exec (.submit authority r) c = (runOn ((submit authority r).advance c.working) c).2 := by
  rw [runOn, run_advance]
  rfl

theorem submit_exec_accepted [Host] (h : Accepts authority c.working r d next bindingId proof) :
    (Op.exec (.submit authority r) c).working = accepted c.working r d next bindingId proof := by
  obtain ⟨next', hcall, hok, -⟩ := commitReceipt_cases r d next
  rw [submit_exec, h.commits, hcall]
  simp only [runOn, Program.run, acceptReceipt_ok h.fields h.allowed, hok]

/-- A submission that is not accepted leaves nothing that a submission reads. -/
theorem submit_exec_refused [Host] (hc : Clean c) (h : ¬ Accepting authority c.working r) :
    view (Op.exec (.submit authority r) c).working = view c.working := by
  rw [submit_exec]
  rcases verdict_cases (submit_verdict authority c.working r) with ⟨d, step, heq, -⟩ | hinert
  · obtain ⟨next, hcall, -, herror⟩ := commitReceipt_cases r d step
    rw [heq, hcall]
    obtain ⟨res, c₁, hexec⟩ : ∃ res c₁,
        (StoreCall.acceptReceipt r d step.1 step.2).method.exec c = (res, c₁) := ⟨_, _, rfl⟩
    obtain ⟨-, ⟨b, proof, hf, hcommit, -⟩ | ⟨e, rfl, hw⟩⟩ := acceptReceipt_exec hc hexec
    · exact absurd ⟨d, step, b, proof, heq, hf, hcommit⟩ h
    · simp only [runOn, Program.run, hexec]
      exact (inert_run (herror e) c₁).trans (congrArg view hw)
  · exact inert_run hinert c

theorem setDispatching_exec (hc : Clean c) (hk : Keyed c.working) (deliveryId : String) :
    Clean ((CoreStore.setDispatching deliveryId).exec c).2 ∧
      ((CoreStore.setDispatching deliveryId).exec c).2.working =
        (c.working.updateDelivery deliveryId .queued fun d =>
          { d with state := .dispatching }).1 := by
  obtain ⟨hc', ⟨-, -, hw⟩ | ⟨hn, -, hw⟩⟩ := guardedUpdate_cases hc (updateDelivery_idle hk)
    (rfl : (CoreStore.setDispatching deliveryId).exec c = _)
  · exact ⟨hc', hw⟩
  · exact ⟨hc', hw.trans (updateDelivery_idle hk hn).symm⟩

theorem revokeSessionBinding_exec (hc : Clean c) (hk : Keyed c.working) (bindingId : String) :
    Clean ((CoreStore.revokeSessionBinding bindingId).exec c).2 ∧
      ((CoreStore.revokeSessionBinding bindingId).exec c).2.working =
        { c.working with sessionBindings := revokedBy [bindingId] c.working.sessionBindings } := by
  rw [← revokeActive_eq]
  obtain ⟨hc', ⟨-, -, hw⟩ | ⟨hn, -, hw⟩⟩ := guardedUpdate_cases hc (revokeActive_idle hk)
    (rfl : (CoreStore.revokeSessionBinding bindingId).exec c = _)
  · exact ⟨hc', hw⟩
  · exact ⟨hc', hw.trans (revokeActive_idle hk hn).symm⟩

theorem serve_setDispatching (hk : Keyed t) (deliveryId : String) :
    (serve (CoreStore.setDispatching deliveryId) t).2 =
      (t.updateDelivery deliveryId .queued fun d => { d with state := .dispatching }).1 := by
  obtain ⟨hc, hw⟩ := setDispatching_exec (c := { committed := t, working := t }) rfl hk deliveryId
  exact hc.symm.trans hw

theorem serve_revokeSessionBinding (hk : Keyed t) (bindingId : String) :
    (serve (CoreStore.revokeSessionBinding bindingId) t).2 =
      { t with sessionBindings := revokedBy [bindingId] t.sessionBindings } := by
  obtain ⟨hc, hw⟩ :=
    revokeSessionBinding_exec (c := { committed := t, working := t }) rfl hk bindingId
  exact hc.symm.trans hw

end Alone

section Invariant

variable [Host] {n : Nat} {calls : Fin n → Call} {t₀ t' : Tables} {s : System n} {i : Fin n}
  {p : Progress}

/-- The calls one after the other, on one store. -/
def serially (calls : Fin n → Call) (order : List (Fin n)) (c : CoreStore) : CoreStore :=
  run (order.map fun i => (calls i).op) c

/-- The binding that the call revokes. -/
def Call.target : Call → List String
  | revokeSessionBinding bindingId => [bindingId]
  | _ => []

/-- The call took effect on deliveries or bindings. -/
def Progress.Landed (p : Progress) : Prop :=
  p = .finished ∨ ∃ state disposition, p.result = some (.ok (.accepted state disposition))

/-- Where a call stands among the tables. -/
def Stands (t₀ t : Tables) (p : Progress) : Call → Prop
  | .submit authority r => ∃ q, p = .reducing q ∧ Standing authority r t₀ t q
  | _ => p = .waiting ∨ p = .finished

/-- The calls that landed, in an order that replays them: first the commits and dispatches as they
came, then the revocations. -/
structure Replayed (calls : Fin n → Call) (t₀ : Tables) (s : System n)
    (base last : List (Fin n)) : Prop where
  nodup : (base ++ last).Nodup
  placed : ∀ i, i ∈ base ++ last ↔ (s.progress i).Landed
  replay : ∀ c, Sound c → view c.working = view t₀ →
    view (serially calls base c).working = view (unrevoked t₀ s.tables)
  revocations : ∀ i ∈ last, ∃ bindingId, calls i = .revokeSessionBinding bindingId
  revoked : s.tables.sessionBindings =
    revokedBy (last.flatMap fun i => (calls i).target) t₀.sessionBindings

/-- The rows of a submission that returned accepted. -/
def Owned (calls : Fin n → Call) (s : System n) (i : Fin n) (receipt : ReceiptRow)
    (audit : AuditRow) : Prop :=
  ∃ authority r d, ∃ next : Transition, ∃ bindingId proof, calls i = .submit authority r ∧
    (s.progress i).result = some (.ok (.accepted next.1 next.2)) ∧
    receipt = CoreStore.receiptRow r d bindingId next.2 proof ∧
    audit = CoreStore.auditRow r d next.1 next.2

/-- The rows written since `t₀`, each with the submission that it belongs to. -/
structure Ledger (calls : Fin n → Call) (t₀ : Tables) (s : System n)
    (entries : List (Fin n × ReceiptRow × AuditRow)) : Prop where
  receipts : s.tables.receipts = t₀.receipts ++ entries.map (·.2.1)
  auditLog : s.tables.auditLog = t₀.auditLog ++ entries.map (·.2.2)
  nodup : (entries.map (·.1)).Nodup
  owned : ∀ e ∈ entries, Owned calls s e.1 e.2.1 e.2.2
  complete : ∀ i state disposition,
    (s.progress i).result = some (.ok (.accepted state disposition)) → i ∈ entries.map (·.1)

structure Serializable (calls : Fin n → Call) (t₀ : Tables) (s : System n) : Prop where
  later : Later t₀ s.tables
  stands : ∀ i, Stands t₀ s.tables (s.progress i) (calls i)
  replayed : ∃ base last, Replayed calls t₀ s base last
  ledger : ∃ entries, Ledger calls t₀ s entries

theorem stands_later {t : Tables} {call : Call} (h : Stands t₀ t p call) (hl : Later t t') :
    Stands t₀ t' p call := by
  cases call with
  | submit authority r =>
    obtain ⟨q, hq, hs⟩ := h
    exact ⟨q, hq, hs.later hl⟩
  | setDispatching deliveryId => exact h
  | revokeSessionBinding bindingId => exact h

/-- One call steps, the others stand where they stood. -/
theorem stands_update (h : ∀ j, Stands t₀ s.tables (s.progress j) (calls j))
    (hl : Later s.tables t') (hi : Stands t₀ t' p (calls i)) (j : Fin n) :
    Stands t₀ t' ((s.move i p t').progress j) (calls j) := by
  by_cases hj : j = i
  · subst hj
    rwa [System.move_self]
  · rw [s.move_other hj]
    exact stands_later (h j) hl

omit [Host] in
theorem owned_update (hold : ¬ (s.progress i).Landed) {j : Fin n} {receipt : ReceiptRow}
    {audit : AuditRow} (h : Owned calls s j receipt audit) :
    Owned calls (s.move i p t') j receipt audit := by
  obtain ⟨authority, r, d, next, bindingId, proof, hcall, hresult, hrows⟩ := h
  have hj : j ≠ i := by
    rintro rfl
    exact hold (Or.inr ⟨_, _, hresult⟩)
  refine ⟨authority, r, d, next, bindingId, proof, hcall, ?_, hrows⟩
  rwa [s.move_other hj]

omit [Host] in
/-- A step without an acceptance, that leaves receipts and audit rows. -/
theorem ledger_quiet {entries : List (Fin n × ReceiptRow × AuditRow)}
    (h : Ledger calls t₀ s entries) (hr : t'.receipts = s.tables.receipts)
    (ha : t'.auditLog = s.tables.auditLog) (hold : ¬ (s.progress i).Landed)
    (hnew : ∀ state disposition, p.result ≠ some (.ok (.accepted state disposition))) :
    Ledger calls t₀ (s.move i p t') entries := by
  refine ⟨hr.trans h.receipts, ha.trans h.auditLog, h.nodup,
    fun e he => owned_update hold (h.owned e he), fun j state disposition hj => ?_⟩
  by_cases hji : j = i
  · subst hji
    rw [System.move_self] at hj
    exact absurd hj (hnew state disposition)
  · rw [s.move_other hji] at hj
    exact h.complete j state disposition hj

omit [Host] in
theorem landed_update (hold : ¬ (s.progress i).Landed) (j : Fin n) :
    ((s.move i p t').progress j).Landed ↔
      (s.progress j).Landed ∨ (j = i ∧ p.Landed) := by
  by_cases hji : j = i
  · subst hji
    simp [hold]
  · simp [hji]

omit [Host] in
theorem landed_reducing {q : Reducer (Except PyError ReceiptResult)} :
    (Progress.reducing q).Landed ↔
      ∃ state disposition, q = done (.ok (.accepted state disposition)) := by
  constructor
  · rintro (h | ⟨state, disposition, h⟩)
    · cases h
    · cases q with
      | done a => exact ⟨state, disposition, congrArg done (Option.some.inj h)⟩
      | read _ => cases h
      | call _ _ => cases h
  · rintro ⟨state, disposition, rfl⟩
    exact Or.inr ⟨state, disposition, rfl⟩

omit [Host] in
theorem waiting_not_landed : ¬ Progress.waiting.Landed := by
  rintro (h | ⟨_, _, h⟩) <;> cases h

/-- A step that leaves what submissions read, of a call that does not land. -/
theorem serializable_quiet (h : Serializable calls t₀ s) (hview : view t' = view s.tables)
    (hl : Later s.tables t') (hold : ¬ (s.progress i).Landed) (hnew : ¬ p.Landed)
    (hi : Stands t₀ t' p (calls i)) : Serializable calls t₀ (s.move i p t') := by
  obtain ⟨base, last, hr⟩ := h.replayed
  obtain ⟨entries, hledger⟩ := h.ledger
  refine ⟨h.later.trans hl, stands_update h.stands hl hi, ⟨base, last, ?_⟩, entries, ?_⟩
  · refine ⟨hr.nodup, fun j => ?_, fun c hc hv => ?_, hr.revocations,
      (congrArg (·.sessionBindings) hview).trans hr.revoked⟩
    · rw [hr.placed, landed_update hold]
      simp [hnew]
    · exact (hr.replay c hc hv).trans (congrArg (unrevoked t₀) hview).symm
  · exact ledger_quiet hledger (congrArg (·.receipts) hview) (congrArg (·.auditLog) hview) hold
      fun state disposition heq => hnew (Or.inr ⟨state, disposition, heq⟩)

/-- A landed call goes to the end of the commits and dispatches. -/
theorem replayed_base {base last : List (Fin n)} (h : Replayed calls t₀ s base last)
    (hold : ¬ (s.progress i).Landed) (hnew : p.Landed)
    (hb : t'.sessionBindings = s.tables.sessionBindings)
    (hstep : ∀ c, Sound c → view c.working = view (unrevoked t₀ s.tables) →
      view ((calls i).op.exec c).working = view (unrevoked t₀ t')) :
    Replayed calls t₀ (s.move i p t') (base ++ [i]) last := by
  have hfresh : i ∉ base ++ last := fun hmem => hold ((h.placed i).mp hmem)
  refine ⟨?_, fun j => ?_, fun c hc hv => ?_, h.revocations, hb.trans h.revoked⟩
  · have hperm : (base ++ [i] ++ last).Perm (i :: (base ++ last)) := by
      rw [List.append_assoc]
      exact List.perm_middle
    exact hperm.nodup_iff.mpr (List.nodup_cons.mpr ⟨hfresh, h.nodup⟩)
  · rw [landed_update hold, ← h.placed]
    simp only [List.mem_append, List.mem_singleton, hnew, and_true]
    tauto
  · unfold serially
    rw [List.map_append, run_append]
    exact hstep _ (sound_run _ hc) (h.replay c hc hv)

theorem serializable_accepted {authority : Option MarkerAuthority} {r : Receipt} {d : Delivery}
    {next : Transition} {bindingId : String} {proof : ProofFields} (h : Serializable calls t₀ s)
    (hcall : calls i = .submit authority r) (hold : ¬ (s.progress i).Landed)
    (ha : Accepts authority (unrevoked t₀ s.tables) r d next bindingId proof) :
    Serializable calls t₀ (s.move i (.reducing (done (.ok (.accepted next.1 next.2))))
      (accepted s.tables r d next bindingId proof)) := by
  obtain ⟨base, last, hr⟩ := h.replayed
  obtain ⟨entries, hledger⟩ := h.ledger
  obtain ⟨hd, -⟩ := (getDelivery_eq_some h.later.keyed.2).mp ha.acceptable.delivery
  obtain ⟨provider, -, hpermitted⟩ := ha.acceptable.permitted
  have hl : Later s.tables (accepted s.tables r d next bindingId proof) :=
    later_accepted h.later.keyed.2 hd (permitted_step hpermitted).rank_lt.2
  refine ⟨h.later.trans hl, stands_update h.stands hl ?_, ⟨base ++ [i], last, ?_⟩,
    entries ++ [(i, CoreStore.receiptRow r d bindingId next.2 proof,
      CoreStore.auditRow r d next.1 next.2)], ?_⟩
  · rw [hcall]
    exact ⟨_, rfl, .accepted _ _⟩
  · refine replayed_base hr hold (landed_reducing.mpr ⟨_, _, rfl⟩) rfl fun c hc hv => ?_
    rw [hcall]
    change view (Op.exec (.submit authority r) c).working = _
    rw [submit_exec_accepted (accepts_of_view hv.symm ha)]
    exact congrArg (fun t => accepted t r d next bindingId proof) hv
  · have hfresh : i ∉ entries.map (·.1) := by
      intro hmem
      obtain ⟨e, he, rfl⟩ := List.mem_map.mp hmem
      obtain ⟨_, _, _, _, _, _, -, hresult, -⟩ := hledger.owned e he
      exact hold (Or.inr ⟨_, _, hresult⟩)
    refine ⟨?_, ?_, ?_, fun e he => ?_, fun j state disposition hj => ?_⟩
    · simp [accepted, hledger.receipts]
    · simp [accepted, hledger.auditLog]
    · rw [List.map_append]
      refine hledger.nodup.append (List.nodup_singleton _) ?_
      intro j hj hk
      obtain rfl : j = i := List.mem_singleton.mp hk
      exact hfresh hj
    · rcases List.mem_append.mp he with he | he
      · exact owned_update hold (hledger.owned e he)
      · rw [List.mem_singleton.mp he]
        exact ⟨authority, r, d, next, bindingId, proof, hcall, by simp [Progress.result], rfl, rfl⟩
    · rw [List.map_append, List.mem_append]
      by_cases hji : j = i
      · exact Or.inr (by simp [hji])
      · rw [s.move_other hji] at hj
        exact Or.inl (hledger.complete j state disposition hj)

theorem serializable_dispatched {deliveryId : String} (h : Serializable calls t₀ s)
    (hcall : calls i = .setDispatching deliveryId) (hold : s.progress i = .waiting) :
    Serializable calls t₀ (s.move i .finished
      (s.tables.updateDelivery deliveryId .queued fun d => { d with state := .dispatching }).1) := by
  have hold : ¬ (s.progress i).Landed := by
    rw [hold]
    exact waiting_not_landed
  obtain ⟨base, last, hr⟩ := h.replayed
  obtain ⟨entries, hledger⟩ := h.ledger
  have hl := later_setDispatching h.later.keyed.2 deliveryId
  refine ⟨h.later.trans hl, stands_update h.stands hl ?_, ⟨base ++ [i], last, ?_⟩, entries, ?_⟩
  · rw [hcall]
    exact Or.inr rfl
  · refine replayed_base hr hold (Or.inl rfl) rfl fun c hc hv => ?_
    rw [hcall]
    have hw := (setDispatching_exec hc.clean hc.keyed deliveryId).2
    change view ((CoreStore.setDispatching deliveryId).exec c).2.working = _
    rw [hw]
    exact congrArg (fun t : Tables => (t.updateDelivery deliveryId .queued fun d =>
      { d with state := .dispatching }).1) hv
  · exact ledger_quiet hledger rfl rfl hold fun _ _ hw => by cases hw

theorem serializable_revoked {bindingId : String} (h : Serializable calls t₀ s)
    (hcall : calls i = .revokeSessionBinding bindingId) (hold : s.progress i = .waiting) :
    Serializable calls t₀ (s.move i .finished
      { s.tables with sessionBindings := revokedBy [bindingId] s.tables.sessionBindings }) := by
  have hold : ¬ (s.progress i).Landed := by
    rw [hold]
    exact waiting_not_landed
  obtain ⟨base, last, hr⟩ := h.replayed
  obtain ⟨entries, hledger⟩ := h.ledger
  have hl := later_revoked h.later.keyed.2 bindingId
  rw [revokeActive_eq] at hl
  refine ⟨h.later.trans hl, stands_update h.stands hl ?_, ⟨base, last ++ [i], ?_⟩, entries, ?_⟩
  · rw [hcall]
    exact Or.inr rfl
  · have hfresh : i ∉ base ++ last := fun hmem => hold ((hr.placed i).mp hmem)
    refine ⟨?_, fun j => ?_, hr.replay, fun j hj => ?_, ?_⟩
    · have hperm : (base ++ (last ++ [i])).Perm (i :: (base ++ last)) := by
        rw [← List.append_assoc]
        exact List.perm_append_singleton i (base ++ last)
      exact hperm.nodup_iff.mpr (List.nodup_cons.mpr ⟨hfresh, hr.nodup⟩)
    · have hland : (Progress.finished).Landed := Or.inl rfl
      rw [landed_update hold, ← hr.placed]
      simp only [List.mem_append, List.mem_singleton, hland, and_true]
      tauto
    · rcases List.mem_append.mp hj with hj | hj
      · exact hr.revocations j hj
      · exact ⟨bindingId, List.mem_singleton.mp hj ▸ hcall⟩
    · rw [List.flatMap_append, List.flatMap_singleton, hcall, Call.target, ← revokedBy_revokedBy,
        ← hr.revoked]
      rfl
  · exact ledger_quiet hledger rfl rfl hold fun _ _ hw => by cases hw

/-- Whoever's turn it is, the system stays serializable. -/
theorem serializable_step (h : Serializable calls t₀ s) (i : Fin n) :
    Serializable calls t₀ (s.step calls i) := by
  have hi := h.stands i
  unfold System.step
  cases hcall : calls i with
  | submit authority r =>
    rw [hcall] at hi
    obtain ⟨q, hq, hstanding⟩ := hi
    rw [hq]
    cases q with
    | done res =>
      change Serializable calls t₀ (s.move i (.reducing (done res)) s.tables)
      rwa [← hq, s.move_idle]
    | read next =>
      obtain ⟨hnext, hres⟩ := hstanding.read h.later
      refine serializable_quiet h rfl (later_refl h.later.keyed.2) ?_ ?_ ?_
      · rw [hq, landed_reducing]
        rintro ⟨_, _, hw⟩
        cases hw
      · simp only [Call.step, landed_reducing]
        rintro ⟨state, disposition, hw⟩
        exact hres state disposition hw
      · rw [hcall]
        exact ⟨_, rfl, hnext⟩
    | call request next =>
      have hold : ¬ (s.progress i).Landed := by
        rw [hq, landed_reducing]
        rintro ⟨_, _, hw⟩
        cases hw
      simp only [Call.step]
      rcases hstanding.call h.later with ⟨hview, hl, hinert, hrefusable⟩ |
        ⟨d, step, bindingId, proof, haccepts, htables, hdone⟩
      · refine serializable_quiet h hview hl hold ?_ ?_
        · rw [landed_reducing]
          rintro ⟨state, disposition, hw⟩
          rw [hw] at hinert
          exact hinert state disposition rfl
        · rw [hcall]
          exact ⟨_, rfl, .refused hinert hrefusable⟩
      · rw [htables, hdone]
        exact serializable_accepted h hcall hold haccepts
  | setDispatching deliveryId =>
    rw [hcall] at hi
    rcases hi with hp | hp
    · simp only [hp, Call.step, serve_setDispatching h.later.keyed.2]
      exact serializable_dispatched h hcall hp
    · simp only [hp, Call.step]
      rwa [← hp, s.move_idle]
  | revokeSessionBinding bindingId =>
    rw [hcall] at hi
    rcases hi with hp | hp
    · simp only [hp, Call.step, serve_revokeSessionBinding h.later.keyed.2]
      exact serializable_revoked h hcall hp
    · simp only [hp, Call.step]
      rwa [← hp, s.move_idle]

end Invariant

section Schedules

variable [Host] {n : Nat} {calls : Fin n → Call} {t t₀ : Tables} {s : System n} {c : CoreStore}

theorem serializable_start (calls : Fin n → Call) (hk : Keyed t₀) :
    Serializable calls t₀ (System.start calls t₀) := by
  have hidle : ∀ i, ¬ ((System.start calls t₀).progress i).Landed := by
    intro i
    simp only [System.start]
    cases calls i with
    | submit authority r =>
      rw [Call.start, landed_reducing]
      rintro ⟨state, disposition, h⟩
      rcases submit_cases authority r with ⟨reason, heq⟩ | ⟨next, heq, -⟩
      · cases heq.symm.trans h
      · cases heq.symm.trans h
    | setDispatching deliveryId => exact waiting_not_landed
    | revokeSessionBinding bindingId => exact waiting_not_landed
  refine ⟨later_refl hk, fun i => ?_, ⟨[], [], ?_⟩, [], ?_⟩
  · simp only [System.start]
    cases calls i with
    | submit authority r => exact ⟨_, rfl, standing_submit authority r t₀ t₀⟩
    | setDispatching deliveryId => exact Or.inl rfl
    | revokeSessionBinding bindingId => exact Or.inl rfl
  · exact ⟨List.nodup_nil, fun i => by simp [hidle i], fun c _ hv => hv, by simp,
      (revokedBy_nil _).symm⟩
  · exact ⟨by simp [System.start], by simp [System.start], List.nodup_nil, by simp,
      fun i state disposition h => absurd (Or.inr ⟨state, disposition, h⟩) (hidle i)⟩

theorem serializable_run (calls : Fin n → Call) (hk : Keyed t₀) (schedule : List (Fin n)) :
    Serializable calls t₀ (System.run calls t₀ schedule) := by
  induction schedule using List.reverseRecOn with
  | nil => exact serializable_start calls hk
  | append_singleton schedule i ih =>
    rw [System.run, List.foldl_append]
    exact serializable_step ih i

/-- Submissions that are refused on these tables, one after the other. -/
theorem serially_refused {order : List (Fin n)}
    (h : ∀ i ∈ order, ∃ authority r, calls i = .submit authority r ∧ ¬ Accepting authority t r)
    (hc : Sound c) (hv : view c.working = view t) :
    view (serially calls order c).working = view t := by
  induction order generalizing c with
  | nil => exact hv
  | cons i order ih =>
    obtain ⟨authority, r, hcall, hrefused⟩ := h i (List.mem_cons_self ..)
    refine ih (fun j hj => h j (List.mem_cons_of_mem _ hj)) (exec_sound _ hc).1 ?_
    simp only [hcall, Call.op]
    refine (submit_exec_refused hc.clean fun haccepting => hrefused ?_).trans hv
    exact accepting_of_view hv haccepting

theorem serially_revoked {order : List (Fin n)}
    (h : ∀ i ∈ order, ∃ bindingId, calls i = .revokeSessionBinding bindingId) (hc : Sound c) :
    (serially calls order c).working = { c.working with
      sessionBindings := revokedBy (order.flatMap fun i => (calls i).target)
        c.working.sessionBindings } := by
  induction order generalizing c with
  | nil => simp [serially, revokedBy_nil]
  | cons i order ih =>
    obtain ⟨bindingId, hcall⟩ := h i (List.mem_cons_self ..)
    have hexec := (revokeSessionBinding_exec hc.clean hc.keyed bindingId).2
    have htail := ih (fun j hj => h j (List.mem_cons_of_mem _ hj))
      (exec_sound (.revokeSessionBinding bindingId) hc).1
    simp only [serially, List.map_cons, run_cons, hcall, Call.op] at htail ⊢
    rw [htail]
    simp only [Op.exec, hexec, List.flatMap_cons, hcall, Call.target]
    rw [← revokedBy_revokedBy]

/-- The landed calls, replayed on a store that looks like the start. -/
theorem Replayed.view_tables {base last : List (Fin n)} (h : Replayed calls t₀ s base last)
    (hc : Sound c) (hv : view c.working = view t₀) :
    view (serially calls (base ++ last) c).working = view s.tables := by
  have hbase := h.replay c hc hv
  unfold serially
  rw [List.map_append, run_append]
  change view (serially calls last _).working = _
  rw [serially_revoked h.revocations (sound_run _ hc)]
  have hb : (run (base.map fun i => (calls i).op) c).working.sessionBindings =
      t₀.sessionBindings := congrArg (·.sessionBindings) hbase
  rw [hb, ← h.revoked]
  exact congrArg (fun t : Tables => { t with sessionBindings := s.tables.sessionBindings }) hbase

/-- When every call is over, some order of them leaves what the schedule left. -/
theorem exists_serial_order (h : Serializable calls t₀ s) (hover : ∀ i, (s.progress i).Over)
    (hc : Sound c) (hv : c.working = t₀) :
    ∃ order : List (Fin n), order.Perm (List.finRange n) ∧
      view (serially calls order c).working = view s.tables := by
  classical
  obtain ⟨base, last, hr⟩ := h.replayed
  -- a submission that did not land goes first if it is refused there, and last otherwise
  let refusedAtStart : Fin n → Prop := fun i =>
    ∀ authority r, calls i = .submit authority r → ¬ Accepting authority t₀ r
  let refused := (List.finRange n).filter (· ∉ base ++ last)
  have hrefused : ∀ i ∈ refused, ∃ authority r, calls i = .submit authority r ∧
      Refusable authority r t₀ s.tables := by
    intro i hi
    have hland : ¬ (s.progress i).Landed := by
      rw [← hr.placed]
      simpa using (List.mem_filter.mp hi).2
    have hstands := h.stands i
    have hfinal := hover i
    cases hcall : calls i with
    | submit authority r =>
      rw [hcall] at hstands
      obtain ⟨q, hq, hstanding⟩ := hstands
      rw [hq] at hfinal hland
      obtain ⟨res, rfl⟩ := hfinal
      refine ⟨authority, r, rfl, hstanding.done h.later fun state disposition heq => ?_⟩
      exact hland (landed_reducing.mpr ⟨state, disposition, congrArg done heq⟩)
    | setDispatching deliveryId =>
      rw [hcall] at hstands
      rcases hstands with hp | hp
      · rw [hp] at hfinal
        exact hfinal.elim
      · exact absurd (Or.inl hp) hland
    | revokeSessionBinding bindingId =>
      rw [hcall] at hstands
      rcases hstands with hp | hp
      · rw [hp] at hfinal
        exact hfinal.elim
      · exact absurd (Or.inl hp) hland
  refine ⟨refused.filter refusedAtStart ++ (base ++ last) ++
    refused.filter (¬ refusedAtStart ·), ?_, ?_⟩
  · have hlanded : ((List.finRange n).filter (· ∈ base ++ last)).Perm (base ++ last) := by
      refine (List.perm_ext_iff_of_nodup ((List.nodup_finRange n).filter _) hr.nodup).mpr fun i => ?_
      simp
    have hsplit : (refused.filter refusedAtStart ++ refused.filter (¬ refusedAtStart ·)).Perm
        refused := by simpa using List.filter_append_perm (fun i => decide (refusedAtStart i)) refused
    have hall : ((List.finRange n).filter (· ∈ base ++ last) ++ refused).Perm (List.finRange n) := by
      simpa [refused] using
        List.filter_append_perm (fun i => decide (i ∈ base ++ last)) (List.finRange n)
    refine List.Perm.trans ?_ hall
    refine List.Perm.trans ?_ (hlanded.symm.append hsplit)
    rw [← List.append_assoc (base ++ last)]
    exact List.Perm.append_right _ List.perm_append_comm
  · have hfirst : view (serially calls (refused.filter refusedAtStart) c).working = view t₀ := by
      refine serially_refused (fun i hi => ?_) hc (congrArg view hv)
      obtain ⟨hi, hstart⟩ := List.mem_filter.mp hi
      obtain ⟨authority, r, hcall, -⟩ := hrefused i hi
      exact ⟨authority, r, hcall, of_decide_eq_true hstart authority r hcall⟩
    have hsound : Sound (serially calls (refused.filter refusedAtStart) c) := sound_run _ hc
    have hmiddle := hr.view_tables hsound hfirst
    unfold serially at hmiddle ⊢
    rw [List.map_append, List.map_append, run_append, run_append]
    refine serially_refused (fun i hi => ?_) (sound_run _ (sound_run _ hc)) hmiddle
    obtain ⟨hi, hstart⟩ := List.mem_filter.mp hi
    obtain ⟨authority, r, hcall, hrefusable⟩ := hrefused i hi
    refine ⟨authority, r, hcall, hrefusable s.tables (later_refl h.later.keyed.2) ?_⟩
    by_contra haccepting
    refine of_decide_eq_true hstart fun authority' r' hcall' => ?_
    cases hcall.symm.trans hcall'
    exact haccepting

/-- No receipt id and no source event of a provider was accepted twice. -/
structure AcceptedOnce (t : Tables) : Prop where
  receiptIds : (t.receipts.map (·.receiptId)).Nodup
  sources : (t.receipts.filterMap fun row => row.sourceEventId.map (row.providerId, ·)).Nodup

omit [Host] in
theorem acceptedOnce_accepted {r : Receipt} {d : Delivery} {next : Transition} {bindingId : String}
    {proof : ProofFields} (h : AcceptedOnce t) (hcommit : Commits t r d bindingId) :
    AcceptedOnce (accepted t r d next bindingId proof) := by
  refine ⟨?_, ?_⟩
  · simp only [accepted, List.map_append]
    refine h.receiptIds.append (List.nodup_singleton _) ?_
    intro id hold hnew
    obtain ⟨row, hrow, rfl⟩ := List.mem_map.mp hold
    exact hcommit.receiptId row hrow (List.mem_singleton.mp hnew)
  · simp only [accepted, List.filterMap_append]
    refine h.sources.append ?_ ?_
    · cases hsource : r.sourceEventId <;> simp [CoreStore.receiptRow, hsource]
    · intro pair hold hnew
      obtain ⟨row, hrow, hpair⟩ := List.mem_filterMap.mp hold
      obtain ⟨source, hsource, rfl⟩ := Option.map_eq_some_iff.mp hpair
      have hnew : r.sourceEventId = some source ∧ r.evidenceProviderId = row.providerId := by
        simpa [CoreStore.receiptRow] using hnew
      exact hcommit.sourceEventId row hrow hnew.2.symm (by simp [hsource])
        (hsource.trans hnew.1.symm)

theorem acceptedOnce_run (ops : List Op) : AcceptedOnce (run ops CoreStore.empty).working := by
  refine run_induction (P := fun _ => True) (I := fun _ t => AcceptedOnce t) (fun _ _ _ => trivial)
    ⟨List.nodup_nil, List.nodup_nil⟩ (fun hk _ hchange hI => ?_) fun op _ => by cases op <;> trivial
  cases hchange with
  | grows h => exact ⟨h.receipts ▸ hI.receiptIds, h.receipts ▸ hI.sources⟩
  | dispatched => exact ⟨hI.receiptIds, hI.sources⟩
  | accepted _ _ hcommit => exact acceptedOnce_accepted hI hcommit

theorem auditReplays_serially (calls : Fin n → Call) (order : List (Fin n)) (hc : Sound c)
    (h : AuditReplays c.working) : AuditReplays (serially calls order c).working := by
  induction order generalizing c with
  | nil => exact h
  | cons i order ih =>
    have henters : (calls i).op.Enters (·.state = .queued) := by cases calls i <;> trivial
    obtain ⟨hclean, hchange⟩ := exec_change (fun _ hq _ => hq) henters hc.clean hc.keyed
    exact ih ⟨hclean, change_keyed hchange hc.keyed⟩
      (replays_change (fun _ hq => hq) hchange hc.keyed h)

omit [Host] in
theorem auditReplays_of_view (hv : view t = view t₀) (h : AuditReplays t₀) : AuditReplays t := by
  have hd : t.deliveries = t₀.deliveries := congrArg (·.deliveries) hv
  have hr : t.receipts = t₀.receipts := congrArg (·.receipts) hv
  have ha : t.auditLog = t₀.auditLog := congrArg (·.auditLog) hv
  have haudit : ∀ id, t.auditFor id = t₀.auditFor id := fun id => by simp [Tables.auditFor, ha]
  refine ⟨fun d hd' => ?_, by rw [ha, hr]; exact h.paired, by rw [hr]; exact h.receiptIds,
    fun row hrow => ?_⟩
  · rw [haudit]
    exact h.replays d (hd ▸ hd')
  · rw [hd]
    exact h.known row (ha ▸ hrow)

/-- Reducers on one database, under every schedule. -/
theorem concurrent_reducers (ops : List Op) (calls : Fin n → Call) (schedule : List (Fin n))
    (hs : s = System.run calls (run ops CoreStore.empty).working schedule) :
    (∃ entries, Ledger calls (run ops CoreStore.empty).working s entries) ∧
    AcceptedOnce s.tables ∧
    (AuditReplays (run ops CoreStore.empty).working → AuditReplays s.tables) ∧
    ((∀ i, (s.progress i).Over) → ∃ order : List (Fin n), order.Perm (List.finRange n) ∧
      (serially calls order (run ops CoreStore.empty)).working.deliveries = s.tables.deliveries ∧
      (serially calls order (run ops CoreStore.empty)).working.receipts = s.tables.receipts ∧
      (serially calls order (run ops CoreStore.empty)).working.auditLog = s.tables.auditLog) := by
  have hsound := sound_run ops sound_empty
  have h : Serializable calls _ s := hs ▸ serializable_run calls hsound.keyed schedule
  obtain ⟨base, last, hr⟩ := h.replayed
  have hview := hr.view_tables hsound rfl
  have hreceipts : _ = s.tables.receipts := congrArg (·.receipts) hview
  refine ⟨h.ledger, ?_, fun haudit => ?_, fun hover => ?_⟩
  · have honce := acceptedOnce_run (ops ++ (base ++ last).map fun i => (calls i).op)
    rw [run_append] at honce
    exact ⟨hreceipts ▸ honce.receiptIds, hreceipts ▸ honce.sources⟩
  · exact auditReplays_of_view hview.symm (auditReplays_serially calls _ hsound haudit)
  · obtain ⟨order, hperm, hserial⟩ := exists_serial_order h hover hsound rfl
    exact ⟨order, hperm, congrArg (·.deliveries) hserial, congrArg (·.receipts) hserial,
      congrArg (·.auditLog) hserial⟩

end Schedules

/-- Two reducers that submit the same acknowledgement step by step: one is accepted, the other
collides with it and finds the duplicate. -/
theorem concurrent_reducers_sample :
    let calls : Fin 2 → Call := fun _ => .submit none sampleAck
    let schedule : List (Fin 2) := [0, 1, 0, 1, 0, 1, 0, 1, 0, 1, 1, 1]
    let s := @System.run 2 sampleHost calls (@run sampleHost sampleSetup CoreStore.empty).working
      schedule
    (s.progress 0).result = some (.ok (.accepted .transportSubmitted none)) ∧
    (s.progress 1).result =
      some (.ok (.duplicate (some .transportSubmitted) none)) ∧
    AuditReplays s.tables ∧
    ∃ order : List (Fin 2), order.Perm (List.finRange 2) ∧
      (@serially sampleHost 2 calls order
        (@run sampleHost sampleSetup CoreStore.empty)).working.receipts = s.tables.receipts := by
  intro calls schedule s
  have h₀ : (s.progress 0).result = some (.ok (.accepted .transportSubmitted none)) := by
    decide +kernel
  have h₁ : (s.progress 1).result = some (.ok (.duplicate (some .transportSubmitted) none)) := by
    decide +kernel
  obtain ⟨-, -, haudit, hserial⟩ :=
    @concurrent_reducers sampleHost 2 s sampleSetup calls schedule rfl
  have hops : ∀ op ∈ sampleSetup, op.Enters (·.state = .queued) := fun op hop =>
    sampleOps_enters (P := (·.state = .queued)) rfl op (List.mem_append_left _ hop)
  have hover : ∀ i, (s.progress i).Over :=
    System.over_of_results (Fin.forall_fin_two.mpr ⟨⟨_, h₀⟩, ⟨_, h₁⟩⟩)
  obtain ⟨order, hperm, -, hreceipts, -⟩ := hserial hover
  exact ⟨h₀, h₁, haudit (@auditReplays_run sampleHost sampleSetup hops), order, hperm, hreceipts⟩

end Yatagarasu
