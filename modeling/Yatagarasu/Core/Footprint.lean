import Yatagarasu.Core.Reduction

/-! The facts a submission reads after its delivery, and the calls it can come to. -/

namespace Yatagarasu

open Program

namespace ReceiptReducer

/-- The tables agree on everything the validators ask for this receipt, its binding apart. -/
structure Agree (r : Receipt) (s u : Tables) : Prop where
  kind : (s.provider r.evidenceProviderId).map (·.kind) =
    (u.provider r.evidenceProviderId).map (·.kind)
  evidence : s.providerEvidence = u.providerEvidence
  principals : s.principalBindings = u.principalBindings
  messages : s.platformMessageBindings = u.platformMessageBindings
  methods : s.bindingProofMethods = u.bindingProofMethods
  entry : s.sessionEntryChain r.deliveryId = u.sessionEntryChain r.deliveryId
  seen : ∀ source, present r.sourceEventId = some source →
    s.sourceSeen r.evidenceProviderId source = u.sourceSeen r.evidenceProviderId source

def SameBinding (r : Receipt) (s u : Tables) : Prop :=
  r.evidenceClass ∈ sessionProofEvidence →
    s.sessionBinding r.bindingId = u.sessionBinding r.bindingId

/-- Harness evidence whose binding is registered and no longer active. -/
def BindingLost (r : Receipt) (s : Tables) : Prop :=
  r.evidenceClass ∈ sessionProofEvidence ∧
    ∃ row, s.sessionBinding r.bindingId = some row ∧ row.state ≠ .active

/-- The reducer will not accept any more. -/
def Inert (p : Reducer (Except PyError ReceiptResult)) : Prop :=
  p.Always (fun i => ∀ r d next disposition, i ≠ .acceptReceipt r d next disposition)
    fun res => ∀ state disposition, res ≠ .ok (.accepted state disposition)

section Tracks

variable {r : Receipt} {d : Delivery} {kind : ProviderKind}

theorem Agree.declares {s u : Tables} (h : Agree r s u) (evidence : EvidenceClass) :
    s.providerDeclares r.evidenceProviderId evidence =
      u.providerDeclares r.evidenceProviderId evidence := by
  simp only [Tables.providerDeclares, h.evidence]

theorem Agree.principalMatches {s u : Tables} (h : Agree r s u) (principal recipient : String) :
    s.principalMatches r.evidenceProviderId principal recipient =
      u.principalMatches r.evidenceProviderId principal recipient := by
  simp only [Tables.principalMatches, h.principals]

theorem Agree.messageBindingMatches {s u : Tables} (h : Agree r s u) (message : String)
    (d : Delivery) : s.messageBindingMatches r.evidenceProviderId message d =
      u.messageBindingMatches r.evidenceProviderId message d := by
  simp only [Tables.messageBindingMatches, h.messages]

theorem Agree.bindingProofMethod {s u : Tables} (h : Agree r s u) (proofMethod : String) :
    s.bindingProofMethod r.bindingId proofMethod =
      u.bindingProofMethod r.bindingId proofMethod := by
  simp only [Tables.bindingProofMethod, h.methods]

theorem validateMode_tracks (r : Receipt) (d : Delivery) (kind : ProviderKind) :
    (validateMode r d kind).Tracks (Agree r) (SameBinding r) (BindingLost r) fun _ => False := by
  unfold validateMode validateParticipant
  simp only [fetch_bind]
  split
  · split
    · exact trivial
    split
    · exact trivial
    split
    · exact trivial
    split
    · exact trivial
    split
    · exact trivial
    rename_i source hsource
    refine tracks_read (fun s u h => by simp only [h.seen source hsource]) fun s => ?_
    split
    · exact trivial
    split
    · exact trivial
    refine tracks_read (fun s u h => by simp only [h.principalMatches]) fun s => ?_
    split
    · exact trivial
    split
    · exact trivial
    refine tracks_read (fun s u h => by simp only [h.messageBindingMatches]) fun s => ?_
    split <;> exact trivial
  · split <;> exact trivial

theorem transition_tracks (r : Receipt) (d : Delivery) (kind : ProviderKind) :
    (transition r d kind).Tracks (Agree r) (SameBinding r) (BindingLost r) fun _ => False := by
  unfold transition ackTransition
  simp only [fetch_bind]
  split
  · split
    · exact trivial
    split
    · exact trivial
    split
    · split
      · exact trivial
      split
      · exact trivial
      refine tracks_read (fun s u h => by simp only [h.messageBindingMatches]) fun s => ?_
      split <;> exact trivial
    · split <;> exact trivial
  all_goals first | exact trivial | (split <;> exact trivial)

theorem validateClosing_tracks (hid : d.deliveryId = r.deliveryId) (events : List SourceEventRef) :
    (validateClosing r d events).Tracks (Agree r) (SameBinding r) (BindingLost r)
      fun _ => False := by
  unfold validateClosing
  refine tracks_bind ?_ (fun _ (h : False) => h.elim) fun closes => ?_
  · unfold closesAccepted
    split
    · refine tracks_read (fun s u h => ?_) fun s => trivial
      simp only [hid, h.entry]
    · exact trivial
  · simp only [fetch_bind]
    split
    · exact trivial
    split
    · exact trivial
    rename_i source hsource
    split
    · exact trivial
    refine tracks_read (fun s u h => by simp only [h.seen source hsource]) fun s => ?_
    split <;> exact trivial

/-- A program that has come to a reason. -/
def Refuses (p : Reducer (Except PyError (Option String))) : Prop :=
  ∃ reason, p = done (.ok (some reason))

theorem validateBinding_lost [Host] {proof : SessionProof} {row : SessionBindingRow}
    (h : row.state ≠ .active) : validateBinding r d proof row = some "binding_not_active" := by
  simp [validateBinding, h]

theorem validateSessionReceipt_tracks [Host] (authority : Option MarkerAuthority)
    (hid : d.deliveryId = r.deliveryId) (hc : r.evidenceClass ∈ sessionProofEvidence) :
    (validateSessionReceipt authority r d).Tracks (Agree r) (SameBinding r) (BindingLost r)
      Refuses := by
  unfold validateSessionReceipt
  simp only [fetch_bind]
  split
  · exact trivial
  · exact trivial
  split
  · exact trivial
  refine ⟨fun s u _ hs => ?_, fun s hl => Or.inl ?_, fun s => ?_⟩
  · simp only [hs hc]
  · obtain ⟨-, row, hrow, hstate⟩ := hl
    simp only [hrow, validateBinding_lost hstate]
    exact ⟨_, rfl⟩
  dsimp only
  split
  · exact trivial
  split
  · exact trivial
  refine tracks_read (fun s u h => by simp only [h.bindingProofMethod]) fun s => ?_
  split
  · exact trivial
  split
  · exact trivial
  · exact trivial
  · exact trivial
  · exact tracks_bind (validateClosing_tracks hid _) (fun _ (h : False) => h.elim)
      fun _ => trivial

theorem validateProof_tracks [Host] (authority : Option MarkerAuthority)
    (hid : d.deliveryId = r.deliveryId) :
    (validateProof authority r d).Tracks (Agree r) (SameBinding r) (BindingLost r) Refuses := by
  unfold validateProof
  split
  · rename_i hc
    exact validateSessionReceipt_tracks authority hid hc
  · exact trivial

theorem reject_inert (reason : String) (r : Receipt) : Inert (reject reason r) := by
  refine ⟨(by intro _ _ _ _ h; cases h), fun o => ?_⟩
  cases o with
  | error e => exact fun _ _ h => by cases h
  | ok u => exact fun _ _ h => by cases h

theorem submitEvidence_tracks [Host] (authority : Option MarkerAuthority)
    (hid : d.deliveryId = r.deliveryId) :
    (submitEvidence authority r d kind).Tracks (Agree r) (SameBinding r) (BindingLost r) Inert := by
  unfold submitEvidence
  refine tracks_bind (validateMode_tracks r d kind) (fun _ (h : False) => h.elim) fun mode => ?_
  split
  · exact trivial
  refine tracks_bind (transition_tracks r d kind) (fun _ (h : False) => h.elim) fun step => ?_
  split
  · exact trivial
  refine tracks_bind (validateProof_tracks authority hid) ?_ fun proof => ?_
  · rintro q ⟨reason, rfl⟩
    exact reject_inert reason r
  · split <;> exact trivial

theorem submitDelivery_tracks [Host] (authority : Option MarkerAuthority)
    (hid : d.deliveryId = r.deliveryId) :
    (submitDelivery authority r d).Tracks (Agree r) (SameBinding r) (BindingLost r) Inert := by
  unfold submitDelivery
  simp only [fetch_bind]
  split
  · exact trivial
  refine tracks_read (fun s u h => ?_) fun s => ?_
  · have hkind := h.kind
    cases hs : s.provider r.evidenceProviderId with
    | none =>
      rw [hs] at hkind
      rw [Option.map_eq_none_iff.mp hkind.symm]
    | some p =>
      rw [hs] at hkind
      obtain ⟨q, hq, hkind⟩ := Option.map_eq_some_iff.mp hkind.symm
      simp only [hq, hkind]
  split
  · exact trivial
  refine tracks_read (fun s u h => by simp only [h.declares]) fun s => ?_
  split
  · exact trivial
  · exact submitEvidence_tracks authority hid

end Tracks

section Calls

variable {r : Receipt} {d : Delivery}

/-- The reducer only reads until it commits this receipt on this delivery, or can no longer
accept. -/
def Heads (r : Receipt) (d : Delivery) : Reducer (Except PyError ReceiptResult) → Prop
  | .done a => Inert (done a)
  | .read next => ∀ s, Heads r d (next s)
  | .call i next => (∃ step, call i next = commitReceipt r d step) ∨ Inert (call i next)

theorem heads_bind {α : Type} {p : Reducer α} {f : α → Reducer (Except PyError ReceiptResult)}
    (hp : p.ReadOnly) (hf : ∀ a, Heads r d (f a)) : Heads r d (p >>= f) := by
  induction p with
  | done a => exact hf a
  | read next ih => exact fun s => ih s (hp s)
  | call i next => exact hp.1.elim

theorem heads_reject (reason : String) : Heads r d (reject reason r) :=
  Or.inr (reject_inert reason r)

theorem raise_inert (e : PyError) : Inert (done (.error e)) := fun _ _ h => by cases h

theorem submitEvidence_heads [Host] (authority : Option MarkerAuthority) (kind : ProviderKind) :
    Heads r d (submitEvidence authority r d kind) := by
  unfold submitEvidence
  refine heads_bind (validateMode_readOnly r d kind) fun mode => ?_
  split
  · exact heads_reject _
  refine heads_bind (transition_readOnly r d kind) fun step => ?_
  split
  · exact heads_reject _
  refine heads_bind (validateProof_readOnly authority r d) fun proof => ?_
  split
  · exact raise_inert _
  · exact heads_reject _
  · exact Or.inl ⟨_, rfl⟩

theorem submitDelivery_heads [Host] (authority : Option MarkerAuthority) :
    Heads r d (submitDelivery authority r d) := by
  unfold submitDelivery
  simp only [fetch_bind]
  split
  · exact heads_reject _
  intro s
  dsimp only
  split
  · exact heads_reject _
  intro s
  dsimp only
  split
  · exact heads_reject _
  · exact submitEvidence_heads authority _

theorem repeatedReceipt_inert (row : ReceiptRow) : Inert (repeatedReceipt r row) := by
  unfold repeatedReceipt
  simp only [fetch_bind, send_bind]
  split
  · exact raise_inert _
  · refine ⟨(by intro _ _ _ _ h; cases h), fun o => ?_⟩
    dsimp only
    split
    · exact raise_inert _
    · exact reject_inert _ r
  · intro s
    exact fun _ _ h => by cases h

/-- A stored receipt id never leads to an acceptance. -/
theorem repeated_inert {f : Except PyError (Option ReceiptResult) →
      Reducer (Except PyError ReceiptResult)} (hraise : ∀ e, f (.error e) = done (.error e))
    (hresult : ∀ res, f (.ok (some res)) = done (.ok res)) (row : ReceiptRow) :
    Inert ((repeatedReceipt r row >>= fun res => pure (res.map some)) >>= f) := by
  have hrow : (repeatedReceipt r row >>= fun res => pure (res.map some)).Always
      (fun i => ∀ r d next disposition, i ≠ .acceptReceipt r d next disposition)
      fun res => ∀ state disposition,
        res ≠ .ok (some (.accepted state disposition)) ∧ res ≠ .ok none := by
    refine always_bind (repeatedReceipt_inert row) fun res hres state disposition => ?_
    cases res with
    | error e => exact ⟨(by intro h; cases h), by intro h; cases h⟩
    | ok v =>
      refine ⟨fun h => ?_, by intro h; cases h⟩
      cases h
      exact hres state disposition rfl
  refine always_bind hrow fun res hres => ?_
  match res, hres with
  | .error e, _ =>
    rw [hraise]
    exact raise_inert e
  | .ok none, hres => exact absurd rfl (hres .queued none).2
  | .ok (some v), hres =>
    rw [hresult]
    intro state disposition h
    cases h
    exact (hres state disposition).1 rfl

theorem recover_inert : Inert (recoverIntegrityCollision r) := by
  have hs : (sourceReplayed r).ReadOnly := by
    unfold sourceReplayed
    split <;> simp
  unfold recoverIntegrityCollision existingReceiptResult
  rw [fetch_bind, read_bind]
  intro s
  dsimp only
  split
  · rw [pure_bind]
    refine always_bind (always_of_readOnly hs) fun seen _ => ?_
    simp only [fetch_bind]
    split
    · exact reject_inert _ r
    intro s
    dsimp only
    split
    · exact reject_inert _ r
    intro s
    dsimp only
    split <;> exact reject_inert _ r
  · exact repeated_inert (fun _ => rfl) (fun _ => rfl) _

/-- A commit that fails is not tried again. -/
theorem commitReceipt_cases (r : Receipt) (d : Delivery) (step : Transition) :
    ∃ next, commitReceipt r d step = call (.acceptReceipt r d step.1 step.2) next ∧
      next (.ok ()) = done (.ok (.accepted step.1 step.2)) ∧ ∀ e, Inert (next (.error e)) := by
  unfold commitReceipt
  rw [send_bind]
  refine ⟨_, rfl, rfl, fun e => ?_⟩
  split
  · rename_i h
    cases h
  · exact reject_inert _ r
  · exact recover_inert
  · exact raise_inert _

/-- The first read of a submission is whether its receipt id was used. -/
theorem submit_cases [Host] (authority : Option MarkerAuthority) (r : Receipt) :
    (∃ reason, submit authority r = reject reason r) ∨
    (∃ next, submit authority r = Program.read next ∧
      ¬ (r.proofMethod = "" ∨ r.observedAt = "") ∧ r.proof ≠ some .other ∧
      (∀ s, s.receiptRecord r.receiptId = none → next s = submitFresh authority r) ∧
      ∀ s row, s.receiptRecord r.receiptId = some row → Inert (next s)) := by
  unfold submit
  split
  · exact Or.inl ⟨_, rfl⟩
  rename_i haudited
  split
  · exact Or.inl ⟨_, rfl⟩
  rename_i hshaped
  unfold existingReceiptResult
  rw [fetch_bind, read_bind]
  refine Or.inr ⟨_, rfl, haudited, hshaped, fun s hs => ?_, fun s row hs => ?_⟩
  · simp only [hs]
    rfl
  · simp only [hs]
    exact repeated_inert (fun _ => rfl) (fun _ => rfl) row

end Calls

end ReceiptReducer

end Yatagarasu
