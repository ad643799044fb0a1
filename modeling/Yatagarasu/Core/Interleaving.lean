import Yatagarasu.Core.Later

/-! A submission reads committed tables that may differ from read to read. `Standing` is what holds
of it whatever the others commit: when its transaction commits, it would have been accepted alone on
the same tables with no binding revoked; when it is refused, it would have been refused alone at the
start, or after everything that is still to come. -/

namespace Yatagarasu

open ReceiptReducer Program Sqlite

/-- Alone on `t`, the submission commits. -/
structure Accepts [Host] (authority : Option MarkerAuthority) (t : Tables) (r : Receipt)
    (d : Delivery) (next : Transition) (bindingId : String) (proof : ProofFields) : Prop where
  commits : (submit authority r).advance t = commitReceipt r d next
  fields : proofStorageFields r.proof = .ok proof
  allowed : Commits t r d bindingId

def Accepting [Host] (authority : Option MarkerAuthority) (t : Tables) (r : Receipt) : Prop :=
  ∃ d next bindingId proof, Accepts authority t r d next bindingId proof

/-- The tables without what only observers read. -/
def view (t : Tables) : Tables :=
  { t with
    receiptRejections := []
    providers := t.providers.map fun row => { row with health := .healthy } }

/-- The tables with the bindings as they were at `t₀`. -/
def unrevoked (t₀ t : Tables) : Tables := { t with sessionBindings := t₀.sessionBindings }

section Alone

variable {authority : Option MarkerAuthority} {t u : Tables} {r : Receipt} {d d' : Delivery}
  {next next' : Transition} {bindingId : String} {proof : ProofFields} {c : CoreStore}

theorem commitReceipt_inj (h : commitReceipt r d next = commitReceipt r d' next') :
    d = d' ∧ next = next' := by
  unfold commitReceipt at h
  rw [send_bind, send_bind] at h
  injection h with hcall
  injection hcall with _ hd hstate hdisposition
  exact ⟨hd, Prod.ext hstate hdisposition⟩

theorem not_inert_commitReceipt : ¬ Inert (commitReceipt r d next) := fun h => h.1 r d _ _ rfl

theorem duplicate_inert (state : Option DeliveryState) (disposition : Option Disposition) :
    Inert (done (.ok (.duplicate state disposition))) := fun _ _ h => by cases h

/-- A submission comes to its commit, with everything checked, or to nothing. -/
theorem verdict_cases [Host] {p : Reducer (Except PyError ReceiptResult)}
    (h : Verdict authority t r p) :
    (∃ d next, p = commitReceipt r d next ∧ Acceptable authority t r d next) ∨ Inert p := by
  cases h with
  | commit ha => exact Or.inl ⟨_, _, rfl, ha⟩
  | reject reason => exact Or.inr (reject_inert reason r)
  | raise e => exact Or.inr (raise_inert e)
  | duplicate => exact Or.inr (duplicate_inert _ _)
  | contradiction _ _ hp =>
    subst hp
    refine Or.inr ⟨(by intro _ _ _ _ h; cases h), fun o => ?_⟩
    cases o with
    | error e => exact raise_inert e
    | ok _ => exact reject_inert _ r

theorem Accepts.acceptable [Host] (h : Accepts authority t r d next bindingId proof) :
    Acceptable authority t r d next := by
  have hv := submit_verdict authority t r
  rw [h.commits] at hv
  rcases verdict_cases hv with ⟨d', next', heq, ha⟩ | hinert
  · obtain ⟨rfl, rfl⟩ := commitReceipt_inj heq
    exact ha
  · exact absurd hinert not_inert_commitReceipt

theorem submit_advance_delivery [Host] (haudited : ¬ (r.proofMethod = "" ∨ r.observedAt = ""))
    (hshaped : r.proof ≠ some .other) (hunused : t.receiptRecord r.receiptId = none)
    (hd : t.getDelivery r.deliveryId = some d) :
    (submit authority r).advance t = (submitDelivery authority r d).advance t := by
  have hv : (existingReceiptResult r).value t = some (.ok none) := by
    simp [existingReceiptResult, hunused]
  unfold submit
  rw [if_neg haudited, if_neg hshaped, advance_bind_of_value hv]
  simp only [submitFresh, fetch_bind, advance_read, hd]

/-- The state that the evidence class moves a delivery from. -/
def requiredState : EvidenceClass → DeliveryState
  | .transportSubmitAck => .dispatching
  | .harnessTurnCompleted => .inSession
  | _ => .transportSubmitted

theorem ReceiptReducer.Permitted.state {kind : ProviderKind} (h : Permitted t r d kind next) :
    d.state = requiredState r.evidenceClass := by
  cases h with
  | ackSession hc _ hs _ => rw [hs, hc]; rfl
  | ackChannel _ hc _ hs _ _ _ => rw [hs, hc]; rfl
  | entry hc _ hs _ => rcases hc with hc | hc <;> rw [hs, hc] <;> rfl
  | completed hc _ hs _ => rw [hs, hc]; rfl
  | reply hc hp _ => rw [hp.state, hc]; rfl
  | reaction hc hp _ => rw [hp.state, hc]; rfl

theorem ReceiptReducer.Commits.unclaimed (h : Commits t r d bindingId) : Unclaimed r t := by
  refine ⟨List.find?_eq_none.mpr fun row hrow => by simpa using h.receiptId row hrow, ?_⟩
  intro source hsource
  rw [Tables.sourceSeen, List.any_eq_false]
  intro row hrow hsame
  have hsame : row.providerId = r.evidenceProviderId ∧ row.sourceEventId = some source := by
    simpa using hsame
  refine h.sourceEventId row hrow hsame.1 (by simp [hsame.2]) ?_
  rw [hsame.2, present_eq_some hsource]

/-! The view is all that decides whether a submission commits. -/

theorem agree_view (r : Receipt) (t : Tables) : Agree r t (view t) where
  kind := by
    unfold Tables.provider view
    rw [List.find?_map, Option.map_map]
    rfl
  evidence := rfl
  principals := rfl
  messages := rfl
  methods := rfl
  entry := rfl
  seen _ _ := rfl

theorem commits_view : Commits (view t) r d bindingId ↔ Commits t r d bindingId := by
  have hprovider : (∃ row ∈ (view t).providers, row.providerId = r.evidenceProviderId) ↔
      ∃ row ∈ t.providers, row.providerId = r.evidenceProviderId := by simp [view]
  constructor
  · intro h
    exact ⟨h.bound, h.receiptId, h.sourceEventId, hprovider.mp h.provider, h.guard, h.auditId⟩
  · intro h
    exact ⟨h.bound, h.receiptId, h.sourceEventId, hprovider.mpr h.provider, h.guard, h.auditId⟩

theorem accepts_of_view [Host] (hv : view t = view u)
    (h : Accepts authority t r d next bindingId proof) :
    Accepts authority u r d next bindingId proof := by
  have ha := h.acceptable
  have hrecord : u.receiptRecord r.receiptId = none :=
    (congrArg (·.receiptRecord r.receiptId) hv.symm).trans ha.unused
  have hdelivery : u.getDelivery r.deliveryId = some d :=
    (congrArg (·.getDelivery r.deliveryId) hv.symm).trans ha.delivery
  have hid : d.deliveryId = r.deliveryId := by simpa using List.find?_some ha.delivery
  have htracks := submitDelivery_tracks authority hid
  refine ⟨?_, h.fields, commits_view.mp (hv ▸ commits_view.mpr h.allowed)⟩
  calc (submit authority r).advance u
    _ = (submitDelivery authority r d).advance u :=
      submit_advance_delivery ha.audited ha.shaped hrecord hdelivery
    _ = (submitDelivery authority r d).advance (view t) := by
      rw [hv]
      exact advance_congr htracks (agree_view r u) fun _ => rfl
    _ = (submitDelivery authority r d).advance t :=
      (advance_congr htracks (agree_view r t) fun _ => rfl).symm
    _ = (submit authority r).advance t :=
      (submit_advance_delivery ha.audited ha.shaped ha.unused ha.delivery).symm
    _ = commitReceipt r d next := h.commits

theorem accepting_of_view [Host] (hv : view t = view u) (h : Accepting authority t r) :
    Accepting authority u r := by
  obtain ⟨d, next, bindingId, proof, h⟩ := h
  exact ⟨d, next, bindingId, proof, accepts_of_view hv h⟩

/-- What other connections see after the method ran on a connection of its own. -/
def serve {α : Type} (x : Method α) (t : Tables) : Except PyError α × Tables :=
  let result := x.exec { committed := t, working := t }
  (result.1, result.2.committed)

theorem acceptReceipt_ok (hf : proofStorageFields r.proof = .ok proof)
    (h : Commits c.working r d bindingId) :
    (StoreCall.acceptReceipt r d next.1 next.2).method.exec c =
      (.ok (), { committed := accepted c.working r d next bindingId proof
                 working := accepted c.working r d next bindingId proof }) := by
  have hblock : (CoreStore.acceptBlock r d next.1 next.2 proof).run c.working =
      .ok ((), accepted c.working r d next bindingId proof) := acceptBlock_ok.mpr ⟨_, h, rfl⟩
  simp only [StoreCall.method, hf, Action.exec, withConnection, ExceptT.run, StateT.run]
  rw [show CoreStore.acceptBlock r d next.1 next.2 proof c.working = _ from hblock]

/-- The transaction is in, or nothing is. -/
theorem serve_acceptReceipt (t : Tables) (r : Receipt) (d : Delivery) (next : Transition) :
    (∃ bindingId proof, proofStorageFields r.proof = .ok proof ∧ Commits t r d bindingId ∧
      serve (StoreCall.acceptReceipt r d next.1 next.2).method t =
        (.ok (), accepted t r d next bindingId proof)) ∨
    ((∀ bindingId proof, proofStorageFields r.proof = .ok proof → ¬ Commits t r d bindingId) ∧
      ∃ e, serve (StoreCall.acceptReceipt r d next.1 next.2).method t = (.error e, t)) := by
  by_cases h : ∃ bindingId proof, proofStorageFields r.proof = .ok proof ∧ Commits t r d bindingId
  · obtain ⟨bindingId, proof, hf, hcommit⟩ := h
    refine Or.inl ⟨bindingId, proof, hf, hcommit, ?_⟩
    simp only [serve, acceptReceipt_ok (c := { committed := t, working := t }) hf hcommit]
  · refine Or.inr ⟨fun b proof hf hcommit => h ⟨b, proof, hf, hcommit⟩, ?_⟩
    have hclean : Clean ({ committed := t, working := t } : CoreStore) := rfl
    obtain ⟨hc, ⟨b, proof, hf, hcommit, -⟩ | ⟨e, hres, hw⟩⟩ := acceptReceipt_exec hclean
      (rfl : (StoreCall.acceptReceipt r d next.1 next.2).method.exec _ = _)
    · exact absurd ⟨b, proof, hf, hcommit⟩ h
    · exact ⟨e, Prod.ext hres (hc.symm.trans hw)⟩

theorem view_withDegraded (t : Tables) (providerId : String) :
    view (withDegraded t providerId) = view t := by
  unfold view withDegraded
  dsimp only
  rw [List.map_map]
  congr 1
  refine List.map_congr_left fun row _ => ?_
  by_cases h : row.providerId = providerId <;> simp [h]

/-- The other calls leave nothing that a submission reads. -/
theorem quiet_call {i : StoreCall} (hi : ∀ r d next disposition,
    i ≠ .acceptReceipt r d next disposition) (hk : Keyed t) :
    view (serve i.method t).2 = view t ∧ Later t (serve i.method t).2 := by
  cases i with
  | acceptReceipt r d next disposition => exact absurd rfl (hi r d next disposition)
  | recordRejection receipt reason => exact ⟨rfl, later_withRejection hk reason⟩
  | markProviderDegraded providerId =>
    exact ⟨view_withDegraded t providerId, later_withDegraded hk providerId⟩

end Alone

section Refusals

variable [Host] {authority : Option MarkerAuthority} {t₀ t t' u : Tables} {r : Receipt}
  {d : Delivery} {next : Transition} {bindingId : String} {proof : ProofFields}

/-- From `t` on, the submission is never accepted if it would have been at the start. -/
def Refusable (authority : Option MarkerAuthority) (r : Receipt) (t₀ t : Tables) : Prop :=
  ∀ u, Later t u → Accepting authority t₀ r → ¬ Accepting authority u r

/-- Everything that the whole submission reads. -/
structure Same (r : Receipt) (s u : Tables) : Prop where
  agree : Agree r s u
  binding : SameBinding r s u
  record : s.receiptRecord r.receiptId = u.receiptRecord r.receiptId
  delivery : s.getDelivery r.deliveryId = u.getDelivery r.deliveryId

omit [Host] in
theorem repeatedReceipt_follows (row : ReceiptRow) : (repeatedReceipt r row).Follows (Same r) := by
  unfold repeatedReceipt
  simp only [fetch_bind]
  split
  · exact trivial
  · exact trivial
  · exact ⟨fun s u h => by simp only [h.delivery], fun _ => trivial⟩

theorem submit_follows (authority : Option MarkerAuthority) (r : Receipt) :
    (submit authority r).Follows (Same r) := by
  unfold submit
  split
  · exact trivial
  split
  · exact trivial
  refine follows_bind ?_ fun res => ?_
  · unfold existingReceiptResult
    rw [fetch_bind]
    refine ⟨fun s u h => by simp only [h.record], fun s => ?_⟩
    dsimp only
    split
    · exact trivial
    · exact follows_bind (repeatedReceipt_follows _) fun _ => trivial
  · split
    · exact trivial
    · exact trivial
    unfold submitFresh
    rw [fetch_bind]
    refine ⟨fun s u h => by simp only [h.delivery], fun s => ?_⟩
    dsimp only
    split
    · exact trivial
    rename_i d hd
    have hid : d.deliveryId = r.deliveryId := by simpa using List.find?_some hd
    exact follows_of_tracks (submitDelivery_tracks authority hid) fun s u h => ⟨h.agree, h.binding⟩

/-- If a submission would be accepted before and after `t`, it reads at `t` what it reads after. -/
theorem same_between (h₀ : Later t₀ t) (h : Later t u) (hbefore : Accepting authority t₀ r)
    (hafter : Accepting authority u r) : Same r t u := by
  obtain ⟨d₀, next₀, b₀, proof₀, hbefore⟩ := hbefore
  obtain ⟨d, next, b, proof, hafter⟩ := hafter
  have ha₀ := hbefore.acceptable
  have ha := hafter.acceptable
  obtain ⟨_, -, hp₀⟩ := ha₀.permitted
  obtain ⟨_, -, hp⟩ := ha.permitted
  obtain ⟨rfl, hd⟩ := h₀.settled h ha₀.delivery ha.delivery (hp.state.trans hp₀.state.symm)
  have hfree := hafter.allowed.unclaimed
  refine ⟨h.agree hd ha.delivery hfree, fun hc => ?_, ?_, hd.trans ha.delivery.symm⟩
  · obtain ⟨_, _, row, _, _, -, hchecked⟩ := ha.session hc
    rcases h.sessionBinding r.bindingId with heq | ⟨row', hrow', hlost⟩
    · exact heq.symm
    · obtain rfl : row = row' := Option.some.inj (hchecked.registered.symm.trans hrow')
      have howner := hchecked.owner
      rw [validateBinding_lost hlost] at howner
      cases howner
  · rw [hfree.record, (h.unclaimed hfree).record]

/-- Where the submission would be accepted at both ends, it goes the way it would go at the end. -/
structure Tracking (authority : Option MarkerAuthority) (r : Receipt) (t₀ t : Tables)
    (p : Reducer (Except PyError ReceiptResult)) : Prop where
  follows : p.Follows (Same r)
  ahead : ∀ u, Later t u → Accepting authority t₀ r → Accepting authority u r →
    p.advance u = (submit authority r).advance u

theorem tracking_submit : Tracking authority r t₀ t (submit authority r) :=
  ⟨submit_follows authority r, fun _ _ _ _ => rfl⟩

theorem Tracking.later {p : Reducer (Except PyError ReceiptResult)}
    (hp : Tracking authority r t₀ t p) (h : Later t t') : Tracking authority r t₀ t' p :=
  ⟨hp.follows, fun u hu => hp.ahead u (h.trans hu)⟩

theorem Tracking.read {next : Tables → Reducer (Except PyError ReceiptResult)} (h₀ : Later t₀ t)
    (hp : Tracking authority r t₀ t (Program.read next)) :
    Tracking authority r t₀ t (next t) := by
  refine ⟨hp.follows.2 t, fun u hu hbefore hafter => ?_⟩
  rw [hp.follows.1 t u (same_between h₀ hu hbefore hafter)]
  exact hp.ahead u hu hbefore hafter

omit [Host] in
/-- What the transaction asks of later tables held before, if the delivery did not move. -/
theorem Later.commits (h : Later t u) (ht : t.getDelivery d.deliveryId = some d)
    (hu : Commits u r d bindingId) : Commits t r d bindingId := by
  obtain ⟨new, hnew, -⟩ := h.receipts
  have hold : ∀ row ∈ t.receipts, row ∈ u.receipts := fun row hrow => by
    rw [hnew]
    exact List.mem_append_left _ hrow
  obtain ⟨hd, -⟩ := (getDelivery_eq_some h.keyed.1).mp ht
  refine ⟨hu.bound, fun row hrow => hu.receiptId row (hold row hrow),
    fun row hrow => hu.sourceEventId row (hold row hrow), ?_, ?_,
    fun row hrow => hu.auditId row (h.auditLog.subset hrow)⟩
  · obtain ⟨row, hrow, hid⟩ := hu.provider
    have hmem : (row.providerId, row.kind) ∈ u.providers.map fun p => (p.providerId, p.kind) :=
      List.mem_map_of_mem hrow
    rw [h.providers] at hmem
    obtain ⟨row', hrow', heq⟩ := List.mem_map.mp hmem
    exact ⟨row', hrow', (congrArg Prod.fst heq).trans hid⟩
  · have hle := countP_key_le_one (k := d.deliveryId)
      (p := fun d' : Delivery => decide (d'.deliveryId = d.deliveryId ∧ d'.state = d.state))
      h.keyed.1.deliveries fun d' hd' => (of_decide_eq_true hd').1
    have hpos : 0 < t.deliveries.countP
        (fun d' => decide (d'.deliveryId = d.deliveryId ∧ d'.state = d.state)) :=
      List.countP_pos_iff.mpr ⟨d, hd, by simp⟩
    omega

/-- A submission that has come to anything but a commit that succeeds here is refusable. -/
theorem Tracking.refusable {p : Reducer (Except PyError ReceiptResult)} (h₀ : Later t₀ t)
    (hp : Tracking authority r t₀ t p) (hstuck : ∀ u, p.advance u = p)
    (hfails : ∀ d next bindingId proof, p = commitReceipt r d next →
      proofStorageFields r.proof = .ok proof → ¬ Commits t r d bindingId) :
    Refusable authority r t₀ t := by
  intro u hu hbefore hafter
  have hsame := same_between h₀ hu hbefore hafter
  have hahead := hp.ahead u hu hbefore hafter
  obtain ⟨d, next, bindingId, proof, hafter⟩ := hafter
  rw [hstuck u, hafter.commits] at hahead
  have hdelivery := hafter.acceptable.delivery
  obtain ⟨-, hid⟩ := (getDelivery_eq_some hu.keyed.2).mp hdelivery
  refine hfails d next bindingId proof hahead hafter.fields (hu.commits ?_ hafter.allowed)
  rw [hid, hsame.delivery, hdelivery]

end Refusals

section Acceptances

variable [Host] {authority : Option MarkerAuthority} {t₀ t t' : Tables} {r : Receipt}
  {d : Delivery} {p : Reducer (Except PyError ReceiptResult)}

/-- How far the reads have come. Once the delivery is read, the rest goes the way it would go on
any later tables that still hold this delivery, with the bindings of the start. -/
inductive Stage (authority : Option MarkerAuthority) (r : Receipt) (t₀ t : Tables) :
    Reducer (Except PyError ReceiptResult) → Prop
  | fresh : Stage authority r t₀ t (submit authority r)
  | unused : ¬ (r.proofMethod = "" ∨ r.observedAt = "") → r.proof ≠ some .other →
      Stage authority r t₀ t (submitFresh authority r)
  | known {s : Tables} {d : Delivery} {p : Reducer (Except PyError ReceiptResult)} :
      ¬ (r.proofMethod = "" ∨ r.observedAt = "") → r.proof ≠ some .other → Later s t →
      s.getDelivery r.deliveryId = some d →
      p.Tracks (Agree r) (SameBinding r) (BindingLost r) Inert → Heads r d p →
      (∀ u, Later t u → u.getDelivery r.deliveryId = some d → Unclaimed r u →
        p.advance (unrevoked t₀ u) = (submitDelivery authority r d).advance (unrevoked t₀ u)) →
      Stage authority r t₀ t p
  | inert {p : Reducer (Except PyError ReceiptResult)} : Inert p → Stage authority r t₀ t p

theorem Stage.later (hp : Stage authority r t₀ t p) (h : Later t t') :
    Stage authority r t₀ t' p := by
  cases hp with
  | fresh => exact .fresh
  | unused haudited hshaped => exact .unused haudited hshaped
  | known haudited hshaped hs hd htracks hheads hahead =>
    exact .known haudited hshaped (hs.trans h) hd htracks hheads fun u hu =>
      hahead u (h.trans hu)
  | inert hinert => exact .inert hinert

theorem Stage.read_submit {next : Tables → Reducer (Except PyError ReceiptResult)}
    (hp : submit authority r = Program.read next) : Stage authority r t₀ t (next t) := by
  rcases submit_cases authority r with ⟨reason, heq⟩ | ⟨next', heq, haudited, hshaped, hnone, hsome⟩
  · cases heq.symm.trans hp
  · injection heq.symm.trans hp with hnext
    subst hnext
    cases hrow : t.receiptRecord r.receiptId with
    | none => exact hnone t hrow ▸ .unused haudited hshaped
    | some row => exact .inert (hsome t row hrow)

theorem Stage.read_submitFresh {next : Tables → Reducer (Except PyError ReceiptResult)}
    (h : Later t₀ t) (haudited : ¬ (r.proofMethod = "" ∨ r.observedAt = ""))
    (hshaped : r.proof ≠ some .other) (hp : submitFresh authority r = Program.read next) :
    Stage authority r t₀ t (next t) := by
  unfold submitFresh at hp
  rw [fetch_bind] at hp
  injection hp with hp
  subst hp
  dsimp only
  cases hd : t.getDelivery r.deliveryId with
  | none => exact .inert (reject_inert _ r)
  | some d =>
    have hid : d.deliveryId = r.deliveryId := by simpa using List.find?_some hd
    exact .known haudited hshaped (later_refl h.keyed.2) hd (submitDelivery_tracks authority hid)
      (submitDelivery_heads authority) fun _ _ _ _ => rfl

omit [Host] in
/-- Against the bindings of the start, a binding is the same or lost. -/
theorem sameBinding_or_lost (h : Later t₀ t) (u : Tables) :
    SameBinding r t (unrevoked t₀ u) ∨ BindingLost r t := by
  by_cases hc : r.evidenceClass ∈ sessionProofEvidence
  · rcases h.sessionBinding r.bindingId with heq | hlost
    · exact Or.inl fun _ => heq
    · exact Or.inr ⟨hc, hlost⟩
  · exact Or.inl fun hc' => absurd hc' hc

omit [Host] in
theorem agree_unrevoked {s u : Tables} (h : Agree r s u) : Agree r s (unrevoked t₀ u) :=
  ⟨h.kind, h.evidence, h.principals, h.messages, h.methods, h.entry, h.seen⟩

theorem Stage.read {next : Tables → Reducer (Except PyError ReceiptResult)} (h : Later t₀ t)
    (hp : Stage authority r t₀ t (Program.read next)) : Stage authority r t₀ t (next t) := by
  generalize heq : Program.read next = p at hp
  cases hp with
  | fresh => exact .read_submit heq.symm
  | unused haudited hshaped => exact .read_submitFresh h haudited hshaped heq.symm
  | @known s d _ haudited hshaped hs hd htracks hheads hahead =>
    subst heq
    -- a binding that was lost ends the submission, or is not what this read is about
    have hstep : Inert (next t) ∨ ∀ u, Agree r t (unrevoked t₀ u) →
        next t = next (unrevoked t₀ u) := by
      by_cases hlost : BindingLost r t
      · rcases htracks.2.1 t hlost with hinert | hsame
        · exact Or.inl hinert
        · exact Or.inr fun u hu => hsame _ hu
      · refine Or.inr fun u hu => htracks.1 t _ hu ?_
        exact (sameBinding_or_lost h u).resolve_right hlost
    rcases hstep with hinert | hsame
    · exact .inert hinert
    · refine .known haudited hshaped hs hd (htracks.2.2 t) (hheads t) fun u hu hdu hfree => ?_
      obtain ⟨-, hdt⟩ := hs.settled hu hd hdu rfl
      rw [hsame u (agree_unrevoked (hu.agree hdt hdu hfree))]
      exact hahead u hu hdu hfree
  | inert hinert =>
    subst heq
    exact .inert (hinert t)

/-- A transaction that commits now would have committed alone, with no binding revoked. -/
theorem Stage.accepts {next : Transition} {bindingId : String} {proof : ProofFields}
    {s : Tables} (haudited : ¬ (r.proofMethod = "" ∨ r.observedAt = ""))
    (hshaped : r.proof ≠ some .other) (hs : Later s t) (hd : s.getDelivery r.deliveryId = some d)
    (hahead : ∀ u, Later t u → u.getDelivery r.deliveryId = some d → Unclaimed r u →
      (commitReceipt r d next).advance (unrevoked t₀ u) =
        (submitDelivery authority r d).advance (unrevoked t₀ u))
    (hf : proofStorageFields r.proof = .ok proof) (hcommit : Commits t r d bindingId) :
    Accepts authority (unrevoked t₀ t) r d next bindingId proof := by
  have hpos : 0 < t.deliveries.countP
      (fun d' => decide (d'.deliveryId = d.deliveryId ∧ d'.state = d.state)) := by
    rw [hcommit.guard]
    exact Nat.one_pos
  obtain ⟨d', hd', hkey⟩ := List.countP_pos_iff.mp hpos
  obtain ⟨hid, hstate⟩ : d'.deliveryId = d.deliveryId ∧ d'.state = d.state := by simpa using hkey
  have hdid : d.deliveryId = r.deliveryId := by simpa using List.find?_some hd
  have hget : t.getDelivery r.deliveryId = some d' :=
    (getDelivery_eq_some hs.keyed.2).mpr ⟨hd', hid.trans hdid⟩
  obtain ⟨rfl, -⟩ := hs.settled (later_refl hs.keyed.2) hd hget hstate
  have hfree := hcommit.unclaimed
  have hrest := hahead t (later_refl hs.keyed.2) hget hfree
  refine ⟨?_, hf, ⟨hcommit.bound, hcommit.receiptId, hcommit.sourceEventId, hcommit.provider,
    hcommit.guard, hcommit.auditId⟩⟩
  rw [submit_advance_delivery (t := unrevoked t₀ t) haudited hshaped hfree.record hget, ← hrest]
  rfl

/-- When the reads are over, a submission can accept no more, or commits what it would alone. -/
theorem Stage.stuck (hp : Stage authority r t₀ t p) (hstuck : ∀ next, p ≠ Program.read next) :
    Inert p ∨ ∃ d next, p = commitReceipt r d next ∧ ∀ bindingId proof,
      proofStorageFields r.proof = .ok proof → Commits t r d bindingId →
      Accepts authority (unrevoked t₀ t) r d next bindingId proof := by
  cases hp with
  | fresh =>
    rcases submit_cases authority r with ⟨reason, heq⟩ | ⟨next, heq, -⟩
    · exact Or.inl (heq ▸ reject_inert reason r)
    · exact absurd heq (hstuck next)
  | unused => exact absurd (by rw [submitFresh, fetch_bind]) (hstuck _)
  | @known s d p haudited hshaped hs hd htracks hheads hahead =>
    cases p with
    | done a => exact Or.inl hheads
    | read next => exact absurd rfl (hstuck next)
    | call i next =>
      rcases hheads with ⟨step, heq⟩ | hinert
      · refine Or.inr ⟨d, step, heq, fun bindingId proof hf hcommit => ?_⟩
        rw [heq] at hahead
        exact Stage.accepts haudited hshaped hs hd hahead hf hcommit
      · exact Or.inl hinert
  | inert hinert => exact Or.inl hinert

end Acceptances

section Standing

variable [Host] {authority : Option MarkerAuthority} {t₀ t t' : Tables} {r : Receipt}
  {p : Reducer (Except PyError ReceiptResult)}

/-- Where a submission that started at `t₀` stands at `t`. -/
inductive Standing (authority : Option MarkerAuthority) (r : Receipt) (t₀ t : Tables) :
    Reducer (Except PyError ReceiptResult) → Prop
  | validating {p : Reducer (Except PyError ReceiptResult)} : Tracking authority r t₀ t p →
      Stage authority r t₀ t p → Standing authority r t₀ t p
  | refused {p : Reducer (Except PyError ReceiptResult)} : Inert p →
      Refusable authority r t₀ t → Standing authority r t₀ t p
  | accepted (state : DeliveryState) (disposition : Option Disposition) :
      Standing authority r t₀ t (done (.ok (.accepted state disposition)))

theorem standing_submit (authority : Option MarkerAuthority) (r : Receipt) (t₀ t : Tables) :
    Standing authority r t₀ t (submit authority r) := .validating tracking_submit .fresh

theorem Refusable.later (hp : Refusable authority r t₀ t) (h : Later t t') :
    Refusable authority r t₀ t' := fun u hu => hp u (h.trans hu)

theorem Standing.later (hp : Standing authority r t₀ t p) (h : Later t t') :
    Standing authority r t₀ t' p := by
  cases hp with
  | validating htracking hstage => exact .validating (htracking.later h) (hstage.later h)
  | refused hinert hrefusable => exact .refused hinert (hrefusable.later h)
  | accepted state disposition => exact .accepted state disposition

theorem Standing.read {next : Tables → Reducer (Except PyError ReceiptResult)} (h : Later t₀ t)
    (hp : Standing authority r t₀ t (Program.read next)) :
    Standing authority r t₀ t (next t) ∧
      ∀ state disposition, next t ≠ Program.done (.ok (.accepted state disposition)) := by
  cases hp with
  | validating htracking hstage =>
    refine ⟨.validating (htracking.read h) (hstage.read h), fun state disposition heq => ?_⟩
    have hread := hstage.read h
    rw [heq] at hread
    rcases hread.stuck (fun _ h => by cases h) with hinert | ⟨d, step, heq, -⟩
    · exact hinert state disposition rfl
    · cases heq
  | refused hinert hrefusable =>
    refine ⟨.refused (hinert t) hrefusable, fun state disposition heq => ?_⟩
    have hread := hinert t
    rw [heq] at hread
    exact hread state disposition rfl

/-- A result that is not an acceptance leaves the submission refusable. -/
theorem Standing.done {res : Except PyError ReceiptResult} (h : Later t₀ t)
    (hp : Standing authority r t₀ t (done res))
    (hres : ∀ state disposition, res ≠ .ok (.accepted state disposition)) :
    Refusable authority r t₀ t := by
  cases hp with
  | validating htracking _ =>
    exact htracking.refusable h (fun _ => rfl) fun _ _ _ _ heq => by cases heq
  | refused _ hrefusable => exact hrefusable
  | accepted state disposition => exact absurd rfl (hres state disposition)

/-- A call of a submission changes nothing that submissions read, or is its commit. -/
theorem Standing.call {i : StoreCall}
    {next : Except PyError Unit → Reducer (Except PyError ReceiptResult)} (h : Later t₀ t)
    (hp : Standing authority r t₀ t (Program.call i next)) :
    (view (serve i.method t).2 = view t ∧ Later t (serve i.method t).2 ∧
      Inert (next (serve i.method t).1) ∧ Refusable authority r t₀ (serve i.method t).2) ∨
    ∃ d step bindingId proof, Accepts authority (unrevoked t₀ t) r d step bindingId proof ∧
      (serve i.method t).2 = ReceiptReducer.accepted t r d step bindingId proof ∧
      next (serve i.method t).1 = Program.done (.ok (.accepted step.1 step.2)) := by
  -- a call of a submission that can accept no more
  have hquiet : Inert (Program.call i next) → Refusable authority r t₀ t →
      view (serve i.method t).2 = view t ∧ Later t (serve i.method t).2 ∧
        Inert (next (serve i.method t).1) ∧ Refusable authority r t₀ (serve i.method t).2 := by
    intro hinert hrefusable
    obtain ⟨hview, hlater⟩ := quiet_call hinert.1 h.keyed.2
    exact ⟨hview, hlater, hinert.2 _, hrefusable.later hlater⟩
  cases hp with
  | refused hinert hrefusable => exact Or.inl (hquiet hinert hrefusable)
  | validating htracking hstage =>
    rcases hstage.stuck (fun _ heq => by cases heq) with hinert | ⟨d, step, heq, haccepts⟩
    · refine Or.inl (hquiet hinert (htracking.refusable h (fun _ => rfl) ?_))
      intro d step _ _ heq
      rw [heq] at hinert
      exact absurd hinert not_inert_commitReceipt
    · obtain ⟨next', hcall, hok, herror⟩ := commitReceipt_cases r d step
      rw [hcall] at heq
      injection heq with hi hnext
      subst hi hnext
      rcases serve_acceptReceipt t r d step with ⟨bindingId, proof, hf, hcommit, hserve⟩ |
        ⟨hfails, e, hserve⟩
      · refine Or.inr ⟨d, step, bindingId, proof, haccepts _ _ hf hcommit, ?_⟩
        rw [hserve]
        exact ⟨rfl, hok⟩
      · rw [hserve]
        refine Or.inl ⟨rfl, later_refl h.keyed.2, herror e, ?_⟩
        refine htracking.refusable h (fun _ => rfl) fun d' step' bindingId proof heq hf => ?_
        obtain ⟨rfl, -⟩ := commitReceipt_inj (hcall.trans heq)
        exact hfails bindingId proof hf

end Standing

end Yatagarasu
