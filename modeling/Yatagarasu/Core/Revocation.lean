import Yatagarasu.Core.Effects

/-! A binding leaves `active` once and for all, and from then on nothing enters a session through
it. -/

namespace Yatagarasu

open Sqlite ReceiptReducer

/-- The partial unique index: one active binding per recipient. -/
def OneActive (t : Tables) : Prop :=
  ∀ a ∈ t.sessionBindings, ∀ b ∈ t.sessionBindings, a.state = .active → b.state = .active →
    a.recipientId = b.recipientId → a = b

/-- The row of a binding stays, and only an active one may change, in its state. -/
def BindingsLast (t t' : Tables) : Prop :=
  ∀ row ∈ t.sessionBindings, ∃ row' ∈ t'.sessionBindings,
    row' = { row with state := row'.state } ∧ (row.state ≠ .active → row' = row)

section Bindings

variable {t t' u : Tables} {binding : SessionBinding}

theorem bindingsLast_of_eq (h : t'.sessionBindings = t.sessionBindings) : BindingsLast t t' :=
  fun row hrow => ⟨row, h ▸ hrow, rfl, fun _ => rfl⟩

theorem BindingsLast.trans (h : BindingsLast t t') (h' : BindingsLast t' u) :
    BindingsLast t u := by
  intro row hrow
  obtain ⟨mid, hmid, hsame, hkept⟩ := h row hrow
  obtain ⟨last, hlast, hsame', hkept'⟩ := h' mid hmid
  refine ⟨last, hlast, ?_, fun hstate => ?_⟩
  · rw [hsame', hsame]
  · have heq := hkept hstate
    subst heq
    exact hkept' hstate

theorem bindingsLast_bound : BindingsLast t (bound t binding) :=
  fun row hrow => ⟨row, List.mem_append_left _ hrow, rfl, fun _ => rfl⟩

/-- Rows whose state is set where `p` holds; `p` picks active rows only. -/
theorem bindingsLast_map {p : SessionBindingRow → Prop} [DecidablePred p] {state : BindingState}
    (hp : ∀ row ∈ t.sessionBindings, p row → row.state = .active)
    (h : t'.sessionBindings = t.sessionBindings.map fun row =>
      if p row then { row with state } else row) : BindingsLast t t' := by
  intro row hrow
  have hmem : (if p row then { row with state } else row) ∈ t'.sessionBindings :=
    h ▸ List.mem_map_of_mem hrow
  refine ⟨_, hmem, ?_, fun hstate => ?_⟩
  · split <;> rfl
  · exact if_neg fun hrowp => hstate (hp row hrow hrowp)

theorem oneActive_map {p : SessionBindingRow → Prop} [DecidablePred p] {state : BindingState}
    (hstate : state ≠ .active) (hone : OneActive t)
    (h : t'.sessionBindings = t.sessionBindings.map fun row =>
      if p row then { row with state } else row) : OneActive t' := by
  have hback : ∀ row' ∈ t'.sessionBindings, row'.state = .active → row' ∈ t.sessionBindings := by
    intro row' hrow' hactive
    rw [h] at hrow'
    obtain ⟨row, hrow, rfl⟩ := List.mem_map.mp hrow'
    split at hactive
    · exact absurd hactive hstate
    · rename_i hp
      rw [if_neg hp]
      exact hrow
  intro a ha b hb hactive hactive' hrecipient
  exact hone a (hback a ha hactive) b (hback b hb hactive') hactive hactive' hrecipient

theorem oneActive_bound (hone : OneActive t) (hbindable : Bindable t binding) :
    OneActive (bound t binding) := by
  intro a ha b hb hactive hactive' hrecipient
  rcases List.mem_append.mp ha with ha | ha
  · rcases List.mem_append.mp hb with hb | hb
    · exact hone a ha b hb hactive hactive' hrecipient
    · cases List.mem_singleton.mp hb
      exact absurd hactive (hbindable.alone hactive' a ha hrecipient)
  · cases List.mem_singleton.mp ha
    rcases List.mem_append.mp hb with hb | hb
    · exact absurd hactive' (hbindable.alone hactive b hb hrecipient.symm)
    · rw [List.mem_singleton.mp hb]

/-- What passed the check of a supersession: the old binding is active. -/
theorem validateSupersession_ok [Host] {oldBindingId : String}
    (h : CoreStore.validateSupersession oldBindingId binding t = .ok ()) :
    ∃ old, t.sessionBinding (some oldBindingId) = some old ∧ old.state = .active ∧
      old.recipientId = binding.recipientId ∧
      CoreStore.validateSessionBinding binding t = .ok () := by
  unfold CoreStore.validateSupersession at h
  split at h
  · cases h
  rename_i old hold
  split at h
  · cases h
  rename_i hstate
  split at h
  · cases h
  rename_i hrecipient
  exact ⟨old, hold, not_not.mp hstate, not_not.mp hrecipient, h⟩

theorem sessionBinding_eq_some (hk : Keyed t) {bindingId : String} {row : SessionBindingRow} :
    t.sessionBinding (some bindingId) = some row ↔
      row ∈ t.sessionBindings ∧ row.bindingId = bindingId := by
  unfold Tables.sessionBinding
  constructor
  · intro h
    exact ⟨List.mem_of_find?_eq_some h, by simpa using List.find?_some h⟩
  · rintro ⟨hrow, rfl⟩
    cases h : t.sessionBindings.find? fun other => some other.bindingId = some row.bindingId with
    | none => exact absurd (List.find?_eq_none.mp h row hrow) (by simp)
    | some other =>
      have hid : other.bindingId = row.bindingId := by simpa using List.find?_some h
      rw [List.inj_on_of_nodup_map hk.sessionBindings (List.mem_of_find?_eq_some h) hrow hid]

end Bindings

section Step

variable [Host] {t t' : Tables} {op : Op}

theorem bindingsLast_step (hk : Keyed t) (h : Effect t op t') : BindingsLast t t' := by
  cases h with
  | bound => exact bindingsLast_bound
  | superseded hvalid =>
    obtain ⟨old, hold, hactive, -⟩ := validateSupersession_ok hvalid
    obtain ⟨hmem, hid⟩ := (sessionBinding_eq_some hk).mp hold
    refine BindingsLast.trans (bindingsLast_map (fun row hrow hrowid => ?_) rfl) bindingsLast_bound
    rwa [List.inj_on_of_nodup_map hk.sessionBindings hrow hmem (hrowid.trans hid.symm)]
  | revoked =>
    refine bindingsLast_map (p := fun row => _) (fun row _ hrow => ?_) rfl
    exact (of_decide_eq_true hrow).2
  | _ => exact bindingsLast_of_eq rfl

theorem oneActive_step (h : Effect t op t') (hone : OneActive t) : OneActive t' := by
  cases h with
  | bound _ hbindable => exact oneActive_bound hone hbindable
  | superseded _ hbindable =>
    exact oneActive_bound (oneActive_map (by decide) hone rfl) hbindable
  | revoked => exact oneActive_map (p := fun row => _) (by decide) hone rfl
  | _ => exact hone

/-- A receipt that moves a session-bound delivery into a session comes in through an active
binding. -/
theorem accepted_active {authority : Option MarkerAuthority} {r : Receipt} {d : Delivery}
    {next : Transition} (h : Acceptable authority t r d next)
    (hmode : d.deliveryMode = .sessionBound)
    (hstate : next.1 = .inSession ∨ next.1 = .processed) :
    ∃ row, t.sessionBinding d.bindingId = some row ∧ row.state = .active := by
  have hsession : r.evidenceClass ∈ sessionProofEvidence := by
    obtain ⟨provider, -, hpermitted⟩ := h.permitted
    generalize provider.kind = kind at hpermitted
    cases hpermitted with
    | ackSession => simp at hstate
    | ackChannel => simp at hstate
    | entry hclass => rcases hclass with hclass | hclass <;> simp [hclass, sessionProofEvidence]
    | completed hclass => simp [hclass, sessionProofEvidence]
    | reply _ hchecked =>
      rw [hchecked.mode] at hmode
      cases hmode
    | reaction _ hchecked =>
      rw [hchecked.mode] at hmode
      cases hmode
  obtain ⟨a, proof, row, registration, events, -, hchecked⟩ := h.session hsession
  refine ⟨row, (keys_eq h.keys).2.2 ▸ hchecked.registered, ?_⟩
  by_contra hlost
  have howner := hchecked.owner
  rw [validateBinding, if_pos hlost] at howner
  cases howner

/-- A session-bound delivery that is in session or processed was so before, was added so, or came
in through an active binding. -/
theorem session_step (hk : Keyed t) (h : Effect t op t') {d : Delivery} (hd : d ∈ t'.deliveries)
    (hmode : d.deliveryMode = .sessionBound)
    (hstate : d.state = .inSession ∨ d.state = .processed) :
    d ∈ t.deliveries ∨ op = .addDelivery d ∨
      ∃ row, t.sessionBinding d.bindingId = some row ∧ row.state = .active := by
  cases h with
  | added =>
    rcases List.mem_append.mp hd with hd | hd
    · exact Or.inl hd
    · rw [List.mem_singleton.mp hd]
      exact Or.inr (Or.inl rfl)
  | dispatched hmem =>
    rcases (mem_moved hk hmem).mp hd with rfl | ⟨hd, -⟩
    · simp at hstate
    · exact Or.inl hd
  | broadcast =>
    rcases List.mem_append.mp hd with hd | hd
    · exact Or.inl hd
    · obtain ⟨seat, -, rfl⟩ := List.mem_map.mp hd
      simp [seatDelivery] at hstate
  | accepted haccept =>
    obtain ⟨hmem, -⟩ := (getDelivery_eq_some hk).mp haccept.delivery
    rcases (mem_moved hk hmem).mp hd with rfl | ⟨hd, -⟩
    · have hactive := accepted_active haccept hmode hstate
      exact Or.inr (Or.inr hactive)
    · exact Or.inl hd
  | _ => exact Or.inl hd

end Step

section Run

variable [Host]

theorem bindingsLast_run (ops : List Op) {c : CoreStore} (hs : Sound c) :
    BindingsLast c.working (run ops c).working :=
  run_invariant (fun hk heffect hlast => hlast.trans (bindingsLast_step hk heffect)) ops hs
    (bindingsLast_of_eq rfl)

theorem oneActive_run (ops : List Op) : OneActive (run ops CoreStore.empty).working := by
  refine run_invariant (fun _ heffect hone => oneActive_step heffect hone) ops sound_empty ?_
  intro a ha
  cases ha

/-- The store after a run keeps one active binding per recipient, bindings end once, a failed
registration or supersession leaves them alone, and a binding that ended lets nothing in. -/
theorem revocation_final (ops : List Op) :
    let c := run ops CoreStore.empty
    OneActive c.working ∧
    (∀ later, BindingsLast c.working (run later c).working) ∧
    (∀ binding e c', (CoreStore.registerSessionBinding binding).exec c = (.error e, c') →
      c'.working.sessionBindings = c.working.sessionBindings ∧
      c'.working.bindingProofMethods = c.working.bindingProofMethods) ∧
    (∀ oldBindingId binding e c',
      (CoreStore.supersedeSessionBinding oldBindingId binding).exec c = (.error e, c') →
      c'.working.sessionBindings = c.working.sessionBindings ∧
      c'.working.bindingProofMethods = c.working.bindingProofMethods) ∧
    (∀ row ∈ c.working.sessionBindings, row.state ≠ .active → ∀ (later : List Op) (op : Op),
      let before := run later c
      ∀ d ∈ (op.exec before).working.deliveries, d.deliveryMode = .sessionBound →
        d.bindingId = some row.bindingId → d.state = .inSession ∨ d.state = .processed →
        d ∈ before.working.deliveries ∨ op = .addDelivery d) := by
  intro c
  have hs : Sound c := sound_run ops sound_empty
  refine ⟨oneActive_run ops, fun later => bindingsLast_run later hs, ?_, ?_, ?_⟩
  · intro binding e c' hexec
    obtain ⟨-, ⟨_, -, hw⟩ | ⟨hok, -⟩⟩ := registerSessionBinding_cases hs.clean hexec
    · rw [hw]
      exact ⟨rfl, rfl⟩
    · cases hok
  · intro oldBindingId binding e c' hexec
    obtain ⟨-, ⟨_, -, hw⟩ | ⟨hok, -⟩⟩ := supersedeSessionBinding_cases hs.clean hexec
    · rw [hw]
      exact ⟨rfl, rfl⟩
    · cases hok
  · intro row hrow hended later op before d hd hmode hbinding hstate
    have hs' : Sound before := sound_run later hs
    rcases session_step hs'.keyed (exec_effect op hs') hd hmode hstate with hold | hadded | hactive
    · exact Or.inl hold
    · exact Or.inr hadded
    · obtain ⟨row', hrow', -, hkept⟩ := bindingsLast_run later hs row hrow
      obtain rfl := hkept hended
      obtain ⟨found, hfound, hactive⟩ := hactive
      rw [hbinding, (sessionBinding_eq_some hs'.keyed).mpr ⟨hrow', rfl⟩] at hfound
      cases hfound
      exact absurd hactive hended

end Run

end Yatagarasu
