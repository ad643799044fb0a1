import Yatagarasu.Cmux.Recovery

/-! A resident, a server of one boot that replays its whole log, and the core whose `submit` is the
resident's core client. The resident may die between any two steps and its sink may fail before or
after the core has committed; the next run recovers from the outbox. -/

namespace Yatagarasu.Cmux

open PyJson ReceiptReducer Transition

/-- What the core made of a receipt. -/
structure Answer where
  receipt : Receipt
  result : Except PyError ReceiptResult

/-- A receipt answered again: what was accepted is a duplicate, and what was rejected stays so. -/
def Repeats : Except PyError ReceiptResult → Except PyError ReceiptResult → Prop
  | .error _, _ => True
  | .ok (.rejected _), again => ∀ res, again = .ok res → ∃ reason, res = .rejected reason
  | .ok _, again => ∃ state disposition, again = .ok (.duplicate state disposition)

section Core

variable [Host] (config : EmitterConfig) (authority : Option MarkerAuthority)

/-- The sink between a resident and its core. -/
inductive Sink (core : CoreStore) : List Occurrence → List Answer → CoreStore → Prop
  | quiet {os : List Occurrence} : submissions os = [] → Sink core os [] core
  | answered {receipt : Receipt} {res : ReceiptResult} {core' : CoreStore} :
      CoreStore.submit authority receipt core = (.ok res, core') →
      Sink core [.submitted receipt true] [⟨receipt, .ok res⟩] core'
  | raised {receipt : Receipt} {e : PyError} {core' : CoreStore} :
      CoreStore.submit authority receipt core = (.error e, core') →
      Sink core [.submitted receipt false] [⟨receipt, .error e⟩] core'
  /-- The receipt does not reach the core. -/
  | lost (receipt : Receipt) : Sink core [.submitted receipt false] [] core
  /-- The core has committed, and its answer does not come back. -/
  | cut {receipt : Receipt} {res : ReceiptResult} {core' : CoreStore} :
      CoreStore.submit authority receipt core = (.ok res, core') →
      Sink core [.submitted receipt false] [⟨receipt, .ok res⟩] core'

/-- The answers are those of the events' receipts, and none is taken back. -/
structure Settled (events : List DerivedEvent) (core : CoreStore) (answers : List Answer) :
    Prop where
  known : ∀ a ∈ answers, ∀ res, a.result = .ok res →
    a.receipt ∈ (recovered config events).emitted ∧
      (Stored core.working a.receipt ↔ ∀ reason, res ≠ .rejected reason)
  repeats : answers.Pairwise fun first later =>
    first.receipt = later.receipt → Repeats first.result later.result
  answered : HexDigests → Minted config → ∀ a ∈ answers, ∃ res, a.result = .ok res

variable {config authority} {events : List DerivedEvent} {event : DerivedEvent}
  {core core' c : CoreStore} {answers : List Answer} {receipt : Receipt}
  {result : Except PyError ReceiptResult}

theorem submit_sound (hs : Sound core)
    (h : CoreStore.submit authority receipt core = (result, core')) : Sound core' := by
  have hexec : Op.exec (.submit authority receipt) core = core' := congrArg Prod.snd h
  exact hexec ▸ (exec_sound _ hs).1

/-- One more answer, if it stores no receipt that was answered and repeats what it was. -/
theorem Settled.append {events' made : List DerivedEvent}
    (hsettled : Settled config events core answers) (hs : Sound core)
    (hmade : WellMade config made receipt)
    (h : CoreStore.submit authority receipt core = (result, core'))
    (hmore : (recovered config events).emitted ⊆ (recovered config events').emitted)
    (hkept : ∀ a ∈ answers, ∀ res, a.result = .ok res →
      (Stored core'.working a.receipt ↔ Stored core.working a.receipt))
    (hnew : ∀ res, result = .ok res → receipt ∈ (recovered config events').emitted)
    (hrepeats : ∀ a ∈ answers, a.receipt = receipt → Repeats a.result result) :
    Settled config events' core' (answers ++ [⟨receipt, result⟩]) := by
  refine ⟨?_, ?_, ?_⟩
  · intro a ha res hres
    rcases List.mem_append.mp ha with hold | hlast
    · obtain ⟨hemitted, hstored⟩ := hsettled.known a hold res hres
      exact ⟨hmore hemitted, (hkept a hold res hres).trans hstored⟩
    · rw [List.mem_singleton.mp hlast] at hres ⊢
      dsimp only at hres ⊢
      rw [hres] at h
      exact ⟨hnew res hres, stored_of_submit hs hmade.audited hmade.shaped h⟩
  · rw [List.pairwise_append]
    refine ⟨hsettled.repeats, List.pairwise_singleton _ _, fun first hfirst later hlater heq => ?_⟩
    rw [List.mem_singleton.mp hlater] at heq ⊢
    exact hrepeats first hfirst heq
  · intro hdigest hminted a ha
    rcases List.mem_append.mp ha with hold | hlast
    · exact hsettled.answered hdigest hminted a hold
    · rw [List.mem_singleton.mp hlast]
      obtain ⟨res, hres⟩ := hmade.answered hs.clean hdigest hminted
      exact ⟨res, (congrArg Prod.fst h).symm.trans hres⟩

/-- A receipt submitted again changes nothing, and gets the verdict it had. -/
theorem settled_again (hs : Sound core) (hsettled : Settled config events core answers)
    (hr : receipt ∈ (recovered config events).emitted)
    (hspent : ¬ Accepting authority core.working receipt)
    (h : CoreStore.submit authority receipt core = (result, core')) :
    view core'.working = view core.working ∧
      Settled config events core' (answers ++ [⟨receipt, result⟩]) := by
  have hmade := wellMade hr
  have hexec : (CoreStore.submit authority receipt core).2 = core' := congrArg Prod.snd h
  have hresult : (CoreStore.submit authority receipt core).1 = result := congrArg Prod.fst h
  refine ⟨hexec ▸ submit_exec_refused hs.clean hspent, ?_⟩
  refine hsettled.append hs hmade h (fun _ h => h)
    (fun a _ _ _ => hexec ▸ stored_submit_iff hs (Or.inl hspent)) (fun _ _ => hr) ?_
  intro first hfirst heq
  cases hverdict : first.result with
  | error e => trivial
  | ok res =>
    obtain ⟨-, hstored⟩ := hsettled.known first hfirst res hverdict
    rw [heq] at hstored
    cases res with
    | rejected reason =>
      intro res' hres'
      have hnew : ¬ Stored core.working receipt := fun hnow => hstored.mp hnow reason rfl
      exact rejected_of_submit hs.clean hnew hspent (hresult.trans hres')
    | accepted | duplicate =>
      obtain ⟨state, disposition, hduplicate⟩ := submit_of_stored hmade.audited hmade.shaped
        (hstored.mpr fun _ => ReceiptResult.noConfusion)
      exact ⟨state, disposition, hresult.symm.trans (congrArg Prod.fst hduplicate)⟩

/-- A receipt submitted for the first time. If the core raises, it is as if nothing had been. -/
theorem settled_new (hc : Sound c) (hs : Sound core)
    (hsettled : Settled config events core answers)
    (hnodup : ((events ++ [event]).map (·.sourceEventId)).Nodup)
    (hview : view core.working = view (reported config authority events c).working)
    (hr : ((recovered config events).state.observe config event).receipt = some receipt)
    (h : CoreStore.submit authority receipt core = (result, core')) :
    (∀ res, result = .ok res →
      view core'.working = view (reported config authority (events ++ [event]) c).working ∧
      Settled config (events ++ [event]) core' (answers ++ [⟨receipt, result⟩])) ∧
    ∀ e, result = .error e → view core'.working = view core.working ∧
      Settled config events core' (answers ++ [⟨receipt, result⟩]) := by
  have hexec : (CoreStore.submit authority receipt core).2 = core' := congrArg Prod.snd h
  have hemitted : receipt ∈ (recovered config (events ++ [event])).emitted := by
    rw [recovered_emitted, hr]
    exact List.mem_append_right _ (List.mem_singleton_self _)
  have hmade := wellMade hemitted
  have hkept : ∀ a ∈ answers, ∀ res, a.result = .ok res →
      (Stored core'.working a.receipt ↔ Stored core.working a.receipt) := by
    intro a ha res hres
    obtain ⟨hold, -⟩ := hsettled.known a ha res hres
    exact hexec ▸ stored_submit_iff hs (Or.inr (receipt_fresh hnodup hr hold).2)
  have hrepeats : ∀ a ∈ answers, a.receipt = receipt → Repeats a.result result := by
    intro a ha heq
    cases hverdict : a.result with
    | error e => trivial
    | ok res =>
      obtain ⟨hold, -⟩ := hsettled.known a ha res hverdict
      exact absurd (congrArg Receipt.receiptId heq) (receipt_fresh hnodup hr hold).2
  refine ⟨fun res hres => ⟨?_, ?_⟩, fun e he => ⟨?_, ?_⟩⟩
  · have hreported := sound_run ((recovered config events).emitted.map (.submit authority)) hc
    rw [reported_append hr, ← hexec]
    exact view_submit hs.clean hreported.clean hview
  · exact hsettled.append hs hmade h (recovered_mono events [event]).subset hkept
      (fun _ _ => hemitted) hrepeats
  · rw [he] at h
    obtain ⟨-, houtcome⟩ := submit_outcome hs.clean h
    generalize core'.working = t' at houtcome
    cases houtcome
    rfl
  · exact hsettled.append hs hmade h (fun _ h => h) hkept
      (fun res hres => absurd (he.symm.trans hres) (by intro heq; cases heq)) hrepeats

/-- What a sink does with one receipt. -/
theorem sink_submitted {returned : Bool} {new : List Answer}
    (h : Sink authority core [.submitted receipt returned] new core') :
    (returned = false ∧ new = [] ∧ core' = core) ∨
      ∃ result, CoreStore.submit authority receipt core = (result, core') ∧
        new = [⟨receipt, result⟩] ∧ (returned = true → ∃ res, result = .ok res) := by
  cases h with
  | quiet hnone => cases hnone
  | answered hsubmit => exact Or.inr ⟨_, hsubmit, rfl, fun _ => ⟨_, rfl⟩⟩
  | raised hsubmit => exact Or.inr ⟨_, hsubmit, rfl, fun hreturned => by cases hreturned⟩
  | lost => exact Or.inl ⟨rfl, rfl, rfl⟩
  | cut hsubmit => exact Or.inr ⟨_, hsubmit, rfl, fun hreturned => by cases hreturned⟩

theorem sink_quiet {os : List Occurrence} {new : List Answer}
    (h : Sink authority core os new core') (hos : submissions os = []) :
    new = [] ∧ core' = core := by
  cases h with
  | quiet => exact ⟨rfl, rfl⟩
  | answered | raised | lost | cut => cases hos

end Core

/-- A resident on its server's log, and the core that it reports to. -/
structure Plant where
  link : Link
  core : CoreStore

namespace Plant

variable [Host] (r : Resident) (config : EmitterConfig) (bootId : String)
  (authority : Option MarkerAuthority)

/-- Any step of a run, and any restart of one. -/
inductive Step (p : Plant) : List Answer → Plant → Prop
  | served {os : List Occurrence} {answers : List Answer} {link : Link} {core : CoreStore} :
      p.link.Replays r bootId os link → Sink authority p.core os answers core →
      Step p answers ⟨link, core⟩
  | restarted (maxConnections : Int) : Step p [] ⟨p.link.started r maxConnections, p.core⟩

/-- A step inside a run whose sink fails only where the core raises. -/
inductive Calm (p : Plant) : List Answer → Plant → Prop
  | served {os : List Occurrence} {answers : List Answer} {link : Link} {core : CoreStore} :
      p.link.Replays r bootId os link → Sink authority p.core os answers core →
      (∀ receipt, .submitted receipt false ∈ os →
        ∃ e, (CoreStore.submit authority receipt p.core).1 = .error e) →
      Calm p answers ⟨link, core⟩

/-- Every event of the log is in the outbox. -/
def Consumed (p : Plant) : Prop := (p.link.rows r).length = p.link.log.entries.length

/-- The events whose receipts the core has been given: the rows, or one more. -/
inductive Heard (l : Link) : List DerivedEvent → Prop
  | rows : Heard l (l.rows r)
  | ahead {event : DerivedEvent} : l.Next r bootId event → Heard l (l.rows r ++ [event])

/-- What the core has is what the events make of the store at the start. -/
structure Kept (c : CoreStore) (answers : List Answer) (p : Plant) : Prop where
  recalls : p.link.Recalls r config bootId
  sound : Sound p.core
  heard : ∃ events, Heard r bootId p.link events ∧
    (∀ event, p.link.process.phase.underway = some event → events = p.link.rows r ++ [event]) ∧
    view p.core.working = view (reported config authority events c).working ∧
    Settled config events p.core answers

variable {r config bootId authority} {p : Plant} {l l' link : Link} {c core : CoreStore}
  {answers new : List Answer} {os : List Occurrence} {events : List DerivedEvent}

theorem heard_nodup (h : l.Recalls r config bootId) (hheard : Heard r bootId l events) :
    (events.map (·.sourceEventId)).Nodup := by
  cases hheard with
  | rows => exact Link.covers_nodup h.whole
  | ahead hnext => exact Link.covers_nodup (Link.next_covers h hnext)

theorem heard_emitted (hheard : Heard r bootId l events) :
    (recovered config (l.rows r)).emitted ⊆ (recovered config events).emitted := by
  cases hheard with
  | rows => exact fun _ h => h
  | ahead => exact (recovered_mono _ _).subset

theorem heard_grew (hheard : Heard r bootId l events) (hrows : l'.rows r = l.rows r)
    (hlog : l.log.entries <+: l'.log.entries) : Heard r bootId l' events := by
  cases hheard with
  | rows => exact hrows ▸ .rows
  | ahead hnext =>
    obtain ⟨entry, hentry, hproject⟩ := hnext
    obtain ⟨later, hlater⟩ := hlog
    rw [← hrows]
    refine .ahead ⟨entry, ?_, hproject⟩
    rw [hrows, ← hlater, List.getElem?_append_left (List.getElem?_eq_some_iff.mp hentry).1]
    exact hentry

/-- The core was given the receipt of the next event already, or is given it now. -/
theorem kept_reported {event : DerivedEvent} {receipt : Receipt} {returned : Bool}
    (hc : Sound c) (h : Kept r config bootId authority c answers p)
    (hrecalls : link.Recalls r config bootId)
    (hnext : p.link.Next r bootId event) (hrows : link.rows r = p.link.rows r)
    (hlog : link.log = p.link.log)
    (hreceipt : ((recovered config (p.link.rows r)).state.observe config event).receipt =
      some receipt)
    (hunderway : link.process.phase.underway = (if returned then some event else none))
    (hsink : Sink authority p.core [.submitted receipt returned] new core) :
    Kept r config bootId authority c (answers ++ new) ⟨link, core⟩ := by
  obtain ⟨events, hheard, -, hview, hsettled⟩ := h.heard
  have hnodup := heard_nodup h.recalls hheard
  have hnow : Heard r bootId link (p.link.rows r ++ [event]) :=
    heard_grew (.ahead hnext) hrows (hlog ▸ List.prefix_rfl)
  have hahead : ∀ event', link.process.phase.underway = some event' →
      p.link.rows r ++ [event] = link.rows r ++ [event'] := by
    intro event' hsome
    rw [hunderway] at hsome
    split at hsome
    · cases hsome
      rw [hrows]
    · cases hsome
  have hidle : returned = false → ∀ event', link.process.phase.underway = some event' →
      events = link.rows r ++ [event'] := by
    intro hfalse event' hsome
    rw [hunderway, hfalse] at hsome
    cases hsome
  rcases sink_submitted hsink with ⟨hfalse, rfl, rfl⟩ | ⟨result, hsubmit, rfl, hreturned⟩
  · rw [List.append_nil]
    exact ⟨hrecalls, h.sound, events, heard_grew hheard hrows (hlog ▸ List.prefix_rfl),
      hidle hfalse, hview, hsettled⟩
  · have hsound := submit_sound h.sound hsubmit
    cases hheard with
    | rows =>
      have hcovers := Link.covers_nodup (Link.next_covers h.recalls hnext)
      obtain ⟨hok, herror⟩ := settled_new hc h.sound hsettled hcovers hview hreceipt hsubmit
      cases result with
      | ok res =>
        obtain ⟨hview', hsettled'⟩ := hok res rfl
        exact ⟨hrecalls, hsound, _, hnow, hahead, hview', hsettled'⟩
      | error e =>
        obtain ⟨hview', hsettled'⟩ := herror e rfl
        have hfalse : returned = false := by
          cases returned with
          | false => rfl
          | true =>
            obtain ⟨res, hres⟩ := hreturned rfl
            cases hres
        exact ⟨hrecalls, hsound, _, heard_grew .rows hrows (hlog ▸ List.prefix_rfl),
          hidle hfalse, hview'.trans hview, hsettled'⟩
    | ahead hnext' =>
      cases Link.next_unique hnext hnext'
      have hagain : receipt ∈ (recovered config (p.link.rows r ++ [event])).emitted := by
        rw [recovered_emitted, hreceipt]
        exact List.mem_append_right _ (List.mem_singleton_self _)
      obtain ⟨hsame, hsettled'⟩ := settled_again h.sound hsettled hagain
        (reported_spent hc hnodup hview hagain) hsubmit
      exact ⟨hrecalls, hsound, _, hnow, hahead, hsame.trans hview, hsettled'⟩

theorem kept_heeds (hc : Sound c) (h : Kept r config bootId authority c answers p)
    (hheeds : Link.Heeds r config bootId p.link link os) (hrecalls : link.Recalls r config bootId)
    (hsink : Sink authority p.core os new core) :
    Kept r config bootId authority c (answers ++ new) ⟨link, core⟩ := by
  obtain ⟨events, hheard, hunderway, hview, hsettled⟩ := h.heard
  cases hheeds with
  | quiet hos hrows hlog hidle =>
    obtain ⟨rfl, rfl⟩ := sink_quiet hsink hos
    rw [List.append_nil]
    refine ⟨hrecalls, h.sound, events, heard_grew hheard hrows hlog, ?_, hview, hsettled⟩
    intro event hsome
    rcases hidle with hnone | hsame
    · cases hnone.symm.trans hsome
    · change events = link.rows r ++ [event]
      rw [hrows]
      exact hunderway event (hsame ▸ hsome)
  | replayed returned hreceipt hrows hlog hidle =>
    have hgrown := heard_grew hheard hrows (hlog ▸ List.prefix_rfl)
    have hnever : ∀ event, link.process.phase.underway = some event →
        events = link.rows r ++ [event] := fun event hsome => by cases hidle.symm.trans hsome
    rcases sink_submitted hsink with ⟨-, rfl, rfl⟩ | ⟨result, hsubmit, rfl, -⟩
    · rw [List.append_nil]
      exact ⟨hrecalls, h.sound, events, hgrown, hnever, hview, hsettled⟩
    · have hagain := heard_emitted hheard hreceipt
      have hspent := reported_spent hc (heard_nodup h.recalls hheard) hview hagain
      obtain ⟨hsame, hsettled'⟩ := settled_again h.sound hsettled hagain hspent hsubmit
      exact ⟨hrecalls, submit_sound h.sound hsubmit, events, hgrown, hnever, hsame.trans hview,
        hsettled'⟩
  | @heard event hnext hrows hlog hsilent hnow =>
    obtain ⟨rfl, rfl⟩ := sink_quiet hsink rfl
    rw [List.append_nil]
    have hahead : Heard r bootId link (p.link.rows r ++ [event]) :=
      heard_grew (.ahead hnext) hrows (hlog ▸ List.prefix_rfl)
    refine ⟨hrecalls, h.sound, _, hahead, ?_, ?_⟩
    · intro event' hsome
      cases hnow.symm.trans hsome
      exact congrArg (· ++ [event]) hrows.symm
    · cases hheard with
      | rows =>
        rw [reported_silent hsilent]
        refine ⟨hview, ?_, hsettled.repeats, hsettled.answered⟩
        intro a ha res hres
        rw [recovered_emitted, hsilent, Option.toList_none, List.append_nil]
        exact hsettled.known a ha res hres
      | ahead hnext' =>
        cases Link.next_unique hnext hnext'
        exact ⟨hview, hsettled⟩
  | reported returned hnext hrows hlog hreceipt hnow =>
    exact kept_reported hc h hrecalls hnext hrows hlog hreceipt hnow hsink
  | @committed event _ hthen hrows hlog hidle hos =>
    obtain ⟨rfl, rfl⟩ := sink_quiet hsink hos
    rw [List.append_nil]
    have hevents := hunderway event hthen
    refine ⟨hrecalls, h.sound, events, ?_, ?_, hview, hsettled⟩
    · rw [hevents, ← hrows]
      exact .rows
    · intro event' hsome
      cases hidle.symm.trans hsome

theorem kept_step (hproducer : r.receiptProducer = some config) (hc : Sound c)
    (h : Kept r config bootId authority c answers p) {p' : Plant}
    (hstep : Step r bootId authority p new p') :
    Kept r config bootId authority c (answers ++ new) p' := by
  cases hstep with
  | served hreplays hsink =>
    obtain ⟨hheeds, hrecalls⟩ := Link.replays_heeds hproducer h.recalls hreplays
    exact kept_heeds hc h hheeds hrecalls hsink
  | restarted maxConnections =>
    obtain ⟨hheeds, hrecalls⟩ := Link.started_heeds hproducer h.recalls maxConnections
    exact kept_heeds hc h hheeds hrecalls (.quiet rfl)

theorem kept_initial (hc : Sound c) (hready : l.process.phase = .ready) (hrows : l.rows r = [])
    (hcursor : l.cursor r = none) : Kept r config bootId authority c [] ⟨l, c⟩ := by
  have hwhole : Link.Covers r bootId l.log (l.rows r) (l.rows r).length := by
    rw [hrows]
    exact Link.covers_nil (Nat.zero_le _)
  refine ⟨⟨Link.linked_initial hready hrows hcursor, hwhole, ?_⟩, hc, l.rows r, .rows, ?_, ?_, ?_⟩
  · dsimp only
    rw [hready]
    trivial
  · intro event hsome
    dsimp only at hsome
    rw [hready] at hsome
    cases hsome
  · rw [hrows]
    rfl
  · exact ⟨by simp, List.Pairwise.nil, by simp⟩

theorem kept_runs (hproducer : r.receiptProducer = some config) (hc : Sound c)
    (hready : l.process.phase = .ready) (hrows : l.rows r = []) (hcursor : l.cursor r = none)
    (hruns : Runs (Step r bootId authority) ⟨l, c⟩ answers p) :
    Kept r config bootId authority c answers p :=
  hruns.invariant (J := Kept r config bootId authority c) (kept_initial hc hready hrows hcursor)
    fun h hstep => kept_step hproducer hc h hstep

/-- Once the log is consumed, the core has exactly the receipts of the rows. -/
theorem Kept.consumed (h : Kept r config bootId authority c answers p) (hconsumed : p.Consumed r) :
    view p.core.working = view (reported config authority (p.link.rows r) c).working := by
  obtain ⟨events, hheard, -, hview, -⟩ := h.heard
  cases hheard with
  | rows => exact hview
  | ahead hnext =>
    obtain ⟨entry, hentry, -⟩ := hnext
    have hbound := (List.getElem?_eq_some_iff.mp hentry).1
    unfold Consumed at hconsumed
    omega

theorem Kept.rows_consumed (h : Kept r config bootId authority c answers p)
    (hconsumed : p.Consumed r) : (p.link.rows r).map .ok = p.link.log.entries.map fun entry =>
      project r.sourceInstanceId entry.frame bootId := by
  have hrows := h.recalls.whole.projected
  unfold Consumed at hconsumed
  rw [Nat.sub_self, List.drop_zero, hconsumed, List.take_length] at hrows
  exact hrows

theorem step_of_calm {p' : Plant} (h : Calm r bootId authority p new p') :
    Step r bootId authority p new p' := by
  cases h with
  | served hreplays hsink => exact .served hreplays hsink

end Plant

/-- The deliveries, the receipts and the audit of two cores are the same. -/
structure SameEffect (c c' : CoreStore) : Prop where
  deliveries : c.working.deliveries = c'.working.deliveries
  receipts : c.working.receipts = c'.working.receipts
  auditLog : c.working.auditLog = c'.working.auditLog

theorem sameEffect_of_view {c c' : CoreStore} (h : view c.working = view c'.working) :
    SameEffect c c' := by
  have hdeliveries := congrArg Tables.deliveries h
  have hreceipts := congrArg Tables.receipts h
  have haudit := congrArg Tables.auditLog h
  exact ⟨hdeliveries, hreceipts, haudit⟩

/-- Whatever crashes and whatever the sink loses, once the log is consumed the core is where each
receipt of the log, submitted once, would have put it, and where an undisturbed run puts it. A
receipt that is submitted again is a duplicate if it was accepted and rejected if it was rejected,
and with minted markers the core answers every time. -/
theorem exactly_once_effect [Host] (r : Resident) (bootId : String) {config : EmitterConfig}
    (hproducer : r.receiptProducer = some config) (authority : Option MarkerAuthority)
    (ops : List Op) {start : Link} (hready : start.process.phase = .ready)
    (hrows : start.rows r = []) (hcursor : start.cursor r = none) {p : Plant}
    {answers : List Answer}
    (hruns : Runs (Plant.Step r bootId authority) ⟨start, run ops CoreStore.empty⟩ answers p) :
    (p.Consumed r → ∃ events,
      events.map .ok = p.link.log.entries.map (fun entry =>
        project r.sourceInstanceId entry.frame bootId) ∧
      SameEffect p.core (reported config authority events (run ops CoreStore.empty)) ∧
      ∀ maxConnections undisturbed q, Runs (Plant.Calm r bootId authority)
          ⟨start.started r maxConnections, run ops CoreStore.empty⟩ undisturbed q →
        q.link.log.entries = p.link.log.entries → q.Consumed r → SameEffect p.core q.core) ∧
    answers.Pairwise (fun first later =>
      first.receipt = later.receipt → Repeats first.result later.result) ∧
    (HexDigests → Minted config → ∀ a ∈ answers, ∃ res, a.result = .ok res) := by
  have hc := sound_run ops sound_empty
  have hkept := Plant.kept_runs hproducer hc hready hrows hcursor hruns
  obtain ⟨_, -, -, -, hsettled⟩ := hkept.heard
  refine ⟨fun hconsumed => ?_, hsettled.repeats, hsettled.answered⟩
  refine ⟨p.link.rows r, hkept.rows_consumed hconsumed,
    sameEffect_of_view (hkept.consumed hconsumed), ?_⟩
  intro maxConnections undisturbed q hcalm hlog hq
  have hbegun : Plant.Step r bootId authority ⟨start, run ops CoreStore.empty⟩ []
      ⟨start.started r maxConnections, run ops CoreStore.empty⟩ := .restarted maxConnections
  have hwhole := (Runs.single hbegun).trans (hcalm.mono fun _ _ _ h => Plant.step_of_calm h)
  have hkept' := Plant.kept_runs hproducer hc hready hrows hcursor hwhole
  have hsame : q.link.rows r = p.link.rows r := by
    have hprojected := hkept'.rows_consumed hq
    rw [hlog, ← hkept.rows_consumed hconsumed] at hprojected
    exact List.map_injective_iff.mpr (fun _ _ h => Except.ok.inj h) hprojected
  have hview := hkept'.consumed hq
  rw [hsame] at hview
  exact sameEffect_of_view ((hkept.consumed hconsumed).trans hview.symm)

def Arrival.entry (a : Arrival) : LogEntry where
  frame := sampleFrame a.seq a.name a.payload
  seq := a.seq
  eventId := sampleEventId a.seq
  isEvent := by simp [sampleFrame, eqStr]
  seq_eq := by simp [sampleFrame, List.lookup_cons]
  id_eq := by simp [sampleFrame, List.lookup_cons]

def turnEntries : List LogEntry := [arrivingInput.entry, arrivingPrompt.entry, arrivingHook.entry]

theorem turnEntries_ordered : turnEntries.Pairwise fun a b => a.seq < b.seq := by
  simp [turnEntries, Arrival.entry, arrivingInput, arrivingPrompt, arrivingHook]

theorem turnEntries_distinct : (turnEntries.map (·.eventId)).Nodup := by
  simp only [turnEntries, List.map_cons, List.map_nil, Arrival.entry, arrivingInput, arrivingPrompt,
    arrivingHook]
  decide

/-- One turn up to its hook. -/
def turnLog : ServerLog := ⟨turnEntries, turnEntries_ordered, turnEntries_distinct⟩

/-- A core whose delivery waits for its prompt. -/
def turnSetup : List Op :=
  [.registerProvider "cmux" .sessionTransport [.transportSubmitAck, .harnessPromptAccepted],
   .registerSessionBinding { sampleBinding with
     proofMethods := [{ proofMethod := "cmux.event_bus.harness_hook_relay", sourceKind := .eventBus
                        sourceInstanceId := "cmux-1", correlationRule := .cmuxHarnessChain
                        evidenceClasses := [.harnessPromptAccepted] }] },
   .addDelivery sampleDelivery, .setDispatching "delivery-1",
   .submit (some sampleAuthority) sampleAck]

def turnReceipt : Receipt :=
  acceptedReceipt sampleConfig sampleChain "session-1" "2026-01-01T00:30:00Z"
    arrivingHook.observation.sourceEvent

def turnCore : CoreStore := @run sampleHost turnSetup CoreStore.empty

def enteredCore : CoreStore :=
  (@CoreStore.submit sampleHost (some sampleAuthority) turnReceipt turnCore).2

theorem submit_turnReceipt : @CoreStore.submit sampleHost (some sampleAuthority) turnReceipt
    turnCore = (.ok (.accepted .inSession none), enteredCore) := by
  refine Prod.ext ?_ rfl
  decide +kernel

theorem submit_turnReceipt_again : ∃ state disposition, @CoreStore.submit sampleHost
    (some sampleAuthority) turnReceipt enteredCore =
      (.ok (.duplicate state disposition), enteredCore) := by
  have hsound : Sound turnCore := @sound_run sampleHost turnSetup _ sound_empty
  have haudited : ¬ (turnReceipt.proofMethod = "" ∨ turnReceipt.observedAt = "") := by decide
  have hshaped : turnReceipt.proof ≠ some .other := by decide
  refine @submit_of_stored sampleHost _ _ _ haudited hshaped ?_
  exact (@stored_of_submit sampleHost _ _ _ _ _ hsound haudited hshaped submit_turnReceipt).mpr
    fun _ => ReceiptResult.noConfusion

def turnLink : Link := { process := {}, log := turnLog, position := 0 }

section SampleSteps

variable [Host] {authority : Option MarkerAuthority} {core core' : CoreStore}
  {answers : List Answer} {outbox outbox' : Outbox} {session : Session} {position : Nat}

/-- A step that submits nothing. -/
theorem calm_quiet {l l' : Link} {os : List Occurrence}
    (h : l.Replays sampleResident "boot-1" os l') (hos : submissions os = []) :
    Plant.Calm sampleResident "boot-1" authority ⟨l, core⟩ [] ⟨l', core⟩ := by
  refine .served h (.quiet hos) fun receipt hmem => ?_
  have hsubmitted : receipt ∈ submissions os := List.mem_filterMap.mpr ⟨_, hmem, rfl⟩
  rw [hos] at hsubmitted
  cases hsubmitted

/-- The first connection of an empty outbox, with the whole log to replay. -/
theorem calm_opened : ∃ tally session, session.gap = false ∧ session.ack.bootId = "boot-1" ∧
    Runs (Plant.Calm sampleResident "boot-1" authority) ⟨turnLink.started sampleResident 1, core⟩ []
      ⟨⟨reading tally session {} {}, turnLog, 0⟩, core⟩ := by
  let began : Tally := { maxConnections := 1, left := 1 }
  let greeting : Process := ⟨{}, {}, .running streamTally (.handshake none)⟩
  let session : Session :=
    { durableBefore := none, ack := ⟨"boot-1", 3, ⟨none, 0, 3, 4, false⟩⟩, gap := false
      remainingReplay := 3, insertedBefore := 0, duplicatesBefore := 0 }
  have hgreeted : greeting.next sampleResident (.frame (.ok (some (sampleAckFrame 3 3 false)))) =
      some (reading streamTally session {} {}, [.acknowledged "boot-1" false]) := by
    simp only [greeting, Process.next, Process.acknowledge, parse_sampleAckFrame 3 3 false]
    rfl
  have step₁ : Link.Serves sampleResident "boot-1" (turnLink.started sampleResident 1) []
      ⟨⟨{}, {}, .running began .connecting⟩, turnLog, 0⟩ :=
    @Link.Serves.internal _ _ _ _ (.proceed true) _ _ trivial rfl
  have step₂ : Link.Serves sampleResident "boot-1"
      ⟨⟨{}, {}, .running began .connecting⟩, turnLog, 0⟩ [.requested none]
      ⟨greeting, turnLog, 0⟩ := @Link.Serves.internal _ _ _ _ (.opened (.ok ())) _ _ trivial rfl
  have step₃ : Link.Serves sampleResident "boot-1" ⟨greeting, turnLog, 0⟩
      [.acknowledged "boot-1" false] ⟨reading streamTally session {} {}, turnLog, 0⟩ :=
    .greeted rfl (parse_sampleAckFrame 3 3 false) rfl rfl
      ⟨Nat.zero_le _, fun _ h => by cases h⟩ rfl hgreeted
  exact ⟨streamTally, session, rfl, rfl,
    ((Runs.single (calm_quiet ⟨step₁, fun _ _ _ h => by cases h⟩ rfl)).tail
      (calm_quiet ⟨step₂, fun _ _ _ h => by cases h⟩ rfl)).tail
      (calm_quiet ⟨step₃, fun _ _ _ _ _ => rfl⟩ rfl)⟩

/-- One event of the log on a connection, up to its commit. -/
theorem calm_event (a : Arrival) (p : Production) (tally : Tally)
    (hentry : turnLog.entries[position]? = some a.entry) (hgap : session.gap = false)
    (hboot : session.ack.bootId = "boot-1")
    (hreturns : (p.state.feed sampleConfig a.observation).error = none)
    (hcommit : outbox.commitEvent a.event false = .ok (.inserted, outbox'))
    (hsink : Sink authority core ((p.state.feed sampleConfig a.observation).receipt.toList.map
      (.submitted · true)) answers core') :
    ∃ tally' session', session'.gap = false ∧ session'.ack.bootId = "boot-1" ∧
      Runs (Plant.Calm sampleResident "boot-1" authority)
        ⟨⟨reading tally session outbox p.state, turnLog, position⟩, core⟩ answers
        ⟨⟨reading tally' session' outbox' (p.feed sampleConfig returning a.observation).state,
          turnLog, position + 1⟩, core'⟩ := by
  obtain ⟨session', hreading, hgap', hack⟩ :=
    Link.account_reading (tally.count .inserted) a.event hgap
  have hobserve := @observe_feed _ sampleResident _ _ rfl _ _ a.translate hreturns
  have step₁ : Link.Serves sampleResident "boot-1"
      ⟨reading tally session outbox p.state, turnLog, position⟩ []
      ⟨⟨outbox, p.state, .running tally (.observing session a.event)⟩, turnLog, position + 1⟩ :=
    .sent rfl hentry (next_sampleFrame rfl a.kept a.named rfl hboot)
  have step₂ : Link.Serves sampleResident "boot-1"
      ⟨⟨outbox, p.state, .running tally (.observing session a.event)⟩, turnLog, position + 1⟩
      ((p.state.feed sampleConfig a.observation).receipt.toList.map (.submitted · true))
      ⟨⟨outbox, (p.feed sampleConfig returning a.observation).state,
        .running tally (.committing session a.event)⟩, turnLog, position + 1⟩ := by
    refine @Link.Serves.internal _ _ _ _ (.proceed true) _ _ trivial ?_
    simp only [Process.next, Process.observe, hobserve]
  have step₃ : Link.Serves sampleResident "boot-1"
      ⟨⟨outbox, (p.feed sampleConfig returning a.observation).state,
        .running tally (.committing session a.event)⟩, turnLog, position + 1⟩
      [.committed a.event .inserted]
      ⟨reading (Process.account (tally.count .inserted) session a.event).1 session' outbox'
        (p.feed sampleConfig returning a.observation).state, turnLog, position + 1⟩ := by
    refine @Link.Serves.internal _ _ _ _ (.proceed true) _ _ trivial ?_
    simp only [Process.next, Process.commit, hgap, hcommit, hreading]
    rfl
  have hobserved : Link.Replays sampleResident "boot-1" _ _ _ :=
    ⟨step₂, fun _ _ _ h => by cases h⟩
  have hanswered : ∀ receipt, .submitted receipt false ∉ (p.state.feed sampleConfig
      a.observation).receipt.toList.map (Occurrence.submitted · true) := by simp
  refine ⟨(Process.account (tally.count .inserted) session a.event).1, session', hgap',
    hack ▸ hboot, ?_⟩
  have hruns := ((Runs.single (calm_quiet ⟨step₁, fun _ _ _ h => by cases h⟩ rfl)).tail
    (Plant.Calm.served hobserved hsink fun receipt hmem => absurd hmem (hanswered receipt))).tail
    (calm_quiet ⟨step₃, fun _ _ _ h => by cases h⟩ rfl)
  rwa [List.nil_append, List.append_nil] at hruns

/-- A row of the outbox, observed again. -/
theorem replay_event (a : Arrival) (p : Production) (tally : Tally) (left : List DerivedEvent)
    (hreturns : (p.state.feed sampleConfig a.observation).error = none)
    (hsink : Sink authority core ((p.state.feed sampleConfig a.observation).receipt.toList.map
      (.submitted · true)) answers core') :
    Plant.Step sampleResident "boot-1" authority
      ⟨⟨⟨outbox, p.state, .running tally (.recovering (a.event :: left))⟩, turnLog, position⟩, core⟩
      answers
      ⟨⟨⟨outbox, (p.feed sampleConfig returning a.observation).state,
        .running tally (.recovering left)⟩, turnLog, position⟩, core'⟩ := by
  have hobserve := @observe_feed _ sampleResident _ _ rfl _ _ a.translate hreturns
  have hserves : Link.Serves sampleResident "boot-1"
      ⟨⟨outbox, p.state, .running tally (.recovering (a.event :: left))⟩, turnLog, position⟩
      ((p.state.feed sampleConfig a.observation).receipt.toList.map (.submitted · true))
      ⟨⟨outbox, (p.feed sampleConfig returning a.observation).state,
        .running tally (.recovering left)⟩, turnLog, position⟩ := by
    refine @Link.Serves.internal _ _ _ _ (.proceed true) _ _ trivial ?_
    simp only [Process.next, Process.observe, hobserve]
  exact .served ⟨hserves, fun _ _ _ h => by cases h⟩ hsink

end SampleSteps

/-- The hook's receipt is accepted, the resident dies after the commit, and the next run submits the
receipt again. -/
theorem exactly_once_effect_sample : ∃ (again : Except PyError ReceiptResult) (p : Plant),
    Runs (@Plant.Step sampleHost sampleResident "boot-1" (some sampleAuthority))
      ⟨turnLink, turnCore⟩
      [⟨turnReceipt, .ok (.accepted .inSession none)⟩, ⟨turnReceipt, again⟩] p ∧
    p.Consumed sampleResident ∧
    (∃ state disposition, again = .ok (.duplicate state disposition)) ∧
    SameEffect p.core enteredCore := by
  let feed := @Production.feed sampleHost sampleConfig returning
  let first := feed {} arrivingInput.observation
  let second := feed first arrivingPrompt.observation
  let third := feed second arrivingHook.observation
  have hsilent₁ : (@ProducerState.feed sampleHost sampleConfig {}
      arrivingInput.observation).receipt = none := by decide +kernel
  have hsilent₂ : (@ProducerState.feed sampleHost sampleConfig first.state
      arrivingPrompt.observation).receipt = none := by decide +kernel
  have hsubmits : (@ProducerState.feed sampleHost sampleConfig second.state
      arrivingHook.observation).receipt = some turnReceipt := by decide +kernel
  have hquiet : ∀ {receipt : Option Receipt} (core : CoreStore), receipt = none →
      @Sink sampleHost (some sampleAuthority) core
        (receipt.toList.map (Occurrence.submitted · true)) [] core := by
    rintro receipt core rfl
    exact @Sink.quiet sampleHost _ _ _ rfl
  obtain ⟨state, disposition, hduplicate⟩ := submit_turnReceipt_again
  have haccepted : @Sink sampleHost (some sampleAuthority) turnCore
      ((@ProducerState.feed sampleHost sampleConfig second.state
        arrivingHook.observation).receipt.toList.map (Occurrence.submitted · true))
      [⟨turnReceipt, .ok (.accepted .inSession none)⟩] enteredCore := by
    rw [hsubmits]
    exact @Sink.answered sampleHost _ _ _ _ _ submit_turnReceipt
  have hrepeated : @Sink sampleHost (some sampleAuthority) enteredCore
      ((@ProducerState.feed sampleHost sampleConfig second.state
        arrivingHook.observation).receipt.toList.map (Occurrence.submitted · true))
      [⟨turnReceipt, .ok (.duplicate state disposition)⟩] enteredCore := by
    rw [hsubmits]
    exact @Sink.answered sampleHost _ _ _ _ _ hduplicate
  have hreturns₁ : (@ProducerState.feed sampleHost sampleConfig {}
      arrivingInput.observation).error = none := by decide +kernel
  have hreturns₂ : (@ProducerState.feed sampleHost sampleConfig first.state
      arrivingPrompt.observation).error = none := by decide +kernel
  have hreturns₃ : (@ProducerState.feed sampleHost sampleConfig second.state
      arrivingHook.observation).error = none := by decide +kernel
  obtain ⟨tally, session, hgap, hboot, hopened⟩ := @calm_opened sampleHost
    (some sampleAuthority) turnCore
  obtain ⟨tally₁, session₁, hgap₁, hboot₁, hinput⟩ := @calm_event sampleHost _ _ _ _ _ _ _ 0
    arrivingInput {} tally rfl hgap hboot hreturns₁ commit_input (hquiet turnCore hsilent₁)
  obtain ⟨tally₂, session₂, hgap₂, hboot₂, hprompt⟩ := @calm_event sampleHost _ _ _ _ _ _ _ 1
    arrivingPrompt first tally₁ rfl hgap₁ hboot₁ hreturns₂ commit_prompt (hquiet turnCore hsilent₂)
  obtain ⟨tally₃, session₃, -, -, hhook⟩ := @calm_event sampleHost _ _ _ _ _ _ _ 2
    arrivingHook second tally₂ rfl hgap₂ hboot₂ hreturns₃ commit_hook haccepted
  have hcalm := ((hopened.trans hinput).trans hprompt).trans hhook
  let whole : Link := ⟨reading tally₃ session₃ hookOutbox third.state, turnLog, 3⟩
  have hbegun : @Plant.Step sampleHost sampleResident "boot-1" (some sampleAuthority)
      ⟨turnLink, turnCore⟩ [] ⟨turnLink.started sampleResident 1, turnCore⟩ :=
    @Plant.Step.restarted sampleHost _ _ _ _ 1
  have hdied : @Plant.Step sampleHost sampleResident "boot-1" (some sampleAuthority)
      ⟨whole, enteredCore⟩ [] ⟨whole.started sampleResident 1, enteredCore⟩ :=
    @Plant.Step.restarted sampleHost _ _ _ _ 1
  have hrecovered : Runs (@Plant.Step sampleHost sampleResident "boot-1" (some sampleAuthority))
      ⟨whole.started sampleResident 1, enteredCore⟩
      [⟨turnReceipt, .ok (.duplicate state disposition)⟩]
      ⟨⟨⟨hookOutbox, third.state, .running { maxConnections := 1, left := 1 } (.recovering [])⟩,
        turnLog, 3⟩, enteredCore⟩ :=
    ((Runs.single (@replay_event sampleHost _ _ _ _ hookOutbox 3 arrivingInput {} _
      [arrivingPrompt.event, arrivingHook.event] hreturns₁ (hquiet enteredCore hsilent₁))).tail
      (@replay_event sampleHost _ _ _ _ hookOutbox 3 arrivingPrompt first _
        [arrivingHook.event] hreturns₂ (hquiet enteredCore hsilent₂))).tail
      (@replay_event sampleHost _ _ _ _ hookOutbox 3 arrivingHook second _ [] hreturns₃ hrepeated)
  have hruns := (((Runs.single hbegun).trans
    (hcalm.mono fun _ _ _ h => @Plant.step_of_calm sampleHost _ _ _ _ _ _ h)).tail hdied).trans
    hrecovered
  obtain ⟨heffect, hrepeats, -⟩ := @exactly_once_effect sampleHost sampleResident "boot-1"
    sampleConfig rfl (some sampleAuthority) turnSetup turnLink rfl rfl rfl _ _ hruns
  obtain ⟨_, -, -, hundisturbed⟩ := heffect rfl
  refine ⟨_, _, hruns, rfl, ?_, hundisturbed 1 _ _ hcalm rfl rfl⟩
  exact (List.pairwise_cons.mp hrepeats).1 _ (List.mem_singleton_self _) rfl

end Yatagarasu.Cmux
