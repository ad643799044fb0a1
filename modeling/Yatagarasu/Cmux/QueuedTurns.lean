import Yatagarasu.Cmux.StrayStops

/-! A message may be queued while a turn still runs: the next input and the next prompt then come
before the stop of the running turn. The filter counts that stop to the marker of the queued prompt.
-/

namespace Yatagarasu.Cmux

open PyJson ReceiptReducer

/-- The four observations of a turn, the marker on the wire and what the lookup makes of it. -/
structure QueuedTurn where
  delivery : Delivery
  marker : DeliveryMarker
  wire : WireMarker
  input : TranslatedObservation
  prompt : TranslatedObservation
  hook : TranslatedObservation
  stop : TranslatedObservation

namespace QueuedTurn

/-- A turn of this workspace and session, whose marker resolves to a delivery with a binding. -/
structure Fits (config : EmitterConfig) (key session : String) (turn : QueuedTurn) : Prop where
  input : turn.input.Is inputSent key
  prompt : turn.prompt.Is promptSubmitted key
  marked : turn.prompt.marker = some turn.wire
  hook : turn.hook.Begins key session
  stop : turn.stop.Is Cmux.stop key ∧ turn.stop.premature = false ∧ turn.stop.session = some session
  resolved : config.deliveryLookup turn.wire.deliveryId = some (turn.delivery, turn.marker)
  bound : present turn.delivery.bindingId ≠ none

def chain (turn : QueuedTurn) : ActiveChain :=
  ⟨turn.delivery, turn.marker,
    [turn.input.sourceEvent, turn.prompt.sourceEvent, turn.hook.sourceEvent]⟩

/-- The receipt of the chain input, prompt, hook. -/
def accepted (config : EmitterConfig) (session : String) (turn : QueuedTurn) : Receipt :=
  acceptedReceipt config turn.chain session turn.hook.observedAt turn.hook.sourceEvent

/-- The receipt of the chain input, prompt, hook, stop. -/
def completed (config : EmitterConfig) (session : String) (turn : QueuedTurn) : Receipt :=
  completedReceipt config turn.chain session turn.stop.observedAt turn.stop.sourceEvent

end QueuedTurn

/-- Where the stop of a turn stands among the input and the prompt of the next. -/
inductive StopPlace
  | beforeInput
  | beforePrompt
  | afterPrompt
  deriving DecidableEq

/-- What lies between two hooks: the stop of the first turn, the input and the prompt of the
second. -/
def betweenHooks (turn next : QueuedTurn) : StopPlace → List TranslatedObservation
  | .beforeInput => [turn.stop, next.input, next.prompt]
  | .beforePrompt => [next.input, turn.stop, next.prompt]
  | .afterPrompt => [next.input, next.prompt, turn.stop]

/-- What follows a hook. -/
def afterHook (turn : QueuedTurn) : List (StopPlace × QueuedTurn) → List TranslatedObservation
  | [] => [turn.stop]
  | (place, next) :: rest => betweenHooks turn next place ++ next.hook :: afterHook next rest

/-- A sequence of turns, each queued at some point after the hook of the one before. -/
def queuedSequence (turn : QueuedTurn) (rest : List (StopPlace × QueuedTurn)) :
    List TranslatedObservation :=
  turn.input :: turn.prompt :: turn.hook :: afterHook turn rest

section View

variable [Host] {config : EmitterConfig} {client : CoreClient} {p : Production}
  {obs : TranslatedObservation} {key session : String} {pending : Option PendingChain}
  {active : Option ActiveChain} {turn : WorkspaceChain}

/-- What a production knows of a workspace and a session. -/
structure View (p : Production) (key session : String) (pending : Option PendingChain)
    (active : Option ActiveChain) (turn : WorkspaceChain) : Prop where
  pending : p.pending key = pending
  active : p.active (key, session) = active
  turn : p.turn key = turn

/-- An observation that the filter admits, seen from its own workspace. -/
theorem view_feed {reaction : Reaction EmitterState} (h : View p key session pending active turn)
    (hkey : obs.key = key) (hadmits : (turn.admits obs).1 = true)
    (hreaction : p.state.emitter.observe config obs.sourceEvent obs.payload obs.observedAt
      obs.workspaceId = reaction) :
    View (p.feed config client obs) key session
        ((reaction.next (client p.emitted)).pendingChains key)
        ((reaction.next (client p.emitted)).activeChains (key, session)) (turn.admits obs).2 ∧
      (p.feed config client obs).emitted = p.emitted ++ reaction.receipt.toList := by
  have haccepts : (acceptForEmission p.state.workspaceChains obs).1 = true := by
    rw [acceptForEmission_fst, hkey]
    exact (congrArg (fun turn => (turn.admits obs).1) h.turn).trans hadmits
  have hfed : p.reaction config obs = reaction := by
    unfold Production.reaction
    rw [if_pos haccepts, hreaction]
  refine ⟨⟨?_, ?_, ?_⟩, ?_⟩
  · rw [Production.feed_eq, hfed]
    rfl
  · rw [Production.feed_eq, hfed]
    rfl
  · rw [turn_feed, if_pos hkey.symm, hkey, h.turn]
  · rw [Production.feed_eq, hfed]

omit [Host] in
theorem admits_input (h : obs.name = inputSent) (turn : WorkspaceChain) :
    turn.admits obs = (true, {}) := by
  unfold WorkspaceChain.admits
  rw [not_premature_of_name (Or.inl h), if_neg Bool.false_ne_true, if_pos h]

omit [Host] in
/-- A free slot of the turn that the observation enters. -/
theorem admits_free (hpremature : obs.premature = false) (hinput : obs.name ≠ inputSent)
    (hslot : obs.name ∈ slotNames)
    (hfree : (obs.name, (turn.entered obs.sourceEvent).markerSignature) ∉
      (turn.entered obs.sourceEvent).accepted) :
    turn.admits obs = (true, { turn.entered obs.sourceEvent with
      accepted := (obs.name, (turn.entered obs.sourceEvent).markerSignature) ::
        (turn.entered obs.sourceEvent).accepted }) := by
  unfold WorkspaceChain.admits
  rw [hpremature, if_neg Bool.false_ne_true, if_neg hinput, if_pos hslot, if_neg hfree]

omit [Host] in
/-- A hook or a stop is counted to the marker that the workspace has. -/
theorem entered_of_ne (h : obs.name ≠ promptSubmitted) : turn.entered obs.sourceEvent = turn :=
  if_neg h

theorem view_input (config : EmitterConfig) (client : CoreClient)
    (h : View p key session pending active turn) (hobs : obs.Is inputSent key) :
    View (p.feed config client obs) key session (some { inputEvent := some obs.sourceEvent })
        active {} ∧ (p.feed config client obs).emitted = p.emitted := by
  have hadmits := admits_input hobs.1 turn
  have hkey : workspaceKey obs.workspaceId = key := hobs.2
  have hreaction : p.state.emitter.observe config obs.sourceEvent obs.payload obs.observedAt
      obs.workspaceId = .silent (p.state.emitter.observeInput obs.sourceEvent key) := by
    unfold EmitterState.observe
    rw [if_pos (show obs.sourceEvent.eventName = inputSent from hobs.1), hkey]
  obtain ⟨hview, hemitted⟩ := view_feed h hobs.2 (by rw [hadmits]) hreaction
  refine ⟨⟨?_, ?_, ?_⟩, by simpa [Reaction.receipt] using hemitted⟩
  · simpa [Reaction.next, EmitterState.observeInput] using hview.pending
  · exact hview.active.trans h.active
  · rw [hview.turn, hadmits]

theorem view_prompt (config : EmitterConfig) (client : CoreClient) {marker : WireMarker}
    (h : View p key session pending active turn)
    (hobs : obs.Is promptSubmitted key) (hmarker : obs.marker = some marker)
    (hmarked : turn.markerSignature = none)
    (hfree : (promptSubmitted, obs.sourceEvent.markerSignature) ∉ turn.accepted) :
    View (p.feed config client obs) key session
        (some { pending.getD {} with
          promptEvent := some obs.sourceEvent, decodedMarker := some marker })
        active ⟨obs.sourceEvent.markerSignature,
          (promptSubmitted, obs.sourceEvent.markerSignature) :: turn.accepted⟩ ∧
      (p.feed config client obs).emitted = p.emitted := by
  have hname : obs.sourceEvent.eventName = promptSubmitted := hobs.1
  have hentered : turn.entered obs.sourceEvent =
      ⟨obs.sourceEvent.markerSignature, turn.accepted⟩ := by
    simp [WorkspaceChain.entered, hname, hmarked]
  have hadmits : turn.admits obs = (true, ⟨obs.sourceEvent.markerSignature,
      (promptSubmitted, obs.sourceEvent.markerSignature) :: turn.accepted⟩) := by
    have hslots := admits_free (not_premature_of_name (Or.inr hobs.1)) (by rw [hobs.1]; decide)
      (by rw [hobs.1]; decide) (by rw [hentered, hobs.1]; exact hfree)
    rw [hslots, hentered, hobs.1]
  have hkey : workspaceKey obs.workspaceId = key := hobs.2
  have hpreview : previewMarker obs.payload = .ok (some marker) := by
    rcases previewMarker_eq hobs.1 with ⟨e, -, hnone⟩ | hok
    · rw [hmarker] at hnone
      cases hnone
    · rw [hok, hmarker]
  have hreaction : p.state.emitter.observe config obs.sourceEvent obs.payload obs.observedAt
      obs.workspaceId = .silent { p.state.emitter with
        pendingChains := Function.update p.pending key (some { pending.getD {} with
          promptEvent := some obs.sourceEvent, decodedMarker := some marker }) } := by
    unfold EmitterState.observe
    rw [hname, if_neg (by decide), if_pos rfl, hkey]
    unfold EmitterState.observePrompt
    rw [hpreview, ← h.pending]
    rfl
  obtain ⟨hview, hemitted⟩ := view_feed h hobs.2 (by rw [hadmits]) hreaction
  refine ⟨⟨?_, ?_, ?_⟩, by simpa [Reaction.receipt] using hemitted⟩
  · simpa [Reaction.next] using hview.pending
  · exact hview.active.trans h.active
  · rw [hview.turn, hadmits]

theorem view_hook (client : CoreClient) {chain : ActiveChain}
    (h : View p key session pending active turn) (hobs : obs.Begins key session)
    (hfree : (userPromptSubmit, turn.markerSignature) ∉ turn.accepted)
    (hchain : correlate config pending obs.sourceEvent = some chain) :
    View (p.feed config client obs) key session none
        (if client p.emitted (acceptedReceipt config chain session obs.observedAt obs.sourceEvent)
          then some chain else active)
        { turn with accepted := (userPromptSubmit, turn.markerSignature) :: turn.accepted } ∧
      (p.feed config client obs).emitted =
        p.emitted ++ [acceptedReceipt config chain session obs.observedAt obs.sourceEvent] := by
  obtain ⟨⟨hobserved, hkey⟩, hpremature, hsession⟩ := hobs
  have hname : obs.sourceEvent.eventName = userPromptSubmit := hobserved
  have hentered : turn.entered obs.sourceEvent = turn := entered_of_ne (by rw [hobserved]; decide)
  have hadmits : turn.admits obs = (true,
      { turn with accepted := (userPromptSubmit, turn.markerSignature) :: turn.accepted }) := by
    rw [admits_free hpremature (by rw [hobserved]; decide) (by rw [hobserved]; decide)
      (by rw [hentered, hobserved]; exact hfree), hentered, hobserved]
  have hworkspace : workspaceKey obs.workspaceId = key := hkey
  have hpresent : present obs.sourceEvent.sessionId = some session := hsession
  have hpending : p.state.emitter.pendingChains key = pending := h.pending
  have hreaction : p.state.emitter.observe config obs.sourceEvent obs.payload obs.observedAt
      obs.workspaceId = .submits
        (acceptedReceipt config chain session obs.observedAt obs.sourceEvent)
        ⟨Function.update p.active (key, session) (some chain), Function.update p.pending key none⟩
        ⟨p.active, Function.update p.pending key none⟩ := by
    unfold EmitterState.observe
    rw [hname, if_neg (by decide), if_neg (by decide), if_pos rfl, hworkspace]
    unfold EmitterState.observeUserPromptSubmit
    simp only [hpresent, hpending, hchain]
    rfl
  obtain ⟨hview, hemitted⟩ := view_feed h hkey (by rw [hadmits]) hreaction
  rw [Reaction.next] at hview
  refine ⟨⟨?_, ?_, ?_⟩, hemitted⟩
  · rw [hview.pending]
    split <;> simp
  · rw [hview.active]
    split
    · simp
    · exact h.active
  · rw [hview.turn, hadmits]

/-- A stop closes the chain of its session if its slot is free. -/
theorem view_stop {chain : ActiveChain} (h : View p key session pending (some chain) turn)
    (hobs : obs.Is stop key) (hpremature : obs.premature = false)
    (hsession : obs.session = some session) (hbound : present chain.delivery.bindingId ≠ none)
    (hfree : (stop, turn.markerSignature) ∉ turn.accepted) :
    View (p.feed config client obs) key session pending none
        { turn with accepted := (stop, turn.markerSignature) :: turn.accepted } ∧
      (p.feed config client obs).emitted =
        p.emitted ++ [completedReceipt config chain session obs.observedAt obs.sourceEvent] := by
  have hname : obs.sourceEvent.eventName = stop := hobs.1
  have hentered : turn.entered obs.sourceEvent = turn := entered_of_ne (by rw [hobs.1]; decide)
  have hadmits : turn.admits obs = (true,
      { turn with accepted := (stop, turn.markerSignature) :: turn.accepted }) := by
    rw [admits_free hpremature (by rw [hobs.1]; decide) (by rw [hobs.1]; decide)
      (by rw [hentered, hobs.1]; exact hfree), hentered, hobs.1]
  have hworkspace : workspaceKey obs.workspaceId = key := hobs.2
  have hpresent : present obs.sourceEvent.sessionId = some session := hsession
  have hactive : p.state.emitter.activeChains (key, session) = some chain := h.active
  have hreaction : p.state.emitter.observe config obs.sourceEvent obs.payload obs.observedAt
      obs.workspaceId = .submits
        (completedReceipt config chain session obs.observedAt obs.sourceEvent)
        ⟨Function.update p.active (key, session) none, p.pending⟩
        ⟨Function.update p.active (key, session) none, p.pending⟩ := by
    unfold EmitterState.observe
    rw [hname, if_neg (by decide), if_neg (by decide), if_neg (by decide), if_pos rfl, hworkspace]
    unfold EmitterState.observeStop
    simp only [hpresent, hactive, hbound, if_false]
    rfl
  obtain ⟨hview, hemitted⟩ := view_feed h hobs.2 (by rw [hadmits]) hreaction
  rw [Reaction.next, ite_self] at hview
  refine ⟨⟨?_, ?_, ?_⟩, hemitted⟩
  · exact hview.pending.trans h.pending
  · simpa using hview.active
  · rw [hview.turn, hadmits]

/-- The filter refuses the observation, or the emitter has no use for it. -/
inductive WorkspaceChain.Passes (turn : WorkspaceChain) (obs : TranslatedObservation) : Prop
  | premature : obs.premature = true → turn.Passes obs
  | other : obs.name ≠ inputSent → obs.name ∉ slotNames → turn.Passes obs
  | taken : obs.name ∈ slotNames → turn.entered obs.sourceEvent = turn →
      (obs.name, turn.markerSignature) ∈ turn.accepted → turn.Passes obs

omit [Host] in
theorem WorkspaceChain.Passes.admits (h : turn.Passes obs) : (turn.admits obs).2 = turn := by
  unfold WorkspaceChain.admits
  cases h with
  | premature hpremature => rw [if_pos hpremature]
  | other hinput hslot =>
    have hprompt : obs.name ≠ promptSubmitted := fun hname => hslot (by rw [hname]; decide)
    rw [if_neg hinput, if_neg hslot, entered_of_ne hprompt]
    split <;> rfl
  | taken hslot hentered htaken =>
    have hinput : obs.name ≠ inputSent := by
      intro hname
      rw [hname] at hslot
      exact absurd hslot (by decide)
    rw [hentered, if_neg hinput, if_pos hslot, if_pos htaken]
    split <;> rfl

theorem reaction_passed (h : (p.turn obs.key).Passes obs) :
    p.reaction config obs = .silent p.state.emitter := by
  cases h with
  | premature hpremature =>
    refine reaction_refused ?_
    rw [WorkspaceChain.admits, if_pos hpremature]
  | other hinput hslot =>
    have hnames : obs.name ≠ promptSubmitted ∧ obs.name ≠ userPromptSubmit ∧ obs.name ≠ stop := by
      simpa [slotNames] using hslot
    unfold Production.reaction EmitterState.observe
    rw [if_neg (show obs.sourceEvent.eventName ≠ _ from hinput), if_neg (show
      obs.sourceEvent.eventName ≠ _ from hnames.1), if_neg (show obs.sourceEvent.eventName ≠ _ from
      hnames.2.1), if_neg (show obs.sourceEvent.eventName ≠ _ from hnames.2.2), ite_self]
  | taken hslot hentered htaken =>
    have hinput : obs.name ≠ inputSent := by
      intro hname
      rw [hname] at hslot
      exact absurd hslot (by decide)
    refine reaction_refused ?_
    unfold WorkspaceChain.admits
    rw [hentered, if_neg hinput, if_pos hslot, if_pos htaken, ite_self]

/-- What passes leaves the workspace as it was. -/
theorem view_passed (config : EmitterConfig) (client : CoreClient)
    (h : View p key session pending active turn) (hkey : obs.key = key)
    (hpasses : turn.Passes obs) :
    View (p.feed config client obs) key session pending active turn ∧
      (p.feed config client obs).emitted = p.emitted := by
  have hreaction : p.reaction config obs = .silent p.state.emitter := by
    apply reaction_passed
    rw [hkey, h.turn]
    exact hpasses
  refine ⟨⟨?_, ?_, ?_⟩, ?_⟩
  · rw [← h.pending, Production.feed_eq, hreaction]
    rfl
  · rw [← h.active, Production.feed_eq, hreaction]
    rfl
  · rw [turn_feed, if_pos hkey.symm, hkey, h.turn, hpasses.admits]
  · rw [Production.feed_eq, hreaction]
    simp [Reaction.receipt]

end View

section Turns

variable [Host] {config : EmitterConfig} {p : Production} {key session : String}
  {turn next : QueuedTurn} {blocked : Bool}

/-- A turn that fits, with the signature that its prompt carries. -/
structure QueuedTurn.Signed (config : EmitterConfig) (key session : String) (turn : QueuedTurn) :
    Prop extends turn.Fits config key session where
  signed : turn.prompt.sourceEvent.markerSignature = some turn.wire.signature

/-- The turn is open; `blocked` says whether its stop is already counted as seen. -/
def Running (key session : String) (turn : QueuedTurn) (blocked : Bool) (p : Production) : Prop :=
  ∃ seen, View p key session none (some turn.chain) ⟨some turn.wire.signature, seen⟩ ∧
    ((stop, some turn.wire.signature) ∈ seen ↔ blocked)

theorem running_hook {seen : List (String × Option String)} {active : Option ActiveChain}
    (hfits : turn.Signed config key session)
    (h : View p key session (some ⟨some turn.input.sourceEvent, some turn.prompt.sourceEvent,
      some turn.wire⟩) active ⟨some turn.wire.signature, seen⟩)
    (hfree : (userPromptSubmit, some turn.wire.signature) ∉ seen)
    (hblocked : (stop, some turn.wire.signature) ∈ seen ↔ blocked) :
    Running key session turn blocked (p.feed config returning turn.hook) ∧
      (p.feed config returning turn.hook).emitted =
        p.emitted ++ [turn.accepted config session] := by
  have hchain : correlate config (some ⟨some turn.input.sourceEvent, some turn.prompt.sourceEvent,
      some turn.wire⟩) turn.hook.sourceEvent = some turn.chain := by
    simp only [correlate, hfits.resolved, hfits.bound, if_false]
    rfl
  obtain ⟨hview, hemitted⟩ := view_hook returning h hfits.hook hfree hchain
  refine ⟨⟨_, hview, ?_⟩, hemitted⟩
  have hother : (stop, some turn.wire.signature) ≠ (userPromptSubmit, some turn.wire.signature) := by
    simp [stop, userPromptSubmit]
  rw [List.mem_cons, or_iff_right hother]
  exact hblocked

/-- The receipt that the stop of a turn makes. -/
def stopReceipts (config : EmitterConfig) (session : String) (turn : QueuedTurn) (lost : Bool) :
    List Receipt :=
  if lost then [] else [turn.completed config session]

/-- The stop of an open turn, where its slot stands as `blocked` says. -/
theorem running_stop (hfits : turn.Signed config key session)
    (h : Running key session turn blocked p) : ∃ active turn',
      View (p.feed config returning turn.stop) key session none active turn' ∧
        (p.feed config returning turn.stop).emitted =
          p.emitted ++ stopReceipts config session turn blocked := by
  obtain ⟨seen, hview, hblocked⟩ := h
  obtain ⟨hstop, hpremature, hsession⟩ := hfits.stop
  cases blocked with
  | true =>
    have hentered : WorkspaceChain.entered ⟨some turn.wire.signature, seen⟩
        turn.stop.sourceEvent = ⟨some turn.wire.signature, seen⟩ :=
      entered_of_ne (by rw [hstop.1]; decide)
    have hpasses : WorkspaceChain.Passes ⟨some turn.wire.signature, seen⟩ turn.stop :=
      .taken (by rw [hstop.1]; decide) hentered (by rw [hstop.1]; exact hblocked.mpr rfl)
    obtain ⟨hafter, hemitted⟩ := view_passed config returning hview hstop.2 hpasses
    exact ⟨_, _, hafter, by simpa [stopReceipts] using hemitted⟩
  | false =>
    obtain ⟨hafter, hemitted⟩ := view_stop hview hstop hpremature hsession hfits.bound
      fun htaken => Bool.false_ne_true (hblocked.mp htaken)
    exact ⟨_, _, hafter, hemitted⟩

/-- From one hook to the next. -/
theorem running_next (hfits : turn.Signed config key session) (hnext : next.Signed config key session)
    (h : Running key session turn blocked p) (place : StopPlace) :
    let q := (p.feedAll config returning (betweenHooks turn next place)).feed config returning
      next.hook
    Running key session next (place = .afterPrompt) q ∧
      q.emitted = p.emitted ++ stopReceipts config session turn (blocked && place = .beforeInput) ++
        [next.accepted config session] := by
  have hsigned := hnext.signed
  obtain ⟨hstop, hpremature, hsession⟩ := hfits.stop
  cases place with
  | beforeInput =>
    obtain ⟨active, turn', hstopped, hemitted⟩ := running_stop hfits h
    obtain ⟨hinput, hsame⟩ := view_input config returning hstopped hnext.input
    obtain ⟨hprompt, hsame'⟩ := view_prompt config returning hinput hnext.prompt hnext.marked
      rfl (by simp)
    rw [hsigned] at hprompt
    obtain ⟨hrunning, haccepted⟩ := running_hook hnext hprompt
      (by simp [userPromptSubmit, promptSubmitted])
      (show _ ↔ false = true by simp [stop, promptSubmitted])
    exact ⟨hrunning, by simp [betweenHooks, haccepted, hsame', hsame, hemitted]⟩
  | beforePrompt =>
    obtain ⟨seen, hview, -⟩ := h
    obtain ⟨hinput, hsame⟩ := view_input config returning hview hnext.input
    obtain ⟨hstopped, hemitted⟩ := view_stop hinput hstop hpremature hsession hfits.bound (by simp)
    obtain ⟨hprompt, hsame'⟩ := view_prompt config returning hstopped hnext.prompt hnext.marked rfl
      (by simp [stop, promptSubmitted])
    rw [hsigned] at hprompt
    obtain ⟨hrunning, haccepted⟩ := running_hook hnext hprompt
      (by simp [userPromptSubmit, promptSubmitted, stop])
      (show _ ↔ false = true by simp [stop, promptSubmitted])
    refine ⟨hrunning, ?_⟩
    simp [betweenHooks, haccepted, hsame', hemitted, hsame, stopReceipts]
    rfl
  | afterPrompt =>
    -- the stop takes the slot of the queued prompt
    obtain ⟨seen, hview, -⟩ := h
    obtain ⟨hinput, hsame⟩ := view_input config returning hview hnext.input
    obtain ⟨hprompt, hsame'⟩ := view_prompt config returning hinput hnext.prompt hnext.marked
      rfl (by simp)
    rw [hsigned] at hprompt
    obtain ⟨hstopped, hemitted⟩ := view_stop hprompt hstop hpremature hsession hfits.bound
      (by simp [stop, promptSubmitted])
    obtain ⟨hrunning, haccepted⟩ := running_hook hnext hstopped
      (by simp [userPromptSubmit, promptSubmitted, stop])
      (show _ ↔ true = true by simp)
    refine ⟨hrunning, ?_⟩
    simp [betweenHooks, haccepted, hsame', hemitted, hsame, stopReceipts]
    rfl

/-- The receipts that follow a hook. -/
def receiptsAfter (config : EmitterConfig) (session : String) (blocked : Bool) (turn : QueuedTurn) :
    List (StopPlace × QueuedTurn) → List Receipt
  | [] => stopReceipts config session turn blocked
  | (place, next) :: rest =>
    stopReceipts config session turn (blocked && place = .beforeInput) ++
      next.accepted config session :: receiptsAfter config session (place = .afterPrompt) next rest

theorem emitted_afterHook {rest : List (StopPlace × QueuedTurn)}
    (hfits : turn.Signed config key session)
    (hrest : ∀ queued ∈ rest, queued.2.Signed config key session)
    (h : Running key session turn blocked p) :
    (p.feedAll config returning (afterHook turn rest)).emitted =
      p.emitted ++ receiptsAfter config session blocked turn rest := by
  induction rest generalizing turn blocked p with
  | nil =>
    obtain ⟨_, _, -, hemitted⟩ := running_stop hfits h
    exact hemitted
  | cons queued rest ih =>
    obtain ⟨place, next⟩ := queued
    have hnext := hrest _ List.mem_cons_self
    obtain ⟨hrunning, hemitted⟩ := running_next hfits hnext h place
    have hlater := ih hnext (fun queued hqueued => hrest queued (List.mem_cons_of_mem _ hqueued))
      hrunning
    rw [afterHook, Production.feedAll_append, Production.feedAll_cons, hlater, hemitted]
    simp [receiptsAfter]

/-- All receipts of a sequence of turns. -/
theorem emitted_queuedSequence {rest : List (StopPlace × QueuedTurn)}
    (hfits : turn.Signed config key session)
    (hrest : ∀ queued ∈ rest, queued.2.Signed config key session) :
    (Production.feedAll config returning {} (queuedSequence turn rest)).emitted =
      turn.accepted config session :: receiptsAfter config session false turn rest := by
  have hempty : View {} key session none none {} := ⟨rfl, rfl, rfl⟩
  obtain ⟨hinput, hsame⟩ := view_input config returning hempty hfits.input
  obtain ⟨hprompt, hsame'⟩ := view_prompt config returning hinput hfits.prompt hfits.marked
    rfl (by simp)
  rw [hfits.signed] at hprompt
  obtain ⟨hrunning, haccepted⟩ := running_hook hfits hprompt
    (by simp [userPromptSubmit, promptSubmitted])
    (show _ ↔ false = true by simp [stop, promptSubmitted])
  rw [queuedSequence, Production.feedAll_cons, Production.feedAll_cons, Production.feedAll_cons,
    emitted_afterHook hfits hrest hrunning, haccepted, hsame', hsame]
  rfl

end Turns

/-- The receipts of a class for a delivery. -/
def receiptsOf (emitted : List Receipt) (evidenceClass : EvidenceClass) (deliveryId : String) :
    List Receipt :=
  emitted.filter fun r => r.evidenceClass = evidenceClass ∧ r.deliveryId = deliveryId

/-- The delivery of the turn has exactly its two receipts, each with the turn's own chain. -/
def QueuedTurn.Completes (config : EmitterConfig) (session : String) (emitted : List Receipt)
    (turn : QueuedTurn) : Prop :=
  receiptsOf emitted .harnessPromptAccepted turn.delivery.deliveryId =
      [turn.accepted config session] ∧
    receiptsOf emitted .harnessTurnCompleted turn.delivery.deliveryId =
      [turn.completed config session]

section Counting

variable {config : EmitterConfig} {session deliveryId : String} {turn : QueuedTurn}
  {blocked lost : Bool} {rest : List (StopPlace × QueuedTurn)} {evidenceClass : EvidenceClass}

@[simp] theorem receiptsOf_append (first second : List Receipt) :
    receiptsOf (first ++ second) evidenceClass deliveryId =
      receiptsOf first evidenceClass deliveryId ++ receiptsOf second evidenceClass deliveryId :=
  List.filter_append ..

theorem receiptsOf_accepted (emitted : List Receipt) :
    receiptsOf (turn.accepted config session :: emitted) evidenceClass deliveryId =
      (if evidenceClass = .harnessPromptAccepted ∧ deliveryId = turn.delivery.deliveryId then
        [turn.accepted config session] else []) ++ receiptsOf emitted evidenceClass deliveryId := by
  unfold receiptsOf
  rw [List.filter_cons]
  change (if decide (.harnessPromptAccepted = evidenceClass ∧ turn.delivery.deliveryId = deliveryId) =
    true then _ else _) = _
  by_cases h : evidenceClass = .harnessPromptAccepted ∧ deliveryId = turn.delivery.deliveryId
  · obtain ⟨rfl, rfl⟩ := h
    simp
  · have hnot : ¬ (.harnessPromptAccepted = evidenceClass ∧
        turn.delivery.deliveryId = deliveryId) := fun heq => h ⟨heq.1.symm, heq.2.symm⟩
    simp [h, hnot]

theorem receiptsOf_stop :
    receiptsOf (stopReceipts config session turn lost) evidenceClass deliveryId =
      if lost = false ∧ evidenceClass = .harnessTurnCompleted ∧
        deliveryId = turn.delivery.deliveryId then [turn.completed config session] else [] := by
  cases lost with
  | true => rfl
  | false =>
    unfold receiptsOf stopReceipts
    rw [if_neg Bool.false_ne_true, List.filter_cons, List.filter_nil]
    change (if decide (.harnessTurnCompleted = evidenceClass ∧
      turn.delivery.deliveryId = deliveryId) = true then _ else _) = _
    by_cases h : evidenceClass = .harnessTurnCompleted ∧ deliveryId = turn.delivery.deliveryId
    · obtain ⟨rfl, rfl⟩ := h
      simp
    · have hnot : ¬ (.harnessTurnCompleted = evidenceClass ∧
          turn.delivery.deliveryId = deliveryId) := fun heq => h ⟨heq.1.symm, heq.2.symm⟩
      simp [h, hnot]

/-- The deliveries of a sequence of turns. -/
def deliveryIds (turn : QueuedTurn) (rest : List (StopPlace × QueuedTurn)) : List String :=
  turn.delivery.deliveryId :: rest.map (·.2.delivery.deliveryId)

/-- No receipt speaks for a delivery that is none of the turns'. -/
theorem receiptsOf_foreign (h : deliveryId ∉ deliveryIds turn rest) :
    receiptsOf (receiptsAfter config session blocked turn rest) evidenceClass deliveryId = [] := by
  induction rest generalizing turn blocked with
  | nil =>
    have hother : deliveryId ≠ turn.delivery.deliveryId := by simpa [deliveryIds] using h
    rw [receiptsAfter, receiptsOf_stop, if_neg fun heq => hother heq.2.2]
  | cons queued rest ih =>
    obtain ⟨place, next⟩ := queued
    obtain ⟨hother, hrest⟩ : deliveryId ≠ turn.delivery.deliveryId ∧
        deliveryId ∉ deliveryIds next rest := by simpa [deliveryIds] using h
    have hnext : deliveryId ≠ next.delivery.deliveryId := fun heq => hrest (heq ▸ List.mem_cons_self)
    rw [receiptsAfter, receiptsOf_append, receiptsOf_stop, receiptsOf_accepted, ih hrest,
      if_neg fun heq => hother heq.2.2, if_neg fun heq => hnext heq.2]
    rfl

/-- What follows the hook of a turn has no first receipt for it. -/
theorem accepted_own (hdistinct : (deliveryIds turn rest).Nodup) :
    receiptsOf (receiptsAfter config session blocked turn rest) .harnessPromptAccepted
      turn.delivery.deliveryId = [] := by
  cases rest with
  | nil => rw [receiptsAfter, receiptsOf_stop, if_neg fun heq => by cases heq.2.1]
  | cons queued rest =>
    obtain ⟨place, next⟩ := queued
    have hother : turn.delivery.deliveryId ∉ deliveryIds next rest :=
      (List.nodup_cons.mp hdistinct).1
    have hnext : turn.delivery.deliveryId ≠ next.delivery.deliveryId := fun heq =>
      hother (heq ▸ List.mem_cons_self)
    rw [receiptsAfter, receiptsOf_append, receiptsOf_stop, receiptsOf_accepted,
      receiptsOf_foreign hother, if_neg (fun heq => by cases heq.2.1), if_neg fun heq => hnext heq.2]
    rfl

/-- Every later turn has its first receipt. -/
theorem accepted_once (hdistinct : (deliveryIds turn rest).Nodup) :
    ∀ queued ∈ rest, receiptsOf (receiptsAfter config session blocked turn rest)
      .harnessPromptAccepted queued.2.delivery.deliveryId = [queued.2.accepted config session] := by
  induction rest generalizing turn blocked with
  | nil =>
    intro queued hqueued
    cases hqueued
  | cons queued rest ih =>
    obtain ⟨place, next⟩ := queued
    have htail : (deliveryIds next rest).Nodup := (List.nodup_cons.mp hdistinct).2
    intro other hother
    rw [receiptsAfter, receiptsOf_append, receiptsOf_stop, receiptsOf_accepted,
      if_neg fun heq => by cases heq.2.1]
    rcases List.mem_cons.mp hother with rfl | hlater
    · rw [if_pos ⟨rfl, rfl⟩, accepted_own htail]
      rfl
    · have hne : other.2.delivery.deliveryId ≠ next.delivery.deliveryId := fun heq =>
        (List.nodup_cons.mp htail).1 (heq ▸ List.mem_map_of_mem hlater)
      rw [if_neg fun heq => hne heq.2, ih htail other hlater]
      rfl

/-- The stop of no turn finds its slot taken. -/
def ClearFrom : Bool → List StopPlace → Prop
  | blocked, [] => blocked = false
  | blocked, place :: places =>
    (blocked = true → place ≠ .beforeInput) ∧ ClearFrom (place = .afterPrompt) places

/-- Every turn has its second receipt exactly when no stop finds its slot taken. -/
theorem completed_once_iff (hdistinct : (deliveryIds turn rest).Nodup) :
    (∀ queued ∈ turn :: rest.map Prod.snd,
      receiptsOf (receiptsAfter config session blocked turn rest) .harnessTurnCompleted
        queued.delivery.deliveryId = [queued.completed config session]) ↔
      ClearFrom blocked (rest.map Prod.fst) := by
  induction rest generalizing turn blocked with
  | nil =>
    rw [List.map_nil, List.map_nil, List.forall_mem_singleton, receiptsAfter, receiptsOf_stop]
    cases blocked <;> simp [ClearFrom]
  | cons queued rest ih =>
    obtain ⟨place, next⟩ := queued
    have htail : (deliveryIds next rest).Nodup := (List.nodup_cons.mp hdistinct).2
    have hforeign : turn.delivery.deliveryId ∉ deliveryIds next rest :=
      (List.nodup_cons.mp hdistinct).1
    have hlater : ∀ later ∈ next :: rest.map Prod.snd,
        later.delivery.deliveryId ≠ turn.delivery.deliveryId := by
      intro later hlater heq
      refine hforeign (heq ▸ ?_)
      have hmem := List.mem_map_of_mem (f := fun turn : QueuedTurn => turn.delivery.deliveryId) hlater
      simpa [deliveryIds] using hmem
    rw [List.map_cons, List.map_cons, List.forall_mem_cons, ClearFrom, ← ih htail]
    refine and_congr ?_ (forall₂_congr fun later hmem => ?_)
    · rw [receiptsAfter, receiptsOf_append, receiptsOf_stop, receiptsOf_accepted,
        receiptsOf_foreign hforeign]
      cases blocked <;> cases place <;> simp
    · rw [receiptsAfter, receiptsOf_append, receiptsOf_stop, receiptsOf_accepted,
        if_neg fun heq => hlater later hmem heq.2.2, if_neg fun heq => by cases heq.1]
      rfl

/-- Whenever a stop comes after the next prompt, a further input comes before the next stop. -/
def NoStopLost (places : List StopPlace) : Prop :=
  ∀ i : Nat, places[i]? = some .afterPrompt →
    places[i + 1]? = some .beforePrompt ∨ places[i + 1]? = some .afterPrompt

theorem clearFrom_iff (blocked : Bool) (places : List StopPlace) : ClearFrom blocked places ↔
    (blocked = true → places[0]? = some .beforePrompt ∨ places[0]? = some .afterPrompt) ∧
      NoStopLost places := by
  induction places generalizing blocked with
  | nil => cases blocked <;> simp [ClearFrom, NoStopLost]
  | cons place places ih =>
    rw [ClearFrom, ih]
    refine and_congr (imp_congr_right fun _ => ?_) ⟨?_, ?_⟩
    · cases place <;> simp
    · rintro ⟨hfirst, hrest⟩ i hi
      cases i with
      | zero => exact hfirst (by simpa using hi)
      | succ i => exact hrest i hi
    · intro h
      exact ⟨fun hplace => h 0 (by simpa using hplace), fun i hi => h (i + 1) hi⟩

/-- The first receipts are all there, whatever the places of the stops. -/
theorem accepted_all (hdistinct : (deliveryIds turn rest).Nodup) :
    ∀ queued ∈ turn :: rest.map Prod.snd,
      receiptsOf (turn.accepted config session :: receiptsAfter config session blocked turn rest)
        .harnessPromptAccepted queued.delivery.deliveryId = [queued.accepted config session] := by
  rw [List.forall_mem_cons]
  refine ⟨?_, fun later hlater => ?_⟩
  · rw [receiptsOf_accepted, if_pos ⟨rfl, rfl⟩, accepted_own hdistinct]
    rfl
  · obtain ⟨queued, hqueued, rfl⟩ := List.mem_map.mp hlater
    have hne : queued.2.delivery.deliveryId ≠ turn.delivery.deliveryId := fun heq =>
      (List.nodup_cons.mp hdistinct).1 (heq ▸ List.mem_map_of_mem hqueued)
    rw [receiptsOf_accepted, if_neg fun heq => hne heq.2, accepted_once hdistinct queued hqueued]
    rfl

theorem completes_iff (hdistinct : (deliveryIds turn rest).Nodup) :
    (∀ queued ∈ turn :: rest.map Prod.snd, queued.Completes config session
      (turn.accepted config session :: receiptsAfter config session false turn rest)) ↔
      NoStopLost (rest.map Prod.fst) := by
  have hclear : ClearFrom false (rest.map Prod.fst) ↔ NoStopLost (rest.map Prod.fst) := by
    rw [clearFrom_iff, and_iff_right fun h => absurd h Bool.false_ne_true]
  rw [← hclear, ← completed_once_iff hdistinct]
  refine forall₂_congr fun queued hqueued => ?_
  unfold QueuedTurn.Completes
  rw [and_iff_right (accepted_all hdistinct queued hqueued), receiptsOf_accepted,
    if_neg fun heq => by cases heq.1]
  rfl

theorem prompt_mem_afterHook {queued : StopPlace × QueuedTurn} (h : queued ∈ rest) :
    queued.2.prompt ∈ afterHook turn rest := by
  induction rest generalizing turn with
  | nil => cases h
  | cons first rest ih =>
    obtain ⟨place, next⟩ := first
    rw [afterHook, List.mem_append]
    rcases List.mem_cons.mp h with rfl | hlater
    · refine Or.inl ?_
      cases place <;> simp [betweenHooks]
    · exact Or.inr (List.mem_cons_of_mem _ (ih hlater))

theorem prompt_mem {queued : QueuedTurn} (h : queued ∈ turn :: rest.map Prod.snd) :
    queued.prompt ∈ queuedSequence turn rest := by
  rcases List.mem_cons.mp h with rfl | hlater
  · simp [queuedSequence]
  · obtain ⟨later, hmem, rfl⟩ := List.mem_map.mp hlater
    simp [queuedSequence, prompt_mem_afterHook hmem]

end Counting

/-- What the producer emits of a sequence of turns. -/
theorem emitted_of_queued [Host] {config : EmitterConfig} {key session : String}
    {turn : QueuedTurn} {rest : List (StopPlace × QueuedTurn)} {events : List DerivedEvent}
    (hevents : observations events = queuedSequence turn rest)
    (hfits : ∀ queued ∈ turn :: rest.map Prod.snd, queued.Fits config key session) :
    (Production.run config returning events {}).emitted =
      turn.accepted config session :: receiptsAfter config session false turn rest := by
  have hsigned : ∀ queued ∈ turn :: rest.map Prod.snd, queued.Signed config key session := by
    intro queued hqueued
    have hobserved : queued.prompt ∈ observations events := hevents ▸ prompt_mem hqueued
    obtain ⟨event, -, htranslate⟩ := mem_observations.mp hobserved
    obtain ⟨-, -, -, -, -, -, hsignature⟩ := translate_eq_ok htranslate
    rw [(hfits queued hqueued).marked] at hsignature
    exact ⟨hfits queued hqueued, hsignature⟩
  rw [Production.run_eq_feedAll, hevents]
  exact emitted_queuedSequence (hsigned turn List.mem_cons_self) fun queued hqueued =>
    hsigned queued.2 (List.mem_cons_of_mem _ (List.mem_map_of_mem hqueued))

/-- Queued turns complete, each with its own two receipts, exactly when no stop is lost: no turn's
stop comes after the prompt of the next turn and is followed by that turn's stop before any further
input. -/
theorem queued_turns_complete [Host] (config : EmitterConfig) (key session : String)
    (turn : QueuedTurn) (rest : List (StopPlace × QueuedTurn)) (events : List DerivedEvent)
    (hevents : observations events = queuedSequence turn rest)
    (hfits : ∀ queued ∈ turn :: rest.map Prod.snd, queued.Fits config key session)
    (hdistinct : (deliveryIds turn rest).Nodup) :
    (∀ queued ∈ turn :: rest.map Prod.snd,
      queued.Completes config session (Production.run config returning events {}).emitted) ↔
      NoStopLost (rest.map Prod.fst) := by
  rw [emitted_of_queued hevents hfits]
  exact completes_iff hdistinct

def thirdDelivery : Delivery :=
  { sampleDelivery with deliveryId := "delivery-3", attemptId := "attempt-3" }

def thirdMarker : DeliveryMarker :=
  { sampleMarker with
    deliveryId := "delivery-3", attemptId := "attempt-3"
    signature := "b1e99324505bd32da0e1f85dcf5e19a09db0481e8a15f62c41eb320304a8e927" }

/-- The short form of the third marker. -/
def thirdToken : String :=
  "ygr1s.delivery-3.binding-1.semTJFBb0y2g4fhdz14ZoJ2wSB6KFfYsQesyAwSo6Sc"

theorem extract_thirdToken : extract thirdToken =
    some (.short ⟨"delivery-3", "binding-1", thirdMarker.signature⟩) := by
  decide +kernel

/-- Two more deliveries wait behind the first one. -/
def fullQueueConfig : EmitterConfig where
  providerId := "cmux"
  deliveryLookup id :=
    if id = "delivery-3" then some (thirdDelivery, thirdMarker) else queueConfig.deliveryLookup id

def sessionPayload : Dict := [("session_id", .str "session-1")]

def firstTurn : QueuedTurn where
  delivery := sampleDelivery
  marker := sampleMarker
  wire := .short ⟨"delivery-1", "binding-1", sampleMarker.signature⟩
  input := sampleObservation 1 inputSent []
  prompt := sampleObservation 2 promptSubmitted [("message_preview", .str sampleToken)]
  hook := sampleObservation 3 userPromptSubmit sessionPayload
  stop := sampleObservation 6 stop sessionPayload

def secondTurn (stopSeq : Nat) : QueuedTurn where
  delivery := secondDelivery
  marker := secondMarker
  wire := .short ⟨"delivery-2", "binding-1", secondMarker.signature⟩
  input := sampleObservation 4 inputSent []
  prompt := sampleObservation 5 promptSubmitted [("message_preview", .str secondToken)]
  hook := sampleObservation 7 userPromptSubmit sessionPayload
  stop := sampleObservation stopSeq stop sessionPayload

def thirdTurn : QueuedTurn where
  delivery := thirdDelivery
  marker := thirdMarker
  wire := .short ⟨"delivery-3", "binding-1", thirdMarker.signature⟩
  input := sampleObservation 8 inputSent []
  prompt := sampleObservation 10 promptSubmitted [("message_preview", .str thirdToken)]
  hook := sampleObservation 11 userPromptSubmit sessionPayload
  stop := sampleObservation 12 stop sessionPayload

theorem sampleObservation_is (seq : Nat) (name : String) (payload : Dict) :
    (sampleObservation seq name payload).Is name "workspace-1" := by
  refine ⟨rfl, ?_⟩
  change workspaceKey (some "workspace-1") = "workspace-1"
  decide

/-- A hook of the sample session has no phase. -/
theorem sampleObservation_hook (seq : Nat) (name : String) :
    (sampleObservation seq name sessionPayload).premature = false ∧
      (sampleObservation seq name sessionPayload).session = some "session-1" := by
  refine ⟨?_, ?_⟩
  · unfold TranslatedObservation.premature
    exact Bool.and_false _
  · change present (some "session-1") = some "session-1"
    decide

theorem fits_sample (stopSeq : Nat) : ∀ queued ∈ [firstTurn, secondTurn stopSeq, thirdTurn],
    queued.Fits fullQueueConfig "workspace-1" "session-1" := by
  have hbound : present (some "binding-1") ≠ none := by decide
  intro queued hqueued
  simp only [List.mem_cons, List.not_mem_nil, or_false] at hqueued
  rcases hqueued with rfl | rfl | rfl
  · exact ⟨sampleObservation_is .., sampleObservation_is .., extract_sampleToken,
      ⟨sampleObservation_is .., sampleObservation_hook ..⟩,
      ⟨sampleObservation_is .., sampleObservation_hook ..⟩, rfl, hbound⟩
  · exact ⟨sampleObservation_is .., sampleObservation_is .., extract_secondToken,
      ⟨sampleObservation_is .., sampleObservation_hook ..⟩,
      ⟨sampleObservation_is .., sampleObservation_hook ..⟩, rfl, hbound⟩
  · exact ⟨sampleObservation_is .., sampleObservation_is .., extract_thirdToken,
      ⟨sampleObservation_is .., sampleObservation_hook ..⟩,
      ⟨sampleObservation_is .., sampleObservation_hook ..⟩, rfl, hbound⟩

/-- The second message is queued while the first turn still runs. -/
def queuedEvents : List DerivedEvent :=
  sampleTurn ++ [sampleEvent 4 inputSent [],
    sampleEvent 5 promptSubmitted [("message_preview", .str secondToken)], sampleStop 6,
    sampleEvent 7 userPromptSubmit sessionPayload, sampleStop 8]

/-- The first stop comes after the queued prompt, and a third input before the second stop. -/
def overlappingEvents : List DerivedEvent :=
  sampleTurn ++ [sampleEvent 4 inputSent [],
    sampleEvent 5 promptSubmitted [("message_preview", .str secondToken)], sampleStop 6,
    sampleEvent 7 userPromptSubmit sessionPayload, sampleEvent 8 inputSent [], sampleStop 9,
    sampleEvent 10 promptSubmitted [("message_preview", .str thirdToken)],
    sampleEvent 11 userPromptSubmit sessionPayload, sampleStop 12]

section SampleObservations

variable [Host]

theorem observations_queuedEvents : observations queuedEvents =
    queuedSequence firstTurn [(.afterPrompt, secondTurn 8)] := by
  rw [queuedEvents, observations_append, observations_sampleTurn]
  simp [observations, translate_sampleEvent readable_empty, translate_sampleStop,
    translate_sampleEvent (readable_single _ _), Except.toOption, sessionPayload, queuedSequence,
    afterHook, betweenHooks, firstTurn, secondTurn]

theorem observations_overlappingEvents : observations overlappingEvents =
    queuedSequence firstTurn [(.afterPrompt, secondTurn 9), (.beforePrompt, thirdTurn)] := by
  rw [overlappingEvents, observations_append, observations_sampleTurn]
  simp [observations, translate_sampleEvent readable_empty, translate_sampleStop,
    translate_sampleEvent (readable_single _ _), Except.toOption, sessionPayload, queuedSequence,
    afterHook, betweenHooks, firstTurn, secondTurn, thirdTurn]

end SampleObservations

/-- The first stop, after the queued prompt, takes the slot of the second. -/
theorem queued_stop_lost :
    ¬ ∀ (config : EmitterConfig) (key session : String) (turn : QueuedTurn)
        (rest : List (StopPlace × QueuedTurn)) (events : List DerivedEvent),
      @observations sampleHost events = queuedSequence turn rest →
      (∀ queued ∈ turn :: rest.map Prod.snd, queued.Fits config key session) →
      (deliveryIds turn rest).Nodup →
      ∀ queued ∈ turn :: rest.map Prod.snd, queued.Completes config session
        (@Production.run sampleHost config returning events {}).emitted := by
  intro hclaim
  have hfits : ∀ queued ∈ [firstTurn, secondTurn 8],
      queued.Fits fullQueueConfig "workspace-1" "session-1" := by
    intro queued hqueued
    refine fits_sample 8 queued ?_
    simp only [List.mem_cons, List.not_mem_nil, or_false] at hqueued ⊢
    exact hqueued.imp_right .inl
  have hcompletes := hclaim fullQueueConfig "workspace-1" "session-1" firstTurn
    [(.afterPrompt, secondTurn 8)] queuedEvents (@observations_queuedEvents sampleHost) hfits
    (by decide)
  rw [@emitted_of_queued sampleHost _ _ _ _ _ _ (@observations_queuedEvents sampleHost) hfits,
    completes_iff (by decide)] at hcompletes
  have hlost := hcompletes 0 rfl
  simp at hlost

/-- The third input clears the slot that the first stop has taken, and all three turns complete. -/
theorem queued_turns_complete_sample :
    firstTurn.Completes fullQueueConfig "session-1"
      (@Production.run sampleHost fullQueueConfig returning overlappingEvents {}).emitted ∧
    (secondTurn 9).Completes fullQueueConfig "session-1"
      (@Production.run sampleHost fullQueueConfig returning overlappingEvents {}).emitted ∧
    thirdTurn.Completes fullQueueConfig "session-1"
      (@Production.run sampleHost fullQueueConfig returning overlappingEvents {}).emitted := by
  have hall := (@queued_turns_complete sampleHost fullQueueConfig "workspace-1" "session-1" firstTurn
    [(.afterPrompt, secondTurn 9), (.beforePrompt, thirdTurn)] overlappingEvents
    (@observations_overlappingEvents sampleHost) (fits_sample 9) (by decide)).mpr ?_
  · exact ⟨hall _ (by simp), hall _ (by simp), hall _ (by simp)⟩
  · intro i hplace
    rcases i with _ | _ | i
    · exact .inl rfl
    · cases hplace
    · simp at hplace

end Yatagarasu.Cmux
