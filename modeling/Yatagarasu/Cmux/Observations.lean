import Mathlib.Data.List.Basic
import Yatagarasu.Cmux.ReceiptProducer
import Yatagarasu.Core.Runs

/-! What one observation can do, and where the parts of a chain come from. -/

namespace Yatagarasu.Cmux

open PyJson ReceiptReducer

/-- The events that have a translation; the others raise and change nothing. -/
def observations [Host] (events : List DerivedEvent) : List TranslatedObservation :=
  events.filterMap fun event => (translateDerivedEvent event).toOption

@[simp] theorem observations_append [Host] (events later : List DerivedEvent) :
    observations (events ++ later) = observations events ++ observations later :=
  List.filterMap_append ..

theorem mem_observations [Host] {events : List DerivedEvent} {obs : TranslatedObservation} :
    obs ∈ observations events ↔ ∃ event ∈ events, translateDerivedEvent event = .ok obs := by
  unfold observations
  rw [List.mem_filterMap]
  refine exists_congr fun event => and_congr_right fun _ => ?_
  cases translateDerivedEvent event <;> simp [Except.toOption]

theorem observations_ok [Host] {event : DerivedEvent} {obs : TranslatedObservation}
    (h : translateDerivedEvent event = .ok obs) : observations [event] = [obs] := by
  simp [observations, h, Except.toOption]

theorem observations_error [Host] {event : DerivedEvent} {e : CmuxError}
    (h : translateDerivedEvent event = .error e) : observations [event] = [] := by
  simp [observations, h, Except.toOption]

namespace TranslatedObservation

def session (obs : TranslatedObservation) : Option String := present obs.sourceEvent.sessionId

/-- The marker that is extracted from an observed prompt. -/
def marker (obs : TranslatedObservation) : Option WireMarker := observedMarker obs.name obs.payload

end TranslatedObservation

/-- The identity of an observation is that of its row; its marker comes from the prompt. -/
theorem translate_eq_ok [Host] {event : DerivedEvent} {obs : TranslatedObservation}
    (h : translateDerivedEvent event = .ok obs) :
    obs.sourceEvent.sourceInstanceId = event.sourceInstanceId ∧
      obs.sourceEvent.bootId = event.bootId ∧ obs.sourceEvent.seq = event.seq ∧
      obs.sourceEvent.sourceEventId = event.sourceEventId ∧ obs.name = event.eventName ∧
      obs.sourceEvent.bindingId = obs.marker.map (·.bindingId) ∧
      obs.sourceEvent.markerSignature = obs.marker.map (·.signature) := by
  unfold translateDerivedEvent at h
  split at h
  · cases h
  · split at h
    · cases h
    split at h
    · cases h
    cases h
    exact ⟨rfl, rfl, rfl, rfl, rfl, rfl, rfl⟩
  · cases h

theorem nodup_observations [Host] {events : List DerivedEvent}
    (h : (events.map DerivedEvent.sourceEventId).Nodup) :
    ((observations events).map fun obs => obs.sourceEvent.sourceEventId).Nodup := by
  induction events with
  | nil => exact List.nodup_nil
  | cons event events ih =>
    rw [List.map_cons, List.nodup_cons] at h
    have hsplit : observations (event :: events) = observations [event] ++ observations events :=
      observations_append [event] events
    rw [hsplit]
    cases htranslate : translateDerivedEvent event with
    | error e =>
      rw [observations_error htranslate]
      exact ih h.2
    | ok obs =>
      rw [observations_ok htranslate, List.singleton_append, List.map_cons, List.nodup_cons]
      refine ⟨fun hmem => h.1 ?_, ih h.2⟩
      obtain ⟨other, hother, hid⟩ := List.mem_map.mp hmem
      obtain ⟨event', hevent', htranslate'⟩ := mem_observations.mp hother
      refine List.mem_map.mpr ⟨event', hevent', ?_⟩
      rw [← (translate_eq_ok htranslate).2.2.2.1, ← (translate_eq_ok htranslate').2.2.2.1]
      exact hid

namespace Production

variable [Host] (config : EmitterConfig) (client : CoreClient)

def feed (p : Production) (obs : TranslatedObservation) : Production :=
  p.after client (p.state.feed config obs)

def feedAll (p : Production) (all : List TranslatedObservation) : Production :=
  all.foldl (feed config client) p

def active (p : Production) : String × String → Option ActiveChain := p.state.emitter.activeChains

def pending (p : Production) : String → Option PendingChain := p.state.emitter.pendingChains

@[simp] theorem feedAll_nil (p : Production) : p.feedAll config client [] = p := rfl

@[simp] theorem feedAll_cons (p : Production) (obs : TranslatedObservation)
    (all : List TranslatedObservation) :
    p.feedAll config client (obs :: all) = (p.feed config client obs).feedAll config client all :=
  rfl

@[simp] theorem feedAll_append (p : Production) (all later : List TranslatedObservation) :
    p.feedAll config client (all ++ later) =
      (p.feedAll config client all).feedAll config client later := List.foldl_append ..

/-- What the emitter does on an observation that may not get past the filter. -/
def reaction (p : Production) (obs : TranslatedObservation) : Reaction EmitterState :=
  if (acceptForEmission p.state.workspaceChains obs).1 then
    p.state.emitter.observe config obs.sourceEvent obs.payload obs.observedAt obs.workspaceId
  else .silent p.state.emitter

theorem feed_eq (p : Production) (obs : TranslatedObservation) : p.feed config client obs =
    { state :=
        { emitter := (p.reaction config obs).next (client p.emitted)
          workspaceChains := (acceptForEmission p.state.workspaceChains obs).2 }
      emitted := p.emitted ++ (p.reaction config obs).receipt.toList } := by
  unfold feed after ProducerState.feed reaction
  cases haccept : acceptForEmission p.state.workspaceChains obs with
  | mk accepted chains =>
    cases accepted with
    | false => simp [Reaction.next, Reaction.receipt]
    | true => simp

theorem run_eq_feedAll (events : List DerivedEvent) (p : Production) :
    run config client events p = p.feedAll config client (observations events) := by
  induction events generalizing p with
  | nil => rfl
  | cons event events ih =>
    rw [run_cons, ih]
    unfold observe ProducerState.observe observations
    cases htranslate : translateDerivedEvent event with
    | error e =>
      have hsame : p.after client (.raises e p.state) = p := by
        simp [after, Reaction.next, Reaction.receipt]
      rw [List.filterMap_cons]
      simp only [htranslate, Except.toOption, hsame]
    | ok obs =>
      rw [List.filterMap_cons]
      simp only [htranslate, Except.toOption]
      rfl

theorem run_ok {events : List DerivedEvent} {event : DerivedEvent} {obs : TranslatedObservation}
    (h : translateDerivedEvent event = .ok obs) (p : Production) :
    run config client (events ++ [event]) p = (run config client events p).feed config client obs := by
  simp only [run_eq_feedAll, observations_append, observations_ok h, feedAll_append, feedAll_cons,
    feedAll_nil]

theorem run_error {events : List DerivedEvent} {event : DerivedEvent} {e : CmuxError}
    (h : translateDerivedEvent event = .error e) (p : Production) :
    run config client (events ++ [event]) p = run config client events p := by
  simp only [run_eq_feedAll, observations_append, observations_error h, List.append_nil]

end Production

/-- What the filter knows of a workspace. -/
def turnOf (chains : String → Option WorkspaceChain) (key : String) : WorkspaceChain :=
  (chains key).getD {}

theorem acceptForEmission_eq (chains : String → Option WorkspaceChain)
    (obs : TranslatedObservation) : acceptForEmission chains obs =
      (((turnOf chains obs.key).admits obs).1, if obs.premature then chains else
        Function.update chains obs.key (some ((turnOf chains obs.key).admits obs).2)) := by
  unfold acceptForEmission WorkspaceChain.admits turnOf TranslatedObservation.name
  split
  · rfl
  split
  · rfl
  split
  · dsimp only
    split <;> rfl
  · rfl

theorem acceptForEmission_fst (chains : String → Option WorkspaceChain)
    (obs : TranslatedObservation) :
    (acceptForEmission chains obs).1 = ((turnOf chains obs.key).admits obs).1 := by
  rw [acceptForEmission_eq]

theorem turnOf_acceptForEmission (chains : String → Option WorkspaceChain)
    (obs : TranslatedObservation) (key : String) : turnOf (acceptForEmission chains obs).2 key =
      if key = obs.key then ((turnOf chains obs.key).admits obs).2 else turnOf chains key := by
  rw [acceptForEmission_eq]
  by_cases hpremature : obs.premature
  · rw [if_pos hpremature, WorkspaceChain.admits, if_pos hpremature]
    split
    · rename_i hkey
      rw [hkey]
    · rfl
  · rw [if_neg hpremature]
    by_cases hkey : key = obs.key <;> simp [turnOf, hkey]

/-- What a production's filter knows of a workspace. -/
def Production.turn (p : Production) (key : String) : WorkspaceChain :=
  turnOf p.state.workspaceChains key

theorem turn_feed [Host] (config : EmitterConfig) (client : CoreClient) (p : Production)
    (obs : TranslatedObservation) (key : String) : (p.feed config client obs).turn key =
      if key = obs.key then ((p.turn obs.key).admits obs).2 else p.turn key := by
  rw [Production.feed_eq]
  exact turnOf_acceptForEmission ..

section Step

variable [Host] {config : EmitterConfig} {client : CoreClient} {p : Production}
  {obs : TranslatedObservation}

/-- Everything that one observation can do to the emitter and to the receipts. -/
inductive Fed (config : EmitterConfig) (client : CoreClient) (p : Production)
    (obs : TranslatedObservation) : EmitterState → List Receipt → Prop
  | ignored : Fed config client p obs p.state.emitter p.emitted
  | input : obs.name = inputSent →
      Fed config client p obs (p.state.emitter.observeInput obs.sourceEvent obs.key) p.emitted
  | prompt : obs.name = promptSubmitted → Fed config client p obs
      { p.state.emitter with
        pendingChains := Function.update p.pending obs.key (some
          { ((p.pending obs.key).getD {}) with
            promptEvent := some obs.sourceEvent, decodedMarker := obs.marker }) } p.emitted
  | popped : obs.name = userPromptSubmit → Fed config client p obs
      { p.state.emitter with pendingChains := Function.update p.pending obs.key none } p.emitted
  | opened {session : String} {chain : ActiveChain} : obs.name = userPromptSubmit →
      (acceptForEmission p.state.workspaceChains obs).1 → obs.session = some session →
      correlate config (p.pending obs.key) obs.sourceEvent = some chain → Fed config client p obs
        { activeChains :=
            if client p.emitted
                (acceptedReceipt config chain session obs.observedAt obs.sourceEvent) then
              Function.update p.active (obs.key, session) (some chain)
            else p.active
          pendingChains := Function.update p.pending obs.key none }
        (p.emitted ++ [acceptedReceipt config chain session obs.observedAt obs.sourceEvent])
  | closed {session : String} {chain : ActiveChain} {emitted : List Receipt} :
      obs.name = stop → (acceptForEmission p.state.workspaceChains obs).1 →
      obs.session = some session →
      p.active (obs.key, session) = some chain →
      emitted = p.emitted ++ (if present chain.delivery.bindingId = none then [] else
        [completedReceipt config chain session obs.observedAt obs.sourceEvent]) →
      Fed config client p obs
        { p.state.emitter with
          activeChains := Function.update p.active (obs.key, session) none } emitted

theorem previewMarker_eq {obs : TranslatedObservation} (h : obs.name = promptSubmitted) :
    (∃ e, previewMarker obs.payload = .error e ∧ obs.marker = none) ∨
      previewMarker obs.payload = .ok obs.marker := by
  unfold TranslatedObservation.marker observedMarker previewMarker
  rw [if_pos h]
  cases obs.payload.lookup "message_preview" with
  | none => exact Or.inr rfl
  | some value =>
    cases value with
    | str preview => exact Or.inr rfl
    | null | bool _ | int _ | float _ | arr _ | obj _ =>
      dsimp only
      split
      · exact Or.inl ⟨_, rfl, rfl⟩
      · exact Or.inr rfl

omit [Host] in
theorem fed_of_silence {reaction : Reaction EmitterState} (hr : reaction.receipt = none)
    (h : Fed config client p obs (reaction.next (client p.emitted)) p.emitted) :
    Fed config client p obs (reaction.next (client p.emitted))
      (p.emitted ++ reaction.receipt.toList) := by
  rw [hr, Option.toList_none, List.append_nil]
  exact h

theorem prompt_fed (hname : obs.name = promptSubmitted) :
    (p.state.emitter.observePrompt obs.sourceEvent obs.payload obs.key).receipt = none ∧
      Fed config client p obs ((p.state.emitter.observePrompt obs.sourceEvent obs.payload
        obs.key).next (client p.emitted)) p.emitted := by
  have hprompt : Fed config client p obs _ _ := Fed.prompt hname
  unfold EmitterState.observePrompt
  rcases previewMarker_eq hname with ⟨e, herror, hnone⟩ | hok
  · rw [hnone] at hprompt
    rw [herror]
    exact ⟨rfl, hprompt⟩
  · rw [hok]
    exact ⟨rfl, hprompt⟩

omit [Host] in
theorem userPromptSubmit_fed (hname : obs.name = userPromptSubmit)
    (haccept : (acceptForEmission p.state.workspaceChains obs).1) :
    Fed config client p obs
      ((p.state.emitter.observeUserPromptSubmit config obs.sourceEvent obs.observedAt obs.key).next
        (client p.emitted))
      (p.emitted ++ (p.state.emitter.observeUserPromptSubmit config obs.sourceEvent obs.observedAt
        obs.key).receipt.toList) := by
  have hpopped : Fed config client p obs _ _ := Fed.popped hname
  unfold EmitterState.observeUserPromptSubmit
  cases hsession : present obs.sourceEvent.sessionId with
  | none => exact fed_of_silence rfl hpopped
  | some session =>
    dsimp only
    cases hchain : correlate config (p.state.emitter.pendingChains obs.key) obs.sourceEvent with
    | none => exact fed_of_silence rfl hpopped
    | some chain =>
      have hopened : Fed config client p obs _ _ := Fed.opened hname haccept hsession hchain
      simp only [Reaction.next, Reaction.receipt, Option.toList_some]
      split
      · rename_i hreturns
        rw [if_pos hreturns] at hopened
        exact hopened
      · rename_i hraises
        rw [if_neg hraises] at hopened
        exact hopened

omit [Host] in
theorem stop_fed (hname : obs.name = stop)
    (haccept : (acceptForEmission p.state.workspaceChains obs).1) :
    Fed config client p obs
      ((p.state.emitter.observeStop config obs.sourceEvent obs.observedAt obs.key).next
        (client p.emitted))
      (p.emitted ++ (p.state.emitter.observeStop config obs.sourceEvent obs.observedAt
        obs.key).receipt.toList) := by
  unfold EmitterState.observeStop
  cases hsession : present obs.sourceEvent.sessionId with
  | none => exact fed_of_silence rfl .ignored
  | some session =>
    dsimp only
    cases hchain : p.state.emitter.activeChains (obs.key, session) with
    | none => exact fed_of_silence rfl .ignored
    | some chain =>
      have hclosed : Fed config client p obs _ _ := Fed.closed hname haccept hsession hchain rfl
      dsimp only
      split
      · rename_i hunbound
        rw [if_pos hunbound] at hclosed
        exact hclosed
      · rename_i hbound
        rw [if_neg hbound] at hclosed
        simp only [Reaction.next, Reaction.receipt, Option.toList_some, ite_self]
        exact hclosed

theorem emitter_observe (haccept : (acceptForEmission p.state.workspaceChains obs).1) :
    Fed config client p obs
      ((p.state.emitter.observe config obs.sourceEvent obs.payload obs.observedAt
        obs.workspaceId).next (client p.emitted))
      (p.emitted ++ (p.state.emitter.observe config obs.sourceEvent obs.payload obs.observedAt
        obs.workspaceId).receipt.toList) := by
  unfold EmitterState.observe
  split
  · rename_i hname
    exact fed_of_silence rfl (Fed.input hname)
  split
  · rename_i hname
    obtain ⟨hnone, hprompt⟩ := prompt_fed hname
    exact fed_of_silence hnone hprompt
  split
  · rename_i hname
    exact userPromptSubmit_fed hname haccept
  split
  · rename_i hname
    exact stop_fed hname haccept
  · exact fed_of_silence rfl .ignored

/-- One observation, whatever the state. -/
theorem feed_fed (config : EmitterConfig) (client : CoreClient) (p : Production)
    (obs : TranslatedObservation) : Fed config client p obs
      (p.feed config client obs).state.emitter (p.feed config client obs).emitted := by
  rw [Production.feed_eq]
  unfold Production.reaction
  split
  · rename_i haccept
    exact emitter_observe haccept
  · simpa [Reaction.next, Reaction.receipt] using Fed.ignored

/-- The hook opens this chain: its slot is free, its workspace has a pending chain that the lookup
resolves to a bound delivery, and the core client returns. -/
structure Opens (config : EmitterConfig) (client : CoreClient) (p : Production)
    (obs : TranslatedObservation) (session : String) (chain : ActiveChain) : Prop where
  name : obs.name = userPromptSubmit
  accepted : (acceptForEmission p.state.workspaceChains obs).1
  observed : obs.session = some session
  correlates : correlate config (p.pending obs.key) obs.sourceEvent = some chain
  returns : client p.emitted (acceptedReceipt config chain session obs.observedAt obs.sourceEvent)

theorem feed_opens {session : String} {chain : ActiveChain}
    (h : Opens config client p obs session chain) : (p.feed config client obs).active =
      Function.update p.active (obs.key, session) (some chain) := by
  have hsession : present obs.sourceEvent.sessionId = some session := h.observed
  have hcorrelates : correlate config (p.state.emitter.pendingChains obs.key) obs.sourceEvent =
      some chain := h.correlates
  have hname : obs.sourceEvent.eventName = userPromptSubmit := h.name
  have hinput : userPromptSubmit ≠ inputSent := by decide
  have hprompt : userPromptSubmit ≠ promptSubmitted := by decide
  rw [Production.feed_eq]
  unfold Production.active Production.reaction
  simp only [h.accepted, if_true, EmitterState.observe, hname, hinput, hprompt, if_false]
  change (Reaction.next (client p.emitted) (p.state.emitter.observeUserPromptSubmit config
    obs.sourceEvent obs.observedAt obs.key)).activeChains = _
  unfold EmitterState.observeUserPromptSubmit
  simp only [hsession, hcorrelates, Reaction.next, h.returns, if_true]

/-- A receipt names the observation that it was emitted on. -/
theorem feed_emitted (config : EmitterConfig) (client : CoreClient) (p : Production)
    (obs : TranslatedObservation) : ∃ new, (p.feed config client obs).emitted = p.emitted ++ new ∧
      ∀ r ∈ new, r.sourceEventId = some obs.sourceEvent.sourceEventId := by
  have hfed := feed_fed config client p obs
  generalize (p.feed config client obs).state.emitter = emitter at hfed
  generalize (p.feed config client obs).emitted = emitted at hfed ⊢
  cases hfed with
  | ignored => exact ⟨[], by simp⟩
  | input => exact ⟨[], by simp⟩
  | prompt => exact ⟨[], by simp⟩
  | popped => exact ⟨[], by simp⟩
  | opened =>
    refine ⟨_, rfl, fun r hr => ?_⟩
    rw [List.mem_singleton.mp hr]
    rfl
  | closed _ _ _ _ heq =>
    refine ⟨_, heq, fun r hr => ?_⟩
    split at hr
    · cases hr
    · rw [List.mem_singleton.mp hr]
      rfl

theorem feedAll_emitted (config : EmitterConfig) (client : CoreClient)
    (all : List TranslatedObservation) (p : Production) :
    ∃ new, (p.feedAll config client all).emitted = p.emitted ++ new ∧
      ∀ r ∈ new, ∃ obs ∈ all, r.sourceEventId = some obs.sourceEvent.sourceEventId := by
  induction all generalizing p with
  | nil => exact ⟨[], by simp⟩
  | cons obs all ih =>
    obtain ⟨first, hfirst, hnamed⟩ := feed_emitted config client p obs
    obtain ⟨rest, hrest, hothers⟩ := ih (p.feed config client obs)
    refine ⟨first ++ rest, by simp [hrest, hfirst], fun r hr => ?_⟩
    rcases List.mem_append.mp hr with hr | hr
    · exact ⟨obs, List.mem_cons_self, hnamed r hr⟩
    · obtain ⟨other, hother, hid⟩ := hothers r hr
      exact ⟨other, List.mem_cons_of_mem _ hother, hid⟩

/-- A chain that is open after an observation was opened by it, or was open before. -/
theorem active_feed {key : String × String} {chain : ActiveChain}
    (h : (p.feed config client obs).active key = some chain) :
    (∃ session, key = (obs.key, session) ∧ Opens config client p obs session chain) ∨
      (p.active key = some chain ∧ ∀ session chain', Opens config client p obs session chain' →
        key ≠ (obs.key, session)) := by
  by_cases hopens : ∃ session chain', Opens config client p obs session chain' ∧
      key = (obs.key, session)
  · obtain ⟨session, chain', hopens, rfl⟩ := hopens
    rw [feed_opens hopens, Function.update_self] at h
    exact Or.inl ⟨session, rfl, Option.some.inj h ▸ hopens⟩
  · have hother : ∀ session chain', Opens config client p obs session chain' →
        key ≠ (obs.key, session) := fun session chain' ho heq =>
      hopens ⟨session, chain', ho, heq⟩
    refine Or.inr ⟨?_, hother⟩
    have hfed := feed_fed config client p obs
    unfold Production.active at h
    generalize (p.feed config client obs).state.emitter = emitter at hfed h
    generalize (p.feed config client obs).emitted = emitted at hfed
    cases hfed with
    | ignored => exact h
    | input => exact h
    | prompt => exact h
    | popped => exact h
    | @opened session chain' hname haccept hsession hchain =>
      dsimp only at h
      split at h
      · rename_i hreturns
        rw [Function.update_of_ne (hother session chain'
          ⟨hname, haccept, hsession, hchain, hreturns⟩)] at h
        exact h
      · exact h
    | @closed session chain' _ hname haccept hsession hchain hemitted =>
      dsimp only at h
      by_cases hkey : key = (obs.key, session)
      · rw [hkey, Function.update_self] at h
        cases h
      · rwa [Function.update_of_ne hkey] at h

end Step

section Provenance

variable [Host] {config : EmitterConfig} {client : CoreClient} {p : Production}
  {obs : TranslatedObservation} {before : List TranslatedObservation} {key session : String}
  {chain : ActiveChain}

/-- An observation of this name and workspace. -/
def TranslatedObservation.Is (obs : TranslatedObservation) (name key : String) : Prop :=
  obs.name = name ∧ obs.key = key

/-- The parts of a pending chain, in the order they were observed. -/
structure PendingFrom (before : List TranslatedObservation) (key : String)
    (pending : PendingChain) : Prop where
  input : ∀ event, pending.inputEvent = some event →
    ∃ input ∈ before, input.sourceEvent = event ∧ input.Is inputSent key
  prompt : ∀ event prompt', pending.inputEvent = some event → pending.promptEvent = some prompt' →
    ∃ input prompt, [input, prompt].Sublist before ∧ input.sourceEvent = event ∧
      input.Is inputSent key ∧ prompt.sourceEvent = prompt' ∧ prompt.Is promptSubmitted key ∧
      prompt.marker = pending.decodedMarker

/-- The observations that an open chain was made of, and what came after its hook. -/
structure ChainFrom (config : EmitterConfig) (before : List TranslatedObservation)
    (key session : String) (chain : ActiveChain) (prompt hook : TranslatedObservation)
    (since : List TranslatedObservation) : Prop where
  parts : ∃ input earlier, before = earlier ++ hook :: since ∧ [input, prompt].Sublist earlier ∧
    input.Is inputSent key ∧
    chain.events = [input.sourceEvent, prompt.sourceEvent, hook.sourceEvent]
  submitted : prompt.Is promptSubmitted key
  hooked : hook.Is userPromptSubmit key
  observed : hook.session = some session
  resolved : ∃ marker, prompt.marker = some marker ∧
    config.deliveryLookup marker.deliveryId = some (chain.delivery, chain.marker)
  bound : present chain.delivery.bindingId ≠ none

omit [Host] in
theorem correlate_eq_some {pending : Option PendingChain} {event : SourceEventRef}
    (h : correlate config pending event = some chain) :
    ∃ input prompt marker, pending = some ⟨some input, some prompt, some marker⟩ ∧
      config.deliveryLookup marker.deliveryId = some (chain.delivery, chain.marker) ∧
      present chain.delivery.bindingId ≠ none ∧ chain.events = [input, prompt, event] := by
  unfold correlate at h
  split at h
  · rename_i input prompt marker
    split at h
    · rename_i delivery coreMarker hlookup
      split at h
      · cases h
      rename_i hbound
      cases h
      exact ⟨input, prompt, marker, rfl, hlookup, hbound, rfl⟩
    · cases h
  · cases h

omit [Host] in
theorem PendingFrom.append {pending : PendingChain} (h : PendingFrom before key pending)
    (obs : TranslatedObservation) : PendingFrom (before ++ [obs]) key pending := by
  refine ⟨fun event hevent => ?_, fun event prompt' hevent hprompt => ?_⟩
  · obtain ⟨input, hinput, hrest⟩ := h.input event hevent
    exact ⟨input, List.mem_append_left _ hinput, hrest⟩
  · obtain ⟨input, prompt, hsub, hrest⟩ := h.prompt event prompt' hevent hprompt
    exact ⟨input, prompt, hsub.trans (List.sublist_append_left _ _), hrest⟩

omit [Host] in
theorem ChainFrom.append {prompt hook : TranslatedObservation} {since : List TranslatedObservation}
    (h : ChainFrom config before key session chain prompt hook since)
    (obs : TranslatedObservation) :
    ChainFrom config (before ++ [obs]) key session chain prompt hook (since ++ [obs]) := by
  obtain ⟨input, earlier, hbefore, hrest⟩ := h.parts
  exact ⟨⟨input, earlier, by simp [hbefore], hrest⟩, h.submitted, h.hooked, h.observed,
    h.resolved, h.bound⟩

/-- Every pending chain is made of what was observed. -/
def PendingTraced (before : List TranslatedObservation) (p : Production) : Prop :=
  ∀ key pending, p.pending key = some pending → PendingFrom before key pending

theorem pendingTraced_feed (h : PendingTraced before p) (obs : TranslatedObservation) :
    PendingTraced (before ++ [obs]) (p.feed config client obs) := by
  intro key pending hpending
  have hfed := feed_fed config client p obs
  unfold Production.pending at hpending
  generalize (p.feed config client obs).state.emitter = emitter at hfed hpending
  generalize (p.feed config client obs).emitted = emitted at hfed
  have hold : p.pending key = some pending → PendingFrom (before ++ [obs]) key pending :=
    fun hsame => (h key pending hsame).append obs
  by_cases hkey : key = obs.key
  · subst hkey
    cases hfed with
    | ignored => exact hold hpending
    | input hname =>
      simp only [EmitterState.observeInput, Function.update_self, Option.some.injEq] at hpending
      subst hpending
      refine ⟨fun event hevent => ?_, fun event prompt' _ hprompt => by cases hprompt⟩
      cases hevent
      exact ⟨obs, by simp, rfl, hname, rfl⟩
    | prompt hname =>
      simp only [Function.update_self, Option.some.injEq] at hpending
      subst hpending
      cases hprior : p.pending obs.key with
      | none =>
        refine ⟨fun event hevent => ?_, fun event prompt' hevent _ => ?_⟩
        · cases hevent
        · cases hevent
      | some prior =>
        have hfrom := h obs.key prior hprior
        refine ⟨(hfrom.append obs).input, fun event prompt' hevent hprompt => ?_⟩
        obtain ⟨input, hinput, hsource, his⟩ := hfrom.input event hevent
        cases hprompt
        refine ⟨input, obs, ?_, hsource, his, rfl, ⟨hname, rfl⟩, rfl⟩
        exact (List.singleton_sublist.mpr hinput).append (List.Sublist.refl [obs])
    | popped =>
      simp only [Function.update_self] at hpending
      cases hpending
    | opened =>
      simp only [Function.update_self] at hpending
      cases hpending
    | closed => exact hold hpending
  · cases hfed with
    | ignored => exact hold hpending
    | input =>
      simp only [EmitterState.observeInput, Function.update_of_ne hkey] at hpending
      exact hold hpending
    | prompt => exact hold (by simpa [hkey] using hpending)
    | popped => exact hold (by simpa [hkey] using hpending)
    | opened => exact hold (by simpa [hkey] using hpending)
    | closed => exact hold hpending

omit [Host] in
/-- A hook that opens a chain does so from what its workspace has pending. -/
theorem chainFrom_opens (h : PendingTraced before p)
    (hopens : Opens config client p obs session chain) :
    ∃ prompt, ChainFrom config (before ++ [obs]) obs.key session chain prompt obs [] := by
  obtain ⟨input', prompt', marker, hpending, hlookup, hbound, hevents⟩ :=
    correlate_eq_some hopens.correlates
  obtain ⟨input, prompt, hsub, rfl, hinput, rfl, hprompt, hmarker⟩ :=
    (h obs.key _ hpending).prompt _ _ rfl rfl
  exact ⟨prompt, ⟨input, before, rfl, hsub, hinput, hevents⟩, hprompt, ⟨hopens.name, rfl⟩,
    hopens.observed, ⟨marker, hmarker, hlookup⟩, hbound⟩

/-- Every chain of a production is made of what was observed; `Q` is kept of an open chain's key,
session, prompt and the observations since its hook. -/
structure Traced (config : EmitterConfig)
    (Q : String → String → TranslatedObservation → List TranslatedObservation → Prop)
    (before : List TranslatedObservation) (p : Production) : Prop where
  pending : PendingTraced before p
  active : ∀ key session chain, p.active (key, session) = some chain → ∃ prompt hook since,
    ChainFrom config before key session chain prompt hook since ∧ Q key session prompt since

variable {Q : String → String → TranslatedObservation → List TranslatedObservation → Prop}

omit [Host] in
theorem traced_initial : Traced config Q [] {} :=
  ⟨fun _ _ h => (by cases h), fun _ _ _ h => (by cases h)⟩

/-- It is enough that `Q` holds right after the hook, and survives an observation that does not
replace the chain. -/
theorem traced_feed (h : Traced config Q before p) (hopened : ∀ key session prompt, Q key session
    prompt []) (hkept : ∀ session chain prompt hook since key, p.active (key, session) = some chain →
      ChainFrom config before key session chain prompt hook since →
      (∀ chain', Opens config client p obs session chain' → key ≠ obs.key) →
      Q key session prompt since → Q key session prompt (since ++ [obs])) :
    Traced config Q (before ++ [obs]) (p.feed config client obs) := by
  refine ⟨pendingTraced_feed h.pending obs, fun key session chain hactive => ?_⟩
  rcases active_feed hactive with ⟨session', heq, hopens⟩ | ⟨hold, hother⟩
  · cases heq
    obtain ⟨prompt, hfrom⟩ := chainFrom_opens h.pending hopens
    exact ⟨prompt, obs, [], hfrom, hopened _ _ _⟩
  · obtain ⟨prompt, hook, since, hfrom, hQ⟩ := h.active key session chain hold
    refine ⟨prompt, hook, since ++ [obs], hfrom.append obs,
      hkept session chain prompt hook since key hold hfrom (fun chain' hopens hkey => ?_) hQ⟩
    exact hother session chain' hopens (by rw [hkey])

theorem traced_run (config : EmitterConfig) (client : CoreClient) (events : List DerivedEvent) :
    Traced config (fun _ _ _ _ => True)
    (observations events) (Production.run config client events {}) := by
  rw [Production.run_eq_feedAll]
  induction observations events using List.reverseRecOn with
  | nil => exact traced_initial
  | append_singleton before obs ih =>
    rw [Production.feedAll_append]
    exact traced_feed ih (fun _ _ _ => trivial) fun _ _ _ _ _ _ _ _ _ _ => trivial

/-- The chains that a stop can close have a binding. -/
theorem bound_feed (h : ∀ key chain, p.active key = some chain →
    present chain.delivery.bindingId ≠ none) {key : String × String}
    (hactive : (p.feed config client obs).active key = some chain) :
    present chain.delivery.bindingId ≠ none := by
  rcases active_feed hactive with ⟨session, rfl, hopens⟩ | ⟨hold, -⟩
  · obtain ⟨_, _, _, -, -, hbound, -⟩ := correlate_eq_some hopens.correlates
    exact hbound
  · exact h key chain hold

end Provenance

def sampleEventId (seq : Nat) : String := "e-" ++ String.ofList (Nat.toDigits 10 seq)

/-- The projection of an event without content, in the key order of its row. -/
def sampleJson (seq : Nat) (name : String) (payload : Dict) : Json :=
  .obj [("boot_id", .str "boot-1"), ("category", .null), ("event_id", .str (sampleEventId seq)),
    ("name", .str name), ("occurred_at", .str "2026-01-01T00:30:00Z"), ("pane_id", .null),
    ("payload", .obj payload), ("seq", .int seq), ("source", .null), ("surface_id", .null),
    ("window_id", .null), ("workspace_id", .str "workspace-1")]

def sampleEvent (seq : Nat) (name : String) (payload : Dict) : DerivedEvent :=
  { sourceInstanceId := "cmux-1", bootId := "boot-1", seq, sourceEventId := sampleEventId seq
    eventName := name, eventJson := String.ofList (render (sampleJson seq name payload)) }

def sampleObservation (seq : Nat) (name : String) (payload : Dict) : TranslatedObservation :=
  { sourceEvent :=
      { sourceInstanceId := "cmux-1", bootId := "boot-1", seq, sourceEventId := sampleEventId seq
        eventName := name, sessionId := strValue (payload.lookup "session_id")
        bindingId := (observedMarker name payload).map (·.bindingId)
        markerSignature := (observedMarker name payload).map (·.signature) }
    payload, observedAt := "2026-01-01T00:30:00Z", workspaceId := some "workspace-1" }

/-- The text of a sample event is read back. -/
theorem loads_sampleEvent (seq : Nat) (name : String) {payload : Dict}
    (h : Readable (.obj payload)) :
    PyJson.loads (sampleEvent seq name payload).eventJson = some (sampleJson seq name payload) := by
  apply loads_render
  simp only [sampleJson, Readable, ReadableFields, List.map_cons, List.map_nil, and_true, true_and]
  exact ⟨by decide, h⟩

theorem translate_sampleEvent [Host] {seq : Nat} {name : String} {payload : Dict}
    (h : Readable (.obj payload)) :
    translateDerivedEvent (sampleEvent seq name payload) =
      .ok (sampleObservation seq name payload) := by
  unfold translateDerivedEvent
  rw [loads_sampleEvent seq name h]
  simp [sampleJson, sampleEvent, sampleObservation, List.lookup_cons, eqStr, eqInt, strValue,
    present, projectedPayload, Option.filter]

/-- The short form of the sample marker. -/
def sampleToken : String :=
  "ygr1s.delivery-1.binding-1._AvK7DXZUtKhXXys8g4oBZNtUNHkT5MYp_C08XIrieo"

def sampleConfig : EmitterConfig where
  providerId := "cmux"
  deliveryLookup id := if id = "delivery-1" then some (sampleDelivery, sampleMarker) else none

theorem extract_sampleToken : extract sampleToken =
    some (.short ⟨"delivery-1", "binding-1", sampleMarker.signature⟩) := by
  decide +kernel

end Yatagarasu.Cmux
