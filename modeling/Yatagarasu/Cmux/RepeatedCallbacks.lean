import Yatagarasu.Cmux.QueuedTurns

/-! One turn of a workspace whose prompts, hooks and stops come any number of times and in any
phase. -/

namespace Yatagarasu.Cmux

open PyJson ReceiptReducer

/-- What may follow the input of a turn: prompts with the marker, hooks and stops of the session,
and observations of other names. -/
structure TranslatedObservation.Callback (obs : TranslatedObservation) (key session : String)
    (marker : WireMarker) : Prop where
  key : obs.key = key
  input : obs.name ≠ inputSent
  prompt : obs.name = promptSubmitted → obs.marker = some marker
  session : obs.name = userPromptSubmit ∨ obs.name = stop → obs.session = some session

/-- A turn whose callbacks repeat, with its first prompt, the first hook and the first stop whose
phase counts. -/
structure RepeatedTurn where
  input : TranslatedObservation
  early : List TranslatedObservation
  prompt : TranslatedObservation
  waiting : List TranslatedObservation
  hook : TranslatedObservation
  running : List TranslatedObservation
  stop : TranslatedObservation
  rest : List TranslatedObservation

namespace RepeatedTurn

/-- What follows the input. -/
def callbacks (turn : RepeatedTurn) : List TranslatedObservation :=
  turn.early ++ turn.prompt :: (turn.waiting ++ turn.hook :: (turn.running ++ turn.stop ::
    turn.rest))

/-- The named observations are the first of their kind, in this order. -/
structure Fits (counts : TranslatedObservation → Prop) (key session : String)
    (marker : WireMarker) (turn : RepeatedTurn) : Prop where
  input : turn.input.Is inputSent key
  callback : ∀ obs ∈ turn.callbacks, obs.Callback key session marker
  prompt : turn.prompt.name = promptSubmitted
  hook : turn.hook.name = userPromptSubmit ∧ counts turn.hook
  stop : turn.stop.name = Cmux.stop ∧ counts turn.stop
  firstPrompt : ∀ obs ∈ turn.early, obs.name ≠ promptSubmitted
  firstHook : ∀ obs ∈ turn.early ++ turn.waiting, obs.name = userPromptSubmit → ¬ counts obs
  firstStop : ∀ obs ∈ turn.early ++ turn.waiting ++ turn.running,
    obs.name = Cmux.stop → ¬ counts obs

def chain (turn : RepeatedTurn) (delivery : Delivery) (marker : DeliveryMarker) : ActiveChain :=
  ⟨delivery, marker, [turn.input.sourceEvent, turn.prompt.sourceEvent, turn.hook.sourceEvent]⟩

/-- The receipt of the chain input, prompt, hook. -/
def accepted (turn : RepeatedTurn) (config : EmitterConfig) (session : String)
    (delivery : Delivery) (marker : DeliveryMarker) : Receipt :=
  acceptedReceipt config (turn.chain delivery marker) session turn.hook.observedAt
    turn.hook.sourceEvent

/-- The receipt of the chain input, prompt, hook, stop. -/
def completed (turn : RepeatedTurn) (config : EmitterConfig) (session : String)
    (delivery : Delivery) (marker : DeliveryMarker) : Receipt :=
  completedReceipt config (turn.chain delivery marker) session turn.stop.observedAt
    turn.stop.sourceEvent

end RepeatedTurn

/-- The phase is no text other than `completed`. -/
def TranslatedObservation.Completed (obs : TranslatedObservation) : Prop := obs.premature = false

section Passing

variable [Host] {config : EmitterConfig} {client : CoreClient} {p : Production}
  {obs : TranslatedObservation} {all : List TranslatedObservation} {key session : String}
  {marker : WireMarker} {pending : Option PendingChain} {active : Option ActiveChain}
  {turn : WorkspaceChain}

theorem view_passed_all (config : EmitterConfig) (client : CoreClient)
    (h : View p key session pending active turn)
    (hkey : ∀ obs ∈ all, obs.key = key) (hpasses : ∀ obs ∈ all, turn.Passes obs) :
    View (p.feedAll config client all) key session pending active turn ∧
      (p.feedAll config client all).emitted = p.emitted := by
  induction all generalizing p with
  | nil => exact ⟨h, rfl⟩
  | cons obs all ih =>
    obtain ⟨hview, hemitted⟩ := view_passed config client h (hkey obs List.mem_cons_self)
      (hpasses obs List.mem_cons_self)
    obtain ⟨hviews, hsame⟩ := ih hview (fun other hmem => hkey other (List.mem_cons_of_mem _ hmem))
      fun other hmem => hpasses other (List.mem_cons_of_mem _ hmem)
    exact ⟨hviews, hsame.trans hemitted⟩

omit [Host] in
/-- A callback passes if the slot of its name is taken, for a hook also in another phase. -/
theorem passes_callback {signature : Option String} {accepted : List (String × Option String)}
    (hobs : obs.Callback key session marker)
    (hprompt : obs.name = promptSubmitted →
      obs.sourceEvent.markerSignature = signature ∧ (promptSubmitted, signature) ∈ accepted)
    (hhook : obs.name = userPromptSubmit → ¬ obs.Completed ∨
      (userPromptSubmit, signature) ∈ accepted)
    (hstop : obs.name = stop → ¬ obs.Completed ∨ (stop, signature) ∈ accepted) :
    WorkspaceChain.Passes ⟨signature, accepted⟩ obs := by
  by_cases hslot : obs.name ∈ slotNames
  · by_cases hpremature : obs.premature = true
    · exact .premature hpremature
    have hcompleted : obs.Completed := by simpa [TranslatedObservation.Completed] using hpremature
    have hnames : obs.name = promptSubmitted ∨ obs.name = userPromptSubmit ∨ obs.name = stop := by
      simpa [slotNames] using hslot
    rcases hnames with hname | hname | hname
    · obtain ⟨hsigned, htaken⟩ := hprompt hname
      have hevent : obs.sourceEvent.eventName = promptSubmitted := hname
      refine .taken hslot ?_ (hname ▸ htaken)
      simp [WorkspaceChain.entered, hevent, hsigned]
    · refine .taken hslot (entered_of_ne (by rw [hname]; decide)) ?_
      rw [hname]
      exact (hhook hname).resolve_left fun hnot => hnot hcompleted
    · refine .taken hslot (entered_of_ne (by rw [hname]; decide)) ?_
      rw [hname]
      exact (hstop hname).resolve_left fun hnot => hnot hcompleted
  · exact .other hobs.input hslot

/-- A stop whose slot is free closes what is open. -/
theorem view_end (config : EmitterConfig) (client : CoreClient)
    (h : View p key session pending active turn) (hobs : obs.Is stop key)
    (hpremature : obs.premature = false) (hsession : obs.session = some session)
    (hbound : ∀ chain, active = some chain → present chain.delivery.bindingId ≠ none)
    (hfree : (stop, turn.markerSignature) ∉ turn.accepted) :
    View (p.feed config client obs) key session pending none
        { turn with accepted := (stop, turn.markerSignature) :: turn.accepted } ∧
      (p.feed config client obs).emitted = p.emitted ++ active.toList.map fun chain =>
        completedReceipt config chain session obs.observedAt obs.sourceEvent := by
  cases active with
  | some chain => exact view_stop h hobs hpremature hsession (hbound chain rfl) hfree
  | none =>
    have hentered : turn.entered obs.sourceEvent = turn := entered_of_ne (by rw [hobs.1]; decide)
    have hadmits : turn.admits obs = (true,
        { turn with accepted := (stop, turn.markerSignature) :: turn.accepted }) := by
      rw [admits_free hpremature (by rw [hobs.1]; decide) (by rw [hobs.1]; decide)
        (by rw [hentered, hobs.1]; exact hfree), hentered, hobs.1]
    have hreaction : p.reaction config obs = .silent p.state.emitter := by
      refine reaction_stop_silent hobs.1 fun other hother => ?_
      rw [hsession] at hother
      cases hother
      rw [hobs.2]
      exact h.active
    refine ⟨⟨?_, ?_, ?_⟩, ?_⟩
    · rw [← h.pending, Production.feed_eq, hreaction]
      rfl
    · rw [← h.active, Production.feed_eq, hreaction]
      rfl
    · rw [turn_feed, if_pos hobs.2.symm, hobs.2, h.turn, hadmits]
    · rw [Production.feed_eq, hreaction]
      simp [Reaction.receipt]

end Passing

section Collapse

variable [Host] {config : EmitterConfig} {client : CoreClient} {key session : String}
  {marker : WireMarker} {delivery : Delivery} {coreMarker : DeliveryMarker} {turn : RepeatedTurn}

theorem RepeatedTurn.Fits.prompted (config : EmitterConfig) (client : CoreClient)
    (hfits : turn.Fits (·.Completed) key session marker)
    (hsigned : ∀ obs ∈ turn.callbacks, obs.name = promptSubmitted →
      obs.sourceEvent.markerSignature = some marker.signature) :
    let p := Production.feedAll config client {} (turn.input :: (turn.early ++ turn.prompt ::
      turn.waiting))
    View p key session (some ⟨some turn.input.sourceEvent, some turn.prompt.sourceEvent,
      some marker⟩) none ⟨some marker.signature, [(promptSubmitted, some marker.signature)]⟩ ∧
      p.emitted = [] := by
  have hcallback := hfits.callback
  have hfirstHook := hfits.firstHook
  have hfirstStop := hfits.firstStop
  unfold RepeatedTurn.callbacks at hcallback hsigned
  simp only [List.forall_mem_append, List.forall_mem_cons] at hcallback hsigned
  simp only [List.forall_mem_append] at hfirstHook hfirstStop
  obtain ⟨hearly, hprompt, hwaiting, -⟩ := hcallback
  obtain ⟨-, hsignature, hwaitingSigned, -⟩ := hsigned
  have hempty : View {} key session none none {} := ⟨rfl, rfl, rfl⟩
  obtain ⟨hinput, hemitted₁⟩ := view_input config client hempty hfits.input
  -- before the prompt a hook or a stop can only be premature
  obtain ⟨hbefore, hemitted₂⟩ := view_passed_all config client hinput
    (fun obs h => (hearly obs h).key) fun obs hmem => passes_callback (hearly obs hmem)
      (fun hname => absurd hname (hfits.firstPrompt obs hmem))
      (fun hname => .inl (hfirstHook.1 obs hmem hname))
      fun hname => .inl (hfirstStop.1.1 obs hmem hname)
  obtain ⟨hprompted, hemitted₃⟩ := view_prompt config client hbefore ⟨hfits.prompt, hprompt.key⟩
    (hprompt.prompt hfits.prompt) rfl (by simp)
  rw [hsignature hfits.prompt] at hprompted
  -- and so after it, where the marker has its prompt
  obtain ⟨hwaited, hemitted₄⟩ := view_passed_all config client hprompted
    (fun obs h => (hwaiting obs h).key) fun obs hmem => passes_callback (hwaiting obs hmem)
      (fun hname => ⟨hwaitingSigned obs hmem hname, by simp⟩)
      (fun hname => .inl (hfirstHook.2 obs hmem hname))
      fun hname => .inl (hfirstStop.1.2 obs hmem hname)
  simp only [Production.feedAll_cons, Production.feedAll_append]
  exact ⟨hwaited, by rw [hemitted₄, hemitted₃, hemitted₂, hemitted₁]⟩

/-- Each of the named observations moves the workspace on, and everything between them passes. -/
theorem emitted_repeatedTurn (hfits : turn.Fits (·.Completed) key session marker)
    (hsigned : ∀ obs ∈ turn.callbacks, obs.name = promptSubmitted →
      obs.sourceEvent.markerSignature = some marker.signature)
    (hresolved : config.deliveryLookup marker.deliveryId = some (delivery, coreMarker))
    (hbound : present delivery.bindingId ≠ none) :
    (Production.feedAll config client {} (turn.input :: turn.callbacks)).emitted =
      turn.accepted config session delivery coreMarker ::
        if client [] (turn.accepted config session delivery coreMarker) then
          [turn.completed config session delivery coreMarker] else [] := by
  obtain ⟨hwaited, hnone⟩ := hfits.prompted config client hsigned
  have hcallback := hfits.callback
  have hfirstStop := hfits.firstStop
  have hcallbacks : turn.input :: turn.callbacks = (turn.input :: (turn.early ++ turn.prompt ::
      turn.waiting)) ++ turn.hook :: (turn.running ++ turn.stop :: turn.rest) := by
    simp [RepeatedTurn.callbacks]
  rw [hcallbacks, Production.feedAll_append]
  generalize Production.feedAll config client {} (turn.input :: (turn.early ++ turn.prompt ::
    turn.waiting)) = p at hwaited hnone
  unfold RepeatedTurn.callbacks at hcallback hsigned
  simp only [List.forall_mem_append, List.forall_mem_cons] at hcallback hsigned hfirstStop
  obtain ⟨-, -, -, hhook, hrunning, hstop, hrest⟩ := hcallback
  obtain ⟨-, -, -, -, hrunningSigned, -, hrestSigned⟩ := hsigned
  have hchain : correlate config (some ⟨some turn.input.sourceEvent, some turn.prompt.sourceEvent,
      some marker⟩) turn.hook.sourceEvent = some (turn.chain delivery coreMarker) := by
    simp only [correlate, hresolved, hbound, if_false]
    rfl
  have hbegins : turn.hook.Begins key session :=
    ⟨⟨hfits.hook.1, hhook.key⟩, hfits.hook.2, hhook.session (.inl hfits.hook.1)⟩
  obtain ⟨hhooked, hemitted₁⟩ := view_hook client hwaited hbegins
    (by simp [userPromptSubmit, promptSubmitted]) hchain
  -- while the turn runs its hook has come, and a stop can only be premature
  obtain ⟨hran, hemitted₂⟩ := view_passed_all config client hhooked
    (fun obs h => (hrunning obs h).key) fun obs hmem => passes_callback (hrunning obs hmem)
      (fun hname => ⟨hrunningSigned obs hmem hname, by simp⟩) (fun _ => .inr (by simp))
      fun hname => .inl (hfirstStop.2 obs hmem hname)
  obtain ⟨hended, hemitted₃⟩ := view_end config client hran ⟨hfits.stop.1, hstop.key⟩ hfits.stop.2
    (hstop.session (.inr hfits.stop.1)) (by
      intro chain hopen
      split at hopen
      · cases hopen
        exact hbound
      · cases hopen) (by simp [stop, userPromptSubmit, promptSubmitted])
  -- after the stop every slot of the marker is taken
  obtain ⟨-, hemitted₄⟩ := view_passed_all config client hended (fun obs h => (hrest obs h).key)
    fun obs hmem => passes_callback (hrest obs hmem)
      (fun hname => ⟨hrestSigned obs hmem hname, by simp⟩) (fun _ => .inr (by simp))
      fun _ => .inr (by simp)
  rw [Production.feedAll_cons, Production.feedAll_append, Production.feedAll_cons, hemitted₄,
    hemitted₃, hemitted₂, hemitted₁, hnone]
  unfold RepeatedTurn.accepted RepeatedTurn.completed
  split <;> rfl

/-- A prompt that was translated carries the signature of its marker. -/
theorem signed_callbacks {counts : TranslatedObservation → Prop} {events : List DerivedEvent}
    (hevents : observations events = turn.input :: turn.callbacks)
    (hfits : turn.Fits counts key session marker) :
    ∀ obs ∈ turn.callbacks, obs.name = promptSubmitted →
      obs.sourceEvent.markerSignature = some marker.signature := by
  intro obs hmem hname
  have hobserved : obs ∈ observations events := hevents ▸ List.mem_cons_of_mem _ hmem
  obtain ⟨event, -, htranslate⟩ := mem_observations.mp hobserved
  obtain ⟨-, -, -, -, -, -, hsignature⟩ := translate_eq_ok htranslate
  rw [(hfits.callback obs hmem).prompt hname] at hsignature
  exact hsignature

/-- Repeated callbacks collapse to the first of each kind, and the turn is completed if the core
has accepted its first receipt. -/
theorem repeated_callbacks_collapse (config : EmitterConfig) (client : CoreClient)
    (key session : String) (marker : WireMarker) (delivery : Delivery)
    (coreMarker : DeliveryMarker) (turn : RepeatedTurn) (events : List DerivedEvent)
    (hevents : observations events = turn.input :: turn.callbacks)
    (hfits : turn.Fits (·.Completed) key session marker)
    (hresolved : config.deliveryLookup marker.deliveryId = some (delivery, coreMarker))
    (hbound : present delivery.bindingId ≠ none) :
    (Production.run config client events {}).emitted =
      turn.accepted config session delivery coreMarker ::
        if client [] (turn.accepted config session delivery coreMarker) then
          [turn.completed config session delivery coreMarker] else [] := by
  rw [Production.run_eq_feedAll, hevents]
  exact emitted_repeatedTurn hfits (signed_callbacks hevents hfits) hresolved hbound

end Collapse

/-- The payload has no phase, or its phase is `completed`. -/
def TranslatedObservation.CompletedOrAbsent (obs : TranslatedObservation) : Prop :=
  obs.payload.lookup "phase" = none ∨ obs.payload.lookup "phase" = some (.str "completed")

def numberedPhase : Dict := [("phase", .int 1), ("session_id", .str "session-1")]

/-- Two hooks of one prompt, and the phase of the first is a number. -/
def numberedEvents : List DerivedEvent :=
  [sampleEvent 1 inputSent [],
    sampleEvent 2 promptSubmitted [("message_preview", .str sampleToken)],
    sampleEvent 3 userPromptSubmit numberedPhase, sampleEvent 4 userPromptSubmit sessionPayload,
    sampleStop 5]

/-- The turn as the producer reads it. -/
def numberedTurn : RepeatedTurn where
  input := sampleObservation 1 inputSent []
  early := []
  prompt := sampleObservation 2 promptSubmitted [("message_preview", .str sampleToken)]
  waiting := []
  hook := sampleObservation 3 userPromptSubmit numberedPhase
  running := [sampleObservation 4 userPromptSubmit sessionPayload]
  stop := sampleObservation 5 stop sessionPayload
  rest := []

/-- The same turn with the hook whose phase is absent. -/
def absentTurn : RepeatedTurn :=
  { numberedTurn with
    waiting := [sampleObservation 3 userPromptSubmit numberedPhase]
    hook := sampleObservation 4 userPromptSubmit sessionPayload
    running := [] }

def sampleWire : WireMarker := .short ⟨"delivery-1", "binding-1", sampleMarker.signature⟩

theorem observations_numberedEvents [Host] :
    observations numberedEvents = numberedTurn.input :: numberedTurn.callbacks := by
  have hreadable : Readable (.obj numberedPhase) := by
    simp [Readable, ReadableFields, numberedPhase]
  simp [observations, numberedEvents, translate_sampleEvent readable_empty, translate_sampleStop,
    translate_sampleEvent (readable_single _ _), translate_sampleEvent hreadable,
    Except.toOption, sessionPayload, numberedTurn, RepeatedTurn.callbacks]

theorem callback_numbered : ∀ obs ∈ numberedTurn.callbacks,
    obs.Callback "workspace-1" "session-1" sampleWire := by
  have hsession : present (some "session-1") = some "session-1" := by decide
  have hkey (seq : Nat) (name : String) (payload : Dict) :
      (sampleObservation seq name payload).key = "workspace-1" := (sampleObservation_is ..).2
  intro obs hmem
  simp only [numberedTurn, RepeatedTurn.callbacks, List.nil_append, List.cons_append,
    List.mem_cons, List.not_mem_nil, or_false] at hmem
  rcases hmem with rfl | rfl | rfl | rfl
  · exact ⟨hkey .., by decide, fun _ => extract_sampleToken, by decide⟩
  · exact ⟨hkey .., by decide, by decide, fun _ => hsession⟩
  · exact ⟨hkey .., by decide, by decide, fun _ => hsession⟩
  · exact ⟨hkey .., by decide, by decide, fun _ => hsession⟩

theorem fits_numberedTurn :
    numberedTurn.Fits (·.Completed) "workspace-1" "session-1" sampleWire := by
  have hcompleted (seq : Nat) (name : String) :
      (sampleObservation seq name sessionPayload).Completed := (sampleObservation_hook ..).1
  refine ⟨sampleObservation_is .., callback_numbered, rfl, ⟨rfl, ?_⟩, ⟨rfl, hcompleted ..⟩, ?_, ?_,
    ?_⟩
  · unfold TranslatedObservation.Completed TranslatedObservation.premature
    exact Bool.and_false _
  · exact fun obs hmem => absurd hmem List.not_mem_nil
  · exact fun obs hmem => absurd hmem List.not_mem_nil
  · intro obs hmem hname
    simp only [numberedTurn, List.nil_append, List.mem_singleton] at hmem
    rw [hmem] at hname
    exact absurd hname (by decide)

theorem fits_absentTurn :
    absentTurn.Fits (·.CompletedOrAbsent) "workspace-1" "session-1" sampleWire := by
  refine ⟨sampleObservation_is .., callback_numbered, rfl, ⟨rfl, .inl rfl⟩, ⟨rfl, .inl rfl⟩, ?_, ?_,
    ?_⟩
  · exact fun obs hmem => absurd hmem List.not_mem_nil
  · intro obs hmem _
    simp only [absentTurn, numberedTurn, List.nil_append, List.mem_singleton] at hmem
    rw [hmem]
    simp [TranslatedObservation.CompletedOrAbsent, sampleObservation, numberedPhase]
  · intro obs hmem hname
    simp only [absentTurn, numberedTurn, List.nil_append, List.append_nil, List.mem_singleton]
      at hmem
    rw [hmem] at hname
    exact absurd hname (by decide)

/-- The hook whose phase is a number is taken for the first. -/
theorem numbered_phase_counts :
    ¬ ∀ (config : EmitterConfig) (key session : String) (marker : WireMarker)
        (delivery : Delivery) (coreMarker : DeliveryMarker) (turn : RepeatedTurn)
        (events : List DerivedEvent),
      @observations sampleHost events = turn.input :: turn.callbacks →
      turn.Fits (·.CompletedOrAbsent) key session marker →
      config.deliveryLookup marker.deliveryId = some (delivery, coreMarker) →
      present delivery.bindingId ≠ none →
      (@Production.run sampleHost config returning events {}).emitted =
        [turn.accepted config session delivery coreMarker,
          turn.completed config session delivery coreMarker] := by
  intro hclaim
  have hbound : present sampleDelivery.bindingId ≠ none := by decide
  have hstated := hclaim sampleConfig "workspace-1" "session-1" sampleWire sampleDelivery
    sampleMarker absentTurn numberedEvents (@observations_numberedEvents sampleHost)
    fits_absentTurn rfl hbound
  have hevents := @observations_numberedEvents sampleHost
  have hsigned := @signed_callbacks sampleHost _ _ _ _ _ _ hevents fits_numberedTurn
  have hread := @emitted_repeatedTurn sampleHost sampleConfig returning _ _ _ _ _ _
    fits_numberedTurn hsigned rfl hbound
  rw [@Production.run_eq_feedAll sampleHost, hevents, hread] at hstated
  have hid := congrArg Receipt.receiptId (List.cons.inj hstated).1
  exact absurd hid (by decide)

/-- Both receipts of the sample turn. -/
theorem repeated_callbacks_collapse_numbered :
    (@Production.run sampleHost sampleConfig returning numberedEvents {}).emitted =
      [numberedTurn.accepted sampleConfig "session-1" sampleDelivery sampleMarker,
        numberedTurn.completed sampleConfig "session-1" sampleDelivery sampleMarker] :=
  @repeated_callbacks_collapse sampleHost sampleConfig returning "workspace-1" "session-1"
    sampleWire sampleDelivery sampleMarker numberedTurn numberedEvents
    (@observations_numberedEvents sampleHost) fits_numberedTurn rfl (by decide)

end Yatagarasu.Cmux
