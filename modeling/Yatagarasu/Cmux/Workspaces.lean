import Yatagarasu.Cmux.Turns
import Yatagarasu.Library.Separation

/-! What the producer emits on the events of one workspace does not depend on the other workspaces.
-/

namespace Yatagarasu.Cmux

open PyJson ReceiptReducer Separation

/-- The workspace key of an event that can be translated. -/
def eventKey [Host] (event : DerivedEvent) : Option String :=
  (translateDerivedEvent event).toOption.map (·.key)

/-- The event is one of this workspace. -/
def ofWorkspace [Host] (key : String) (event : DerivedEvent) : Bool := eventKey event = some key

namespace EmitterState

/-- The emitters hold the same of the workspace. -/
structure SameWorkspace (key : String) (s t : EmitterState) : Prop where
  pending : t.pendingChains key = s.pendingChains key
  active : ∀ session, t.activeChains (key, session) = s.activeChains (key, session)

section

variable [Host] {config : EmitterConfig} {s t : EmitterState} {event : SourceEventRef}
  {payload : Dict} {observedAt key : String} {workspaceId : Option String}

omit [Host] in
theorem same_pending (h : SameWorkspace key s t) (chain : Option PendingChain) :
    SameWorkspace key { s with pendingChains := Function.update s.pendingChains key chain }
      { t with pendingChains := Function.update t.pendingChains key chain } :=
  ⟨by simp, h.active⟩

omit [Host] in
theorem same_active (h : SameWorkspace key s t) (session : String) (chain : Option ActiveChain) :
    SameWorkspace key
      { s with activeChains := Function.update s.activeChains (key, session) chain }
      { t with activeChains := Function.update t.activeChains (key, session) chain } := by
  refine ⟨h.pending, fun other => ?_⟩
  by_cases hother : (key, other) = (key, session)
  · simp [hother]
  · simpa [Function.update_of_ne hother] using h.active other

/-- An observation of the workspace does the same to both. -/
theorem observe_alike (config : EmitterConfig) (event : SourceEventRef) (payload : Dict)
    (observedAt : String) (h : SameWorkspace (workspaceKey workspaceId) s t) :
    Reaction.Alike (SameWorkspace (workspaceKey workspaceId))
      (s.observe config event payload observedAt workspaceId)
      (t.observe config event payload observedAt workspaceId) := by
  generalize hkey : workspaceKey workspaceId = key at h
  unfold observe
  rw [hkey]
  split
  · exact .silent (same_pending h _)
  split
  · unfold observePrompt
    rw [h.pending]
    split
    · exact .silent (same_pending h _)
    · exact .raises (same_pending h _)
  split
  · unfold observeUserPromptSubmit
    rw [h.pending]
    split
    · exact .silent (same_pending h none)
    split
    · exact .silent (same_pending h none)
    · exact .submits (same_active (same_pending h none) _ _) (same_pending h none)
  split
  · unfold observeStop
    split
    · exact .silent h
    rw [h.active]
    split
    · exact .silent h
    split
    · exact .silent (same_active h _ none)
    · exact .submits (same_active h _ none) (same_active h _ none)
  · exact .silent h

/-- An observation of another workspace leaves this one. -/
theorem observe_elsewhere (returns : Receipt → Bool) (hother : workspaceKey workspaceId ≠ key)
    (h : SameWorkspace key s t) : SameWorkspace key
      ((s.observe config event payload observedAt workspaceId).next returns) t := by
  have hpending (chain : Option PendingChain) : SameWorkspace key { s with
      pendingChains := Function.update s.pendingChains (workspaceKey workspaceId) chain } t :=
    ⟨by simpa [Function.update_of_ne hother.symm] using h.pending, h.active⟩
  have hactive (s : EmitterState) (h : SameWorkspace key s t) (session : String)
      (chain : Option ActiveChain) : SameWorkspace key
        { s with
          activeChains := Function.update s.activeChains (workspaceKey workspaceId, session) chain }
        t := by
    refine ⟨h.pending, fun other => ?_⟩
    have hne : (key, other) ≠ (workspaceKey workspaceId, session) := by simp [hother.symm]
    simpa [Function.update_of_ne hne] using h.active other
  unfold observe
  split
  · exact hpending _
  split
  · unfold observePrompt
    split <;> exact hpending _
  split
  · unfold observeUserPromptSubmit
    split
    · exact hpending none
    split
    · exact hpending none
    · simp only [Reaction.next]
      split
      · exact hactive _ (hpending none) _ _
      · exact hpending none
  split
  · unfold observeStop
    split
    · exact h
    split
    · exact h
    split
    · exact hactive s h _ none
    · simp only [Reaction.next, ite_self]
      exact hactive s h _ none
  · exact h

end

end EmitterState

namespace ProducerState

/-- The producers hold the same of the workspace. -/
structure SameWorkspace (key : String) (s t : ProducerState) : Prop where
  emitter : s.emitter.SameWorkspace key t.emitter
  turn : turnOf t.workspaceChains key = turnOf s.workspaceChains key

section

variable [Host] {config : EmitterConfig} {s t : ProducerState} {obs : TranslatedObservation}
  {event : DerivedEvent} {key : String}

theorem feed_alike (config : EmitterConfig) (h : s.SameWorkspace obs.key t) :
    Reaction.Alike (SameWorkspace obs.key) (s.feed config obs) (t.feed config obs) := by
  have haccept : (acceptForEmission t.workspaceChains obs).1 =
      (acceptForEmission s.workspaceChains obs).1 := by
    rw [acceptForEmission_fst, acceptForEmission_fst, h.turn]
  have hturn : turnOf (acceptForEmission t.workspaceChains obs).2 obs.key =
      turnOf (acceptForEmission s.workspaceChains obs).2 obs.key := by
    rw [turnOf_acceptForEmission, turnOf_acceptForEmission, h.turn]
  unfold feed
  generalize acceptForEmission s.workspaceChains obs = before at haccept hturn ⊢
  generalize acceptForEmission t.workspaceChains obs = after at haccept hturn ⊢
  obtain ⟨accepted, chains⟩ := before
  obtain ⟨accepted', chains'⟩ := after
  dsimp only at haccept hturn ⊢
  rw [haccept]
  split
  · have halike := EmitterState.observe_alike config obs.sourceEvent obs.payload obs.observedAt
      h.emitter
    change Reaction.Alike _ (s.emitter.observe config obs.sourceEvent obs.payload obs.observedAt
      obs.workspaceId) (t.emitter.observe config obs.sourceEvent obs.payload obs.observedAt
      obs.workspaceId) at halike
    generalize s.emitter.observe config obs.sourceEvent obs.payload obs.observedAt
      obs.workspaceId = reaction at halike ⊢
    generalize t.emitter.observe config obs.sourceEvent obs.payload obs.observedAt
      obs.workspaceId = reaction' at halike ⊢
    cases halike with
    | silent hnext => exact .silent ⟨hnext, hturn⟩
    | raises hnext => exact .raises ⟨hnext, hturn⟩
    | submits hreturned hraised => exact .submits ⟨hreturned, hturn⟩ ⟨hraised, hturn⟩
  · exact .silent ⟨h.emitter, hturn⟩

theorem feed_elsewhere (returns : Receipt → Bool) (hother : obs.key ≠ key)
    (h : s.SameWorkspace key t) : ((s.feed config obs).next returns).SameWorkspace key t := by
  have hturn : turnOf (acceptForEmission s.workspaceChains obs).2 key =
      turnOf s.workspaceChains key := by
    rw [turnOf_acceptForEmission, if_neg hother.symm]
  unfold feed
  generalize acceptForEmission s.workspaceChains obs = accepting at hturn ⊢
  obtain ⟨accepted, chains⟩ := accepting
  dsimp only at hturn ⊢
  split
  · rw [Reaction.next_map]
    exact ⟨EmitterState.observe_elsewhere returns hother h.emitter, h.turn.trans hturn.symm⟩
  · exact ⟨h.emitter, h.turn.trans hturn.symm⟩

/-- The state after an event, with a core client that returns. -/
def following (config : EmitterConfig) (s : ProducerState) (event : DerivedEvent) :
    ProducerState := (s.observe config event).next fun _ => true

/-- The receipts that the producer emits on an event. -/
def emits (config : EmitterConfig) (s : ProducerState) (event : DerivedEvent) : List Receipt :=
  (s.observe config event).receipt.toList

theorem observe_own (h : s.SameWorkspace key t) (howns : ofWorkspace key event) :
    Reaction.Alike (SameWorkspace key) (s.observe config event) (t.observe config event) := by
  unfold ofWorkspace eventKey at howns
  unfold observe
  cases htranslate : translateDerivedEvent event with
  | error e => exact .raises h
  | ok obs =>
    rw [htranslate] at howns
    obtain rfl : obs.key = key := by simpa [Except.toOption] using howns
    exact feed_alike config h

theorem observe_other (returns : Receipt → Bool) (h : s.SameWorkspace key t)
    (hother : ¬ ofWorkspace key event) :
    ((s.observe config event).next returns).SameWorkspace key t := by
  unfold ofWorkspace eventKey at hother
  unfold observe
  cases htranslate : translateDerivedEvent event with
  | error e => exact h
  | ok obs =>
    rw [htranslate] at hother
    exact feed_elsewhere returns (by simpa [Except.toOption] using hother) h

/-- The other workspaces do not reach what the producer holds of this one. -/
theorem unwinds (config : EmitterConfig) (key : String) :
    Unwinds (following config) (emits config) (ofWorkspace key) (SameWorkspace key) := by
  refine ⟨fun s t event howns h => ?_, fun s t event hother h => observe_other _ h hother⟩
  have halike : Reaction.Alike (SameWorkspace key) (s.observe config event)
    (t.observe config event) := observe_own h howns
  unfold emits following
  generalize s.observe config event = reaction at halike ⊢
  generalize t.observe config event = reaction' at halike ⊢
  cases halike with
  | silent hnext => exact ⟨rfl, hnext⟩
  | raises hnext => exact ⟨rfl, hnext⟩
  | submits hreturned hraised => exact ⟨rfl, hreturned⟩

end

end ProducerState

section Independence

variable [Host]

/-- The receipts that are emitted on the events of one workspace, in a run over all. -/
def receiptsOn (config : EmitterConfig) (key : String) (events : List DerivedEvent) :
    List Receipt :=
  outputs (ProducerState.following config) (ProducerState.emits config) (ofWorkspace key) events {}

/-- All receipts of a run whose core client returns. -/
theorem emitted_run (config : EmitterConfig) (events : List DerivedEvent) (p : Production) :
    (Production.run config returning events p).emitted = p.emitted ++
      outputs (ProducerState.following config) (ProducerState.emits config) (fun _ => true) events
        p.state := by
  induction events generalizing p with
  | nil => simp [outputs]
  | cons event rest ih =>
    rw [Production.run_cons, ih, outputs, if_pos rfl, ← List.append_assoc]
    rfl

/-- The receipts on the events of a workspace are those of the producer that is fed only these. -/
theorem workspaces_independent (config : EmitterConfig) (key : String)
    (events : List DerivedEvent) : receiptsOn config key events =
      (Production.run config returning (events.filter (ofWorkspace key)) {}).emitted := by
  have hsame : ProducerState.SameWorkspace key {} {} := ⟨⟨rfl, fun _ => rfl⟩, rfl⟩
  rw [emitted_run]
  exact (ProducerState.unwinds config key).outputs_filter hsame

end Independence

end Yatagarasu.Cmux
