import Yatagarasu.Cmux.Turns

/-! A stop of a session without a turn says nothing to the emitter, but the duplicate filter in
front of it gives it the turn's slot. Two runs are compared, without and with the stray stop. -/

namespace Yatagarasu.Cmux

open PyJson ReceiptReducer

/-- An input clears the slots of its workspace, and so does a prompt that changes a marker. -/
def TranslatedObservation.Clears (obs : TranslatedObservation) (turn : WorkspaceChain) : Prop :=
  obs.name = inputSent ∨ (obs.name = promptSubmitted ∧ turn.markerSignature ≠ none ∧
    turn.markerSignature ≠ obs.sourceEvent.markerSignature)

/-- A completed stop of the workspace under this marker. -/
def TranslatedObservation.Ends (obs : TranslatedObservation) (turn : WorkspaceChain)
    (signature : Option String) : Prop :=
  obs.name = stop ∧ obs.premature = false ∧ turn.markerSignature = signature

/-- Before the slots of the workspace are cleared, the next completed stop under this marker is of
a session with an open chain. -/
inductive Loses [Host] (config : EmitterConfig) (client : CoreClient) (key : String)
    (signature : Option String) : Production → List TranslatedObservation → Prop
  | stop {p : Production} {obs : TranslatedObservation} {later : List TranslatedObservation}
      {session : String} : obs.key = key → obs.Ends (p.turn key) signature →
      obs.session = some session → p.active (key, session) ≠ none →
      Loses config client key signature p (obs :: later)
  | later {p : Production} {obs : TranslatedObservation} {later : List TranslatedObservation} :
      ¬ (obs.key = key ∧ (obs.Clears (p.turn key) ∨ obs.Ends (p.turn key) signature)) →
      Loses config client key signature (p.feed config client obs) later →
      Loses config client key signature p (obs :: later)

/-- The same marker, and `extra` slots on top. -/
structure WorkspaceChain.Covers (extra : List (String × Option String))
    (turn turn' : WorkspaceChain) : Prop where
  marker : turn'.markerSignature = turn.markerSignature
  accepted : ∀ slot, slot ∈ turn'.accepted ↔ slot ∈ turn.accepted ∨ slot ∈ extra

section Filter

variable {extra : List (String × Option String)} {turn turn' : WorkspaceChain}
  {obs : TranslatedObservation}

theorem covers_clear (h : turn.Covers extra turn') (hsub : ∀ slot ∈ extra, slot ∈ turn.accepted) :
    turn.Covers [] turn' := by
  refine ⟨h.marker, fun slot => ?_⟩
  rw [h.accepted]
  constructor
  · rintro (hslot | hslot)
    · exact Or.inl hslot
    · exact Or.inl (hsub slot hslot)
  · rintro (hslot | hslot)
    · exact Or.inl hslot
    · cases hslot

/-- Entering keeps the extra slots, unless it clears all of them. -/
theorem covers_entered (h : turn.Covers extra turn') (hinput : obs.name ≠ inputSent) :
    (obs.Clears turn ∧ (turn.entered obs.sourceEvent).Covers [] (turn'.entered obs.sourceEvent)) ∨
      (¬ obs.Clears turn ∧
        (turn.entered obs.sourceEvent).Covers extra (turn'.entered obs.sourceEvent)) := by
  by_cases hprompt : obs.name = promptSubmitted
  · have hevent : obs.sourceEvent.eventName = promptSubmitted := hprompt
    unfold WorkspaceChain.entered
    simp only [hevent, if_true, h.marker]
    by_cases hkeep : turn.markerSignature = none ∨
        turn.markerSignature = obs.sourceEvent.markerSignature
    · rw [if_pos hkeep, if_pos hkeep]
      refine Or.inr ⟨?_, rfl, h.accepted⟩
      rintro (hname | ⟨-, hnone, hother⟩)
      · exact hinput hname
      · exact hkeep.elim hnone hother
    · rw [if_neg hkeep, if_neg hkeep]
      rw [not_or] at hkeep
      exact Or.inl ⟨Or.inr ⟨hprompt, hkeep⟩, rfl, by simp⟩
  · have hevent : obs.sourceEvent.eventName ≠ promptSubmitted := hprompt
    unfold WorkspaceChain.entered
    rw [if_neg hevent, if_neg hevent]
    refine Or.inr ⟨?_, h⟩
    rintro (hname | ⟨hname, -⟩)
    · exact hinput hname
    · exact hprompt hname

omit turn turn' in
theorem not_premature_of_name (h : obs.name = inputSent ∨ obs.name = promptSubmitted) :
    obs.premature = false := by
  unfold TranslatedObservation.premature
  change (List.isPrefixOf _ obs.name.toList && _) = false
  rcases h with h | h <;> rw [h] <;> rfl

/-- Filters that agree on the slot of an observation admit it alike. -/
theorem covers_admits (h : turn.Covers extra turn')
    (hslot : (obs.name, (turn.entered obs.sourceEvent).markerSignature) ∉ extra ∨
      obs.premature = true) :
    (turn'.admits obs).1 = (turn.admits obs).1 ∧
      ((obs.Clears turn ∧ (turn.admits obs).2.Covers [] (turn'.admits obs).2) ∨
        (¬ obs.Clears turn ∧ (turn.admits obs).2.Covers extra (turn'.admits obs).2)) := by
  unfold WorkspaceChain.admits
  by_cases hpremature : obs.premature
  · rw [if_pos hpremature, if_pos hpremature]
    refine ⟨rfl, Or.inr ⟨fun hclears => ?_, h⟩⟩
    have hname : obs.name = inputSent ∨ obs.name = promptSubmitted := by
      rcases hclears with hname | ⟨hname, -⟩
      · exact Or.inl hname
      · exact Or.inr hname
    rw [not_premature_of_name hname] at hpremature
    cases hpremature
  rw [if_neg hpremature, if_neg hpremature]
  by_cases hinput : obs.name = inputSent
  · rw [if_pos hinput, if_pos hinput]
    exact ⟨rfl, Or.inl ⟨Or.inl hinput, rfl, by simp⟩⟩
  rw [if_neg hinput, if_neg hinput]
  have hfree := hslot.resolve_right hpremature
  have hentered : ∃ kept, (∀ slot ∈ kept, slot ∈ extra) ∧
      (turn.entered obs.sourceEvent).Covers kept (turn'.entered obs.sourceEvent) ∧
      ((obs.Clears turn ∧ kept = []) ∨ (¬ obs.Clears turn ∧ kept = extra)) := by
    rcases covers_entered h hinput with ⟨hclears, hcovers⟩ | ⟨hkeeps, hcovers⟩
    · exact ⟨[], by simp, hcovers, Or.inl ⟨hclears, rfl⟩⟩
    · exact ⟨extra, fun _ hmem => hmem, hcovers, Or.inr ⟨hkeeps, rfl⟩⟩
  obtain ⟨kept, hsub, hcovers, hkept⟩ := hentered
  have hresult : ∀ {after after' : WorkspaceChain}, after.Covers kept after' →
      (obs.Clears turn ∧ after.Covers [] after') ∨ (¬ obs.Clears turn ∧ after.Covers extra after') := by
    intro after after' hafter
    rcases hkept with ⟨hclears, rfl⟩ | ⟨hkeeps, rfl⟩
    · exact Or.inl ⟨hclears, hafter⟩
    · exact Or.inr ⟨hkeeps, hafter⟩
  by_cases hname : obs.name ∈ slotNames
  · rw [if_pos hname, if_pos hname, hcovers.marker]
    have hiff : (obs.name, (turn.entered obs.sourceEvent).markerSignature) ∈
        (turn'.entered obs.sourceEvent).accepted ↔
        (obs.name, (turn.entered obs.sourceEvent).markerSignature) ∈
          (turn.entered obs.sourceEvent).accepted := by
      rw [hcovers.accepted]
      exact or_iff_left fun hmem => hfree (hsub _ hmem)
    by_cases htaken : (obs.name, (turn.entered obs.sourceEvent).markerSignature) ∈
        (turn.entered obs.sourceEvent).accepted
    · rw [if_pos htaken, if_pos (hiff.mpr htaken)]
      exact ⟨rfl, hresult hcovers⟩
    · rw [if_neg htaken, if_neg (mt hiff.mp htaken)]
      refine ⟨rfl, hresult ⟨hcovers.marker, fun slot => ?_⟩⟩
      simp only [List.mem_cons, hcovers.accepted, or_assoc]
  · rw [if_neg hname, if_neg hname]
    exact ⟨rfl, hresult hcovers⟩

/-- A stop that finds its slot among the extra ones is admitted by the filter behind only. -/
theorem covers_admits_stop {signature : Option String}
    (h : turn.Covers [(stop, signature)] turn') (hends : obs.Ends turn signature) :
    (turn'.admits obs).1 = false ∧ (turn.admits obs).2.Covers [] (turn'.admits obs).2 ∧
      ((stop, signature) ∉ turn.accepted → (turn.admits obs).1 = true) := by
  obtain ⟨hname, hpremature, hmarker⟩ := hends
  have hinput : ¬ stop = inputSent := by decide
  have hprompt : ¬ obs.sourceEvent.eventName = promptSubmitted := by
    change ¬ obs.name = promptSubmitted
    rw [hname]
    decide
  have hslots : stop ∈ slotNames := by decide
  have hentered : ∀ c : WorkspaceChain, c.entered obs.sourceEvent = c := fun c => if_neg hprompt
  have htaken : (stop, signature) ∈ turn'.accepted := by simp [h.accepted]
  unfold WorkspaceChain.admits
  simp only [hpremature, hname, hinput, hslots, hentered, h.marker, hmarker, htaken, if_true,
    if_false, Bool.false_eq_true]
  by_cases hown : (stop, signature) ∈ turn.accepted
  · rw [if_pos hown]
    refine ⟨trivial, covers_clear h ?_, fun hfree => absurd hown hfree⟩
    intro slot hslot
    rw [List.mem_singleton.mp hslot]
    exact hown
  · rw [if_neg hown]
    refine ⟨trivial, ⟨h.marker.trans hmarker, fun slot => ?_⟩, fun _ => rfl⟩
    rw [h.accepted]
    simp [or_comm]

end Filter

/-- The same emitter and receipts; the filter of one workspace has `extra` slots on top. -/
structure Shadow (key : String) (extra : List (String × Option String)) (p q : Production) :
    Prop where
  emitter : q.state.emitter = p.state.emitter
  emitted : q.emitted = p.emitted
  turns : ∀ other, (p.turn other).Covers (if other = key then extra else []) (q.turn other)

section Runs

variable [Host] {config : EmitterConfig} {client : CoreClient} {p q : Production} {key : String}
  {obs : TranslatedObservation} {extra : List (String × Option String)} {signature : Option String}
  {later : List TranslatedObservation}

/-- Reactions to the same end, and filters that still differ by the extra slots only. -/
theorem shadow_of_reactions
    (hnext : (q.reaction config obs).next (client q.emitted) =
      (p.reaction config obs).next (client p.emitted))
    (hemitted : q.emitted ++ (q.reaction config obs).receipt.toList =
      p.emitted ++ (p.reaction config obs).receipt.toList)
    (hown : ((p.turn obs.key).admits obs).2.Covers (if obs.key = key then extra else [])
      ((q.turn obs.key).admits obs).2)
    (hothers : ∀ other ≠ obs.key, (p.turn other).Covers (if other = key then extra else [])
      (q.turn other)) :
    Shadow key extra (p.feed config client obs) (q.feed config client obs) := by
  refine ⟨?_, ?_, fun other => ?_⟩
  · rw [Production.feed_eq, Production.feed_eq]
    exact hnext
  · rw [Production.feed_eq, Production.feed_eq]
    exact hemitted
  · rw [turn_feed, turn_feed]
    by_cases hother : other = obs.key
    · rw [if_pos hother, if_pos hother, hother]
      exact hown
    · rw [if_neg hother, if_neg hother]
      exact hothers other hother

theorem reaction_eq (hemitter : q.state.emitter = p.state.emitter)
    (hadmits : ((q.turn obs.key).admits obs).1 = ((p.turn obs.key).admits obs).1) :
    q.reaction config obs = p.reaction config obs := by
  unfold Production.reaction
  rw [acceptForEmission_fst, acceptForEmission_fst, hemitter]
  change (if ((q.turn obs.key).admits obs).1 then _ else _) =
    (if ((p.turn obs.key).admits obs).1 then _ else _)
  rw [hadmits]

/-- An observation whose slot both filters agree on does the same in both runs. -/
theorem shadow_feed (h : Shadow key extra p q) (hslot : obs.key = key →
    (obs.name, ((p.turn key).entered obs.sourceEvent).markerSignature) ∉ extra ∨
      obs.premature = true) :
    (obs.key = key ∧ obs.Clears (p.turn key) ∧
        Shadow key [] (p.feed config client obs) (q.feed config client obs)) ∨
      (¬ (obs.key = key ∧ obs.Clears (p.turn key)) ∧
        Shadow key extra (p.feed config client obs) (q.feed config client obs)) := by
  have hown := h.turns obs.key
  by_cases hkey : obs.key = key
  · subst hkey
    rw [if_pos rfl] at hown
    obtain ⟨hadmits, hcovers⟩ := covers_admits hown (hslot rfl)
    have hreaction : q.reaction config obs = p.reaction config obs := reaction_eq h.emitter hadmits
    rcases hcovers with ⟨hclears, hcovers⟩ | ⟨hkeeps, hcovers⟩
    · refine Or.inl ⟨rfl, hclears, shadow_of_reactions (by rw [hreaction, h.emitted])
        (by rw [hreaction, h.emitted]) (by rwa [if_pos rfl]) fun other hother => ?_⟩
      simpa only [hother, if_false] using h.turns other
    · exact Or.inr ⟨fun hboth => hkeeps hboth.2, shadow_of_reactions (by rw [hreaction, h.emitted])
        (by rw [hreaction, h.emitted]) (by rwa [if_pos rfl]) fun other _ => h.turns other⟩
  · rw [if_neg hkey] at hown
    obtain ⟨hadmits, hcovers⟩ := covers_admits hown (Or.inl List.not_mem_nil)
    have hreaction : q.reaction config obs = p.reaction config obs := reaction_eq h.emitter hadmits
    refine Or.inr ⟨fun hboth => hkey hboth.1, shadow_of_reactions (by rw [hreaction, h.emitted])
      (by rw [hreaction, h.emitted]) ?_ fun other _ => h.turns other⟩
    rw [if_neg hkey]
    exact hcovers.elim And.right And.right

theorem shadow_same_run (h : Shadow key [] p q) : (q.feedAll config client later).emitted =
    (p.feedAll config client later).emitted := by
  induction later generalizing p q with
  | nil => exact h.emitted
  | cons obs later ih =>
    rcases shadow_feed h fun _ => Or.inl List.not_mem_nil with ⟨-, -, hnext⟩ | ⟨-, hnext⟩
    · exact ih hnext
    · exact ih hnext

/-- A stop whose session has no open chain says nothing to the emitter. -/
theorem reaction_stop_silent (hname : obs.name = stop)
    (hnone : ∀ session, obs.session = some session → p.active (obs.key, session) = none) :
    p.reaction config obs = .silent p.state.emitter := by
  have hevent : obs.sourceEvent.eventName = stop := hname
  have hinput : ¬ stop = inputSent := by decide
  have hprompt : ¬ stop = promptSubmitted := by decide
  have hhook : ¬ stop = userPromptSubmit := by decide
  unfold Production.reaction
  split
  · simp only [EmitterState.observe, hevent, hinput, hprompt, hhook, if_false, if_true,
      EmitterState.observeStop]
    cases hsession : present obs.sourceEvent.sessionId with
    | none => rfl
    | some session =>
      have hclosed : p.state.emitter.activeChains (workspaceKey obs.workspaceId, session) = none :=
        hnone session hsession
      simp only [hclosed]
  · rfl

/-- A stop that the filter admits closes the open chain of its session. -/
theorem reaction_stop_closes {session : String} {chain : ActiveChain} (hname : obs.name = stop)
    (hadmits : ((p.turn obs.key).admits obs).1 = true) (hsession : obs.session = some session)
    (hactive : p.active (obs.key, session) = some chain)
    (hbound : present chain.delivery.bindingId ≠ none) :
    (p.reaction config obs).receipt =
      some (completedReceipt config chain session obs.observedAt obs.sourceEvent) := by
  have hevent : obs.sourceEvent.eventName = stop := hname
  have hinput : ¬ stop = inputSent := by decide
  have hprompt : ¬ stop = promptSubmitted := by decide
  have hhook : ¬ stop = userPromptSubmit := by decide
  have hpresent : present obs.sourceEvent.sessionId = some session := hsession
  have hopen : p.state.emitter.activeChains (workspaceKey obs.workspaceId, session) = some chain :=
    hactive
  have haccept : (acceptForEmission p.state.workspaceChains obs).1 = true := by
    rw [acceptForEmission_fst]
    exact hadmits
  unfold Production.reaction
  simp only [haccept, EmitterState.observe, hevent, hinput, hprompt, hhook, if_false, if_true,
    EmitterState.observeStop, hpresent, hopen, hbound, Reaction.receipt]

theorem reaction_refused (hadmits : ((p.turn obs.key).admits obs).1 = false) :
    p.reaction config obs = .silent p.state.emitter := by
  have haccept : (acceptForEmission p.state.workspaceChains obs).1 = false := by
    rw [acceptForEmission_fst]
    exact hadmits
  unfold Production.reaction
  simp [haccept]

omit [Host] in
theorem slot_free_of_not_ends (h : ¬ obs.Ends (p.turn key) signature) :
    (obs.name, ((p.turn key).entered obs.sourceEvent).markerSignature) ∉ [(stop, signature)] ∨
      obs.premature = true := by
  by_contra hcontra
  rw [not_or, not_not, List.mem_singleton, Prod.mk.injEq, Bool.not_eq_true] at hcontra
  obtain ⟨⟨hname, hmarker⟩, hpremature⟩ := hcontra
  have hprompt : ¬ obs.sourceEvent.eventName = promptSubmitted := by
    change ¬ obs.name = promptSubmitted
    rw [hname]
    decide
  rw [WorkspaceChain.entered, if_neg hprompt] at hmarker
  exact h ⟨hname, hpremature, hmarker⟩

/-- A slot that makes no later stop lose its chain makes no difference. -/
theorem shadow_run (h : Shadow key [(stop, signature)] p q)
    (hloses : ¬ Loses config client key signature p later) :
    (q.feedAll config client later).emitted = (p.feedAll config client later).emitted := by
  induction later generalizing p q with
  | nil => exact h.emitted
  | cons obs later ih =>
    rw [Production.feedAll_cons, Production.feedAll_cons]
    by_cases hends : obs.key = key ∧ obs.Ends (p.turn key) signature
    · obtain ⟨rfl, hends⟩ := hends
      have hown := h.turns obs.key
      rw [if_pos rfl] at hown
      obtain ⟨hrefused, hcovers, -⟩ := covers_admits_stop hown hends
      have hsilent : p.reaction config obs = .silent p.state.emitter :=
        reaction_stop_silent hends.1 fun session hsession => by
          by_contra hopen
          exact hloses (.stop rfl hends hsession hopen)
      have hsilent' : q.reaction config obs = .silent q.state.emitter := reaction_refused hrefused
      have hnext : Shadow obs.key [] (p.feed config client obs) (q.feed config client obs) := by
        refine shadow_of_reactions ?_ ?_ (by rwa [if_pos rfl]) fun other hother => ?_
        · rw [hsilent, hsilent']
          exact h.emitter
        · rw [hsilent, hsilent', h.emitted]
          rfl
        · simpa only [hother, if_false] using h.turns other
      exact shadow_same_run hnext
    · have hslot : obs.key = key → (obs.name, ((p.turn key).entered
          obs.sourceEvent).markerSignature) ∉ [(stop, signature)] ∨ obs.premature = true :=
        fun hkey => slot_free_of_not_ends fun he => hends ⟨hkey, he⟩
      rcases shadow_feed h hslot with ⟨-, -, hnext⟩ | ⟨hkeeps, hnext⟩
      · exact shadow_same_run hnext
      · refine ih hnext fun hlater => hloses (.later ?_ hlater)
        rintro ⟨hkey, hclears | he⟩
        · exact hkeeps ⟨hkey, hclears⟩
        · exact hends ⟨hkey, he⟩

/-- The slot of a stop stays free until a stop takes it. -/
theorem slot_free_feed (h : (stop, signature) ∉ (p.turn key).accepted)
    (hends : ¬ (obs.key = key ∧ obs.Ends (p.turn key) signature)) :
    (stop, signature) ∉ ((p.feed config client obs).turn key).accepted := by
  rw [turn_feed]
  split
  · rename_i hkey
    subst hkey
    have hentered : (stop, signature) ∉ ((p.turn obs.key).entered obs.sourceEvent).accepted := by
      unfold WorkspaceChain.entered
      split
      · dsimp only
        split
        · exact h
        · exact List.not_mem_nil
      · exact h
    have hslot := slot_free_of_not_ends fun he => hends ⟨rfl, he⟩
    unfold WorkspaceChain.admits
    split
    · exact h
    rename_i hpremature
    split
    · exact List.not_mem_nil
    split
    · split
      · exact hentered
      · intro hmem
        rcases List.mem_cons.mp hmem with heq | hmem
        · exact hslot.elim (fun hother => hother (by simp [heq])) hpremature
        · exact hentered hmem
    · exact hentered
  · exact h

/-- A slot that costs a later stop its chain shows in the receipts. -/
theorem shadow_run_loses (h : Shadow key [(stop, signature)] p q)
    (hfree : (stop, signature) ∉ (p.turn key).accepted)
    (hbound : ∀ key chain, p.active key = some chain → present chain.delivery.bindingId ≠ none)
    (hloses : Loses config client key signature p later)
    (hids : (later.map fun obs => obs.sourceEvent.sourceEventId).Nodup) :
    (q.feedAll config client later).emitted ≠ (p.feedAll config client later).emitted := by
  induction hloses generalizing q with
  | @stop p obs later session hkey hends hsession hopen =>
    subst hkey
    have hown := h.turns obs.key
    rw [if_pos rfl] at hown
    obtain ⟨hrefused, -, hadmits⟩ := covers_admits_stop hown hends
    obtain ⟨chain, hactive⟩ := Option.ne_none_iff_exists'.mp hopen
    have hcloses : (p.reaction config obs).receipt = _ :=
      reaction_stop_closes hends.1 (hadmits hfree) hsession hactive (hbound _ chain hactive)
    obtain ⟨more, hmore, hnamed⟩ := feedAll_emitted config client later (q.feed config client obs)
    obtain ⟨rest, hrest, -⟩ := feedAll_emitted config client later (p.feed config client obs)
    have hp : (p.feed config client obs).emitted = p.emitted ++
        [completedReceipt config chain session obs.observedAt obs.sourceEvent] := by
      rw [Production.feed_eq, hcloses]
      rfl
    have hq : (q.feed config client obs).emitted = p.emitted := by
      rw [Production.feed_eq, reaction_refused hrefused, ← h.emitted]
      exact List.append_nil _
    intro heq
    rw [Production.feedAll_cons, Production.feedAll_cons, hmore, hrest, hp, hq, List.append_assoc]
      at heq
    have hmem : completedReceipt config chain session obs.observedAt obs.sourceEvent ∈ more := by
      rw [List.append_cancel_left heq]
      exact List.mem_cons_self
    obtain ⟨other, hother, hid⟩ := hnamed _ hmem
    have hsame : obs.sourceEvent.sourceEventId = other.sourceEvent.sourceEventId :=
      Option.some.inj hid
    rw [List.map_cons, List.nodup_cons] at hids
    exact hids.1 (List.mem_map.mpr ⟨other, hother, hsame.symm⟩)
  | @later p obs later hkept hlater ih =>
    have hends : ¬ (obs.key = key ∧ obs.Ends (p.turn key) signature) := fun he =>
      hkept ⟨he.1, Or.inr he.2⟩
    rw [List.map_cons, List.nodup_cons] at hids
    rcases shadow_feed h (fun hkey => slot_free_of_not_ends fun he => hends ⟨hkey, he⟩) with
      ⟨hkey, hclears, -⟩ | ⟨-, hnext⟩
    · exact absurd ⟨hkey, Or.inl hclears⟩ hkept
    · exact ih hnext (slot_free_feed hfree hends) (fun _ _ hactive => bound_feed hbound hactive)
        hids.2

end Runs

section Stray

variable [Host] (config : EmitterConfig) (client : CoreClient)

/-- The receipts that a fresh producer emits on a sequence of events. -/
def receipts (events : List DerivedEvent) : List Receipt :=
  (Production.run config client events {}).emitted

/-- The stop takes the free slot of its workspace's turn, and a later stop loses its chain. -/
def Steals (before : List DerivedEvent) (event : DerivedEvent) (after : List DerivedEvent) : Prop :=
  ∃ obs, translateDerivedEvent event = .ok obs ∧ obs.premature = false ∧
    let p := Production.run config client before {}
    (stop, (p.turn obs.key).markerSignature) ∉ (p.turn obs.key).accepted ∧
      Loses config client obs.key (p.turn obs.key).markerSignature p (observations after)

/-- The event is a stop whose session has no hook in the sequence. -/
def Stray (events : List DerivedEvent) (event : DerivedEvent) : Prop :=
  event.eventName = stop ∧ ∀ obs session, translateDerivedEvent event = .ok obs →
    obs.session = some session →
    ∀ hook ∈ observations events, hook.name = userPromptSubmit → hook.session ≠ some session

end Stray

section StrayRun

variable [Host] {config : EmitterConfig} {client : CoreClient} {p : Production}
  {obs : TranslatedObservation}

/-- What a stray stop leaves behind: its slot, if it was free. -/
theorem shadow_stray (hname : obs.name = stop)
    (hnone : ∀ session, obs.session = some session → p.active (obs.key, session) = none) :
    (obs.premature = false ∧
        (stop, (p.turn obs.key).markerSignature) ∉ (p.turn obs.key).accepted ∧
        Shadow obs.key [(stop, (p.turn obs.key).markerSignature)] p (p.feed config client obs)) ∨
      (¬ (obs.premature = false ∧
        (stop, (p.turn obs.key).markerSignature) ∉ (p.turn obs.key).accepted) ∧
        Shadow obs.key [] p (p.feed config client obs)) := by
  have hsilent : p.reaction config obs = _ := reaction_stop_silent hname hnone
  have hinput : ¬ stop = inputSent := by decide
  have hslots : stop ∈ slotNames := by decide
  have hprompt : ¬ obs.sourceEvent.eventName = promptSubmitted := by
    change ¬ obs.name = promptSubmitted
    rw [hname]
    decide
  have hentered : (p.turn obs.key).entered obs.sourceEvent = p.turn obs.key := if_neg hprompt
  have hshadow : ∀ extra, (p.turn obs.key).Covers extra ((p.turn obs.key).admits obs).2 →
      Shadow obs.key extra p (p.feed config client obs) := by
    intro extra hcovers
    refine ⟨?_, ?_, fun other => ?_⟩
    · rw [Production.feed_eq, hsilent]
      rfl
    · rw [Production.feed_eq, hsilent]
      exact List.append_nil _
    · rw [turn_feed]
      split
      · rename_i hother
        rw [hother]
        exact hcovers
      · exact ⟨rfl, by simp⟩
  have hsame : (p.turn obs.key).Covers [] (p.turn obs.key) := ⟨rfl, by simp⟩
  by_cases hpremature : obs.premature
  · refine Or.inr ⟨fun h => ?_, hshadow [] ?_⟩
    · rw [hpremature] at h
      cases h.1
    · rw [WorkspaceChain.admits, if_pos hpremature]
      exact hsame
  rw [Bool.not_eq_true] at hpremature
  by_cases htaken : (stop, (p.turn obs.key).markerSignature) ∈ (p.turn obs.key).accepted
  · refine Or.inr ⟨fun h => h.2 htaken, hshadow [] ?_⟩
    simp only [WorkspaceChain.admits, hpremature, hname, hinput, hslots, hentered, htaken, if_true,
      if_false, Bool.false_eq_true]
    exact hsame
  · refine Or.inl ⟨hpremature, htaken, hshadow _ ?_⟩
    simp only [WorkspaceChain.admits, hpremature, hname, hinput, hslots, hentered, htaken, if_true,
      if_false, Bool.false_eq_true]
    exact ⟨rfl, fun slot => by simp [or_comm]⟩

/-- A stray stop leaves the receipts as they are exactly when it does not take the slot of a stop
that would have closed a chain. -/
theorem stray_stop_inert (config : EmitterConfig) (client : CoreClient)
    (before after : List DerivedEvent) (event : DerivedEvent)
    (hstray : Stray (before ++ after) event) :
    (¬ Steals config client before event after →
      receipts config client (before ++ event :: after) = receipts config client (before ++ after)) ∧
    (((before ++ event :: after).map DerivedEvent.sourceEventId).Nodup →
      receipts config client (before ++ event :: after) = receipts config client (before ++ after) →
      ¬ Steals config client before event after) := by
  obtain ⟨hstop, hsession⟩ := hstray
  have hwithout : receipts config client (before ++ after) =
      ((Production.run config client before {}).feedAll config client (observations after)).emitted := by
    rw [receipts, Production.run_append, Production.run_eq_feedAll config client after]
  cases htranslate : translateDerivedEvent event with
  | error e =>
    have hsame : receipts config client (before ++ event :: after) =
        receipts config client (before ++ after) := by
      rw [receipts, List.append_cons, Production.run_append, Production.run_error config client
        htranslate, ← Production.run_append]
      rfl
    refine ⟨fun _ => hsame, ?_⟩
    rintro - - ⟨obs, hok, -⟩
    rw [htranslate] at hok
    cases hok
  | ok obs =>
    have hwith : receipts config client (before ++ event :: after) =
        (((Production.run config client before {}).feed config client obs).feedAll config client
          (observations after)).emitted := by
      rw [receipts, List.append_cons, Production.run_append, Production.run_ok config client
        htranslate, Production.run_eq_feedAll config client after]
    have hname : obs.name = stop := (translate_eq_ok htranslate).2.2.2.2.1.trans hstop
    have htraced := traced_run config client before
    have hnone : ∀ session, obs.session = some session →
        (Production.run config client before {}).active (obs.key, session) = none := by
      intro session hobs
      by_contra hopen
      obtain ⟨chain, hactive⟩ := Option.ne_none_iff_exists'.mp hopen
      obtain ⟨prompt, hook, since, hfrom, -⟩ := htraced.active _ _ _ hactive
      obtain ⟨input, earlier, hbefore, -⟩ := hfrom.parts
      refine hsession obs session htranslate hobs hook ?_ hfrom.hooked.1 hfrom.observed
      rw [observations_append, hbefore]
      simp
    have hbound : ∀ key chain, (Production.run config client before {}).active key = some chain →
        present chain.delivery.bindingId ≠ none := by
      rintro ⟨key, session⟩ chain hactive
      obtain ⟨prompt, hook, since, hfrom, -⟩ := htraced.active _ _ _ hactive
      exact hfrom.bound
    rw [hwith, hwithout]
    rcases shadow_stray hname hnone with ⟨hpremature, hfree, hshadow⟩ | ⟨hkept, hshadow⟩
    · refine ⟨fun hsteals => shadow_run hshadow fun hloses =>
        hsteals ⟨obs, htranslate, hpremature, hfree, hloses⟩, ?_⟩
      rintro hids heq ⟨obs', hok, -, -, hloses⟩
      cases htranslate.symm.trans hok
      refine shadow_run_loses hshadow hfree hbound hloses ?_ heq
      exact nodup_observations (hids.sublist (by simp))
    · refine ⟨fun _ => shadow_same_run hshadow, ?_⟩
      rintro - - ⟨obs', hok, hpremature, hfree, -⟩
      cases htranslate.symm.trans hok
      exact hkept ⟨hpremature, hfree⟩

/-- A stop of the other seat of the workspace. -/
def sampleStray (seq : Nat) : DerivedEvent :=
  sampleEvent seq stop [("session_id", .str "session-2")]

theorem translate_sampleStray (seq : Nat) : translateDerivedEvent (sampleStray seq) =
    .ok (sampleObservation seq stop [("session_id", .str "session-2")]) :=
  translate_sampleEvent (readable_single _ _)

theorem stray_sampleStray (seq seq' : Nat) :
    Stray (sampleTurn ++ [sampleStop seq']) (sampleStray seq) := by
  refine ⟨rfl, fun obs session htranslate hsession hook hhook hname => ?_⟩
  cases (translate_sampleStray seq).symm.trans htranslate
  cases hsession
  rw [observations_append, observations_sampleTurn, observations_ok (translate_sampleStop seq')]
    at hhook
  simp only [List.cons_append, List.nil_append, List.mem_cons, List.not_mem_nil, or_false] at hhook
  rcases hhook with rfl | rfl | rfl | rfl
  · exact absurd hname (by decide)
  · exact absurd hname (by decide)
  · decide
  · have hother : stop ≠ userPromptSubmit := by decide
    exact absurd hname hother

end StrayRun

/-- After the hook, the stop of the other seat takes the slot: the turn is never completed. -/
theorem stray_stop_suppresses :
    @Stray sampleHost (sampleTurn ++ [sampleStop 5]) (sampleStray 4) ∧
    @receipts sampleHost sampleConfig returning (sampleTurn ++ sampleStray 4 :: [sampleStop 5]) ≠
      @receipts sampleHost sampleConfig returning (sampleTurn ++ [sampleStop 5]) := by
  refine ⟨@stray_sampleStray sampleHost 4 5, ?_⟩
  unfold receipts
  rw [List.append_cons,
    @Production.run_ok sampleHost _ _ _ _ _ (@translate_sampleStop sampleHost 5),
    @Production.run_ok sampleHost _ _ _ _ _ (@translate_sampleStop sampleHost 5),
    @Production.run_ok sampleHost _ _ _ _ _ (@translate_sampleStray sampleHost 4),
    @Production.run_eq_feedAll sampleHost, @observations_sampleTurn sampleHost]
  decide +kernel

/-- Before the turn it takes a slot that the input clears. -/
theorem stray_stop_inert_sample :
    @Stray sampleHost ([] ++ (sampleTurn ++ [sampleStop 5])) (sampleStray 0) ∧
    ¬ @Steals sampleHost sampleConfig returning [] (sampleStray 0) (sampleTurn ++ [sampleStop 5]) ∧
    @receipts sampleHost sampleConfig returning (sampleStray 0 :: (sampleTurn ++ [sampleStop 5])) =
      @receipts sampleHost sampleConfig returning (sampleTurn ++ [sampleStop 5]) := by
  have hstray := @stray_sampleStray sampleHost 0 5
  have hkept : ¬ @Steals sampleHost sampleConfig returning [] (sampleStray 0)
      (sampleTurn ++ [sampleStop 5]) := by
    rintro ⟨obs, htranslate, -, -, hloses⟩
    cases (@translate_sampleStray sampleHost 0).symm.trans htranslate
    rw [@observations_append sampleHost, @observations_sampleTurn sampleHost] at hloses
    cases hloses with
    | stop _ hends => exact absurd hends.1 (by decide)
    | later hclears => exact hclears ⟨rfl, Or.inl (Or.inl rfl)⟩
  exact ⟨hstray, hkept, (@stray_stop_inert sampleHost sampleConfig returning [] _ _ hstray).1 hkept⟩

end Yatagarasu.Cmux
