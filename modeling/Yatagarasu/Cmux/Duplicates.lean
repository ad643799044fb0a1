import Yatagarasu.Cmux.Resident
import Yatagarasu.Cmux.StrayStops

/-! The producer observes an event before the outbox decides whether it is known. A duplicate is
harmless where the producer already holds it as observed. -/

namespace Yatagarasu.Cmux

open PyJson ReceiptReducer Transition

/-- The same emitter, and filters that know the same of every workspace. -/
structure ProducerState.Same (s s' : ProducerState) : Prop where
  emitter : s'.emitter = s.emitter
  turns : ∀ key, turnOf s'.workspaceChains key = turnOf s.workspaceChains key

section Same

variable [Host] {config : EmitterConfig} {s s' : ProducerState} {obs : TranslatedObservation}

omit [Host] in
theorem same_refl (s : ProducerState) : s.Same s := ⟨rfl, fun _ => rfl⟩

omit [Host] in
theorem same_trans {s'' : ProducerState} (h : s.Same s') (h' : s'.Same s'') : s.Same s'' :=
  ⟨h'.emitter.trans h.emitter, fun key => (h'.turns key).trans (h.turns key)⟩

omit [Host] in
theorem same_accept (h : s.Same s') (obs : TranslatedObservation) :
    (acceptForEmission s'.workspaceChains obs).1 = (acceptForEmission s.workspaceChains obs).1 ∧
      ∀ key, turnOf (acceptForEmission s'.workspaceChains obs).2 key =
        turnOf (acceptForEmission s.workspaceChains obs).2 key := by
  refine ⟨?_, fun key => ?_⟩
  · rw [acceptForEmission_fst, acceptForEmission_fst, h.turns]
  · rw [turnOf_acceptForEmission, turnOf_acceptForEmission, h.turns, h.turns]

theorem feed_same (h : s.Same s') (obs : TranslatedObservation) :
    Reaction.Alike ProducerState.Same (s.feed config obs) (s'.feed config obs) := by
  obtain ⟨haccept, hturns⟩ := same_accept h obs
  unfold ProducerState.feed
  rw [h.emitter]
  generalize acceptForEmission s.workspaceChains obs = before at haccept hturns ⊢
  generalize acceptForEmission s'.workspaceChains obs = after at haccept hturns ⊢
  obtain ⟨accepted, chains⟩ := before
  obtain ⟨accepted', chains'⟩ := after
  dsimp only at haccept hturns ⊢
  rw [haccept]
  split
  · generalize s.emitter.observe config obs.sourceEvent obs.payload obs.observedAt
      obs.workspaceId = reaction
    cases reaction with
    | silent next => exact .silent ⟨rfl, hturns⟩
    | raises e next => exact .raises ⟨rfl, hturns⟩
    | submits receipt returned raised => exact .submits ⟨rfl, hturns⟩ ⟨rfl, hturns⟩
  · exact .silent ⟨rfl, hturns⟩

theorem observe_same (h : s.Same s') (event : DerivedEvent) :
    Reaction.Alike ProducerState.Same (s.observe config event) (s'.observe config event) := by
  unfold ProducerState.observe
  cases translateDerivedEvent event with
  | error e => exact .raises h
  | ok obs => exact feed_same h obs

/-- What the producer holds as observed: a name or a phase that it passes over, a slot that the
workspace's turn has taken, or the input that its pending chain consists of. -/
inductive Inert (s : ProducerState) (obs : TranslatedObservation) : Prop
  | premature : obs.premature → Inert s obs
  | unnamed : obs.name ≠ inputSent → obs.name ∉ slotNames → Inert s obs
  | taken : obs.name ∈ slotNames →
      (obs.name = promptSubmitted → (turnOf s.workspaceChains obs.key).markerSignature =
        obs.sourceEvent.markerSignature) →
      (obs.name, (turnOf s.workspaceChains obs.key).markerSignature) ∈
        (turnOf s.workspaceChains obs.key).accepted → Inert s obs
  | pending : obs.name = inputSent → turnOf s.workspaceChains obs.key = {} →
      s.emitter.pendingChains obs.key = some { inputEvent := some obs.sourceEvent } → Inert s obs

omit [Host] in
theorem entered_same {turn : WorkspaceChain}
    (h : obs.name = promptSubmitted → turn.markerSignature = obs.sourceEvent.markerSignature) :
    turn.entered obs.sourceEvent = turn := by
  unfold WorkspaceChain.entered
  split
  · rename_i hname
    rw [if_pos (.inr (h hname)), ← h hname]
  · rfl

omit [Host] in
/-- A filter that leaves its workspace as it was leaves every workspace so. -/
theorem turns_same (h : ((turnOf s.workspaceChains obs.key).admits obs).2 =
    turnOf s.workspaceChains obs.key) (key : String) :
    turnOf (acceptForEmission s.workspaceChains obs).2 key = turnOf s.workspaceChains key := by
  rw [turnOf_acceptForEmission]
  split
  · rename_i hkey
    rw [h, hkey]
  · rfl

/-- An observation is silent if the filter refuses it, or if the emitter has nothing to do. -/
theorem feed_unchanged (h : ((turnOf s.workspaceChains obs.key).admits obs).2 =
    turnOf s.workspaceChains obs.key)
    (hemitter : ((turnOf s.workspaceChains obs.key).admits obs).1 →
      s.emitter.observe config obs.sourceEvent obs.payload obs.observedAt obs.workspaceId =
        .silent s.emitter) :
    ∃ next, s.feed config obs = .silent next ∧ s.Same next := by
  refine ⟨{ s with workspaceChains := (acceptForEmission s.workspaceChains obs).2 }, ?_, rfl,
    turns_same h⟩
  rw [← acceptForEmission_fst] at hemitter
  unfold ProducerState.feed
  generalize acceptForEmission s.workspaceChains obs = result at hemitter ⊢
  obtain ⟨accepted, chains⟩ := result
  dsimp only at hemitter ⊢
  split
  · rename_i haccepted
    rw [hemitter haccepted]
    rfl
  · rfl

/-- An inert observation is silent and changes nothing. -/
theorem feed_inert (h : Inert s obs) : ∃ next, s.feed config obs = .silent next ∧ s.Same next := by
  cases h with
  | premature hpremature =>
    refine feed_unchanged ?_ ?_
    · rw [WorkspaceChain.admits, if_pos hpremature]
    · intro haccepted
      rw [WorkspaceChain.admits, if_pos hpremature] at haccepted
      cases haccepted
  | unnamed hinput hslot =>
    have hprompt : obs.name ≠ promptSubmitted := fun hname => hslot (by simp [hname, slotNames])
    have hhook : obs.name ≠ userPromptSubmit := fun hname => hslot (by simp [hname, slotNames])
    have hstop : obs.name ≠ stop := fun hname => hslot (by simp [hname, slotNames])
    refine feed_unchanged ?_ fun _ => ?_
    · rw [WorkspaceChain.admits, entered_same fun hname => absurd hname hprompt]
      split <;> rfl
    · have hevent : ∀ name, obs.name ≠ name → obs.sourceEvent.eventName ≠ name := fun _ h => h
      unfold EmitterState.observe
      rw [if_neg (hevent _ hinput), if_neg (hevent _ hprompt), if_neg (hevent _ hhook),
        if_neg (hevent _ hstop)]
  | taken hslot hmarker htaken =>
    have hinput : obs.name ≠ inputSent := by
      intro hname
      rw [hname] at hslot
      exact absurd hslot (by decide)
    have hadmits : (turnOf s.workspaceChains obs.key).admits obs =
        (false, turnOf s.workspaceChains obs.key) := by
      rw [WorkspaceChain.admits, entered_same hmarker, if_neg hinput, if_pos hslot,
        if_pos htaken, ite_self]
    refine feed_unchanged (by rw [hadmits]) fun haccepted => ?_
    rw [hadmits] at haccepted
    cases haccepted
  | pending hname hturn hpending =>
    have hpremature : obs.premature = false := not_premature_of_name (.inl hname)
    have hadmits : (turnOf s.workspaceChains obs.key).admits obs = (true, {}) := by
      rw [WorkspaceChain.admits, hpremature, if_neg Bool.false_ne_true, if_pos hname]
    refine feed_unchanged (by rw [hadmits, hturn]) fun _ => ?_
    unfold EmitterState.observe
    rw [if_pos (show obs.sourceEvent.eventName = inputSent from hname)]
    unfold EmitterState.observeInput
    have hsame : Function.update s.emitter.pendingChains (workspaceKey obs.workspaceId)
        (some { inputEvent := some obs.sourceEvent }) = s.emitter.pendingChains := by
      rw [← hpending]
      exact Function.update_eq_self _ _
    rw [hsame]

end Same

/-- An event that the producer holds as observed, if it can be read at all. -/
def InertEvent [Host] (s : ProducerState) (event : DerivedEvent) : Prop :=
  ∀ obs, translateDerivedEvent event = .ok obs → Inert s obs

/-- A step inside a run, with a core client that returns. -/
def Process.Live [Host] (r : Resident) (p : Process) (os : List Occurrence) (p' : Process) :
    Prop :=
  ∃ input, p.next r input = some (p', os) ∧ (∀ maxConnections, input ≠ .start maxConnections) ∧
    input ≠ .proceed false

/-- A live step on which an event that is already in the outbox says nothing new. -/
def Process.Harmless [Host] (r : Resident) (p : Process) (os : List Occurrence) (p' : Process) :
    Prop :=
  p.Live r os p' ∧ ∀ tally session event, p.phase = .running tally (.observing session event) →
    event ∈ p.outbox.rows → InertEvent p.producer event

def submission? : Occurrence → Option Receipt
  | .submitted receipt _ => some receipt
  | _ => none

/-- The receipts that were handed to the core. -/
def submissions (os : List Occurrence) : List Receipt := os.filterMap submission?

theorem submissions_append (os later : List Occurrence) :
    submissions (os ++ later) = submissions os ++ submissions later := List.filterMap_append

section Mirror

variable [Host] {r : Resident} {config : EmitterConfig} {s s' : ProducerState}
  {events : List DerivedEvent} {event : DerivedEvent} {os seen : List Occurrence}

variable (config) in
/-- What a fresh producer makes of the events. -/
def recovered (events : List DerivedEvent) : Production :=
  Production.run config returning events {}

variable (config) in
/-- The producer is where the events would have put a fresh one, and the same receipts are out. -/
structure Mirrors (events : List DerivedEvent) (os : List Occurrence) (s : ProducerState) :
    Prop where
  state : (recovered config events).state.Same s
  emitted : submissions os = (recovered config events).emitted

theorem mirrors_initial (hos : submissions os = []) : Mirrors config [] os {} :=
  ⟨same_refl _, hos⟩

theorem mirrors_silent (h : Mirrors config events os s) (hseen : submissions seen = []) :
    Mirrors config events (os ++ seen) s := by
  refine ⟨h.state, ?_⟩
  rw [submissions_append, hseen, List.append_nil]
  exact h.emitted

omit [Host] in
theorem quiet_submissions (o : Occurrence) (h : submission? o = none) : submissions [o] = [] := by
  simp [submissions, h]

/-- The two ways in which the receipt plane returns. -/
theorem observe_returns (hproducer : r.receiptProducer = some config)
    (h : r.observe s event true = (none, s', seen)) :
    (s.observe config event = .silent s' ∧ seen = []) ∨
      ∃ receipt raised, s.observe config event = .submits receipt s' raised ∧
        seen = [.submitted receipt true] := by
  unfold Resident.observe at h
  rw [hproducer] at h
  dsimp only at h
  split at h
  · rename_i next hsilent
    cases h
    exact .inl ⟨hsilent, rfl⟩
  · cases h
  · rename_i receipt returned raised hsubmits
    cases h
    exact .inr ⟨receipt, raised, hsubmits, rfl⟩

theorem mirrors_observed (hproducer : r.receiptProducer = some config)
    (h : Mirrors config events os s) (hobserve : r.observe s event true = (none, s', seen)) :
    Mirrors config (events ++ [event]) (os ++ seen) s' := by
  have halike : Reaction.Alike ProducerState.Same
      ((recovered config events).state.observe config event) (s.observe config event) :=
    observe_same h.state event
  have hrun : recovered config (events ++ [event]) = (recovered config events).after returning
      ((recovered config events).state.observe config event) := by
    rw [recovered, Production.run_append]
    rfl
  rcases observe_returns hproducer hobserve with ⟨hsilent, rfl⟩ | ⟨receipt, raised, hsubmits, rfl⟩
  · rw [hsilent] at halike
    obtain ⟨next, hnext, hsame⟩ := alike_silent halike
    refine ⟨?_, ?_⟩
    · rw [hrun, hnext]
      exact hsame
    · rw [submissions_append, hrun, hnext, h.emitted]
      rfl
  · rw [hsubmits] at halike
    obtain ⟨next, _, hnext, hsame⟩ := alike_submits halike
    refine ⟨?_, ?_⟩
    · rw [hrun, hnext]
      exact hsame
    · rw [submissions_append, hrun, hnext, h.emitted]
      rfl

theorem mirrors_inert (hproducer : r.receiptProducer = some config)
    (h : Mirrors config events os s) (hinert : InertEvent s event)
    (hobserve : r.observe s event true = (none, s', seen)) :
    Mirrors config events (os ++ seen) s' := by
  have hsilent : ∀ obs, translateDerivedEvent event = .ok obs → ∃ next,
      s.observe config event = .silent next ∧ s.Same next := by
    intro obs hobs
    unfold ProducerState.observe
    rw [hobs]
    exact feed_inert (hinert obs hobs)
  cases htranslate : translateDerivedEvent event with
  | error e =>
    have hraises : s.observe config event = .raises e s := by
      unfold ProducerState.observe
      rw [htranslate]
    rcases observe_returns hproducer hobserve with ⟨heq, -⟩ | ⟨_, _, heq, -⟩ <;>
      · rw [hraises] at heq
        cases heq
  | ok obs =>
    obtain ⟨next, hnext, hsame⟩ := hsilent obs htranslate
    rcases observe_returns hproducer hobserve with ⟨heq, rfl⟩ | ⟨_, _, heq, -⟩
    · rw [hnext] at heq
      cases heq
      rw [List.append_nil]
      exact ⟨same_trans h.state hsame, h.emitted⟩
    · rw [hnext] at heq
      cases heq

variable {p p' : Process}

def Process.rows (r : Resident) (p : Process) : List DerivedEvent :=
  p.outbox.outboxEvents r.sourceInstanceId

variable (r config) in
/-- Between two events the producer mirrors the rows; in between it is one event ahead. -/
def FollowsAt (os : List Occurrence) (p : Process) : Phase → Prop
  | .running _ (.recovering rest) =>
    ∃ done, p.rows r = done ++ rest ∧ Mirrors config done os p.producer
  | .running _ (.observing _ event) =>
    event.sourceInstanceId = r.sourceInstanceId ∧ Mirrors config (p.rows r) os p.producer
  | .running _ (.committing _ event) =>
    event.sourceInstanceId = r.sourceInstanceId ∧
      (event ∈ p.outbox.rows → Mirrors config (p.rows r) os p.producer) ∧
      (event ∉ p.outbox.rows → Mirrors config (p.rows r ++ [event]) os p.producer)
  | .ready | .raised _ => True
  | _ => Mirrors config (p.rows r) os p.producer

/-- No event is under way, and the run has not raised. -/
def Phase.Settled : Phase → Prop
  | .running _ (.recovering _) | .running _ (.committing _ _) | .ready | .raised _ => False
  | _ => True

theorem mirrors_of_settled {phase : Phase} (h : FollowsAt r config os p phase)
    (hsettled : phase.Settled) : Mirrors config (p.rows r) os p.producer := by
  cases phase with
  | ready => cases hsettled
  | raised e => cases hsettled
  | returned run => exact h
  | running tally position =>
    cases position with
    | recovering | committing => cases hsettled
    | observing => exact h.2
    | connecting | handshake | snapshotting | reading | closing => exact h

theorem follows_committed {session : Session} {outbox : Outbox}
    {disposition : CommitDisposition} {tally : Tally}
    (h : FollowsAt r config os p (.running tally (.committing session event)))
    (hcommitted : Outbox.Committed p.outbox event session.gap disposition outbox) :
    Mirrors config (outbox.outboxEvents r.sourceInstanceId) os p.producer := by
  obtain ⟨hsource, hknown, hnew⟩ := h
  cases hcommitted with
  | duplicate hrow => exact hknown hrow
  | inserted hfresh =>
    rw [Outbox.outboxEvents_insertEvent, if_pos hsource]
    exact hnew fun hrow => hfresh event hrow rfl

/-- One harmless step. -/
theorem follows_step (hproducer : r.receiptProducer = some config) {new : List Occurrence}
    (h : FollowsAt r config os p p.phase) (hstep : p.Harmless r new p') :
    FollowsAt r config (os ++ new) p' p'.phase := by
  obtain ⟨⟨input, hnext, hstart, hreturns⟩, hinert⟩ := hstep
  have hanswer : ∀ returns, input = .proceed returns → returns = true := by
    intro returns heq
    cases returns with
    | true => rfl
    | false => exact absurd heq hreturns
  cases Process.step_of_next hnext with
  | started maxConnections => exact absurd rfl (hstart maxConnections)
  | recovered hphase =>
    rw [hphase] at h
    obtain ⟨done, hrows, hmirrors⟩ := h
    rw [List.append_nil] at hrows ⊢
    rw [← hrows] at hmirrors
    exact hmirrors
  | replayed hphase hobserve =>
    rw [hphase] at h
    obtain ⟨done, hrows, hmirrors⟩ := h
    cases hanswer _ rfl
    refine ⟨done ++ [_], ?_, mirrors_observed hproducer hmirrors hobserve⟩
    rw [List.append_assoc]
    exact hrows
  | observed hphase hobserve =>
    rw [hphase] at h
    obtain ⟨hsource, hmirrors⟩ := h
    cases hanswer _ rfl
    refine ⟨hsource, fun hrow => ?_, fun _ => mirrors_observed hproducer hmirrors hobserve⟩
    exact mirrors_inert hproducer hmirrors (hinert _ _ _ hphase hrow) hobserve
  | refused | unreachable | raised => trivial
  | requested hphase =>
    rw [hphase] at h
    exact mirrors_silent h rfl
  | @acknowledged tally durableBefore frame ack hphase =>
    rw [hphase] at h
    have hmirrors := mirrors_silent h (quiet_submissions (.acknowledged ack.bootId
      (Process.declaresGap durableBefore ack)) rfl)
    unfold Process.opening
    dsimp only [Process.moveTo]
    split <;> exact hmirrors
  | ignored =>
    rw [List.append_nil]
    exact h
  | ended hphase | disconnected hphase =>
    rw [hphase] at h
    rw [List.append_nil]
    exact h
  | received hphase hevent =>
    rw [hphase] at h
    rw [List.append_nil]
    exact ⟨(project_eq_ok (Process.classify_event hevent).2).1, h⟩
  | @committed tally session event returns disposition outbox hphase hcommitted =>
    rw [hphase] at h
    have hmirrors := mirrors_silent (follows_committed h hcommitted)
      (quiet_submissions (.committed event disposition) rfl)
    unfold Process.account
    dsimp only
    split
    · dsimp only
      split <;> exact hmirrors
    · exact hmirrors
  | snapshotted hphase hcommands =>
    rw [hphase] at h
    have hrows : ∀ (o : Outbox) cursor commands replayCount,
        (o.resnapshot cursor commands replayCount).outboxEvents r.sourceInstanceId =
          o.outboxEvents r.sourceInstanceId := fun _ _ _ _ =>
      congrArg (List.filter _) Outbox.rows_resnapshot
    refine mirrors_silent ?_ rfl
    change Mirrors config (Outbox.outboxEvents _ _) os p.producer
    rw [hrows]
    exact h
  | completed hphase =>
    rw [hphase] at h
    have hmirrors := mirrors_silent h (quiet_submissions .completed rfl)
    unfold Process.completed
    dsimp only
    split <;> exact hmirrors

theorem follows_start (hproducer : r.receiptProducer = some config) (p : Process)
    (maxConnections : Int) :
    FollowsAt r config [] (p.start r maxConnections) (p.start r maxConnections).phase := by
  unfold Process.start
  split
  · trivial
  · rw [hproducer]
    exact ⟨[], rfl, mirrors_initial rfl⟩

end Mirror

/-- In a run that re-sends only events which the producer holds as observed, the receipts that
are out whenever no event is under way are those that a fresh producer makes of the rows. -/
theorem duplicates_harmless [Host] (r : Resident) {config : EmitterConfig}
    (hproducer : r.receiptProducer = some config) {start p : Process} {maxConnections : Int}
    {os : List Occurrence}
    (hruns : Runs (Process.Harmless r) (start.start r maxConnections) os p)
    (hsettled : p.phase.Settled) (receipt : Receipt) :
    receipt ∈ submissions os ↔ receipt ∈ (recovered config (p.rows r)).emitted := by
  have hfollows : FollowsAt r config os p p.phase :=
    hruns.invariant (J := fun os p => FollowsAt r config os p p.phase)
      (follows_start hproducer start maxConnections) fun h hstep => follows_step hproducer h hstep
  rw [(mirrors_of_settled hfollows hsettled).emitted]

def Reaction.error {σ : Type} : Reaction σ → Option CmuxError
  | .raises e _ => some e
  | _ => none

/-- One event of the stream, with what it says. -/
structure Arrival where
  seq : Nat
  name : String
  payload : Dict
  kept : SamplePayload payload payload
  named : name ≠ ""
  small : seq < 2 ^ 63

namespace Arrival

def event (a : Arrival) : DerivedEvent := sampleEvent a.seq a.name a.payload

def observation (a : Arrival) : TranslatedObservation := sampleObservation a.seq a.name a.payload

theorem translate [Host] (a : Arrival) : translateDerivedEvent a.event = .ok a.observation :=
  translate_sampleEvent a.kept.readable

end Arrival

def arrivingInput : Arrival := ⟨1, inputSent, [], samplePayload_empty, by decide, by decide⟩

def arrivingPrompt : Arrival :=
  ⟨2, promptSubmitted, [("message_preview", .str sampleToken)], samplePayload_token, by decide,
    by decide⟩

def arrivingHook : Arrival :=
  ⟨3, userPromptSubmit, [("session_id", .str "session-1")], samplePayload_session, by decide,
    by decide⟩

section SampleRun

variable [Host] {r : Resident} {config : EmitterConfig} {s s' : ProducerState}
  {session : Session} {outbox outbox' : Outbox} {name : String} {payload kept : Dict}
  {event : DerivedEvent} {disposition : CommitDisposition} {seen : List Occurrence}

/-- The receipt plane of a resident is a production whose client returns. -/
theorem observe_feed (hproducer : r.receiptProducer = some config) {p : Production}
    {obs : TranslatedObservation} (htranslate : translateDerivedEvent event = .ok obs)
    (hreturns : (p.state.feed config obs).error = none) :
    r.observe p.state event true = (none, (p.feed config returning obs).state,
      (p.state.feed config obs).receipt.toList.map (.submitted · true)) := by
  unfold Resident.observe ProducerState.observe Production.feed Production.after
  rw [hproducer, htranslate]
  dsimp only
  cases hreaction : p.state.feed config obs with
  | silent next => rfl
  | raises e next =>
    rw [hreaction] at hreturns
    cases hreturns
  | submits receipt returned raised => rfl

def reading (tally : Tally) (session : Session) (outbox : Outbox) (s : ProducerState) : Process :=
  ⟨outbox, s, .running tally (.reading session)⟩

/-- The three steps of one event on a connection whose replay is through. -/
theorem live_event (tally : Tally) (seq : Nat) (hsource : r.sourceInstanceId = "cmux-1")
    (hpayload : SamplePayload payload kept) (hname : name ≠ "")
    (hboot : session.ack.bootId = "boot-1") (hreplay : session.remainingReplay = 0)
    (hobserve : r.observe s (sampleEvent seq name kept) true = (none, s', seen))
    (hcommit : outbox.commitEvent (sampleEvent seq name kept) session.gap =
      .ok (disposition, outbox')) :
    Process.Live r (reading tally session outbox s) []
        ⟨outbox, s, .running tally (.observing session (sampleEvent seq name kept))⟩ ∧
      Process.Live r ⟨outbox, s, .running tally (.observing session (sampleEvent seq name kept))⟩
        seen ⟨outbox, s', .running tally (.committing session (sampleEvent seq name kept))⟩ ∧
      Process.Live r ⟨outbox, s', .running tally (.committing session (sampleEvent seq name kept))⟩
        [.committed (sampleEvent seq name kept) disposition]
        (reading (tally.count disposition) session outbox' s') := by
  refine ⟨⟨_, next_sampleFrame hsource hpayload hname rfl hboot, ?_, ?_⟩,
    ⟨.proceed true, ?_, ?_, ?_⟩, ⟨.proceed true, ?_, ?_, ?_⟩⟩
  · nofun
  · nofun
  · simp only [Process.next, Process.observe, hobserve]
  · nofun
  · nofun
  · simp only [Process.next, Process.commit, hcommit, Process.account, hreplay, Nat.lt_irrefl,
      gt_iff_lt, if_false]
    rfl
  · nofun
  · nofun

/-- A resident with the sample producer. -/
def sampleResident : Resident := ⟨"cmux-1", some sampleConfig, sampleSource_named⟩

def streamSession : Session where
  durableBefore := none
  ack := ⟨"boot-1", 0, ⟨none, 0, 0, 1, false⟩⟩
  gap := false
  remainingReplay := 0
  insertedBefore := 0
  duplicatesBefore := 0

def streamTally : Tally := { maxConnections := 1, left := 1, reconnectAfter := [none] }

theorem harmless_of_live {p p' : Process} {os : List Occurrence} (h : p.Live r os p')
    (hphase : ∀ tally session event, p.phase ≠ .running tally (.observing session event)) :
    p.Harmless r os p' :=
  ⟨h, fun tally session event heq => absurd heq (hphase tally session event)⟩

/-- A run of an empty outbox up to the first read. -/
theorem stream_opened : Runs (Process.Harmless sampleResident)
    (({} : Process).start sampleResident 1) [.requested none, .acknowledged "boot-1" false]
    (reading streamTally streamSession {} {}) := by
  let started : Process := ⟨{}, {}, .running { maxConnections := 1, left := 1 } (.recovering [])⟩
  let connecting : Process := ⟨{}, {}, .running { maxConnections := 1, left := 1 } .connecting⟩
  let greeting : Process := ⟨{}, {}, .running streamTally (.handshake none)⟩
  have hgreeted : greeting.next sampleResident (.frame (.ok (some (sampleAckFrame 0 0 false)))) =
      some (reading streamTally streamSession {} {}, [.acknowledged "boot-1" false]) := by
    simp only [greeting, Process.next, Process.acknowledge, parse_sampleAckFrame 0 0 false]
    rfl
  have step₁ : started.Harmless sampleResident [] connecting :=
    harmless_of_live ⟨.proceed true, rfl, nofun, nofun⟩
      fun _ _ _ h => by cases h
  have step₂ : connecting.Harmless sampleResident [.requested none] greeting :=
    harmless_of_live ⟨.opened (.ok ()), rfl, nofun, nofun⟩
      fun _ _ _ h => by cases h
  have step₃ : greeting.Harmless sampleResident [.acknowledged "boot-1" false]
      (reading streamTally streamSession {} {}) :=
    harmless_of_live ⟨_, hgreeted, nofun, nofun⟩
      fun _ _ _ h => by cases h
  exact ((Runs.single step₁).tail step₂).tail step₃

/-- What the stream does on one arrival, from a production's state. -/
theorem live_arrival (a : Arrival) (p : Production) (tally : Tally)
    (hreturns : (p.state.feed sampleConfig a.observation).error = none)
    (hcommit : outbox.commitEvent a.event streamSession.gap = .ok (disposition, outbox')) :
    Runs (Process.Live sampleResident) (reading tally streamSession outbox p.state)
      (((p.state.feed sampleConfig a.observation).receipt.toList.map (.submitted · true)) ++
        [.committed a.event disposition])
      (reading (tally.count disposition) streamSession outbox'
        (p.feed sampleConfig returning a.observation).state) := by
  have hobserve := @observe_feed _ sampleResident _ _ rfl _ _ a.translate hreturns
  obtain ⟨hreceived, hobserved, hcommitted⟩ := live_event tally a.seq rfl a.kept a.named rfl rfl
    hobserve hcommit
  exact ((Runs.single hreceived).tail hobserved).tail hcommitted

theorem harmless_arrival (a : Arrival) (p : Production) (tally : Tally)
    (hreturns : (p.state.feed sampleConfig a.observation).error = none)
    (hcommit : outbox.commitEvent a.event streamSession.gap = .ok (disposition, outbox'))
    (hinert : a.event ∈ outbox.rows → Inert p.state a.observation) :
    Runs (Process.Harmless sampleResident) (reading tally streamSession outbox p.state)
      (((p.state.feed sampleConfig a.observation).receipt.toList.map (.submitted · true)) ++
        [.committed a.event disposition])
      (reading (tally.count disposition) streamSession outbox'
        (p.feed sampleConfig returning a.observation).state) := by
  have hobserve := @observe_feed _ sampleResident _ _ rfl _ _ a.translate hreturns
  obtain ⟨hreceived, hobserved, hcommitted⟩ := live_event tally a.seq rfl a.kept a.named rfl rfl
    hobserve hcommit
  have hquiet : Process.Harmless sampleResident
      ⟨outbox, p.state, .running tally (.observing streamSession a.event)⟩
      ((p.state.feed sampleConfig a.observation).receipt.toList.map (.submitted · true))
      ⟨outbox, (p.feed sampleConfig returning a.observation).state,
        .running tally (.committing streamSession a.event)⟩ := by
    refine ⟨hobserved, fun _ _ event hphase hrow obs hobs => ?_⟩
    cases hphase
    cases a.translate.symm.trans hobs
    exact hinert hrow
  exact ((Runs.single (harmless_of_live hreceived fun _ _ _ h => by cases h)).tail hquiet).tail
    (harmless_of_live hcommitted fun _ _ _ h => by cases h)

end SampleRun

section SampleOutbox

def inputOutbox : Outbox := Outbox.insertEvent {} arrivingInput.event

def promptOutbox : Outbox := inputOutbox.insertEvent arrivingPrompt.event

def hookOutbox : Outbox := promptOutbox.insertEvent arrivingHook.event

theorem commit_input : Outbox.commitEvent {} arrivingInput.event false =
    .ok (.inserted, inputOutbox) := by
  refine commitEvent_sampleEvent 1 inputSent samplePayload_empty (by decide) (by decide) ?_ rfl
  intro row hrow
  cases hrow

theorem commit_prompt : inputOutbox.commitEvent arrivingPrompt.event false =
    .ok (.inserted, promptOutbox) := by
  refine commitEvent_sampleEvent 2 promptSubmitted samplePayload_token (by decide) (by decide) ?_ rfl
  intro row hrow
  cases List.mem_singleton.mp hrow
  exact ⟨by decide, by decide⟩

theorem commit_hook : promptOutbox.commitEvent arrivingHook.event false =
    .ok (.inserted, hookOutbox) := by
  refine commitEvent_sampleEvent 3 userPromptSubmit samplePayload_session (by decide) (by decide)
    ?_ rfl
  intro row hrow
  rcases List.mem_cons.mp hrow with rfl | hrow
  · exact ⟨by decide, by decide⟩
  · cases List.mem_singleton.mp hrow
    exact ⟨by decide, by decide⟩

end SampleOutbox

/-- The input is re-sent between the prompt and its hook: the turn's receipt is never emitted, while
a fresh producer makes it of the same rows. -/
theorem resent_input_suppresses :
    ¬ ∀ (r : Resident) (config : EmitterConfig) (start p : Process) (maxConnections : Int)
        (os : List Occurrence), r.receiptProducer = some config →
      Runs (@Process.Live sampleHost r) (start.start r maxConnections) os p → p.phase.Settled →
      ∀ receipt, receipt ∈ submissions os ↔
        receipt ∈ (@recovered sampleHost config (p.rows r)).emitted := by
  intro hclaim
  let feed := @Production.feed sampleHost sampleConfig returning
  let first := feed {} arrivingInput.observation
  let second := feed first arrivingPrompt.observation
  let third := feed second arrivingInput.observation
  have hopened : Runs (@Process.Live sampleHost sampleResident) _ _ _ :=
    (@stream_opened sampleHost).mono fun _ _ _ h => h.1
  have hinput := @live_arrival sampleHost _ _ _ arrivingInput {} streamTally (by decide +kernel)
    commit_input
  have hprompt := @live_arrival sampleHost _ _ _ arrivingPrompt first (streamTally.count .inserted)
    (by decide +kernel) commit_prompt
  have hknown : promptOutbox.commitEvent arrivingInput.event false = .ok (.duplicate, promptOutbox) :=
    commitEvent_known 1 inputSent samplePayload_empty (by decide) (by decide) rfl
  have hresent := @live_arrival sampleHost _ _ _ arrivingInput second
    ((streamTally.count .inserted).count .inserted) (by decide +kernel) hknown
  have hhook := @live_arrival sampleHost _ _ _ arrivingHook third
    (((streamTally.count .inserted).count .inserted).count .duplicate) (by decide +kernel)
    commit_hook
  have hruns := (((hopened.trans hinput).trans hprompt).trans hresent).trans hhook
  have hiff := hclaim sampleResident sampleConfig {} _ 1 _ rfl hruns trivial
  have hfresh : (@recovered sampleHost sampleConfig sampleTurn).emitted ≠ [] := by
    unfold recovered
    rw [@Production.run_eq_feedAll sampleHost, @observations_sampleTurn sampleHost]
    decide +kernel
  obtain ⟨receipt, hreceipt⟩ := List.exists_mem_of_ne_nil _ hfresh
  have hlive := (hiff receipt).mpr hreceipt
  have hsilent₁ : (@ProducerState.feed sampleHost sampleConfig {}
      arrivingInput.observation).receipt = none := by decide +kernel
  have hsilent₂ : (@ProducerState.feed sampleHost sampleConfig first.state
      arrivingPrompt.observation).receipt = none := by decide +kernel
  have hsilent₃ : (@ProducerState.feed sampleHost sampleConfig second.state
      arrivingInput.observation).receipt = none := by decide +kernel
  have hsilent₄ : (@ProducerState.feed sampleHost sampleConfig third.state
      arrivingHook.observation).receipt = none := by decide +kernel
  simp only [submissions_append, hsilent₁, hsilent₂, hsilent₃, hsilent₄, Option.toList_none] at hlive
  cases hlive

/-- The prompt is re-sent before its hook: its slot is taken, and the turn's receipt is out. -/
theorem duplicates_harmless_sample : ∃ (os : List Occurrence) (p : Process),
    Runs (@Process.Harmless sampleHost sampleResident) (({} : Process).start sampleResident 1) os p ∧
      .committed arrivingPrompt.event .duplicate ∈ os ∧ p.phase.Settled ∧
      ∀ receipt, receipt ∈ submissions os ↔
        receipt ∈ (@recovered sampleHost sampleConfig (p.rows sampleResident)).emitted := by
  let feed := @Production.feed sampleHost sampleConfig returning
  let first := feed {} arrivingInput.observation
  let second := feed first arrivingPrompt.observation
  let third := feed second arrivingPrompt.observation
  have hopened := @stream_opened sampleHost
  have hinput := @harmless_arrival sampleHost _ _ _ arrivingInput {} streamTally (by decide +kernel)
    commit_input nofun
  have hprompt := @harmless_arrival sampleHost _ _ _ arrivingPrompt first
    (streamTally.count .inserted) (by decide +kernel) commit_prompt
    fun hrow => by cases List.mem_singleton.mp hrow
  have hknown : promptOutbox.commitEvent arrivingPrompt.event false =
      .ok (.duplicate, promptOutbox) :=
    commitEvent_known 2 promptSubmitted samplePayload_token (by decide) (by decide) rfl
  have hresent := @harmless_arrival sampleHost _ _ _ arrivingPrompt second
    ((streamTally.count .inserted).count .inserted) (by decide +kernel) hknown
    fun _ => .taken (by decide) (by decide +kernel) (by decide +kernel)
  have hhook := @harmless_arrival sampleHost _ _ _ arrivingHook third
    (((streamTally.count .inserted).count .inserted).count .duplicate) (by decide +kernel)
    commit_hook fun hrow => by
      rcases List.mem_cons.mp hrow with heq | hrow
      · cases heq
      · cases List.mem_singleton.mp hrow
  have hruns := (((hopened.trans hinput).trans hprompt).trans hresent).trans hhook
  refine ⟨_, _, hruns, by simp, trivial, fun receipt => ?_⟩
  exact @duplicates_harmless sampleHost sampleResident _ rfl {} _ 1 _ hruns trivial receipt

end Yatagarasu.Cmux
