import Yatagarasu.Cmux.Observations

/-! An open chain is replaced only when a later hook of its session opens a chain. A hook that opens
none leaves the old chain to the next stop. -/

namespace Yatagarasu.Cmux

open PyJson ReceiptReducer

/-- A fact about every event of a sequence and the events before it. -/
def EveryStep (P : List DerivedEvent → DerivedEvent → Prop) (events : List DerivedEvent) : Prop :=
  ∀ before event after, events = before ++ event :: after → P before event

/-- A prompt of the workspace that carries another marker, or none. -/
def TranslatedObservation.Foreign (obs : TranslatedObservation) (key : String)
    (marker : Option WireMarker) : Prop :=
  obs.Is promptSubmitted key ∧ obs.marker ≠ marker

/-- A completed hook of the workspace and session. -/
def TranslatedObservation.Begins (obs : TranslatedObservation) (key session : String) : Prop :=
  obs.Is userPromptSubmit key ∧ obs.premature = false ∧ obs.session = some session

/-- Another turn of the workspace and session began. -/
def OtherTurn (key session : String) (marker : Option WireMarker)
    (since : List TranslatedObservation) : Prop :=
  ∃ prompt hook, [prompt, hook].Sublist since ∧ prompt.Foreign key marker ∧
    hook.Begins key session

section

variable [Host] (config : EmitterConfig) (client : CoreClient)

/-- A completed turn is emitted for a chain whose own hook is the last turn of the session. -/
def ClosesOwnTurn (before : List DerivedEvent) (event : DerivedEvent) : Prop :=
  ∀ r, (Production.run config client (before ++ [event]) {}).emitted =
      (Production.run config client before {}).emitted ++ [r] →
    r.evidenceClass = .harnessTurnCompleted →
    ∃ obs session chain prompt hook since, translateDerivedEvent event = .ok obs ∧
      obs.Is stop obs.key ∧ obs.session = some session ∧
      r = completedReceipt config chain session obs.observedAt obs.sourceEvent ∧
      ChainFrom config (observations before) obs.key session chain prompt hook since ∧
      ¬ OtherTurn obs.key session prompt.marker since

/-- A completed hook that follows a foreign prompt opens a chain in place of the open one. -/
def Supersedes (before : List TranslatedObservation) (p : Production)
    (obs : TranslatedObservation) : Prop :=
  ∀ session chain prompt hook since, obs.Begins obs.key session →
    p.active (obs.key, session) = some chain →
    ChainFrom config before obs.key session chain prompt hook since →
    (∃ other ∈ since, other.Foreign obs.key prompt.marker) →
    ∃ chain', Opens config client p obs session chain'

/-- The same of an event that has a translation. -/
def SupersedesOnHook (before : List DerivedEvent) (event : DerivedEvent) : Prop :=
  ∀ obs, translateDerivedEvent event = .ok obs →
    Supersedes config client (observations before) (Production.run config client before {}) obs

end

section Run

variable [Host] {config : EmitterConfig} {client : CoreClient} {p : Production}
  {obs : TranslatedObservation} {before : List TranslatedObservation} {key session : String}

omit [Host] in
theorem otherTurn_append {marker : Option WireMarker} {since : List TranslatedObservation}
    (h : OtherTurn key session marker (since ++ [obs])) : OtherTurn key session marker since ∨
      (obs.Begins key session ∧ ∃ other ∈ since, other.Foreign key marker) := by
  obtain ⟨prompt, hook, hsub, hprompt, hhook⟩ := h
  obtain ⟨first, second, heq, hfirst, hsecond⟩ := List.sublist_append_iff.mp hsub
  rcases List.sublist_singleton.mp hsecond with rfl | rfl
  · rw [List.append_nil] at heq
    exact Or.inl ⟨prompt, hook, heq ▸ hfirst, hprompt, hhook⟩
  · have hpair : [prompt] ++ [hook] = first ++ [obs] := heq
    obtain ⟨rfl, hobs⟩ := List.append_inj' hpair rfl
    cases hobs
    exact Or.inr ⟨hhook, prompt, List.singleton_sublist.mp hfirst, hprompt⟩

/-- No open chain was overtaken by another turn of its session. -/
def Unovertaken (key session : String) (prompt : TranslatedObservation)
    (since : List TranslatedObservation) : Prop :=
  ¬ OtherTurn key session prompt.marker since

theorem unovertaken_feed (h : Traced config Unovertaken before p)
    (hsupersedes : Supersedes config client before p obs) :
    Traced config Unovertaken (before ++ [obs]) (p.feed config client obs) := by
  refine traced_feed h ?_ ?_
  · rintro key session prompt ⟨_, _, hsub, -⟩
    simpa using hsub.length_le
  · intro session chain prompt hook since key hactive hfrom hother hown hturn
    rcases otherTurn_append hturn with hbefore | ⟨hbegins, hforeign⟩
    · exact hown hbefore
    · -- the hook would have replaced the chain
      obtain rfl : obs.key = key := hbegins.1.2
      obtain ⟨chain', hopens⟩ := hsupersedes session chain prompt hook since hbegins hactive hfrom
        hforeign
      exact hother chain' hopens rfl

/-- A completed turn comes from a stop whose session has an open chain. -/
theorem feed_completed {r : Receipt}
    (h : (p.feed config client obs).emitted = p.emitted ++ [r])
    (hclass : r.evidenceClass = .harnessTurnCompleted) :
    ∃ session chain, obs.name = stop ∧ obs.session = some session ∧
      p.active (obs.key, session) = some chain ∧
      r = completedReceipt config chain session obs.observedAt obs.sourceEvent := by
  have hfed := feed_fed config client p obs
  generalize (p.feed config client obs).state.emitter = emitter at hfed
  rw [h] at hfed
  generalize hemitted : p.emitted ++ [r] = emitted at hfed
  have hgrows : emitted ≠ p.emitted := by
    rw [← hemitted]
    simp
  cases hfed with
  | ignored => exact absurd rfl hgrows
  | input => exact absurd rfl hgrows
  | prompt => exact absurd rfl hgrows
  | popped => exact absurd rfl hgrows
  | opened =>
    obtain rfl := List.singleton_inj.mp (List.append_cancel_left hemitted)
    cases hclass
  | @closed session chain _ hname haccept hsession hactive heq =>
    rw [heq] at hemitted
    have hr := List.append_cancel_left hemitted
    split at hr
    · cases hr
    · obtain rfl := List.singleton_inj.mp hr
      exact ⟨session, chain, hname, hsession, hactive, rfl⟩

omit [Host] in
theorem everyStep_before {P : List DerivedEvent → DerivedEvent → Prop} {events : List DerivedEvent}
    {event : DerivedEvent} (h : EveryStep P (events ++ [event])) : EveryStep P events :=
  fun before e after heq => h before e (after ++ [event]) (by simp [heq])

theorem unovertaken_run (events : List DerivedEvent)
    (h : EveryStep (SupersedesOnHook config client) events) :
    Traced config Unovertaken (observations events) (Production.run config client events {}) := by
  induction events using List.reverseRecOn with
  | nil => exact traced_initial
  | append_singleton events event ih =>
    have hbefore := ih (everyStep_before h)
    have hevent := h events event [] rfl
    cases htranslate : translateDerivedEvent event with
    | error e =>
      rw [Production.run_error config client htranslate, observations_append,
        observations_error htranslate, List.append_nil]
      exact hbefore
    | ok obs =>
      rw [Production.run_ok config client htranslate, observations_append,
        observations_ok htranslate]
      exact unovertaken_feed hbefore (hevent obs htranslate)

/-- In every run whose hooks supersede, a stop completes only the turn that it ends. -/
theorem stop_closes_own_turn (config : EmitterConfig) (client : CoreClient)
    (events : List DerivedEvent) (h : EveryStep (SupersedesOnHook config client) events) :
    EveryStep (ClosesOwnTurn config client) events := by
  rintro before event after rfl r hemitted hclass
  have hbefores : EveryStep (SupersedesOnHook config client) before := fun first e rest heq =>
    h first e (rest ++ event :: after) (by simp [heq])
  have hown := unovertaken_run before hbefores
  cases htranslate : translateDerivedEvent event with
  | error e =>
    rw [Production.run_error config client htranslate] at hemitted
    simp at hemitted
  | ok obs =>
    rw [Production.run_ok config client htranslate] at hemitted
    obtain ⟨session, chain, hname, hsession, hactive, hr⟩ := feed_completed hemitted hclass
    obtain ⟨prompt, hook, since, hfrom, hturn⟩ := hown.active obs.key session chain hactive
    exact ⟨obs, session, chain, prompt, hook, since, rfl, ⟨hname, rfl⟩, hsession, hr, hfrom, hturn⟩

end Run

/-- The turn of a delivery: its input, its prompt with the marker, its hook. -/
def sampleTurn : List DerivedEvent :=
  [sampleEvent 1 inputSent [],
    sampleEvent 2 promptSubmitted [("message_preview", .str sampleToken)],
    sampleEvent 3 userPromptSubmit [("session_id", .str "session-1")]]

/-- A prompt typed by hand carries no marker. -/
def sampleHumanTurn : List DerivedEvent :=
  [sampleEvent 4 promptSubmitted [], sampleEvent 5 userPromptSubmit [("session_id", .str "session-1")]]

def sampleStop (seq : Nat) : DerivedEvent :=
  sampleEvent seq stop [("session_id", .str "session-1")]

/-- A core client that always returns. -/
def returning : CoreClient := fun _ _ => true

theorem readable_empty : Readable (.obj []) := by simp [Readable, ReadableFields]

theorem readable_single (key text : String) : Readable (.obj [(key, .str text)]) := by
  simp [Readable, ReadableFields]

section Sample

variable [Host]

theorem observations_sampleTurn : observations sampleTurn =
    [sampleObservation 1 inputSent [],
      sampleObservation 2 promptSubmitted [("message_preview", .str sampleToken)],
      sampleObservation 3 userPromptSubmit [("session_id", .str "session-1")]] := by
  simp [observations, sampleTurn, translate_sampleEvent readable_empty,
    translate_sampleEvent (readable_single _ _), Except.toOption]

theorem observations_sampleHumanTurn : observations sampleHumanTurn =
    [sampleObservation 4 promptSubmitted [],
      sampleObservation 5 userPromptSubmit [("session_id", .str "session-1")]] := by
  simp [observations, sampleHumanTurn, translate_sampleEvent readable_empty,
    translate_sampleEvent (readable_single _ _), Except.toOption]

theorem translate_sampleStop (seq : Nat) : translateDerivedEvent (sampleStop seq) =
    .ok (sampleObservation seq stop [("session_id", .str "session-1")]) :=
  translate_sampleEvent (readable_single _ _)

end Sample

theorem completedReceipt_events {config : EmitterConfig} {chain chain' : ActiveChain}
    {session session' observedAt observedAt' : String} {event event' : SourceEventRef}
    (h : completedReceipt config chain session observedAt event =
      completedReceipt config chain' session' observedAt' event') :
    chain.events = chain'.events := by
  have hproof := congrArg Receipt.proof h
  simp only [completedReceipt, harnessReceipt, Option.some.injEq, Untyped.typed.injEq,
    SessionProof.mk.injEq, SourceEvents.tuple.injEq, and_true] at hproof
  have hmap := List.map_injective_iff.mpr (fun _ _ => Untyped.typed.inj) hproof.2.2
  exact (List.append_inj' hmap rfl).1

def sampleChain : ActiveChain := ⟨sampleDelivery, sampleMarker, sampleEvents⟩

/-- The human turn lies between the hook of the sample chain and whatever follows. -/
theorem otherTurn_sample {chain : ActiveChain} {prompt hook : TranslatedObservation}
    {since : List TranslatedObservation} (hchain : chain.events = sampleEvents)
    (h : ChainFrom sampleConfig (@observations sampleHost (sampleTurn ++ sampleHumanTurn))
      "workspace-1" "session-1" chain prompt hook since) :
    OtherTurn "workspace-1" "session-1" prompt.marker since := by
  obtain ⟨input, earlier, hbefore, hsub, -, hevents⟩ := h.parts
  rw [hchain] at hevents
  rw [@observations_append sampleHost, @observations_sampleTurn sampleHost,
    @observations_sampleHumanTurn sampleHost] at hbefore
  simp only [sampleEvents, List.cons.injEq, and_true] at hevents
  obtain ⟨-, hprompt, hhook⟩ := hevents
  have hid : hook.sourceEvent.sourceEventId = "e-3" := by rw [← hhook]
  have hprompt' : prompt.sourceEvent.sourceEventId = "e-2" := by rw [← hprompt]
  obtain ⟨rfl, rfl, rfl⟩ : earlier = [sampleObservation 1 inputSent [],
      sampleObservation 2 promptSubmitted [("message_preview", .str sampleToken)]] ∧
      hook = sampleObservation 3 userPromptSubmit [("session_id", .str "session-1")] ∧
      since = [sampleObservation 4 promptSubmitted [],
      sampleObservation 5 userPromptSubmit [("session_id", .str "session-1")]] := by
    rcases earlier with _ | ⟨_, _ | ⟨_, _ | ⟨_, _ | ⟨_, _ | ⟨_, rest⟩⟩⟩⟩⟩
    · cases hbefore
      exact absurd hid (by decide)
    · cases hbefore
      exact absurd hid (by decide)
    · cases hbefore
      exact ⟨rfl, rfl, rfl⟩
    · cases hbefore
      exact absurd hid (by decide)
    · cases hbefore
      exact absurd hid (by decide)
    · simp at hbefore
  obtain rfl : prompt =
      sampleObservation 2 promptSubmitted [("message_preview", .str sampleToken)] := by
    have hmem := hsub.subset (List.mem_cons_of_mem _ (List.mem_singleton_self prompt))
    simp only [List.mem_cons, List.not_mem_nil, or_false] at hmem
    rcases hmem with rfl | rfl
    · exact absurd hprompt' (by decide)
    · rfl
  refine ⟨_, _, List.Sublist.refl _, ⟨⟨rfl, by decide⟩, ?_⟩, ⟨rfl, by decide⟩, by decide, by decide⟩
  have hmarker : (sampleObservation 2 promptSubmitted
      [("message_preview", .str sampleToken)]).marker = extract sampleToken := rfl
  rw [hmarker, extract_sampleToken]
  intro hnone
  cases hnone

theorem stop_closes_another_turn : ¬ EveryStep (@ClosesOwnTurn sampleHost sampleConfig returning)
    (sampleTurn ++ sampleHumanTurn ++ [sampleStop 6]) := by
  intro h
  obtain ⟨obs, session, chain, prompt, hook, since, htranslate, -, hsession, hr, hfrom, hturn⟩ :=
    h (sampleTurn ++ sampleHumanTurn) (sampleStop 6) [] rfl
      (completedReceipt sampleConfig sampleChain "session-1" "2026-01-01T00:30:00Z"
        (sampleObservation 6 stop [("session_id", .str "session-1")]).sourceEvent)
      (by
        rw [@Production.run_ok sampleHost _ _ _ _ _ (@translate_sampleStop sampleHost 6),
          @Production.run_eq_feedAll sampleHost, @observations_append sampleHost,
          @observations_sampleTurn sampleHost, @observations_sampleHumanTurn sampleHost]
        decide +kernel) rfl
  rw [@translate_sampleStop sampleHost] at htranslate
  cases htranslate
  cases hsession
  have hevents : chain.events = sampleEvents := (completedReceipt_events hr).symm
  exact hturn (otherTurn_sample hevents hfrom)

def secondDelivery : Delivery :=
  { sampleDelivery with deliveryId := "delivery-2", attemptId := "attempt-2" }

def secondMarker : DeliveryMarker :=
  { sampleMarker with
    deliveryId := "delivery-2", attemptId := "attempt-2"
    signature := "9a7e3c00a4ac56b6b580dec14150b0ad41880efc0686cf0e382b45f56f148216" }

/-- The short form of the second marker. -/
def secondToken : String :=
  "ygr1s.delivery-2.binding-1.mn48AKSsVra1gN7BQVCwrUGIDvwGhs8OOCtF9W8UghY"

theorem extract_secondToken : extract secondToken =
    some (.short ⟨"delivery-2", "binding-1", secondMarker.signature⟩) := by
  decide +kernel

def queueConfig : EmitterConfig where
  providerId := "cmux"
  deliveryLookup id :=
    if id = "delivery-1" then some (sampleDelivery, sampleMarker)
    else if id = "delivery-2" then some (secondDelivery, secondMarker) else none

def supersedingTurn : List DerivedEvent :=
  [sampleEvent 4 inputSent [], sampleEvent 5 promptSubmitted [("message_preview", .str secondToken)],
    sampleEvent 6 userPromptSubmit [("session_id", .str "session-1")]]

theorem observations_supersedingTurn [Host] : observations supersedingTurn =
    [sampleObservation 4 inputSent [],
      sampleObservation 5 promptSubmitted [("message_preview", .str secondToken)],
      sampleObservation 6 userPromptSubmit [("session_id", .str "session-1")]] := by
  simp [observations, supersedingTurn, translate_sampleEvent readable_empty,
    translate_sampleEvent (readable_single _ _), Except.toOption]

theorem opens_supersedingTurn : ∃ chain, Opens queueConfig returning
    (@Production.run sampleHost queueConfig returning (sampleTurn ++ supersedingTurn.take 2) {})
    (sampleObservation 6 userPromptSubmit [("session_id", .str "session-1")]) "session-1" chain := by
  have hprompted : @observations sampleHost (supersedingTurn.take 2) =
      [sampleObservation 4 inputSent [],
        sampleObservation 5 promptSubmitted [("message_preview", .str secondToken)]] := by
    simp [observations, supersedingTurn, @translate_sampleEvent sampleHost _ _ _ readable_empty,
      @translate_sampleEvent sampleHost _ _ _ (readable_single _ _), Except.toOption]
  rw [@Production.run_eq_feedAll sampleHost, @observations_append sampleHost,
    @observations_sampleTurn sampleHost, hprompted]
  exact ⟨_, rfl, by decide +kernel, by decide, rfl, rfl⟩

/-- Only the second hook comes after another one. -/
theorem second_hook {before after : List DerivedEvent} {event first : DerivedEvent} {seq : Nat}
    (heq : sampleTurn ++ supersedingTurn ++ [sampleStop seq] = before ++ event :: after)
    (hfirst : first ∈ before) (hearlier : first.eventName = userPromptSubmit)
    (hname : event.eventName = userPromptSubmit) :
    before = sampleTurn ++ supersedingTurn.take 2 ∧
      event = sampleEvent 6 userPromptSubmit [("session_id", .str "session-1")] := by
  rcases before with _ | ⟨e₁, _ | ⟨e₂, _ | ⟨e₃, _ | ⟨e₄, _ | ⟨e₅, _ | ⟨e₆, _ | ⟨e₇, rest⟩⟩⟩⟩⟩⟩⟩
  · cases hfirst
  · cases heq
    exact absurd hname (by decide)
  · cases heq
    simp only [List.mem_cons, List.not_mem_nil, or_false] at hfirst
    rcases hfirst with rfl | rfl <;> exact absurd hearlier (by decide)
  · cases heq
    exact absurd hname (by decide)
  · cases heq
    exact absurd hname (by decide)
  · cases heq
    exact ⟨rfl, rfl⟩
  · cases heq
    exact absurd (show stop = userPromptSubmit from hname) (by decide)
  · simp [sampleTurn, supersedingTurn] at heq

/-- The second hook supersedes the first chain. -/
theorem supersedes_sample (seq : Nat) :
    EveryStep (@SupersedesOnHook sampleHost queueConfig returning)
      (sampleTurn ++ supersedingTurn ++ [sampleStop seq]) := by
  intro before event after heq obs htranslate session chain prompt hook since hbegins _ hfrom _
  have hname : event.eventName = userPromptSubmit :=
    ((@translate_eq_ok sampleHost _ _ htranslate).2.2.2.2.1).symm.trans hbegins.1.1
  obtain ⟨input, earlier, hbefore, -⟩ := hfrom.parts
  have hmem : hook ∈ @observations sampleHost before := by simp [hbefore]
  obtain ⟨first, hfirst, hhook⟩ := (@mem_observations sampleHost _ _).mp hmem
  have hearlier : first.eventName = userPromptSubmit :=
    ((@translate_eq_ok sampleHost _ _ hhook).2.2.2.2.1).symm.trans hfrom.hooked.1
  obtain ⟨rfl, rfl⟩ := second_hook heq hfirst hearlier hname
  rw [@translate_sampleEvent sampleHost _ _ _ (readable_single _ _)] at htranslate
  cases htranslate
  cases hbegins.2.2
  exact opens_supersedingTurn

theorem stop_closes_own_turn_sample :
    EveryStep (@SupersedesOnHook sampleHost queueConfig returning)
      (sampleTurn ++ supersedingTurn ++ [sampleStop 7]) ∧
    EveryStep (@ClosesOwnTurn sampleHost queueConfig returning)
      (sampleTurn ++ supersedingTurn ++ [sampleStop 7]) ∧
    (@Production.run sampleHost queueConfig returning
        (sampleTurn ++ supersedingTurn ++ [sampleStop 7]) {}).emitted.map
      (fun r => (r.evidenceClass, r.deliveryId)) =
      [(.harnessPromptAccepted, "delivery-1"), (.harnessPromptAccepted, "delivery-2"),
        (.harnessTurnCompleted, "delivery-2")] := by
  refine ⟨supersedes_sample 7,
    @stop_closes_own_turn sampleHost _ _ _ (supersedes_sample 7), ?_⟩
  rw [@Production.run_ok sampleHost _ _ _ _ _ (@translate_sampleStop sampleHost 7),
    @Production.run_eq_feedAll sampleHost, @observations_append sampleHost,
    @observations_sampleTurn sampleHost, @observations_supersedingTurn sampleHost]
  decide +kernel
end Yatagarasu.Cmux
