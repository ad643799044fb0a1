import Yatagarasu.Cmux.ReceiptEmitter

/-! The producer translates a projected event, collapses repeated callbacks of one workspace turn,
and feeds the emitter. -/

namespace Yatagarasu.Cmux

open PyJson ReceiptReducer

structure TranslatedObservation where
  sourceEvent : SourceEventRef
  payload : Dict
  observedAt : String
  workspaceId : Option String

def strValue : Option Json → Option String
  | some (.str s) => some s
  | _ => none

def projectedPayload (projected : Dict) : Dict :=
  match projected.lookup "payload" with
  | some (.obj payload) => payload
  | _ => []

/-- The wire marker of a prompt. -/
def observedMarker (eventName : String) (payload : Dict) : Option WireMarker :=
  if eventName = promptSubmitted then (strValue (payload.lookup "message_preview")).bind extract
  else none

/-- Core evidence using only values present in the event. -/
def translateDerivedEvent [Host] (event : DerivedEvent) :
    Except CmuxError TranslatedObservation :=
  match PyJson.loads event.eventJson with
  | none => .error (.receiptProducer "derived event JSON is malformed")
  | some (.obj projected) =>
    if ¬ (eqStr (projected.lookup "boot_id") event.bootId ∧
        eqStr (projected.lookup "event_id") event.sourceEventId ∧
        eqStr (projected.lookup "name") event.eventName ∧
        eqInt (projected.lookup "seq") event.seq) then
      .error (.receiptProducer "derived event identity contradicts its row")
    else match present (strValue (projected.lookup "occurred_at")) with
      | none => .error (.receiptProducer "derived event has no observation timestamp")
      | some observedAt =>
        let payload := projectedPayload projected
        let marker := observedMarker event.eventName payload
        .ok {
          sourceEvent := {
            sourceInstanceId := event.sourceInstanceId, bootId := event.bootId, seq := event.seq
            sourceEventId := event.sourceEventId, eventName := event.eventName
            sessionId := strValue (payload.lookup "session_id")
            bindingId := marker.map (·.bindingId)
            markerSignature := marker.map (·.signature) }
          payload, observedAt
          workspaceId := present (strValue (projected.lookup "workspace_id")) }
  | some _ => .error (.receiptProducer "derived event JSON is not an object")

/-- Names already accepted for one marker-bearing workspace turn. -/
structure WorkspaceChain where
  markerSignature : Option String := none
  accepted : List (String × Option String) := []

structure ProducerState where
  emitter : EmitterState := {}
  workspaceChains : String → Option WorkspaceChain := fun _ => none

def TranslatedObservation.name (obs : TranslatedObservation) : String := obs.sourceEvent.eventName

def TranslatedObservation.key (obs : TranslatedObservation) : String := workspaceKey obs.workspaceId

/-- A hook phase other than `completed`. Older providers omit the phase. -/
def TranslatedObservation.premature (obs : TranslatedObservation) : Bool :=
  "agent.hook.".toList.isPrefixOf obs.sourceEvent.eventName.toList &&
    match strValue (obs.payload.lookup "phase") with
    | some phase => phase ≠ "completed"
    | none => false

/-- The chain as the observation finds it: a prompt sets the marker, and a different marker starts
over. -/
def WorkspaceChain.entered (chain : WorkspaceChain) (event : SourceEventRef) : WorkspaceChain :=
  if event.eventName = promptSubmitted then
    { markerSignature := event.markerSignature
      accepted := if chain.markerSignature = none ∨ chain.markerSignature = event.markerSignature
        then chain.accepted else [] }
  else chain

def slotNames : List String := [promptSubmitted, userPromptSubmit, stop]

/-- Collapse duplicate callback pairs inside one workspace chain. -/
def acceptForEmission (chains : String → Option WorkspaceChain) (obs : TranslatedObservation) :
    Bool × (String → Option WorkspaceChain) :=
  if obs.premature then (false, chains)
  else if obs.sourceEvent.eventName = inputSent then
    (true, Function.update chains obs.key (some {}))
  else
    let chain := ((chains obs.key).getD {}).entered obs.sourceEvent
    let slot := (obs.sourceEvent.eventName, chain.markerSignature)
    if obs.sourceEvent.eventName ∈ slotNames then
      if slot ∈ chain.accepted then (false, Function.update chains obs.key (some chain))
      else (true, Function.update chains obs.key
        (some { chain with accepted := slot :: chain.accepted }))
    else (true, Function.update chains obs.key (some chain))

/-- The filter on the chain of the observation's own workspace. -/
def WorkspaceChain.admits (chain : WorkspaceChain) (obs : TranslatedObservation) :
    Bool × WorkspaceChain :=
  if obs.premature then (false, chain)
  else if obs.name = inputSent then (true, {})
  else if obs.name ∈ slotNames then
    if (obs.name, (chain.entered obs.sourceEvent).markerSignature) ∈
        (chain.entered obs.sourceEvent).accepted then (false, chain.entered obs.sourceEvent)
    else (true, { chain.entered obs.sourceEvent with
      accepted := (obs.name, (chain.entered obs.sourceEvent).markerSignature) ::
        (chain.entered obs.sourceEvent).accepted })
  else (true, chain.entered obs.sourceEvent)

namespace ProducerState

/-- The producer on a translated observation. -/
def feed [Host] (config : EmitterConfig) (s : ProducerState) (obs : TranslatedObservation) :
    Reaction ProducerState :=
  let (accepted, chains) := acceptForEmission s.workspaceChains obs
  if accepted then
    (s.emitter.observe config obs.sourceEvent obs.payload obs.observedAt obs.workspaceId).map
      fun emitter => { emitter, workspaceChains := chains }
  else .silent { s with workspaceChains := chains }

/-- Translate one projected event and feed the receipt state machine. -/
def observe [Host] (config : EmitterConfig) (s : ProducerState) (event : DerivedEvent) :
    Reaction ProducerState :=
  match translateDerivedEvent event with
  | .error e => .raises e s
  | .ok obs => s.feed config obs

end ProducerState

/-- Whether the core client returns on a receipt, after the receipts it was given before. -/
abbrev CoreClient := List Receipt → Receipt → Bool

/-- A producer and the receipts that it has emitted. -/
structure Production where
  state : ProducerState := {}
  emitted : List Receipt := []

namespace Production

variable [Host] (config : EmitterConfig) (client : CoreClient)

/-- A reaction, carried out. -/
def after (p : Production) (reaction : Reaction ProducerState) : Production :=
  { state := reaction.next (client p.emitted)
    emitted := p.emitted ++ reaction.receipt.toList }

def observe (p : Production) (event : DerivedEvent) : Production :=
  p.after client (p.state.observe config event)

/-- Every event observed in turn; an event that raises is passed over. -/
def run (events : List DerivedEvent) (p : Production) : Production :=
  events.foldl (observe config client) p

@[simp] theorem run_nil (p : Production) : run config client [] p = p := rfl

@[simp] theorem run_cons (event : DerivedEvent) (events : List DerivedEvent) (p : Production) :
    run config client (event :: events) p = run config client events (p.observe config client event) :=
  rfl

@[simp] theorem run_append (events later : List DerivedEvent) (p : Production) :
    run config client (events ++ later) p =
      run config client later (run config client events p) := List.foldl_append ..

end Production

end Yatagarasu.Cmux
