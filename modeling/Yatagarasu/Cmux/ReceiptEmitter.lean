import Mathlib.Logic.Function.Basic
import Yatagarasu.Cmux.StreamProtocol
import Yatagarasu.Core.Receipts

/-! The emitter keeps one pending chain per workspace and one open chain per workspace and session.
A receipt goes to the core in the middle of an observation, so each reaction says what the state is
when the core returns and when it raises. -/

namespace Yatagarasu.Cmux

open PyJson ReceiptReducer

def inputSent : String := "surface.input_sent"

def promptSubmitted : String := "workspace.prompt.submitted"

def userPromptSubmit : String := "agent.hook.UserPromptSubmit"

def stop : String := "agent.hook.Stop"

/-- What an observation does to a state `σ`. -/
inductive Reaction (σ : Type)
  | silent (next : σ)
  | raises (error : CmuxError) (next : σ)
  | submits (receipt : Receipt) (returned raised : σ)

namespace Reaction

variable {σ τ : Type}

def map (f : σ → τ) : Reaction σ → Reaction τ
  | silent next => silent (f next)
  | raises error next => raises error (f next)
  | submits receipt returned raised => submits receipt (f returned) (f raised)

def receipt : Reaction σ → Option Receipt
  | submits receipt _ _ => some receipt
  | _ => none

/-- The state afterwards; `returns` says whether the core returned. -/
def next (returns : Receipt → Bool) : Reaction σ → σ
  | silent next => next
  | raises _ next => next
  | submits receipt returned raised => if returns receipt then returned else raised

@[simp] theorem receipt_map (f : σ → τ) (r : Reaction σ) : (r.map f).receipt = r.receipt := by
  cases r <;> rfl

@[simp] theorem next_map (f : σ → τ) (r : Reaction σ) (returns : Receipt → Bool) :
    (r.map f).next returns = f (r.next returns) := by
  cases r with
  | silent next => rfl
  | raises error next => rfl
  | submits receipt returned raised =>
    simp only [map, next]
    split <;> rfl

end Reaction

/-- The same reaction up to the states that it ends in. -/
inductive Reaction.Alike {σ : Type} (R : σ → σ → Prop) : Reaction σ → Reaction σ → Prop
  | silent {a b : σ} : R a b → Alike R (.silent a) (.silent b)
  | raises {e : CmuxError} {a b : σ} : R a b → Alike R (.raises e a) (.raises e b)
  | submits {receipt : Receipt} {a b c d : σ} : R a b → R c d →
      Alike R (.submits receipt a c) (.submits receipt b d)

theorem alike_silent {σ : Type} {R : σ → σ → Prop} {reaction : Reaction σ} {b : σ}
    (h : reaction.Alike R (.silent b)) : ∃ a, reaction = .silent a ∧ R a b := by
  cases h with
  | silent hab => exact ⟨_, rfl, hab⟩

theorem alike_submits {σ : Type} {R : σ → σ → Prop} {reaction : Reaction σ} {receipt : Receipt}
    {b d : σ} (h : reaction.Alike R (.submits receipt b d)) :
    ∃ a c, reaction = .submits receipt a c ∧ R a b := by
  cases h with
  | submits hab hcd => exact ⟨_, _, rfl, hab⟩

structure PendingChain where
  inputEvent : Option SourceEventRef := none
  promptEvent : Option SourceEventRef := none
  decodedMarker : Option WireMarker := none

/-- A correlated proof chain that waits for its `Stop`. -/
structure ActiveChain where
  delivery : Delivery
  marker : DeliveryMarker
  events : List SourceEventRef

/-- The constructor arguments of an emitter, apart from the core client. -/
structure EmitterConfig where
  providerId : String
  deliveryLookup : String → Option (Delivery × DeliveryMarker)

structure EmitterState where
  activeChains : String × String → Option ActiveChain := fun _ => none
  pendingChains : String → Option PendingChain := fun _ => none

/-- `workspace_id or "<unscoped>"`. -/
def workspaceKey (workspaceId : Option String) : String := (present workspaceId).getD "<unscoped>"

/-- Python's truth value. -/
def truthy [Host] : Json → Bool
  | .null => false
  | .bool b => b
  | .int n => n ≠ 0
  | .float literal => ¬ Host.floatEq literal 0
  | .str s => s ≠ ""
  | .arr items => ¬ items.isEmpty
  | .obj fields => ¬ fields.isEmpty

/-- `extract(payload["message_preview"])`: a true value that is no text is a `TypeError`. -/
def previewMarker [Host] (payload : Dict) : Except CmuxError (Option WireMarker) :=
  match payload.lookup "message_preview" with
  | none => .ok none
  | some (.str preview) => .ok (extract preview)
  | some value => if truthy value then .error (.python .typeError) else .ok none

/-- The receipt of one stage: keys and marker of the delivery, evidence from the chain. -/
def harnessReceipt (config : EmitterConfig) (delivery : Delivery) (marker : DeliveryMarker)
    (evidenceClass : EvidenceClass) (disposition : Option Disposition) (session observedAt : String)
    (event : SourceEventRef) (chain : List SourceEventRef) : Receipt :=
  { receiptId := "rec-" ++ event.sourceEventId, eventId := delivery.eventId
    deliveryId := delivery.deliveryId, attemptId := delivery.attemptId
    bindingId := delivery.bindingId, evidenceProviderId := config.providerId, evidenceClass
    proofMethod := "cmux.event_bus.harness_hook_relay", observedAt
    sourceEventId := some event.sourceEventId, disposition
    proof := some (.typed
      { sessionId := session, marker := .typed marker
        sourceEvents := .tuple (chain.map .typed) }) }

/-- What a hook correlates to: the chain it completes, if every part is there and the lookup
resolves the marker to a delivery with a binding. -/
def correlate (config : EmitterConfig) (pending : Option PendingChain) (event : SourceEventRef) :
    Option ActiveChain :=
  match pending with
  | some { inputEvent := some input, promptEvent := some prompt, decodedMarker := some marker } =>
    match config.deliveryLookup marker.deliveryId with
    | some (delivery, coreMarker) =>
      if present delivery.bindingId = none then none
      else some { delivery, marker := coreMarker, events := [input, prompt, event] }
    | none => none
  | _ => none

def acceptedReceipt (config : EmitterConfig) (chain : ActiveChain) (session observedAt : String)
    (event : SourceEventRef) : Receipt :=
  harnessReceipt config chain.delivery chain.marker .harnessPromptAccepted none session observedAt
    event chain.events

def completedReceipt (config : EmitterConfig) (chain : ActiveChain) (session observedAt : String)
    (event : SourceEventRef) : Receipt :=
  harnessReceipt config chain.delivery chain.marker .harnessTurnCompleted (some .completed) session
    observedAt event (chain.events ++ [event])

namespace EmitterState

def observeInput (s : EmitterState) (event : SourceEventRef) (key : String) : EmitterState :=
  { s with
    pendingChains := Function.update s.pendingChains key (some { inputEvent := some event }) }

/-- The prompt is recorded before its preview is looked at. -/
def observePrompt [Host] (s : EmitterState) (event : SourceEventRef) (payload : Dict)
    (key : String) : Reaction EmitterState :=
  let pending := (s.pendingChains key).getD {}
  let record := fun marker : Option WireMarker => { s with
    pendingChains := Function.update s.pendingChains key
      (some { pending with promptEvent := some event, decodedMarker := marker }) }
  match previewMarker payload with
  | .ok marker => .silent (record marker)
  | .error e => .raises e (record none)

def observeUserPromptSubmit (config : EmitterConfig) (s : EmitterState) (event : SourceEventRef)
    (observedAt key : String) : Reaction EmitterState :=
  let popped := { s with pendingChains := Function.update s.pendingChains key none }
  match present event.sessionId with
  | none => .silent popped
  | some session =>
    match correlate config (s.pendingChains key) event with
    | none => .silent popped
    | some chain => .submits (acceptedReceipt config chain session observedAt event)
        { popped with
          activeChains := Function.update popped.activeChains (key, session) (some chain) }
        popped

def observeStop (config : EmitterConfig) (s : EmitterState) (event : SourceEventRef)
    (observedAt key : String) : Reaction EmitterState :=
  match present event.sessionId with
  | none => .silent s
  | some session =>
    match s.activeChains (key, session) with
    -- uncorrelated: nothing is emitted
    | none => .silent s
    | some chain =>
      let popped := { s with activeChains := Function.update s.activeChains (key, session) none }
      if present chain.delivery.bindingId = none then .silent popped
      else .submits (completedReceipt config chain session observedAt event) popped popped

/-- Process an event from the event bus. -/
def observe [Host] (config : EmitterConfig) (s : EmitterState) (event : SourceEventRef)
    (payload : Dict) (observedAt : String) (workspaceId : Option String) :
    Reaction EmitterState :=
  if event.eventName = inputSent then
    .silent (s.observeInput event (workspaceKey workspaceId))
  else if event.eventName = promptSubmitted then
    s.observePrompt event payload (workspaceKey workspaceId)
  else if event.eventName = userPromptSubmit then
    s.observeUserPromptSubmit config event observedAt (workspaceKey workspaceId)
  else if event.eventName = stop then
    s.observeStop config event observedAt (workspaceKey workspaceId)
  else .silent s

end EmitterState

end Yatagarasu.Cmux
