import Mathlib.Logic.Function.Basic
import Yatagarasu.Cmux.Journal
import Yatagarasu.Library.Transition

/-! One `deliver` call is a sequence of small steps: the calls out of it and the statements of the
journal's transaction. Any number of calls run side by side over one journal file, and any of them
may crash between two steps. -/

namespace Yatagarasu.Cmux

/-- Harness identity recorded by the authoritative session binding. -/
inductive HarnessKind
  | claudeCode
  | codex
  | hermes
  deriving DecidableEq, Repr

def HarnessKind.ofValue : String → Option HarnessKind
  | "claude-code" => some .claudeCode
  | "codex" => some .codex
  | "hermes" => some .hermes
  | _ => none

/-- The text and the keys that request a non-interrupting next turn. -/
structure HarnessProfile where
  kind : HarnessKind
  submitKeys : List String
  textPrefix : String := ""

def HarnessProfile.render (profile : HarnessProfile) (envelope : String) : Except PyError String :=
  if envelope = "" then .error (.valueError "cannot submit an empty envelope")
  else .ok (profile.textPrefix ++ envelope)

def profiles : HarnessKind → HarnessProfile
  | .claudeCode => { kind := .claudeCode, submitKeys := ["enter"] }
  | .codex => { kind := .codex, submitKeys := ["tab", "enter"] }
  | .hermes => { kind := .hermes, submitKeys := ["enter"], textPrefix := "/queue " }

/-- Python's `repr` of a text, which depends on its Unicode tables. -/
class PyText where
  repr : String → String

/-- The declared profile; an unsupported harness is rejected. -/
def profileFor [PyText] (kind : String) : Except PyError HarnessProfile :=
  match HarnessKind.ofValue kind with
  | some resolved => .ok (profiles resolved)
  | none => .error (.valueError ("unsupported harness: " ++ PyText.repr kind))

inductive SubmitOutcome
  | submitted
  | notSubmitted
  | unknown
  deriving DecidableEq, Repr

/-- Outcome plus the evidence that produced it. -/
structure SubmitResult where
  outcome : SubmitOutcome
  deliveryId : String
  sourceEvents : List String := []
  detail : String := ""
  deriving DecidableEq, Repr

def eventInputSent : String := "surface.input_sent"

def eventPromptSubmitted : String := "workspace.prompt.submitted"

/-- Decide between a true negative and an ambiguity. -/
def classifyShortfall (deliveryId : String) (seen : List String) : SubmitResult :=
  if seen = [] then
    { outcome := .notSubmitted, deliveryId, detail := "no host events observed within window" }
  else if eventInputSent ∈ seen ∧ eventPromptSubmitted ∉ seen then
    { outcome := .unknown, deliveryId, sourceEvents := seen
      detail := "input accepted but submit unobserved; holding to avoid a duplicate turn" }
  else
    { outcome := .unknown, deliveryId, sourceEvents := seen, detail := "incomplete evidence chain" }

/-- The arguments of a `deliver` call. -/
structure DeliverCall where
  identity : String
  delivery : Delivery
  body : String
  issuedAt : String
  expiresAt : String
  harness : String

/-- What the pure part of a call has made ready. -/
structure Prepared where
  marker : DeliveryMarker
  profile : HarnessProfile
  text : String

/-- The statements of `InjectionJournal.prepare`. -/
inductive JournalStage
  | beginning
  | inserting
  | committing
  | rollingBack
  | explaining
  | syncing
  | confirming
  deriving DecidableEq, Repr

/-- Something that a call out raised; `exception` says whether it is an `Exception`. -/
structure Raised where
  exception : Bool
  text : String

/-- Where a call stands. -/
inductive CallPhase
  | minting
  | resolving (prepared : Prepared)
  | pending (prepared : Prepared) (surface : String)
  | journaling (stage : JournalStage) (prepared : Prepared) (surface : String) (row : JournalRow)
  | sending (prepared : Prepared) (surface : String)
  | touching (prepared : Prepared) (surface : String)
  | submitting (prepared : Prepared) (surface : String) (keys : List String)
  | observing (prepared : Prepared) (seen : List String)
  | returned (result : SubmitResult)
  | raised (error : Raised)

/-- What resolver, transport, observer, clock and file system may do at a step. -/
inductive Response
  | proceeds
  | surface (handle : String)
  | intent (bindingId seatId marker : String) (now : Timestamp)
  | yields (name : String)
  | raises (error : Raised)

/-- What a step does to the outside. -/
inductive Deed
  | refused (row : JournalRow)
  | recorded (row : JournalRow)
  | sent (deliveryId surface text : String)
  | pressed (deliveryId surface key : String)

namespace DeliverCall

variable [Host] [PyText] (authority : MarkerAuthority) (call : DeliverCall)

def deliveryId : String := call.delivery.deliveryId

def notSubmitted (detail : String) : CallPhase :=
  .returned { outcome := .notSubmitted, deliveryId := call.deliveryId, detail }

/-- Marker, profile and text. Nothing local has happened, so a refusal is a clean negative. -/
def mint : CallPhase :=
  match authority.mint call.delivery call.issuedAt call.expiresAt with
  | .error (.valueError message) => call.notSubmitted ("marker error: " ++ message)
  | .error _ => .raised ⟨true, ""⟩
  | .ok marker =>
    match (do
      let profile ← profileFor call.harness
      let encoded ← encodeShort marker
      let text ← profile.render (encoded ++ " " ++ call.body)
      return { marker, profile, text : Prepared }) with
    | .ok prepared => .resolving prepared
    | .error (.valueError message) => call.notSubmitted ("harness profile error: " ++ message)
    | .error _ => .raised ⟨true, ""⟩

/-- `except Exception` around the transport. -/
def transportRaised (error : Raised) : CallPhase :=
  if error.exception then
    .returned { outcome := .unknown, deliveryId := call.deliveryId
                detail := "transport error: " ++ error.text }
  else .raised error

/-- One more event name of the observer. -/
def observed (prepared : Prepared) (seen : List String) (name : String) : CallPhase :=
  let seen := if name ∈ seen then seen else seen ++ [name]
  if eventInputSent ∈ seen ∧ eventPromptSubmitted ∈ seen then
    .returned { outcome := .submitted, deliveryId := call.deliveryId, sourceEvents := seen }
  else .observing prepared seen

/-- The row of the intent. -/
def row (bindingId seatId marker : String) (now : Timestamp) : JournalRow :=
  { deliveryId := call.deliveryId, bindingId, seatId, marker, state := .prepared, preparedAt := now }

/-- One statement of `prepare`; `free` says that no transaction is open on the file. The uniqueness
check is the `INSERT` itself. -/
def journal (rows : InjectionJournal) (free : Bool) (prepared : Prepared) (surface : String)
    (row : JournalRow) : JournalStage → Response → Option (CallPhase × List Deed)
  | .beginning, .proceeds =>
    if free then some (.journaling .inserting prepared surface row, []) else none
  -- the busy timeout
  | .beginning, .raises error => some (.raised error, [])
  | .inserting, .proceeds =>
    if rows.Refuses row then some (.journaling .rollingBack prepared surface row, [.refused row])
    else some (.journaling .committing prepared surface row, [])
  | .committing, .proceeds => some (.journaling .syncing prepared surface row, [.recorded row])
  | .rollingBack, .proceeds => some (.journaling .explaining prepared surface row, [])
  | .explaining, .proceeds => some (.raised ⟨true, rows.conflictMessage row.deliveryId⟩, [])
  | .syncing, .proceeds => some (.journaling .confirming prepared surface row, [])
  | .syncing, .raises error => some (.raised error, [])
  | .confirming, .proceeds =>
    if (rows.get row.deliveryId).isSome then some (.sending prepared surface, [])
    else some (.raised ⟨true, ""⟩, [])
  | _, _ => none

/-- One step of a `deliver` call whose `on_effect_pending` is the journal's `prepare`. -/
def advance (rows : InjectionJournal) (free : Bool) :
    CallPhase → Response → Option (CallPhase × List Deed)
  | .minting, .proceeds => some (call.mint authority, [])
  -- resolved per send, never cached
  | .resolving prepared, .surface handle => some (.pending prepared handle, [])
  | .resolving _, .raises error =>
    some (if error.exception then call.notSubmitted ("unresolved: " ++ error.text)
      else .raised error, [])
  -- the intent is recorded before the surface is touched
  | .pending prepared surface, .intent bindingId seatId marker now =>
    some (.journaling .beginning prepared surface (call.row bindingId seatId marker now), [])
  | .pending _ _, .raises error => some (.raised error, [])
  | .journaling stage prepared surface row, response =>
    journal rows free prepared surface row stage response
  | .sending prepared surface, .proceeds =>
    some (.touching prepared surface, [.sent call.deliveryId surface prepared.text])
  | .touching prepared surface, .proceeds =>
    some (.submitting prepared surface prepared.profile.submitKeys, [])
  | .touching _ _, .raises error => some (call.transportRaised error, [])
  | .submitting prepared _ [], .proceeds => some (.observing prepared [], [])
  | .submitting prepared surface (key :: keys), .proceeds =>
    some (.submitting prepared surface keys, [.pressed call.deliveryId surface key])
  | .submitting _ _ _, .raises error => some (call.transportRaised error, [])
  | .observing prepared seen, .yields name => some (call.observed prepared seen name, [])
  | .observing _ seen, .proceeds => some (.returned (classifyShortfall call.deliveryId seen), [])
  | .observing _ _, .raises error => some (.raised error, [])
  | _, _ => none

end DeliverCall

/-- The open write transaction is inside these statements. -/
def CallPhase.inTransaction : CallPhase → Bool
  | .journaling .inserting _ _ _ | .journaling .committing _ _ _
  | .journaling .rollingBack _ _ _ => true
  | _ => false

/-- The rows of the journal file as committed, the call that holds the write lock, and the calls. -/
structure Injections where
  journal : InjectionJournal := []
  writer : Option Nat := none
  calls : Nat → Option (DeliverCall × CallPhase) := fun _ => none

/-- The rows that a step commits. -/
def recordedRows (deeds : List Deed) : InjectionJournal :=
  deeds.filterMap fun
    | .recorded row => some row
    | _ => none

inductive Injections.Action
  | start (i : Nat) (call : DeliverCall)
  | respond (i : Nat) (response : Response)
  /-- The processes of these calls die; an open transaction of theirs is rolled back. -/
  | crash (dead : Nat → Bool)

namespace Injections

variable [Host] [PyText] (authority : MarkerAuthority)

def next (s : Injections) : Action → Option (Injections × List Deed)
  | .start i call =>
    if (s.calls i).isSome then none
    else some ({ s with calls := Function.update s.calls i (some (call, .minting)) }, [])
  | .respond i response =>
    match s.calls i with
    | none => none
    | some (call, phase) =>
      match call.advance authority s.journal s.writer.isNone phase response with
      | none => none
      | some (phase', deeds) => some
        ({ journal := s.journal ++ recordedRows deeds
           writer := if phase'.inTransaction then some i
             else if s.writer = some i then none else s.writer
           calls := Function.update s.calls i (some (call, phase')) }, deeds)
  | .crash dead => some
    ({ s with
      writer := s.writer.filter fun i => ¬ dead i
      calls := fun i => if dead i then none else s.calls i }, [])

/-- One step of some call, or a crash. -/
def Step (s : Injections) (deeds : List Deed) (s' : Injections) : Prop :=
  ∃ action, s.next authority action = some (s', deeds)

end Injections

end Yatagarasu.Cmux
