import Yatagarasu.Cmux.Marker

/-! Event frames and their privacy-preserving projection. -/

namespace Yatagarasu.Cmux

open PyJson

/-- The exceptions of the plugin; `python` is one that comes from below. -/
inductive CmuxError
  | streamProtocol (message : String)
  | receiptProducer (message : String)
  | outbox (message : String)
  | journal (message : String)
  | python (error : PyError)
  deriving DecidableEq, Repr

/-- A decoded JSON object. -/
abbrev Dict := List (String × Json)

/-- `value == text` for a value that may be missing. -/
def eqStr (value : Option Json) (text : String) : Bool :=
  match value with
  | some (.str s) => s = text
  | _ => false

theorem eqStr_unique {value : Option Json} {text text' : String} (h : eqStr value text)
    (h' : eqStr value text') : text = text' := by
  unfold eqStr at h h'
  split at h
  · simp only [decide_eq_true_eq] at h h'
    exact h.symm.trans h'
  · cases h

/-- `value == n` for a value that may be missing: `True` is 1, and a float may equal an integer. -/
def eqInt [Host] (value : Option Json) (n : Int) : Bool :=
  match value with
  | some (.int m) => m = n
  | some (.bool b) => (if b then 1 else 0) = n
  | some (.float literal) => Host.floatEq literal n
  | _ => false

/-- Content-free event metadata safe to persist for receipt generation. -/
structure DerivedEvent where
  sourceInstanceId : String
  bootId : String
  seq : Int
  sourceEventId : String
  eventName : String
  eventJson : String
  deriving DecidableEq, Repr

def protocol : String := "cmux-events"

def protocolVersion : Int := 1

/-- Literal resume evidence carried by the stream acknowledgement. -/
structure ResumeMetadata where
  requestedAfterSeq : Option Int
  oldestSeq : Int
  latestSeq : Int
  nextSeq : Int
  gap : Bool
  deriving DecidableEq, Repr

/-- Validated first frame for one event-stream connection. -/
structure StreamAck where
  bootId : String
  replayCount : Nat
  resume : ResumeMetadata
  deriving DecidableEq, Repr

/-- `resume.get("requested_after_seq")`, which may be absent. -/
def requestedCursor : Option Json → Except CmuxError (Option Int)
  | none | some .null => .ok none
  | some (.int requested) => .ok (some requested)
  | some _ => .error (.streamProtocol "resume requested cursor is malformed")

def ResumeMetadata.parse (resume : Dict) : Except CmuxError ResumeMetadata :=
  match requestedCursor (resume.lookup "requested_after_seq") with
  | .error e => .error e
  | .ok requestedAfterSeq =>
    match resume.lookup "oldest_seq", resume.lookup "latest_seq", resume.lookup "next_seq",
        resume.lookup "gap" with
    | some (.int oldestSeq), some (.int latestSeq), some (.int nextSeq), some (.bool gap) =>
      if min oldestSeq (min latestSeq nextSeq) < 0 then
        .error (.streamProtocol "resume metadata is malformed")
      else .ok { requestedAfterSeq, oldestSeq, latestSeq, nextSeq, gap }
    | _, _, _, _ => .error (.streamProtocol "resume metadata is malformed")

def StreamAck.parse [Host] (frame : Dict) : Except CmuxError StreamAck :=
  if ¬ (eqStr (frame.lookup "type") "ack" ∧ eqStr (frame.lookup "protocol") protocol ∧
      eqInt (frame.lookup "version") protocolVersion) then
    .error (.streamProtocol "first frame is not a supported stream ack")
  else match frame.lookup "boot_id", frame.lookup "replay_count", frame.lookup "resume" with
    | some (.str bootId), some (.int replayCount), some (.obj resume) =>
      if bootId = "" ∨ replayCount < 0 then
        .error (.streamProtocol "stream ack identity is malformed")
      else match ResumeMetadata.parse resume with
        | .error e => .error e
        | .ok resume => .ok { bootId, replayCount := replayCount.toNat, resume }
    | _, _, _ => .error (.streamProtocol "stream ack identity is malformed")

def safePayloadKeys : List String :=
  ["_opencode_request_id", "_source", "decision", "hook_event_name", "message_length",
    "payload_truncated", "phase", "redacted_fields", "request_id", "session_id", "status",
    "tool_name", "workspace_id"]

def isScalar : Json → Bool
  | .arr _ | .obj _ => false
  | _ => true

def isSafePayloadValue : Json → Bool
  | .arr items => items.all isScalar
  | value => isScalar value

/-- The payload that may be kept: safe keys, and of the preview only its marker. -/
def safePayload : Option Json → Except CmuxError Dict
  | some (.obj payload) =>
    let safe := payload.filter fun field => field.1 ∈ safePayloadKeys ∧ isSafePayloadValue field.2
    match payload.lookup "message_preview" with
    | some (.str preview) =>
      match extract preview with
      | some marker =>
        match markerText marker with
        | .ok text => .ok (safe ++ [("message_preview", .str text)])
        | .error e => .error (.python e)
      | none => .ok safe
    | _ => .ok safe
  | _ => .ok []

def get (frame : Dict) (key : String) : Json := (frame.lookup key).getD .null

/-- Turn a local-sensitive bus event into content-free durable evidence. -/
def project [Host] (sourceInstanceId : String) (frame : Dict) (expectedBootId : String) :
    Except CmuxError DerivedEvent :=
  if ¬ (eqStr (frame.lookup "type") "event" ∧ eqStr (frame.lookup "protocol") protocol ∧
      eqInt (frame.lookup "version") protocolVersion) then
    .error (.streamProtocol "frame is not a supported CMUX event")
  else if ¬ eqStr (frame.lookup "boot_id") expectedBootId then
    .error (.streamProtocol "event boot ID differs from stream ack")
  else match frame.lookup "seq", frame.lookup "id", frame.lookup "name" with
    | some (.int seq), some (.str eventId), some (.str name) =>
      if seq < 0 ∨ eventId = "" ∨ name = "" then
        .error (.streamProtocol "event identity is malformed")
      else match safePayload (frame.lookup "payload") with
        | .error e => .error e
        | .ok payload => .ok
          { sourceInstanceId, bootId := expectedBootId, seq, sourceEventId := eventId
            eventName := name
            eventJson := PyJson.dumps (.obj
              [("boot_id", .str expectedBootId), ("category", get frame "category"),
                ("event_id", .str eventId), ("name", .str name),
                ("occurred_at", get frame "occurred_at"), ("pane_id", get frame "pane_id"),
                ("payload", .obj payload), ("seq", .int seq), ("source", get frame "source"),
                ("surface_id", get frame "surface_id"), ("window_id", get frame "window_id"),
                ("workspace_id", get frame "workspace_id")]) }
    | _, _, _ => .error (.streamProtocol "event identity is malformed")

/-- What a projected event's row says of its identity. -/
theorem project_eq_ok [Host] {sourceInstanceId expectedBootId : String} {frame : Dict}
    {event : DerivedEvent} (h : project sourceInstanceId frame expectedBootId = .ok event) :
    event.sourceInstanceId = sourceInstanceId ∧ event.bootId = expectedBootId ∧ 0 ≤ event.seq ∧
      event.sourceEventId ≠ "" ∧ event.eventName ≠ "" := by
  unfold project at h
  split at h
  · cases h
  split at h
  · cases h
  split at h
  · split at h
    · cases h
    rename_i hidentity
    split at h
    · cases h
    cases h
    simp only [not_or, Int.not_lt] at hidentity
    exact ⟨rfl, rfl, hidentity.1, hidentity.2.1, hidentity.2.2⟩
  · cases h

end Yatagarasu.Cmux
