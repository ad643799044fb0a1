import Yatagarasu.Cmux.EventOutbox
import Yatagarasu.Cmux.KeptMarkers
import Yatagarasu.Cmux.ReceiptProducer

/-! Event frames with surrogates anywhere in their texts, as the wire may bring them: what the
projector makes of one, whether the producer translates that, and whether SQLite stores it. -/

namespace Yatagarasu.Cmux

open PyJson PyStr

/-- A decoded JSON object whose texts may hold surrogates. -/
abbrev ObservedFrame := List (List Point × Value)

namespace ObservedFrame

/-- The value under a key. -/
def field (frame : ObservedFrame) (key : String) : Option Value := frame.lookup (points key.toList)

def get (frame : ObservedFrame) (key : String) : Value := (field frame key).getD .null

/-- `value == text` for a value that may be missing. -/
def eqText (value : Option Value) (text : List Point) : Bool :=
  match value with
  | some (.str text') => text' = text
  | _ => false

/-- `value == n` for a value that may be missing. -/
def eqInt [Host] (value : Option Value) (n : Int) : Bool :=
  match value with
  | some (.int m) => m = n
  | some (.bool b) => (if b then 1 else 0) = n
  | some (.float literal) => Host.floatEq literal n
  | _ => false

def textValue : Option Value → Option (List Point)
  | some (.str text) => some text
  | _ => none

/-- A text that is not empty. -/
def filled : Option (List Point) → Option (List Point)
  | some [] => none
  | text => text

def isScalar : Value → Bool
  | .arr _ | .obj _ => false
  | _ => true

def isSafePayloadValue : Value → Bool
  | .arr items => items.all isScalar
  | value => isScalar value

/-- The payload that may be kept: safe keys, and of the preview only its marker. -/
def safePayload : Option Value → Except CmuxError ObservedFrame
  | some (.obj payload) =>
    let safe := payload.filter fun field =>
      (safePayloadKeys.any fun key => field.1 = points key.toList) ∧ isSafePayloadValue field.2
    match field payload "message_preview" with
    | some (.str preview) =>
      match ObservedMarker.extract preview with
      | some marker =>
        match marker.markerText with
        | .ok text => .ok (safe ++ [(points "message_preview".toList, .str (points text.toList))])
        | .error e => .error (.python e)
      | none => .ok safe
    | _ => .ok safe
  | _ => .ok []

end ObservedFrame

/-- A `DerivedEvent` of such a frame. -/
structure ObservedEvent where
  sourceInstanceId : String
  bootId : List Point
  seq : Int
  sourceEventId : List Point
  eventName : List Point
  eventJson : String

namespace ObservedFrame

def projection (frame payload : ObservedFrame) (bootId : List Point) (seq : Int)
    (eventId name : List Point) : ObservedFrame :=
  [(points "boot_id".toList, .str bootId), (points "category".toList, get frame "category"),
    (points "event_id".toList, .str eventId), (points "name".toList, .str name),
    (points "occurred_at".toList, get frame "occurred_at"),
    (points "pane_id".toList, get frame "pane_id"), (points "payload".toList, .obj payload),
    (points "seq".toList, .int seq), (points "source".toList, get frame "source"),
    (points "surface_id".toList, get frame "surface_id"),
    (points "window_id".toList, get frame "window_id"),
    (points "workspace_id".toList, get frame "workspace_id")]

/-- Turn a local-sensitive bus event into content-free durable evidence. -/
def project [Host] (sourceInstanceId : String) (frame : ObservedFrame)
    (expectedBootId : List Point) : Except CmuxError ObservedEvent :=
  if ¬ (eqText (field frame "type") (points "event".toList) ∧
      eqText (field frame "protocol") (points protocol.toList) ∧
      eqInt (field frame "version") protocolVersion) then
    .error (.streamProtocol "frame is not a supported CMUX event")
  else if ¬ eqText (field frame "boot_id") expectedBootId then
    .error (.streamProtocol "event boot ID differs from stream ack")
  else match field frame "seq", field frame "id", field frame "name" with
    | some (.int seq), some (.str eventId), some (.str name) =>
      if seq < 0 ∨ eventId = [] ∨ name = [] then
        .error (.streamProtocol "event identity is malformed")
      else match safePayload (field frame "payload") with
        | .error e => .error e
        | .ok payload => .ok
          { sourceInstanceId, bootId := expectedBootId, seq, sourceEventId := eventId
            eventName := name
            eventJson := (Value.obj (frame.projection payload expectedBootId seq eventId name)).dumps }
    | _, _, _ => .error (.streamProtocol "event identity is malformed")

/-- The frame says when its event occurred. -/
def Stamped (frame : ObservedFrame) : Prop :=
  ∃ occurredAt, field frame "occurred_at" = some (.str occurredAt) ∧ occurredAt ≠ []

end ObservedFrame

/-- What the producer reads in the row of an event. -/
structure ObservedTranslation where
  sessionId : Option (List Point)
  marker : Option ObservedMarker
  payload : ObservedFrame
  observedAt : List Point
  workspaceId : Option (List Point)

namespace ObservedEvent

open ObservedFrame

/-- Core evidence using only values present in the event. -/
def translate [Host] (event : ObservedEvent) : Except CmuxError ObservedTranslation :=
  match Value.loads (points event.eventJson.toList) with
  | none => .error (.receiptProducer "derived event JSON is malformed")
  | some (.obj projected) =>
    if ¬ (eqText (field projected "boot_id") event.bootId ∧
        eqText (field projected "event_id") event.sourceEventId ∧
        eqText (field projected "name") event.eventName ∧
        ObservedFrame.eqInt (field projected "seq") event.seq) then
      .error (.receiptProducer "derived event identity contradicts its row")
    else
      let payload := match field projected "payload" with
        | some (.obj payload) => payload
        | _ => []
      match filled (textValue (field projected "occurred_at")) with
      | none => .error (.receiptProducer "derived event has no observation timestamp")
      | some observedAt =>
        .ok {
          sessionId := textValue (field payload "session_id")
          marker := if event.eventName = points promptSubmitted.toList then
              (textValue (field payload "message_preview")).bind ObservedMarker.extract
            else none
          payload, observedAt
          workspaceId := filled (textValue (field projected "workspace_id")) }
  | some _ => .error (.receiptProducer "derived event JSON is not an object")

/-- A text as a parameter of a statement: SQLite takes its UTF-8 bytes, and a surrogate has none. -/
def bindText (text : List Point) : Except CmuxError String :=
  match unicode text with
  | some cs => .ok (String.ofList cs)
  | none => .error (.python (.raised "surrogates not allowed"))

/-- The parameters of the statements that commit an event. -/
def row (event : ObservedEvent) : Except CmuxError DerivedEvent := do
  let bootId ← bindText event.bootId
  if event.seq ≥ 2 ^ 63 then throw overflowError
  let sourceEventId ← bindText event.sourceEventId
  let eventName ← bindText event.eventName
  return {
    sourceInstanceId := event.sourceInstanceId, bootId, seq := event.seq, sourceEventId, eventName
    eventJson := event.eventJson }

/-- The texts that name an event. -/
def identity (event : ObservedEvent) : List (List Point) :=
  [event.bootId, event.sourceEventId, event.eventName]

end ObservedEvent

namespace ObservedFrame

section Projection

variable [Host] {source : String} {frame payload : ObservedFrame} {boot : List Point}
  {event : ObservedEvent}

theorem project_form (h : project source frame boot = .ok event) : ∃ payload,
    safePayload (field frame "payload") = .ok payload ∧
      event.eventJson = (Value.obj (projection frame payload event.bootId event.seq
        event.sourceEventId event.eventName)).dumps := by
  unfold project at h
  split at h
  · cases h
  split at h
  · cases h
  split at h
  · split at h
    · cases h
    split at h
    · cases h
    rename_i payload hpayload
    cases h
    exact ⟨payload, hpayload, rfl⟩
  · cases h

omit [Host] in
theorem readable_get (hframe : Value.ReadableFields frame) (key : String) :
    Value.Readable (get frame key) := by
  unfold get
  cases hvalue : field frame key with
  | none => trivial
  | some v => exact Value.readable_of_lookup hframe hvalue

def projectionKeys : List String :=
  ["boot_id", "category", "event_id", "name", "occurred_at", "pane_id", "payload", "seq", "source",
    "surface_id", "window_id", "workspace_id"]

omit [Host] in
theorem keys_projection (frame payload : ObservedFrame) (boot : List Point) (seq : Int)
    (eventId name : List Point) :
    (projection frame payload boot seq eventId name).map Prod.fst =
      projectionKeys.map (points ·.toList) := rfl

omit [Host] in
/-- The fields of the kept text, of which the texts are joined. -/
theorem loads_projection (hframe : Value.ReadableFields frame)
    (hpayload : Value.ReadableFields payload) (boot : List Point) (seq : Int)
    (eventId name : List Point) :
    Value.loads (points (Value.obj (projection frame payload boot seq eventId name)).dumps.toList) =
      some (.obj (Value.joinedFields (Value.sortFields
        (projection frame payload boot seq eventId name)))) := by
  have hreadable : Value.Readable (.obj (projection frame payload boot seq eventId name)) := by
    simp [projection, Value.Readable, Value.ReadableFields, readable_get hframe, hpayload]
  have hordered : ((projection frame payload boot seq eventId name).map Prod.fst).Pairwise
      fun a b => Value.atMost a b = true := by
    rw [keys_projection]
    decide +kernel
  have hnodup : ((Value.joinedFields (Value.sortFields
      (projection frame payload boot seq eventId name))).map Prod.fst).Nodup := by
    have hkeys : projectionKeys.Nodup := by decide
    rw [Value.keys_joinedFields, Value.keys_sortFields, keys_projection, List.map_map]
    refine hkeys.map fun key key' h => ?_
    simp only [Function.comp, join_points] at h
    exact String.toList_inj.mp (points_injective h)
  rw [Value.loads_dumps hreadable, Value.sortKeys_obj hordered, Value.joined, dict_of_nodup hnodup]

omit [Host] in
theorem filled_eq_none {text : List Point} : filled (some text) = none ↔ text = [] := by
  cases text <;> simp [filled]

omit [Host] in
theorem stamped_iff (frame : ObservedFrame) :
    Stamped frame ↔ filled (textValue (some (get frame "occurred_at"))) ≠ none := by
  unfold Stamped get
  cases field frame "occurred_at" with
  | none => simp [textValue, filled]
  | some v =>
    cases v with
    | str text =>
      change (∃ occurredAt, some (Value.str text) = some (.str occurredAt) ∧ occurredAt ≠ []) ↔
        filled (some text) ≠ none
      rw [ne_eq, filled_eq_none]
      simp
    | null | bool _ | int _ | float _ | arr _ | obj _ => simp [textValue, filled]

end Projection

end ObservedFrame

theorem bindText_eq_ok {text : List Point} {bound : String} :
    ObservedEvent.bindText text = .ok bound ↔ text = points bound.toList := by
  unfold ObservedEvent.bindText
  split
  · rename_i cs hunicode
    rw [unicode_eq_some] at hunicode
    rw [Except.ok.injEq, hunicode, points_injective.eq_iff, ← String.toList_inj,
      String.toList_ofList]
  · rename_i hunicode
    constructor
    · intro h
      cases h
    · rintro rfl
      rw [unicode_points] at hunicode
      cases hunicode

/-- A marker of Unicode texts, as one of an observed text. -/
def ObservedMarker.ofWire : WireMarker → ObservedMarker
  | .short marker => .short marker
  | .delivery marker => .delivery (.ofMarker (.int marker.schemaVersion) marker)

theorem ObservedMarker.markerText_ofWire (marker : WireMarker) :
    (ofWire marker).markerText = Cmux.markerText marker := by
  cases marker with
  | short marker => rfl
  | delivery marker =>
    have hrender := DecodedMarker.render_ofMarker marker
    rw [ofWire, markerText, Cmux.markerText, DecodedMarker.encode, MarkerAuthority.encode, dumps,
      MarkerAuthority.sortKeys_encodePayload, hrender, String.toList_ofList]
    rfl

/-- An event of Unicode texts, as one of an observed frame. -/
def ObservedEvent.ofDerived (event : DerivedEvent) : ObservedEvent where
  sourceInstanceId := event.sourceInstanceId
  bootId := points event.bootId.toList
  seq := event.seq
  sourceEventId := points event.sourceEventId.toList
  eventName := points event.eventName.toList
  eventJson := event.eventJson

theorem ObservedEvent.row_ofDerived (event : DerivedEvent) :
    (ofDerived event).row =
      if event.seq ≥ 2 ^ 63 then .error overflowError else .ok event := by
  have hbind (text : String) : bindText (points text.toList) = .ok text := bindText_eq_ok.mpr rfl
  unfold row ofDerived
  simp only [hbind, bind, Except.bind]
  split <;> rfl

theorem ObservedMarker.extract_eq_none {preview : String}
    (h : extract (points preview.toList) = none) : Cmux.extract preview = none := by
  unfold extract at h
  rw [visible_points, points, List.length_map] at h
  unfold Cmux.extract
  cases hshort : (searchShort preview.toList).bind canonicalShort with
  | some marker =>
    rw [hshort] at h
    cases h
  | none =>
    rw [hshort] at h
    dsimp only at h ⊢
    rw [Option.map_eq_none_iff, List.findSome?_eq_none_iff] at h ⊢
    intro token htoken
    cases hdecode : MarkerAuthority.decode (String.ofList token) with
    | none => rfl
    | some marker =>
      obtain ⟨version, -, hobserved⟩ := DecodedMarker.decode_of_marker hdecode
      have hnone := h token htoken
      rw [hobserved] at hnone
      cases hnone

namespace ObservedFrame

section Unicode

variable {frame : Dict}

theorem field_ofFields (frame : Dict) (key : String) :
    field (Value.ofFields frame) key = (frame.lookup key).map Value.ofJson :=
  DecodedMarker.lookup_ofFields frame key

theorem eqText_ofJson (value : Option Json) (text : String) :
    eqText (value.map Value.ofJson) (points text.toList) = eqStr value text := by
  cases value with
  | none => rfl
  | some j =>
    cases j with
    | str s => exact decide_eq_decide.mpr Value.points_toList_inj
    | null | bool _ | int _ | float _ | arr _ | obj _ => rfl

theorem eqInt_ofJson [Host] (value : Option Json) (n : Int) :
    eqInt (value.map Value.ofJson) n = Cmux.eqInt value n := by
  cases value with
  | none => rfl
  | some j => cases j <;> rfl

theorem isScalar_ofJson (j : Json) : isScalar (Value.ofJson j) = Cmux.isScalar j := by
  cases j <;> rfl

theorem isSafePayloadValue_ofJson (j : Json) :
    isSafePayloadValue (Value.ofJson j) = Cmux.isSafePayloadValue j := by
  cases j with
  | arr items =>
    change (Value.ofItems items).all isScalar = items.all Cmux.isScalar
    induction items with
    | nil => rfl
    | cons j items ih => rw [Value.ofItems, List.all_cons, List.all_cons, isScalar_ofJson, ih]
  | null | bool _ | int _ | float _ | str _ | obj _ => rfl

theorem get_ofFields (frame : Dict) (key : String) :
    get (Value.ofFields frame) key = Value.ofJson (Cmux.get frame key) := by
  rw [get, field_ofFields, Cmux.get]
  cases frame.lookup key <;> rfl

theorem safe_ofFields (payload : Dict) :
    (Value.ofFields payload).filter (fun field =>
        (safePayloadKeys.any fun key => field.1 = points key.toList) ∧
          isSafePayloadValue field.2) =
      Value.ofFields (payload.filter fun field =>
        field.1 ∈ safePayloadKeys ∧ Cmux.isSafePayloadValue field.2) := by
  rw [Value.ofFields_eq_map, Value.ofFields_eq_map, List.filter_map]
  congr 1
  apply List.filter_congr
  intro first _
  simp only [Function.comp, isSafePayloadValue_ofJson, List.any_eq_true, decide_eq_true_eq,
    Value.points_toList_inj, exists_eq_right']

/-- Both see the same marker in the preview of a payload. -/
def SameMarker (payload : Option Json) : Prop :=
  ∀ fields preview, payload = some (.obj fields) →
    fields.lookup "message_preview" = some (.str preview) →
      ObservedMarker.extract (points preview.toList) =
        (Cmux.extract preview).map ObservedMarker.ofWire

theorem sameMarker_of_none {payload : Option Json}
    (h : ∀ fields preview, payload = some (.obj fields) →
      fields.lookup "message_preview" = some (.str preview) →
        ObservedMarker.extract (points preview.toList) = none) : SameMarker payload := by
  intro fields preview hpayload hpreview
  have hnone := h fields preview hpayload hpreview
  rw [hnone, ObservedMarker.extract_eq_none hnone, Option.map_none]

theorem safePayload_ofJson {payload : Option Json} (hmarker : SameMarker payload) :
    safePayload (payload.map Value.ofJson) = (Cmux.safePayload payload).map Value.ofFields := by
  cases payload with
  | none => rfl
  | some j =>
    cases j with
    | obj fields =>
      simp only [Option.map_some, Value.ofJson, safePayload, Cmux.safePayload, safe_ofFields,
        field_ofFields]
      cases hpreview : fields.lookup "message_preview" with
      | none => rfl
      | some j =>
        cases j with
        | str preview =>
          simp only [Option.map_some, Value.ofJson, hmarker fields preview rfl hpreview]
          cases Cmux.extract preview with
          | none => rfl
          | some marker =>
            simp only [Option.map_some, ObservedMarker.markerText_ofWire]
            cases Cmux.markerText marker with
            | error e => rfl
            | ok text =>
              simp only [Except.map, Value.ofFields_eq_map, List.map_append]
              rfl
        | null | bool _ | int _ | float _ | arr _ | obj _ => rfl
    | null | bool _ | int _ | float _ | str _ | arr _ => rfl

theorem projection_ofFields (frame payload : Dict) (boot : String) (seq : Int)
    (eventId name : String) :
    Value.obj (projection (Value.ofFields frame) (Value.ofFields payload) (points boot.toList) seq
        (points eventId.toList) (points name.toList)) =
      Value.ofJson (.obj
        [("boot_id", .str boot), ("category", Cmux.get frame "category"),
          ("event_id", .str eventId), ("name", .str name),
          ("occurred_at", Cmux.get frame "occurred_at"), ("pane_id", Cmux.get frame "pane_id"),
          ("payload", .obj payload), ("seq", .int seq), ("source", Cmux.get frame "source"),
          ("surface_id", Cmux.get frame "surface_id"), ("window_id", Cmux.get frame "window_id"),
          ("workspace_id", Cmux.get frame "workspace_id")]) := by
  simp only [projection, get_ofFields, Value.ofJson, Value.ofFields]

/-- A frame of Unicode texts is projected as such a frame. -/
theorem project_ofFields [Host] (source boot : String) (hmarker : SameMarker (frame.lookup "payload")) :
    project source (Value.ofFields frame) (points boot.toList) =
      (Cmux.project source frame boot).map ObservedEvent.ofDerived := by
  have hempty : ∀ text : String, points text.toList = [] ↔ text = "" := by
    intro text
    rw [points, List.map_eq_nil_iff, String.toList_eq_nil_iff]
  unfold project Cmux.project
  simp only [field_ofFields, eqText_ofJson, eqInt_ofJson, safePayload_ofJson hmarker]
  split
  · rfl
  split
  · rfl
  rcases frame.lookup "seq" with _ | _ | _ | seq | _ | _ | _ | _ <;> try rfl
  rcases frame.lookup "id" with _ | _ | _ | _ | _ | eventId | _ | _ <;> try rfl
  rcases frame.lookup "name" with _ | _ | _ | _ | _ | name | _ | _ <;> try rfl
  simp only [Option.map_some, Value.ofJson, hempty]
  split
  · rfl
  cases Cmux.safePayload (frame.lookup "payload") with
  | error e => rfl
  | ok payload =>
    simp only [Except.map, projection_ofFields, Value.dumps_ofJson]
    rfl

end Unicode

end ObservedFrame

end Yatagarasu.Cmux
