import Yatagarasu.Cmux.ObservedFrames
import Yatagarasu.Cmux.Duplicates
import Yatagarasu.Library.Decoded

/-! The producer reads a projected event back. It refuses one for a single reason, a missing time of
observation, and then the resident never gets past that event. -/

namespace Yatagarasu.Cmux

open PyJson ReceiptReducer Transition

/-- A frame as the socket reads it. -/
def Decoded (frame : Dict) : Prop := ∃ text, PyJson.loads text = some (.obj frame)

/-- The frame says when its event occurred. -/
def Stamped (frame : Dict) : Prop :=
  ∃ occurredAt, frame.lookup "occurred_at" = some (.str occurredAt) ∧ occurredAt ≠ ""

/-- The object of which a projected event keeps the text. -/
def projection (frame : Dict) (event : DerivedEvent) (payload : Dict) : Dict :=
  [("boot_id", .str event.bootId), ("category", get frame "category"),
    ("event_id", .str event.sourceEventId), ("name", .str event.eventName),
    ("occurred_at", get frame "occurred_at"), ("pane_id", get frame "pane_id"),
    ("payload", .obj payload), ("seq", .int event.seq), ("source", get frame "source"),
    ("surface_id", get frame "surface_id"), ("window_id", get frame "window_id"),
    ("workspace_id", get frame "workspace_id")]

section Projection

variable [Host] {source boot : String} {frame payload : Dict} {event : DerivedEvent}

theorem project_form (h : project source frame boot = .ok event) : ∃ payload,
    safePayload (frame.lookup "payload") = .ok payload ∧
      event.eventJson = dumps (.obj (projection frame event payload)) := by
  unfold project at h
  split at h
  · cases h
  split at h
  · cases h
  split at h
  · split at h
    · cases h
    split at h
    · cases h
    rename_i payload hpayload
    cases h
    exact ⟨payload, hpayload, rfl⟩
  · cases h

/-- The kept payload can be written and read, and its preview is a text. -/
structure Kept (payload : Dict) : Prop where
  readable : Readable (.obj payload)
  preview : ∀ field ∈ payload, field.1 = "message_preview" → ∃ text, field.2 = .str text

/-- The fields of a payload that are kept. -/
def safeFields (fields : Dict) : Dict :=
  fields.filter fun field => field.1 ∈ safePayloadKeys ∧ isSafePayloadValue field.2

omit [Host] in
theorem preview_not_safe (fields : Dict) : "message_preview" ∉ (safeFields fields).map Prod.fst := by
  intro hmem
  obtain ⟨field, hfield, hkey⟩ := List.mem_map.mp hmem
  have hsafe := of_decide_eq_true (List.mem_filter.mp hfield).2
  rw [hkey] at hsafe
  exact absurd hsafe.1 (by decide)

omit [Host] in
theorem kept_filter {fields : Dict} (h : Readable (.obj fields)) : Kept (safeFields fields) := by
  refine ⟨⟨?_, ?_⟩, fun field hfield hkey => ?_⟩
  · exact (List.filter_sublist.map Prod.fst).nodup h.1
  · rw [readableFields_iff]
    intro field hfield
    exact readableFields_iff.mp h.2 field (List.mem_of_mem_filter hfield)
  · exact absurd (List.mem_map.mpr ⟨field, hfield, hkey⟩) (preview_not_safe fields)

omit [Host] in
theorem kept_preview {payload : Dict} (text : String) (h : Kept payload)
    (hkeys : "message_preview" ∉ payload.map Prod.fst) :
    Kept (payload ++ [("message_preview", .str text)]) := by
  refine ⟨⟨?_, ?_⟩, fun field hfield hkey => ?_⟩
  · rw [List.map_append, List.nodup_append]
    refine ⟨h.readable.1, by simp, fun key hkey key' hkey' => ?_⟩
    rw [List.map_singleton, List.mem_singleton] at hkey'
    rintro rfl
    rw [hkey'] at hkey
    exact hkeys hkey
  · rw [readableFields_iff]
    intro field hfield
    rcases List.mem_append.mp hfield with hfield | hfield
    · exact readableFields_iff.mp h.readable.2 field hfield
    · rw [List.mem_singleton.mp hfield]
      trivial
  · rcases List.mem_append.mp hfield with hfield | hfield
    · exact h.preview field hfield hkey
    · rw [List.mem_singleton.mp hfield]
      exact ⟨text, rfl⟩

omit [Host] in
theorem kept_safePayload {value : Option Json} (h : safePayload value = .ok payload)
    (hvalue : ∀ v, value = some v → Readable v) : Kept payload := by
  unfold safePayload at h
  split at h
  · rename_i fields
    have hfilter := kept_filter (hvalue _ rfl)
    dsimp only at h
    split at h
    · split at h
      · split at h
        · cases h
          exact kept_preview _ hfilter (preview_not_safe fields)
        · cases h
      · cases h
        exact hfilter
    · cases h
      exact hfilter
  · cases h
    exact ⟨⟨List.nodup_nil, trivial⟩, fun field hfield => absurd hfield List.not_mem_nil⟩

omit [Host] in
theorem readable_get (h : Readable (.obj frame)) (key : String) : Readable (get frame key) := by
  unfold get
  cases hlookup : frame.lookup key with
  | none => trivial
  | some value => exact readable_of_lookup h hlookup

omit [Host] in
theorem readable_projection (h : Readable (.obj frame)) (hpayload : Kept payload) :
    Readable (.obj (projection frame event payload)) := by
  refine ⟨by simp [projection], ?_⟩
  simp only [projection, ReadableFields, readable_get h, hpayload.readable, and_true, true_and]
  exact ⟨trivial, trivial, trivial, trivial⟩

omit [Host] in
/-- A projected event is read back field by field. -/
theorem loads_projection (h : Readable (.obj frame)) (hpayload : Kept payload) :
    PyJson.loads (dumps (.obj (projection frame event payload))) =
      some (.obj (sortFields (projection frame event payload))) := by
  rw [loads_dumps (readable_projection h hpayload), sortKeys_of_ordered]
  simp [projection]

omit [Host] in
theorem strValue_get (frame : Dict) (key : String) :
    strValue (some (sortKeys (get frame key))) = strValue (frame.lookup key) := by
  unfold get
  cases frame.lookup key with
  | none => simp [sortKeys, strValue]
  | some value => cases value <;> simp [sortKeys, strValue]

omit [Host] in
theorem stamped_iff : Stamped frame ↔ present (strValue (frame.lookup "occurred_at")) ≠ none := by
  unfold Stamped
  cases frame.lookup "occurred_at" with
  | none => simp [strValue, present]
  | some value => cases value <;> simp [strValue, present, Option.filter]

/-- The payload as it is read back. -/
def storedPayload (payload : Dict) : Dict :=
  (sortFields payload).mergeSort fun a b => decide (a.1 ≤ b.1)

/-- What a projected event with this payload says when it is read back. -/
def observation (event : DerivedEvent) (payload : Dict) (observedAt : String)
    (workspaceId : Option String) : TranslatedObservation :=
  { sourceEvent :=
      { sourceInstanceId := event.sourceInstanceId, bootId := event.bootId, seq := event.seq
        sourceEventId := event.sourceEventId, eventName := event.eventName
        sessionId := strValue (payload.lookup "session_id")
        bindingId := (observedMarker event.eventName payload).map (·.bindingId)
        markerSignature := (observedMarker event.eventName payload).map (·.signature) }
    payload, observedAt, workspaceId }

/-- Of its frame, the translation of a projected event asks for the time of observation only. -/
theorem translate_form (hframe : Decoded frame) (h : project source frame boot = .ok event)
    (hsafe : safePayload (frame.lookup "payload") = .ok payload) : translateDerivedEvent event =
      match present (strValue (frame.lookup "occurred_at")) with
      | none => .error (.receiptProducer "derived event has no observation timestamp")
      | some observedAt => .ok (observation event (storedPayload payload) observedAt
          (present (strValue (frame.lookup "workspace_id")))) := by
  obtain ⟨text, htext⟩ := hframe
  have hread := readable_of_loads htext
  obtain ⟨payload', hsafe', hjson⟩ := project_form h
  cases hsafe.symm.trans hsafe'
  have hkept := kept_safePayload hsafe fun value hvalue => readable_of_lookup hread hvalue
  have hloads : PyJson.loads event.eventJson =
      some (.obj (sortFields (projection frame event payload))) := by
    rw [hjson]
    exact loads_projection hread hkept
  have hidentity : eqStr ((sortFields (projection frame event payload)).lookup "boot_id")
        event.bootId ∧
      eqStr ((sortFields (projection frame event payload)).lookup "event_id")
        event.sourceEventId ∧
      eqStr ((sortFields (projection frame event payload)).lookup "name") event.eventName ∧
      eqInt ((sortFields (projection frame event payload)).lookup "seq") event.seq := by
    simp [lookup_sortFields, projection, List.lookup_cons, sortKeys, eqStr, eqInt]
  have htime : strValue ((sortFields (projection frame event payload)).lookup "occurred_at") =
      strValue (frame.lookup "occurred_at") := by
    rw [← strValue_get frame, lookup_sortFields]
    simp [projection, List.lookup_cons]
  have hworkspace : strValue ((sortFields (projection frame event payload)).lookup
      "workspace_id") = strValue (frame.lookup "workspace_id") := by
    rw [← strValue_get frame, lookup_sortFields]
    simp [projection, List.lookup_cons]
  have hpayload : projectedPayload (sortFields (projection frame event payload)) =
      storedPayload payload := by
    simp [projectedPayload, lookup_sortFields, projection, List.lookup_cons, sortKeys,
      storedPayload]
  unfold translateDerivedEvent
  rw [hloads]
  dsimp only
  rw [if_neg (not_not.mpr hidentity), htime, hpayload, hworkspace]
  cases present (strValue (frame.lookup "occurred_at")) <;> rfl

end Projection

/-- The events that a position still has to take in. -/
def Position.pending : Position → List DerivedEvent
  | .recovering events => events
  | .observing _ event | .committing _ event => [event]
  | _ => []

section Runs

variable [Host] (r : Resident)

/-- What the world may do when its sink returns and its events come from frames of this kind. -/
def Offers (kind : Dict → Prop) : Input → Prop
  | .proceed returns => returns = true
  | .frame (.ok (some frame)) => Decoded frame ∧
      ∀ boot event, project r.sourceInstanceId frame boot = .ok event → kind frame
  | _ => True

def Process.Offered (kind : Dict → Prop) (p : Process) (os : List Occurrence) (p' : Process) :
    Prop :=
  ∃ input, Offers r kind input ∧ p.next r input = some (p', os)

/-- What is stored and what is on its way has the property. -/
structure Carries (P : DerivedEvent → Prop) (p : Process) : Prop where
  stored : ∀ event ∈ p.outbox.outboxEvents r.sourceInstanceId, P event
  pending : ∀ tally position, p.phase = .running tally position →
    ∀ event ∈ position.pending, P event

variable {r} {p p' : Process} {os : List Occurrence} {input : Input} {P : DerivedEvent → Prop}

variable {config : EmitterConfig} {event : DerivedEvent} {s : ProducerState}

variable {o : Outbox}

theorem commits (r : Resident) {tally : Tally} {session : Session}
    {disposition : CommitDisposition} {outbox : Outbox}
    (hphase : p.phase = .running tally (.committing session event))
    (hcommit : p.outbox.commitEvent event session.gap = .ok (disposition, outbox))
    (kind : Dict → Prop) : Process.Offered r kind p [.committed event disposition]
      { p with
        outbox
        phase := .running (Process.account (tally.count disposition) session event).1
          (Process.account (tally.count disposition) session event).2 } := by
  refine ⟨.proceed true, rfl, ?_⟩
  simp only [Process.next, hphase, Process.commit, hcommit]

end Runs

end Yatagarasu.Cmux
