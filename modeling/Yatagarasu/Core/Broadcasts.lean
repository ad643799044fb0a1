import Yatagarasu.Core.Store

/-! Atomic room broadcast expansion and durable per-seat outcomes. -/

namespace Yatagarasu

open Sqlite

/-- The injected `id_factory`; the number counts the calls of one broadcast, so the factory may
return any text at any call, or raise. -/
abbrev IdFactory := Nat → String → Except PyError String

/-- The identifiers of one seat: delivery, attempt and the binding active when it was expanded. -/
structure Seat where
  deliveryId : String
  attemptId : String
  bindingId : Option String

namespace BroadcastKernel

/-- The active binding of a recipient, if its window holds the observation. -/
def activeSessionBindingFor [Host] (t : Tables) (recipientId observedAt : String) :
    Except PyError (Option SessionBindingRow) :=
  match t.activeSessionBindingFor recipientId with
  | none => .ok none
  | some row => do
    let observed ← parseTimestamp observedAt
    let established ← parseTimestamp row.establishedAt
    let expires ← parseTimestamp row.expiresAt
    return if established ≤ observed ∧ observed < expires then some row else none

def seats [Host] (ids : IdFactory) (acceptedAt : String) (t : Tables) :
    Nat → List String → Except PyError (List Seat)
  | _, [] => .ok []
  | n, recipientId :: rest => do
    let deliveryId ← ids n "delivery"
    let attemptId ← ids (n + 1) "attempt"
    let binding ← activeSessionBindingFor t recipientId acceptedAt
    let others ← seats ids acceptedAt t (n + 2) rest
    return { deliveryId, attemptId, bindingId := binding.map (·.bindingId) } :: others

/-- One session-bound delivery that is queued, and its place in the snapshot, per seat. -/
def insertSeats (broadcastId eventId : String) : Nat → List (String × Seat) → Block Unit
  | _, [] => pure ()
  | ordinal, (recipientId, seat) :: rest => do
    insert (Tables.insertDelivery
      { eventId, deliveryId := seat.deliveryId, attemptId := seat.attemptId
        bindingId := seat.bindingId, recipientId, deliveryMode := .sessionBound
        state := .queued, disposition := none })
    insert (Tables.insertBroadcastRecipient
      { broadcastId, recipientId, rosterOrdinal := ordinal, bindingId := seat.bindingId
        deliveryId := seat.deliveryId })
    insertSeats broadcastId eventId (ordinal + 1) rest

def expansion (actorId roomId content acceptedAt broadcastId eventId : String)
    (roster : List String) (rows : List Seat) : Block Unit := do
  insert (Tables.insertCanonicalEvent
    { eventId, actorId, roomId, content, acceptedAt, authorityScope })
  insert (Tables.insertBroadcast
    { broadcastId, eventId, roomId, rosterSnapshotSize := roster.length })
  insertSeats broadcastId eventId 0 (roster.zip rows)
  insert (Tables.insertBroadcastAudit
    { broadcastId, eventId, rosterSnapshotSize := roster.length })

/-- The body of the transaction, from the frozen roster on. -/
def expandBlock [Host] (ids : IdFactory)
    (actorId roomId content acceptedAt broadcastId eventId : String) : Block Unit := fun t =>
  let roster := (t.roomRoster roomId).filter (· ≠ actorId)
  if roster = [] then .error (.valueError "broadcast roster is empty")
  else match seats ids acceptedAt t 2 roster with
    | .error e => .error e
    | .ok rows =>
      if ¬ (rows.map (·.deliveryId)).Nodup then
        .error (.broadcastConflict "delivery ID collision during fan-out")
      else expansion actorId roomId content acceptedAt broadcastId eventId roster rows t

/-- A binding only explains a seat that was not handed to a transport yet. -/
def outcome (t : Tables) (row : BroadcastRecipientRow) (delivery : Delivery) : BroadcastOutcome :=
  let loadBearing := delivery.state = .queued ∨ delivery.state = .dispatching
  { recipientId := row.recipientId, deliveryId := row.deliveryId, bindingId := row.bindingId
    state := delivery.state, disposition := delivery.disposition
    unavailableReason :=
      if loadBearing ∧ row.bindingId = none then some "binding-absent"
      else if loadBearing ∧ (t.sessionBinding row.bindingId).map (·.state) ≠ some .active then
        some "binding-revoked-or-superseded"
      else none }

/-- The seats of one broadcast in roster order, joined with their deliveries. -/
def outcomes (t : Tables) (broadcastId : String) : List BroadcastOutcome :=
  let rows := (t.broadcastRecipients.filter (·.broadcastId = broadcastId)).mergeSort
    fun a b => decide (a.rosterOrdinal ≤ b.rosterOrdinal)
  rows.filterMap fun row => (t.getDelivery row.deliveryId).map (outcome t row)

def result (broadcastId : String) (t : Tables) : Except PyError BroadcastResult :=
  match t.broadcasts.find? (·.broadcastId = broadcastId) with
  | none => .error (.keyError broadcastId)
  | some header =>
    let rows := outcomes t broadcastId
    let conflict := PyError.broadcastConflict "broadcast snapshot is inconsistent"
    match t.broadcastAudit.find? (·.broadcastId = broadcastId) with
    | none => .error conflict
    | some audit =>
      if rows.length ≠ header.rosterSnapshotSize ∨ audit.eventId ≠ header.eventId ∨
          audit.rosterSnapshotSize ≠ header.rosterSnapshotSize then .error conflict
      else .ok {
        broadcastId, eventId := header.eventId, roomId := header.roomId
        rosterSnapshotSize := header.rosterSnapshotSize, outcomes := rows
        allDelivered := rows ≠ [] ∧ ∀ row ∈ rows, row.state = .transportSubmitted ∨
          row.state = .inSession ∨ row.state = .processed }

/-- Create one event, freeze one roster, and expand one delivery per seat. -/
def broadcast [Host] (ids : IdFactory) (actorId roomId content acceptedAt : String) :
    Method BroadcastResult := do
  if actorId = "" ∨ roomId = "" ∨ content = "" then
    throw (.valueError "actor, room, and content must not be empty")
  else
    let _ ← CoreStore.query fun _ => parseTimestamp acceptedAt
    let broadcastId ← CoreStore.query fun _ => ids 0 "broadcast"
    let eventId ← CoreStore.query fun _ => ids 1 "event"
    CoreStore.onIntegrityError
      (withImmediate (expandBlock ids actorId roomId content acceptedAt broadcastId eventId))
      (.broadcastConflict "broadcast expansion was rolled back")
    CoreStore.query (result broadcastId)

end BroadcastKernel

end Yatagarasu
