import Mathlib.Data.List.Sort
import Yatagarasu.Cmux.Journal
import Yatagarasu.Library.Interference

/-! A table of banners beside the list that CMUX keeps. Every statement on the table and every
command to CMUX is a step of its own. -/

namespace Yatagarasu.Cmux

open PyJson

/-- What the lifecycle takes from the Python runtime: the hex digest of SHA-256, and the sum of two
floats. -/
class NotificationHost where
  sha256Hex : String → String
  sha256Hex_length : ∀ text, (sha256Hex text).length = 64
  addFloat : Timestamp → Timestamp → Timestamp

inductive NotificationState
  | prepared
  | active
  | dismissed
  | expired
  | evicted
  deriving DecidableEq, Repr

def NotificationState.value : NotificationState → String
  | .prepared => "prepared"
  | .active => "active"
  | .dismissed => "dismissed"
  | .expired => "expired"
  | .evicted => "evicted"

def NotificationState.Live (state : NotificationState) : Prop :=
  state = .prepared ∨ state = .active

instance (state : NotificationState) : Decidable state.Live := by
  unfold NotificationState.Live
  infer_instance

/-- A row of `notification_lifecycle`. -/
structure NotificationRow where
  eventId : String
  deliveryId : String
  seatId : String
  notificationId : Option String := none
  workspaceId : String
  surfaceId : String
  correlationToken : String
  title : String
  subtitle : String
  body : String
  state : NotificationState := .prepared
  createdAt : Timestamp
  expiresAt : Timestamp
  retiredReason : Option String := none
  deriving DecidableEq

structure NotificationRecord where
  eventId : String
  deliveryId : String
  seatId : String
  notificationId : String
  workspaceId : String
  surfaceId : String
  correlationToken : String
  createdAt : Timestamp
  expiresAt : Timestamp
  deriving DecidableEq

/-- A notification as CMUX lists it. -/
structure Banner where
  id : String
  workspaceId : String
  surfaceId : String
  title : String
  subtitle : String
  body : String
  deriving DecidableEq

/-- The arguments of `publish`. -/
structure NotificationClaim where
  eventId : String
  deliveryId : String
  seatId : String
  workspaceId : String
  surfaceId : String
  title : String
  body : String
  subtitle : String := ""
  deriving DecidableEq

/-- The settings of one `NotificationLifecycle`. -/
structure NotificationLifecycle where
  perSeatCap : Nat
  mailboxTtl : Timestamp

inductive NotificationError
  | lifecycle (message : String)
  | streamProtocol
  | integrityError
  | assertion
  /-- Any other exception of the client or of the database. -/
  | other
  deriving DecidableEq

inductive NotificationRequest
  | list
  | create (row : NotificationRow)
  | dismiss (id : String)
  | insert (row : NotificationRow)
  | activate (deliveryId notificationId : String)
  | retire (deliveryId reason : String) (state : NotificationState)

/-- The request is a command to CMUX. -/
def NotificationRequest.IsCommand : NotificationRequest → Prop
  | .list | .create _ | .dismiss _ => True
  | .insert _ | .activate _ _ | .retire _ _ _ => False

/-- What a request comes to; `done` is a result that nobody reads. -/
inductive NotificationReply
  | returned (result : Json)
  | done
  | streamProtocolError
  | integrityError
  | otherError

/-- The rows in the order of their insertion, and the live banners. -/
structure NotificationDesk where
  rows : List NotificationRow := []
  banners : List Banner := []

def NotificationRow.banner (row : NotificationRow) (id : String) : Banner :=
  { id, workspaceId := row.workspaceId, surfaceId := row.surfaceId, title := row.title
    subtitle := row.subtitle, body := row.body }

/-- The banner as an item of the list. -/
def Banner.item (banner : Banner) : Dict :=
  [("id", .str banner.id), ("workspace_id", .str banner.workspaceId),
    ("surface_id", .str banner.surfaceId), ("title", .str banner.title),
    ("subtitle", .str banner.subtitle), ("body", .str banner.body)]

/-- What `notification.list` returns. -/
def listing (banners : List Banner) : Json :=
  .obj [("notifications", .arr (banners.map fun banner => .obj banner.item))]

namespace NotificationDesk

/-- The `INSERT` violates a constraint: the delivery or the token is taken, or a time is a NaN. -/
def Refuses (rows : List NotificationRow) (row : NotificationRow) : Prop :=
  (∃ old ∈ rows, old.deliveryId = row.deliveryId ∨ old.correlationToken = row.correlationToken) ∨
    row.createdAt = .nan ∨ row.expiresAt = .nan

instance (rows : List NotificationRow) (row : NotificationRow) : Decidable (Refuses rows row) := by
  unfold Refuses
  infer_instance

/-- `UPDATE … SET notification_id = ?, state = 'active' WHERE … AND state = 'prepared'` -/
def activate (rows : List NotificationRow) (deliveryId notificationId : String) :
    List NotificationRow :=
  rows.map fun row =>
    if row.deliveryId = deliveryId ∧ row.state = .prepared then
      { row with notificationId := some notificationId, state := .active }
    else row

/-- The `UPDATE` would give two rows one notification. -/
def Taken (rows : List NotificationRow) (deliveryId notificationId : String) : Prop :=
  (∃ row ∈ rows, row.deliveryId = deliveryId ∧ row.state = .prepared) ∧
    ∃ row ∈ rows, row.deliveryId ≠ deliveryId ∧ row.notificationId = some notificationId

instance (rows : List NotificationRow) (deliveryId notificationId : String) :
    Decidable (Taken rows deliveryId notificationId) := by
  unfold Taken
  infer_instance

def retire (rows : List NotificationRow) (deliveryId reason : String) (state : NotificationState) :
    List NotificationRow :=
  rows.map fun row =>
    if row.deliveryId = deliveryId then { row with state, retiredReason := some reason } else row

/-- How a request may be served. A command is applied as a whole, or not at all; either way its
reply may be lost, which the client reports as an error. -/
inductive Serves : NotificationRequest → NotificationDesk → NotificationReply → NotificationDesk →
    Prop
  | list {desk} : Serves .list desk (.returned (listing desk.banners)) desk
  | create {desk row id reply} : (∀ banner ∈ desk.banners, banner.id ≠ id) →
      reply ∈ [.done, .streamProtocolError, .otherError] →
      Serves (.create row) desk reply { desk with banners := desk.banners ++ [row.banner id] }
  | dismiss {desk id reply} : (∃ banner ∈ desk.banners, banner.id = id) →
      reply ∈ [.done, .streamProtocolError, .otherError] →
      Serves (.dismiss id) desk reply
        { desk with banners := desk.banners.filter fun banner => banner.id ≠ id }
  | reject {desk request} : request.IsCommand → Serves request desk .streamProtocolError desk
  | fail {desk request} : Serves request desk .otherError desk
  | insert {desk row} : ¬ Refuses desk.rows row →
      Serves (.insert row) desk .done { desk with rows := desk.rows ++ [row] }
  | refuse {desk row} : Refuses desk.rows row → Serves (.insert row) desk .integrityError desk
  | activate {desk deliveryId notificationId} : ¬ Taken desk.rows deliveryId notificationId →
      Serves (.activate deliveryId notificationId) desk .done
        { desk with rows := activate desk.rows deliveryId notificationId }
  | taken {desk deliveryId notificationId} : Taken desk.rows deliveryId notificationId →
      Serves (.activate deliveryId notificationId) desk .integrityError desk
  | retire {desk deliveryId reason state} : Serves (.retire deliveryId reason state) desk .done
      { desk with rows := retire desk.rows deliveryId reason state }

/-- Of its own accord only the user acts, who dismisses banners. -/
def world :
    World (List NotificationRow) NotificationRequest NotificationReply NotificationDesk where
  view := rows
  serves := Serves
  drifts desk desk' := desk'.rows = desk.rows ∧ desk'.banners.Sublist desk.banners
  drifts_refl _ := ⟨rfl, List.Sublist.refl _⟩
  drifts_trans h h' := ⟨h'.1.trans h.1, h'.2.trans h.2⟩

/-- How a request may be answered by any client. A command may come to anything that a call can
return or raise, and the table is served as above. -/
inductive Answers : NotificationRequest → List NotificationRow → NotificationReply →
    List NotificationRow → Prop
  | command {request rows reply} : request.IsCommand → reply ≠ .integrityError →
      Answers request rows reply rows
  | statement {request desk reply desk'} : ¬ request.IsCommand → Serves request desk reply desk' →
      Answers request desk.rows reply desk'.rows

end NotificationDesk

abbrev NotificationScript (α : Type) :=
  Raising NotificationError (List NotificationRow) NotificationRequest NotificationReply α

section Lifecycle

open Raising

/-- A command that has nothing to return. -/
def command (request : NotificationRequest) : NotificationScript Unit := do
  match ← send request with
  | .streamProtocolError => throw .streamProtocol
  | .otherError => throw .other
  | .integrityError => throw .integrityError
  | .returned _ | .done => pure ()

/-- `self.client.call("notification.list", {})` -/
def callList : NotificationScript Json := do
  match ← send .list with
  | .returned result => pure result
  | .streamProtocolError => throw .streamProtocol
  | .otherError | .integrityError | .done => throw .other

/-- The items of a result that is an object with a list of notifications. -/
def listedItems : Json → Option (List Json)
  | .obj fields =>
    match fields.lookup "notifications" with
    | some (.arr items) => some items
    | _ => none
  | _ => none

/-- The items that are objects. -/
def dictItems (items : List Json) : List Dict :=
  items.filterMap fun
    | .obj fields => some fields
    | _ => none

def rowForDelivery (deliveryId : String) : NotificationScript (Option NotificationRow) :=
  fetch fun rows => rows.find? (·.deliveryId = deliveryId)

def NotificationRow.matchesItem (row : NotificationRow) (item : Dict) : Bool :=
  eqStr (item.lookup "workspace_id") row.workspaceId &&
    eqStr (item.lookup "surface_id") row.surfaceId && eqStr (item.lookup "subtitle") row.subtitle

def matchingNotifications (row : NotificationRow) : NotificationScript (List Dict) := do
  match listedItems (← callList) with
  | none => throw (.lifecycle "notification_list_shape_invalid")
  | some items => pure ((dictItems items).filter row.matchesItem)

/-- A result of another shape lists nothing. -/
def notificationExists (notificationId : String) : NotificationScript Bool := do
  match listedItems (← callList) with
  | none => pure false
  | some items => pure ((dictItems items).any fun item => eqStr (item.lookup "id") notificationId)

/-- Dismiss a banner, which may be gone already. -/
def dismissNotification (notificationId : String) : NotificationScript Unit := do
  match ← send (.dismiss notificationId) with
  | .streamProtocolError =>
    if ← notificationExists notificationId then throw .streamProtocol else pure ()
  | .otherError => throw .other
  | .integrityError => throw .integrityError
  | .returned _ | .done => pure ()

def dismissAll : List String → NotificationScript Unit
  | [] => pure ()
  | notificationId :: rest => do
    dismissNotification notificationId
    dismissAll rest

/-- The id of an item, if it is a text. -/
def itemId (item : Dict) : Option String :=
  match item.lookup "id" with
  | some (.str id) => some id
  | _ => none

/-- The recorded notification of a row, or else every banner that matches it. -/
def notificationIds (row : NotificationRow) : NotificationScript (List String) :=
  match row.notificationId with
  | some notificationId =>
    if notificationId = "" then do return (← matchingNotifications row).filterMap itemId
    else pure [notificationId]
  | none => do return (← matchingNotifications row).filterMap itemId

def retireDelivery (deliveryId reason : String) (state : NotificationState) :
    NotificationScript Bool := do
  match ← rowForDelivery deliveryId with
  | none => pure false
  | some row =>
    if row.state.Live then do
      let ids ← notificationIds row
      dismissAll ids
      command (.retire deliveryId reason state)
      pure true
    else pure false

def retireAll (reason : String) (state : NotificationState) :
    List String → NotificationScript Unit
  | [] => pure ()
  | deliveryId :: rest => do
    let _ ← retireDelivery deliveryId reason state
    retireAll reason state rest

/-- `ORDER BY created_at, event_id` -/
def NotificationRow.Before (a b : NotificationRow) : Prop :=
  if a.createdAt = b.createdAt then ¬ b.eventId < a.eventId else a.createdAt.le b.createdAt

instance : DecidableRel NotificationRow.Before := by
  intro a b
  unfold NotificationRow.Before
  infer_instance

def inOrder (rows : List NotificationRow) : List NotificationRow :=
  rows.insertionSort NotificationRow.Before

def expiredDeliveries (now : Timestamp) (rows : List NotificationRow) : List String :=
  (inOrder (rows.filter fun row => row.state.Live ∧ row.expiresAt.le now)).map (·.deliveryId)

def expire (now : Timestamp) : NotificationScript Nat := do
  let deliveries ← fetch (expiredDeliveries now)
  retireAll "expired" .expired deliveries
  pure deliveries.length

def activeOn (seatId : String) (rows : List NotificationRow) : List NotificationRow :=
  rows.filter fun row => row.seatId = seatId ∧ row.state = .active

/-- The deliveries that a seat has beyond its cap, the oldest first. -/
def excessDeliveries (perSeatCap : Nat) (seatId keepDeliveryId : String)
    (rows : List NotificationRow) : List String :=
  let active := inOrder (activeOn seatId rows)
  ((active.filter (·.deliveryId ≠ keepDeliveryId)).take (active.length - perSeatCap)).map
    (·.deliveryId)

def enforceCap (perSeatCap : Nat) (seatId keepDeliveryId : String) : NotificationScript Unit := do
  let deliveries ← fetch (excessDeliveries perSeatCap seatId keepDeliveryId)
  retireAll "per-seat-cap" .evicted deliveries

def recordOf (row : NotificationRow) : NotificationScript NotificationRecord :=
  match row.notificationId with
  | none => throw (.lifecycle "notification_not_active")
  | some notificationId => pure
    { eventId := row.eventId, deliveryId := row.deliveryId, seatId := row.seatId, notificationId
      workspaceId := row.workspaceId, surfaceId := row.surfaceId
      correlationToken := row.correlationToken, createdAt := row.createdAt
      expiresAt := row.expiresAt }

variable [NotificationHost]

namespace NotificationClaim

def token (claim : NotificationClaim) : String :=
  "YGR-" ++ String.ofList ((NotificationHost.sha256Hex
    (claim.eventId ++ "\x00" ++ claim.deliveryId)).toList.take 16)

def displaySubtitle (claim : NotificationClaim) : String :=
  if claim.subtitle = "" then claim.token else claim.subtitle ++ " · " ++ claim.token

/-- The row was prepared for the same arguments. -/
def Same (claim : NotificationClaim) (row : NotificationRow) : Prop :=
  row.eventId = claim.eventId ∧ row.deliveryId = claim.deliveryId ∧ row.seatId = claim.seatId ∧
    row.workspaceId = claim.workspaceId ∧ row.surfaceId = claim.surfaceId ∧
    row.title = claim.title ∧ row.subtitle = claim.displaySubtitle ∧ row.body = claim.body

instance (claim : NotificationClaim) (row : NotificationRow) : Decidable (claim.Same row) := by
  unfold Same
  infer_instance

def row (claim : NotificationClaim) (lifecycle : NotificationLifecycle) (now : Timestamp) :
    NotificationRow :=
  { eventId := claim.eventId, deliveryId := claim.deliveryId, seatId := claim.seatId
    workspaceId := claim.workspaceId, surfaceId := claim.surfaceId
    correlationToken := claim.token, title := claim.title, subtitle := claim.displaySubtitle
    body := claim.body, createdAt := now
    expiresAt := NotificationHost.addFloat now lifecycle.mailboxTtl }

end NotificationClaim

def assertSameClaim (claim : NotificationClaim) (row : NotificationRow) : NotificationScript Unit :=
  if claim.Same row then pure () else throw (.lifecycle "event_id_claim_contradiction")

def preparedRow (deliveryId : String) : NotificationScript NotificationRow := do
  match ← rowForDelivery deliveryId with
  | none => throw .assertion
  | some row => pure row

/-- Insert the row of a new delivery; a constraint may show that another writer was first. -/
def prepareRow (lifecycle : NotificationLifecycle) (now : Timestamp) (claim : NotificationClaim) :
    NotificationScript NotificationRow := do
  match ← send (.insert (claim.row lifecycle now)) with
  | .integrityError =>
    match ← rowForDelivery claim.deliveryId with
    | none => throw (.lifecycle "notification_claim_conflict")
    | some winner => assertSameClaim claim winner
  | .streamProtocolError | .otherError => throw .other
  | .returned _ | .done => pure ()
  preparedRow claim.deliveryId

/-- Put up the banner of a prepared row, unless it is there already. -/
def showBanner (row : NotificationRow) : NotificationScript (List Dict) := do
  let found ← matchingNotifications row
  if found = [] then do
    command (.create row)
    matchingNotifications row
  else pure found

/-- Record the banner of a prepared row, and evict what the seat has too many of. -/
def activateRow (lifecycle : NotificationLifecycle) (row : NotificationRow) (found : List Dict) :
    NotificationScript NotificationRecord :=
  match found with
  | [item] =>
    match (itemId item).filter (· ≠ "") with
    | none => throw (.lifecycle "notification_id_missing")
    | some notificationId => do
      command (.activate row.deliveryId notificationId)
      enforceCap lifecycle.perSeatCap row.seatId row.deliveryId
      match ← rowForDelivery row.deliveryId with
      | none => throw .assertion
      | some active => recordOf active
  | _ => throw (.lifecycle
    ("notification_correlation_ambiguous:" ++ toString found.length))

def publish (lifecycle : NotificationLifecycle) (now : Timestamp) (claim : NotificationClaim) :
    NotificationScript NotificationRecord := do
  let _ ← expire now
  match ← rowForDelivery claim.deliveryId with
  | some row =>
    assertSameClaim claim row
    if row.state = .active then recordOf row
    else if row.state ≠ .prepared then
      throw (.lifecycle ("event already retired: " ++ row.state.value))
    else do
      let found ← showBanner row
      activateRow lifecycle row found
  | none => do
    let row ← prepareRow lifecycle now claim
    let found ← showBanner row
    activateRow lifecycle row found

def inSessionEvidence : List String := ["harness.prompt_accepted", "harness.turn_started"]

/-- The arguments of `on_receipt`. -/
structure ReceiptNotice where
  eventId : String
  deliveryId : String
  status : String
  state : String
  evidenceClass : String

/-- Dismiss only an accepted receipt that proves authoritative entry. -/
def onReceipt (notice : ReceiptNotice) : NotificationScript Bool :=
  if notice.status ≠ "accepted" ∨ notice.state ≠ "in-session" ∨
      notice.evidenceClass ∉ inSessionEvidence then
    pure false
  else do
    match ← rowForDelivery notice.deliveryId with
    | none => pure false
    | some row =>
      if row.eventId ≠ notice.eventId then pure false
      else retireDelivery notice.deliveryId "in-session-receipt" .dismissed

/-- Treat an exact CMUX mark-read event as explicit user acknowledgement. -/
def onNotificationRead (notificationId : String) : NotificationScript Bool := do
  match ← fetch (List.find? fun row : NotificationRow =>
    row.notificationId = some notificationId ∧ row.state = .active) with
  | none => pure false
  | some row => retireDelivery row.deliveryId "explicit-mark-read" .dismissed

inductive NotificationOperation
  | publish (lifecycle : NotificationLifecycle) (now : Timestamp) (claim : NotificationClaim)
  | onReceipt (notice : ReceiptNotice)
  | onNotificationRead (notificationId : String)
  | expire (now : Timestamp)

def NotificationOperation.program : NotificationOperation →
    Program (List NotificationRow) NotificationRequest NotificationReply Unit
  | .publish lifecycle now claim => do let _ ← (Cmux.publish lifecycle now claim).run
  | .onReceipt notice => do let _ ← (Cmux.onReceipt notice).run
  | .onNotificationRead notificationId => do let _ ← (Cmux.onNotificationRead notificationId).run
  | .expire now => do let _ ← (Cmux.expire now).run

end Lifecycle

end Yatagarasu.Cmux
