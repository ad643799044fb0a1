import Mathlib.Algebra.Group.Int.Defs
import Mathlib.Algebra.Group.Nat.Defs
import Mathlib.Logic.Function.Basic
import Yatagarasu.Cmux.StreamProtocol

/-! Each method is one transaction: it raises and leaves the tables as they were, or commits. -/

namespace Yatagarasu.Cmux

open PyJson

/-- One host-resident stream position; all three fields are identity. -/
structure EventCursor where
  sourceInstanceId : String
  bootId : String
  seq : Int
  deriving DecidableEq, Repr

def DerivedEvent.cursor (event : DerivedEvent) : EventCursor :=
  ⟨event.sourceInstanceId, event.bootId, event.seq⟩

/-- One literal command result used to rebuild state after a replay gap. -/
structure SnapshotBaseline where
  method : String
  snapshotJson : String
  deriving DecidableEq, Repr

inductive CommitDisposition
  | inserted
  | duplicate
  deriving DecidableEq, Repr

inductive AuditKind
  | gapResnapshot
  | reconnectReplay
  deriving DecidableEq, Repr

/-- A row of `stream_audit`. -/
structure StreamAudit where
  kind : AuditKind
  cursor : EventCursor
  detailJson : String
  deriving DecidableEq, Repr

/-- A row of `stream_snapshot_baseline`, without the time of its capture. -/
structure BaselineRow where
  cursor : EventCursor
  snapshotJson : String
  deriving DecidableEq, Repr

/-- The committed tables; rows are in insertion order. -/
structure Outbox where
  cursors : String → Option EventCursor := fun _ => none
  rows : List DerivedEvent := []
  audit : List StreamAudit := []
  baselines : String → String → Option BaselineRow := fun _ _ => none

/-- The driver's refusal of an integer that SQLite cannot store. -/
def overflowError : CmuxError :=
  .python (.raised "Python int too large to convert to SQLite INTEGER")

namespace Outbox

def cursor (o : Outbox) (sourceInstanceId : String) : Option EventCursor :=
  o.cursors sourceInstanceId

/-- Projected evidence in its original durable order. -/
def outboxEvents (o : Outbox) (sourceInstanceId : String) : List DerivedEvent :=
  o.rows.filter (·.sourceInstanceId = sourceInstanceId)

def upsertCursor (o : Outbox) (cursor : EventCursor) : Outbox :=
  { o with cursors := Function.update o.cursors cursor.sourceInstanceId (some cursor) }

def sameEvent (row event : DerivedEvent) : Bool :=
  row.sourceEventId = event.sourceEventId ∧ row.eventName = event.eventName ∧
    row.eventJson = event.eventJson

def validateEvent (event : DerivedEvent) : Except CmuxError Unit :=
  if event.sourceInstanceId = "" ∨ event.bootId = "" ∨ event.seq < 0 ∨
      event.sourceEventId = "" ∨ event.eventName = "" then
    .error (.outbox "source event identity is incomplete")
  else match PyJson.loads event.eventJson with
    | none => .error (.outbox "derived event is not valid JSON")
    | some (.obj _) => .ok ()
    | some _ => .error (.outbox "derived event must be a JSON object")

/-- An unseen event must come after the cursor, and change its boot only with permission. -/
def admitsUnseen (cursor : Option EventCursor) (event : DerivedEvent) (permitBootChange : Bool) :
    Except CmuxError Unit :=
  match cursor with
  | none => .ok ()
  | some cursor =>
    if cursor.bootId ≠ event.bootId ∧ ¬ permitBootChange then
      .error (.outbox "boot changed without a declared resume gap")
    else if cursor.bootId = event.bootId ∧ event.seq ≤ cursor.seq then
      .error (.outbox "unseen event does not advance the durable cursor")
    else .ok ()

def insertEvent (o : Outbox) (event : DerivedEvent) : Outbox :=
  { o with rows := o.rows ++ [event] }.upsertCursor event.cursor

/-- Commit the derived outbox row and cursor in one SQLite transaction. -/
def commitEvent (o : Outbox) (event : DerivedEvent) (permitBootChange : Bool) :
    Except CmuxError (CommitDisposition × Outbox) :=
  match validateEvent event with
  | .error e => .error e
  | .ok _ =>
    if event.seq ≥ 2 ^ 63 then .error overflowError
    else match o.rows.find? (·.cursor = event.cursor) with
      | some existing =>
        if sameEvent existing event then .ok (.duplicate, o)
        else .error (.outbox "cursor triple already names different evidence")
      | none =>
        if o.rows.any fun row => row.sourceInstanceId = event.sourceInstanceId ∧
            row.sourceEventId = event.sourceEventId then
          .error (.outbox "source event ID was replayed under a new cursor")
        else match admitsUnseen (o.cursor event.sourceInstanceId) event permitBootChange with
          | .error e => .error e
          | .ok _ => .ok (.inserted, o.insertEvent event)

def validateSnapshot (snapshot : SnapshotBaseline) : Except CmuxError Unit :=
  if snapshot.method = "" then .error (.outbox "gap recovery snapshot method is empty")
  else if (PyJson.loads snapshot.snapshotJson).isNone then
    .error (.outbox "gap recovery snapshot is not valid JSON")
  else .ok ()

def upsertBaseline (cursor : EventCursor) (o : Outbox) (snapshot : SnapshotBaseline) : Outbox :=
  { o with
    baselines := Function.update o.baselines cursor.sourceInstanceId
      (Function.update (o.baselines cursor.sourceInstanceId) snapshot.method
        (some ⟨cursor, snapshot.snapshotJson⟩)) }

def resnapshotDetail (snapshots : List SnapshotBaseline) (replayCount : Int) : String :=
  PyJson.dumps (.obj [("commands", .arr (snapshots.map fun snapshot => .str snapshot.method)),
    ("replay_count", .int replayCount)])

/-- The tables after the transaction of `recordResnapshot`. -/
def resnapshot (o : Outbox) (cursor : EventCursor) (snapshots : List SnapshotBaseline)
    (replayCount : Int) : Outbox :=
  let based := snapshots.foldl (upsertBaseline cursor) o
  let audited : Outbox := { based with
    audit := based.audit ++ [⟨.gapResnapshot, cursor, resnapshotDetail snapshots replayCount⟩] }
  audited.upsertCursor cursor

/-- The cursor of the same boot that a snapshot would move back. -/
def regresses (current : Option EventCursor) (cursor : EventCursor) : Bool :=
  match current with
  | some current => current.bootId = cursor.bootId ∧ cursor.seq < current.seq
  | none => false

/-- Record a completed gap snapshot and its new resume position atomically. -/
def recordResnapshot (o : Outbox) (cursor : EventCursor) (snapshots : List SnapshotBaseline)
    (replayCount : Int) : Except CmuxError Outbox :=
  if snapshots = [] then .error (.outbox "gap recovery requires literal snapshot commands")
  else if ¬ (snapshots.map (·.method)).Nodup then
    .error (.outbox "gap recovery snapshot commands must be unique")
  else match snapshots.forM validateSnapshot with
    | .error e => .error e
    | .ok _ =>
      if regresses (o.cursor cursor.sourceInstanceId) cursor then
        .error (.outbox "gap snapshot cannot regress the durable cursor")
      else if cursor.seq ≥ 2 ^ 63 ∨ cursor.seq < -2 ^ 63 then .error overflowError
      -- `CHECK (seq >= 0)`
      else if cursor.seq < 0 then .error (.python .integrityError)
      else .ok (o.resnapshot cursor snapshots replayCount)

def optionalInt : Option Int → Json
  | some n => .int n
  | none => .null

/-- Persist literal replay accounting without moving the proven cursor. -/
def recordReconnectReplay (o : Outbox) (cursor : EventCursor) (requestedAfterSeq : Option Int)
    (replayCount insertedCount duplicateCount : Int) (disconnectAtSeq : Option Int) :
    Except CmuxError Outbox :=
  if o.cursor cursor.sourceInstanceId ≠ some cursor then
    .error (.outbox "reconnect audit cursor is not the durable winner")
  else .ok { o with audit := o.audit ++ [⟨.reconnectReplay, cursor, PyJson.dumps (.obj
    [("duplicate_count", .int duplicateCount), ("inserted_count", .int insertedCount),
      ("replay_count", .int replayCount), ("requested_after_seq", optionalInt requestedAfterSeq),
      ("disconnect_at_seq", optionalInt disconnectAtSeq)])⟩] }

end Outbox

namespace Outbox

variable {o o' : Outbox} {event : DerivedEvent} {cursor : EventCursor} {permit : Bool}
  {snapshots : List SnapshotBaseline} {replayCount : Int}

theorem outboxEvents_insertEvent (o : Outbox) (event : DerivedEvent) (source : String) :
    (o.insertEvent event).outboxEvents source =
      o.outboxEvents source ++ if event.sourceInstanceId = source then [event] else [] := by
  simp only [insertEvent, upsertCursor, outboxEvents, List.filter_append, List.filter_cons,
    List.filter_nil, decide_eq_true_eq]

theorem cursor_insertEvent (o : Outbox) (event : DerivedEvent) :
    (o.insertEvent event).cursor event.sourceInstanceId = some event.cursor := by
  simp [insertEvent, upsertCursor, Outbox.cursor, DerivedEvent.cursor]

theorem eq_of_sameEvent {row : DerivedEvent} (hcursor : row.cursor = event.cursor)
    (hsame : sameEvent row event) : row = event := by
  obtain ⟨hid, hname, hjson⟩ : row.sourceEventId = event.sourceEventId ∧
      row.eventName = event.eventName ∧ row.eventJson = event.eventJson := by
    simpa [sameEvent] using hsame
  cases row
  cases event
  simp_all [DerivedEvent.cursor]

/-- What `commitEvent` did when it returned. -/
inductive Committed (o : Outbox) (event : DerivedEvent) (permit : Bool) :
    CommitDisposition → Outbox → Prop
  | duplicate : event ∈ o.rows → Committed o event permit .duplicate o
  | inserted : (∀ row ∈ o.rows, row.cursor ≠ event.cursor) →
      (∀ row ∈ o.rows, row.sourceInstanceId = event.sourceInstanceId →
        row.sourceEventId ≠ event.sourceEventId) →
      admitsUnseen (o.cursor event.sourceInstanceId) event permit = .ok () →
      Committed o event permit .inserted (o.insertEvent event)

theorem committed_of_ok {disposition : CommitDisposition}
    (h : o.commitEvent event permit = .ok (disposition, o')) :
    Committed o event permit disposition o' := by
  unfold commitEvent at h
  split at h
  · cases h
  split at h
  · cases h
  split at h
  · rename_i existing hfind
    split at h
    · rename_i hsame
      cases h
      have hrow : existing.cursor = event.cursor := by simpa using List.find?_some hfind
      exact .duplicate (eq_of_sameEvent hrow hsame ▸ List.mem_of_find?_eq_some hfind)
    · cases h
  · rename_i hunseen
    split at h
    · cases h
    rename_i hfresh
    split at h
    · cases h
    rename_i hadmits
    cases h
    refine .inserted (fun row hrow hcursor => ?_) (fun row hrow hsource hid => hfresh ?_) hadmits
    · exact List.find?_eq_none.mp hunseen row hrow (by simpa using hcursor)
    · exact List.any_eq_true.mpr ⟨row, hrow, by simpa using ⟨hsource, hid⟩⟩

theorem admitsUnseen_ok {cursor : EventCursor}
    (h : admitsUnseen (some cursor) event permit = .ok ()) :
    (cursor.bootId = event.bootId → cursor.seq < event.seq) ∧
      (permit = false → cursor.bootId = event.bootId) := by
  unfold admitsUnseen at h
  dsimp only at h
  split at h
  · cases h
  rename_i hboot
  split at h
  · cases h
  rename_i hseq
  refine ⟨fun heq => ?_, fun hpermit => ?_⟩
  · by_contra hle
    exact hseq ⟨heq, by omega⟩
  · by_contra hne
    exact hboot ⟨hne, by simp [hpermit]⟩

theorem recordResnapshot_ok_iff :
    o.recordResnapshot cursor snapshots replayCount = .ok o' ↔
    (snapshots ≠ [] ∧ (snapshots.map (·.method)).Nodup ∧
      snapshots.forM validateSnapshot = .ok () ∧
      regresses (o.cursor cursor.sourceInstanceId) cursor = false ∧
      0 ≤ cursor.seq ∧ cursor.seq < 2 ^ 63) ∧
    o' = o.resnapshot cursor snapshots replayCount := by
  constructor
  · intro h
    unfold recordResnapshot at h
    split at h
    · cases h
    rename_i hsome
    split at h
    · cases h
    rename_i hnodup
    split at h
    · cases h
    rename_i hvalid
    split at h
    · cases h
    rename_i hregresses
    split at h
    · cases h
    rename_i hsmall
    split at h
    · cases h
    rename_i hpositive
    cases h
    exact ⟨⟨hsome, not_not.mp hnodup, hvalid, by simpa using hregresses, by omega, by omega⟩, rfl⟩
  · rintro ⟨⟨hsome, hnodup, hvalid, hregresses, hpositive, hsmall⟩, rfl⟩
    unfold recordResnapshot
    rw [if_neg hsome, if_neg (not_not.mpr hnodup), hvalid]
    dsimp only
    rw [hregresses, if_neg (by decide), if_neg (by omega), if_neg (by omega)]

theorem foldl_upsertBaseline (cursor : EventCursor) (snapshots : List SnapshotBaseline)
    (o : Outbox) : (snapshots.foldl (upsertBaseline cursor) o).rows = o.rows ∧
      (snapshots.foldl (upsertBaseline cursor) o).audit = o.audit ∧
      (snapshots.foldl (upsertBaseline cursor) o).cursors = o.cursors := by
  induction snapshots generalizing o with
  | nil => exact ⟨rfl, rfl, rfl⟩
  | cons snapshot snapshots ih => exact ih (upsertBaseline cursor o snapshot)

@[simp] theorem rows_resnapshot : (o.resnapshot cursor snapshots replayCount).rows = o.rows :=
  (foldl_upsertBaseline cursor snapshots o).1

@[simp] theorem audit_resnapshot : (o.resnapshot cursor snapshots replayCount).audit =
    o.audit ++ [⟨.gapResnapshot, cursor, resnapshotDetail snapshots replayCount⟩] :=
  congrArg (· ++ [_]) (foldl_upsertBaseline cursor snapshots o).2.1

/-- A baseline that is not overwritten stays. -/
theorem baseline_foldl {method : String} {row : BaselineRow} (snapshots : List SnapshotBaseline)
    (o : Outbox) (hrow : o.baselines cursor.sourceInstanceId method = some row)
    (hcursor : row.cursor = cursor) : ∃ row,
      (snapshots.foldl (upsertBaseline cursor) o).baselines cursor.sourceInstanceId method =
        some row ∧ row.cursor = cursor := by
  induction snapshots generalizing o row with
  | nil => exact ⟨row, hrow, hcursor⟩
  | cons snapshot snapshots ih =>
    by_cases hmethod : method = snapshot.method
    · exact @ih ⟨cursor, snapshot.snapshotJson⟩ (upsertBaseline cursor o snapshot)
        (by simp [upsertBaseline, hmethod]) rfl
    · exact ih (upsertBaseline cursor o snapshot) (by simpa [upsertBaseline, hmethod] using hrow)
        hcursor

/-- Every snapshot of a recorded gap is the baseline of its method. -/
theorem baselines_resnapshot {snapshot : SnapshotBaseline} (h : snapshot ∈ snapshots) :
    ∃ row, (o.resnapshot cursor snapshots replayCount).baselines cursor.sourceInstanceId
      snapshot.method = some row ∧ row.cursor = cursor := by
  have hfold : ∀ o : Outbox, ∃ row, (snapshots.foldl (upsertBaseline cursor) o).baselines
      cursor.sourceInstanceId snapshot.method = some row ∧ row.cursor = cursor := by
    induction snapshots with
    | nil => cases h
    | cons first rest ih =>
      intro o
      rcases List.mem_cons.mp h with rfl | hrest
      · exact @baseline_foldl cursor snapshot.method ⟨cursor, snapshot.snapshotJson⟩ rest
          (upsertBaseline cursor o snapshot) (by simp [upsertBaseline]) rfl
      · exact ih hrest (upsertBaseline cursor o first)
  exact hfold o

theorem recordReconnectReplay_ok {requested disconnect : Option Int} {inserted duplicates : Int}
    (h : o.recordReconnectReplay cursor requested replayCount inserted duplicates disconnect =
      .ok o') : ∃ row, o' = { o with audit := o.audit ++ [row] } := by
  unfold recordReconnectReplay at h
  split at h
  · cases h
  cases h
  exact ⟨_, rfl⟩

end Outbox

end Yatagarasu.Cmux
