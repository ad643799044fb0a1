import Mathlib.Data.Rat.Defs
import Yatagarasu.Cmux.StreamProtocol
import Yatagarasu.Library.Durable
import Yatagarasu.Library.FirstSeen

/-! The record of intent that is committed before a pane is touched, one row per delivery. -/

namespace Yatagarasu.Cmux

/-- Lifecycle of one injection attempt. -/
inductive JournalState
  | prepared
  | injected
  | acked
  | ambiguous
  deriving DecidableEq, Repr

def JournalState.value : JournalState → String
  | .prepared => "prepared"
  | .injected => "injected"
  | .acked => "acked"
  | .ambiguous => "ambiguous"

/-- The lifecycle. `injected -> ambiguous` would downgrade a proven injection, and
`prepared -> acked` would skip the record that the effect fired. -/
def legalTransitions : JournalState → List JournalState
  | .prepared => [.injected, .ambiguous]
  | .injected => [.acked]
  | .acked | .ambiguous => []

/-- A float that is only stored. -/
inductive Timestamp
  | finite (seconds : ℚ)
  | infinite (positive : Bool)
  | nan
  deriving DecidableEq

namespace Timestamp

/-- The column of a float: the driver binds a NaN as `NULL`. -/
def stored : Timestamp → Option Timestamp
  | nan => none
  | time => some time

/-- `ORDER BY` on a column of floats. -/
def le : Timestamp → Timestamp → Bool
  | nan, _ => true
  | _, nan => false
  | infinite false, _ => true
  | _, infinite false => false
  | finite a, finite b => a ≤ b
  | _, infinite true => true
  | infinite true, finite _ => false

end Timestamp

structure JournalRow where
  deliveryId : String
  bindingId : String
  seatId : String
  marker : String
  state : JournalState
  preparedAt : Timestamp
  settledAt : Option Timestamp := none
  sourceEvents : List String := []
  detail : String := ""
  deriving DecidableEq

/-- The rows of `injection_journal`, in the order of their insertion. -/
abbrev InjectionJournal := List JournalRow

namespace InjectionJournal

def get (journal : InjectionJournal) (deliveryId : String) : Option JournalRow :=
  journal.find? (·.deliveryId = deliveryId)

/-- There is a row for the delivery. -/
def Holds (journal : InjectionJournal) (deliveryId : String) : Prop :=
  ∃ row ∈ journal, row.deliveryId = deliveryId

/-- The `INSERT` violates a constraint: the primary key is taken, or the timestamp is a NaN, which
the driver binds as `NULL`. -/
def Refuses (journal : InjectionJournal) (row : JournalRow) : Prop :=
  (journal.get row.deliveryId).isSome ∨ row.preparedAt = .nan

instance (journal : InjectionJournal) (row : JournalRow) : Decidable (journal.Refuses row) := by
  unfold Refuses
  infer_instance

/-- The message of the `JournalError` that a refused `INSERT` becomes. -/
def conflictMessage (journal : InjectionJournal) (deliveryId : String) : String :=
  "delivery " ++ deliveryId ++ " already journaled in state " ++
    ((journal.get deliveryId).map fun row => row.state.value).getD "unknown"

/-- Rows left at `prepared`, in preparation order. -/
def unsettled (journal : InjectionJournal) : List JournalRow :=
  (journal.filter (·.state = .prepared)).mergeSort fun a b => a.preparedAt.le b.preparedAt

end InjectionJournal

/-- The arguments of `prepare`. -/
structure PrepareCall where
  deliveryId : String
  bindingId : String
  seatId : String
  marker : String
  now : Timestamp

def PrepareCall.row (call : PrepareCall) : JournalRow :=
  { deliveryId := call.deliveryId, bindingId := call.bindingId, seatId := call.seatId
    marker := call.marker, state := .prepared, preparedAt := call.now }

/-- The arguments of `settle`. -/
structure SettleCall where
  deliveryId : String
  state : JournalState
  now : Timestamp
  sourceEvents : List String := []
  detail : String := ""

/-- The columns that the `UPDATE` of `settle` sets. -/
structure Settlement where
  state : JournalState
  settledAt : Option Timestamp
  sourceEvents : List String
  detail : String

def Settlement.apply (settlement : Settlement) (row : JournalRow) : JournalRow :=
  { row with
    state := settlement.state, settledAt := settlement.settledAt
    sourceEvents := settlement.sourceEvents, detail := settlement.detail }

/-- What `settle` makes of the row it read. Evidence is append-only, in first-seen order. -/
def SettleCall.over (call : SettleCall) (row : JournalRow) : Settlement where
  state := call.state
  settledAt := call.now.stored
  sourceEvents := FirstSeen.noteAll row.sourceEvents call.sourceEvents
  detail := if call.detail = "" then row.detail else call.detail

/-- The row stays in the call's state or may move to it. -/
def SettleCall.Legal (call : SettleCall) (row : JournalRow) : Prop :=
  row.state = call.state ∨ call.state ∈ legalTransitions row.state

instance (call : SettleCall) (row : JournalRow) : Decidable (call.Legal row) := by
  unfold SettleCall.Legal
  infer_instance

/-- The part of `settle` before its transaction: what it will write, from the row as it was read. -/
def SettleCall.plan (call : SettleCall) (row : Option JournalRow) : Except CmuxError Settlement :=
  if call.state = .prepared then
    .error (.journal "settle() cannot move a row back to prepared")
  else match row with
    | none => .error (.journal ("delivery " ++ call.deliveryId ++ " was never prepared"))
    | some row =>
      if call.Legal row then .ok (call.over row)
      else .error (.journal ("illegal transition " ++ row.state.value ++ " -> " ++
        call.state.value ++ " for delivery " ++ call.deliveryId))

namespace InjectionJournal

open Durable

/-- The `UPDATE` of `settle`. -/
def record (journal : InjectionJournal) (deliveryId : String) (settlement : Settlement) :
    InjectionJournal :=
  journal.map fun row => if row.deliveryId = deliveryId then settlement.apply row else row

/-- Record intent before the pane is touched; the row is read back. The uniqueness check is the
`INSERT` itself. -/
def prepare (journal : InjectionJournal) (call : PrepareCall) (ending : Ending CmuxError) :
    Except CmuxError (Option JournalRow) × InjectionJournal :=
  ending.transaction journal
    (if journal.Refuses call.row then .error (.journal (journal.conflictMessage call.deliveryId))
      else .ok ((journal ++ [call.row]).get call.deliveryId, journal ++ [call.row]))

/-- Move a prepared row to its outcome; the row is read back. -/
def settle (journal : InjectionJournal) (call : SettleCall) (ending : Ending CmuxError) :
    Except CmuxError (Option JournalRow) × InjectionJournal :=
  ending.transaction journal ((call.plan (journal.get call.deliveryId)).map fun settlement =>
    ((journal.record call.deliveryId settlement).get call.deliveryId,
      journal.record call.deliveryId settlement))

variable {journal : InjectionJournal} {row : JournalRow} {deliveryId : String}

theorem get_isSome_iff : (journal.get deliveryId).isSome ↔ journal.Holds deliveryId := by
  unfold get Holds
  rw [List.find?_isSome]
  simp

theorem holds_append {later : InjectionJournal} :
    InjectionJournal.Holds (journal ++ later) deliveryId ↔
      journal.Holds deliveryId ∨ later.Holds deliveryId := by
  unfold Holds
  simp only [List.mem_append, or_and_right, exists_or]

theorem holds_singleton : InjectionJournal.Holds [row] deliveryId ↔ row.deliveryId = deliveryId := by
  simp [Holds]

end InjectionJournal

end Yatagarasu.Cmux
