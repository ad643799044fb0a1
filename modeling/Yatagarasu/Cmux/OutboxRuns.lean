import Mathlib.Data.List.Infix
import Yatagarasu.Cmux.EventOutbox
import Yatagarasu.Library.Durable

/-! Any sequence of calls for any number of sources, returning or raising: the rows only grow, and
the cursor of a source stays in front of the rows of its boot. -/

namespace Yatagarasu.Cmux

open Durable Outbox

inductive OutboxCall
  | commitEvent (event : DerivedEvent) (permitBootChange : Bool)
  | recordResnapshot (cursor : EventCursor) (snapshots : List SnapshotBaseline) (replayCount : Int)
  | recordReconnectReplay (cursor : EventCursor) (requestedAfterSeq : Option Int)
      (replayCount insertedCount duplicateCount : Int) (disconnectAtSeq : Option Int)

/-- A call, and what the file system lets its transaction do. -/
structure OutboxAttempt where
  call : OutboxCall
  ending : Ending CmuxError

def OutboxCall.source : OutboxCall → String
  | commitEvent event _ => event.sourceInstanceId
  | recordResnapshot cursor _ _ => cursor.sourceInstanceId
  | recordReconnectReplay cursor _ _ _ _ _ => cursor.sourceInstanceId

/-- A duplicate is committed without a sync. -/
def unsyncedDuplicate (ending : Ending CmuxError) :
    Except CmuxError (CommitDisposition × Outbox) → Ending CmuxError
  | .ok (.duplicate, _) =>
    match ending with
    | .rolledBack e => .rolledBack e
    | _ => .synced
  | _ => ending

namespace OutboxAttempt

def exec (a : OutboxAttempt) (o : Outbox) : Except CmuxError (Option CommitDisposition) × Outbox :=
  match a.call with
  | .commitEvent event permit =>
    (unsyncedDuplicate a.ending (o.commitEvent event permit)).transaction o
      ((o.commitEvent event permit).map fun committed => (some committed.1, committed.2))
  | .recordResnapshot cursor snapshots replayCount =>
    a.ending.transaction o
      ((o.recordResnapshot cursor snapshots replayCount).map fun recorded => (none, recorded))
  | .recordReconnectReplay cursor requested replayed inserted duplicates disconnect =>
    a.ending.transaction o
      ((o.recordReconnectReplay cursor requested replayed inserted duplicates disconnect).map
        fun recorded => (none, recorded))

/-- The call passes every check and writes, so that it syncs the directory. -/
def Syncs (a : OutboxAttempt) (o : Outbox) : Prop :=
  match a.call with
  | .commitEvent event permit => validateEvent event = .ok () ∧ event.seq < 2 ^ 63 ∧
      (∀ row ∈ o.rows, row.cursor ≠ event.cursor) ∧
      (∀ row ∈ o.rows, row.sourceInstanceId = event.sourceInstanceId →
        row.sourceEventId ≠ event.sourceEventId) ∧
      admitsUnseen (o.cursor event.sourceInstanceId) event permit = .ok ()
  | .recordResnapshot cursor snapshots _ => snapshots ≠ [] ∧ (snapshots.map (·.method)).Nodup ∧
      snapshots.forM validateSnapshot = .ok () ∧
      regresses (o.cursor cursor.sourceInstanceId) cursor = false ∧
      0 ≤ cursor.seq ∧ cursor.seq < 2 ^ 63
  | .recordReconnectReplay cursor _ _ _ _ _ => o.cursor cursor.sourceInstanceId = some cursor

end OutboxAttempt

/-- The outbox after a sequence of calls on an empty one. -/
def outboxAfter (attempts : List OutboxAttempt) : Outbox :=
  attempts.foldl (fun o a => (a.exec o).2) {}

theorem outboxAfter_concat (attempts : List OutboxAttempt) (a : OutboxAttempt) :
    outboxAfter (attempts ++ [a]) = (a.exec (outboxAfter attempts)).2 := by
  simp [outboxAfter]

section Transactions

variable {o o' : Outbox} {event : DerivedEvent} {cursor : EventCursor} {permit : Bool}
  {snapshots : List SnapshotBaseline} {replayCount : Int} {source : String}

theorem commitEvent_inserted_iff : o.commitEvent event permit = .ok (.inserted, o') ↔
    (validateEvent event = .ok () ∧ event.seq < 2 ^ 63 ∧
      (∀ row ∈ o.rows, row.cursor ≠ event.cursor) ∧
      (∀ row ∈ o.rows, row.sourceInstanceId = event.sourceInstanceId →
        row.sourceEventId ≠ event.sourceEventId) ∧
      admitsUnseen (o.cursor event.sourceInstanceId) event permit = .ok ()) ∧
    o' = o.insertEvent event := by
  constructor
  · intro h
    have hvalid : validateEvent event = .ok () ∧ event.seq < 2 ^ 63 := by
      unfold commitEvent at h
      split at h
      · cases h
      rename_i hvalid
      split at h
      · cases h
      rename_i hseq
      exact ⟨hvalid, by omega⟩
    cases committed_of_ok h with
    | inserted hunseen hfresh hadmits =>
      exact ⟨⟨hvalid.1, hvalid.2, hunseen, hfresh, hadmits⟩, rfl⟩
  · rintro ⟨⟨hvalid, hseq, hunseen, hfresh, hadmits⟩, rfl⟩
    have hfind : o.rows.find? (·.cursor = event.cursor) = none := by
      apply List.find?_eq_none.mpr
      intro row hrow
      simpa using hunseen row hrow
    have hany : (o.rows.any fun row => row.sourceInstanceId = event.sourceInstanceId ∧
        row.sourceEventId = event.sourceEventId) = false := by
      apply List.any_eq_false.mpr
      intro row hrow
      simpa using hfresh row hrow
    unfold commitEvent
    rw [hvalid]
    dsimp only
    rw [if_neg (by omega), hfind]
    dsimp only
    rw [hany, hadmits]
    rfl

theorem cursor_resnapshot : (o.resnapshot cursor snapshots replayCount).cursor source =
    if source = cursor.sourceInstanceId then some cursor else o.cursor source := by
  have hcursors := (foldl_upsertBaseline cursor snapshots o).2.2
  unfold resnapshot Outbox.cursor upsertCursor
  simp only [hcursors, Function.update_apply]

theorem cursor_insertEvent_other (h : source ≠ event.sourceInstanceId) :
    (o.insertEvent event).cursor source = o.cursor source := by
  simp [insertEvent, upsertCursor, Outbox.cursor, DerivedEvent.cursor, h]

theorem mem_rows_of_duplicate (h : o.commitEvent event permit = .ok (.duplicate, o')) :
    event ∈ o.rows ∧ o' = o := by
  cases committed_of_ok h with
  | duplicate hmem => exact ⟨hmem, rfl⟩

end Transactions

/-- What every reachable outbox satisfies. -/
structure Outbox.Sound (o : Outbox) : Prop where
  valid : ∀ row ∈ o.rows, validateEvent row = .ok () ∧ row.seq < 2 ^ 63
  keys : (o.rows.map (·.cursor)).Nodup
  ids : (o.rows.map fun row => (row.sourceInstanceId, row.sourceEventId)).Nodup

/-- A row that is stored is committed again as a duplicate. -/
theorem commitEvent_stored {o : Outbox} {event : DerivedEvent} (h : o.Sound) (permit : Bool)
    (hevent : event ∈ o.rows) : o.commitEvent event permit = .ok (.duplicate, o) := by
  obtain ⟨hvalid, hseq⟩ := h.valid event hevent
  cases hfind : o.rows.find? (·.cursor = event.cursor) with
  | none => simpa using List.find?_eq_none.mp hfind event hevent
  | some existing =>
    have hcursor : existing.cursor = event.cursor := by simpa using List.find?_some hfind
    have hsame : existing = event :=
      List.inj_on_of_nodup_map h.keys (List.mem_of_find?_eq_some hfind) hevent hcursor
    unfold commitEvent
    rw [hvalid]
    dsimp only
    rw [if_neg (by omega), hfind]
    simp [sameEvent, hsame]

namespace OutboxAttempt

variable {a : OutboxAttempt} {o o' : Outbox} {result : Except CmuxError (Option CommitDisposition)}

/-- A call that has committed returns, unless its directory cannot be opened. -/
def Concluded (a : OutboxAttempt) (result : Except CmuxError (Option CommitDisposition))
    (disposition : Option CommitDisposition) : Prop :=
  result = .ok disposition ∨ ∃ e, a.ending = .unsynced e ∧ result = .error e

theorem exec_cases (h : a.exec o = (result, o')) :
    (o' = o ∧ ∃ e, result = .error e) ∨
    (o' = o ∧ result = .ok (some .duplicate) ∧
      ∃ event permit, a.call = .commitEvent event permit ∧ event ∈ o.rows) ∨
    (∃ event permit, a.call = .commitEvent event permit ∧ a.Syncs o ∧
      o' = o.insertEvent event ∧ a.Concluded result (some .inserted)) ∨
    (∃ cursor snapshots replayCount, a.call = .recordResnapshot cursor snapshots replayCount ∧
      a.Syncs o ∧ o' = o.resnapshot cursor snapshots replayCount ∧ a.Concluded result none) ∨
    (∃ cursor requested replayed inserted duplicates disconnect row,
      a.call = .recordReconnectReplay cursor requested replayed inserted duplicates disconnect ∧
      a.Syncs o ∧ o' = { o with audit := o.audit ++ [row] } ∧ a.Concluded result none) := by
  unfold exec at h
  unfold Syncs
  cases hcall : a.call with
  | commitEvent event permit =>
    simp only [hcall] at h
    rcases Ending.transaction_cases _ h with hnothing | ⟨value, hbody, hresult⟩
    · exact Or.inl hnothing
    · cases hcommit : o.commitEvent event permit with
      | error e =>
        rw [hcommit] at hbody
        cases hbody
      | ok committed =>
        obtain ⟨disposition, after⟩ := committed
        rw [hcommit] at hbody hresult
        cases hbody
        cases disposition with
        | duplicate =>
          obtain ⟨hmem, rfl⟩ := mem_rows_of_duplicate hcommit
          rcases hresult with rfl | ⟨e, hending, rfl⟩
          · exact Or.inr (Or.inl ⟨rfl, rfl, event, permit, rfl, hmem⟩)
          · simp only [unsyncedDuplicate] at hending
            split at hending <;> cases hending
        | inserted =>
          obtain ⟨hsyncs, rfl⟩ := commitEvent_inserted_iff.mp hcommit
          exact Or.inr (Or.inr (Or.inl ⟨event, permit, rfl, hsyncs, rfl, hresult⟩))
  | recordResnapshot cursor snapshots replayCount =>
    simp only [hcall] at h
    rcases Ending.transaction_cases _ h with hnothing | ⟨value, hbody, hresult⟩
    · exact Or.inl hnothing
    · cases hrecord : o.recordResnapshot cursor snapshots replayCount with
      | error e =>
        rw [hrecord] at hbody
        cases hbody
      | ok recorded =>
        rw [hrecord] at hbody
        cases hbody
        obtain ⟨hsyncs, rfl⟩ := recordResnapshot_ok_iff.mp hrecord
        exact Or.inr (Or.inr (Or.inr (Or.inl
          ⟨cursor, snapshots, replayCount, rfl, hsyncs, rfl, hresult⟩)))
  | recordReconnectReplay cursor requested replayed inserted duplicates disconnect =>
    simp only [hcall] at h
    rcases Ending.transaction_cases _ h with hnothing | ⟨value, hbody, hresult⟩
    · exact Or.inl hnothing
    · unfold recordReconnectReplay at hbody
      split at hbody
      · cases hbody
      rename_i hwinner
      cases hbody
      exact Or.inr (Or.inr (Or.inr (Or.inr ⟨cursor, requested, replayed, inserted, duplicates,
        disconnect, _, rfl, not_not.mp hwinner, rfl, hresult⟩)))

theorem rows_exec (h : a.exec o = (result, o')) : o.rows <+: o'.rows := by
  rcases exec_cases h with ⟨rfl, -⟩ | ⟨rfl, -⟩ | ⟨event, permit, -, -, rfl, -⟩ |
    ⟨cursor, snapshots, replayCount, -, -, rfl, -⟩ | ⟨_, _, _, _, _, _, row, -, -, rfl, -⟩
  · exact List.prefix_rfl
  · exact List.prefix_rfl
  · exact List.prefix_append _ _
  · rw [rows_resnapshot]
  · exact List.prefix_rfl

theorem sound_exec (hsound : o.Sound) (h : a.exec o = (result, o')) : o'.Sound := by
  rcases exec_cases h with ⟨rfl, -⟩ | ⟨rfl, -⟩ | ⟨event, permit, hcall, hsyncs, rfl, -⟩ |
    ⟨cursor, snapshots, replayCount, -, -, rfl, -⟩ | ⟨_, _, _, _, _, _, row, -, -, rfl, -⟩
  · exact hsound
  · exact hsound
  · simp only [Syncs, hcall] at hsyncs
    obtain ⟨hvalid, hseq, hunseen, hfresh, -⟩ := hsyncs
    have hrows : (o.insertEvent event).rows = o.rows ++ [event] := rfl
    constructor
    · intro row hrow
      rw [hrows, List.mem_append, List.mem_singleton] at hrow
      rcases hrow with hrow | rfl
      · exact hsound.valid row hrow
      · exact ⟨hvalid, hseq⟩
    · rw [hrows, List.map_append, List.nodup_append]
      refine ⟨hsound.keys, by simp, ?_⟩
      intro key hkey other hother heq
      obtain ⟨row, hrow, rfl⟩ := List.mem_map.mp hkey
      simp only [List.map_cons, List.map_nil, List.mem_singleton] at hother
      exact hunseen row hrow (heq.trans hother)
    · rw [hrows, List.map_append, List.nodup_append]
      refine ⟨hsound.ids, by simp, ?_⟩
      intro key hkey other hother heq
      obtain ⟨row, hrow, rfl⟩ := List.mem_map.mp hkey
      simp only [List.map_cons, List.map_nil, List.mem_singleton] at hother
      obtain ⟨hsource, hid⟩ := Prod.mk.inj (heq.trans hother)
      exact hfresh row hrow hsource hid
  · have hrows : (o.resnapshot cursor snapshots replayCount).rows = o.rows := rows_resnapshot
    constructor
    · rw [hrows]
      exact hsound.valid
    · rw [hrows]
      exact hsound.keys
    · rw [hrows]
      exact hsound.ids
  · exact ⟨hsound.valid, hsound.keys, hsound.ids⟩

/-- Another source's rows and cursor are untouched. -/
theorem exec_other {source : String} (h : a.exec o = (result, o'))
    (hsource : source ≠ a.call.source) :
    o'.outboxEvents source = o.outboxEvents source ∧ o'.cursor source = o.cursor source := by
  rcases exec_cases h with ⟨rfl, -⟩ | ⟨rfl, -⟩ | ⟨event, permit, hcall, -, rfl, -⟩ |
    ⟨cursor, snapshots, replayCount, hcall, -, rfl, -⟩ | ⟨_, _, _, _, _, _, row, -, -, rfl, -⟩
  · exact ⟨rfl, rfl⟩
  · exact ⟨rfl, rfl⟩
  · have hother : source ≠ event.sourceInstanceId := by
      simpa [hcall, OutboxCall.source] using hsource
    rw [outboxEvents_insertEvent, if_neg (Ne.symm hother), List.append_nil]
    exact ⟨rfl, cursor_insertEvent_other hother⟩
  · have hother : source ≠ cursor.sourceInstanceId := by
      simpa [hcall, OutboxCall.source] using hsource
    rw [cursor_resnapshot, if_neg hother]
    exact ⟨by simp [outboxEvents], rfl⟩
  · exact ⟨rfl, rfl⟩

/-- A call that raises leaves the tables as they were, unless it has written and cannot open the
directory. -/
theorem exec_error {e : CmuxError} (h : a.exec o = (.error e, o'))
    (hsyncs : a.Syncs o → ∀ e, a.ending ≠ .unsynced e) : o' = o := by
  have hconcluded : ∀ disposition, a.Concluded (.error e) disposition → a.Syncs o → False := by
    rintro disposition (hok | ⟨e', hending, -⟩) hwrites
    · cases hok
    · exact hsyncs hwrites e' hending
  rcases exec_cases h with ⟨rfl, -⟩ | ⟨rfl, -⟩ | ⟨_, _, -, hwrites, -, hends⟩ |
    ⟨_, _, _, -, hwrites, -, hends⟩ | ⟨_, _, _, _, _, _, _, -, hwrites, -, hends⟩
  · rfl
  · rfl
  · exact absurd (hconcluded _ hends hwrites) id
  · exact absurd (hconcluded _ hends hwrites) id
  · exact absurd (hconcluded _ hends hwrites) id

/-- A call that writes changes the tables also when its directory cannot be opened. -/
theorem exec_unsynced {e : CmuxError} (hsyncs : a.Syncs o) (hending : a.ending = .unsynced e) :
    (a.exec o).1 = .error e ∧ (a.exec o).2 ≠ o := by
  unfold Syncs at hsyncs
  unfold exec
  cases hcall : a.call with
  | commitEvent event permit =>
    simp only [hcall] at hsyncs
    simp only [commitEvent_inserted_iff.mpr ⟨hsyncs, rfl⟩, hending]
    refine ⟨rfl, ?_⟩
    intro hsame
    have hrows := congrArg (fun o : Outbox => o.rows.length) hsame
    simp [Except.map, unsyncedDuplicate, Ending.transaction, insertEvent, upsertCursor] at hrows
  | recordResnapshot cursor snapshots replayCount =>
    simp only [hcall] at hsyncs
    simp only [recordResnapshot_ok_iff.mpr ⟨hsyncs, rfl⟩, hending]
    refine ⟨rfl, ?_⟩
    intro hsame
    have haudit := congrArg (fun o : Outbox => o.audit.length) hsame
    simp [Except.map, Ending.transaction] at haudit
  | recordReconnectReplay cursor requested replayed inserted duplicates disconnect =>
    simp only [hcall] at hsyncs
    simp only [recordReconnectReplay, hsyncs, hending, ne_eq, not_true_eq_false, if_false]
    refine ⟨rfl, ?_⟩
    intro hsame
    have haudit := congrArg (fun o : Outbox => o.audit.length) hsame
    simp [Except.map, Ending.transaction] at haudit

end OutboxAttempt

/-- The boot that the cursor of a source stands in. -/
def bootOf (attempts : List OutboxAttempt) (source : String) : Option String :=
  ((outboxAfter attempts).cursor source).map (·.bootId)

/-- A boot of the source that was replaced does not come back. -/
def BootsNeverRecur (source : String) (attempts : List OutboxAttempt) : Prop :=
  ∀ first second third, first <+: second → second <+: third → third <+: attempts → ∀ boot,
    bootOf first source = some boot → bootOf second source ≠ some boot →
      bootOf third source ≠ some boot

/-- The rows of each boot are in order, and the cursor is at or after those of its own. -/
structure InFront (o : Outbox) (source : String) : Prop where
  ordered : ∀ boot, ((o.outboxEvents source).filter (·.bootId = boot)).Pairwise
    fun row row' => row.seq < row'.seq
  bounded : ∀ cursor, o.cursor source = some cursor → ∀ row ∈ o.outboxEvents source,
    row.bootId = cursor.bootId → row.seq ≤ cursor.seq

section InFront

variable {attempts : List OutboxAttempt} {a : OutboxAttempt} {source : String}

/-- The boots of the rows are boots that the cursor has stood in. -/
def BootsSeen (attempts : List OutboxAttempt) (source : String) : Prop :=
  ∀ row ∈ (outboxAfter attempts).outboxEvents source,
    ∃ first, first <+: attempts ∧ bootOf first source = some row.bootId

theorem bootsNeverRecur_of_concat (h : BootsNeverRecur source (attempts ++ [a])) :
    BootsNeverRecur source attempts := by
  intro first second third hfirst hsecond hthird
  exact h first second third hfirst hsecond (hthird.trans (List.prefix_append _ _))

/-- A boot that the source enters only now has no rows. -/
theorem no_rows_of_entered {boot : String} (hrecur : BootsNeverRecur source (attempts ++ [a]))
    (hseen : BootsSeen attempts source) (hold : bootOf attempts source ≠ some boot)
    (hnew : bootOf (attempts ++ [a]) source = some boot) :
    ∀ row ∈ (outboxAfter attempts).outboxEvents source, row.bootId ≠ boot := by
  rintro row hrow rfl
  obtain ⟨first, hfirst, hboot⟩ := hseen row hrow
  exact hrecur first attempts (attempts ++ [a]) hfirst (List.prefix_append _ _) List.prefix_rfl
    row.bootId hboot hold hnew

/-- Rows of the boot of the next cursor lie below a bound that the old cursor lies below. -/
theorem rows_below {boot : String} {bound : Int}
    (hrecur : BootsNeverRecur source (attempts ++ [a])) (hseen : BootsSeen attempts source)
    (hfront : InFront (outboxAfter attempts) source)
    (hnew : bootOf (attempts ++ [a]) source = some boot)
    (hbound : ∀ cursor, (outboxAfter attempts).cursor source = some cursor →
      cursor.bootId = boot → cursor.seq ≤ bound) :
    ∀ row ∈ (outboxAfter attempts).outboxEvents source, row.bootId = boot → row.seq ≤ bound := by
  intro row hrow hboot
  by_cases hold : bootOf attempts source = some boot
  · obtain ⟨cursor, hcursor, rfl⟩ := Option.map_eq_some_iff.mp hold
    exact Int.le_trans (hfront.bounded cursor hcursor row hrow hboot) (hbound cursor hcursor rfl)
  · exact absurd hboot (no_rows_of_entered hrecur hseen hold hnew row hrow)

theorem inFront_step (hrecur : BootsNeverRecur source (attempts ++ [a]))
    (hfront : InFront (outboxAfter attempts) source) (hseen : BootsSeen attempts source) :
    InFront (outboxAfter (attempts ++ [a])) source ∧ BootsSeen (attempts ++ [a]) source := by
  have hkept : ∀ {o'}, outboxAfter (attempts ++ [a]) = o' →
      o'.outboxEvents source = (outboxAfter attempts).outboxEvents source →
      BootsSeen (attempts ++ [a]) source := by
    rintro o' hafter hrows row hrow
    rw [hafter, hrows] at hrow
    obtain ⟨first, hfirst, hboot⟩ := hseen row hrow
    exact ⟨first, hfirst.trans (List.prefix_append _ _), hboot⟩
  have hsame : ∀ {o'}, outboxAfter (attempts ++ [a]) = o' →
      o'.outboxEvents source = (outboxAfter attempts).outboxEvents source →
      o'.cursor source = (outboxAfter attempts).cursor source →
      InFront (outboxAfter (attempts ++ [a])) source ∧ BootsSeen (attempts ++ [a]) source := by
    intro o' hafter hrows hcursor
    refine ⟨?_, hkept hafter hrows⟩
    rw [hafter]
    constructor
    · rw [hrows]
      exact hfront.ordered
    · rw [hrows, hcursor]
      exact hfront.bounded
  obtain ⟨o', result, hexec, hconcat⟩ : ∃ o' result, a.exec (outboxAfter attempts) = (result, o') ∧
      outboxAfter (attempts ++ [a]) = o' := ⟨_, _, rfl, outboxAfter_concat attempts a⟩
  by_cases hsource : source = a.call.source
  · rcases OutboxAttempt.exec_cases hexec with ⟨hafter, -⟩ | ⟨hafter, -⟩ |
      ⟨event, permit, hcall, hsyncs, hafter, -⟩ |
      ⟨cursor, snapshots, replayCount, hcall, hsyncs, hafter, -⟩ |
      ⟨_, _, _, _, _, _, row, -, -, hafter, -⟩
    · exact hsame (hconcat.trans hafter) rfl rfl
    · exact hsame (hconcat.trans hafter) rfl rfl
    · have hown : event.sourceInstanceId = source := by
        simp [hsource, hcall, OutboxCall.source]
      subst hown
      simp only [OutboxAttempt.Syncs, hcall] at hsyncs
      have hcursor : (outboxAfter (attempts ++ [a])).cursor event.sourceInstanceId =
          some event.cursor := by
        rw [hconcat, hafter]
        exact cursor_insertEvent _ _
      have hentered : bootOf (attempts ++ [a]) event.sourceInstanceId = some event.bootId := by
        rw [bootOf, hcursor]
        rfl
      have hrows : (outboxAfter (attempts ++ [a])).outboxEvents event.sourceInstanceId =
          (outboxAfter attempts).outboxEvents event.sourceInstanceId ++ [event] := by
        rw [hconcat, hafter, outboxEvents_insertEvent, if_pos rfl]
      have hbelow : ∀ row ∈ (outboxAfter attempts).outboxEvents event.sourceInstanceId,
          row.bootId = event.bootId → row.seq ≤ event.seq - 1 := by
        apply rows_below hrecur hseen hfront hentered
        intro cursor hold hboot
        rw [hold] at hsyncs
        have hlt := (admitsUnseen_ok hsyncs.2.2.2.2).1 hboot
        omega
      constructor
      · constructor
        · intro boot
          rw [hrows, List.filter_append, List.pairwise_append]
          refine ⟨hfront.ordered boot, ?_, ?_⟩
          · exact (List.pairwise_singleton _ event).filter _
          · intro row hrow row' hrow'
            rw [List.mem_filter] at hrow hrow'
            obtain ⟨hmem, rfl⟩ : row' ∈ [event] ∧ row'.bootId = boot := by simpa using hrow'
            rw [List.mem_singleton.mp hmem] at hrow ⊢
            have hle := hbelow row hrow.1 (by simpa using hrow.2)
            omega
        · intro cursor hcursor' row hrow hboot
          cases hcursor.symm.trans hcursor'
          rw [hrows, List.mem_append, List.mem_singleton] at hrow
          rcases hrow with hrow | rfl
          · have hle := hbelow row hrow hboot
            show row.seq ≤ event.seq
            omega
          · exact Int.le_refl _
      · intro row hrow
        rw [hrows, List.mem_append, List.mem_singleton] at hrow
        rcases hrow with hrow | rfl
        · obtain ⟨first, hfirst, hboot⟩ := hseen row hrow
          exact ⟨first, hfirst.trans (List.prefix_append _ _), hboot⟩
        · exact ⟨attempts ++ [a], List.prefix_rfl, hentered⟩
    · have hown : cursor.sourceInstanceId = source := by
        simp [hsource, hcall, OutboxCall.source]
      subst hown
      simp only [OutboxAttempt.Syncs, hcall] at hsyncs
      have hcursor : (outboxAfter (attempts ++ [a])).cursor cursor.sourceInstanceId =
          some cursor := by
        rw [hconcat, hafter, cursor_resnapshot, if_pos rfl]
      have hentered : bootOf (attempts ++ [a]) cursor.sourceInstanceId = some cursor.bootId := by
        rw [bootOf, hcursor]
        rfl
      have hrows : (outboxAfter (attempts ++ [a])).outboxEvents cursor.sourceInstanceId =
          (outboxAfter attempts).outboxEvents cursor.sourceInstanceId := by
        rw [hconcat, hafter]
        simp [outboxEvents]
      have hbelow : ∀ row ∈ (outboxAfter attempts).outboxEvents cursor.sourceInstanceId,
          row.bootId = cursor.bootId → row.seq ≤ cursor.seq := by
        apply rows_below hrecur hseen hfront hentered
        intro old hold hboot
        have hregresses := hsyncs.2.2.2.1
        simp only [hold, regresses, decide_eq_false_iff_not] at hregresses
        by_contra hlt
        exact hregresses ⟨hboot, by omega⟩
      refine ⟨⟨?_, ?_⟩, hkept rfl hrows⟩
      · rw [hrows]
        exact hfront.ordered
      · intro cursor' hcursor' row hrow hboot
        cases hcursor.symm.trans hcursor'
        rw [hrows] at hrow
        exact hbelow row hrow hboot
    · exact hsame (hconcat.trans hafter) rfl rfl
  · obtain ⟨hrows, hcursor⟩ := OutboxAttempt.exec_other hexec hsource
    exact hsame hconcat hrows hcursor

theorem inFront_outboxAfter (hrecur : BootsNeverRecur source attempts) :
    InFront (outboxAfter attempts) source ∧ BootsSeen attempts source := by
  induction attempts using List.reverseRecOn with
  | nil =>
    refine ⟨⟨fun boot => List.Pairwise.nil, nofun⟩, ?_⟩
    intro row hrow
    cases hrow
  | append_singleton attempts a ih =>
    obtain ⟨hfront, hseen⟩ := ih (bootsNeverRecur_of_concat hrecur)
    exact inFront_step hrecur hfront hseen

end InFront

section Runs

variable {attempts before after : List OutboxAttempt}

theorem sound_outboxAfter (attempts : List OutboxAttempt) : (outboxAfter attempts).Sound := by
  induction attempts using List.reverseRecOn with
  | nil => exact ⟨nofun, List.nodup_nil, List.nodup_nil⟩
  | append_singleton attempts a ih =>
    rw [outboxAfter_concat]
    exact OutboxAttempt.sound_exec ih rfl

theorem rows_outboxAfter (before after : List OutboxAttempt) :
    (outboxAfter before).rows <+: (outboxAfter (before ++ after)).rows := by
  induction after using List.reverseRecOn with
  | nil => rw [List.append_nil]
  | append_singleton after a ih =>
    rw [← List.append_assoc, outboxAfter_concat]
    exact ih.trans (OutboxAttempt.rows_exec rfl)

/-- A call that returns `INSERTED` has added the event and moved the cursor to it. -/
theorem OutboxAttempt.exec_inserted {a : OutboxAttempt} {o : Outbox} {event : DerivedEvent}
    {permit : Bool} (hcall : a.call = .commitEvent event permit)
    (h : (a.exec o).1 = .ok (some .inserted)) : (a.exec o).2 = o.insertEvent event := by
  obtain ⟨o', hexec⟩ : ∃ o', a.exec o = (.ok (some .inserted), o') := ⟨_, Prod.ext h rfl⟩
  rw [hexec]
  rcases exec_cases hexec with ⟨-, e, he⟩ | ⟨-, hdup, -⟩ | ⟨_, _, hcall', -, rfl, -⟩ |
    ⟨_, _, _, -, -, -, hends⟩ | ⟨_, _, _, _, _, _, _, -, -, -, hends⟩
  · cases he
  · cases hdup
  · cases hcall.symm.trans hcall'
    rfl
  · rcases hends with hends | ⟨_, -, hends⟩ <;> cases hends
  · rcases hends with hends | ⟨_, -, hends⟩ <;> cases hends

/-- A call returns `DUPLICATE` exactly for an event that is stored. -/
theorem OutboxAttempt.exec_duplicate_iff {a : OutboxAttempt} {o : Outbox} {event : DerivedEvent}
    {permit : Bool} (hsound : o.Sound) (hcall : a.call = .commitEvent event permit) :
    (a.exec o).1 = .ok (some .duplicate) ↔ event ∈ o.rows ∧ ∀ e, a.ending ≠ .rolledBack e := by
  constructor
  · intro h
    obtain ⟨o', hexec⟩ : ∃ o', a.exec o = (.ok (some .duplicate), o') := ⟨_, Prod.ext h rfl⟩
    constructor
    · rcases exec_cases hexec with ⟨-, e, he⟩ | ⟨-, -, event', permit', hcall', hmem⟩ |
        ⟨_, _, -, -, -, hends⟩ | ⟨_, _, _, -, -, -, hends⟩ | ⟨_, _, _, _, _, _, _, -, -, -, hends⟩
      · cases he
      · cases hcall.symm.trans hcall'
        exact hmem
      · rcases hends with hends | ⟨_, -, hends⟩ <;> cases hends
      · rcases hends with hends | ⟨_, -, hends⟩ <;> cases hends
      · rcases hends with hends | ⟨_, -, hends⟩ <;> cases hends
    · intro e hending
      simp only [exec, hcall, hending] at h
      rcases hcommit : o.commitEvent event permit with e' | ⟨_ | _, o'⟩ <;>
        simp [hcommit, unsyncedDuplicate, Ending.transaction, Except.map] at h
  · rintro ⟨hmem, hbegins⟩
    simp only [exec, hcall, commitEvent_stored hsound permit hmem]
    cases hending : a.ending with
    | synced => rfl
    | unsynced e => rfl
    | rolledBack e => exact absurd hending (hbegins e)

/-- What is asked of a sequence of calls on an empty outbox. -/
structure OutboxHistory (attempts : List OutboxAttempt) : Prop where
  inert : ∀ before a after, attempts = before ++ a :: after → ∀ e,
    (a.exec (outboxAfter before)).1 = .error e → outboxAfter (before ++ [a]) = outboxAfter before
  appends : ∀ before after, attempts = before ++ after →
    (outboxAfter before).rows <+: (outboxAfter attempts).rows
  inserted : ∀ before a after, attempts = before ++ a :: after → ∀ event permit,
    a.call = .commitEvent event permit →
      (a.exec (outboxAfter before)).1 = .ok (some .inserted) →
        (outboxAfter (before ++ [a])).rows = (outboxAfter before).rows ++ [event] ∧
        (outboxAfter (before ++ [a])).cursor event.sourceInstanceId = some event.cursor ∧
        (outboxAfter (before ++ [a])).audit = (outboxAfter before).audit ∧
        (outboxAfter (before ++ [a])).baselines = (outboxAfter before).baselines
  duplicate : ∀ before a after, attempts = before ++ a :: after → ∀ event permit,
    a.call = .commitEvent event permit →
      ((a.exec (outboxAfter before)).1 = .ok (some .duplicate) ↔
        event ∈ (outboxAfter before).rows ∧ ∀ e, a.ending ≠ .rolledBack e) ∧
      ((a.exec (outboxAfter before)).1 = .ok (some .duplicate) →
        outboxAfter (before ++ [a]) = outboxAfter before)
  keys : ((outboxAfter attempts).rows.map (·.cursor)).Nodup
  ids : ((outboxAfter attempts).rows.map fun row => (row.sourceInstanceId, row.sourceEventId)).Nodup
  others : ∀ before a after, attempts = before ++ a :: after → ∀ source, source ≠ a.call.source →
    (outboxAfter (before ++ [a])).outboxEvents source = (outboxAfter before).outboxEvents source ∧
    (outboxAfter (before ++ [a])).cursor source = (outboxAfter before).cursor source
  inFront : ∀ source, BootsNeverRecur source attempts → InFront (outboxAfter attempts) source

/-- The outbox keeps its invariants, and a raising call changes nothing, exactly when no call that
writes fails to open the directory after its commit. -/
theorem outbox_history_iff (attempts : List OutboxAttempt) : OutboxHistory attempts ↔
    ∀ before a after, attempts = before ++ a :: after → a.Syncs (outboxAfter before) →
      ∀ e, a.ending ≠ .unsynced e := by
  constructor
  · intro h before a after heq hsyncs e hending
    obtain ⟨hraises, hchanges⟩ := OutboxAttempt.exec_unsynced hsyncs hending
    apply hchanges
    rw [← outboxAfter_concat]
    exact h.inert before a after heq e hraises
  · intro h
    constructor
    · intro before a after heq e hraises
      rw [outboxAfter_concat]
      exact OutboxAttempt.exec_error (Prod.ext hraises rfl) (h before a after heq)
    · rintro before after rfl
      exact rows_outboxAfter before after
    · intro before a after heq event permit hcall hreturns
      rw [outboxAfter_concat, OutboxAttempt.exec_inserted hcall hreturns]
      exact ⟨rfl, cursor_insertEvent _ _, rfl, rfl⟩
    · intro before a after heq event permit hcall
      have hiff := OutboxAttempt.exec_duplicate_iff (sound_outboxAfter before) hcall
      refine ⟨hiff, ?_⟩
      intro hreturns
      obtain ⟨hmem, hbegins⟩ := hiff.mp hreturns
      rw [outboxAfter_concat]
      simp only [OutboxAttempt.exec, hcall,
        commitEvent_stored (sound_outboxAfter before) permit hmem]
      cases hending : a.ending with
      | synced => rfl
      | unsynced e => rfl
      | rolledBack e => rfl
    · exact (sound_outboxAfter attempts).keys
    · exact (sound_outboxAfter attempts).ids
    · intro before a after heq source hsource
      rw [outboxAfter_concat]
      exact OutboxAttempt.exec_other rfl hsource
    · intro source hrecur
      exact (inFront_outboxAfter hrecur).1

end Runs

/-- The event is committed, and then the directory cannot be opened. -/
def unsyncedCommit : OutboxAttempt where
  call := .commitEvent ⟨"source", "boot", 1, "event-1", "workspace.created", "{}"⟩ false
  ending := .unsynced (.python (.raised "Too many open files"))

theorem raising_commit_inserts : ¬ OutboxHistory [unsyncedCommit] := by
  intro h
  have hinert := h.inert [] unsyncedCommit [] rfl (.python (.raised "Too many open files"))
    (by decide +kernel)
  have hrows := congrArg (fun o : Outbox => o.rows.length) hinert
  revert hrows
  decide +kernel

end Yatagarasu.Cmux
