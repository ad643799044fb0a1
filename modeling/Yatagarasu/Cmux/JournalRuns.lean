import Yatagarasu.Cmux.Journal

/-! Any sequence of `prepare` and `settle` calls, returning or raising, seen row by row. -/

namespace Yatagarasu.Cmux

open Durable InjectionJournal

inductive JournalCall
  | prepare (call : PrepareCall)
  | settle (call : SettleCall)

/-- A call, and what the file system lets its transaction do. -/
structure Attempt where
  call : JournalCall
  ending : Ending CmuxError

namespace Attempt

def deliveryId (a : Attempt) : String :=
  match a.call with
  | .prepare call => call.deliveryId
  | .settle call => call.deliveryId

def exec (a : Attempt) (journal : InjectionJournal) :
    Except CmuxError (Option JournalRow) × InjectionJournal :=
  match a.call with
  | .prepare call => journal.prepare call a.ending
  | .settle call => journal.settle call a.ending

/-- The call is one that changes a row when it commits. -/
def Rewrites (a : Attempt) (journal : InjectionJournal) : Prop :=
  match a.call with
  | .prepare call => ¬ journal.Refuses call.row
  | .settle call => call.state ≠ .prepared ∧ ∃ row, journal.get call.deliveryId = some row ∧
      call.Legal row ∧ (call.over row).apply row ≠ row

end Attempt

/-- The journal after a sequence of calls on an empty one. -/
def journalAfter (attempts : List Attempt) : InjectionJournal :=
  attempts.foldl (fun journal a => (a.exec journal).2) []

theorem journalAfter_concat (attempts : List Attempt) (a : Attempt) :
    journalAfter (attempts ++ [a]) = (a.exec (journalAfter attempts)).2 := by
  simp [journalAfter]

namespace InjectionJournal

variable {journal journal' : InjectionJournal} {row row' : JournalRow} {d deliveryId : String}
  {settlement : Settlement}

theorem get_eq_some (h : journal.get d = some row) : row ∈ journal ∧ row.deliveryId = d := by
  refine ⟨List.mem_of_find?_eq_some h, ?_⟩
  simpa using List.find?_some h

theorem get_append_singleton : InjectionJournal.get (journal ++ [row]) d =
    (journal.get d).or (if row.deliveryId = d then some row else none) := by
  unfold get
  rw [List.find?_append]
  by_cases hd : row.deliveryId = d <;> simp [hd]

theorem get_record : (journal.record deliveryId settlement).get d =
    if d = deliveryId then (journal.get d).map settlement.apply else journal.get d := by
  let update := fun row : JournalRow =>
    if row.deliveryId = deliveryId then settlement.apply row else row
  have hkeeps : ((fun row : JournalRow => decide (row.deliveryId = d)) ∘ update) =
      fun row => decide (row.deliveryId = d) := by
    funext row
    by_cases hrow : row.deliveryId = deliveryId <;> simp [update, hrow, Settlement.apply]
  have hmap : (journal.record deliveryId settlement).get d = (journal.get d).map update := by
    unfold get record
    rw [List.find?_map, hkeeps]
  rw [hmap]
  cases hget : journal.get d with
  | none => simp
  | some row =>
    obtain ⟨-, rfl⟩ := get_eq_some hget
    by_cases hd : row.deliveryId = deliveryId <;> simp [update, hd]

/-- A row that the settlement leaves as it is. -/
theorem record_self (hids : (journal.map (·.deliveryId)).Nodup) (hrow : journal.get d = some row)
    (hsame : settlement.apply row = row) : journal.record d settlement = journal := by
  obtain ⟨hmem, rfl⟩ := get_eq_some hrow
  apply (List.map_congr_left _).trans (List.map_id journal)
  intro other hother
  by_cases hd : other.deliveryId = row.deliveryId
  · rw [List.inj_on_of_nodup_map hids hother hmem hd, if_pos rfl, hsame]
    rfl
  · rw [if_neg hd]
    rfl

theorem map_deliveryId_record : (journal.record deliveryId settlement).map (·.deliveryId) =
    journal.map (·.deliveryId) := by
  unfold record
  rw [List.map_map]
  apply List.map_congr_left
  intro row _
  by_cases hd : row.deliveryId = deliveryId <;> simp [hd, Settlement.apply]

end InjectionJournal

/-- A later version of a row: its identity stays, its evidence only grows. -/
structure JournalRow.Grows (row row' : JournalRow) : Prop where
  bindingId : row'.bindingId = row.bindingId
  seatId : row'.seatId = row.seatId
  marker : row'.marker = row.marker
  preparedAt : row'.preparedAt = row.preparedAt
  evidence : row.sourceEvents <+: row'.sourceEvents
  detail : row.detail ≠ "" → row'.detail ≠ ""

theorem JournalRow.Grows.refl (row : JournalRow) : row.Grows row :=
  ⟨rfl, rfl, rfl, rfl, List.prefix_rfl, id⟩

theorem JournalRow.Grows.trans {first second third : JournalRow} (h : first.Grows second)
    (h' : second.Grows third) : first.Grows third where
  bindingId := h'.bindingId.trans h.bindingId
  seatId := h'.seatId.trans h.seatId
  marker := h'.marker.trans h.marker
  preparedAt := h'.preparedAt.trans h.preparedAt
  evidence := h.evidence.trans h'.evidence
  detail := fun hdetail => h'.detail (h.detail hdetail)

theorem SettleCall.grows (call : SettleCall) (row : JournalRow) :
    row.Grows ((call.over row).apply row) := by
  refine ⟨rfl, rfl, rfl, rfl, FirstSeen.prefix_noteAll _ _, ?_⟩
  intro hdetail
  by_cases hcall : call.detail = "" <;> simp [Settlement.apply, SettleCall.over, hcall, hdetail]

theorem SettleCall.plan_eq_ok {call : SettleCall} {row : Option JournalRow}
    {settlement : Settlement} (h : call.plan row = .ok settlement) :
    call.state ≠ .prepared ∧ ∃ read, row = some read ∧ call.Legal read ∧
      settlement = call.over read := by
  unfold SettleCall.plan at h
  split at h
  · cases h
  rename_i hstate
  cases row with
  | none => cases h
  | some read =>
    dsimp only at h
    split at h
    · rename_i hlegal
      cases h
      exact ⟨hstate, read, rfl, hlegal, rfl⟩
    · cases h

theorem SettleCall.plan_of_legal {call : SettleCall} {row : JournalRow}
    (hstate : call.state ≠ .prepared) (hlegal : call.Legal row) :
    call.plan (some row) = .ok (call.over row) := by
  simp [SettleCall.plan, hstate, hlegal]

namespace Attempt

variable {a : Attempt} {journal journal' : InjectionJournal} {row row' : JournalRow}
  {d : String} {result : Except CmuxError (Option JournalRow)}

/-- A call that has committed returns, unless its directory cannot be opened. -/
def Concluded (a : Attempt) (result : Except CmuxError (Option JournalRow)) : Prop :=
  (∃ value, result = .ok value) ∨ ∃ e, a.ending = .unsynced e ∧ result = .error e

theorem exec_cases (h : a.exec journal = (result, journal')) :
    (journal' = journal ∧ ∃ e, result = .error e) ∨
    (∃ call, a.call = .prepare call ∧ ¬ journal.Refuses call.row ∧
      journal' = journal ++ [call.row] ∧ a.Concluded result) ∨
    (∃ call row, a.call = .settle call ∧ call.state ≠ .prepared ∧
      journal.get call.deliveryId = some row ∧ call.Legal row ∧
      journal' = journal.record call.deliveryId (call.over row) ∧ a.Concluded result) := by
  unfold exec at h
  cases hcall : a.call with
  | prepare call =>
    rw [hcall] at h
    rcases a.ending.transaction_cases h with hnothing | ⟨value, hbody, hresult⟩
    · exact Or.inl hnothing
    · split at hbody
      · cases hbody
      rename_i hfresh
      cases hbody
      exact Or.inr (Or.inl ⟨call, rfl, hfresh, rfl, hresult.imp (fun h => ⟨_, h⟩) id⟩)
  | settle call =>
    rw [hcall] at h
    rcases a.ending.transaction_cases h with hnothing | ⟨value, hbody, hresult⟩
    · exact Or.inl hnothing
    · cases hplan : call.plan (journal.get call.deliveryId) with
      | error e =>
        rw [hplan] at hbody
        cases hbody
      | ok settlement =>
      rw [hplan] at hbody
      cases hbody
      obtain ⟨hstate, row, hrow, hlegal, rfl⟩ := SettleCall.plan_eq_ok hplan
      exact Or.inr (Or.inr ⟨call, row, rfl, hstate, hrow, hlegal, rfl,
        hresult.imp (fun h => ⟨_, h⟩) id⟩)

end Attempt

/-- The primary key holds, and no evidence is repeated. -/
structure InjectionJournal.Sound (journal : InjectionJournal) : Prop where
  keys : (journal.map (·.deliveryId)).Nodup
  evidence : ∀ row ∈ journal, row.sourceEvents.Nodup

theorem InjectionJournal.Sound.get {journal : InjectionJournal} {row : JournalRow}
    (h : journal.Sound) : row ∈ journal ↔ ∃ d, journal.get d = some row := by
  constructor
  · intro hmem
    refine ⟨row.deliveryId, ?_⟩
    cases hfind : journal.get row.deliveryId with
    | none =>
      have hnone := List.find?_eq_none.mp hfind row hmem
      simp at hnone
    | some found =>
      obtain ⟨hfound, hid⟩ := get_eq_some hfind
      rw [List.inj_on_of_nodup_map h.keys hfound hmem hid]
  · rintro ⟨d, hd⟩
    exact (get_eq_some hd).1

namespace Attempt

variable {a : Attempt} {journal journal' : InjectionJournal} {row row' : JournalRow}
  {d : String} {result : Except CmuxError (Option JournalRow)}

theorem sound_exec (hsound : journal.Sound) (h : a.exec journal = (result, journal')) :
    journal'.Sound := by
  rcases exec_cases h with ⟨rfl, -⟩ | ⟨call, -, hfresh, rfl, -⟩ |
    ⟨call, row, -, -, hrow, -, rfl, -⟩
  · exact hsound
  · unfold Refuses at hfresh
    rw [not_or, Option.not_isSome_iff_eq_none] at hfresh
    constructor
    · rw [List.map_append, List.nodup_append]
      refine ⟨hsound.keys, by simp, ?_⟩
      intro d hd other hother heq
      obtain ⟨row, hmem, rfl⟩ := List.mem_map.mp hd
      have hnone := List.find?_eq_none.mp hfresh.1 row hmem
      simp only [List.map_cons, List.map_nil, List.mem_singleton] at hother
      simp [heq, hother] at hnone
    · intro row hrow
      rcases List.mem_append.mp hrow with hrow | hrow
      · exact hsound.evidence row hrow
      · rw [List.mem_singleton.mp hrow]
        exact List.nodup_nil
  · constructor
    · rw [map_deliveryId_record]
      exact hsound.keys
    · intro row' hrow'
      obtain ⟨old, hold, rfl⟩ := List.mem_map.mp hrow'
      split
      · exact FirstSeen.nodup_noteAll (hsound.evidence row (get_eq_some hrow).1)
      · exact hsound.evidence old hold

theorem exec_other (h : a.exec journal = (result, journal')) (hd : d ≠ a.deliveryId) :
    journal'.get d = journal.get d := by
  rcases exec_cases h with ⟨rfl, -⟩ | ⟨call, hcall, -, rfl, -⟩ |
    ⟨call, row, hcall, -, -, -, rfl, -⟩
  · rfl
  · have hother : call.row.deliveryId ≠ d := by
      intro heq
      apply hd
      simp [deliveryId, hcall, ← heq, PrepareCall.row]
    rw [get_append_singleton, if_neg hother, Option.or_none]
  · have hother : d ≠ call.deliveryId := by
      intro heq
      apply hd
      simp [deliveryId, hcall, heq]
    rw [get_record, if_neg hother]

/-- A row that appears is prepared, and has nothing to show yet. -/
theorem exec_none (h : a.exec journal = (result, journal')) (hrow : journal.get d = none)
    (hrow' : journal'.get d = some row') : row'.state = .prepared := by
  rcases exec_cases h with ⟨rfl, -⟩ | ⟨call, -, -, rfl, -⟩ | ⟨call, row, -, -, -, -, rfl, -⟩
  · rw [hrow] at hrow'
    cases hrow'
  · rw [get_append_singleton, hrow, Option.none_or] at hrow'
    split at hrow'
    · cases hrow'
      rfl
    · cases hrow'
  · rw [get_record, hrow] at hrow'
    simp at hrow'

/-- A row stays in its state or makes a legal transition, and keeps what it has. -/
theorem exec_some (h : a.exec journal = (result, journal')) (hrow : journal.get d = some row) :
    ∃ row', journal'.get d = some row' ∧ row.Grows row' ∧
      (row'.state = row.state ∨ row'.state ∈ legalTransitions row.state) := by
  rcases exec_cases h with ⟨rfl, -⟩ | ⟨call, -, -, rfl, -⟩ |
    ⟨call, read, -, -, hread, hlegal, rfl, -⟩
  · exact ⟨row, hrow, .refl row, Or.inl rfl⟩
  · refine ⟨row, ?_, .refl row, Or.inl rfl⟩
    rw [get_append_singleton, hrow, Option.some_or]
  · by_cases hd : d = call.deliveryId
    · subst hd
      cases hrow.symm.trans hread
      refine ⟨(call.over row).apply row, ?_, call.grows row, hlegal.imp Eq.symm id⟩
      rw [get_record, if_pos rfl, hrow]
      rfl
    · refine ⟨row, ?_, .refl row, Or.inl rfl⟩
      rw [get_record, if_neg hd, hrow]

/-- A settle that returned has written everything it was given. -/
theorem exec_supplied {call : SettleCall} {value : Option JournalRow}
    (hcall : a.call = .settle call) (h : a.exec journal = (.ok value, journal')) :
    ∃ row, journal'.get call.deliveryId = some row ∧ ∀ event ∈ call.sourceEvents,
      event ∈ row.sourceEvents := by
  rcases exec_cases h with ⟨-, e, he⟩ | ⟨call', hcall', -⟩ |
    ⟨call', row, hcall', -, hrow, -, rfl, -⟩
  · cases he
  · cases hcall.symm.trans hcall'
  · cases hcall.symm.trans hcall'
    refine ⟨(call.over row).apply row, ?_, ?_⟩
    · rw [get_record, if_pos rfl, hrow]
      rfl
    · intro event hevent
      exact FirstSeen.mem_noteAll.mpr (Or.inr hevent)

end Attempt

section Runs

variable {attempts before after : List Attempt} {row : JournalRow} {d : String}

theorem sound_journalAfter (attempts : List Attempt) : (journalAfter attempts).Sound := by
  induction attempts using List.reverseRecOn with
  | nil => exact ⟨List.nodup_nil, nofun⟩
  | append_singleton attempts a ih =>
    rw [journalAfter_concat]
    exact Attempt.sound_exec ih rfl

theorem grows_journalAfter (after : List Attempt)
    (h : (journalAfter before).get d = some row) :
    ∃ row', (journalAfter (before ++ after)).get d = some row' ∧ row.Grows row' := by
  induction after using List.reverseRecOn with
  | nil => exact ⟨row, by rwa [List.append_nil], .refl row⟩
  | append_singleton after a ih =>
    obtain ⟨middle, hmiddle, hgrows⟩ := ih
    rw [← List.append_assoc, journalAfter_concat]
    obtain ⟨row', hrow', hgrows', -⟩ := Attempt.exec_some (a := a) rfl hmiddle
    exact ⟨row', hrow', hgrows.trans hgrows'⟩

/-- What is asked of a sequence of calls on an empty journal. -/
structure JournalHistory (attempts : List Attempt) : Prop where
  appears : ∀ before a after, attempts = before ++ a :: after → ∀ d row',
    (journalAfter before).get d = none → (journalAfter (before ++ [a])).get d = some row' →
      row'.state = .prepared
  moves : ∀ before a after, attempts = before ++ a :: after → ∀ d row,
    (journalAfter before).get d = some row →
      ∃ row', (journalAfter (before ++ [a])).get d = some row' ∧
        (row'.state = row.state ∨ row'.state ∈ legalTransitions row.state)
  grows : ∀ before after, attempts = before ++ after → ∀ d row,
    (journalAfter before).get d = some row →
      ∃ row', (journalAfter attempts).get d = some row' ∧ row.Grows row'
  distinct : ∀ d row, (journalAfter attempts).get d = some row → row.sourceEvents.Nodup
  supplied : ∀ before a after, attempts = before ++ a :: after → ∀ call value,
    a.call = .settle call → (a.exec (journalAfter before)).1 = .ok value →
      ∃ row, (journalAfter attempts).get call.deliveryId = some row ∧
        ∀ event ∈ call.sourceEvents, event ∈ row.sourceEvents
  others : ∀ before a after, attempts = before ++ a :: after → ∀ d, d ≠ a.deliveryId →
    (journalAfter (before ++ [a])).get d = (journalAfter before).get d
  unsettled : (journalAfter attempts).unsettled.Nodup ∧ ∀ row,
    row ∈ (journalAfter attempts).unsettled ↔
      row.state = .prepared ∧ ∃ d, (journalAfter attempts).get d = some row
  inert : ∀ before a after, attempts = before ++ a :: after → ∀ e,
    (a.exec (journalAfter before)).1 = .error e →
      journalAfter (before ++ [a]) = journalAfter before

theorem mem_unsettled {journal : InjectionJournal} :
    row ∈ journal.unsettled ↔ row ∈ journal ∧ row.state = .prepared := by
  unfold unsettled
  rw [List.mem_mergeSort, List.mem_filter, decide_eq_true_eq]

theorem nodup_unsettled {journal : InjectionJournal} (h : journal.Sound) :
    journal.unsettled.Nodup := by
  unfold unsettled
  rw [(List.mergeSort_perm _ _).nodup_iff]
  exact (List.Nodup.of_map _ h.keys).filter _

/-- A call that raises leaves the journal as it was, unless it has rewritten a row and cannot open
the directory. -/
theorem Attempt.exec_error {a : Attempt} {journal journal' : InjectionJournal} {e : CmuxError}
    (hsound : journal.Sound) (h : a.exec journal = (.error e, journal'))
    (hrewrites : a.Rewrites journal → ∀ e, a.ending ≠ .unsynced e) : journal' = journal := by
  rcases exec_cases h with ⟨rfl, -⟩ | ⟨call, hcall, hfresh, rfl, hresult⟩ |
    ⟨call, row, hcall, hstate, hrow, hlegal, rfl, hresult⟩
  · rfl
  · rcases hresult with ⟨value, hvalue⟩ | ⟨e', hending, -⟩
    · cases hvalue
    · refine absurd hending (hrewrites ?_ e')
      simpa [Rewrites, hcall] using hfresh
  · rcases hresult with ⟨value, hvalue⟩ | ⟨e', hending, -⟩
    · cases hvalue
    · by_cases hsame : (call.over row).apply row = row
      · exact record_self hsound.keys hrow hsame
      · refine absurd hending (hrewrites ?_ e')
        simp only [Rewrites, hcall]
        exact ⟨hstate, row, hrow, hlegal, hsame⟩

/-- A call that rewrites a row changes the journal when its directory cannot be opened. -/
theorem Attempt.exec_unsynced {a : Attempt} {journal : InjectionJournal} {e : CmuxError}
    (hrewrites : a.Rewrites journal) (hending : a.ending = .unsynced e) :
    (a.exec journal).1 = .error e ∧ (a.exec journal).2 ≠ journal := by
  unfold Rewrites at hrewrites
  unfold exec
  cases hcall : a.call with
  | prepare call =>
    simp only [hcall] at hrewrites
    simp [prepare, Ending.transaction, hending, hrewrites]
  | settle call =>
    simp only [hcall] at hrewrites
    obtain ⟨hstate, row, hrow, hlegal, hdiffers⟩ := hrewrites
    simp only [settle, hrow, SettleCall.plan_of_legal hstate hlegal, hending]
    refine ⟨rfl, ?_⟩
    intro hsame
    have hget : (journal.record call.deliveryId (call.over row)).get call.deliveryId =
        if call.deliveryId = call.deliveryId then
          (journal.get call.deliveryId).map (call.over row).apply
        else journal.get call.deliveryId := get_record
    apply hdiffers
    rw [if_pos rfl, hrow] at hget
    have hsame' : journal.record call.deliveryId (call.over row) = journal := hsame
    rw [hsame', hrow] at hget
    exact (Option.some.inj hget).symm

/-- Rows only move forward and keep their evidence, and a raising call changes nothing, exactly
when no call that rewrites a row fails to open the directory after its commit. -/
theorem journal_history_iff (attempts : List Attempt) : JournalHistory attempts ↔
    ∀ before a after, attempts = before ++ a :: after → a.Rewrites (journalAfter before) →
      ∀ e, a.ending ≠ .unsynced e := by
  constructor
  · intro h before a after heq hrewrites e hending
    obtain ⟨hraises, hchanges⟩ := Attempt.exec_unsynced hrewrites hending
    apply hchanges
    rw [← journalAfter_concat]
    exact h.inert before a after heq e hraises
  · intro h
    refine ⟨?_, ?_, ?_, ?_, ?_, ?_, ?_, ?_⟩
    · intro before a after heq d row' hnone hrow'
      rw [journalAfter_concat] at hrow'
      exact Attempt.exec_none rfl hnone hrow'
    · intro before a after heq d row hrow
      rw [journalAfter_concat]
      obtain ⟨row', hrow', -, hmoves⟩ := Attempt.exec_some (a := a) rfl hrow
      exact ⟨row', hrow', hmoves⟩
    · rintro before after rfl d row hrow
      exact grows_journalAfter after hrow
    · intro d row hrow
      exact (sound_journalAfter attempts).evidence row (get_eq_some hrow).1
    · rintro before a after rfl call value hcall hreturns
      obtain ⟨row, hrow, hsupplied⟩ := Attempt.exec_supplied hcall (Prod.ext hreturns rfl)
      have hafter : (journalAfter (before ++ [a])).get call.deliveryId = some row := by
        rw [journalAfter_concat]
        exact hrow
      obtain ⟨row', hrow', hgrows⟩ := grows_journalAfter after hafter
      rw [List.append_assoc, List.singleton_append] at hrow'
      exact ⟨row', hrow', fun event hevent => hgrows.evidence.mem (hsupplied event hevent)⟩
    · intro before a after heq d hd
      rw [journalAfter_concat]
      exact Attempt.exec_other rfl hd
    · refine ⟨nodup_unsettled (sound_journalAfter attempts), ?_⟩
      intro row
      rw [mem_unsettled, (sound_journalAfter attempts).get, and_comm]
    · intro before a after heq e hraises
      rw [journalAfter_concat]
      exact Attempt.exec_error (sound_journalAfter before) (Prod.ext hraises rfl)
        (h before a after heq)

end Runs

/-- The intent is committed, and then the directory cannot be opened. -/
def unsyncedPrepare : Attempt where
  call := .prepare
    { deliveryId := "delivery-1", bindingId := "binding-1", seatId := "alice", marker := "marker"
      now := .finite 1 }
  ending := .unsynced (.python (.raised "Too many open files"))

theorem raising_prepare_commits : ¬ JournalHistory [unsyncedPrepare] := by
  intro h
  have hinert := h.inert [] unsyncedPrepare [] rfl (.python (.raised "Too many open files")) rfl
  cases hinert

end Yatagarasu.Cmux
