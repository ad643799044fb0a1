import Mathlib.Data.List.Chain
import Mathlib.Logic.Function.Basic
import Yatagarasu.Cmux.JournalRuns

/-! A settle reads the row first and writes in a transaction of its own, so a settle on another
connection may write in between. The `UPDATE` does not ask what the row is by then. -/

namespace Yatagarasu.Cmux

open Durable InjectionJournal

/-- A settle that has not started, one that has planned its write, and one that is over. -/
inductive SettlePhase
  | reading
  | writing (settlement : Settlement)
  | returned (row : Option JournalRow)
  | raised (error : CmuxError)

/-- Two calls for one delivery, each on a connection of its own. -/
structure Contest where
  deliveryId : String
  call : Bool → SettleCall
  ending : Bool → Ending CmuxError
  same : ∀ party, (call party).deliveryId = deliveryId

structure SettleRace where
  journal : InjectionJournal
  phase : Bool → SettlePhase := fun _ => .reading

def SettlePhase.planned : Except CmuxError Settlement → SettlePhase
  | .ok settlement => .writing settlement
  | .error e => .raised e

def SettlePhase.ended : Except CmuxError (Option JournalRow) → SettlePhase
  | .ok row => .returned row
  | .error e => .raised e

namespace Contest

variable (c : Contest)

/-- The write transaction of a planned settle. -/
def write (party : Bool) (settlement : Settlement) (journal : InjectionJournal) :
    Except CmuxError (Option JournalRow) × InjectionJournal :=
  (c.ending party).transaction journal
    (.ok ((journal.record c.deliveryId settlement).get c.deliveryId,
      journal.record c.deliveryId settlement))

def step (s : SettleRace) (party : Bool) : SettleRace :=
  match s.phase party with
  | .reading => { s with
      phase := Function.update s.phase party
        (.planned ((c.call party).plan (s.journal.get c.deliveryId))) }
  | .writing settlement =>
    { journal := (c.write party settlement s.journal).2
      phase := Function.update s.phase party (.ended (c.write party settlement s.journal).1) }
  | _ => s

def run (order : List Bool) (journal : InjectionJournal) : SettleRace :=
  order.foldl c.step { journal }

/-- The journal at the start and after every step. -/
def journals (order : List Bool) (journal : InjectionJournal) : List InjectionJournal :=
  order.inits.map fun steps => (c.run steps journal).journal

end Contest

/-- The row of the delivery stays in its state or makes a legal transition. -/
def Moves (d : String) (journal journal' : InjectionJournal) : Prop :=
  ∀ row, journal.get d = some row → ∃ row', journal'.get d = some row' ∧
    (row'.state = row.state ∨ row'.state ∈ legalTransitions row.state)

/-- A proven injection is not downgraded. -/
def KeepsProof (d : String) (journal journal' : InjectionJournal) : Prop :=
  ∀ row row', journal.get d = some row → journal'.get d = some row' →
    row.state = .injected → row'.state ≠ .ambiguous

/-- What is asked of two settles in this order. -/
structure Lossless (c : Contest) (order : List Bool) (journal : InjectionJournal) : Prop where
  moves : (c.journals order journal).IsChain (Moves c.deliveryId)
  proven : (c.journals order journal).Pairwise (KeepsProof c.deliveryId)
  evidence : ∀ party value, (c.run order journal).phase party = .returned value →
    ∃ row, (c.run order journal).journal.get c.deliveryId = some row ∧
      ∀ event ∈ (c.call party).sourceEvents, event ∈ row.sourceEvents

/-- An order of the read and the write of both calls. -/
def BothSettle (order : List Bool) : Prop := order.Perm [true, true, false, false]

/-- Both calls read before either writes, and the writer in front is this one. -/
def Overlaps (order : List Bool) (early : Bool) : Prop :=
  ∃ reader, order = [reader, !reader, early, !early]

/-- The row admits the call, and nothing keeps its transaction from committing. -/
def Contest.Commits (c : Contest) (party : Bool) (row : JournalRow) : Prop :=
  (c.call party).state ≠ .prepared ∧ (c.call party).Legal row ∧
    ∀ e, c.ending party ≠ .rolledBack e

/-- The later write undoes what the earlier one did: both commit, and the later state does not
follow the earlier one, or the earlier call returned with an event that the later one lacks. -/
def Contest.Undoes (c : Contest) (early : Bool) (journal : InjectionJournal) : Prop :=
  ∃ row, journal.get c.deliveryId = some row ∧ c.Commits early row ∧ c.Commits (!early) row ∧
    (¬ ((c.call !early).state = (c.call early).state ∨
        (c.call !early).state ∈ legalTransitions (c.call early).state) ∨
      c.ending early = .synced ∧ ∃ event ∈ (c.call early).sourceEvents,
        event ∉ row.sourceEvents ∧ event ∉ (c.call !early).sourceEvents)

section Steps

variable {c : Contest} {s : SettleRace} {party : Bool} {journal journal' : InjectionJournal}
  {row : JournalRow} {settlement : Settlement} {d : String}

theorem moves_refl (d : String) (journal : InjectionJournal) : Moves d journal journal :=
  fun row hrow => ⟨row, hrow, Or.inl rfl⟩

theorem get_record_self (h : journal.get d = some row) :
    (journal.record d settlement).get d = some (settlement.apply row) := by
  rw [get_record, if_pos rfl, h]
  rfl

theorem moves_record (h : ∀ row, journal.get d = some row →
    settlement.state = row.state ∨ settlement.state ∈ legalTransitions row.state) :
    Moves d journal (journal.record d settlement) := by
  intro row hrow
  exact ⟨settlement.apply row, get_record_self hrow, h row hrow⟩

theorem step_reading (h : s.phase party = .reading) : c.step s party =
    { s with
      phase := Function.update s.phase party
        (.planned ((c.call party).plan (s.journal.get c.deliveryId))) } := by
  unfold Contest.step
  rw [h]

theorem step_raised {e : CmuxError} (h : s.phase party = .raised e) : c.step s party = s := by
  unfold Contest.step
  rw [h]

theorem step_writing (h : s.phase party = .writing settlement) : c.step s party =
    { journal := (c.write party settlement s.journal).2
      phase := Function.update s.phase party
        (.ended (c.write party settlement s.journal).1) } := by
  unfold Contest.step
  rw [h]

theorem phase_step_other {other : Bool} (h : other ≠ party) :
    (c.step s party).phase other = s.phase other := by
  unfold Contest.step
  split
  · exact Function.update_of_ne h _ _
  · exact Function.update_of_ne h _ _
  · rfl

/-- A call that nobody interrupts is `settle`. -/
theorem step_step (h : s.phase party = .reading) : c.step (c.step s party) party =
    { journal := (s.journal.settle (c.call party) (c.ending party)).2
      phase := Function.update s.phase party
        (.ended (s.journal.settle (c.call party) (c.ending party)).1) } := by
  have hread := step_reading (c := c) h
  cases hplan : (c.call party).plan (s.journal.get c.deliveryId) with
  | error e =>
    have hraised : (c.step s party).phase party = .raised e := by
      rw [hread, hplan]
      exact Function.update_self ..
    rw [step_raised hraised, hread]
    simp only [InjectionJournal.settle, c.same, hplan]
    rfl
  | ok settlement =>
    have hwriting : (c.step s party).phase party = .writing settlement := by
      rw [hread, hplan]
      exact Function.update_self ..
    rw [step_writing hwriting, hread]
    simp only [InjectionJournal.settle, c.same, hplan, Function.update_idem]
    rfl

/-- The write of a call that planned on `journal`, whatever the row is by now. -/
theorem step_planned (h : s.phase party =
      .planned ((c.call party).plan (journal.get c.deliveryId))) :
    ((c.step s party).journal = s.journal ∧ (∃ e, (c.step s party).phase party = .raised e) ∧
      ∀ row, journal.get c.deliveryId = some row → ¬ c.Commits party row) ∨
    (∃ row, journal.get c.deliveryId = some row ∧ c.Commits party row ∧
      (c.step s party).journal = s.journal.record c.deliveryId ((c.call party).over row) ∧
      (c.ending party = .synced ∧ (∃ value, (c.step s party).phase party = .returned value) ∨
        c.ending party ≠ .synced ∧ ∃ e, (c.step s party).phase party = .raised e)) := by
  cases hplan : (c.call party).plan (journal.get c.deliveryId) with
  | error e =>
    rw [hplan] at h
    have hraised : s.phase party = .raised e := h
    rw [step_raised hraised]
    refine Or.inl ⟨rfl, ⟨e, hraised⟩, ?_⟩
    rintro row hrow ⟨hstate, hlegal, -⟩
    rw [hrow, SettleCall.plan_of_legal hstate hlegal] at hplan
    cases hplan
  | ok settlement =>
    rw [hplan] at h
    have hwriting : s.phase party = .writing settlement := h
    obtain ⟨hstate, row, hrow, hlegal, rfl⟩ := SettleCall.plan_eq_ok hplan
    rw [step_writing hwriting]
    cases hending : c.ending party with
    | synced =>
      refine Or.inr ⟨row, hrow, ⟨hstate, hlegal, ?_⟩, ?_, Or.inl ⟨rfl, ?_⟩⟩
      · simp [hending]
      · simp [Contest.write, Ending.transaction, hending]
      · simp [Contest.write, Ending.transaction, hending, SettlePhase.ended]
    | rolledBack e =>
      refine Or.inl ⟨?_, ⟨e, ?_⟩, ?_⟩
      · simp [Contest.write, Ending.transaction, hending]
      · simp [Contest.write, Ending.transaction, hending, SettlePhase.ended]
      · rintro row - ⟨-, -, hcommits⟩
        exact hcommits e hending
    | unsynced e =>
      refine Or.inr ⟨row, hrow, ⟨hstate, hlegal, ?_⟩, ?_, Or.inr ⟨by simp, e, ?_⟩⟩
      · simp [hending]
      · simp [Contest.write, Ending.transaction, hending]
      · simp [Contest.write, Ending.transaction, hending, SettlePhase.ended]

end Steps

theorem bothSettle_cases {order : List Bool} (h : BothSettle order) :
    (∃ party, order = [party, party, !party, !party]) ∨ ∃ early, Overlaps order early := by
  unfold BothSettle at h
  unfold Overlaps
  have hlength := h.length_eq
  have hcount := h.count_eq true
  match order, hlength with
  | [w, x, y, z], _ =>
    clear h
    revert hcount w x y z
    decide

/-- The row stays, and stays proven if it is. -/
def StaysProven (d : String) (journal journal' : InjectionJournal) : Prop :=
  ∀ row, journal.get d = some row → ∃ row', journal'.get d = some row' ∧
    (row.state = .injected ∨ row.state = .acked → row'.state = .injected ∨ row'.state = .acked)

instance (d : String) : Trans (StaysProven d) (StaysProven d) (StaysProven d) where
  trans h h' row hrow := by
    obtain ⟨middle, hmiddle, hproven⟩ := h row hrow
    obtain ⟨row', hrow', hproven'⟩ := h' middle hmiddle
    exact ⟨row', hrow', fun hinjected => hproven' (hproven hinjected)⟩

theorem staysProven_of_moves {d : String} {journal journal' : InjectionJournal}
    (h : Moves d journal journal') : StaysProven d journal journal' := by
  intro row hrow
  obtain ⟨row', hrow', hmoves⟩ := h row hrow
  refine ⟨row', hrow', ?_⟩
  rintro (hstate | hstate)
  · simpa [hstate, legalTransitions] using hmoves
  · exact Or.inr (by simpa [hstate, legalTransitions] using hmoves)

theorem keepsProof_of_moves {d : String} {journals : List InjectionJournal}
    (h : journals.IsChain (Moves d)) : journals.Pairwise (KeepsProof d) := by
  have hstays : journals.IsChain (StaysProven d) := h.imp fun _ _ => staysProven_of_moves
  apply hstays.pairwise.imp
  intro journal journal' hproven row row' hrow hrow' hinjected hambiguous
  obtain ⟨later, hlater, hkeeps⟩ := hproven row hrow
  cases hlater.symm.trans hrow'
  rcases hkeeps (Or.inl hinjected) with hstate | hstate <;> rw [hambiguous] at hstate <;>
    cases hstate

section Orders

variable {c : Contest} {journal : InjectionJournal} {order : List Bool}

theorem moves_settle (c : Contest) (party : Bool) (journal : InjectionJournal) :
    Moves c.deliveryId journal (journal.settle (c.call party) (c.ending party)).2 := by
  intro row hrow
  obtain ⟨row', hrow', -, hmoves⟩ :=
    Attempt.exec_some (a := ⟨.settle (c.call party), c.ending party⟩) rfl hrow
  exact ⟨row', hrow', hmoves⟩

theorem evidence_settle {party : Bool} {value : Option JournalRow}
    (h : (journal.settle (c.call party) (c.ending party)).1 = .ok value) :
    ∃ row, (journal.settle (c.call party) (c.ending party)).2.get c.deliveryId = some row ∧
      ∀ event ∈ (c.call party).sourceEvents, event ∈ row.sourceEvents := by
  rw [← c.same party]
  exact Attempt.exec_supplied (a := ⟨.settle (c.call party), c.ending party⟩) rfl
    (Prod.ext h rfl)

theorem ended_eq_returned {result : Except CmuxError (Option JournalRow)}
    {value : Option JournalRow} (h : SettlePhase.ended result = .returned value) :
    result = .ok value := by
  cases result with
  | error e => cases h
  | ok row =>
    cases h
    rfl

theorem lossless_serial (c : Contest) (party : Bool) (journal : InjectionJournal) :
    Lossless c [party, party, !party, !party] journal := by
  let settled := fun (party : Bool) (journal : InjectionJournal) =>
    journal.settle (c.call party) (c.ending party)
  let after := (settled party journal).2
  let last := (settled (!party) after).2
  have hother : (!party) ≠ party := by cases party <;> decide
  have hread : (c.step { journal } party).journal = journal := by
    rw [step_reading rfl]
  have hfirst : c.step (c.step { journal } party) party =
      { journal := after
        phase := Function.update (fun _ => .reading) party
          (.ended (settled party journal).1) } := step_step rfl
  have hwaiting : (Function.update (fun _ => SettlePhase.reading) party
      (.ended (settled party journal).1)) (!party) = .reading :=
    Function.update_of_ne hother _ _
  have hreread : (c.step (c.step (c.step { journal } party) party) !party).journal = after := by
    rw [hfirst, step_reading hwaiting]
  have hsecond : c.run [party, party, !party, !party] journal =
      { journal := last
        phase := Function.update (Function.update (fun _ => .reading) party
          (.ended (settled party journal).1)) (!party) (.ended (settled (!party) after).1) } := by
    show c.step (c.step (c.step (c.step { journal } party) party) !party) (!party) = _
    rw [hfirst]
    exact step_step hwaiting
  have hjournals : c.journals [party, party, !party, !party] journal =
      [journal, journal, after, after, last] := by
    have hlast : (c.run [party, party, !party, !party] journal).journal = last := by rw [hsecond]
    have hmiddle : (c.step (c.step { journal } party) party).journal = after := by rw [hfirst]
    simp only [Contest.journals, List.inits, List.map_cons, List.map_nil]
    exact congrArg₂ _ rfl (congrArg₂ _ hread (congrArg₂ _ hmiddle (congrArg₂ _ hreread
      (congrArg₂ _ hlast rfl))))
  have hmoves : (c.journals [party, party, !party, !party] journal).IsChain
      (Moves c.deliveryId) := by
    rw [hjournals]
    simp only [List.isChain_cons_cons, List.isChain_singleton, and_true]
    exact ⟨moves_refl _ _, moves_settle c party journal, moves_refl _ _,
      moves_settle c (!party) after⟩
  refine ⟨hmoves, keepsProof_of_moves hmoves, ?_⟩
  intro asked value hreturned
  rw [hsecond] at hreturned ⊢
  dsimp only at hreturned ⊢
  by_cases hasked : asked = !party
  · subst hasked
    rw [Function.update_self] at hreturned
    exact evidence_settle (ended_eq_returned hreturned)
  · have hparty : asked = party := by cases asked <;> cases party <;> simp_all
    subst hparty
    rw [Function.update_of_ne hasked, Function.update_self] at hreturned
    obtain ⟨row, hrow, hsupplied⟩ := evidence_settle (ended_eq_returned hreturned)
    obtain ⟨row', hrow', hgrows, -⟩ :=
      Attempt.exec_some (a := ⟨.settle (c.call !asked), c.ending !asked⟩) rfl hrow
    exact ⟨row', hrow', fun event hevent => hgrows.evidence.mem (hsupplied event hevent)⟩

/-- Both calls have planned on the same row. -/
def Contest.bothRead (c : Contest) (journal : InjectionJournal) : SettleRace where
  journal := journal
  phase party := .planned ((c.call party).plan (journal.get c.deliveryId))

theorem bothRead_eq (c : Contest) (reader : Bool) (journal : InjectionJournal) :
    c.step (c.step { journal } reader) (!reader) = c.bothRead journal := by
  have hother : (!reader) ≠ reader := by cases reader <;> decide
  have hfirst : c.step { journal } reader =
      { journal
        phase := Function.update (fun _ => .reading) reader
          (.planned ((c.call reader).plan (journal.get c.deliveryId))) } := step_reading rfl
  have hwaiting : (c.step { journal } reader).phase (!reader) = .reading := by
    rw [hfirst]
    exact Function.update_of_ne (f := fun _ => SettlePhase.reading) hother _
  rw [step_reading hwaiting, hfirst]
  unfold Contest.bothRead
  congr
  funext party
  by_cases hparty : party = !reader
  · subst hparty
    exact Function.update_self ..
  · have hreader : party = reader := by cases party <;> cases reader <;> simp_all
    subst hreader
    dsimp only
    rw [Function.update_of_ne hparty, Function.update_self]

/-- What is asked, from the two writes. -/
theorem lossless_overlap (c : Contest) (reader early : Bool) (journal : InjectionJournal) :
    let written := c.step (c.bothRead journal) early
    let last := c.step written (!early)
    Lossless c [reader, !reader, early, !early] journal ↔
      Moves c.deliveryId journal written.journal ∧
      Moves c.deliveryId written.journal last.journal ∧
      ∀ party value, last.phase party = .returned value →
        ∃ row, last.journal.get c.deliveryId = some row ∧
          ∀ event ∈ (c.call party).sourceEvents, event ∈ row.sourceEvents := by
  intro written last
  have hread : (c.step { journal } reader).journal = journal := by
    rw [step_reading rfl]
  have hrun : c.run [reader, !reader, early, !early] journal = last := by
    show c.step (c.step (c.step (c.step { journal } reader) !reader) early) (!early) = last
    rw [bothRead_eq]
  have hwritten : (c.step (c.step (c.step { journal } reader) !reader) early).journal =
      written.journal := by rw [bothRead_eq]
  have hreads : (c.step (c.step { journal } reader) !reader).journal = journal := by
    rw [bothRead_eq]
    rfl
  have hjournals : c.journals [reader, !reader, early, !early] journal =
      [journal, journal, journal, written.journal, last.journal] := by
    simp only [Contest.journals, List.inits, List.map_cons, List.map_nil]
    exact congrArg₂ _ rfl (congrArg₂ _ hread (congrArg₂ _ hreads (congrArg₂ _ hwritten
      (congrArg₂ _ (congrArg SettleRace.journal hrun) rfl))))
  have hchain : (c.journals [reader, !reader, early, !early] journal).IsChain
      (Moves c.deliveryId) ↔ Moves c.deliveryId journal written.journal ∧
        Moves c.deliveryId written.journal last.journal := by
    rw [hjournals]
    simp only [List.isChain_cons_cons, List.isChain_singleton, and_true, moves_refl, true_and]
  constructor
  · intro h
    have hevidence := h.evidence
    rw [hrun] at hevidence
    exact ⟨(hchain.mp h.moves).1, (hchain.mp h.moves).2, hevidence⟩
  · rintro ⟨hfirst, hsecond, hevidence⟩
    have hmoves := hchain.mpr ⟨hfirst, hsecond⟩
    refine ⟨hmoves, keepsProof_of_moves hmoves, ?_⟩
    rw [hrun]
    exact hevidence

theorem moves_over {row : JournalRow} {party : Bool} (hrow : journal.get c.deliveryId = some row)
    (hcommits : c.Commits party row) :
    Moves c.deliveryId journal (journal.record c.deliveryId ((c.call party).over row)) := by
  apply moves_record
  intro row' hrow'
  cases hrow.symm.trans hrow'
  exact hcommits.2.1.imp Eq.symm id

theorem lossless_overlap_iff (c : Contest) (reader early : Bool) (journal : InjectionJournal) :
    Lossless c [reader, !reader, early, !early] journal ↔ ¬ c.Undoes early journal := by
  apply (lossless_overlap c reader early journal).trans
  let d := c.deliveryId
  let written := c.step (c.bothRead journal) early
  let last := c.step written (!early)
  have hother : (!early) ≠ early := by cases early <;> decide
  have hlate : written.phase (!early) =
      .planned ((c.call !early).plan (journal.get c.deliveryId)) := phase_step_other hother
  have hearly : last.phase early = written.phase early := phase_step_other hother.symm
  have hparty : ∀ party, party = early ∨ party = !early := by
    intro party
    cases party <;> cases early <;> simp
  have hready : (c.bothRead journal).phase early =
      .planned ((c.call early).plan (journal.get c.deliveryId)) := rfl
  rcases step_planned hready with
    ⟨hfirst, ⟨e, hraised⟩, hinert⟩ | ⟨row, hrow, hcommits, hfirst, hending⟩
  · -- the earlier write comes to nothing, so the later one finds the row that it read
    have hundone : ¬ c.Undoes early journal := by
      rintro ⟨row, hrow, hcommits, -⟩
      exact hinert row hrow hcommits
    refine iff_of_true ?_ hundone
    have hjournal : written.journal = journal := hfirst
    rcases step_planned hlate with ⟨hsecond, ⟨e', hraised'⟩, -⟩ | ⟨row, hrow, hcommits, hsecond, -⟩
    · refine ⟨?_, ?_, ?_⟩
      · rw [hfirst]
        exact moves_refl d journal
      · rw [hsecond]
        exact moves_refl d _
      · intro party value hreturned
        rcases hparty party with rfl | rfl
        · rw [hearly.trans hraised] at hreturned
          cases hreturned
        · rw [hraised'] at hreturned
          cases hreturned
    · rw [hjournal] at hsecond
      refine ⟨?_, ?_, ?_⟩
      · rw [hfirst]
        exact moves_refl d journal
      · rw [hsecond, hjournal]
        exact moves_over hrow hcommits
      · intro party value hreturned
        rcases hparty party with rfl | rfl
        · rw [hearly.trans hraised] at hreturned
          cases hreturned
        · refine ⟨_, by rw [hsecond]; exact get_record_self hrow, ?_⟩
          intro event hevent
          exact FirstSeen.mem_noteAll.mpr (Or.inr hevent)
  · have hwritten : written.journal.get c.deliveryId =
        some ((c.call early).over row |>.apply row) := by
      rw [hfirst]
      exact get_record_self hrow
    have hmoves : Moves c.deliveryId journal written.journal := by
      rw [hfirst]
      exact moves_over hrow hcommits
    rcases step_planned hlate with
      ⟨hsecond, ⟨e, hraised⟩, hinert⟩ | ⟨row', hrow', hcommits', hsecond, hending'⟩
    · -- the later write comes to nothing
      have hundone : ¬ c.Undoes early journal := by
        rintro ⟨row, hrow, -, hcommits, -⟩
        exact hinert row hrow hcommits
      refine iff_of_true ⟨hmoves, ?_, ?_⟩ hundone
      · rw [hsecond]
        exact moves_refl d _
      · intro party value hreturned
        rcases hparty party with rfl | rfl
        · refine ⟨_, by rw [hsecond]; exact hwritten, ?_⟩
          intro event hevent
          exact FirstSeen.mem_noteAll.mpr (Or.inr hevent)
        · rw [hraised] at hreturned
          cases hreturned
    · cases hrow.symm.trans hrow'
      have hlast : last.journal.get c.deliveryId =
          some (((c.call !early).over row).apply ((c.call early).over row |>.apply row)) := by
        rw [hsecond]
        exact get_record_self hwritten
      constructor
      · rintro ⟨-, hfollows, hevidence⟩ ⟨row', hrow', -, -, hbad⟩
        cases hrow.symm.trans hrow'
        rcases hbad with hstate | ⟨hsynced, event, hevent, hnew, hlacks⟩
        · obtain ⟨row', hrow', hmoves'⟩ := hfollows _ hwritten
          cases hlast.symm.trans hrow'
          exact hstate hmoves'
        · rcases hending with ⟨-, value, hreturned⟩ | ⟨hunsynced, -⟩
          · obtain ⟨row', hrow', hsupplied⟩ := hevidence early value (hearly.trans hreturned)
            cases hlast.symm.trans hrow'
            rcases FirstSeen.mem_noteAll.mp (hsupplied event hevent) with hseen | hseen
            · exact hnew hseen
            · exact hlacks hseen
          · exact absurd hsynced hunsynced
      · intro hundone
        have hfollows : (c.call !early).state = (c.call early).state ∨
            (c.call !early).state ∈ legalTransitions (c.call early).state := by
          by_contra hbad
          exact hundone ⟨row, hrow, hcommits, hcommits', Or.inl hbad⟩
        refine ⟨hmoves, ?_, ?_⟩
        · rw [hsecond]
          apply moves_record
          intro row' hrow'
          cases hwritten.symm.trans hrow'
          exact hfollows
        · intro party value hreturned
          refine ⟨_, hlast, ?_⟩
          intro event hevent
          apply FirstSeen.mem_noteAll.mpr
          rcases hparty party with rfl | rfl
          · by_contra hlost
            rw [not_or] at hlost
            rcases hending with ⟨hsynced, -⟩ | ⟨-, e, hraised⟩
            · exact hundone ⟨row, hrow, hcommits, hcommits',
                Or.inr ⟨hsynced, event, hevent, hlost.1, hlost.2⟩⟩
            · rw [hearly.trans hraised] at hreturned
              cases hreturned
          · exact Or.inr hevent

/-- Two settles lose nothing, in every order of their reads and writes, exactly when neither
write undoes one that landed after its read. -/
theorem racing_settles_iff (c : Contest) (order : List Bool) (journal : InjectionJournal)
    (horder : BothSettle order) : Lossless c order journal ↔
      ¬ ∃ early, Overlaps order early ∧ c.Undoes early journal := by
  rcases bothSettle_cases horder with ⟨party, rfl⟩ | ⟨early, reader, rfl⟩
  · refine iff_of_true (lossless_serial c party journal) ?_
    rintro ⟨early, ⟨reader, horder⟩, -⟩
    cases party <;> cases reader <;> simp at horder
  · rw [lossless_overlap_iff]
    apply not_congr
    constructor
    · intro hundoes
      exact ⟨early, ⟨reader, rfl⟩, hundoes⟩
    · rintro ⟨other, ⟨reader', horder⟩, hundoes⟩
      cases horder
      exact hundoes

end Orders

def racedRow : JournalRow :=
  { deliveryId := "delivery-1", bindingId := "binding-1", seatId := "alice", marker := "marker"
    state := .prepared, preparedAt := .finite 1 }

/-- One call has proof of the injection, the other gives it up as ambiguous. -/
def sampleContest : Contest where
  deliveryId := "delivery-1"
  call proven :=
    { deliveryId := "delivery-1", state := if proven then .injected else .ambiguous
      now := .finite 2, sourceEvents := if proven then ["surface.input_sent"] else [] }
  ending _ := .synced
  same _ := rfl

theorem proof_downgraded : BothSettle [true, false, true, false] ∧
    ¬ Lossless sampleContest [true, false, true, false] [racedRow] := by
  have horder : BothSettle [true, false, true, false] := by
    unfold BothSettle
    decide
  refine ⟨horder, ?_⟩
  intro h
  apply (lossless_overlap_iff sampleContest true true [racedRow]).mp h
  refine ⟨racedRow, rfl, ⟨?_, ?_, nofun⟩, ⟨?_, ?_, nofun⟩, Or.inl ?_⟩ <;> decide

/-- Two proofs of the injection, one of which has seen more. -/
def agreeingContest : Contest where
  deliveryId := "delivery-1"
  call first :=
    { deliveryId := "delivery-1", state := .injected, now := .finite 2
      sourceEvents := "surface.input_sent" ::
        if first then [] else ["workspace.prompt.submitted"] }
  ending _ := .synced
  same _ := rfl

/-- Both calls have read the row, and the longer proof is written over the shorter one. -/
theorem racing_settles_sample :
    Lossless agreeingContest [true, false, true, false] [racedRow] := by
  have horder : BothSettle [true, false, true, false] := by
    unfold BothSettle
    decide
  apply (racing_settles_iff agreeingContest [true, false, true, false] [racedRow] horder).mpr
  rintro ⟨early, ⟨reader, hoverlap⟩, row, -, -, -, hundoes⟩
  obtain rfl : early = true := by
    cases reader <;> simp at hoverlap
    exact hoverlap
  rcases hundoes with hstate | ⟨-, event, hevent, -, hlacks⟩
  · exact hstate (.inl rfl)
  · obtain rfl := List.mem_singleton.mp hevent
    exact hlacks List.mem_cons_self

end Yatagarasu.Cmux
