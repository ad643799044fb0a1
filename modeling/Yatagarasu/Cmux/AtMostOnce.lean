import Yatagarasu.Cmux.Injector
import Yatagarasu.Core.Runs

/-! Whoever commits the row of a delivery holds its only ticket to touch the pane. The primary key
decides who that is, and a crash destroys the ticket without giving it back. -/

namespace Yatagarasu.Cmux

open Transition

/-- The calls that may still touch the pane: their row is committed and nothing is sent. -/
def CallPhase.armed : CallPhase → Bool
  | .journaling .syncing _ _ _ | .journaling .confirming _ _ _ | .sending _ _ => true
  | _ => false

/-- The row that a call is about to commit. -/
def CallPhase.committing? : CallPhase → Option JournalRow
  | .journaling .committing _ _ row => some row
  | _ => none

/-- The row that a call presents to the journal. -/
def CallPhase.row? : CallPhase → Option JournalRow
  | .journaling _ _ _ row => some row
  | _ => none

def Deed.sends (deliveryId : String) : Deed → Bool
  | .sent sentId _ _ => sentId = deliveryId
  | _ => false

def Deed.isRecord : Deed → Bool
  | .recorded _ => true
  | _ => false

section Step

variable [Host] [PyText] {authority : MarkerAuthority} {call : DeliverCall}
  {rows : InjectionJournal} {free : Bool} {phase phase' : CallPhase} {deeds : List Deed}
  {response : Response}

/-- Everything that one step of a call can do to the journal, to the pane and to its own ticket. -/
inductive Advanced (call : DeliverCall) (rows : InjectionJournal) (free : Bool)
    (phase : CallPhase) : CallPhase → List Deed → Prop
  | quiet {phase' : CallPhase} {deeds : List Deed}
      (hdeeds : ∀ deed ∈ deeds, deed.isRecord = false ∧ ∀ d, deed.sends d = false)
      (hrefused : ∀ row, .refused row ∈ deeds → rows.Refuses row)
      (hlock : phase'.inTransaction → phase.inTransaction ∨ free)
      (harmed : phase'.armed → phase.armed)
      (hrow : ∀ row, phase'.row? = some row →
        row.deliveryId = call.deliveryId ∨ phase.row? = some row)
      (hfresh : ∀ row, phase'.committing? = some row → ¬ rows.Refuses row) :
      Advanced call rows free phase phase' deeds
  | records {prepared : Prepared} {surface : String} {row : JournalRow}
      (hphase : phase = .journaling .committing prepared surface row) :
      Advanced call rows free phase (.journaling .syncing prepared surface row) [.recorded row]
  | sends {prepared : Prepared} {surface : String} (hphase : phase = .sending prepared surface) :
      Advanced call rows free phase (.touching prepared surface)
        [.sent call.deliveryId surface prepared.text]

omit [Host] [PyText] in
/-- A step without a deed to a phase that commits nothing next. -/
theorem Advanced.silent (hlock : phase'.inTransaction → phase.inTransaction ∨ free)
    (harmed : phase'.armed → phase.armed)
    (hrow : ∀ row, phase'.row? = some row →
      row.deliveryId = call.deliveryId ∨ phase.row? = some row)
    (hfresh : phase'.committing? = none) : Advanced call rows free phase phase' [] := by
  refine .quiet (fun _ hdeed => ?_) (fun _ hrefused => ?_) hlock harmed hrow fun row hcommits => ?_
  · cases hdeed
  · cases hrefused
  · rw [hfresh] at hcommits
    cases hcommits

omit [Host] [PyText] in
/-- A phase outside the journal that is reached without a deed. -/
theorem Advanced.outside (hlock : phase'.inTransaction = false) (harmed : phase'.armed = false)
    (hrow : phase'.row? = none) (hfresh : phase'.committing? = none) :
    Advanced call rows free phase phase' [] := by
  refine .silent (fun h => ?_) (fun h => ?_) (fun row h => ?_) hfresh
  · rw [hlock] at h
    cases h
  · rw [harmed] at h
    cases h
  · rw [hrow] at h
    cases h

theorem advanced_mint : Advanced call rows free phase (call.mint authority) [] := by
  unfold DeliverCall.mint
  split
  · exact .outside rfl rfl rfl rfl
  · exact .outside rfl rfl rfl rfl
  · split
    · exact .outside rfl rfl rfl rfl
    · exact .outside rfl rfl rfl rfl
    · exact .outside rfl rfl rfl rfl

omit [Host] [PyText] in
theorem advanced_transportRaised (error : Raised) :
    Advanced call rows free phase (call.transportRaised error) [] := by
  unfold DeliverCall.transportRaised
  split <;> exact .outside rfl rfl rfl rfl

omit [Host] [PyText] in
theorem advanced_observed (prepared : Prepared) (seen : List String) (name : String) :
    Advanced call rows free phase (call.observed prepared seen name) [] := by
  unfold DeliverCall.observed
  generalize (if name ∈ seen then seen else seen ++ [name]) = names
  dsimp only
  split <;> exact .outside rfl rfl rfl rfl

omit [Host] [PyText] in
/-- The statements of `prepare`, one at a time. -/
theorem advanced_journal {stage : JournalStage} {prepared : Prepared} {surface : String}
    {row : JournalRow}
    (h : DeliverCall.journal rows free prepared surface row stage response = some (phase', deeds)) :
    Advanced call rows free (.journaling stage prepared surface row) phase' deeds := by
  have hsame : ∀ stage' row', (CallPhase.journaling stage' prepared surface row).row? = some row' →
      row'.deliveryId = call.deliveryId ∨
        (CallPhase.journaling stage prepared surface row).row? = some row' :=
    fun _ _ hrow => Or.inr hrow
  have hunarmed : ∀ {P : Prop}, false = true → P := fun h => absurd h Bool.false_ne_true
  unfold DeliverCall.journal at h
  split at h
  · -- `BEGIN IMMEDIATE` waits for the file
    split at h
    · rename_i hfree
      cases h
      exact .silent (fun _ => Or.inr hfree) hunarmed (hsame .inserting) rfl
    · cases h
  · cases h
    exact .outside rfl rfl rfl rfl
  · split at h
    · rename_i hrefuses
      cases h
      refine .quiet (fun deed hdeed => ?_) (fun row' hrow' => ?_) (fun _ => Or.inl rfl) hunarmed
        (hsame .rollingBack) fun row' hcommits => ?_
      · cases List.mem_singleton.mp hdeed
        exact ⟨rfl, fun _ => rfl⟩
      · cases List.mem_singleton.mp hrow'
        exact hrefuses
      · cases hcommits
    · rename_i hrefuses
      cases h
      refine .quiet (fun _ hdeed => ?_) (fun _ hrefused => ?_) (fun _ => Or.inl rfl) hunarmed
        (hsame .committing) fun row' hcommits => ?_
      · cases hdeed
      · cases hrefused
      · cases hcommits
        exact hrefuses
  · cases h
    exact .records rfl
  · cases h
    exact .silent hunarmed hunarmed (hsame .explaining) rfl
  · cases h
    exact .outside rfl rfl rfl rfl
  · cases h
    exact .silent hunarmed (fun _ => rfl) (hsame .confirming) rfl
  · cases h
    exact .outside rfl rfl rfl rfl
  · split at h
    · cases h
      exact .silent hunarmed (fun _ => rfl) (fun _ hrow => by cases hrow) rfl
    · cases h
      exact .outside rfl rfl rfl rfl
  · cases h

theorem advanced_of_advance
    (h : call.advance authority rows free phase response = some (phase', deeds)) :
    Advanced call rows free phase phase' deeds := by
  unfold DeliverCall.advance at h
  split at h
  · cases h
    exact advanced_mint
  · cases h
    exact .outside rfl rfl rfl rfl
  · cases h
    unfold DeliverCall.notSubmitted
    split <;> exact .outside rfl rfl rfl rfl
  · cases h
    refine .silent (fun h => absurd h Bool.false_ne_true) (fun h => absurd h Bool.false_ne_true)
      (fun row hrow => ?_) rfl
    cases hrow
    exact Or.inl rfl
  · cases h
    exact .outside rfl rfl rfl rfl
  · exact advanced_journal h
  · cases h
    exact .sends rfl
  · cases h
    exact .outside rfl rfl rfl rfl
  · cases h
    exact advanced_transportRaised _
  · cases h
    exact .outside rfl rfl rfl rfl
  · cases h
    refine .quiet (fun deed hdeed => ?_) (fun row hrow => ?_)
      (fun h => absurd h Bool.false_ne_true) (fun h => absurd h Bool.false_ne_true)
      (fun row hrow => ?_) fun row hcommits => ?_
    · cases List.mem_singleton.mp hdeed
      exact ⟨rfl, fun _ => rfl⟩
    · cases List.mem_singleton.mp hrow
    · cases hrow
    · cases hcommits
  · cases h
    exact advanced_transportRaised _
  · cases h
    exact advanced_observed _ _ _
  · cases h
    exact .outside rfl rfl rfl rfl
  · cases h
    exact .outside rfl rfl rfl rfl
  · cases h

end Step

section System

variable [Host] [PyText] {authority : MarkerAuthority} {s s' start : Injections}
  {deeds new : List Deed} {d : String}

/-- Every step is a new call, one step of a call, or a crash. -/
inductive Moved (s : Injections) : List Deed → Injections → Prop
  | started {i : Nat} {call : DeliverCall} (hfree : s.calls i = none) :
      Moved s [] { s with calls := Function.update s.calls i (some (call, .minting)) }
  | advanced {i : Nat} {call : DeliverCall} {phase phase' : CallPhase} {deeds : List Deed}
      (hcall : s.calls i = some (call, phase))
      (hadvanced : Advanced call s.journal s.writer.isNone phase phase' deeds) :
      Moved s deeds
        { journal := s.journal ++ recordedRows deeds
          writer := if phase'.inTransaction then some i
            else if s.writer = some i then none else s.writer
          calls := Function.update s.calls i (some (call, phase')) }
  | crashed (dead : Nat → Bool) :
      Moved s [] { s with
        writer := s.writer.filter fun i => ¬ dead i
        calls := fun i => if dead i then none else s.calls i }

theorem moved_of_step (h : s.Step authority deeds s') : Moved s deeds s' := by
  obtain ⟨action, h⟩ := h
  unfold Injections.next at h
  split at h
  · split at h
    · cases h
    · rename_i hfree
      cases h
      exact .started (by simpa using hfree)
  · split at h
    · cases h
    · rename_i hcall
      split at h
      · cases h
      · rename_i hadvance
        cases h
        exact .advanced hcall (advanced_of_advance hadvance)
  · cases h
    exact .crashed _

/-- What the lock and the primary key keep true of every call. -/
structure Guarded (s : Injections) : Prop where
  presents : ∀ i call phase row, s.calls i = some (call, phase) → phase.row? = some row →
    row.deliveryId = call.deliveryId
  locked : ∀ i call phase, s.calls i = some (call, phase) → phase.inTransaction → s.writer = some i
  held : ∀ i, s.writer = some i → ∃ call phase, s.calls i = some (call, phase) ∧ phase.inTransaction
  fresh : ∀ i call phase row, s.calls i = some (call, phase) → phase.committing? = some row →
    ¬ s.journal.Refuses row

omit [Host] [PyText] in
/-- A call of the next state is the one that moved, or was there before. -/
theorem calls_update {i j : Nat} {call call' : DeliverCall} {phase phase' : CallPhase}
    (h : Function.update s.calls i (some (call', phase')) j = some (call, phase)) :
    (j = i ∧ call = call' ∧ phase = phase') ∨ (j ≠ i ∧ s.calls j = some (call, phase)) := by
  by_cases hj : j = i
  · subst hj
    rw [Function.update_self] at h
    cases h
    exact Or.inl ⟨rfl, rfl, rfl⟩
  · rw [Function.update_of_ne hj] at h
    exact Or.inr ⟨hj, h⟩

omit [Host] [PyText] in
theorem committing_inTransaction {phase : CallPhase} {row : JournalRow}
    (h : phase.committing? = some row) : phase.inTransaction := by
  unfold CallPhase.committing? at h
  split at h
  · rfl
  · cases h

omit [Host] [PyText] in
theorem recordedRows_quiet (h : ∀ deed ∈ deeds, deed.isRecord = false) : recordedRows deeds = [] := by
  unfold recordedRows
  rw [List.filterMap_eq_nil_iff]
  intro deed hdeed
  have hnone := h deed hdeed
  cases deed with
  | recorded row => cases hnone
  | refused | sent | pressed => rfl

omit [Host] [PyText] in
theorem guarded_started (h : Guarded s) {i : Nat} {call : DeliverCall} (hfree : s.calls i = none) :
    Guarded { s with calls := Function.update s.calls i (some (call, .minting)) } := by
  refine ⟨?_, ?_, ?_, ?_⟩
  · intro j other phase row hcall hrow
    rcases calls_update hcall with ⟨-, -, rfl⟩ | ⟨-, hold⟩
    · cases hrow
    · exact h.presents j other phase row hold hrow
  · intro j other phase hcall hlock
    rcases calls_update hcall with ⟨-, -, rfl⟩ | ⟨-, hold⟩
    · cases hlock
    · exact h.locked j other phase hold hlock
  · intro j hwriter
    obtain ⟨other, phase, hcall, hlock⟩ := h.held j hwriter
    have hne : j ≠ i := by
      rintro rfl
      rw [hfree] at hcall
      cases hcall
    exact ⟨other, phase, (Function.update_of_ne hne _ _).trans hcall, hlock⟩
  · intro j other phase row hcall hcommits
    rcases calls_update hcall with ⟨-, -, rfl⟩ | ⟨-, hold⟩
    · cases hcommits
    · exact h.fresh j other phase row hold hcommits

omit [Host] [PyText] in
theorem guarded_crashed (h : Guarded s) (dead : Nat → Bool) : Guarded { s with
    writer := s.writer.filter fun i => ¬ dead i
    calls := fun i => if dead i then none else s.calls i } := by
  have halive : ∀ i call phase, (if dead i then none else s.calls i) = some (call, phase) →
      dead i = false ∧ s.calls i = some (call, phase) := by
    intro i call phase hcall
    split at hcall
    · cases hcall
    · rename_i hdead
      exact ⟨by simpa using hdead, hcall⟩
  refine ⟨?_, ?_, ?_, ?_⟩
  · intro i call phase row hcall
    exact h.presents i call phase row (halive i call phase hcall).2
  · intro i call phase hcall hlock
    obtain ⟨hdead, hold⟩ := halive i call phase hcall
    dsimp only
    rw [h.locked i call phase hold hlock]
    simp [hdead]
  · intro i hwriter
    obtain ⟨hold, hdead⟩ := Option.filter_eq_some_iff.mp hwriter
    obtain ⟨call, phase, hcall, hlock⟩ := h.held i hold
    have halive : dead i = false := by simpa using hdead
    exact ⟨call, phase, by simp [halive, hcall], hlock⟩
  · intro i call phase row hcall
    exact h.fresh i call phase row (halive i call phase hcall).2

section Advance

variable {i : Nat} {call : DeliverCall} {phase phase' : CallPhase}

omit [Host] [PyText] in
/-- A call enters the transaction only when the file is free. -/
theorem Advanced.lock {rows : InjectionJournal} {free : Bool}
    (h : Advanced call rows free phase phase' deeds) (hlock : phase'.inTransaction) :
    phase.inTransaction ∨ free := by
  cases h with
  | quiet _ _ hentered => exact hentered hlock
  | records | sends => cases hlock

omit [Host] [PyText] in
theorem Advanced.presents {rows : InjectionJournal} {free : Bool} {row : JournalRow}
    (h : Advanced call rows free phase phase' deeds)
    (hbefore : ∀ row, phase.row? = some row → row.deliveryId = call.deliveryId)
    (hrow : phase'.row? = some row) : row.deliveryId = call.deliveryId := by
  cases h with
  | quiet _ _ _ _ hsame =>
    rcases hsame row hrow with hown | hold
    · exact hown
    · exact hbefore row hold
  | records hphase =>
    cases hrow
    exact hbefore _ (by rw [hphase]; rfl)
  | sends => cases hrow

omit [Host] [PyText] in
/-- Only the holder of the lock changes the journal. -/
theorem Advanced.rows_eq {rows : InjectionJournal} {free : Bool}
    (h : Advanced call rows free phase phase' deeds) (hlock : phase.inTransaction = false) :
    recordedRows deeds = [] := by
  cases h with
  | quiet hdeeds => exact recordedRows_quiet fun deed hdeed => (hdeeds deed hdeed).1
  | records hphase =>
    rw [hphase] at hlock
    cases hlock
  | sends => rfl

omit [Host] [PyText] in
theorem guarded_advanced (h : Guarded s) (hcall : s.calls i = some (call, phase))
    (hadvanced : Advanced call s.journal s.writer.isNone phase phase' deeds) :
    Guarded { journal := s.journal ++ recordedRows deeds
              writer := if phase'.inTransaction then some i
                else if s.writer = some i then none else s.writer
              calls := Function.update s.calls i (some (call, phase')) } := by
  -- while another call holds the lock, this one is outside the transaction
  have hothers : ∀ j, j ≠ i → s.writer = some j →
      phase.inTransaction = false ∧ phase'.inTransaction = false := by
    intro j hj hwriter
    have hout : phase.inTransaction = false := by
      by_contra hin
      have hmine := h.locked i call phase hcall (by simpa using hin)
      rw [hwriter] at hmine
      exact hj (Option.some.inj hmine)
    refine ⟨hout, ?_⟩
    by_contra hin
    rcases hadvanced.lock (by simpa using hin) with hold | hfree
    · rw [hout] at hold
      cases hold
    · rw [hwriter] at hfree
      cases hfree
  refine ⟨?_, ?_, ?_, ?_⟩
  · intro j other phase₁ row hother hrow
    rcases calls_update hother with ⟨rfl, rfl, rfl⟩ | ⟨-, hold⟩
    · exact hadvanced.presents (fun row => h.presents j _ phase row hcall) hrow
    · exact h.presents j other phase₁ row hold hrow
  · intro j other phase₁ hother hlock
    dsimp only
    rcases calls_update hother with ⟨rfl, rfl, rfl⟩ | ⟨hj, hold⟩
    · rw [if_pos hlock]
    · have hwriter := h.locked j other phase₁ hold hlock
      rw [if_neg (by rw [(hothers j hj hwriter).2]; nofun), hwriter,
        if_neg fun heq => hj (Option.some.inj heq)]
  · intro j hwriter
    dsimp only at hwriter
    split at hwriter
    · rename_i hlock
      cases hwriter
      exact ⟨call, phase', Function.update_self .., hlock⟩
    · split at hwriter
      · cases hwriter
      · rename_i hnot
        obtain ⟨other, phase₁, hother, hlock⟩ := h.held j hwriter
        have hj : j ≠ i := by
          rintro rfl
          exact hnot hwriter
        exact ⟨other, phase₁, (Function.update_of_ne hj _ _).trans hother, hlock⟩
  · intro j other phase₁ row hother hcommits
    dsimp only
    rcases calls_update hother with ⟨rfl, rfl, rfl⟩ | ⟨hj, hold⟩
    · cases hadvanced with
      | quiet hdeeds _ _ _ _ hfresh =>
        rw [recordedRows_quiet fun deed hdeed => (hdeeds deed hdeed).1, List.append_nil]
        exact hfresh row hcommits
      | records | sends => cases hcommits
    · have hwriter := h.locked j other phase₁ hold (committing_inTransaction hcommits)
      rw [hadvanced.rows_eq (hothers j hj hwriter).1, List.append_nil]
      exact h.fresh j other phase₁ row hold hcommits

end Advance

omit [Host] [PyText] in
theorem guarded_moved (h : Guarded s) (hmoved : Moved s deeds s') : Guarded s' := by
  cases hmoved with
  | started hfree => exact guarded_started h hfree
  | advanced hcall hadvanced => exact guarded_advanced h hcall hadvanced
  | crashed dead => exact guarded_crashed h dead

/-- The calls of a delivery that may still touch the pane are all `i`. -/
def OnlyArmed (s : Injections) (d : String) (i : Nat) : Prop :=
  ∀ j call phase, s.calls j = some (call, phase) → call.deliveryId = d → phase.armed → j = i

def NoneArmed (s : Injections) (d : String) : Prop :=
  ∀ j call phase, s.calls j = some (call, phase) → call.deliveryId = d → phase.armed = false

def sends (d : String) (deeds : List Deed) : Nat := deeds.countP (Deed.sends d)

/-- Nobody has committed the row of the delivery, one call has and may send, or nobody may send
any more. -/
inductive Ticket (deeds : List Deed) (s : Injections) (d : String) : Prop
  | unclaimed (hrow : ¬ s.journal.Holds d) (hnone : NoneArmed s d) (hsent : sends d deeds = 0)
  | held {i : Nat} (hrow : s.journal.Holds d)
      (hrecorded : ∃ row, .recorded row ∈ deeds ∧ row.deliveryId = d) (hone : OnlyArmed s d i)
      (hsent : sends d deeds = 0)
  | spent (hrow : s.journal.Holds d) (hnone : NoneArmed s d) (hsent : sends d deeds ≤ 1)

omit [Host] [PyText] in
/-- A step that commits nothing, sends nothing and arms no call keeps the ticket. -/
theorem Ticket.keep (h : Ticket deeds s d) (hjournal : s'.journal.Holds d ↔ s.journal.Holds d)
    (hsends : sends d new = 0)
    (harmed : ∀ j call phase, s'.calls j = some (call, phase) → call.deliveryId = d →
      phase.armed → ∃ phase', s.calls j = some (call, phase') ∧ phase'.armed) :
    Ticket (deeds ++ new) s' d := by
  have hcount : sends d (deeds ++ new) = sends d deeds := by
    unfold sends at hsends ⊢
    rw [List.countP_append, hsends, Nat.add_zero]
  have hnone : NoneArmed s d → NoneArmed s' d := by
    intro hnone j call phase hcall hown
    by_contra hin
    obtain ⟨phase', hbefore, harmed'⟩ := harmed j call phase hcall hown (by simpa using hin)
    rw [hnone j call phase' hbefore hown] at harmed'
    cases harmed'
  cases h with
  | unclaimed hrow hbefore hsent =>
    exact .unclaimed (fun hholds => hrow (hjournal.mp hholds)) (hnone hbefore) (hcount.trans hsent)
  | @held i hrow hrecorded hone hsent =>
    obtain ⟨row, hmem, hown⟩ := hrecorded
    refine .held (i := i) (hjournal.mpr hrow) ⟨row, List.mem_append_left _ hmem, hown⟩ ?_
      (hcount.trans hsent)
    intro j call phase hcall hdelivery hin
    obtain ⟨phase', hbefore, harmed'⟩ := harmed j call phase hcall hdelivery hin
    exact hone j call phase' hbefore hdelivery harmed'
  | spent hrow hbefore hsent =>
    exact .spent (hjournal.mpr hrow) (hnone hbefore) (hcount.trans_le hsent)

omit [Host] [PyText] in
/-- A call that is armed holds the ticket. -/
theorem Ticket.of_armed {i : Nat} {call : DeliverCall} {phase : CallPhase} (h : Ticket deeds s d)
    (hcall : s.calls i = some (call, phase)) (hown : call.deliveryId = d) (hin : phase.armed) :
    s.journal.Holds d ∧ (∃ row, .recorded row ∈ deeds ∧ row.deliveryId = d) ∧ OnlyArmed s d i ∧
      sends d deeds = 0 := by
  cases h with
  | unclaimed _ hnone | spent _ hnone =>
    rw [hnone i call phase hcall hown] at hin
    cases hin
  | held hrow hrecorded hone hsent =>
    rw [← hone i call phase hcall hown hin] at hone
    exact ⟨hrow, hrecorded, hone, hsent⟩

section Advance

variable {i : Nat} {call : DeliverCall} {phase : CallPhase} {prepared : Prepared}
  {surface : String} {row : JournalRow}

omit [Host] [PyText] in
/-- The commit hands the ticket to the call that made it. -/
theorem ticket_records (h : Ticket deeds s d)
    (hcall : s.calls i = some (call, .journaling .committing prepared surface row))
    (hpresents : row.deliveryId = call.deliveryId) (hfresh : ¬ s.journal.Refuses row)
    (writer : Option Nat) :
    Ticket (deeds ++ [.recorded row])
      { journal := s.journal ++ [row], writer
        calls := Function.update s.calls i
          (some (call, .journaling .syncing prepared surface row)) } d := by
  by_cases hown : row.deliveryId = d
  · have hunclaimed : ¬ s.journal.Holds d := fun hholds =>
      hfresh (Or.inl (InjectionJournal.get_isSome_iff.mpr (hown ▸ hholds)))
    cases h with
    | held hrow | spent hrow => exact absurd hrow hunclaimed
    | unclaimed _ hnone hsent =>
      refine .held (i := i) ?_ ⟨row, by simp, hown⟩ ?_ ?_
      · exact InjectionJournal.holds_append.mpr (Or.inr (InjectionJournal.holds_singleton.mpr hown))
      · intro j other phase hother hdelivery hin
        rcases calls_update hother with ⟨rfl, -, -⟩ | ⟨-, hold⟩
        · rfl
        · rw [hnone j other phase hold hdelivery] at hin
          cases hin
      · simpa [sends, Deed.sends] using hsent
  · refine h.keep ?_ rfl ?_
    · rw [InjectionJournal.holds_append, InjectionJournal.holds_singleton, or_iff_left hown]
    · intro j other phase hother hdelivery hin
      rcases calls_update hother with ⟨-, rfl, -⟩ | ⟨-, hold⟩
      · exact absurd (hpresents.trans hdelivery) hown
      · exact ⟨phase, hold, hin⟩

omit [Host] [PyText] in
/-- The send spends the ticket. -/
theorem ticket_sends (h : Ticket deeds s d) (hcall : s.calls i = some (call, .sending prepared surface))
    (writer : Option Nat) :
    Ticket (deeds ++ [.sent call.deliveryId surface prepared.text])
      { journal := s.journal, writer
        calls := Function.update s.calls i (some (call, .touching prepared surface)) } d := by
  by_cases hown : call.deliveryId = d
  · obtain ⟨hrow, -, hone, hsent⟩ := h.of_armed hcall hown rfl
    refine .spent hrow ?_ ?_
    · intro j other phase hother hdelivery
      rcases calls_update hother with ⟨-, -, rfl⟩ | ⟨hj, hold⟩
      · rfl
      · by_contra hin
        exact hj (hone j other phase hold hdelivery (by simpa using hin))
    · unfold sends at hsent ⊢
      rw [List.countP_append, hsent, Nat.zero_add]
      exact List.countP_le_length
  · refine h.keep Iff.rfl ?_ ?_
    · simp [sends, Deed.sends, hown]
    · intro j other phase hother hdelivery hin
      rcases calls_update hother with ⟨-, rfl, -⟩ | ⟨-, hold⟩
      · exact absurd hdelivery hown
      · exact ⟨phase, hold, hin⟩

end Advance

omit [Host] [PyText] in
theorem ticket_moved (hguarded : Guarded s) (h : Ticket deeds s d) (hmoved : Moved s new s') :
    Ticket (deeds ++ new) s' d := by
  cases hmoved with
  | started hfree =>
    refine h.keep Iff.rfl rfl ?_
    intro j other phase hother _ hin
    rcases calls_update hother with ⟨-, -, rfl⟩ | ⟨-, hold⟩
    · cases hin
    · exact ⟨phase, hold, hin⟩
  | crashed dead =>
    refine h.keep Iff.rfl rfl ?_
    intro j other phase hother _ hin
    dsimp only at hother
    split at hother
    · cases hother
    · exact ⟨phase, hother, hin⟩
  | @advanced i call phase phase' new hcall hadvanced =>
    cases hadvanced with
    | quiet hdeeds _ _ harmed =>
      refine h.keep ?_ ?_ ?_
      · rw [recordedRows_quiet fun deed hdeed => (hdeeds deed hdeed).1, List.append_nil]
      · exact List.countP_eq_zero.mpr fun deed hdeed => by simp [(hdeeds deed hdeed).2 d]
      · intro j other phase₁ hother _ hin
        rcases calls_update hother with ⟨rfl, rfl, rfl⟩ | ⟨-, hold⟩
        · exact ⟨phase, hcall, harmed hin⟩
        · exact ⟨phase₁, hold, hin⟩
    | records hphase =>
      subst hphase
      exact ticket_records h hcall (hguarded.presents i call _ _ hcall rfl)
        (hguarded.fresh i call _ _ hcall rfl) _
    | sends hphase =>
      subst hphase
      have hsent := ticket_sends h hcall
        (if s.writer = some i then none else s.writer)
      simpa [recordedRows, CallPhase.inTransaction] using hsent

/-- No call is under way; the journal may hold rows of an earlier life. -/
def Injections.Idle (s : Injections) : Prop := s.writer = none ∧ ∀ i, s.calls i = none

/-- What every run from an idle start keeps true. -/
structure Safe (start : Injections) (deeds : List Deed) (s : Injections) : Prop where
  guarded : Guarded s
  ticket : ∀ d, Ticket deeds s d
  journal : s.journal = start.journal ++ recordedRows deeds

omit [Host] [PyText] in
theorem safe_idle (h : start.Idle) : Safe start [] start := by
  have hnone : ∀ i call phase, start.calls i ≠ some (call, phase) := by
    intro i call phase hcall
    rw [h.2 i] at hcall
    cases hcall
  refine ⟨⟨?_, ?_, ?_, ?_⟩, fun d => ?_, by simp [recordedRows]⟩
  · exact fun i call phase _ hcall => absurd hcall (hnone i call phase)
  · exact fun i call phase hcall => absurd hcall (hnone i call phase)
  · intro i hwriter
    rw [h.1] at hwriter
    cases hwriter
  · exact fun i call phase _ hcall => absurd hcall (hnone i call phase)
  · have hunarmed : NoneArmed start d := fun i call phase hcall => absurd hcall (hnone i call phase)
    by_cases hrow : start.journal.Holds d
    · exact .spent hrow hunarmed (Nat.zero_le 1)
    · exact .unclaimed hrow hunarmed rfl

omit [Host] [PyText] in
theorem journal_moved (hmoved : Moved s new s') : s'.journal = s.journal ++ recordedRows new := by
  cases hmoved with
  | started | crashed => exact (List.append_nil _).symm
  | advanced => rfl

theorem safe_run (hidle : start.Idle) (h : Runs (Injections.Step authority) start deeds s) :
    Safe start deeds s := by
  refine h.invariant (J := Safe start) (safe_idle hidle) ?_
  intro deeds t new u hsafe hstep
  have hmoved := moved_of_step hstep
  refine ⟨guarded_moved hsafe.guarded hmoved, fun d => ?_, ?_⟩
  · exact ticket_moved hsafe.guarded (hsafe.ticket d) hmoved
  · rw [journal_moved hmoved, hsafe.journal, List.append_assoc]
    unfold recordedRows
    rw [List.filterMap_append]

/-- A send comes from a call that is armed. -/
theorem recorded_of_sent {surface text : String} (hsafe : Safe start deeds s)
    (hstep : s.Step authority new s') (hsent : .sent d surface text ∈ new) :
    ∃ row, .recorded row ∈ deeds ∧ row.deliveryId = d := by
  have hmoved := moved_of_step hstep
  cases hmoved with
  | started | crashed => cases hsent
  | advanced hcall hadvanced =>
    cases hadvanced with
    | quiet hdeeds =>
      have hquiet := (hdeeds _ hsent).2 d
      simp [Deed.sends] at hquiet
    | records => simp at hsent
    | sends hphase =>
      subst hphase
      simp only [List.mem_singleton, Deed.sent.injEq] at hsent
      exact ((hsafe.ticket d).of_armed hcall hsent.1.symm rfl).2.1

/-- A refusal comes from the delivery's own row, or from its own timestamp. -/
theorem own_row_of_refused {row : JournalRow} (hsafe : Safe start deeds s)
    (hstep : s.Step authority new s') (hrefused : .refused row ∈ new) :
    start.journal.Holds row.deliveryId ∨
      (∃ own, .recorded own ∈ deeds ∧ own.deliveryId = row.deliveryId) ∨ row.preparedAt = .nan := by
  have hmoved := moved_of_step hstep
  cases hmoved with
  | started | crashed => cases hrefused
  | advanced hcall hadvanced =>
    cases hadvanced with
    | quiet _ hrefuses =>
      rcases hrefuses row hrefused with htaken | hnan
      · rw [InjectionJournal.get_isSome_iff, hsafe.journal, InjectionJournal.holds_append] at htaken
        rcases htaken with hearlier | ⟨own, hown, hsame⟩
        · exact Or.inl hearlier
        · obtain ⟨deed, hdeed, hrecord⟩ := List.mem_filterMap.mp hown
          cases deed with
          | recorded other =>
            cases hrecord
            exact Or.inr (Or.inl ⟨own, hdeed, hsame⟩)
          | refused | sent | pressed => cases hrecord
      · exact Or.inr (Or.inr hnan)
    | records | sends => simp at hrefused

end System

section Progress

variable [Host] [PyText] {authority : MarkerAuthority} {s : Injections} {only : Nat → Prop}
  {i j : Nat} {call : DeliverCall} {phase phase' : CallPhase}
  {deeds : List Deed} {prepared : Prepared} {surface : String} {row : JournalRow} {d : String}

/-- The state after one step of a call. -/
def Injections.after (s : Injections) (i : Nat) (call : DeliverCall) (phase : CallPhase)
    (deeds : List Deed) : Injections where
  journal := s.journal ++ recordedRows deeds
  writer := if phase.inTransaction then some i else if s.writer = some i then none else s.writer
  calls := Function.update s.calls i (some (call, phase))

/-- One step of a call among these. -/
def Injections.StepOf (authority : MarkerAuthority) (only : Nat → Prop) (s : Injections)
    (deeds : List Deed) (s' : Injections) : Prop :=
  ∃ i response, only i ∧ s.next authority (.respond i response) = some (s', deeds)

theorem stepOf_advance (response : Response) (honly : only i)
    (hcall : s.calls i = some (call, phase))
    (h : call.advance authority s.journal s.writer.isNone phase response = some (phase', deeds)) :
    s.StepOf authority only deeds (s.after i call phase' deeds) := by
  refine ⟨i, response, honly, ?_⟩
  simp only [Injections.next, hcall, h]
  rfl

omit [Host] [PyText] in
@[simp] theorem after_calls_self : (s.after i call phase deeds).calls i = some (call, phase) :=
  Function.update_self ..

omit [Host] [PyText] in
theorem after_calls_of_ne (h : j ≠ i) : (s.after i call phase deeds).calls j = s.calls j :=
  Function.update_of_ne h ..

omit [Host] [PyText] in
theorem not_refuses (hholds : ¬ s.journal.Holds row.deliveryId) (hnan : row.preparedAt ≠ .nan) :
    ¬ s.journal.Refuses row := by
  rintro (htaken | hisnan)
  · exact hholds (InjectionJournal.get_isSome_iff.mp htaken)
  · exact hnan hisnan

/-- A call that can be minted gets to its transaction by itself. -/
theorem begins_by_itself (only : Nat → Prop) (honly : only i)
    (hcall : s.calls i = some (call, .minting)) (hmint : call.mint authority = .resolving prepared)
    (hfree : s.writer = none) (surface bindingId seatId marker : String) (now : Timestamp) :
    ∃ s', Runs (Injections.StepOf authority only) s [] s' ∧ s'.journal = s.journal ∧
      s'.writer = none ∧ s'.calls i = some (call, .journaling .beginning prepared surface
        (call.row bindingId seatId marker now)) := by
  let s₁ := s.after i call (.resolving prepared) []
  let s₂ := s₁.after i call (.pending prepared surface) []
  have mints : s.StepOf authority only [] s₁ := by
    refine stepOf_advance .proceeds honly hcall ?_
    simp only [DeliverCall.advance, hmint]
  have resolves : s₁.StepOf authority only [] s₂ :=
    stepOf_advance (.surface surface) honly after_calls_self rfl
  have intends : s₂.StepOf authority only [] (s₂.after i call (.journaling .beginning prepared surface
      (call.row bindingId seatId marker now)) []) :=
    stepOf_advance (.intent bindingId seatId marker now) honly after_calls_self rfl
  refine ⟨_, ((Runs.single mints).tail resolves).tail intends, ?_, ?_, after_calls_self⟩
  · simp [s₂, s₁, Injections.after, recordedRows]
  · simp [s₂, s₁, Injections.after, CallPhase.inTransaction, hfree]

/-- On a free file, a delivery without a row gets its row and comes to its send by itself. -/
theorem sending_when_free (only : Nat → Prop) (honly : only i)
    (hcall : s.calls i = some (call, .journaling .beginning prepared surface row))
    (hfree : s.writer = none) (hholds : ¬ s.journal.Holds row.deliveryId)
    (hnan : row.preparedAt ≠ .nan) :
    ∃ s', Runs (Injections.StepOf authority only) s [.recorded row] s' ∧
      s'.journal = s.journal ++ [row] ∧ s'.writer = none ∧
      s'.calls i = some (call, .sending prepared surface) := by
  have hrefuses : ¬ InjectionJournal.Refuses (s.journal ++ recordedRows []) row := by
    rw [show recordedRows [] = [] from rfl, List.append_nil]
    exact not_refuses hholds hnan
  let s₁ := s.after i call (.journaling .inserting prepared surface row) []
  let s₂ := s₁.after i call (.journaling .committing prepared surface row) []
  let s₃ := s₂.after i call (.journaling .syncing prepared surface row) [.recorded row]
  let s₄ := s₃.after i call (.journaling .confirming prepared surface row) []
  have hrow : (s₄.journal.get row.deliveryId).isSome := by
    rw [InjectionJournal.get_isSome_iff]
    exact ⟨row, by simp [s₄, s₃, Injections.after, recordedRows], rfl⟩
  have begins : s.StepOf authority only [] s₁ := by
    refine stepOf_advance .proceeds honly hcall ?_
    simp [DeliverCall.advance, DeliverCall.journal, hfree]
  have inserts : s₁.StepOf authority only [] s₂ := by
    refine stepOf_advance .proceeds honly after_calls_self ?_
    simp only [DeliverCall.advance, DeliverCall.journal]
    exact if_neg hrefuses
  have commits : s₂.StepOf authority only [.recorded row] s₃ :=
    stepOf_advance .proceeds honly after_calls_self rfl
  have syncs : s₃.StepOf authority only [] s₄ :=
    stepOf_advance .proceeds honly after_calls_self rfl
  have confirms : s₄.StepOf authority only [] (s₄.after i call (.sending prepared surface) []) := by
    refine stepOf_advance .proceeds honly after_calls_self ?_
    simp only [DeliverCall.advance, DeliverCall.journal]
    exact if_pos hrow
  refine ⟨_, ((((Runs.single begins).tail inserts).tail commits).tail syncs).tail confirms, ?_, ?_,
    after_calls_self⟩
  · simp [s₄, s₃, s₂, s₁, Injections.after, recordedRows]
  · simp [s₄, s₃, s₂, s₁, Injections.after, CallPhase.inTransaction]

theorem sends_when_free (only : Nat → Prop) (honly : only i)
    (hcall : s.calls i = some (call, .journaling .beginning prepared surface row))
    (hfree : s.writer = none) (hholds : ¬ s.journal.Holds row.deliveryId)
    (hnan : row.preparedAt ≠ .nan) : ∃ deeds s', Runs (Injections.StepOf authority only) s deeds s' ∧
      .sent call.deliveryId surface prepared.text ∈ deeds := by
  obtain ⟨s', hruns, -, -, hsending⟩ := sending_when_free only honly hcall hfree hholds hnan
  exact ⟨_, _, hruns.tail (stepOf_advance .proceeds honly hsending rfl), by simp⟩

/-- The lock is free and the delivery still has no row. -/
def Released (s : Injections) (i : Nat) (d : String) (s' : Injections) : Prop :=
  s'.writer = none ∧ s'.calls i = s.calls i ∧ ¬ s'.journal.Holds d

/-- The last statement of a transaction frees the file, whether it commits or rolls back. -/
theorem released_last (honly : only j) (hj : i ≠ j) (hwriter : s.writer = some j)
    {stage : JournalStage} (hstage : stage = .committing ∨ stage = .rollingBack)
    (hcall : s.calls j = some (call, .journaling stage prepared surface row))
    (hother : row.deliveryId ≠ d) (hholds : ¬ s.journal.Holds d) :
    ∃ deeds s', s.StepOf authority only deeds s' ∧ Released s i d s' := by
  rcases hstage with rfl | rfl
  · refine ⟨_, _, stepOf_advance .proceeds honly hcall rfl, ?_, after_calls_of_ne hj, ?_⟩
    · simp [Injections.after, CallPhase.inTransaction, hwriter]
    · intro hheld
      rcases InjectionJournal.holds_append.mp hheld with hbefore | hnew
      · exact hholds hbefore
      · exact hother (InjectionJournal.holds_singleton.mp hnew)
  · refine ⟨_, _, stepOf_advance .proceeds honly hcall rfl, ?_, after_calls_of_ne hj, ?_⟩
    · simp [Injections.after, CallPhase.inTransaction, hwriter]
    · simpa [Injections.after, recordedRows] using hholds

/-- The holder of the lock finishes its transaction by itself. -/
theorem released_by_writer (only : Nat → Prop) (hguarded : Guarded s) (honly : only j) (hj : i ≠ j)
    (hwriter : s.writer = some j) (hcall : s.calls j = some (call, phase))
    (hother : call.deliveryId ≠ d) (hholds : ¬ s.journal.Holds d) :
    ∃ deeds s', Runs (Injections.StepOf authority only) s deeds s' ∧ Released s i d s' := by
  obtain ⟨call', phase', hcall', hlock⟩ := hguarded.held j hwriter
  cases hcall.symm.trans hcall'
  have hrow : ∀ row, phase.row? = some row → row.deliveryId ≠ d := fun row hpresents => by
    rw [hguarded.presents j call phase row hcall hpresents]
    exact hother
  unfold CallPhase.inTransaction at hlock
  split at hlock
  · -- the `INSERT` goes through or is refused, and one statement is left
    rename_i prepared surface row
    have hinserted : ∃ stage, (stage = .committing ∨ stage = .rollingBack) ∧ ∃ deeds,
        recordedRows deeds = [] ∧ s.StepOf authority only deeds
          (s.after j call (.journaling stage prepared surface row) deeds) := by
      by_cases hrefuses : s.journal.Refuses row
      · refine ⟨.rollingBack, Or.inr rfl, [.refused row], rfl,
          stepOf_advance .proceeds honly hcall ?_⟩
        simp only [DeliverCall.advance, DeliverCall.journal]
        exact if_pos hrefuses
      · refine ⟨.committing, Or.inl rfl, [], rfl, stepOf_advance .proceeds honly hcall ?_⟩
        simp only [DeliverCall.advance, DeliverCall.journal]
        exact if_neg hrefuses
    obtain ⟨stage, hstage, deeds, hquiet, hstep⟩ := hinserted
    have hlocked : (s.after j call (.journaling stage prepared surface row) deeds).writer =
        some j := by
      rcases hstage with rfl | rfl <;> rfl
    have hsame : ¬ (s.after j call (.journaling stage prepared surface row) deeds).journal.Holds d := by
      simpa [Injections.after, hquiet] using hholds
    obtain ⟨last, s', hlast, hfree, hcalls, hnone⟩ := released_last honly hj hlocked hstage
      after_calls_self (hrow row rfl) hsame
    exact ⟨_, s', (Runs.single hstep).tail hlast, hfree, hcalls.trans (after_calls_of_ne hj), hnone⟩
  · obtain ⟨deeds, s', hstep, hreleased⟩ := released_last honly hj hwriter (Or.inl rfl) hcall
      (hrow _ rfl) hholds
    exact ⟨deeds, s', Runs.single hstep, hreleased⟩
  · obtain ⟨deeds, s', hstep, hreleased⟩ := released_last honly hj hwriter (Or.inr rfl) hcall
      (hrow _ rfl) hholds
    exact ⟨deeds, s', Runs.single hstep, hreleased⟩
  · cases hlock

/-- A delivery without a row gets to its send by its own steps and those of whoever is inside a
transaction for another delivery. -/
theorem not_blocked (hguarded : Guarded s)
    (hcall : s.calls i = some (call, .journaling .beginning prepared surface row))
    (hholds : ¬ s.journal.Holds call.deliveryId) (hnan : row.preparedAt ≠ .nan)
    (hother : ∀ j other phase, s.writer = some j → s.calls j = some (other, phase) →
      other.deliveryId ≠ call.deliveryId) : ∃ deeds s',
      Runs (Injections.StepOf authority fun j => j = i ∨ s.writer = some j) s deeds s' ∧
        .sent call.deliveryId surface prepared.text ∈ deeds := by
  have hpresents := hguarded.presents i call _ row hcall rfl
  cases hwriter : s.writer with
  | none => exact sends_when_free _ (Or.inl rfl) hcall hwriter (by rwa [hpresents]) hnan
  | some j =>
    obtain ⟨call', phase, hcall', hlock⟩ := hguarded.held j hwriter
    have hj : i ≠ j := by
      rintro rfl
      cases hcall.symm.trans hcall'
      cases hlock
    obtain ⟨first, s', hruns, hfree, hcalls, hnone⟩ := released_by_writer
      (fun k => k = i ∨ some j = some k) hguarded (Or.inr rfl) hj hwriter hcall'
      (hother j call' phase hwriter hcall') hholds
    obtain ⟨rest, s'', hsends, hsent⟩ := sends_when_free (fun k => k = i ∨ some j = some k)
      (Or.inl rfl) (hcalls.trans hcall) hfree (by rwa [hpresents]) hnan
    exact ⟨_, s'', hruns.trans hsends, List.mem_append_right _ hsent⟩

end Progress

/-- Over every history of calls and crashes: the pane is touched at most once for a delivery, only
after its row was committed, and a delivery is refused or kept waiting by nothing but its own row
or a transaction that ends by itself. -/
theorem injected_at_most_once [Host] [PyText] {authority : MarkerAuthority} {start s : Injections}
    {deeds : List Deed} (hidle : start.Idle)
    (h : Runs (Injections.Step authority) start deeds s) :
    (∀ d, sends d deeds ≤ 1) ∧
    (∀ before after d surface text, deeds = before ++ .sent d surface text :: after →
      ∃ row, .recorded row ∈ before ∧ row.deliveryId = d) ∧
    (∀ before after row, deeds = before ++ .refused row :: after →
      start.journal.Holds row.deliveryId ∨
        (∃ own, .recorded own ∈ before ∧ own.deliveryId = row.deliveryId) ∨
        row.preparedAt = .nan) ∧
    ∀ i call prepared surface row,
      s.calls i = some (call, .journaling .beginning prepared surface row) →
      ¬ s.journal.Holds call.deliveryId → row.preparedAt ≠ .nan →
      (∀ j other phase, s.writer = some j → s.calls j = some (other, phase) →
        other.deliveryId ≠ call.deliveryId) →
      ∃ later s', Runs (Injections.StepOf authority fun j => j = i ∨ s.writer = some j) s later s' ∧
        .sent call.deliveryId surface prepared.text ∈ later := by
  have hsafe := safe_run hidle h
  refine ⟨fun d => ?_, ?_, ?_, ?_⟩
  · cases hsafe.ticket d with
    | unclaimed _ _ hsent | held _ _ _ hsent => omega
    | spent _ _ hsent => exact hsent
  · intro before after d surface text heq
    obtain ⟨earlier, t, new, u, front, back, hruns, hstep, hnew, rfl⟩ := h.occurrence heq
    obtain ⟨row, hmem, hown⟩ := recorded_of_sent (safe_run hidle hruns) hstep
      (show Deed.sent d surface text ∈ new by simp [hnew])
    exact ⟨row, List.mem_append_left _ hmem, hown⟩
  · intro before after row heq
    obtain ⟨earlier, t, new, u, front, back, hruns, hstep, hnew, rfl⟩ := h.occurrence heq
    rcases own_row_of_refused (safe_run hidle hruns) hstep
      (show Deed.refused row ∈ new by simp [hnew]) with hearlier | ⟨own, hmem, hown⟩ | hnan
    · exact Or.inl hearlier
    · exact Or.inr (Or.inl ⟨own, List.mem_append_left _ hmem, hown⟩)
    · exact Or.inr (Or.inr hnan)
  · intro i call prepared surface row hcall hholds hnan hother
    exact not_blocked hsafe.guarded hcall hholds hnan hother

@[reducible] def sampleText : PyText := ⟨fun text => "'" ++ text ++ "'"⟩

def sampleCall : DeliverCall where
  identity := "alice"
  delivery := sampleDelivery
  body := "hello"
  issuedAt := "2026-01-01T00:00:00Z"
  expiresAt := "2026-01-01T01:00:00Z"
  harness := "codex"

/-- Marker, profile and text of the sample call are all there. -/
theorem mint_sampleCall :
    ∃ prepared, @DeliverCall.mint sampleHost sampleText sampleAuthority sampleCall =
      .resolving prepared := by
  have hready : (match @DeliverCall.mint sampleHost sampleText sampleAuthority sampleCall with
    | .resolving _ => true
    | _ => false) = true := by decide +kernel
  split at hready
  · rename_i prepared hmint
    exact ⟨prepared, hmint⟩
  · cases hready

theorem runs_of_stepOf [Host] [PyText] {authority : MarkerAuthority} {only : Nat → Prop}
    {s s' : Injections} {deeds : List Deed}
    (h : Runs (Injections.StepOf authority only) s deeds s') :
    Runs (Injections.Step authority) s deeds s' := by
  refine h.mono ?_
  rintro t new t' ⟨i, response, -, hnext⟩
  exact ⟨.respond i response, hnext⟩

/-- A call sends its text and dies, and a second call for the same delivery is refused. -/
theorem injected_at_most_once_sample : ∃ deeds s row,
    Runs (@Injections.Step sampleHost sampleText sampleAuthority) {} deeds s ∧
      0 < sends "delivery-1" deeds ∧ .refused row ∈ deeds ∧ row.deliveryId = "delivery-1" ∧
      ∀ d, sends d deeds ≤ 1 := by
  let row := sampleCall.row "binding-1" "alice" "marker" (.finite 1)
  obtain ⟨prepared, hmint⟩ := mint_sampleCall
  have hstart (s : Injections) (i : Nat) (hnone : s.calls i = none) :
      @Injections.Step sampleHost sampleText sampleAuthority s []
        { s with calls := Function.update s.calls i (some (sampleCall, .minting)) } :=
    ⟨.start i sampleCall, by simp [Injections.next, hnone]⟩
  obtain ⟨s₁, hbegins, hjournal, hfree, hcall⟩ := @begins_by_itself sampleHost sampleText
    sampleAuthority { calls := Function.update (fun _ => none) 0 (some (sampleCall, .minting)) } 0
    sampleCall prepared (fun _ => True) trivial (by simp) hmint rfl
    "surface-1" "binding-1" "alice" "marker" (.finite 1)
  have hholds : ¬ s₁.journal.Holds row.deliveryId := by
    rw [hjournal]
    simp [InjectionJournal.Holds]
  obtain ⟨s₂, hsends, hjournal₂, hfree₂, hsending⟩ := @sending_when_free sampleHost sampleText
    sampleAuthority s₁ 0 sampleCall prepared "surface-1" row (fun _ => True) trivial hcall hfree
    hholds (by simp [row, DeliverCall.row])
  have hsent := @stepOf_advance sampleHost sampleText sampleAuthority s₂ (fun _ => True) 0 sampleCall
    _ _ _ .proceeds trivial hsending rfl
  -- the process dies, and the delivery is taken up by another call
  let s₃ : Injections := ⟨s₂.journal, none, fun _ => none⟩
  have hdies : @Injections.Step sampleHost sampleText sampleAuthority
      (s₂.after 0 sampleCall (.touching prepared "surface-1")
        [.sent sampleCall.deliveryId "surface-1" prepared.text]) [] s₃ := by
    refine ⟨.crash fun _ => true, ?_⟩
    simp [Injections.next, s₃, Injections.after, recordedRows, CallPhase.inTransaction, hfree₂]
  obtain ⟨s₄, hbegins₄, hjournal₄, hfree₄, hcall₄⟩ := @begins_by_itself sampleHost sampleText
    sampleAuthority { s₃ with calls := Function.update s₃.calls 1 (some (sampleCall, .minting)) } 1
    sampleCall prepared (fun _ => True) trivial (by simp) hmint rfl
    "surface-1" "binding-1" "alice" "marker" (.finite 1)
  have htaken : s₄.journal.Refuses row := by
    refine .inl (InjectionJournal.get_isSome_iff.mpr ⟨row, ?_, rfl⟩)
    rw [hjournal₄]
    change row ∈ s₂.journal
    rw [hjournal₂]
    exact List.mem_append_right _ List.mem_cons_self
  have hlocks := @stepOf_advance sampleHost sampleText sampleAuthority s₄ (fun _ => True) 1
    sampleCall _ (.journaling .inserting prepared "surface-1" row) [] .proceeds trivial hcall₄
    (by simp [DeliverCall.advance, DeliverCall.journal, hfree₄, row])
  have hrefused := @stepOf_advance sampleHost sampleText sampleAuthority _ (fun _ => True) 1
    sampleCall _ (.journaling .rollingBack prepared "surface-1" row) [.refused row] .proceeds trivial
    (@after_calls_self s₄ 1 sampleCall (.journaling .inserting prepared "surface-1" row) [])
    (by simpa [DeliverCall.advance, DeliverCall.journal, Injections.after, recordedRows] using htaken)
  have hown {t t' : Injections} {deeds : List Deed}
      (h : Runs (@Injections.StepOf sampleHost sampleText sampleAuthority fun _ => True) t deeds t') :=
    @runs_of_stepOf sampleHost sampleText _ _ _ _ _ h
  have hfirst := (((Runs.single (hstart {} 0 rfl)).trans (hown hbegins)).trans
    (hown (hsends.tail hsent))).tail hdies
  have hruns := ((hfirst.tail (hstart s₃ 1 rfl)).trans (hown hbegins₄)).trans
    (hown ((Runs.single hlocks).tail hrefused))
  have hsafe := @injected_at_most_once sampleHost sampleText sampleAuthority {} _ _ ⟨rfl, fun _ => rfl⟩
    hruns
  refine ⟨_, _, row, hruns, ?_, ?_, rfl, hsafe.1⟩
  · refine List.countP_pos_iff.mpr
      ⟨.sent sampleCall.deliveryId "surface-1" prepared.text, by simp, ?_⟩
    simp [Deed.sends, DeliverCall.deliveryId, sampleCall, sampleDelivery]
  · simp

end Yatagarasu.Cmux
