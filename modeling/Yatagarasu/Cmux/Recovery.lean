import Yatagarasu.Cmux.Reemission
import Yatagarasu.Cmux.Replication

/-! On a server that replays its whole log, the producer's memory is a function of the rows that it
was fed, and a step either tells the core nothing, repeats a receipt of the rows, or brings the
receipt of the next event. -/

namespace Yatagarasu.Cmux

open PyJson ReceiptReducer Transition

/-- The event that the receipt plane has seen and the outbox has not. -/
def Phase.underway : Phase → Option DerivedEvent
  | .running _ (.committing _ event) => some event
  | _ => none

theorem committing_of_underway {phase : Phase} {event : DerivedEvent}
    (h : phase.underway = some event) :
    ∃ tally session, phase = .running tally (.committing session event) := by
  unfold Phase.underway at h
  split at h
  · cases h
    exact ⟨_, _, rfl⟩
  · cases h

namespace Link

variable [Host] (r : Resident) (config : EmitterConfig) (bootId : String)

/-- A connection without a cursor starts at the first entry. -/
def FromStart (l l' : Link) : Prop := ∀ tally tally' session,
  l.process.phase = .running tally (.handshake none) →
  l'.process.phase = .running tally' (.reading session) → l'.position = 0

/-- A step inside a run on a server that replays the whole log. -/
def Replays (l : Link) (os : List Occurrence) (l' : Link) : Prop :=
  Serves r bootId l os l' ∧ FromStart l l'

/-- The event of the log that comes after the rows. -/
def Next (l : Link) (event : DerivedEvent) : Prop :=
  ∃ entry, l.log.entries[(l.rows r).length]? = some entry ∧
    project r.sourceInstanceId entry.frame bootId = .ok event

/-- Where the producer and the server stand: the producer's memory is a function of the rows that
it has been fed, and the server sends what follows them. -/
def RecallsAt (l : Link) : Phase → Prop
  | .running _ (.recovering left) =>
    ∃ seen, l.rows r = seen ++ left ∧ l.process.producer = (recovered config seen).state
  | .running _ (.reading _) => l.position = (l.rows r).length ∧
      l.process.producer = (recovered config (l.rows r)).state
  | .running _ (.observing _ _) => l.position = (l.rows r).length + 1 ∧
      l.process.producer = (recovered config (l.rows r)).state
  | .running _ (.committing _ event) => l.position = (l.rows r).length + 1 ∧
      l.process.producer = (recovered config (l.rows r ++ [event])).state
  | .running _ _ => l.process.producer = (recovered config (l.rows r)).state
  | _ => True

structure Recalls (l : Link) : Prop where
  linked : l.Linked r bootId
  whole : Covers r bootId l.log (l.rows r) (l.rows r).length
  recalls : l.RecallsAt r config l.process.phase

/-- What a step means to the core. -/
inductive Heeds (l l' : Link) : List Occurrence → Prop
  | quiet {os : List Occurrence} : submissions os = [] → l'.rows r = l.rows r →
      l.log.entries <+: l'.log.entries →
      l'.process.phase.underway = none ∨ l'.process = l.process → Heeds l l' os
  | replayed {receipt : Receipt} (returned : Bool) :
      receipt ∈ (recovered config (l.rows r)).emitted → l'.rows r = l.rows r → l'.log = l.log →
      l'.process.phase.underway = none → Heeds l l' [.submitted receipt returned]
  | heard {event : DerivedEvent} : l.Next r bootId event → l'.rows r = l.rows r → l'.log = l.log →
      ((recovered config (l.rows r)).state.observe config event).receipt = none →
      l'.process.phase.underway = some event → Heeds l l' []
  | reported {event : DerivedEvent} {receipt : Receipt} (returned : Bool) :
      l.Next r bootId event → l'.rows r = l.rows r → l'.log = l.log →
      ((recovered config (l.rows r)).state.observe config event).receipt = some receipt →
      l'.process.phase.underway = (if returned then some event else none) →
      Heeds l l' [.submitted receipt returned]
  | committed {event : DerivedEvent} {os : List Occurrence} :
      l.process.phase.underway = some event → l'.rows r = l.rows r ++ [event] → l'.log = l.log →
      l'.process.phase.underway = none → submissions os = [] → Heeds l l' os

variable {r config bootId} {l l' : Link} {os : List Occurrence}

theorem next_of_flight {session : Session} {event : DerivedEvent}
    (h : l.InFlight r bootId session event) (hposition : l.position = (l.rows r).length + 1) :
    l.Next r bootId event := by
  obtain ⟨position, entry, hat, hentry, hproject, -⟩ := h
  have hlength : position = (l.rows r).length := by omega
  exact ⟨entry, hlength ▸ hentry, hproject⟩

theorem next_unique {event event' : DerivedEvent} (h : l.Next r bootId event)
    (h' : l.Next r bootId event') : event = event' := by
  obtain ⟨entry, hentry, hproject⟩ := h
  obtain ⟨entry', hentry', hproject'⟩ := h'
  cases hentry.symm.trans hentry'
  exact Except.ok.inj (hproject.symm.trans hproject')

theorem next_covers {event : DerivedEvent} (h : l.Recalls r config bootId)
    (hnext : l.Next r bootId event) :
    Covers r bootId l.log (l.rows r ++ [event]) ((l.rows r).length + 1) := by
  obtain ⟨entry, hentry, hproject⟩ := hnext
  exact covers_append h.whole hentry hproject

/-- Rows that are there end at one place of the log only. -/
theorem covers_unique {log : ServerLog} {rows : List DerivedEvent} {upto upto' : Nat}
    (h : Covers r bootId log rows upto) (h' : Covers r bootId log rows upto') (hne : rows ≠ []) :
    upto = upto' := by
  have hlast := List.getLast?_eq_some_getLast hne
  obtain ⟨hpos, entry, hentry, hproject⟩ := covers_last h hlast
  obtain ⟨hpos', entry', hentry', hproject'⟩ := covers_last h' hlast
  have hid : entry.eventId = entry'.eventId :=
    (project_entry hproject).2.symm.trans (project_entry hproject').2
  have hat : (log.entries.map (·.eventId))[upto - 1]? = some entry.eventId := by simp [hentry]
  have hat' : (log.entries.map (·.eventId))[upto' - 1]? = some entry.eventId := by
    simp [hentry', hid]
  obtain ⟨hbound, -⟩ := List.getElem?_eq_some_iff.mp hat
  have hsame := (List.getElem?_inj hbound log.distinct).mp (hat.trans hat'.symm)
  omega

section Observe

variable {seen : List DerivedEvent} {event : DerivedEvent} {s : ProducerState} {returns : Bool}

/-- The receipt plane that returns leaves what a fresh producer would have made of the event. -/
theorem observe_recovered (hproducer : r.receiptProducer = some config)
    (h : r.observe (recovered config seen).state event returns = (none, s, os)) :
    s = (recovered config (seen ++ [event])).state ∧
      ((((recovered config seen).state.observe config event).receipt = none ∧ os = []) ∨
        ∃ receipt, ((recovered config seen).state.observe config event).receipt = some receipt ∧
          os = [.submitted receipt true]) := by
  unfold Resident.observe at h
  rw [hproducer] at h
  rw [recovered_append]
  unfold Production.after
  dsimp only at h
  split at h
  · rename_i next hsilent
    cases h
    rw [hsilent]
    exact ⟨rfl, Or.inl ⟨rfl, rfl⟩⟩
  · cases h
  · rename_i receipt returned raised hsubmits
    split at h
    · cases h
      rw [hsubmits]
      exact ⟨rfl, Or.inr ⟨receipt, rfl, rfl⟩⟩
    · cases h

theorem observe_raised (hproducer : r.receiptProducer = some config) {e : CmuxError}
    (h : r.observe (recovered config seen).state event returns = (some e, s, os)) :
    os = [] ∨ ∃ receipt,
      ((recovered config seen).state.observe config event).receipt = some receipt ∧
        os = [.submitted receipt false] := by
  unfold Resident.observe at h
  rw [hproducer] at h
  dsimp only at h
  split at h
  · cases h
  · cases h
    exact Or.inl rfl
  · rename_i receipt returned raised hsubmits
    split at h
    · cases h
    · cases h
      rw [hsubmits]
      exact Or.inr ⟨receipt, rfl, rfl⟩

/-- A receipt of a row is among those of all rows. -/
theorem emitted_again {left : List DerivedEvent} {receipt : Receipt}
    (hrows : l.rows r = seen ++ event :: left)
    (h : ((recovered config seen).state.observe config event).receipt = some receipt) :
    receipt ∈ (recovered config (l.rows r)).emitted := by
  have hsplit : l.rows r = (seen ++ [event]) ++ left := by rw [hrows]; simp
  rw [hsplit]
  refine (recovered_mono (seen ++ [event]) left).subset ?_
  rw [recovered_emitted, h]
  exact List.mem_append_right _ (List.mem_singleton_self _)

end Observe

/-- A step that leaves the rows and submits nothing. -/
theorem heeds_quiet {process : Process} {position : Nat} (hos : submissions os = [])
    (hsame : SameTables l.process.outbox process.outbox)
    (hunderway : process.phase.underway = none) :
    Heeds r config bootId l { l with process, position } os :=
  .quiet hos (rows_eq hsame position) List.prefix_rfl (Or.inl hunderway)

theorem internal_heeds (hproducer : r.receiptProducer = some config) {input : Input}
    {process : Process} (h : l.Recalls r config bootId) (hinternal : input.Internal)
    (hstep : Process.Step r l.process input os process) :
    Heeds r config bootId l { l with process } os ∧
      RecallsAt r config { l with process } process.phase := by
  have hpositioned := h.linked.positioned
  have hrecalls := h.recalls
  cases hstep with
  | started | acknowledged | ignored | ended | disconnected | received => cases hinternal
  | recovered hphase =>
    rw [hphase] at hrecalls
    obtain ⟨seen, hrows, hmemory⟩ := hrecalls
    rw [List.append_nil] at hrows
    rw [← hrows] at hmemory
    exact ⟨heeds_quiet rfl ⟨rfl, rfl⟩ rfl, hmemory⟩
  | @replayed tally event events returns producer seen hphase hobserve =>
    rw [hphase] at hrecalls
    obtain ⟨before, hrows, hmemory⟩ := hrecalls
    rw [hmemory] at hobserve
    obtain ⟨rfl, hsubmits⟩ := observe_recovered hproducer hobserve
    refine ⟨?_, before ++ [event], ?_, rfl⟩
    · rcases hsubmits with ⟨-, rfl⟩ | ⟨receipt, hreceipt, rfl⟩
      · exact heeds_quiet rfl ⟨rfl, rfl⟩ rfl
      · exact .replayed true (emitted_again hrows hreceipt) rfl rfl rfl
    · rw [List.append_assoc]
      exact hrows
  | @observed tally session event returns producer seen hphase hobserve =>
    rw [hphase] at hpositioned hrecalls
    obtain ⟨hposition, hmemory⟩ := hrecalls
    rw [hmemory] at hobserve
    obtain ⟨rfl, hsubmits⟩ := observe_recovered hproducer hobserve
    have hnext := next_of_flight hpositioned hposition
    refine ⟨?_, hposition, rfl⟩
    rcases hsubmits with ⟨hsilent, rfl⟩ | ⟨receipt, hreceipt, rfl⟩
    · exact .heard hnext rfl rfl hsilent rfl
    · exact .reported true hnext rfl rfl hreceipt rfl
  | @refused tally position event returns e producer seen hphase hat hobserve =>
    rw [hphase] at hpositioned hrecalls
    refine ⟨?_, trivial⟩
    rcases hat with ⟨events, rfl⟩ | ⟨session, rfl⟩
    · obtain ⟨before, hrows, hmemory⟩ := hrecalls
      rw [hmemory] at hobserve
      rcases observe_raised hproducer hobserve with rfl | ⟨receipt, hreceipt, rfl⟩
      · exact heeds_quiet rfl ⟨rfl, rfl⟩ rfl
      · exact .replayed false (emitted_again hrows hreceipt) rfl rfl rfl
    · obtain ⟨hposition, hmemory⟩ := hrecalls
      rw [hmemory] at hobserve
      rcases observe_raised hproducer hobserve with rfl | ⟨receipt, hreceipt, rfl⟩
      · exact heeds_quiet rfl ⟨rfl, rfl⟩ rfl
      · exact .reported false (next_of_flight hpositioned hposition) rfl rfl hreceipt rfl
  | requested hphase =>
    rw [hphase] at hrecalls
    exact ⟨heeds_quiet rfl ⟨rfl, rfl⟩ rfl, hrecalls⟩
  | unreachable hphase => exact ⟨heeds_quiet rfl ⟨rfl, rfl⟩ rfl, trivial⟩
  | @committed tally session event returns disposition outbox hphase hcommitted =>
    rw [hphase] at hpositioned hrecalls
    obtain ⟨hposition, hmemory⟩ := hrecalls
    obtain ⟨rfl, rfl⟩ := commit_inserted hpositioned hcommitted
    obtain ⟨position, entry, -, -, hproject, hattached⟩ := hpositioned
    have hrows := rows_insertEvent l (project_eq_ok hproject).1
    obtain ⟨session', hreading, -⟩ := account_reading (tally.count .inserted) event
      hattached.contiguous
    have hunderway : l.process.phase.underway = some event := by rw [hphase]; rfl
    rw [hreading]
    refine ⟨.committed hunderway hrows rfl rfl rfl, ?_, ?_⟩
    · change l.position = List.length (Outbox.outboxEvents _ _)
      rw [hrows, List.length_append, List.length_singleton]
      exact hposition
    · change l.process.producer = (recovered config (Outbox.outboxEvents _ _)).state
      rw [hrows]
      exact hmemory
  | snapshotted hphase =>
    rw [hphase] at hpositioned
    cases hpositioned
  | @completed tally session returns audit hphase =>
    rw [hphase] at hrecalls
    have hunderway : (Process.completed tally).underway = none := by
      unfold Process.completed
      split <;> rfl
    refine ⟨heeds_quiet rfl ⟨rfl, rfl⟩ hunderway, ?_⟩
    unfold Process.completed
    dsimp only
    split
    · trivial
    · exact hrecalls
  | raised hphase => exact ⟨heeds_quiet rfl ⟨rfl, rfl⟩ rfl, trivial⟩

/-- A connection takes up the log right after the rows. -/
theorem resumes_rows {durableBefore : Option EventCursor} {position : Nat}
    (h : l.Recalls r config bootId) (hcursor : durableBefore = l.cursor r)
    (hresumes : l.log.Resumes (durableBefore.map (·.seq)) position)
    (hstart : durableBefore = none → position = 0) : position = (l.rows r).length := by
  have hlast := h.linked.replicated.last
  rw [← hcursor] at hlast
  by_cases hne : l.rows r = []
  · rw [hne] at hlast ⊢
    exact hstart hlast
  · have hbefore : durableBefore.map (·.seq) = (l.rows r).getLast?.map (·.seq) := by
      rw [hlast, Option.map_map]
      rfl
    rw [hbefore] at hresumes
    exact covers_unique (covers_resumes h.whole hresumes) h.whole hne

theorem greeted_heeds {tally : Tally} {durableBefore : Option EventCursor} {frame : Dict}
    {position : Nat} {process : Process} (h : l.Recalls r config bootId)
    (hphase : l.process.phase = .running tally (.handshake durableBefore))
    (hresumes : l.log.Resumes (durableBefore.map (·.seq)) position)
    (hstart : FromStart l { l with process, position })
    (hlinked : Linked r bootId { l with process, position })
    (hstep : Process.Step r l.process (.frame (.ok (some frame))) os process) :
    Heeds r config bootId l { l with process, position } os ∧
      RecallsAt r config { l with process, position } process.phase := by
  have hcursor := h.linked.positioned
  have hrecalls := h.recalls
  rw [hphase] at hcursor hrecalls
  cases hstep with
  | acknowledged hphase' =>
    cases hphase.symm.trans hphase'
    have hopened := hlinked.positioned
    unfold FromStart at hstart
    dsimp only [Process.moveTo] at hopened hstart ⊢
    unfold Process.opening at hopened hstart ⊢
    dsimp only at hopened hstart ⊢
    split at hopened
    · cases hopened
    · rename_i hgap
      rw [if_neg hgap] at hstart ⊢
      have hposition : position = (l.rows r).length := by
        refine resumes_rows h hcursor hresumes fun hnone => ?_
        subst hnone
        exact hstart _ _ _ hphase rfl
      exact ⟨heeds_quiet rfl ⟨rfl, rfl⟩ rfl, hposition, hrecalls⟩
  | ignored hphase' | disconnected hphase' | received hphase' => cases hphase.symm.trans hphase'
  | raised => exact ⟨heeds_quiet rfl ⟨rfl, rfl⟩ rfl, trivial⟩

theorem sent_heeds {tally : Tally} {session : Session} {entry : LogEntry} {process : Process}
    (h : l.Recalls r config bootId) (hphase : l.process.phase = .running tally (.reading session))
    (hstep : Process.Step r l.process (.frame (.ok (some entry.frame))) os process) :
    Heeds r config bootId l { l with process, position := l.position + 1 } os ∧
      RecallsAt r config { l with process, position := l.position + 1 } process.phase := by
  have hrecalls := h.recalls
  rw [hphase] at hrecalls
  obtain ⟨hposition, hmemory⟩ := hrecalls
  cases hstep with
  | acknowledged hphase' => cases hphase.symm.trans hphase'
  | ignored _ hignore =>
    obtain ⟨event, hevent, -⟩ := classify_entry hignore
    cases hevent
  | disconnected _ hlatest =>
    obtain ⟨event, hevent, -⟩ := classify_entry hlatest
    cases hevent
  | received => exact ⟨heeds_quiet rfl ⟨rfl, rfl⟩ rfl, congrArg (· + 1) hposition, hmemory⟩
  | raised => exact ⟨heeds_quiet rfl ⟨rfl, rfl⟩ rfl, trivial⟩

theorem cut_heeds {result : Except CmuxError (Option Dict)} {process : Process}
    (h : l.Recalls r config bootId) (hbare : Bare result)
    (hstep : Process.Step r l.process (.frame result) os process) :
    Heeds r config bootId l { l with process } os ∧
      RecallsAt r config { l with process } process.phase := by
  have hrecalls := h.recalls
  cases hstep with
  | acknowledged _ hparse =>
    have htype := parse_type hparse
    rw [hbare.2] at htype
    cases htype
  | ignored => exact ⟨.quiet rfl rfl List.prefix_rfl (Or.inr rfl), hrecalls⟩
  | ended hphase | disconnected hphase =>
    rw [hphase] at hrecalls
    exact ⟨heeds_quiet rfl ⟨rfl, rfl⟩ rfl, hrecalls.2⟩
  | received _ hevent =>
    have htype := (Process.classify_event hevent).1
    rw [hbare.1] at htype
    cases htype
  | raised => exact ⟨heeds_quiet rfl ⟨rfl, rfl⟩ rfl, trivial⟩

/-- The rows stay the log's first entries. -/
theorem heeds_whole (h : l.Recalls r config bootId) (hheeds : Heeds r config bootId l l' os) :
    Covers r bootId l'.log (l'.rows r) (l'.rows r).length := by
  cases hheeds with
  | quiet _ hrows hlog =>
    rw [hrows]
    exact covers_grew h.whole hlog
  | replayed _ _ hrows hlog | heard _ hrows hlog | reported _ _ hrows hlog =>
    rw [hrows, hlog]
    exact h.whole
  | committed hunderway hrows hlog =>
    obtain ⟨tally, session, hphase⟩ := committing_of_underway hunderway
    have hpositioned := h.linked.positioned
    have hrecalls := h.recalls
    rw [hphase] at hpositioned hrecalls
    rw [hrows, hlog, List.length_append, List.length_singleton]
    exact next_covers h (next_of_flight hpositioned hrecalls.1)

theorem replays_heeds (hproducer : r.receiptProducer = some config)
    (h : l.Recalls r config bootId) (hstep : l.Replays r bootId os l') :
    Heeds r config bootId l l' os ∧ l'.Recalls r config bootId := by
  obtain ⟨hserves, hstart⟩ := hstep
  have hlinked := serves_linked h.linked hserves
  have hboth : Heeds r config bootId l l' os ∧ l'.RecallsAt r config l'.process.phase := by
    cases hserves with
    | grew hgrew => exact ⟨.quiet rfl rfl hgrew (Or.inr rfl), h.recalls⟩
    | internal hinternal hnext =>
      exact internal_heeds hproducer h hinternal (Process.step_of_next hnext)
    | greeted hphase _ _ _ hresumes _ hnext =>
      exact greeted_heeds h hphase hresumes hstart hlinked (Process.step_of_next hnext)
    | sent hphase _ hnext => exact sent_heeds h hphase (Process.step_of_next hnext)
    | cut hbare hnext => exact cut_heeds h hbare (Process.step_of_next hnext)
  exact ⟨hboth.1, hlinked, heeds_whole h hboth.1, hboth.2⟩

theorem started_heeds (hproducer : r.receiptProducer = some config)
    (h : l.Recalls r config bootId) (maxConnections : Int) :
    Heeds r config bootId l (l.started r maxConnections) [] ∧
      (l.started r maxConnections).Recalls r config bootId := by
  have hlinked := started_linked h.linked maxConnections
  have hboth : Heeds r config bootId l (l.started r maxConnections) [] ∧
      RecallsAt r config (l.started r maxConnections)
        (l.started r maxConnections).process.phase := by
    unfold started Process.start
    split
    · exact ⟨heeds_quiet rfl ⟨rfl, rfl⟩ rfl, trivial⟩
    · rw [hproducer]
      exact ⟨heeds_quiet rfl ⟨rfl, rfl⟩ rfl, [], rfl, rfl⟩
  exact ⟨hboth.1, hlinked, heeds_whole h hboth.1, hboth.2⟩

end Link

end Yatagarasu.Cmux
