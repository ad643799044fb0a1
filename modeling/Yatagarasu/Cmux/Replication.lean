import Yatagarasu.Cmux.Resident

/-! A resident and a server of one boot. The server answers a cursor by the events after it, and may
cut the stream at every frame. -/

namespace Yatagarasu.Cmux

open PyJson Transition

/-- An event frame of the server, with its sequence number and id. -/
structure LogEntry where
  frame : Dict
  seq : Int
  eventId : String
  isEvent : eqStr (frame.lookup "type") "event"
  seq_eq : frame.lookup "seq" = some (.int seq)
  id_eq : frame.lookup "id" = some (.str eventId)

/-- A log of strictly increasing sequence numbers and distinct ids. -/
structure ServerLog where
  entries : List LogEntry
  ordered : entries.Pairwise fun a b => a.seq < b.seq
  distinct : (entries.map (·.eventId)).Nodup

/-- Where the server takes up the log for a request. -/
def ServerLog.Resumes (log : ServerLog) (afterSeq : Option Int) (position : Nat) : Prop :=
  position ≤ log.entries.length ∧ ∀ seq, afterSeq = some seq →
    log.entries.drop position = log.entries.filter fun entry => seq < entry.seq

/-- A frame that is neither an event nor an ack, the end of the stream or a failure to read it. -/
def Bare : Except CmuxError (Option Dict) → Prop
  | .ok (some frame) => eqStr (frame.lookup "type") "event" = false ∧
      eqStr (frame.lookup "type") "ack" = false
  | _ => True

/-- An input that does not come over the stream. -/
def Input.Internal : Input → Prop
  | .proceed _ | .opened _ | .snapshots _ => True
  | .start _ | .frame _ => False

/-- A resident process, the server's log and the entry that its connection sends next. -/
structure Link where
  process : Process
  log : ServerLog
  position : Nat

namespace Link

variable [Host] (r : Resident) (bootId : String)

/-- The rows of the resident's source, in insertion order. -/
def rows (l : Link) : List DerivedEvent := l.process.outbox.outboxEvents r.sourceInstanceId

def cursor (l : Link) : Option EventCursor := l.process.outbox.cursor r.sourceInstanceId

/-- The steps inside a run. -/
inductive Serves (l : Link) : List Occurrence → Link → Prop
  | grew {log : ServerLog} : l.log.entries <+: log.entries → Serves l [] { l with log }
  | internal {input : Input} {process : Process} {os : List Occurrence} : input.Internal →
      l.process.next r input = some (process, os) → Serves l os { l with process }
  | greeted {tally : Tally} {durableBefore : Option EventCursor} {frame : Dict} {ack : StreamAck}
      {position : Nat} {process : Process} {os : List Occurrence} :
      l.process.phase = .running tally (.handshake durableBefore) →
      StreamAck.parse frame = .ok ack → ack.bootId = bootId → ack.resume.gap = false →
      l.log.Resumes (durableBefore.map (·.seq)) position →
      ack.replayCount = l.log.entries.length - position →
      l.process.next r (.frame (.ok (some frame))) = some (process, os) →
      Serves l os { l with process, position }
  | sent {tally : Tally} {session : Session} {entry : LogEntry} {process : Process}
      {os : List Occurrence} : l.process.phase = .running tally (.reading session) →
      l.log.entries[l.position]? = some entry →
      l.process.next r (.frame (.ok (some entry.frame))) = some (process, os) →
      Serves l os { l with process, position := l.position + 1 }
  | cut {result : Except CmuxError (Option Dict)} {process : Process} {os : List Occurrence} :
      Bare result → l.process.next r (.frame result) = some (process, os) →
      Serves l os { l with process }

def started (l : Link) (maxConnections : Int) : Link :=
  { l with process := l.process.start r maxConnections }

/-- Any number of runs, each of which may be abandoned for the next. -/
inductive Step (l : Link) : List Occurrence → Link → Prop
  | serves {os : List Occurrence} {l' : Link} : Serves r bootId l os l' → Step l os l'
  | started (maxConnections : Int) : Step l [] (l.started r maxConnections)

/-- The rows are the log's entries up to this one, as far back as they go. -/
structure Covers (log : ServerLog) (rows : List DerivedEvent) (upto : Nat) : Prop where
  bound : upto ≤ log.entries.length
  reach : rows.length ≤ upto
  projected : rows.map .ok = ((log.entries.take upto).drop (upto - rows.length)).map fun entry =>
    project r.sourceInstanceId entry.frame bootId

end Link

section Projection

variable [Host] {r : Resident} {bootId : String} {entry : LogEntry} {event : DerivedEvent}

theorem project_entry (h : project r.sourceInstanceId entry.frame bootId = .ok event) :
    event.seq = entry.seq ∧ event.sourceEventId = entry.eventId := by
  unfold project at h
  split at h
  · cases h
  split at h
  · cases h
  split at h
  · rename_i seq eventId name hseq hid _
    split at h
    · cases h
    split at h
    · cases h
    cases h
    rw [entry.seq_eq] at hseq
    rw [entry.id_eq] at hid
    cases hseq
    cases hid
    exact ⟨rfl, rfl⟩
  · cases h

theorem parse_type {frame : Dict} {ack : StreamAck} (h : StreamAck.parse frame = .ok ack) :
    eqStr (frame.lookup "type") "ack" := by
  unfold StreamAck.parse at h
  split at h
  · cases h
  rename_i hsupported
  exact (not_not.mp hsupported).1

/-- An event of the log is neither passed over nor taken for the end of the stream. -/
theorem classify_entry {action : FrameAction} (h : r.classify bootId entry.frame = .ok action) :
    ∃ event, action = .event event ∧
      project r.sourceInstanceId entry.frame bootId = .ok event := by
  have hheartbeat : ¬ eqStr (entry.frame.lookup "type") "heartbeat" := fun htype =>
    absurd (eqStr_unique entry.isEvent htype) (by decide)
  have herror : ¬ eqStr (entry.frame.lookup "type") "error" := fun htype =>
    absurd (eqStr_unique entry.isEvent htype) (by decide)
  unfold Resident.classify at h
  rw [if_neg hheartbeat, if_neg herror, if_neg (not_not.mpr entry.isEvent)] at h
  split at h
  · cases h
  · rename_i event hproject
    cases h
    exact ⟨event, rfl, hproject⟩

end Projection

namespace Link

variable [Host] {r : Resident} {bootId : String} {l l' : Link} {os : List Occurrence}
  {log log' : ServerLog} {rows : List DerivedEvent} {upto : Nat} {entry : LogEntry}
  {event : DerivedEvent}

theorem covers_nil (h : upto ≤ log.entries.length) : Covers r bootId log [] upto :=
  ⟨h, Nat.zero_le _, by simp⟩

theorem covers_grew (h : Covers r bootId log rows upto) (hgrew : log.entries <+: log'.entries) :
    Covers r bootId log' rows upto := by
  refine ⟨h.bound.trans hgrew.length_le, h.reach, ?_⟩
  rw [h.projected, List.prefix_iff_eq_take.mp hgrew, List.take_take, Nat.min_eq_left h.bound]

/-- The next entry of the log extends the rows. -/
theorem covers_append (h : Covers r bootId log rows upto) (hentry : log.entries[upto]? = some entry)
    (hproject : project r.sourceInstanceId entry.frame bootId = .ok event) :
    Covers r bootId log (rows ++ [event]) (upto + 1) := by
  obtain ⟨hbound, hget⟩ := List.getElem?_eq_some_iff.mp hentry
  have hreach := h.reach
  have hlength : (log.entries.take upto).length = upto := List.length_take_of_le h.bound
  refine ⟨hbound, by simpa using h.reach, ?_⟩
  have hback : upto + 1 - (rows ++ [event]).length = upto - rows.length := by
    rw [List.length_append, List.length_singleton]
    omega
  rw [hback, List.map_append, h.projected, List.take_add_one, hentry, Option.toList_some,
    List.drop_append_of_le_length (by omega), List.map_append, List.map_singleton,
    List.map_singleton, hproject]

/-- A row is the projection of an entry before the end of the segment. -/
theorem covers_mem (h : Covers r bootId log rows upto) (hrow : event ∈ rows) :
    ∃ entry ∈ log.entries.take upto, project r.sourceInstanceId entry.frame bootId = .ok event := by
  have hok : (.ok event : Except CmuxError DerivedEvent) ∈ rows.map .ok :=
    List.mem_map_of_mem hrow
  rw [h.projected] at hok
  obtain ⟨entry, hentry, hproject⟩ := List.mem_map.mp hok
  exact ⟨entry, List.mem_of_mem_drop hentry, hproject⟩

/-- An entry after the segment has a greater number than its rows. -/
theorem covers_seq_lt (h : Covers r bootId log rows upto) (hrow : event ∈ rows)
    (hentry : log.entries[upto]? = some entry) : event.seq < entry.seq := by
  obtain ⟨earlier, hearlier, hproject⟩ := covers_mem h hrow
  obtain ⟨hbound, rfl⟩ := List.getElem?_eq_some_iff.mp hentry
  obtain ⟨index, hindex, rfl⟩ := List.mem_take_iff_getElem.mp hearlier
  rw [(project_entry hproject).1]
  exact List.pairwise_iff_getElem.mp log.ordered _ _ _ _ (by omega)

/-- The last row is the entry at the end of the segment. -/
theorem covers_last (h : Covers r bootId log rows upto) (hlast : rows.getLast? = some event) :
    0 < upto ∧ ∃ entry, log.entries[upto - 1]? = some entry ∧
      project r.sourceInstanceId entry.frame bootId = .ok event := by
  have hsome : rows ≠ [] := fun hnil => by simp [hnil] at hlast
  have hpos : 0 < rows.length := List.length_pos_of_ne_nil hsome
  have hreach := h.reach
  have hlength : (log.entries.take upto).length = upto := List.length_take_of_le h.bound
  refine ⟨by omega, ?_⟩
  have hok : (rows.map .ok).getLast? = some (.ok event : Except CmuxError DerivedEvent) := by
    rw [List.getLast?_map, hlast]
    rfl
  rw [h.projected, List.getLast?_map, Option.map_eq_some_iff] at hok
  obtain ⟨entry, hentry, hproject⟩ := hok
  refine ⟨entry, ?_, hproject⟩
  have hinside : upto - 1 < log.entries.length := by
    have hbound := h.bound
    omega
  rw [List.getLast?_drop, hlength, if_neg (by omega), List.getLast?_take, if_neg (by omega),
    List.getElem?_eq_getElem hinside, Option.some_or] at hentry
  rw [List.getElem?_eq_getElem hinside]
  exact hentry

omit [Host] in
/-- The entries with a greater number are those that come later. -/
theorem filter_later {index : Nat} (hentry : log.entries[index]? = some entry) :
    log.entries.filter (fun other => entry.seq < other.seq) = log.entries.drop (index + 1) := by
  obtain ⟨hbound, rfl⟩ := List.getElem?_eq_some_iff.mp hentry
  have hlt := List.pairwise_iff_getElem.mp log.ordered
  have hearlier : (log.entries.take (index + 1)).filter
      (fun other => (log.entries.get ⟨index, hbound⟩).seq < other.seq) = [] := by
    rw [List.filter_eq_nil_iff]
    intro other hother
    obtain ⟨i, hi, rfl⟩ := List.mem_take_iff_getElem.mp hother
    rcases Nat.lt_or_ge i index with hless | hge
    · have := hlt i index (by omega) hbound hless
      simp only [List.get_eq_getElem, decide_eq_true_eq]
      omega
    · have hsame : i = index := by omega
      simp [hsame]
  have hlater : (log.entries.drop (index + 1)).filter
      (fun other => (log.entries.get ⟨index, hbound⟩).seq < other.seq) =
        log.entries.drop (index + 1) := by
    rw [List.filter_eq_self]
    intro other hother
    obtain ⟨i, hi, rfl⟩ := List.mem_iff_getElem.mp hother
    rw [List.length_drop] at hi
    rw [List.getElem_drop]
    exact decide_eq_true (hlt index (index + 1 + i) hbound (by omega) (by omega))
  have hsplit := congrArg
    (List.filter (fun other => (log.entries.get ⟨index, hbound⟩).seq < other.seq))
    (List.take_append_drop (index + 1) log.entries)
  rw [List.filter_append, hearlier, hlater, List.nil_append] at hsplit
  exact hsplit.symm

/-- The server resumes right after the last row. -/
theorem covers_resumes {position : Nat} (h : Covers r bootId log rows upto)
    (hresumes : log.Resumes (rows.getLast?.map (·.seq)) position) :
    Covers r bootId log rows position := by
  obtain ⟨hbound, hexact⟩ := hresumes
  cases hlast : rows.getLast? with
  | none =>
    rw [List.getLast?_eq_none_iff] at hlast
    rw [hlast]
    exact covers_nil hbound
  | some event =>
    rw [hlast] at hexact
    obtain ⟨hpos, entry, hentry, hproject⟩ := covers_last h hlast
    have hdrop := hexact event.seq rfl
    rw [(project_entry hproject).1, filter_later hentry, Nat.sub_add_cancel hpos] at hdrop
    have hlengths := congrArg List.length hdrop
    rw [List.length_drop, List.length_drop] at hlengths
    have hsame : position = upto := by
      have hupto := h.bound
      omega
    rw [hsame]
    exact h

variable (r bootId) in
/-- The rows are a contiguous segment of the log, and the cursor is the last of them. -/
structure Replicated (l : Link) : Prop where
  segment : ∃ upto, Covers r bootId l.log (l.rows r) upto
  last : l.cursor r = (l.rows r).getLast?.map (·.cursor)

variable (r bootId) in
/-- A connection without a gap whose next entry continues the rows. -/
structure Attached (l : Link) (session : Session) (position : Nat) : Prop where
  contiguous : session.gap = false
  booted : session.ack.bootId = bootId
  covers : Covers r bootId l.log (l.rows r) position

variable (r bootId) in
/-- The event is the entry that the server sent last. -/
def InFlight (l : Link) (session : Session) (event : DerivedEvent) : Prop :=
  ∃ position entry, l.position = position + 1 ∧ l.log.entries[position]? = some entry ∧
    project r.sourceInstanceId entry.frame bootId = .ok event ∧
    l.Attached r bootId session position

variable (r bootId) in
/-- What the link owes to a phase of the resident. -/
def PositionedAt (l : Link) : Phase → Prop
  | .running _ (.handshake durableBefore) => durableBefore = l.cursor r
  | .running _ (.snapshotting _ _ _) => False
  | .running _ (.reading session) => l.Attached r bootId session l.position
  | .running _ (.observing session event) | .running _ (.committing session event) =>
    l.InFlight r bootId session event
  | _ => True

variable (r bootId) in
structure Linked (l : Link) : Prop where
  replicated : l.Replicated r bootId
  positioned : l.PositionedAt r bootId l.process.phase

/-- The tables that matter here. -/
def SameTables (o o' : Outbox) : Prop := o'.rows = o.rows ∧ o'.cursors = o.cursors

omit [Host] in
theorem rows_eq {process : Process} (h : SameTables l.process.outbox process.outbox)
    (position : Nat) : Link.rows r { l with process, position } = l.rows r :=
  congrArg (List.filter _) h.1

omit [Host] in
theorem cursor_eq {process : Process} (h : SameTables l.process.outbox process.outbox)
    (position : Nat) : Link.cursor r { l with process, position } = l.cursor r :=
  congrFun h.2 _

theorem replicated_of_same {process : Process} {position : Nat} (h : l.Replicated r bootId)
    (hsame : SameTables l.process.outbox process.outbox) :
    Replicated r bootId { l with process, position } := by
  refine ⟨?_, ?_⟩
  · rw [rows_eq hsame]
    exact h.segment
  · rw [rows_eq hsame, cursor_eq hsame]
    exact h.last

theorem attached_of_same {process : Process} {position upto : Nat} {session : Session}
    (h : l.Attached r bootId session upto)
    (hsame : SameTables l.process.outbox process.outbox) :
    Attached r bootId { l with process, position } session upto :=
  ⟨h.contiguous, h.booted, (rows_eq hsame position).symm ▸ h.covers⟩

/-- A step that leaves the tables alone and stands where nothing is asked. -/
theorem linked_of_same {process : Process} {position : Nat} (h : l.Linked r bootId)
    (hsame : SameTables l.process.outbox process.outbox)
    (hpositioned : PositionedAt r bootId { l with process, position } process.phase) :
    Linked r bootId { l with process, position } :=
  ⟨replicated_of_same h.replicated hsame, hpositioned⟩

/-- The resident's boot is the server's as soon as it has a row. -/
theorem cursor_boot (h : l.Replicated r bootId) {cursor : EventCursor}
    (hcursor : l.cursor r = some cursor) : cursor.bootId = bootId := by
  obtain ⟨upto, hcovers⟩ := h.segment
  rw [h.last, Option.map_eq_some_iff] at hcursor
  obtain ⟨event, hevent, rfl⟩ := hcursor
  obtain ⟨-, entry, -, hproject⟩ := covers_last hcovers hevent
  exact (project_eq_ok hproject).2.1

theorem grew_linked {log : ServerLog} (h : l.Linked r bootId)
    (hgrew : l.log.entries <+: log.entries) : Linked r bootId { l with log } := by
  have hattached : ∀ session position, l.Attached r bootId session position →
      Attached r bootId { l with log } session position := fun session position h =>
    ⟨h.contiguous, h.booted, covers_grew h.covers hgrew⟩
  have hflight : ∀ session event, l.InFlight r bootId session event →
      InFlight r bootId { l with log } session event := by
    rintro session event ⟨position, entry, hposition, hentry, hproject, h⟩
    refine ⟨position, entry, hposition, ?_, hproject, hattached _ _ h⟩
    obtain ⟨later, hlater⟩ := hgrew
    rw [← hlater, List.getElem?_append_left (List.getElem?_eq_some_iff.mp hentry).1]
    exact hentry
  obtain ⟨upto, hcovers⟩ := h.replicated.segment
  refine ⟨⟨⟨upto, covers_grew hcovers hgrew⟩, h.replicated.last⟩, ?_⟩
  have hpositioned := h.positioned
  dsimp only
  generalize l.process.phase = phase at hpositioned ⊢
  unfold PositionedAt at hpositioned ⊢
  split at hpositioned
  · exact hpositioned
  · exact hpositioned
  · exact hattached _ _ hpositioned
  · exact hflight _ _ hpositioned
  · exact hflight _ _ hpositioned
  · trivial

variable {tally : Tally} {session : Session}

/-- An event in flight is new to the outbox. -/
theorem commit_inserted {disposition : CommitDisposition} {outbox : Outbox}
    (hflight : l.InFlight r bootId session event)
    (hcommitted : Outbox.Committed l.process.outbox event session.gap disposition outbox) :
    disposition = .inserted ∧ outbox = l.process.outbox.insertEvent event := by
  obtain ⟨position, entry, -, hentry, hproject, hattached⟩ := hflight
  cases hcommitted with
  | inserted => exact ⟨rfl, rfl⟩
  | duplicate hrow =>
    have hmem : event ∈ l.rows r :=
      List.mem_filter.mpr ⟨hrow, by simpa using (project_eq_ok hproject).1⟩
    have hlt := covers_seq_lt hattached.covers hmem hentry
    rw [(project_entry hproject).1] at hlt
    omega

omit [Host] in
theorem rows_insertEvent (l : Link) (hsource : event.sourceInstanceId = r.sourceInstanceId) :
    (l.process.outbox.insertEvent event).outboxEvents r.sourceInstanceId = l.rows r ++ [event] := by
  rw [Outbox.outboxEvents_insertEvent, if_pos hsource]
  rfl

omit [Host] in
theorem account_reading (tally : Tally) (event : DerivedEvent) (h : session.gap = false) :
    ∃ session', (Process.account tally session event).2 = .reading session' ∧
      session'.gap = false ∧ session'.ack = session.ack := by
  unfold Process.account
  split
  · exact ⟨_, if_neg (by simp [h]), h, rfl⟩
  · exact ⟨session, rfl, h, rfl⟩

omit [Host] in
theorem account_counts (tally : Tally) (session : Session) (event : DerivedEvent) :
    (Process.account tally session event).1.inserted = tally.inserted ∧
      (Process.account tally session event).1.duplicates = tally.duplicates := by
  unfold Process.account
  split <;> exact ⟨rfl, rfl⟩

theorem committed_linked (hflight : l.InFlight r bootId session event) :
    Linked r bootId { l with process := { l.process with
      outbox := l.process.outbox.insertEvent event
      phase := .running (Process.account tally session event).1
        (Process.account tally session event).2 } } := by
  obtain ⟨position, entry, hposition, hentry, hproject, hattached⟩ := hflight
  have hsource := (project_eq_ok hproject).1
  have hcovers := covers_append hattached.covers hentry hproject
  obtain ⟨session', hreading, hgap, hack⟩ := account_reading tally event
    hattached.contiguous
  rw [← rows_insertEvent l hsource] at hcovers
  refine ⟨⟨⟨_, hcovers⟩, ?_⟩, ?_⟩
  · change Outbox.cursor _ _ = (Outbox.outboxEvents _ _).getLast?.map _
    rw [← hsource, Outbox.cursor_insertEvent, hsource, rows_insertEvent l hsource,
      List.getLast?_concat]
    rfl
  · rw [hreading]
    exact ⟨hgap, hack ▸ hattached.booted, hposition ▸ hcovers⟩

theorem internal_linked {input : Input} {process : Process} (h : l.Linked r bootId)
    (hinternal : input.Internal) (hstep : Process.Step r l.process input os process) :
    Linked r bootId { l with process } := by
  have hpositioned := h.positioned
  cases hstep with
  | started => cases hinternal
  | recovered hphase => exact linked_of_same h ⟨rfl, rfl⟩ trivial
  | replayed hphase hobserve => exact linked_of_same h ⟨rfl, rfl⟩ trivial
  | observed hphase hobserve =>
    rw [hphase] at hpositioned
    obtain ⟨position, entry, hposition, hentry, hproject, hattached⟩ := hpositioned
    exact linked_of_same h ⟨rfl, rfl⟩
      ⟨position, entry, hposition, hentry, hproject, attached_of_same hattached ⟨rfl, rfl⟩⟩
  | refused hphase hat hobserve => exact linked_of_same h ⟨rfl, rfl⟩ trivial
  | requested hphase => exact linked_of_same h ⟨rfl, rfl⟩ rfl
  | unreachable hphase => exact linked_of_same h ⟨rfl, rfl⟩ trivial
  | acknowledged => cases hinternal
  | ignored => cases hinternal
  | ended => cases hinternal
  | disconnected => cases hinternal
  | received => cases hinternal
  | committed hphase hcommitted =>
    rw [hphase] at hpositioned
    obtain ⟨rfl, rfl⟩ := commit_inserted hpositioned hcommitted
    exact committed_linked hpositioned
  | snapshotted hphase hcommands =>
    rw [hphase] at hpositioned
    cases hpositioned
  | @completed tally session returns audit hphase hremaining =>
    refine linked_of_same h ⟨rfl, rfl⟩ ?_
    unfold Process.completed
    dsimp only
    split <;> trivial
  | raised hphase hinput => exact linked_of_same h ⟨rfl, rfl⟩ trivial

theorem greeted_linked {durableBefore : Option EventCursor} {frame : Dict} {ack : StreamAck}
    {position : Nat} {process : Process} (h : l.Linked r bootId)
    (hphase : l.process.phase = .running tally (.handshake durableBefore))
    (hparse : StreamAck.parse frame = .ok ack) (hboot : ack.bootId = bootId)
    (hgap : ack.resume.gap = false) (hresumes : l.log.Resumes (durableBefore.map (·.seq)) position)
    (hstep : Process.Step r l.process (.frame (.ok (some frame))) os process) :
    Linked r bootId { l with process, position } := by
  have hpositioned := h.positioned
  rw [hphase] at hpositioned
  obtain ⟨upto, hcovers⟩ := h.replicated.segment
  have hbefore : durableBefore.map (·.seq) = (l.rows r).getLast?.map (·.seq) := by
    rw [show durableBefore = l.cursor r from hpositioned, h.replicated.last, Option.map_map]
    rfl
  rw [hbefore] at hresumes
  cases hstep with
  | acknowledged hphase' hparse' =>
    rw [hphase] at hphase'
    rw [hparse] at hparse'
    cases hphase'
    cases hparse'
    have hnone : Process.declaresGap durableBefore ack = false := by
      unfold Process.declaresGap
      rw [hgap, Bool.false_or]
      split
      · rename_i cursor
        simp only [decide_eq_false_iff_not, not_not]
        rw [hboot]
        exact cursor_boot h.replicated hpositioned.symm
      · rfl
    refine linked_of_same h ⟨rfl, rfl⟩ ?_
    unfold Process.opening
    rw [if_neg (by simp [hnone])]
    exact ⟨hnone, hboot, covers_resumes hcovers hresumes⟩
  | ignored hphase' => cases hphase.symm.trans hphase'
  | disconnected hphase' => cases hphase.symm.trans hphase'
  | received hphase' => cases hphase.symm.trans hphase'
  | raised hphase' hinput => exact linked_of_same h ⟨rfl, rfl⟩ trivial

theorem sent_linked {process : Process} (h : l.Linked r bootId)
    (hphase : l.process.phase = .running tally (.reading session))
    (hentry : l.log.entries[l.position]? = some entry)
    (hstep : Process.Step r l.process (.frame (.ok (some entry.frame))) os process) :
    Linked r bootId { l with process, position := l.position + 1 } := by
  have hpositioned := h.positioned
  rw [hphase] at hpositioned
  have hattached : l.Attached r bootId session l.position := hpositioned
  cases hstep with
  | acknowledged hphase' => cases hphase.symm.trans hphase'
  | ignored hphase' hignore =>
    obtain ⟨event, hevent, -⟩ := classify_entry hignore
    cases hevent
  | disconnected hphase' hlatest =>
    obtain ⟨event, hevent, -⟩ := classify_entry hlatest
    cases hevent
  | received hphase' hevent =>
    cases hphase.symm.trans hphase'
    obtain ⟨event, heq, hproject⟩ := classify_entry hevent
    cases heq
    rw [hattached.booted] at hproject
    exact linked_of_same h ⟨rfl, rfl⟩ ⟨l.position, entry, rfl, hentry, hproject,
      attached_of_same hattached ⟨rfl, rfl⟩⟩
  | raised hphase' hinput => exact linked_of_same h ⟨rfl, rfl⟩ trivial

theorem cut_linked {result : Except CmuxError (Option Dict)} {process : Process}
    (h : l.Linked r bootId) (hbare : Bare result)
    (hstep : Process.Step r l.process (.frame result) os process) :
    Linked r bootId { l with process } := by
  cases hstep with
  | acknowledged hphase hparse =>
    have htype := parse_type hparse
    rw [hbare.2] at htype
    cases htype
  | ignored hphase hignore => exact h
  | ended hphase => exact linked_of_same h ⟨rfl, rfl⟩ trivial
  | disconnected hphase hlatest => exact linked_of_same h ⟨rfl, rfl⟩ trivial
  | received hphase hevent =>
    have htype := (Process.classify_event hevent).1
    rw [hbare.1] at htype
    cases htype
  | raised hphase hinput => exact linked_of_same h ⟨rfl, rfl⟩ trivial

theorem serves_linked (h : l.Linked r bootId) (hstep : Serves r bootId l os l') :
    l'.Linked r bootId := by
  cases hstep with
  | grew hgrew => exact grew_linked h hgrew
  | internal hinternal hnext => exact internal_linked h hinternal (Process.step_of_next hnext)
  | greeted hphase hparse hboot hgap hresumes hcount hnext =>
    exact greeted_linked h hphase hparse hboot hgap hresumes (Process.step_of_next hnext)
  | sent hphase hentry hnext => exact sent_linked h hphase hentry (Process.step_of_next hnext)
  | cut hbare hnext => exact cut_linked h hbare (Process.step_of_next hnext)

theorem started_linked (h : l.Linked r bootId) (maxConnections : Int) :
    (l.started r maxConnections).Linked r bootId := by
  unfold started Process.start
  split
  · exact linked_of_same h ⟨rfl, rfl⟩ trivial
  · refine linked_of_same h ⟨rfl, rfl⟩ ?_
    dsimp only
    split <;> trivial

theorem step_linked (h : l.Linked r bootId) (hstep : Step r bootId l os l') :
    l'.Linked r bootId := by
  cases hstep with
  | serves hserves => exact serves_linked h hserves
  | started maxConnections => exact started_linked h maxConnections

theorem linked_runs (h : l.Linked r bootId) (hruns : Runs (Step r bootId) l os l') :
    l'.Linked r bootId :=
  hruns.invariant (J := fun _ l => l.Linked r bootId) h step_linked

/-- A run that began with `base` rows has counted those that are `now` more. -/
def CountedAt (base now : Nat) : Phase → Prop
  | .running tally _ => tally.inserted + base = now ∧ tally.duplicates = 0
  | .returned run => run.insertedEventCount + base = now ∧ run.duplicateEventCount = 0
  | _ => True

theorem process_counted {base : Nat} {input : Input} {process : Process} (h : l.Linked r bootId)
    (hcounted : CountedAt base (l.rows r).length l.process.phase)
    (hstart : ∀ maxConnections, input ≠ .start maxConnections)
    (hstep : Process.Step r l.process input os process) :
    CountedAt base (process.outbox.outboxEvents r.sourceInstanceId).length process.phase := by
  cases hstep with
  | started maxConnections => exact absurd rfl (hstart maxConnections)
  | ignored => exact hcounted
  | committed hphase hcommitted =>
    have hflight := h.positioned
    rw [hphase] at hcounted hflight
    obtain ⟨rfl, rfl⟩ := commit_inserted hflight hcommitted
    obtain ⟨_, _, _, _, hproject, _⟩ := hflight
    obtain ⟨hinserted, hduplicates⟩ := account_counts (Tally.count _ .inserted) _ _
    refine ⟨?_, hduplicates.trans hcounted.2⟩
    rw [hinserted, rows_insertEvent l (project_eq_ok hproject).1, List.length_append,
      List.length_singleton, ← hcounted.1]
    simp only [Tally.count]
    omega
  | completed hphase hremaining =>
    rw [hphase] at hcounted
    unfold Process.completed
    dsimp only
    split <;> exact hcounted
  | snapshotted hphase hcommands =>
    have hnever := h.positioned
    rw [hphase] at hnever
    cases hnever
  | refused | unreachable | raised => trivial
  | recovered hphase | replayed hphase | observed hphase | requested hphase | acknowledged hphase
  | ended hphase | disconnected hphase | received hphase =>
    rw [hphase] at hcounted
    exact hcounted

theorem serves_counted {base : Nat} (h : l.Linked r bootId)
    (hcounted : CountedAt base (l.rows r).length l.process.phase)
    (hstep : Serves r bootId l os l') : CountedAt base (l'.rows r).length l'.process.phase := by
  cases hstep with
  | grew => exact hcounted
  | internal hinternal hnext =>
    refine process_counted h hcounted (fun maxConnections heq => ?_) (Process.step_of_next hnext)
    rw [heq] at hinternal
    cases hinternal
  | greeted _ _ _ _ _ _ hnext | sent _ _ hnext | cut _ hnext =>
    exact process_counted h hcounted (fun _ heq => by cases heq) (Process.step_of_next hnext)

theorem counted_runs {base : Nat} (h : l.Linked r bootId)
    (hcounted : CountedAt base (l.rows r).length l.process.phase)
    (hruns : Runs (Serves r bootId) l os l') :
    CountedAt base (l'.rows r).length l'.process.phase :=
  (hruns.invariant (J := fun _ l => l.Linked r bootId ∧
      CountedAt base (l.rows r).length l.process.phase) ⟨h, hcounted⟩
    fun h hstep => ⟨serves_linked h.1 hstep, serves_counted h.1 h.2 hstep⟩).2

omit [Host] in
theorem started_counted (l : Link) (maxConnections : Int) :
    CountedAt (l.rows r).length ((l.started r maxConnections).rows r).length
      (l.started r maxConnections).process.phase := by
  unfold started Process.start
  split
  · trivial
  · exact ⟨Nat.zero_add _, rfl⟩

/-- The ids of the rows are those of their entries. -/
theorem ids_projected {rows : List DerivedEvent} {entries : List LogEntry}
    (h : rows.map .ok = entries.map fun entry =>
      project r.sourceInstanceId entry.frame bootId) :
    rows.map (·.sourceEventId) = entries.map (·.eventId) := by
  induction rows generalizing entries with
  | nil =>
    cases entries with
    | nil => rfl
    | cons entry entries => cases h
  | cons row rows ih =>
    cases entries with
    | nil => cases h
    | cons entry entries =>
      rw [List.map_cons, List.map_cons, List.cons.injEq] at h
      rw [List.map_cons, List.map_cons, ih h.2, (project_entry h.1.symm).2]

theorem covers_nodup (h : Covers r bootId log rows upto) :
    (rows.map (·.sourceEventId)).Nodup := by
  rw [ids_projected h.projected]
  exact log.distinct.sublist (((List.drop_sublist _ _).trans (List.take_sublist _ _)).map _)

theorem covers_contiguous (h : Covers r bootId log rows upto) : ∃ start,
    rows.map .ok = ((log.entries.drop start).take rows.length).map fun entry =>
      project r.sourceInstanceId entry.frame bootId := by
  refine ⟨upto - rows.length, ?_⟩
  rw [h.projected, List.drop_take, Nat.sub_sub_self h.reach]

theorem process_requested {p p' : Process} {input : Input} {afterSeq : Option Int}
    (hstep : Process.Step r p input os p') (hrequested : .requested afterSeq ∈ os) :
    afterSeq = (p.outbox.cursor r.sourceInstanceId).map (·.seq) := by
  cases hstep with
  | requested | unreachable =>
    cases List.mem_singleton.mp hrequested
    rfl
  | replayed _ hobserve | observed _ hobserve | refused _ _ hobserve =>
    obtain ⟨receipt, heq⟩ := Process.observe_seen hobserve hrequested
    cases heq
  | acknowledged | committed | snapshotted | completed => cases List.mem_singleton.mp hrequested
  | started | recovered | ignored | ended | disconnected | received | raised => cases hrequested

/-- A request is made at the last row. -/
theorem step_requested {afterSeq : Option Int} (h : l.Replicated r bootId)
    (hstep : Step r bootId l os l') (hrequested : .requested afterSeq ∈ os) :
    afterSeq = (l.rows r).getLast?.map (·.seq) := by
  have hcursor : (l.cursor r).map (·.seq) = (l.rows r).getLast?.map (·.seq) := by
    rw [h.last, Option.map_map]
    rfl
  rw [← hcursor]
  cases hstep with
  | started => cases hrequested
  | serves hserves =>
    cases hserves with
    | grew => cases hrequested
    | internal _ hnext | greeted _ _ _ _ _ _ hnext | sent _ _ hnext | cut _ hnext =>
      exact process_requested (Process.step_of_next hnext) hrequested

theorem linked_initial (hready : l.process.phase = .ready) (hrows : l.rows r = [])
    (hcursor : l.cursor r = none) : l.Linked r bootId := by
  refine ⟨⟨⟨0, hrows ▸ covers_nil (Nat.zero_le _)⟩, ?_⟩, ?_⟩
  · rw [hcursor, hrows]
    rfl
  · rw [hready]
    trivial

end Link

/-- Whatever is cut and restarted, the rows are a contiguous segment of the server's log, each
event once, the cursor is the last row and the next request; and a run that returns has counted
every row that it added. -/
theorem log_replicated [Host] (r : Resident) (bootId : String) {start l : Link}
    {os : List Occurrence} (hready : start.process.phase = .ready) (hrows : start.rows r = [])
    (hcursor : start.cursor r = none) (hruns : Runs (Link.Step r bootId) start os l) :
    (∃ first, (l.rows r).map .ok =
        ((l.log.entries.drop first).take (l.rows r).length).map fun entry =>
          project r.sourceInstanceId entry.frame bootId) ∧
      ((l.rows r).map (·.sourceEventId)).Nodup ∧
      l.cursor r = (l.rows r).getLast?.map (·.cursor) ∧
      (∀ new l' afterSeq, Link.Step r bootId l new l' → .requested afterSeq ∈ new →
        afterSeq = (l.rows r).getLast?.map (·.seq)) ∧
      ∀ maxConnections later l' run,
        Runs (Link.Serves r bootId) (l.started r maxConnections) later l' →
        l'.process.phase = .returned run →
        run.insertedEventCount + (l.rows r).length = (l'.rows r).length ∧
          run.duplicateEventCount = 0 := by
  have hlinked := Link.linked_runs (Link.linked_initial hready hrows hcursor) hruns
  obtain ⟨upto, hcovers⟩ := hlinked.replicated.segment
  refine ⟨Link.covers_contiguous hcovers, Link.covers_nodup hcovers, hlinked.replicated.last,
    fun new l' afterSeq hstep hmem => Link.step_requested hlinked.replicated hstep hmem, ?_⟩
  intro maxConnections later l' run hserves hreturned
  have hcounted := Link.counted_runs (Link.started_linked hlinked maxConnections)
    (Link.started_counted l maxConnections) hserves
  rw [hreturned] at hcounted
  exact hcounted

def sampleEntry (seq : Nat) : LogEntry where
  frame := sampleFrame seq inputSent []
  seq := seq
  eventId := sampleEventId seq
  isEvent := by simp [sampleFrame, eqStr]
  seq_eq := by simp [sampleFrame, List.lookup_cons]
  id_eq := by simp [sampleFrame, List.lookup_cons]

theorem ordered_sampleEntries :
    [sampleEntry 1, sampleEntry 2].Pairwise fun a b => a.seq < b.seq := by
  simp [sampleEntry]

def sampleLog : ServerLog where
  entries := [sampleEntry 1, sampleEntry 2]
  ordered := ordered_sampleEntries
  distinct := by decide

def sampleLink : Link where
  process := {}
  log := sampleLog
  position := 0

def sampleAt (process : Process) (position : Nat) : Link := { sampleLink with process, position }

def sampleSession (durableBefore : Option EventCursor) (replayCount inserted duplicates : Nat) :
    Session where
  durableBefore := durableBefore
  ack := ⟨"boot-1", replayCount, ⟨none, 0, 2, 3, false⟩⟩
  gap := false
  remainingReplay := replayCount
  insertedBefore := inserted
  duplicatesBefore := duplicates

def sampleRow (seq : Nat) : DerivedEvent := sampleEvent seq inputSent []

def firstOutbox : Outbox := Outbox.insertEvent {} (sampleRow 1)

def secondOutbox : Outbox := firstOutbox.insertEvent (sampleRow 2)

/-- The reader fails in the middle of the replay. -/
def sampleCut : Link :=
  sampleAt { outbox := firstOutbox, phase := .raised (.streamProtocol "connection lost") } 1

/-- What the second run has counted at its end. -/
def sampleCounted : Tally :=
  { maxConnections := 2, left := 1, reconnectAfter := [some 1, some 2], replayCount := 1
    inserted := 1 }

def sampleRun : ResidentRun := Process.result sampleCounted

def sampleEnd (audit : List StreamAudit) : Link :=
  sampleAt { outbox := { secondOutbox with audit }, phase := .returned sampleRun } 2

section Sample

variable [Host] {tally : Tally} {session : Session} {outbox : Outbox} {durable : Option EventCursor}

/-- A connection is opened at the durable cursor, and the server takes the log up there. -/
theorem sample_connects {seen position replay : Nat} (hcursor : outbox.cursor "cmux-1" = durable)
    (hboot : ∀ cursor, durable = some cursor → cursor.bootId = "boot-1")
    (hresumes : sampleLog.Resumes (durable.map (·.seq)) position)
    (hreplay : replay = 2 - position) : ∃ os,
    Runs (Link.Serves bareResident "boot-1") (sampleAt (sampleProcess tally .connecting outbox) seen)
      os (sampleAt (sampleProcess
        { tally with reconnectAfter := tally.reconnectAfter ++ [durable.map (·.seq)] }
        (.reading (sampleSession durable replay tally.inserted tally.duplicates)) outbox)
        position) := by
  subst hcursor
  let asked : Tally :=
    { tally with reconnectAfter := tally.reconnectAfter ++ [(outbox.cursor "cmux-1").map (·.seq)] }
  let greeting := sampleProcess asked (.handshake (outbox.cursor "cmux-1")) outbox
  have hopened : Link.Serves bareResident "boot-1"
      (sampleAt (sampleProcess tally .connecting outbox) seen) _ (sampleAt greeting seen) :=
    @Link.Serves.internal _ _ _ _ (.opened (.ok ())) _ _ trivial rfl
  have hack := parse_sampleAckFrame replay 2 false
  have hgap (ack : StreamAck) (hack : ack.bootId = "boot-1") (hresume : ack.resume.gap = false) :
      Process.declaresGap (outbox.cursor "cmux-1") ack = false := by
    unfold Process.declaresGap
    rw [hresume]
    cases hdurable : outbox.cursor "cmux-1" with
    | none => rfl
    | some cursor => simp [hboot cursor hdurable, hack]
  have hgreeted : greeting.next bareResident (.frame (.ok (some (sampleAckFrame replay 2 false)))) =
      some (sampleProcess asked (.reading
        (sampleSession (outbox.cursor "cmux-1") replay tally.inserted tally.duplicates)) outbox,
        [.acknowledged "boot-1" false]) := by
    simp only [greeting, Process.next, Process.acknowledge, sampleProcess, hack, Process.opening]
    rw [hgap _ rfl rfl]
    rfl
  exact ⟨_, (Runs.single hopened).tail
    (.greeted rfl hack rfl rfl hresumes hreplay hgreeted)⟩

/-- An entry is sent and committed. -/
theorem sample_delivers {position seq : Nat}
    (hentry : sampleLog.entries[position]? = some (sampleEntry seq)) (hseq : seq < 2 ^ 63)
    (hboot : session.ack.bootId = "boot-1")
    (hunseen : ∀ row ∈ outbox.rows, row.cursor ≠ (sampleRow seq).cursor ∧
      row.sourceEventId ≠ sampleEventId seq)
    (hadmits : Outbox.admitsUnseen (outbox.cursor "cmux-1") (sampleRow seq) session.gap =
      .ok ()) : ∃ os,
    Runs (Link.Serves bareResident "boot-1")
      (sampleAt (sampleProcess tally (.reading session) outbox) position) os
      (sampleAt (sampleProcess (Process.account (tally.count .inserted) session (sampleRow seq)).1
        (Process.account (tally.count .inserted) session (sampleRow seq)).2
        (outbox.insertEvent (sampleRow seq))) (position + 1)) := by
  let observing := sampleProcess tally (.observing session (sampleRow seq)) outbox
  let committing := sampleProcess tally (.committing session (sampleRow seq)) outbox
  have hsent : Link.Serves bareResident "boot-1"
      (sampleAt (sampleProcess tally (.reading session) outbox) position) []
      (sampleAt observing (position + 1)) :=
    .sent rfl hentry (next_sampleFrame rfl samplePayload_empty (by decide) rfl hboot)
  have hobserved : Link.Serves bareResident "boot-1" (sampleAt observing (position + 1)) []
      (sampleAt committing (position + 1)) :=
    @Link.Serves.internal _ _ _ _ (.proceed true) _ _ trivial rfl
  have hcommitted := @next_sampleEvent _ [] [] bareResident committing tally session seq inputSent
    true samplePayload_empty (by decide) hseq rfl hunseen hadmits
  exact ⟨_, ((Runs.single hsent).tail hobserved).tail
    (@Link.Serves.internal _ _ _ _ (.proceed true) _ _ trivial hcommitted)⟩

/-- The stream ends, its replay done. -/
theorem sample_ends {position : Nat} {cursor before : EventCursor}
    (hdone : session.remainingReplay = 0) (hbefore : session.durableBefore = some before)
    (hcursor : outbox.cursor "cmux-1" = some cursor) (hsource : cursor.sourceInstanceId = "cmux-1") : ∃ os audit,
    Runs (Link.Serves bareResident "boot-1")
      (sampleAt (sampleProcess tally (.reading session) outbox) position) os
      (sampleAt { outbox := { outbox with audit }, phase := Process.completed tally } position) := by
  let closing := sampleProcess tally (.closing session) outbox
  have hended : Link.Serves bareResident "boot-1"
      (sampleAt (sampleProcess tally (.reading session) outbox) position) []
      (sampleAt closing position) := @Link.Serves.cut _ _ _ _ (.ok none) _ _ trivial rfl
  have hcompleted : ∃ os audit, closing.next bareResident (.proceed true) =
      some ({ outbox := { outbox with audit }, phase := Process.completed tally }, os) := by
    simp only [closing, sampleProcess, Process.next, Process.close, hdone, hbefore, bareResident,
      hcursor, Outbox.recordReconnectReplay, hsource, ne_eq, not_true_eq_false, if_false]
    exact ⟨_, _, rfl⟩
  obtain ⟨os, audit, hcompleted⟩ := hcompleted
  exact ⟨_, audit, (Runs.single hended).tail
    (@Link.Serves.internal _ _ _ _ (.proceed true) _ _ trivial hcompleted)⟩

/-- The first run is cut in the middle of its replay; the second one reconnects once. -/
theorem sampleLink_serves :
    (∃ os, Runs (Link.Serves bareResident "boot-1") (sampleLink.started bareResident 1) os
      sampleCut) ∧
    ∃ os audit, Runs (Link.Serves bareResident "boot-1") (sampleCut.started bareResident 2) os
      (sampleEnd audit) := by
  have hfirst : firstOutbox.cursor "cmux-1" = some ⟨"cmux-1", "boot-1", 1⟩ :=
    Outbox.cursor_insertEvent {} (sampleRow 1)
  have hsecond : secondOutbox.cursor "cmux-1" = some ⟨"cmux-1", "boot-1", 2⟩ :=
    Outbox.cursor_insertEvent firstOutbox (sampleRow 2)
  constructor
  · obtain ⟨_, hconnects⟩ := @sample_connects _ { maxConnections := 1, left := 1 } {} none 0 0 2 rfl
      (fun _ h => by cases h) ⟨Nat.zero_le _, fun _ h => by cases h⟩ rfl
    obtain ⟨_, hdelivers⟩ := @sample_delivers _
      { maxConnections := 1, left := 1, reconnectAfter := [none] } (sampleSession none 2 0 0) {} 0 1
      rfl (by decide) rfl (fun _ h => by cases h) rfl
    exact ⟨_, (hconnects.trans hdelivers).tail
      (@Link.Serves.cut _ _ _ _ (.error (.streamProtocol "connection lost")) _ _ trivial rfl)⟩
  · let tally : Tally := { maxConnections := 2, left := 2 }
    let asked : Tally := { tally with reconnectAfter := [some 1] }
    let counted : Tally := { sampleCounted with left := 2, reconnectAfter := [some 1] }
    obtain ⟨_, hconnects⟩ := @sample_connects _ tally firstOutbox _ 1 1 1 hfirst
      (fun _ h => by cases h; rfl) ⟨by decide, fun _ h => by cases h; rfl⟩ rfl
    obtain ⟨_, hdelivers⟩ := @sample_delivers _ asked
      (sampleSession (some ⟨"cmux-1", "boot-1", 1⟩) 1 0 0) firstOutbox 1 2 rfl (by decide) rfl
      (by
        intro row hrow
        rw [List.mem_singleton.mp hrow]
        decide)
      (by
        rw [hfirst]
        rfl)
    obtain ⟨_, audit, hends⟩ := @sample_ends _ counted
      { sampleSession (some ⟨"cmux-1", "boot-1", 1⟩) 1 0 0 with remainingReplay := 0, replaySeen := 1 }
      secondOutbox 2 _ _ rfl rfl hsecond rfl
    let audited : Outbox := { secondOutbox with audit }
    obtain ⟨_, hreconnects⟩ := @sample_connects _ { counted with left := 1 } audited _ 2 2 0 hsecond
      (fun _ h => by cases h; rfl) ⟨by decide, fun _ h => by cases h; rfl⟩ rfl
    obtain ⟨_, audit', hreturns⟩ := @sample_ends _ sampleCounted
      (sampleSession (some ⟨"cmux-1", "boot-1", 2⟩) 0 1 0) audited 2 _ _ rfl rfl hsecond rfl
    exact ⟨_, audit', (((hconnects.trans hdelivers).trans hends).trans hreconnects).trans hreturns⟩

end Sample

/-- After the cut the second run asks for what is left, and both rows are there, each once. -/
theorem log_replicated_sample : ∃ audit os,
    Runs (@Link.Step sampleHost bareResident "boot-1") sampleLink os (sampleEnd audit) ∧
    (sampleEnd audit).rows bareResident = [sampleRow 1, sampleRow 2] ∧
    (sampleEnd audit).cursor bareResident =
      ((sampleEnd audit).rows bareResident).getLast?.map (·.cursor) ∧
    sampleRun.insertedEventCount + (sampleCut.rows bareResident).length =
      ((sampleEnd audit).rows bareResident).length ∧ sampleRun.duplicateEventCount = 0 := by
  obtain ⟨⟨cut, hcut⟩, os, audit, hserves⟩ := @sampleLink_serves sampleHost
  have hstarts (l : Link) (maxConnections : Int) : Runs (@Link.Step sampleHost bareResident "boot-1")
      l [] (l.started bareResident maxConnections) :=
    Runs.single (@Link.Step.started sampleHost _ _ _ maxConnections)
  have hinside {l l' : Link} {os : List Occurrence}
      (h : Runs (@Link.Serves sampleHost bareResident "boot-1") l os l') :
      Runs (@Link.Step sampleHost bareResident "boot-1") l os l' :=
    h.mono fun _ _ _ hstep => @Link.Step.serves sampleHost _ _ _ _ _ hstep
  have hbefore := (hstarts sampleLink 1).trans (hinside hcut)
  have hwhole := (hbefore.trans (hstarts sampleCut 2)).trans (hinside hserves)
  refine ⟨audit, _, hwhole, rfl, ?_, ?_⟩
  · exact (@log_replicated sampleHost bareResident "boot-1" _ _ _ rfl rfl rfl hwhole).2.2.1
  · exact (@log_replicated sampleHost bareResident "boot-1" _ _ _ rfl rfl rfl hbefore).2.2.2.2 2 os
      (sampleEnd audit) sampleRun hserves rfl

end Yatagarasu.Cmux
