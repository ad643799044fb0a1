import Yatagarasu.Cmux.Resident

/-! A gap is known to one connection only, while the cursor moves with every event. A gap that is
cut between its first event and its snapshot is forgotten. -/

namespace Yatagarasu.Cmux

open Transition

namespace Phase

/-- The connection that is open. -/
def session? : Phase → Option Session
  | .running _ (.snapshotting session _ _) | .running _ (.reading session)
  | .running _ (.observing session _) | .running _ (.committing session _)
  | .running _ (.closing session) => some session
  | _ => none

/-- The connection has declared a gap, and its snapshot is not recorded. -/
def owes : Phase → Bool
  | .running _ (.snapshotting session _ _) => session.gap
  | .running _ (.reading session) | .running _ (.observing session _)
  | .running _ (.committing session _) | .running _ (.closing session) =>
    session.gap && session.remainingReplay ≠ 0
  | _ => false

/-- Some event of the gap is committed, and its snapshot is not recorded. -/
def Exposed (phase : Phase) : Prop :=
  phase.owes ∧ ∃ session, phase.session? = some session ∧ 0 < session.replaySeen

end Phase

/-- A step that neither raises nor restarts while a gap is half committed. -/
def Process.Unbroken [Host] (r : Resident) (p : Process) (os : List Occurrence) (p' : Process) :
    Prop :=
  p.Moves r os p' ∧ (p.phase.Exposed → p'.phase.session? ≠ none)

def Occurrence.isAck : Occurrence → Bool
  | .acknowledged _ _ => true
  | _ => false

def Occurrence.isCommit : Occurrence → Bool
  | .committed _ _ => true
  | _ => false

/-- An event was committed before the next connection was acknowledged. -/
def Fruitful (rest : List Occurrence) : Prop :=
  ∃ between event disposition after, rest = between ++ .committed event disposition :: after ∧
    ∀ o ∈ between, ¬ o.isAck

/-- The transaction left an audit row and a baseline for each snapshot method. -/
def Recorded (r : Resident) (cursor : EventCursor) (recorded : Outbox) : Prop :=
  (∃ detail, recorded.audit.getLast? = some ⟨.gapResnapshot, cursor, detail⟩) ∧
    ∀ method ∈ snapshotMethods, ∃ row,
      recorded.baselines r.sourceInstanceId method = some row ∧ row.cursor = cursor

/-- A snapshot for this boot is among the occurrences. -/
def Snapshotted (r : Resident) (bootId : String) (os : List Occurrence) : Prop :=
  ∃ cursor recorded, .snapshotted cursor recorded ∈ os ∧ cursor.bootId = bootId ∧
    Recorded r cursor recorded

/-- The last acknowledgement and what occurred since. -/
def sinceAck (os : List Occurrence) : Option (String × Bool × List Occurrence) :=
  os.foldl (fun since o => match o with
    | .acknowledged bootId gap => some (bootId, gap, [])
    | o => since.map fun found => (found.1, found.2.1, found.2.2 ++ [o])) none

section Lists

variable {r : Resident} {os new rest : List Occurrence} {bootId : String} {gap : Bool}
  {o : Occurrence}

theorem sinceAck_acknowledged : sinceAck (os ++ [.acknowledged bootId gap]) =
    some (bootId, gap, []) := by
  simp [sinceAck]

theorem sinceAck_append (hnew : ∀ o ∈ new, ¬ o.isAck) : sinceAck (os ++ new) =
    (sinceAck os).map fun found => (found.1, found.2.1, found.2.2 ++ new) := by
  induction new using List.reverseRecOn with
  | nil => simp
  | append_singleton new o ih =>
    have hquiet : ¬ o.isAck := hnew o (by simp)
    have hsplit : sinceAck (os ++ (new ++ [o])) =
        (sinceAck (os ++ new)).map fun found => (found.1, found.2.1, found.2.2 ++ [o]) := by
      cases o with
      | acknowledged => exact absurd rfl hquiet
      | requested | submitted | committed | snapshotted | completed => simp [sinceAck]
    rw [hsplit, ih fun o ho => hnew o (by simp [ho]), Option.map_map]
    simp only [Function.comp_def, List.append_assoc]

theorem sinceAck_of_quiet {before : List Occurrence} (hrest : ∀ o ∈ rest, ¬ o.isAck) :
    sinceAck (before ++ .acknowledged bootId gap :: rest) = some (bootId, gap, rest) := by
  have hsplit : before ++ .acknowledged bootId gap :: rest =
      (before ++ [.acknowledged bootId gap]) ++ rest := by simp
  rw [hsplit, sinceAck_append hrest, sinceAck_acknowledged]
  simp

/-- An occurrence that is not among the new ones was there before. -/
theorem split_append {before : List Occurrence} (h : os ++ new = before ++ o :: rest)
    (hnew : o ∉ new) : ∃ earlier, os = before ++ o :: earlier ∧ rest = earlier ++ new := by
  rcases List.append_eq_append_iff.mp h with ⟨gone, -, hgone⟩ | ⟨kept, hkept, htail⟩
  · exact absurd (by simp [hgone]) hnew
  · cases kept with
    | nil => exact absurd (by simp [show new = o :: rest from htail.symm]) hnew
    | cons first earlier =>
      rw [List.cons_append, List.cons.injEq] at htail
      obtain ⟨rfl, rfl⟩ := htail
      exact ⟨earlier, hkept, rfl⟩

theorem split_concat {before : List Occurrence} {last : Occurrence}
    (h : os ++ [last] = before ++ o :: rest) (hrest : rest ≠ []) :
    ∃ earlier, os = before ++ o :: earlier ∧ rest = earlier ++ [last] := by
  obtain ⟨earlier, final, rfl⟩ := (List.eq_nil_or_concat rest).resolve_left hrest
  have hsplit : os ++ [last] = (before ++ o :: earlier) ++ [final] := by simpa using h
  obtain ⟨hos, hlast⟩ := List.append_inj' hsplit rfl
  cases hlast
  exact ⟨earlier, hos, List.concat_eq_append⟩

theorem fruitful_append (h : Fruitful (rest ++ new)) :
    Fruitful rest ∨ ((∀ o ∈ rest, ¬ o.isAck) ∧ ∃ o ∈ new, o.isCommit) := by
  obtain ⟨between, event, disposition, after, heq, hquiet⟩ := h
  rcases List.append_eq_append_iff.mp heq with ⟨later, rfl, hlater⟩ | ⟨kept, hkept, htail⟩
  · refine Or.inr ⟨fun o ho => hquiet o (List.mem_append_left _ ho), ?_⟩
    exact ⟨.committed event disposition, by simp [hlater], rfl⟩
  · cases kept with
    | nil =>
      rw [List.append_nil] at hkept
      refine Or.inr ⟨hkept ▸ hquiet, .committed event disposition, ?_, rfl⟩
      simp [show new = _ from htail.symm]
    | cons first earlier =>
      rw [List.cons_append, List.cons.injEq] at htail
      exact Or.inl ⟨between, event, disposition, earlier, by rw [hkept, ← htail.1], hquiet⟩

theorem snapshotted_append (h : Snapshotted r bootId rest) : Snapshotted r bootId (rest ++ new) := by
  obtain ⟨cursor, recorded, hmem, hrest⟩ := h
  exact ⟨cursor, recorded, List.mem_append_left _ hmem, hrest⟩

end Lists

/-- Nothing that a gap is about. -/
def Quiet (os : List Occurrence) : Prop :=
  ∀ o ∈ os, ¬ o.isAck ∧ ¬ o.isCommit

/-- A step, as far as connections, gaps and snapshots go. -/
inductive Turn (r : Resident) (p : Process) : List Occurrence → Process → Prop
  | away {os : List Occurrence} {p' : Process} : Quiet os → p'.phase.session? = none →
      Turn r p os p'
  | opened {session : Session} {p' : Process} : p.phase.session? = none →
      p'.phase.session? = some session → (session.gap → p'.phase.owes) →
      Turn r p [.acknowledged session.ack.bootId session.gap] p'
  | kept {os : List Occurrence} {session : Session} {p' : Process} : Quiet os →
      p.phase.session? = some session → p'.phase.session? = some session →
      p'.phase.owes = p.phase.owes → Turn r p os p'
  | committed {event : DerivedEvent} {disposition : CommitDisposition} {session session' : Session}
      {p' : Process} : p.phase.session? = some session → p'.phase.session? = some session' →
      session'.ack = session.ack → session'.gap = session.gap → p'.phase.owes = p.phase.owes →
      (p.phase.owes → 0 < session'.replaySeen) → Turn r p [.committed event disposition] p'
  | snapshotted {cursor : EventCursor} {recorded : Outbox} {session : Session} {p' : Process} :
      p.phase.session? = some session → p'.phase.session? = some session →
      cursor.bootId = session.ack.bootId → Recorded r cursor recorded →
      Turn r p [.snapshotted cursor recorded] p'

section Steps

variable [Host] {r : Resident} {p p' : Process} {os : List Occurrence} {input : Input}

omit [Host] in
theorem opening_owes {tally : Tally} {durableBefore : Option EventCursor} {ack : StreamAck} :
    ∃ session, (Phase.running tally (Process.opening tally durableBefore ack)).session? =
        some session ∧ session.ack = ack ∧
      session.gap = Process.declaresGap durableBefore ack ∧
      (session.gap → (Phase.running tally (Process.opening tally durableBefore ack)).owes) := by
  unfold Process.opening
  dsimp only
  split
  · exact ⟨_, rfl, rfl, rfl, fun hgap => hgap⟩
  · rename_i hreplay
    refine ⟨_, rfl, rfl, rfl, fun hgap => ?_⟩
    simp only [Phase.owes, Bool.and_eq_true]
    exact ⟨hgap, by simpa using fun hzero => hreplay ⟨hgap, hzero⟩⟩

omit [Host] in
theorem account_owes (tally : Tally) (session : Session) (event : DerivedEvent) :
    ∃ session', (Phase.running (Process.account tally session event).1
        (Process.account tally session event).2).session? = some session' ∧
      session'.ack = session.ack ∧ session'.gap = session.gap ∧
      (Phase.running (Process.account tally session event).1
        (Process.account tally session event).2).owes =
          (session.gap && session.remainingReplay ≠ 0) ∧
      (session.remainingReplay ≠ 0 → 0 < session'.replaySeen) := by
  unfold Process.account
  split
  · rename_i hremaining
    dsimp only
    split
    · rename_i hlast
      refine ⟨_, rfl, rfl, rfl, ?_, fun _ => Nat.succ_pos _⟩
      simp [Phase.owes, hlast.2]
      omega
    · rename_i hmore
      refine ⟨_, rfl, rfl, rfl, ?_, fun _ => Nat.succ_pos _⟩
      cases hgap : session.gap with
      | false => simp [Phase.owes]
      | true =>
        simp only [hgap, and_true] at hmore
        simp [Phase.owes, hmore]
        omega
  · rename_i hremaining
    exact ⟨session, rfl, rfl, rfl, rfl, fun hne => absurd (Nat.pos_of_ne_zero hne) hremaining⟩

omit [Host] in
theorem mapM_methods {responses : String → Except CmuxError PyJson.Json} {methods : List String}
    {commands : List SnapshotBaseline}
    (h : (methods.mapM fun method => (responses method).map fun result =>
      (⟨method, PyJson.dumps result⟩ : SnapshotBaseline)) = .ok commands) :
    commands.map (·.method) = methods := by
  induction methods generalizing commands with
  | nil =>
    cases h
    rfl
  | cons method methods ih =>
    rw [List.mapM_cons] at h
    obtain ⟨first, hfirst, h⟩ := Sqlite.except_bind_ok.mp h
    obtain ⟨rest, hrest, h⟩ := Sqlite.except_bind_ok.mp h
    cases h
    cases hresponse : responses method with
    | error e =>
      rw [hresponse] at hfirst
      cases hfirst
    | ok result =>
      rw [hresponse] at hfirst
      cases hfirst
      rw [List.map_cons, ih hrest]

omit [Host] in
theorem quiet_observe {s producer : ProducerState} {event : DerivedEvent} {returns : Bool}
    {error : Option CmuxError} [Host] (h : r.observe s event returns = (error, producer, os)) :
    Quiet os := by
  intro o ho
  obtain ⟨receipt, rfl⟩ := Process.observe_seen h ho
  exact ⟨Bool.false_ne_true, Bool.false_ne_true⟩

omit [Host] in
theorem quiet_nil : Quiet [] := fun _ ho => by cases ho

omit [Host] in
theorem session_completed (tally : Tally) : (Process.completed tally).session? = none := by
  unfold Process.completed
  split <;> rfl

omit [Host] in
theorem session_start (p : Process) (maxConnections : Int) :
    (p.start r maxConnections).phase.session? = none := by
  unfold Process.start
  split
  · rfl
  · dsimp only
    split <;> rfl

omit [Host] in
theorem recorded_resnapshot {o : Outbox} {cursor : EventCursor} {replayCount : Nat}
    {responses : String → Except CmuxError PyJson.Json} {commands : List SnapshotBaseline}
    (hsource : cursor.sourceInstanceId = r.sourceInstanceId)
    (hcommands : snapshots responses = .ok commands) :
    Recorded r cursor (o.resnapshot cursor commands replayCount) := by
  refine ⟨⟨Outbox.resnapshotDetail commands replayCount, ?_⟩, fun method hmethod => ?_⟩
  · rw [Outbox.audit_resnapshot, List.getLast?_concat]
  · rw [← mapM_methods hcommands, List.mem_map] at hmethod
    obtain ⟨snapshot, hsnapshot, rfl⟩ := hmethod
    rw [← hsource]
    exact Outbox.baselines_resnapshot hsnapshot

theorem turn_of_step (h : Process.Step r p input os p') : Turn r p os p' := by
  cases h with
  | started maxConnections => exact .away quiet_nil (session_start p maxConnections)
  | recovered => exact .away quiet_nil rfl
  | replayed hphase hobserve => exact .away (quiet_observe hobserve) rfl
  | observed hphase hobserve =>
    refine .kept (quiet_observe hobserve) (by rw [hphase]; rfl) rfl ?_
    rw [hphase]
    rfl
  | refused hphase hat hobserve => exact .away (quiet_observe hobserve) rfl
  | requested hphase => exact .away (by simp [Quiet, Occurrence.isAck, Occurrence.isCommit]) rfl
  | unreachable hphase => exact .away (by simp [Quiet, Occurrence.isAck, Occurrence.isCommit]) rfl
  | @acknowledged tally durableBefore frame ack hphase hparse =>
    obtain ⟨session, hsession, rfl, hgap, howes⟩ := @opening_owes tally durableBefore ack
    rw [← hgap]
    exact .opened (by rw [hphase]; rfl) hsession howes
  | ignored hphase hignore => exact .kept quiet_nil (by rw [hphase]; rfl) (by rw [hphase]; rfl) rfl
  | ended hphase => exact .kept quiet_nil (by rw [hphase]; rfl) rfl (by rw [hphase]; rfl)
  | disconnected hphase hlatest =>
    exact .kept quiet_nil (by rw [hphase]; rfl) rfl (by rw [hphase]; rfl)
  | received hphase hevent => exact .kept quiet_nil (by rw [hphase]; rfl) rfl (by rw [hphase]; rfl)
  | @committed tally session event returns disposition outbox hphase hcommitted =>
    obtain ⟨session', hsession, hack, hgap, howes, hseen⟩ :=
      account_owes (tally.count disposition) session event
    refine .committed (by rw [hphase]; rfl) hsession hack hgap ?_ fun hexposed => hseen ?_
    · rw [hphase]
      exact howes
    · rw [hphase] at hexposed
      simpa using (Bool.and_eq_true_iff.mp hexposed).2
  | snapshotted hphase hcommands =>
    exact .snapshotted (by rw [hphase]; rfl) rfl rfl (recorded_resnapshot rfl hcommands)
  | completed hphase hremaining =>
    exact .away (by simp [Quiet, Occurrence.isAck, Occurrence.isCommit]) (session_completed _)
  | raised hphase hinput => exact .away quiet_nil rfl

/-- What is known of the open connection, and of every gap that was declared. -/
structure Accounted (r : Resident) (os : List Occurrence) (p : Process) : Prop where
  current : ∀ session, p.phase.session? = some session → ∃ rest,
    sinceAck os = some (session.ack.bootId, session.gap, rest) ∧
      (session.gap → p.phase.owes ∨ Snapshotted r session.ack.bootId rest)
  past : ∀ before bootId rest, os = before ++ .acknowledged bootId true :: rest → Fruitful rest →
    Snapshotted r bootId rest ∨
      (sinceAck os = some (bootId, true, rest) ∧ p.phase.Exposed)

omit [Host] in
theorem accounted_ready (h : p.phase = .ready) : Accounted r [] p := by
  refine ⟨fun session hsession => ?_, fun before bootId rest heq => ?_⟩
  · rw [h] at hsession
    cases hsession
  · exact absurd heq.symm (by simp)

omit [Host] in
/-- A quiet step leaves a gap exposed, or leaves the connection. -/
theorem accounted_quiet (h : Accounted r os p) {new : List Occurrence} (hquiet : Quiet new)
    (hcurrent : ∀ session, p'.phase.session? = some session →
      p.phase.session? = some session ∧ p'.phase.owes = p.phase.owes)
    (hexposed : p.phase.Exposed → p'.phase.Exposed) : Accounted r (os ++ new) p' := by
  have hacks : ∀ o ∈ new, ¬ o.isAck := fun o ho => (hquiet o ho).1
  refine ⟨fun session hsession => ?_, fun before bootId rest heq hfruitful => ?_⟩
  · obtain ⟨hbefore, howes⟩ := hcurrent session hsession
    obtain ⟨rest, hsince, hgap⟩ := h.current session hbefore
    refine ⟨rest ++ new, by rw [sinceAck_append hacks, hsince]; rfl, fun hg => ?_⟩
    rw [howes]
    exact (hgap hg).imp_right snapshotted_append
  · obtain ⟨earlier, hearlier, rfl⟩ := split_append heq fun hmem => (hacks _ hmem) rfl
    rcases fruitful_append hfruitful with hfruitful | ⟨-, o, ho, hcommit⟩
    · rcases h.past before bootId earlier hearlier hfruitful with hsnap | ⟨hsince, hexp⟩
      · exact .inl (snapshotted_append hsnap)
      · exact .inr ⟨by rw [sinceAck_append hacks, hsince]; rfl, hexposed hexp⟩
    · exact absurd hcommit (hquiet o ho).2

omit [Host] in
theorem accounted_turn (h : Accounted r os p) {new : List Occurrence} (hturn : Turn r p new p')
    (hunbroken : p.phase.Exposed → p'.phase.session? ≠ none) : Accounted r (os ++ new) p' := by
  cases hturn with
  | away hquiet hnone =>
    refine accounted_quiet h hquiet (fun session hsession => ?_) fun hexposed => ?_
    · rw [hnone] at hsession
      cases hsession
    · exact absurd hnone (hunbroken hexposed)
  | kept hquiet hbefore hafter howes =>
    refine accounted_quiet h hquiet (fun session hsession => ?_) fun hexposed => ?_
    · rw [hafter] at hsession
      exact ⟨hsession ▸ hbefore, howes⟩
    · obtain ⟨hold, session, hsession, hseen⟩ := hexposed
      rw [hbefore] at hsession
      exact ⟨howes ▸ hold, session, hsession ▸ hafter, hseen⟩
  | @opened session _ hnone hsession howes =>
    refine ⟨fun session' hsession' => ?_, fun before bootId rest heq hfruitful => ?_⟩
    · cases hsession.symm.trans hsession'
      exact ⟨[], sinceAck_acknowledged, fun hgap => .inl (howes hgap)⟩
    · have hrest : rest ≠ [] := by
        rintro rfl
        obtain ⟨between, event, disposition, after, hnil, -⟩ := hfruitful
        simp at hnil
      obtain ⟨earlier, hearlier, rfl⟩ := split_concat heq hrest
      rcases fruitful_append hfruitful with hfruitful | ⟨-, o, ho, hcommit⟩
      · rcases h.past before bootId earlier hearlier hfruitful with hsnap | ⟨-, -, other, hother, -⟩
        · exact .inl (snapshotted_append hsnap)
        · rw [hnone] at hother
          cases hother
      · cases List.mem_singleton.mp ho
        cases hcommit
  | @committed event disposition session session' _ hbefore hafter hack hgap howes hseen =>
    have hacks : ∀ o ∈ [Occurrence.committed event disposition], ¬ o.isAck := by
      simp [Occurrence.isAck]
    obtain ⟨since, hsince, hcovered⟩ := h.current session hbefore
    have hexposed : p.phase.owes → p'.phase.Exposed := fun hold =>
      ⟨howes ▸ hold, session', hafter, hseen hold⟩
    refine ⟨fun other hother => ?_, fun before bootId rest heq hfruitful => ?_⟩
    · cases hafter.symm.trans hother
      refine ⟨since ++ [.committed event disposition], ?_, fun hg => ?_⟩
      · rw [sinceAck_append hacks, hsince, hack, hgap]
        rfl
      · rw [howes, hack]
        exact (hcovered (hgap ▸ hg)).imp_right snapshotted_append
    · obtain ⟨earlier, hearlier, rfl⟩ := split_append heq fun hmem => (hacks _ hmem) rfl
      have hnow : sinceAck os = some (bootId, true, earlier) → sinceAck
          (os ++ [.committed event disposition]) =
            some (bootId, true, earlier ++ [.committed event disposition]) := fun hs => by
        rw [sinceAck_append hacks, hs]
        rfl
      rcases fruitful_append hfruitful with hfruitful | ⟨hnoacks, -⟩
      · rcases h.past before bootId earlier hearlier hfruitful with hsnap | ⟨hs, hexp⟩
        · exact .inl (snapshotted_append hsnap)
        · exact .inr ⟨hnow hs, hexposed hexp.1⟩
      · -- the first event of the connection: it is the open one
        have hs : sinceAck os = some (bootId, true, earlier) := by
          rw [hearlier]
          exact sinceAck_of_quiet hnoacks
        simp only [hs, Option.some.injEq, Prod.mk.injEq] at hsince
        obtain ⟨rfl, hdeclared, rfl⟩ := hsince
        rcases hcovered hdeclared.symm with hold | hsnap
        · exact .inr ⟨hnow hs, hexposed hold⟩
        · exact .inl (snapshotted_append hsnap)
  | @snapshotted cursor recorded session _ hbefore hafter hboot hrecorded =>
    have hacks : ∀ o ∈ [Occurrence.snapshotted cursor recorded], ¬ o.isAck := by
      simp [Occurrence.isAck]
    obtain ⟨since, hsince, -⟩ := h.current session hbefore
    have hsnap : ∀ earlier, Snapshotted r session.ack.bootId
        (earlier ++ [.snapshotted cursor recorded]) := fun earlier =>
      ⟨cursor, recorded, by simp, hboot, hrecorded⟩
    refine ⟨fun other hother => ?_, fun before bootId rest heq hfruitful => ?_⟩
    · cases hafter.symm.trans hother
      refine ⟨since ++ [.snapshotted cursor recorded], ?_, fun _ => .inr (hsnap since)⟩
      rw [sinceAck_append hacks, hsince]
      rfl
    · obtain ⟨earlier, hearlier, rfl⟩ := split_append heq fun hmem => (hacks _ hmem) rfl
      rcases fruitful_append hfruitful with hfruitful | ⟨-, o, ho, hcommit⟩
      · rcases h.past before bootId earlier hearlier hfruitful with hpast | ⟨hs, -⟩
        · exact .inl (snapshotted_append hpast)
        · simp only [hs, Option.some.injEq, Prod.mk.injEq] at hsince
          obtain ⟨rfl, -, rfl⟩ := hsince
          exact .inl (hsnap _)
      · cases List.mem_singleton.mp ho
        cases hcommit

theorem accounted_runs {start : Process} (h : start.phase = .ready)
    (hruns : Runs (Process.Unbroken r) start os p) : Accounted r os p :=
  hruns.invariant (accounted_ready h) fun h hstep => by
    obtain ⟨⟨input, hnext⟩, hunbroken⟩ := hstep
    exact accounted_turn h (turn_of_step (Process.step_of_next hnext)) hunbroken

/-- A connection that completes owes no snapshot. -/
theorem completed_paid (h : Process.Step r p input os p') (hcompleted : .completed ∈ os) :
    ¬ p.phase.owes := by
  cases h with
  | completed hphase hremaining =>
    rw [hphase]
    simp [Phase.owes, hremaining]
  | replayed _ hobserve | observed _ hobserve | refused _ _ hobserve =>
    obtain ⟨receipt, heq⟩ := Process.observe_seen hobserve hcompleted
    cases heq
  | requested | unreachable | acknowledged | committed | snapshotted =>
    cases List.mem_singleton.mp hcompleted
  | started | recovered | ignored | ended | disconnected | received | raised => cases hcompleted

end Steps

/-- If no gap is cut between its first committed event and its snapshot, then whenever a connection
completes, every gap of which an event was committed has been snapshotted for its boot. -/
theorem gaps_snapshotted [Host] (r : Resident) {start p p' : Process} {os : List Occurrence}
    (hready : start.phase = .ready) (hruns : Runs (Process.Unbroken r) start os p)
    (hcompletes : p.Moves r [.completed] p') {before rest : List Occurrence} {bootId : String}
    (hgap : os = before ++ .acknowledged bootId true :: rest) (hcommitted : Fruitful rest) :
    Snapshotted r bootId rest := by
  obtain ⟨input, hnext⟩ := hcompletes
  have hpaid := completed_paid (Process.step_of_next hnext) (List.mem_singleton_self _)
  rcases (accounted_runs hready hruns).past before bootId rest hgap hcommitted with
    hsnap | ⟨-, hexposed⟩
  · exact hsnap
  · exact absurd hexposed.1 hpaid

def gapTally (inserted : Nat) : Tally :=
  { maxConnections := 1, left := 1, reconnectAfter := [none], inserted, replayCount := inserted }

/-- The first connection, with a gap and this much of its replay. -/
def gapSession (replayCount remainingReplay replaySeen : Nat) : Session where
  durableBefore := none
  ack := ⟨"boot-1", replayCount, ⟨none, 0, 2, 3, true⟩⟩
  gap := true
  remainingReplay := remainingReplay
  replaySeen := replaySeen
  insertedBefore := 0
  duplicatesBefore := 0

def gapRow (seq : Nat) : DerivedEvent := sampleEvent seq inputSent []

def gapOutbox : Outbox := Outbox.insertEvent {} (gapRow 1)

theorem unbroken_unseen [Host] {r : Resident} {p p' : Process} {os : List Occurrence}
    {input : Input} (h : p.next r input = some (p', os))
    (hunseen : ∀ session, p.phase.session? = some session → session.replaySeen = 0) :
    p.Unbroken r os p' := by
  refine ⟨⟨input, h⟩, fun hexposed => ?_⟩
  obtain ⟨-, session, hsession, hseen⟩ := hexposed
  rw [hunseen session hsession] at hseen
  exact absurd hseen (Nat.lt_irrefl 0)

/-- The occurrences up to the first event of a gap. -/
def gapOpening : List Occurrence :=
  [.requested none, .acknowledged "boot-1" true, .committed (gapRow 1) .inserted]

/-- A connection declares a gap of `replayCount` events and commits the first. -/
theorem gap_first [Host] (replayCount : Nat) (position : Position)
    (hpositive : replayCount ≠ 0)
    (hposition : Process.account ((gapTally 0).count .inserted)
      (gapSession replayCount replayCount 0) (gapRow 1) = (gapTally 1, position)) :
    Runs (Process.Unbroken bareResident) {} gapOpening
      (sampleProcess (gapTally 1) position gapOutbox) := by
  let session := gapSession replayCount replayCount 0
  let started : Process := ({} : Process).start bareResident 1
  let greeting := sampleProcess (gapTally 0) (.handshake none) {}
  let reading := sampleProcess (gapTally 0) (.reading session) {}
  let observing := sampleProcess (gapTally 0) (.observing session (gapRow 1)) {}
  let committing := sampleProcess (gapTally 0) (.committing session (gapRow 1)) {}
  have hgreeted : greeting.next bareResident
      (.frame (.ok (some (sampleAckFrame replayCount 2 true)))) =
        some (reading, [.acknowledged "boot-1" true]) := by
    simp only [greeting, Process.next, Process.acknowledge, sampleProcess,
      parse_sampleAckFrame replayCount 2 true]
    simp only [Process.opening, Process.declaresGap, Bool.true_or, hpositive, and_false, if_false]
    rfl
  have hsent : reading.next bareResident (.frame (.ok (some (sampleFrame 1 inputSent [])))) =
      some (observing, []) := next_sampleFrame rfl samplePayload_empty (by decide) rfl rfl
  have hcommitted : committing.next bareResident (.proceed true) =
      some (sampleProcess (gapTally 1) position gapOutbox, [.committed (gapRow 1) .inserted]) := by
    have hnext := @next_sampleEvent _ [] [] bareResident committing (gapTally 0) session 1
      inputSent true samplePayload_empty (by decide) (by decide) rfl
      (fun row hrow => by cases hrow) rfl
    rw [hnext, show sampleEvent 1 inputSent [] = gapRow 1 from rfl, hposition]
    rfl
  have step₁ : Process.Unbroken bareResident {} [] started :=
    @unbroken_unseen _ _ _ _ _ (.start 1) rfl fun _ h => by cases h
  have step₂ : started.Unbroken bareResident [.requested none] greeting :=
    @unbroken_unseen _ _ _ _ _ (.opened (.ok ())) rfl fun _ h => by cases h
  have step₃ : greeting.Unbroken bareResident [.acknowledged "boot-1" true] reading :=
    unbroken_unseen hgreeted fun _ h => by cases h
  have step₄ : reading.Unbroken bareResident [] observing :=
    unbroken_unseen hsent fun _ h => by cases h; rfl
  have step₅ : observing.Unbroken bareResident [] committing :=
    @unbroken_unseen _ _ _ _ _ (.proceed true) rfl fun _ h => by cases h; rfl
  have step₆ : committing.Unbroken bareResident [.committed (gapRow 1) .inserted]
      (sampleProcess (gapTally 1) position gapOutbox) :=
    unbroken_unseen hcommitted fun _ h => by cases h; rfl
  exact (((((Runs.single step₁).tail step₂).tail step₃).tail step₄).tail step₅).tail step₆

/-- The connection after the crash: the cursor's boot is still the server's. -/
def resumedSession (remainingReplay replaySeen : Nat) : Session where
  durableBefore := some ⟨"cmux-1", "boot-1", 1⟩
  ack := ⟨"boot-1", 1, ⟨none, 0, 2, 3, false⟩⟩
  gap := false
  remainingReplay := remainingReplay
  replaySeen := replaySeen
  insertedBefore := 0
  duplicatesBefore := 0

def resumedTally (inserted : Nat) : Tally :=
  { maxConnections := 1, left := 1, reconnectAfter := [some 1], inserted, replayCount := inserted }

def resumedOutbox : Outbox := gapOutbox.insertEvent (gapRow 2)

def resumedEnd : Process :=
  sampleProcess (resumedTally 1) (.closing (resumedSession 0 1)) resumedOutbox

/-- After a crash the next connection replays the rest and reaches its end without a gap. -/
theorem gap_resumed [Host] (position : Position) :
    Runs (Process.Moves bareResident) (sampleProcess (gapTally 1) position gapOutbox)
      [.requested (some 1), .acknowledged "boot-1" false, .committed (gapRow 2) .inserted]
      resumedEnd := by
  let session := resumedSession 1 0
  let started : Process := (sampleProcess (gapTally 1) position gapOutbox).start bareResident 1
  let greeting := sampleProcess (resumedTally 0)
    (.handshake (some ⟨"cmux-1", "boot-1", 1⟩)) gapOutbox
  let reading := sampleProcess (resumedTally 0) (.reading session) gapOutbox
  let observing := sampleProcess (resumedTally 0) (.observing session (gapRow 2)) gapOutbox
  let committing := sampleProcess (resumedTally 0) (.committing session (gapRow 2)) gapOutbox
  let drained := sampleProcess (resumedTally 1) (.reading (resumedSession 0 1)) resumedOutbox
  have hgreeted : greeting.next bareResident (.frame (.ok (some (sampleAckFrame 1 2 false)))) =
      some (reading, [.acknowledged "boot-1" false]) := by
    simp only [greeting, Process.next, Process.acknowledge, sampleProcess,
      parse_sampleAckFrame 1 2 false]
    rfl
  have hsent : reading.next bareResident (.frame (.ok (some (sampleFrame 2 inputSent [])))) =
      some (observing, []) := next_sampleFrame rfl samplePayload_empty (by decide) rfl rfl
  have hcommitted : committing.next bareResident (.proceed true) =
      some (drained, [.committed (gapRow 2) .inserted]) := by
    refine @next_sampleEvent _ [] [] bareResident committing (resumedTally 0) session 2 inputSent
      true samplePayload_empty (by decide) (by decide) rfl (fun row hrow => ?_) rfl
    cases List.mem_singleton.mp hrow
    exact ⟨by decide, by decide⟩
  have step₁ : Process.Moves bareResident (sampleProcess (gapTally 1) position gapOutbox) []
      started := ⟨.start 1, rfl⟩
  have step₂ : started.Moves bareResident [.requested (some 1)] greeting := ⟨.opened (.ok ()), rfl⟩
  have step₃ : greeting.Moves bareResident [.acknowledged "boot-1" false] reading := ⟨_, hgreeted⟩
  have step₄ : reading.Moves bareResident [] observing := ⟨_, hsent⟩
  have step₅ : observing.Moves bareResident [] committing := ⟨.proceed true, rfl⟩
  have step₆ : committing.Moves bareResident [.committed (gapRow 2) .inserted] drained :=
    ⟨_, hcommitted⟩
  have step₇ : drained.Moves bareResident [] resumedEnd := ⟨.frame (.ok none), rfl⟩
  exact ((((((Runs.single step₁).tail step₂).tail step₃).tail step₄).tail step₅).tail step₆).tail
    step₇

/-- A crash after the first of two replayed events: the gap is never snapshotted. -/
theorem interrupted_gap_forgotten :
    ¬ ∀ (r : Resident) (start p p' : Process) (os before rest : List Occurrence) (bootId : String),
      start.phase = .ready → Runs (@Process.Moves sampleHost r) start os p →
      @Process.Moves sampleHost r p [.completed] p' →
      os = before ++ .acknowledged bootId true :: rest → Fruitful rest →
      Snapshotted r bootId rest := by
  intro hclaim
  have hfirst := (@gap_first sampleHost 2 _ (by decide) rfl).mono fun _ _ _ h => h.1
  have hruns := hfirst.trans (@gap_resumed sampleHost _)
  have hcompletes : @Process.Moves sampleHost bareResident resumedEnd [.completed] _ :=
    ⟨.proceed true, rfl⟩
  obtain ⟨cursor, recorded, hmem, -, -⟩ := hclaim bareResident _ _ _ _ [.requested none]
    _ "boot-1" rfl hruns hcompletes rfl
    ⟨[], gapRow 1, .inserted, _, rfl, fun _ ho => by cases ho⟩
  simp at hmem

def nullSnapshots : List SnapshotBaseline :=
  snapshotMethods.map fun method => ⟨method, PyJson.dumps .null⟩

theorem recordResnapshot_null : gapOutbox.recordResnapshot ⟨"cmux-1", "boot-1", 1⟩ nullSnapshots 1 =
    .ok (gapOutbox.resnapshot ⟨"cmux-1", "boot-1", 1⟩ nullSnapshots 1) := by
  have hloads : PyJson.loads (PyJson.dumps .null) = some .null := PyJson.loads_render trivial
  have hvalid : nullSnapshots.forM Outbox.validateSnapshot = .ok () := by
    simp [nullSnapshots, snapshotMethods, Outbox.validateSnapshot, hloads, bind, Except.bind, pure,
      Except.pure]
  unfold Outbox.recordResnapshot
  rw [hvalid]
  rfl

/-- A gap of one event that is snapshotted before its connection ends. -/
theorem gaps_snapshotted_sample : ∃ (os : List Occurrence) (p p' : Process),
    Runs (@Process.Unbroken sampleHost bareResident) {} (gapOpening ++ os) p ∧
      @Process.Moves sampleHost bareResident p [.completed] p' ∧
      Snapshotted bareResident "boot-1" (.committed (gapRow 1) .inserted :: os) := by
  let snapshotting := sampleProcess (gapTally 1) (.snapshotting (gapSession 1 0 1) 1 1) gapOutbox
  let recorded := gapOutbox.resnapshot ⟨"cmux-1", "boot-1", 1⟩ nullSnapshots 1
  let tally : Tally := { gapTally 1 with snapshotCommands := snapshotMethods }
  let drained := sampleProcess tally (.reading (gapSession 1 0 1)) recorded
  let closing := sampleProcess tally (.closing (gapSession 1 0 1)) recorded
  have hfirst := @gap_first sampleHost 1 (.snapshotting (gapSession 1 0 1) 1 1) (by decide) rfl
  have hsnapshots : @Process.next sampleHost bareResident snapshotting
      (.snapshots fun _ => .ok .null) =
        some (drained, [.snapshotted ⟨"cmux-1", "boot-1", 1⟩ recorded]) := by
    have hcommands : snapshots (fun _ => .ok .null) = .ok nullSnapshots := rfl
    simp only [snapshotting, Process.next, Process.resnapshot, sampleProcess, hcommands]
    rw [show (⟨bareResident.sourceInstanceId, (gapSession 1 0 1).ack.bootId, 1⟩ : EventCursor) =
      ⟨"cmux-1", "boot-1", 1⟩ from rfl, Int.natCast_one, recordResnapshot_null]
    rfl
  have step₁ : @Process.Unbroken sampleHost bareResident snapshotting _ drained :=
    ⟨⟨_, hsnapshots⟩, fun _ h => by cases h⟩
  have step₂ : @Process.Unbroken sampleHost bareResident drained [] closing :=
    ⟨⟨.frame (.ok none), rfl⟩, fun _ h => by cases h⟩
  have hruns := (hfirst.tail step₁).tail step₂
  have hcompletes : @Process.Moves sampleHost bareResident closing [.completed]
      { closing with phase := Process.completed tally } := ⟨.proceed true, rfl⟩
  refine ⟨[.snapshotted ⟨"cmux-1", "boot-1", 1⟩ recorded], closing, _, ?_, hcompletes, ?_⟩
  · simpa only [List.append_nil] using hruns
  · exact @gaps_snapshotted sampleHost bareResident _ _ _ _ rfl hruns hcompletes
      [.requested none] _ "boot-1" rfl
      ⟨[], gapRow 1, .inserted, _, rfl, fun _ ho => by cases ho⟩

end Yatagarasu.Cmux
