import Yatagarasu.Cmux.Dialogues
import Yatagarasu.Cmux.Resident

/-! The resident with the client that it runs on: every connection, frame and snapshot of it is a
call of the client, and leaving the `with` block of a stream closes the connection. -/

namespace Yatagarasu.Cmux

open PyJson Transition World Lines

section Snapshots

variable {client : SocketClient} {s s' : Sockets} {log : List (SocketRequest × SocketReply)}

/-- One snapshot RPC: connected, asked and closed again. -/
def SocketClient.snapshot (client : SocketClient) (index : Nat) (method : String) :
    SocketScript SnapshotBaseline := do
  let sock ← client.connect
  (withReader sock do
    client.authenticate sock
    writeJson sock (requestObject (snapshotId index) method [])
    Raising.again (SocketClient.snapshotResult method (← client.readJson sock))).andFinally
      (perform (.close sock))

theorem snapshotsFrom_cons (index : Nat) (method : String) (methods : List String) :
    client.snapshotsFrom index (method :: methods) = (do
      let baseline ← client.snapshot index method
      let baselines ← client.snapshotsFrom (index + 1) methods
      pure (baseline :: baselines)) := by
  rw [SocketClient.snapshotsFrom, SocketClient.snapshot, Raising.bind_assoc]

/-- A baseline holds the compact text of what the server returned. -/
theorem ended_snapshot {index : Nat} {method : String} {baseline : SnapshotBaseline}
    (h : Ended (client.snapshot index method) s log (.ok baseline) s') :
    ∃ result, baseline = ⟨method, dumps result⟩ := by
  obtain ⟨sock, _, _, _, -, -, h⟩ := Raising.conducts_bind_ok.mp h
  obtain ⟨_, _, _, -, h⟩ := Raising.conducts_andFinally_ok h
  obtain ⟨_, _, _, _, -, -, h⟩ := Raising.conducts_bind_ok.mp h
  obtain ⟨_, _, _, -, h⟩ := Raising.conducts_andFinally_ok h
  obtain ⟨_, _, _, _, -, -, h⟩ := Raising.conducts_bind_ok.mp h
  obtain ⟨_, _, _, _, -, -, h⟩ := Raising.conducts_bind_ok.mp h
  obtain ⟨response, _, _, _, -, -, h⟩ := Raising.conducts_bind_ok.mp h
  unfold SocketClient.snapshotResult at h
  split at h
  · obtain ⟨-, hres, -⟩ := Raising.conducts_throw.mp h
    cases hres
  · obtain ⟨-, hres, -⟩ := Raising.conducts_pure.mp h
    cases hres
    exact ⟨_, rfl⟩

/-- What the commands make of these answers of the server. -/
def baselines (responses : String → Except CmuxError Json) (methods : List String) :
    Except CmuxError (List SnapshotBaseline) :=
  methods.mapM fun method => (responses method).map fun result => ⟨method, dumps result⟩

theorem baselines_congr {responses responses' : String → Except CmuxError Json}
    {methods : List String} (h : ∀ method ∈ methods, responses method = responses' method) :
    baselines responses methods = baselines responses' methods := by
  induction methods with
  | nil => rfl
  | cons method methods ih =>
    rw [List.forall_mem_cons] at h
    have hrest := ih h.2
    unfold baselines at hrest ⊢
    rw [List.mapM_cons, List.mapM_cons, h.1, hrest]

/-- Whatever the commands end with is what some answers of the server make of them. -/
theorem ended_snapshotsFrom {index : Nat} {methods : List String} (hnodup : methods.Nodup)
    {res : Except CmuxError (List SnapshotBaseline)}
    (h : Ended (client.snapshotsFrom index methods) s log res s') :
    ∃ responses, res = baselines responses methods := by
  induction methods generalizing index s log res with
  | nil =>
    obtain ⟨-, rfl, -⟩ := Raising.conducts_pure.mp h
    exact ⟨fun _ => .ok .null, rfl⟩
  | cons method methods ih =>
    rw [List.nodup_cons] at hnodup
    rw [snapshotsFrom_cons] at h
    rcases Raising.conducts_bind.mp h with ⟨error, rfl, -⟩ | ⟨baseline, m, _, after, -, hfirst, h⟩
    · exact ⟨fun _ => .error error, rfl⟩
    obtain ⟨result, rfl⟩ := ended_snapshot hfirst
    have hjoin : ∀ {rest : Except CmuxError (List SnapshotBaseline)}
        {responses : String → Except CmuxError Json}, rest = baselines responses methods →
        ∃ responses', rest.map (⟨method, dumps result⟩ :: ·) =
          baselines responses' (method :: methods) := by
      rintro rest responses rfl
      refine ⟨Function.update responses method (.ok result), ?_⟩
      have hrest : baselines (Function.update responses method (.ok result)) methods =
          baselines responses methods := by
        refine baselines_congr fun other hother => Function.update_of_ne ?_ _ _
        rintro rfl
        exact hnodup.1 hother
      unfold baselines at hrest ⊢
      rw [List.mapM_cons, Function.update_self, hrest]
      cases List.mapM (fun method => (responses method).map fun result =>
        (⟨method, dumps result⟩ : SnapshotBaseline)) methods with
      | error e => rfl
      | ok rest => rfl
    rcases Raising.conducts_bind.mp h with ⟨error, rfl, hrest⟩ | ⟨rest, _, _, _, -, hrest, h⟩
    · obtain ⟨responses, hresponses⟩ := ih hnodup.2 hrest
      exact hjoin hresponses
    · obtain ⟨-, rfl, rfl⟩ := Raising.conducts_pure.mp h
      obtain ⟨responses, hresponses⟩ := ih hnodup.2 hrest
      exact hjoin hresponses

/-- The snapshots of the resident are those of the client. -/
theorem ended_snapshots {res : Except CmuxError (List SnapshotBaseline)}
    (h : Ended (client.snapshots snapshotMethods) s log res s') :
    ∃ responses, res = snapshots responses :=
  ended_snapshotsFrom (by decide) h

end Snapshots

/-- Inside the `with` block of a stream. -/
def Position.Streaming : Position → Prop
  | .recovering _ | .connecting => False
  | .handshake _ | .snapshotting _ _ _ | .reading _ | .observing _ _ | .committing _ _
  | .closing _ => True

def Phase.Streaming : Phase → Prop
  | .running _ position => position.Streaming
  | .ready | .returned _ | .raised _ => False

/-- The cursor that was durable when the stream was opened. -/
def Position.durableBefore : Position → Option EventCursor
  | .recovering _ | .connecting => none
  | .handshake durableBefore => durableBefore
  | .snapshotting session _ _ | .reading session | .observing session _ | .committing session _
  | .closing session => session.durableBefore

/-- A resident process with the sockets of its client, and the stream that it is in. -/
structure Wired where
  process : Process := {}
  sockets : Sockets := {}
  stream : Option Nat := none

section Wired

variable [Host] (r : Resident) (client : SocketClient)

/-- `_resnapshot` with what the client returned or raised. -/
def Process.recordSnapshots (p : Process) (tally : Tally) (session : Session) (cursorSeq : Int)
    (replayCount : Nat) (result : Except CmuxError (List SnapshotBaseline)) :
    Process × List Occurrence :=
  match result with
  | .error e => (p.raise e, [])
  | .ok commands =>
    let cursor := ⟨r.sourceInstanceId, session.ack.bootId, cursorSeq⟩
    match p.outbox.recordResnapshot cursor commands replayCount with
    | .error e => (p.raise e, [])
    | .ok outbox =>
      ({ p with
        outbox
        phase := .running { tally with
          snapshotCommands := tally.snapshotCommands ++ commands.map (·.method) }
          (.reading session) }, [.snapshotted cursor outbox])

omit [Host] in
theorem resnapshot_eq (p : Process) (tally : Tally) (session : Session) (cursorSeq : Int)
    (replayCount : Nat) (responses : String → Except CmuxError Json) :
    p.resnapshot r tally session cursorSeq replayCount responses =
      p.recordSnapshots r tally session cursorSeq replayCount (snapshots responses) := rfl

/-- The cursor that a stream is asked to go on from. -/
def Process.afterSeq (p : Process) : Option Int := (p.outbox.cursor r.sourceInstanceId).map (·.seq)

/-- One call inside the `with` block. -/
inductive Works (sock : Nat) :
    Process → Sockets → List Occurrence → Process → Sockets → Prop
  | proceed {p p' s os returns} : p.next r (.proceed returns) = some (p', os) →
      Works sock p s os p' s
  | frame {p p' s s' os log res} : Ended (client.readFrame sock) s log res s' →
      p.next r (.frame res) = some (p', os) → Works sock p s os p' s'
  | snapshots {p s s' tally session cursorSeq replayCount log res} :
      p.phase = .running tally (.snapshotting session cursorSeq replayCount) →
      Ended (client.snapshots snapshotMethods) s log res s' →
      Works sock p s (p.recordSnapshots r tally session cursorSeq replayCount res).2
        (p.recordSnapshots r tally session cursorSeq replayCount res).1 s'

/-- What `__exit__` raises takes the place of what the block did. -/
def Process.exit (p : Process) : Except CmuxError Unit → Process
  | .ok _ => p
  | .error e => p.raise e

/-- A step of the resident on its sockets. A start is a new process with a new client: the operating
system has closed what an earlier one held. -/
inductive Wired.Moves : Wired → List Occurrence → Wired → Prop
  | start {p s stream} (maxConnections : Int) :
      Moves ⟨p, s, stream⟩ [] ⟨p.start r maxConnections, {}, none⟩
  | proceed {p p' s os returns} : p.next r (.proceed returns) = some (p', os) →
      Moves ⟨p, s, none⟩ os ⟨p', s, none⟩
  | opened {p s s' tally log res} : p.phase = .running tally .connecting →
      Ended (client.openStream (p.afterSeq r)) s log res s' →
      Moves ⟨p, s, none⟩ (p.connect r tally (res.map fun _ => ())).2
        ⟨(p.connect r tally (res.map fun _ => ())).1, s', res.toOption⟩
  | inside {p p' s s' os sock} : Works r client sock p s os p' s' → p'.phase.Streaming →
      Moves ⟨p, s, some sock⟩ os ⟨p', s', some sock⟩
  | left {p p' s s' s'' os sock log res} : Works r client sock p s os p' s' →
      ¬ p'.phase.Streaming → Ended (SocketClient.exitStream sock) s' log res s'' →
      Moves ⟨p, s, some sock⟩ os ⟨p'.exit res, s'', none⟩

end Wired

section Refinement

variable [Host] {r : Resident} {client : SocketClient} {w w' : Wired} {os : List Occurrence}
  {p p' q : Process} {s s' : Sockets} {sock : Nat}

/-- The same process, or one that `__exit__` has raised out of. -/
def Wired.Refines (w : Wired) (q : Process) : Prop :=
  w.process = q ∨ ∃ e, w.process = q.raise e

theorem works_moves (h : Works r client sock p s os p' s') : p.Moves r os p' := by
  cases h with
  | proceed hnext => exact ⟨_, hnext⟩
  | frame _ hnext => exact ⟨_, hnext⟩
  | @snapshots _ _ _ session cursorSeq replayCount log res hphase hended =>
    obtain ⟨responses, rfl⟩ := ended_snapshots hended
    refine ⟨.snapshots responses, ?_⟩
    rw [← resnapshot_eq]
    simp only [Process.next, hphase]

/-- Only a running process goes on. -/
theorem running_of_next {input : Input} (h : p.next r input = some (p', os))
    (hstart : ∀ maxConnections, input ≠ .start maxConnections) :
    ∃ tally position, p.phase = .running tally position := by
  cases Process.step_of_next h with
  | started maxConnections => exact absurd rfl (hstart maxConnections)
  | recovered hphase => exact ⟨_, _, hphase⟩
  | replayed hphase => exact ⟨_, _, hphase⟩
  | observed hphase => exact ⟨_, _, hphase⟩
  | refused hphase => exact ⟨_, _, hphase⟩
  | requested hphase => exact ⟨_, _, hphase⟩
  | unreachable hphase => exact ⟨_, _, hphase⟩
  | acknowledged hphase => exact ⟨_, _, hphase⟩
  | ignored hphase => exact ⟨_, _, hphase⟩
  | ended hphase => exact ⟨_, _, hphase⟩
  | disconnected hphase => exact ⟨_, _, hphase⟩
  | received hphase => exact ⟨_, _, hphase⟩
  | committed hphase => exact ⟨_, _, hphase⟩
  | snapshotted hphase => exact ⟨_, _, hphase⟩
  | completed hphase => exact ⟨_, _, hphase⟩
  | raised hphase => exact ⟨_, _, hphase⟩

theorem works_running (h : Works r client sock p s os p' s') :
    ∃ tally position, p.phase = .running tally position := by
  cases h with
  | proceed hnext => exact running_of_next hnext nofun
  | frame _ hnext => exact running_of_next hnext nofun
  | snapshots hphase => exact ⟨_, _, hphase⟩

omit [Host] in
theorem Wired.Refines.running (h : w.Refines q) {tally : Tally} {position : Position}
    (hphase : w.process.phase = .running tally position) : w.process = q := by
  rcases h with heq | ⟨e, heq⟩
  · exact heq
  · rw [heq] at hphase
    cases hphase

omit [Host] in
theorem refines_exit {res : Except CmuxError Unit} {s : Sockets} :
    Wired.Refines ⟨p.exit res, s, none⟩ p := by
  cases res with
  | ok _ => exact .inl rfl
  | error e => exact .inr ⟨e, rfl⟩

/-- A step on the sockets is one of the resident. -/
theorem refines_step (hq : w.Refines q) (h : Wired.Moves r client w os w') :
    ∃ q', Runs (Process.Moves r) q os q' ∧ w'.Refines q' := by
  cases h with
  | @start p s stream maxConnections =>
    have hstart : p.start r maxConnections = q.start r maxConnections := by
      rcases hq with rfl | ⟨e, rfl⟩
      · rfl
      · unfold Process.start
        split <;> rfl
    exact ⟨_, Runs.single ⟨.start maxConnections, rfl⟩, .inl hstart⟩
  | proceed hnext =>
    obtain ⟨tally, position, hphase⟩ := running_of_next hnext nofun
    cases hq.running hphase
    exact ⟨_, Runs.single ⟨_, hnext⟩, .inl rfl⟩
  | @opened p s s' tally log res hphase hended =>
    cases hq.running hphase
    refine ⟨_, Runs.single ⟨.opened (res.map fun _ => ()), ?_⟩, .inl rfl⟩
    simp only [Process.next, hphase]
  | inside hworks =>
    obtain ⟨tally, position, hphase⟩ := works_running hworks
    cases hq.running hphase
    exact ⟨_, Runs.single (works_moves hworks), .inl rfl⟩
  | left hworks _ _ =>
    obtain ⟨tally, position, hphase⟩ := works_running hworks
    cases hq.running hphase
    exact ⟨_, Runs.single (works_moves hworks), refines_exit⟩

end Refinement

section Descriptors

variable [Host] {r : Resident} {client : SocketClient} {w w' : Wired} {os : List Occurrence}
  {p p' : Process} {s s' : Sockets} {sock : Nat}

/-- Nothing is open but the stream that the resident is in. -/
structure Wired.Tidy (w : Wired) : Prop where
  only : OnlyStreams w.stream.toList w.sockets
  inside : w.stream.isSome = true ↔ w.process.phase.Streaming

omit [Host] in
theorem onlyStreams_new : OnlyStreams [] {} := by
  refine fun sock => ⟨fun hmem => absurd hmem List.not_mem_nil, ?_⟩
  rintro - ⟨k, hk, -⟩
  simp at hk

theorem works_only (hvalid : TimeoutValid (some client.connectTimeout)) {held : List Nat}
    (h : Works r client sock p s os p' s') (hs : OnlyStreams held s) : OnlyStreams held s' := by
  cases h with
  | proceed _ => exact hs
  | frame hended _ => exact ends_either leaves_readFrame hended hs
  | snapshots _ hended => exact ends_either (leaves_snapshotsFrom hvalid 0 _) hended hs

/-- A process that is in no stream comes into one only by opening it. -/
theorem not_streaming_proceed {returns : Bool} (h : p.next r (.proceed returns) = some (p', os))
    (hp : ¬ p.phase.Streaming) : ¬ p'.phase.Streaming := by
  cases Process.step_of_next h with
  | recovered _ => exact id
  | replayed _ _ => exact id
  | observed hphase => exact absurd (by rw [hphase]; trivial) hp
  | refused _ _ _ => exact id
  | committed hphase => exact absurd (by rw [hphase]; trivial) hp
  | completed hphase => exact absurd (by rw [hphase]; trivial) hp
  | raised _ => exact id

theorem tidy_step (hvalid : TimeoutValid (some client.connectTimeout)) (hw : w.Tidy)
    (h : Wired.Moves r client w os w') : w'.Tidy := by
  obtain ⟨honly, hinside⟩ := hw
  cases h with
  | start maxConnections =>
    refine ⟨onlyStreams_new, nofun, fun hstreaming => ?_⟩
    unfold Process.start at hstreaming
    split at hstreaming
    · exact hstreaming.elim
    · split at hstreaming
      · exact hstreaming.elim
      · exact hstreaming.elim
  | proceed hnext =>
    have hout := not_streaming_proceed hnext fun hin => by simpa using hinside.mpr hin
    exact ⟨honly, nofun, fun hin => absurd hin hout⟩
  | @opened p s s' tally log res hphase hended =>
    have hopened := ends_of_triple (leaves_openStream hvalid _) hended honly
    cases res with
    | error e => exact ⟨hopened, nofun, fun hin => hin.elim⟩
    | ok sock =>
      have hholding : Holding [] sock 1 s' := hopened
      exact ⟨hholding.stream, fun _ => trivial, fun _ => rfl⟩
  | inside hworks hin => exact ⟨works_only hvalid hworks honly, fun _ => hin, fun _ => rfl⟩
  | @left p p' s s' s'' os sock log res hworks hout hended =>
    have hheld : OnlyStreams [sock] s' := works_only hvalid hworks honly
    have hholding : Holding [] sock 1 s' := by
      simpa using hheld.stream (List.nodup_singleton sock) (List.mem_singleton_self sock)
    refine ⟨ends_either leaves_exitStream hended hholding, nofun, fun hin => ?_⟩
    cases res with
    | ok _ => exact absurd hin hout
    | error e => exact hin.elim

theorem tidy_run (hvalid : TimeoutValid (some client.connectTimeout))
    (h : Runs (Wired.Moves r client) {} os w) : w.Tidy :=
  h.invariant (J := fun _ w => w.Tidy) ⟨onlyStreams_new, nofun, fun hin => hin.elim⟩
    fun hw hstep => tidy_step hvalid hw hstep

end Descriptors

/-- On its sockets the resident does nothing that it does not do on its inputs, and the only
descriptor that is ever open between two calls is that of the stream it is in. Snapshots leave none
behind, and no way out of the `with` block keeps the stream. -/
theorem resident_wired [Host] (r : Resident) (client : SocketClient)
    (hvalid : TimeoutValid (some client.connectTimeout)) (os : List Occurrence) (w : Wired)
    (h : Runs (Wired.Moves r client) {} os w) :
    (∃ q, Runs (Process.Moves r) {} os q ∧ w.Refines q) ∧
      (w.stream.isSome = true ↔ w.process.phase.Streaming) ∧
      ∀ sock, w.sockets.Open sock ↔ w.stream = some sock := by
  have htidy := tidy_run hvalid h
  refine ⟨h.simulates (R := Wired.Refines) (.inl rfl) refines_step, htidy.inside, fun sock => ?_⟩
  have hmem : w.stream = some sock ↔ sock ∈ w.stream.toList := by simp
  rw [hmem]
  constructor
  · intro hopen
    by_contra hnot
    exact (htidy.only sock).gone hnot hopen
  · intro hsock
    obtain ⟨k, hk, hclosed, -⟩ := (htidy.only sock).stream hsock
    exact ⟨k, hk, .inl hclosed⟩

section Resuming

variable [Host] {r : Resident} {client : SocketClient} {w w' : Wired} {os : List Occurrence}
  {p p' : Process} {s s' : Sockets} {sock : Nat} {tally : Tally} {position : Position}

/-- A step that stays in the stream stays with the cursor that it was opened with. -/
theorem durable_kept (h : p.Moves r os p') (hphase : p.phase = .running tally position)
    (hin : position.Streaming) (hin' : p'.phase.Streaming) :
    ∃ tally' position', p'.phase = .running tally' position' ∧ position'.Streaming ∧
      position'.durableBefore = position.durableBefore ∧
        tally'.reconnectAfter = tally.reconnectAfter := by
  obtain ⟨input, h⟩ := h
  have hat : ∀ {tally' : Tally} {position' : Position}, p.phase = .running tally' position' →
      tally' = tally ∧ position' = position := by
    intro tally' position' h'
    rw [hphase] at h'
    cases h'
    exact ⟨rfl, rfl⟩
  cases Process.step_of_next h with
  | started maxConnections =>
    unfold Process.start at hin'
    split at hin'
    · exact hin'.elim
    · split at hin' <;> exact hin'.elim
  | recovered hrunning => exact hin'.elim
  | replayed hrunning _ => exact hin'.elim
  | observed hrunning _ =>
    obtain ⟨rfl, rfl⟩ := hat hrunning
    exact ⟨_, _, rfl, trivial, rfl, rfl⟩
  | refused _ _ _ => exact hin'.elim
  | requested hrunning =>
    obtain ⟨-, rfl⟩ := hat hrunning
    exact hin.elim
  | unreachable _ => exact hin'.elim
  | acknowledged hrunning _ =>
    obtain ⟨rfl, rfl⟩ := hat hrunning
    refine ⟨_, _, rfl, hin', ?_, rfl⟩
    unfold Process.opening
    dsimp only
    split <;> rfl
  | ignored hrunning _ =>
    obtain ⟨rfl, rfl⟩ := hat hrunning
    exact ⟨_, _, hrunning, hin, rfl, rfl⟩
  | ended hrunning =>
    obtain ⟨rfl, rfl⟩ := hat hrunning
    exact ⟨_, _, rfl, trivial, rfl, rfl⟩
  | disconnected hrunning _ =>
    obtain ⟨rfl, rfl⟩ := hat hrunning
    exact ⟨_, _, rfl, trivial, rfl, rfl⟩
  | received hrunning _ =>
    obtain ⟨rfl, rfl⟩ := hat hrunning
    exact ⟨_, _, rfl, trivial, rfl, rfl⟩
  | @committed tally' session event returns disposition outbox hrunning _ =>
    obtain ⟨rfl, rfl⟩ := hat hrunning
    have hcount : (tally'.count disposition).reconnectAfter = tally'.reconnectAfter := by
      cases disposition <;> rfl
    refine ⟨_, _, rfl, hin', ?_, ?_⟩
    · unfold Process.account
      split
      · dsimp only
        split <;> rfl
      · rfl
    · unfold Process.account
      split
      · exact hcount
      · exact hcount
  | snapshotted hrunning _ =>
    obtain ⟨rfl, rfl⟩ := hat hrunning
    exact ⟨_, _, rfl, trivial, rfl, rfl⟩
  | completed _ _ =>
    unfold Process.completed at hin'
    split at hin'
    · exact hin'.elim
    · exact hin'.elim
  | raised _ _ => exact hin'.elim

/-- The stream was asked to go on from this cursor, and since then it was only read. -/
def Streams (client : SocketClient) (sock : Nat) (durableBefore : Option EventCursor) (s : Sockets) :
    Prop :=
  ∃ d, ∃ raws : List (List UInt8), StreamOpened client (durableBefore.map (·.seq)) d ∧
    s.dialogues[sock]? = some (d ++ raws.map Transfer.received)

omit [Host] in
theorem Streams.transfer {durableBefore : Option EventCursor}
    (h : Streams client sock durableBefore s) (raw : List UInt8) :
    Streams client sock durableBefore (s.transfer sock (.received raw)) := by
  obtain ⟨d, raws, hopened, hd⟩ := h
  have hds : (s.transfer sock (.received raw)).dialogues =
      s.dialogues.modify sock (· ++ [.received raw]) := dialogues_modify fun _ => rfl
  refine ⟨d, raws ++ [raw], hopened, ?_⟩
  rw [hds, List.getElem?_modify_eq, hd]
  simp

theorem works_streams {durableBefore : Option EventCursor} (h : Works r client sock p s os p' s')
    (hs : Streams client sock durableBefore s) : Streams client sock durableBefore s' := by
  cases h with
  | proceed _ => exact hs
  | frame hended _ =>
    have hread : Leaves (Streams client sock durableBefore) (client.readFrame sock)
        (fun _ => Streams client sock durableBefore) (Streams client sock durableBefore) :=
      triple_readFrame (fun _ raw hs => ⟨trivial, hs.transfer raw⟩) fun _ hs => ⟨trivial, hs⟩
    exact ends_either hread hended hs
  | snapshots _ hended =>
    have hsnapshots : client.Says (fun _ => True) s.dialogues
        (Spoken.Exactly s.dialogues s.requestIds) (client.snapshots snapshotMethods)
        (fun _ => client.Grown (fun _ => True) s.dialogues s.requestIds)
        (client.Grown (fun _ => True) s.dialogues s.requestIds) :=
      says_snapshotsFrom 0 _ adds_refl fun _ _ _ => trivial
    obtain ⟨-, fresh, hds, -⟩ := ends_either hsnapshots hended ⟨rfl, rfl⟩
    obtain ⟨d, raws, hopened, hd⟩ := hs
    obtain ⟨hlt, -⟩ := List.getElem?_eq_some_iff.mp hd
    exact ⟨d, raws, hopened, by rw [hds, List.getElem?_append_left hlt, hd]⟩

/-- What the stream that the resident is in was asked for. -/
def Wired.Resumed (client : SocketClient) (w : Wired) : Prop :=
  ∀ sock, w.stream = some sock → ∃ tally position, w.process.phase = .running tally position ∧
    position.Streaming ∧
      tally.reconnectAfter.getLast? = some (position.durableBefore.map (·.seq)) ∧
        Streams client sock position.durableBefore w.sockets

theorem resumed_step (hw : w.Resumed client) (h : Wired.Moves r client w os w') :
    w'.Resumed client := by
  cases h with
  | start maxConnections => exact nofun
  | proceed _ => exact nofun
  | left _ _ _ => exact nofun
  | @opened p s s' tally log res hphase hended =>
    cases res with
    | error e => exact nofun
    | ok sock =>
      rintro _ ⟨⟩
      obtain ⟨rfl, d, hopened, hds, -⟩ := ends_of_triple (says_stream client _ s) hended ⟨rfl, rfl⟩
      refine ⟨_, _, rfl, trivial, by simp [Position.durableBefore], d, [], hopened, ?_⟩
      simp [hds]
  | inside hworks hin =>
    rintro _ ⟨⟩
    obtain ⟨tally, position, hphase, hstreaming, hlast, hstreams⟩ := hw _ rfl
    obtain ⟨tally', position', hphase', hstreaming', hbefore, hafter⟩ :=
      durable_kept (works_moves hworks) hphase hstreaming hin
    refine ⟨tally', position', hphase', hstreaming', ?_, ?_⟩
    · rw [hafter, hbefore, hlast]
    · rw [hbefore]
      exact works_streams hworks hstreams

end Resuming

/-- The stream that the resident is in was asked for what follows the cursor that was durable when it
was opened, as the last of the requests that the run counts. The client sent nothing else on it than
the login before, and since then has only read. -/
theorem stream_resumes [Host] (r : Resident) (client : SocketClient) (os : List Occurrence)
    (w : Wired) (h : Runs (Wired.Moves r client) {} os w) (sock : Nat)
    (hsock : w.stream = some sock) :
    ∃ tally position, w.process.phase = .running tally position ∧ position.Streaming ∧
      tally.reconnectAfter.getLast? = some (position.durableBefore.map (·.seq)) ∧
      ∃ k exchange, ∃ raws : List (List UInt8), w.sockets.socks[sock]? = some k ∧
        client.LoggedIn exchange ∧ k.dialogue = exchange ++
          .sent (wireLine (SocketClient.streamRequest (position.durableBefore.map (·.seq)))) ::
            raws.map Transfer.received := by
  have hresumed : w.Resumed client := h.invariant (J := fun _ w => w.Resumed client) nofun
    fun hw hstep => resumed_step hw hstep
  obtain ⟨tally, position, hphase, hstreaming, hlast, _, raws, ⟨exchange, hlogin, rfl⟩, hd⟩ :=
    hresumed sock hsock
  obtain ⟨k, hk, hdialogue⟩ : ∃ k, w.sockets.socks[sock]? = some k ∧ k.dialogue = _ := by
    simpa only [Sockets.dialogues, List.getElem?_map, Option.map_eq_some_iff] using hd
  refine ⟨tally, position, hphase, hstreaming, hlast, k, exchange, raws, hk, hlogin, ?_⟩
  rw [hdialogue, List.append_assoc, List.singleton_append]

section Reading

variable {client : SocketClient} {sock : Nat} {s : Sockets}

theorem returns_readFrame (frame : Frame client.loads) :
    Sockets.world.Returns (client.readFrame sock) s (some frame.object)
      (s.transfer sock (.received frame.sent)) := by
  have hfits := frame.fits
  have hread : (readline newline (maxFrameBytes + 2) frame.sent).1 = frame.sent := by
    rw [Frame.sent, readline_line frame.line (by omega)]
  have hfilled : frame.sent ≠ [] := List.append_ne_nil_of_right_ne_nil _ (List.cons_ne_nil _ _)
  have hframe : ¬ (frame.sent.length > maxFrameBytes + 1 ∨ frame.sent.getLast? ≠ some newline) := by
    simp [Frame.sent]
    omega
  have hvalue : frameValue client.loads frame.sent = .ok frame.object := by
    rw [frameValue, Frame.sent, frame.inverts]
  have hserves : Sockets.Serves (.readline sock (maxFrameBytes + 2)) s (.line frame.sent)
      (s.transfer sock (.received frame.sent)) := by
    have hline := @Sockets.Serves.readline s sock (maxFrameBytes + 2) frame.sent
    rwa [hread] at hline
  have hsend : Sockets.world.Returns
      (Raising.send (.readline sock (maxFrameBytes + 2)) : SocketScript SocketReply) s
      (.line frame.sent) (s.transfer sock (.received frame.sent)) := returns_send hserves
  have hrest (t : Sockets) : Sockets.world.Returns
      (if frame.sent = [] then pure none
        else if frame.sent.length > maxFrameBytes + 1 ∨ frame.sent.getLast? ≠ some newline then
          throw oversizedError
        else do return some (← Raising.again (frameValue client.loads frame.sent)) :
        SocketScript (Option Dict)) t (some frame.object) t := by
    rw [if_neg hfilled, if_neg hframe]
    exact (returns_again hvalue).bind returns_pure
  exact (hsend.bind returns_pure).bind (hrest _)

theorem returns_end :
    ∃ s', Sockets.world.Returns (client.readFrame sock) s none s' := by
  have hsend : Sockets.world.Returns
      (Raising.send (.readline sock (maxFrameBytes + 2)) : SocketScript SocketReply) s
      (.line []) (s.transfer sock (.received [])) := returns_send (Sockets.Serves.readline [])
  exact ⟨_, (hsend.bind returns_pure).bind returns_pure⟩

theorem returns_exitStream :
    ∃ s', Sockets.world.Returns (SocketClient.exitStream sock) s () s' :=
  ⟨_, (returns_perform .closeReader).bind (returns_perform (.close (.inl rfl)))⟩

end Reading

/-- The first frame is the ack, the second the only event, and then the stream ends. -/
theorem readable_sampleAckFrame (replayCount latestSeq : Nat) (gap : Bool) :
    Readable (.obj (sampleAckFrame replayCount latestSeq gap)) := by
  simp [sampleAckFrame, Readable, ReadableFields]

theorem readable_sampleFrame (seq : Nat) (name : String) :
    Readable (.obj (sampleFrame seq name [])) := by
  simp [sampleFrame, Readable, ReadableFields]

def ackWire : Frame jsonLoads :=
  Frame.compact (sampleAckFrame 1 1 false) (readable_sampleAckFrame 1 1 false) (by decide +kernel)

def eventWire : Frame jsonLoads :=
  Frame.compact (sampleFrame 1 inputSent []) (readable_sampleFrame 1 inputSent) (by decide +kernel)

def storedOutbox : Outbox := Outbox.insertEvent {} (sampleEvent 1 inputSent [])

/-- The process after its first stream, which has left it a cursor. -/
def resumingProcess : Process :=
  sampleProcess { maxConnections := 2, left := 1, reconnectAfter := [none, some 1], replayCount := 1
                  inserted := 1 } (.handshake (some ⟨"cmux-1", "boot-1", 1⟩)) storedOutbox

theorem runs_secondStream : ∃ os w sock,
    Runs (@Wired.Moves sampleHost bareResident sampleClient) {} os w ∧ w.stream = some sock ∧
      w.process = resumingProcess := by
  let _ : Host := sampleHost
  let opened : Tally := { maxConnections := 2, left := 2, reconnectAfter := [none] }
  let counted : Tally := { opened with replayCount := 1, inserted := 1 }
  let session : Session :=
    { durableBefore := none, ack := ⟨"boot-1", 1, ⟨none, 0, 1, 2, false⟩⟩, gap := false
      remainingReplay := 1, insertedBefore := 0, duplicatesBefore := 0 }
  let replayed : Session := { session with remainingReplay := 0, replaySeen := 1 }
  let event : DerivedEvent := sampleEvent 1 inputSent []
  let reading := sampleProcess opened (.reading session) {}
  let observing := sampleProcess opened (.observing session event) {}
  let committing := sampleProcess opened (.committing session event) {}
  let drained := sampleProcess counted (.reading replayed) storedOutbox
  let closing := sampleProcess counted (.closing replayed) storedOutbox
  let resuming := sampleProcess { counted with left := 1 } .connecting storedOutbox
  obtain ⟨_, s₁, hopened⟩ := ended_openStream {} none
  let s₂ := s₁.transfer 0 (.received ackWire.sent)
  let s₃ := s₂.transfer 0 (.received eventWire.sent)
  obtain ⟨_, hack⟩ := @returns_readFrame sampleClient 0 s₁ ackWire
  obtain ⟨_, hevent⟩ := @returns_readFrame sampleClient 0 s₂ eventWire
  obtain ⟨s₄, _, hend⟩ := @returns_end sampleClient 0 s₃
  obtain ⟨s₅, _, hexit⟩ := @returns_exitStream 0 s₄
  obtain ⟨_, s₆, hreopened⟩ := ended_openStream s₅ (some 1)
  have hgreeted : (sampleProcess opened (.handshake none) {}).next bareResident
      (.frame (.ok (some ackWire.object))) = some (reading, [.acknowledged "boot-1" false]) := by
    have hparse := parse_sampleAckFrame 1 1 false
    simp only [ackWire, Frame.compact, Process.next, Process.acknowledge, sampleProcess, hparse]
    rfl
  have hsent : reading.next bareResident (.frame (.ok (some eventWire.object))) =
      some (observing, []) := next_sampleFrame rfl samplePayload_empty (by decide) rfl rfl
  have hcommitted : committing.next bareResident (.proceed true) =
      some (drained, [.committed event .inserted]) :=
    @next_sampleEvent _ [] [] bareResident committing opened session 1 inputSent true
      samplePayload_empty (by decide) (by decide) rfl (fun _ h => by cases h) rfl
  have hobserved : observing.next bareResident (.proceed true) = some (committing, []) := rfl
  have hended : drained.next bareResident (.frame (.ok none)) = some (closing, []) := rfl
  have hclosed : closing.next bareResident (.proceed true) = some (resuming, [.completed]) := rfl
  have hstart : Wired.Moves bareResident sampleClient {} [] _ := .start 2
  have hread := (Runs.single hstart).tail (.opened rfl hopened)
    |>.tail (.inside (.frame hack hgreeted) trivial)
    |>.tail (.inside (.frame hevent hsent) trivial)
  have hstored := hread.tail (.inside (.proceed hobserved) trivial)
    |>.tail (.inside (.proceed hcommitted) trivial)
  have hleft := hstored.tail (.inside (.frame hend hended) trivial)
    |>.tail (.left (.proceed hclosed) id hexit)
  exact ⟨_, _, _, hleft.tail (.opened rfl hreopened), rfl, rfl⟩

theorem resident_wired_sample : ∃ os w sock,
    Runs (@Wired.Moves sampleHost bareResident sampleClient) {} os w ∧ w.stream = some sock ∧
      w.process = resumingProcess ∧
      (∃ q, Runs (@Process.Moves sampleHost bareResident) {} os q ∧ w.Refines q) ∧
      (w.stream.isSome = true ↔ w.process.phase.Streaming) ∧
      ∀ sock', w.sockets.Open sock' ↔ w.stream = some sock' := by
  obtain ⟨os, w, sock, hruns, hstream, hprocess⟩ := runs_secondStream
  exact ⟨os, w, sock, hruns, hstream, hprocess,
    @resident_wired sampleHost bareResident sampleClient (by decide) os w hruns⟩

/-- The second stream is asked for what follows the event of the first one. -/
theorem stream_resumes_sample : ∃ os w sock k exchange, ∃ raws : List (List UInt8),
    Runs (@Wired.Moves sampleHost bareResident sampleClient) {} os w ∧ w.stream = some sock ∧
      w.process = resumingProcess ∧ w.sockets.socks[sock]? = some k ∧
      sampleClient.LoggedIn exchange ∧ k.dialogue = exchange ++
        .sent (wireLine (SocketClient.streamRequest (some 1))) :: raws.map Transfer.received := by
  obtain ⟨os, w, sock, hruns, hstream, hprocess⟩ := runs_secondStream
  obtain ⟨tally, position, hphase, -, -, k, exchange, raws, hk, hlogin, hdialogue⟩ :=
    @stream_resumes sampleHost bareResident sampleClient os w hruns sock hstream
  have hposition : position = .handshake (some ⟨"cmux-1", "boot-1", 1⟩) := by
    rw [hprocess] at hphase
    cases hphase
    rfl
  rw [hposition] at hdialogue
  exact ⟨os, w, sock, k, exchange, raws, hruns, hstream, hprocess, hk, hlogin, hdialogue⟩

end Yatagarasu.Cmux
