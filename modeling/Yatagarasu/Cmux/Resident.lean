import Yatagarasu.Cmux.EventOutbox
import Yatagarasu.Cmux.Observations
import Yatagarasu.Library.Transition

/-! `run` is a process that stops at every call to the world: the socket, the core client, the
outbox. Between two of its steps the process may die; then only the outbox is left, and the next
`start` begins a run from it. -/

namespace Yatagarasu.Cmux

open PyJson ReceiptReducer

/-- The constructor arguments of a resident, apart from its socket and its outbox file. -/
structure Resident where
  sourceInstanceId : String
  receiptProducer : Option EmitterConfig
  named : sourceInstanceId ≠ ""

/-- Literal observations from a bounded resident run. -/
structure ResidentRun where
  connections : Nat
  reconnectAfterSeq : List (Option Int)
  slowConsumerReceived : Bool
  disconnectAtSeq : Option Int
  replayEventCount : Nat
  insertedEventCount : Nat
  duplicateEventCount : Nat
  snapshotCommands : List String
  deriving DecidableEq, Repr

/-- The local variables of `run`; `left` counts the connections that are not completed. -/
structure Tally where
  maxConnections : Nat
  left : Nat
  reconnectAfter : List (Option Int) := []
  snapshotCommands : List String := []
  slowConsumer : Bool := false
  disconnectAtSeq : Option Int := none
  replayCount : Nat := 0
  inserted : Nat := 0
  duplicates : Nat := 0

def Tally.count (tally : Tally) : CommitDisposition → Tally
  | .inserted => { tally with inserted := tally.inserted + 1 }
  | .duplicate => { tally with duplicates := tally.duplicates + 1 }

/-- The local variables of one connection. -/
structure Session where
  durableBefore : Option EventCursor
  ack : StreamAck
  gap : Bool
  remainingReplay : Nat
  replaySeen : Nat := 0
  insertedBefore : Nat
  duplicatesBefore : Nat

/-- The call to the world that a run makes next. -/
inductive Position
  | recovering (events : List DerivedEvent)
  | connecting
  | handshake (durableBefore : Option EventCursor)
  | snapshotting (session : Session) (cursorSeq : Int) (replayCount : Nat)
  | reading (session : Session)
  | observing (session : Session) (event : DerivedEvent)
  | committing (session : Session) (event : DerivedEvent)
  | closing (session : Session)

inductive Phase
  | ready
  | running (tally : Tally) (position : Position)
  | returned (run : ResidentRun)
  | raised (error : CmuxError)

/-- A resident process: the durable tables, the producer's memory and where the run stands. -/
structure Process where
  outbox : Outbox := {}
  producer : ProducerState := {}
  phase : Phase := .ready

/-- What the world does. A `start` in the middle of a run is a restart after a crash. -/
inductive Input
  | start (maxConnections : Int)
  /-- The process goes on by itself; `returns` is the core client's answer if it is called. -/
  | proceed (returns : Bool)
  | opened (result : Except CmuxError Unit)
  | frame (result : Except CmuxError (Option Dict))
  | snapshots (responses : String → Except CmuxError Json)

/-- What an observer of the process sees. -/
inductive Occurrence
  | requested (afterSeq : Option Int)
  | acknowledged (bootId : String) (gap : Bool)
  | submitted (receipt : Receipt) (returned : Bool)
  | committed (event : DerivedEvent) (disposition : CommitDisposition)
  /-- `recorded` are the tables as the transaction left them. -/
  | snapshotted (cursor : EventCursor) (recorded : Outbox)
  | completed

def snapshotMethods : List String := ["extension.sidebar.snapshot", "workspace.list", "system.tree"]

/-- Literal snapshot RPCs on command connections, never the stream. -/
def snapshots (responses : String → Except CmuxError Json) :
    Except CmuxError (List SnapshotBaseline) :=
  snapshotMethods.mapM fun method => (responses method).map fun result => ⟨method, dumps result⟩

def sinkError : CmuxError := .python (.raised "core client")

def reprChar (quote c : Char) : List Char :=
  if c = quote ∨ c = '\\' then ['\\', c]
  else if c = '\n' then ['\\', 'n']
  else if c = '\r' then ['\\', 'r']
  else if c = '\t' then ['\\', 't']
  else if c.toNat < 0x20 ∨ c.toNat = 0x7f then
    ['\\', 'x', Nat.digitChar (c.toNat / 16), Nat.digitChar (c.toNat % 16)]
  else [c]

/-- `repr(text)`, in double quotes where the text has single ones only. A character outside ASCII is
taken to be printable. -/
def reprText (text : String) : String :=
  let quote := if '\x27' ∈ text.toList ∧ '"' ∉ text.toList then '"' else '\x27'
  String.ofList (quote :: text.toList.flatMap (reprChar quote) ++ [quote])

mutual
/-- `repr(value)`; a float is shown as it was written. -/
def reprValue : Json → String
  | .null => "None"
  | .bool true => "True"
  | .bool false => "False"
  | .int n => String.ofList (renderInt n)
  | .float literal => literal
  | .str text => reprText text
  | .arr items => "[" ++ String.intercalate ", " (reprItems items) ++ "]"
  | .obj fields => "\x7b" ++ String.intercalate ", " (reprFields fields) ++ "\x7d"

def reprItems : List Json → List String
  | [] => []
  | item :: items => reprValue item :: reprItems items

def reprFields : Dict → List String
  | [] => []
  | (key, value) :: fields => (reprText key ++ ": " ++ reprValue value) :: reprFields fields
end

/-- An error code in a message, formatted as `str` does. -/
def codeText : Option Json → String
  | some (.str code) => code
  | some code => reprValue code
  | none => "None"

/-- The code and the detail of an error frame. -/
def errorCode (frame : Dict) : Option Json × Dict :=
  match frame.lookup "error" with
  | some (.obj error) => (error.lookup "code", error)
  | _ => (none, [])

/-- What one frame of an open stream asks for. -/
inductive FrameAction
  | ignore
  | disconnect (latestSeq : Int)
  | event (event : DerivedEvent)

namespace Resident

variable [Host] (r : Resident)

/-- The receipt plane on one event: what it raises, its state and what it handed to the core. -/
def observe (s : ProducerState) (event : DerivedEvent) (returns : Bool) :
    Option CmuxError × ProducerState × List Occurrence :=
  match r.receiptProducer with
  | none => (none, s, [])
  | some config =>
    match s.observe config event with
    | .silent next => (none, next, [])
    | .raises e next => (some e, next, [])
    | .submits receipt returned raised =>
      if returns then (none, returned, [.submitted receipt true])
      else (some sinkError, raised, [.submitted receipt false])

/-- Classify a frame of the stream; the projector sees events only. -/
def classify (bootId : String) (frame : Dict) : Except CmuxError FrameAction :=
  if eqStr (frame.lookup "type") "heartbeat" then .ok .ignore
  else if eqStr (frame.lookup "type") "error" then
    if ¬ eqStr (errorCode frame).1 "slow_consumer" then
      .error (.streamProtocol ("CMUX stream error: " ++ codeText (errorCode frame).1))
    else match (errorCode frame).2.lookup "latest_seq" with
      | some (.int latest) =>
        if latest < 0 then .error (.streamProtocol "slow_consumer latest sequence is malformed")
        else .ok (.disconnect latest)
      | _ => .error (.streamProtocol "slow_consumer latest sequence is malformed")
  else if ¬ eqStr (frame.lookup "type") "event" then
    .error (.streamProtocol "unexpected CMUX stream frame type")
  else match project r.sourceInstanceId frame bootId with
    | .error e => .error e
    | .ok event => .ok (.event event)

end Resident

namespace Process

variable [Host] (r : Resident)

def moveTo (p : Process) (tally : Tally) (position : Position) : Process :=
  { p with phase := .running tally position }

def raise (p : Process) (error : CmuxError) : Process := { p with phase := .raised error }

/-- `run` up to its first call. -/
def start (p : Process) (maxConnections : Int) : Process :=
  if maxConnections ≤ 0 then p.raise (.python (.valueError "max_connections must be positive"))
  else
    { p with
      producer := {}
      phase := .running { maxConnections := maxConnections.toNat, left := maxConnections.toNat }
        (match r.receiptProducer with
          | some _ => .recovering (p.outbox.outboxEvents r.sourceInstanceId)
          | none => .connecting) }

/-- The producer on an event, and where the run goes if it does not raise. -/
def observe (p : Process) (event : DerivedEvent) (returns : Bool) (tally : Tally)
    (following : Position) : Process × List Occurrence :=
  match r.observe p.producer event returns with
  | (none, producer, seen) => ({ p with producer, phase := .running tally following }, seen)
  | (some e, producer, seen) => ({ p with producer, phase := .raised e }, seen)

/-- Open a stream after the durable cursor. -/
def connect (p : Process) (tally : Tally) (result : Except CmuxError Unit) :
    Process × List Occurrence :=
  let durableBefore := p.outbox.cursor r.sourceInstanceId
  let afterSeq := durableBefore.map (·.seq)
  let tally := { tally with reconnectAfter := tally.reconnectAfter ++ [afterSeq] }
  match result with
  | .error e => (p.raise e, [.requested afterSeq])
  | .ok _ => (p.moveTo tally (.handshake durableBefore), [.requested afterSeq])

def declaresGap (durableBefore : Option EventCursor) (ack : StreamAck) : Bool :=
  ack.resume.gap || match durableBefore with
    | some cursor => cursor.bootId ≠ ack.bootId
    | none => false

/-- Where a connection goes from its ack: a gap without replay is snapshotted at once. -/
def opening (tally : Tally) (durableBefore : Option EventCursor) (ack : StreamAck) : Position :=
  let session : Session :=
    { durableBefore, ack, gap := declaresGap durableBefore ack
      remainingReplay := ack.replayCount
      insertedBefore := tally.inserted, duplicatesBefore := tally.duplicates }
  if session.gap ∧ session.remainingReplay = 0 then .snapshotting session ack.resume.latestSeq 0
  else .reading session

/-- The first frame of a stream. -/
def acknowledge (p : Process) (tally : Tally) (durableBefore : Option EventCursor)
    (first : Except CmuxError (Option Dict)) : Process × List Occurrence :=
  match first with
  | .error e => (p.raise e, [])
  | .ok none => (p.raise (.streamProtocol "CMUX stream closed before ack"), [])
  | .ok (some frame) =>
    match StreamAck.parse frame with
    | .error e => (p.raise e, [])
    | .ok ack =>
      (p.moveTo tally (opening tally durableBefore ack),
        [.acknowledged ack.bootId (declaresGap durableBefore ack)])

/-- One turn of the read loop, up to the receipt plane. -/
def receive (p : Process) (tally : Tally) (session : Session)
    (result : Except CmuxError (Option Dict)) : Process :=
  match result with
  | .error e => p.raise e
  | .ok none => p.moveTo tally (.closing session)
  | .ok (some frame) =>
    match r.classify session.ack.bootId frame with
    | .error e => p.raise e
    | .ok .ignore => p.moveTo tally (.reading session)
    | .ok (.disconnect latest) =>
      p.moveTo { tally with slowConsumer := true, disconnectAtSeq := some latest } (.closing session)
    | .ok (.event event) => p.moveTo tally (.observing session event)

/-- The replay accounting after a commit: the end of a gap's replay is its snapshot. -/
def account (tally : Tally) (session : Session) (event : DerivedEvent) : Tally × Position :=
  if session.remainingReplay > 0 then
    let replayed := { session with
      remainingReplay := session.remainingReplay - 1, replaySeen := session.replaySeen + 1 }
    ({ tally with replayCount := tally.replayCount + 1 },
      if replayed.remainingReplay = 0 ∧ session.gap then
        .snapshotting replayed event.seq replayed.replaySeen
      else .reading replayed)
  else (tally, .reading session)

def commit (p : Process) (tally : Tally) (session : Session) (event : DerivedEvent) :
    Process × List Occurrence :=
  match p.outbox.commitEvent event session.gap with
  | .error e => (p.raise e, [])
  | .ok (disposition, outbox) =>
    let (tally, position) := account (tally.count disposition) session event
    ({ p with outbox, phase := .running tally position }, [.committed event disposition])

def resnapshot (p : Process) (tally : Tally) (session : Session) (cursorSeq : Int)
    (replayCount : Nat) (responses : String → Except CmuxError Json) :
    Process × List Occurrence :=
  match snapshots responses with
  | .error e => (p.raise e, [])
  | .ok commands =>
    let cursor := ⟨r.sourceInstanceId, session.ack.bootId, cursorSeq⟩
    match p.outbox.recordResnapshot cursor commands replayCount with
    | .error e => (p.raise e, [])
    | .ok outbox =>
      ({ p with
        outbox
        phase := .running { tally with
          snapshotCommands := tally.snapshotCommands ++ commands.map (·.method) }
          (.reading session) }, [.snapshotted cursor outbox])

def result (tally : Tally) : ResidentRun where
  connections := tally.maxConnections
  reconnectAfterSeq := tally.reconnectAfter
  slowConsumerReceived := tally.slowConsumer
  disconnectAtSeq := tally.disconnectAtSeq
  replayEventCount := tally.replayCount
  insertedEventCount := tally.inserted
  duplicateEventCount := tally.duplicates
  snapshotCommands := tally.snapshotCommands

/-- The next turn of the loop over connections, or the end of the run. -/
def completed (tally : Tally) : Phase :=
  if tally.left ≤ 1 then .returned (result tally)
  else .running { tally with left := tally.left - 1 } .connecting

/-- The end of a connection. -/
def close (p : Process) (tally : Tally) (session : Session) : Process × List Occurrence :=
  if session.remainingReplay ≠ 0 then
    (p.raise (.streamProtocol "stream ended before declared replay completed"), [])
  else match session.durableBefore with
    | none => ({ p with phase := completed tally }, [.completed])
    | some before =>
      match p.outbox.cursor r.sourceInstanceId with
      | none => (p.raise (.streamProtocol "reconnect lost the durable cursor"), [])
      | some durableAfter =>
        match p.outbox.recordReconnectReplay durableAfter (some before.seq) session.replaySeen
            (tally.inserted - session.insertedBefore) (tally.duplicates - session.duplicatesBefore)
            tally.disconnectAtSeq with
        | .error e => (p.raise e, [])
        | .ok outbox => ({ p with outbox, phase := completed tally }, [.completed])

/-- One step; an input that the process does not wait for is none. -/
def next (p : Process) : Input → Option (Process × List Occurrence)
  | .start maxConnections => some (p.start r maxConnections, [])
  | .proceed returns =>
    match p.phase with
    | .running tally (.recovering []) => some (p.moveTo tally .connecting, [])
    | .running tally (.recovering (event :: events)) =>
      some (p.observe r event returns tally (.recovering events))
    | .running tally (.observing session event) =>
      some (p.observe r event returns tally (.committing session event))
    | .running tally (.committing session event) => some (p.commit tally session event)
    | .running tally (.closing session) => some (p.close r tally session)
    | _ => none
  | .opened result =>
    match p.phase with
    | .running tally .connecting => some (p.connect r tally result)
    | _ => none
  | .frame result =>
    match p.phase with
    | .running tally (.handshake durableBefore) =>
      some (p.acknowledge tally durableBefore result)
    | .running tally (.reading session) => some (p.receive r tally session result, [])
    | _ => none
  | .snapshots responses =>
    match p.phase with
    | .running tally (.snapshotting session cursorSeq replayCount) =>
      some (p.resnapshot r tally session cursorSeq replayCount responses)
    | _ => none

/-- Any step of a resident process. -/
def Moves (p : Process) (os : List Occurrence) (p' : Process) : Prop :=
  ∃ input, p.next r input = some (p', os)

/-- Everything that a step can do. -/
inductive Step (p : Process) : Input → List Occurrence → Process → Prop
  | started (maxConnections : Int) : Step p (.start maxConnections) [] (p.start r maxConnections)
  | recovered {tally : Tally} {returns : Bool} : p.phase = .running tally (.recovering []) →
      Step p (.proceed returns) [] (p.moveTo tally .connecting)
  | replayed {tally : Tally} {event : DerivedEvent} {events : List DerivedEvent} {returns : Bool}
      {producer : ProducerState} {seen : List Occurrence} :
      p.phase = .running tally (.recovering (event :: events)) →
      r.observe p.producer event returns = (none, producer, seen) → Step p (.proceed returns) seen
        { p with producer, phase := .running tally (.recovering events) }
  | observed {tally : Tally} {session : Session} {event : DerivedEvent} {returns : Bool}
      {producer : ProducerState} {seen : List Occurrence} :
      p.phase = .running tally (.observing session event) →
      r.observe p.producer event returns = (none, producer, seen) → Step p (.proceed returns) seen
        { p with producer, phase := .running tally (.committing session event) }
  | refused {tally : Tally} {position : Position} {event : DerivedEvent} {returns : Bool}
      {e : CmuxError} {producer : ProducerState} {seen : List Occurrence} :
      p.phase = .running tally position →
      (∃ events, position = .recovering (event :: events)) ∨
        (∃ session, position = .observing session event) →
      r.observe p.producer event returns = (some e, producer, seen) →
      Step p (.proceed returns) seen { p with producer, phase := .raised e }
  | requested {tally : Tally} : p.phase = .running tally .connecting →
      Step p (.opened (.ok ())) [.requested ((p.outbox.cursor r.sourceInstanceId).map (·.seq))]
        (p.connect r tally (.ok ())).1
  | unreachable {tally : Tally} {e : CmuxError} : p.phase = .running tally .connecting →
      Step p (.opened (.error e))
        [.requested ((p.outbox.cursor r.sourceInstanceId).map (·.seq))] (p.raise e)
  | acknowledged {tally : Tally} {durableBefore : Option EventCursor} {frame : Dict}
      {ack : StreamAck} : p.phase = .running tally (.handshake durableBefore) →
      StreamAck.parse frame = .ok ack → Step p (.frame (.ok (some frame)))
        [.acknowledged ack.bootId (declaresGap durableBefore ack)]
        (p.moveTo tally (opening tally durableBefore ack))
  | ignored {tally : Tally} {session : Session} {frame : Dict} :
      p.phase = .running tally (.reading session) →
      r.classify session.ack.bootId frame = .ok .ignore → Step p (.frame (.ok (some frame))) [] p
  | ended {tally : Tally} {session : Session} : p.phase = .running tally (.reading session) →
      Step p (.frame (.ok none)) [] (p.moveTo tally (.closing session))
  | disconnected {tally : Tally} {session : Session} {frame : Dict} {latest : Int} :
      p.phase = .running tally (.reading session) →
      r.classify session.ack.bootId frame = .ok (.disconnect latest) →
      Step p (.frame (.ok (some frame))) [] (p.moveTo
        { tally with slowConsumer := true, disconnectAtSeq := some latest } (.closing session))
  | received {tally : Tally} {session : Session} {frame : Dict} {event : DerivedEvent} :
      p.phase = .running tally (.reading session) →
      r.classify session.ack.bootId frame = .ok (.event event) →
      Step p (.frame (.ok (some frame))) [] (p.moveTo tally (.observing session event))
  | committed {tally : Tally} {session : Session} {event : DerivedEvent} {returns : Bool}
      {disposition : CommitDisposition} {outbox : Outbox} :
      p.phase = .running tally (.committing session event) →
      Outbox.Committed p.outbox event session.gap disposition outbox →
      Step p (.proceed returns) [.committed event disposition]
        { p with
          outbox
          phase := .running (account (tally.count disposition) session event).1
            (account (tally.count disposition) session event).2 }
  | snapshotted {tally : Tally} {session : Session} {cursorSeq : Int} {replayCount : Nat}
      {responses : String → Except CmuxError Json} {commands : List SnapshotBaseline} :
      p.phase = .running tally (.snapshotting session cursorSeq replayCount) →
      snapshots responses = .ok commands →
      Step p (.snapshots responses)
        [.snapshotted ⟨r.sourceInstanceId, session.ack.bootId, cursorSeq⟩ (p.outbox.resnapshot
          ⟨r.sourceInstanceId, session.ack.bootId, cursorSeq⟩ commands replayCount)]
        { p with
          outbox := p.outbox.resnapshot ⟨r.sourceInstanceId, session.ack.bootId, cursorSeq⟩
            commands replayCount
          phase := .running { tally with
            snapshotCommands := tally.snapshotCommands ++ commands.map (·.method) }
            (.reading session) }
  | completed {tally : Tally} {session : Session} {returns : Bool} {audit : List StreamAudit} :
      p.phase = .running tally (.closing session) → session.remainingReplay = 0 →
      Step p (.proceed returns) [.completed]
        { p with
          outbox := { p.outbox with audit := p.outbox.audit ++ audit }
          phase := Process.completed tally }
  | raised {tally : Tally} {position : Position} {input : Input} {e : CmuxError} :
      p.phase = .running tally position → (∀ maxConnections, input ≠ .start maxConnections) →
      Step p input [] (p.raise e)

variable {r : Resident} {p p' : Process} {os : List Occurrence} {tally : Tally}
  {session : Session} {event : DerivedEvent}

omit [Host] in
theorem moveTo_of_phase {position : Position} (h : p.phase = .running tally position) :
    p.moveTo tally position = p := by
  cases p
  cases h
  rfl

theorem connect_step {result : Except CmuxError Unit} (h : p.phase = .running tally .connecting) :
    Step r p (.opened result) (p.connect r tally result).2 (p.connect r tally result).1 := by
  cases result with
  | error e => exact .unreachable h
  | ok _ => exact .requested h

theorem acknowledge_step {durableBefore : Option EventCursor}
    {first : Except CmuxError (Option Dict)}
    (h : p.phase = .running tally (.handshake durableBefore)) :
    Step r p (.frame first) (p.acknowledge tally durableBefore first).2
      (p.acknowledge tally durableBefore first).1 := by
  have hraised : ∀ e, Step r p (.frame first) [] (p.raise e) := fun e =>
    .raised h fun _ heq => by cases heq
  unfold acknowledge
  cases first with
  | error e => exact hraised e
  | ok first =>
    cases first with
    | none => exact hraised _
    | some frame =>
      dsimp only
      split
      · exact hraised _
      · rename_i ack hack
        exact .acknowledged h hack

theorem receive_step {result : Except CmuxError (Option Dict)}
    (h : p.phase = .running tally (.reading session)) :
    Step r p (.frame result) [] (p.receive r tally session result) := by
  have hraised : ∀ e, Step r p (.frame result) [] (p.raise e) := fun e =>
    .raised h fun _ heq => by cases heq
  unfold receive
  cases result with
  | error e => exact hraised e
  | ok result =>
    cases result with
    | none => exact .ended h
    | some frame =>
      dsimp only
      split
      · exact hraised _
      · rename_i hignore
        rw [moveTo_of_phase h]
        exact .ignored h hignore
      · rename_i latest hlatest
        exact .disconnected h hlatest
      · rename_i event hevent
        exact .received h hevent

theorem commit_step {returns : Bool} (h : p.phase = .running tally (.committing session event)) :
    Step r p (.proceed returns) (p.commit tally session event).2
      (p.commit tally session event).1 := by
  unfold commit
  cases hcommit : p.outbox.commitEvent event session.gap with
  | error e => exact .raised h fun _ heq => by cases heq
  | ok committed => exact .committed h (Outbox.committed_of_ok hcommit)

theorem resnapshot_step {cursorSeq : Int} {replayCount : Nat}
    {responses : String → Except CmuxError Json}
    (h : p.phase = .running tally (.snapshotting session cursorSeq replayCount)) :
    Step r p (.snapshots responses)
      (p.resnapshot r tally session cursorSeq replayCount responses).2
      (p.resnapshot r tally session cursorSeq replayCount responses).1 := by
  have hraised : ∀ e, Step r p (.snapshots responses) [] (p.raise e) := fun e =>
    .raised h fun _ heq => by cases heq
  unfold resnapshot
  cases hcommands : snapshots responses with
  | error e => exact hraised e
  | ok commands =>
    dsimp only
    split
    · exact hraised _
    · rename_i outbox hrecorded
      obtain ⟨-, rfl⟩ := Outbox.recordResnapshot_ok_iff.mp hrecorded
      exact .snapshotted h hcommands

theorem close_step {returns : Bool} (h : p.phase = .running tally (.closing session)) :
    Step r p (.proceed returns) (p.close r tally session).2 (p.close r tally session).1 := by
  have hraised : ∀ e, Step r p (.proceed returns) [] (p.raise e) := fun e =>
    .raised h fun _ heq => by cases heq
  have hcompleted : session.remainingReplay = 0 → ∀ audit, Step r p (.proceed returns) [.completed]
      { p with
        outbox := { p.outbox with audit := p.outbox.audit ++ audit }
        phase := Process.completed tally } := fun hzero _ => .completed h hzero
  unfold close
  split
  · exact hraised _
  rename_i hremaining
  rw [not_not] at hremaining
  split
  · simpa using hcompleted hremaining []
  split
  · exact hraised _
  split
  · exact hraised _
  · rename_i outbox hrecorded
    obtain ⟨row, rfl⟩ := Outbox.recordReconnectReplay_ok hrecorded
    exact hcompleted hremaining [row]

theorem observe_step {returns : Bool} {position following : Position}
    (h : p.phase = .running tally position)
    (hat : (∃ events, position = .recovering (event :: events)) ∨
      (∃ session, position = .observing session event))
    (hok : ∀ producer seen, r.observe p.producer event returns = (none, producer, seen) →
      Step r p (.proceed returns) seen { p with producer, phase := .running tally following }) :
    Step r p (.proceed returns) (p.observe r event returns tally following).2
      (p.observe r event returns tally following).1 := by
  unfold observe
  split
  · rename_i producer seen hobserve
    exact hok producer seen hobserve
  · rename_i e producer seen hobserve
    exact .refused h hat hobserve

theorem step_of_some {input : Input} {moved : Process × List Occurrence}
    (h : some moved = some (p', os)) (hstep : Step r p input moved.2 moved.1) :
    Step r p input os p' := by
  rw [Option.some.injEq] at h
  rw [h] at hstep
  exact hstep

/-- The step function does nothing else. -/
theorem step_of_next {input : Input} (h : p.next r input = some (p', os)) :
    Step r p input os p' := by
  unfold next at h
  split at h
  · cases h
    exact .started _
  · split at h
    · rename_i hphase
      cases h
      exact .recovered hphase
    · rename_i hphase
      exact step_of_some h (observe_step hphase (.inl ⟨_, rfl⟩) fun _ _ => .replayed hphase)
    · rename_i hphase
      exact step_of_some h (observe_step hphase (.inr ⟨_, rfl⟩) fun _ _ => .observed hphase)
    · rename_i hphase
      exact step_of_some h (commit_step hphase)
    · rename_i hphase
      exact step_of_some h (close_step hphase)
    · cases h
  · split at h
    · rename_i hphase
      exact step_of_some h (connect_step hphase)
    · cases h
  · split at h
    · rename_i hphase
      exact step_of_some h (acknowledge_step hphase)
    · rename_i hphase
      exact step_of_some h (receive_step hphase)
    · cases h
  · split at h
    · rename_i hphase
      exact step_of_some h (resnapshot_step hphase)
    · cases h

/-- Events, and nothing else, reach the projector. -/
theorem classify_event {bootId : String} {frame : Dict}
    (h : r.classify bootId frame = .ok (.event event)) :
    eqStr (frame.lookup "type") "event" ∧ project r.sourceInstanceId frame bootId = .ok event := by
  unfold Resident.classify at h
  split at h
  · cases h
  split at h
  · split at h
    · cases h
    split at h
    · split at h <;> cases h
    · cases h
  split at h
  · cases h
  rename_i hevent
  split at h
  · cases h
  rename_i hproject
  cases h
  exact ⟨by simpa using hevent, hproject⟩

/-- The receipt plane makes submissions only. -/
theorem observe_seen {s producer : ProducerState} {returns : Bool} {error : Option CmuxError}
    (h : r.observe s event returns = (error, producer, os)) {o : Occurrence} (ho : o ∈ os) :
    ∃ receipt, o = .submitted receipt returns := by
  unfold Resident.observe at h
  split at h
  · cases h
    cases ho
  split at h
  · cases h
    cases ho
  · cases h
    cases ho
  · split at h
    · rename_i hreturns
      cases h
      exact ⟨_, by rw [hreturns]; exact List.mem_singleton.mp ho⟩
    · rename_i hraises
      cases h
      rw [Bool.not_eq_true] at hraises
      exact ⟨_, by rw [hraises]; exact List.mem_singleton.mp ho⟩

end Process

theorem sampleSource_named : "cmux-1" ≠ "" := by decide

/-- A resident without a receipt plane. -/
def bareResident : Resident := ⟨"cmux-1", none, sampleSource_named⟩

def sampleProcess (tally : Tally) (position : Position) (outbox : Outbox) : Process :=
  { outbox, phase := .running tally position }

def sampleFrame (seq : Nat) (name : String) (payload : Dict) : Dict :=
  [("type", .str "event"), ("protocol", .str "cmux-events"), ("version", .int 1),
    ("boot_id", .str "boot-1"), ("seq", .int seq), ("id", .str (sampleEventId seq)),
    ("name", .str name), ("occurred_at", .str "2026-01-01T00:30:00Z"),
    ("workspace_id", .str "workspace-1"), ("payload", .obj payload)]

def sampleAckFrame (replayCount latestSeq : Nat) (gap : Bool) : Dict :=
  [("type", .str "ack"), ("protocol", .str "cmux-events"), ("version", .int 1),
    ("boot_id", .str "boot-1"), ("replay_count", .int replayCount),
    ("resume", .obj [("oldest_seq", .int 0), ("latest_seq", .int latestSeq),
      ("next_seq", .int (latestSeq + 1)), ("gap", .bool gap)])]

/-- A payload that the projector keeps as it is, or of which it keeps the marker. -/
structure SamplePayload (payload kept : Dict) : Prop where
  safe : safePayload (some (.obj payload)) = .ok kept
  ordered : sortKeys (.obj kept) = .obj kept
  readable : Readable (.obj kept)

theorem samplePayload_empty : SamplePayload [] [] :=
  ⟨rfl, by simp [sortKeys, sortFields], by simp [Readable, ReadableFields]⟩

theorem samplePayload_session : SamplePayload [("session_id", .str "session-1")]
    [("session_id", .str "session-1")] :=
  ⟨by rfl, by simp [sortKeys, sortFields], by simp [Readable, ReadableFields]⟩

theorem samplePayload_token : SamplePayload [("message_preview", .str sampleToken)]
    [("message_preview", .str sampleToken)] := by
  refine ⟨?_, by simp [sortKeys, sortFields], by simp [Readable, ReadableFields]⟩
  have hmarker : markerText (.short ⟨"delivery-1", "binding-1", sampleMarker.signature⟩) =
      .ok sampleToken := by decide +kernel
  simp [safePayload, extract_sampleToken, hmarker, safePayloadKeys]

section Samples

variable [Host] {seq : Nat} {name : String} {payload kept : Dict}

omit [Host] in
theorem sampleEventId_ne (seq : Nat) : sampleEventId seq ≠ "" := by
  intro h
  have hlist := congrArg String.toList h
  simp [sampleEventId] at hlist

theorem project_sampleFrame (h : SamplePayload payload kept) (hname : name ≠ "") :
    project "cmux-1" (sampleFrame seq name payload) "boot-1" =
      .ok (sampleEvent seq name kept) := by
  have hpayload : safePayload ((sampleFrame seq name payload).lookup "payload") = .ok kept := h.safe
  have hsorted : sortKeys (sampleJson seq name kept) = sampleJson seq name kept := by
    refine sortKeys_obj_of_sorted ?_ ?_
    · simp
    · simp [sortKeys]
      simpa [sortKeys] using h.ordered
  have hdumps : dumps (sampleJson seq name kept) =
      String.ofList (render (sampleJson seq name kept)) := by
    rw [dumps, hsorted]
  have hseq : ¬ ((seq : Int) < 0) := by omega
  unfold project
  rw [hpayload]
  simp only [sampleFrame, List.lookup_cons, List.lookup_nil, eqStr, eqInt, protocol, protocolVersion]
  simp [hname, hseq, sampleEventId_ne, sampleEvent, Cmux.get]
  exact hdumps

theorem classify_sampleFrame {r : Resident} (hsource : r.sourceInstanceId = "cmux-1")
    (h : SamplePayload payload kept) (hname : name ≠ "") :
    r.classify "boot-1" (sampleFrame seq name payload) =
      .ok (.event (sampleEvent seq name kept)) := by
  unfold Resident.classify
  rw [hsource, project_sampleFrame h hname]
  simp [sampleFrame, eqStr]

theorem parse_sampleAckFrame (replayCount latestSeq : Nat) (gap : Bool) :
    StreamAck.parse (sampleAckFrame replayCount latestSeq gap) =
      .ok ⟨"boot-1", replayCount, ⟨none, 0, latestSeq, latestSeq + 1, gap⟩⟩ := by
  have hcount : ¬ ((replayCount : Int) < 0) := by omega
  have hresume : ¬ (min (0 : Int) (min (latestSeq : Int) (latestSeq + 1)) < 0) := by omega
  have hparse : ResumeMetadata.parse [("oldest_seq", .int 0), ("latest_seq", .int latestSeq),
      ("next_seq", .int (latestSeq + 1)), ("gap", .bool gap)] =
        .ok ⟨none, 0, latestSeq, latestSeq + 1, gap⟩ := by
    unfold ResumeMetadata.parse
    exact if_neg hresume
  unfold StreamAck.parse
  simp [sampleAckFrame, List.lookup_cons, eqStr, eqInt, protocol, protocolVersion, hcount, hparse]

omit [Host] in
theorem validateEvent_sampleEvent (h : SamplePayload payload kept) (hname : name ≠ "") :
    Outbox.validateEvent (sampleEvent seq name kept) = .ok () := by
  unfold Outbox.validateEvent
  rw [loads_sampleEvent seq name h.readable]
  simp [sampleEvent, sampleEventId_ne, hname, sampleJson]

section Steps

variable {r : Resident} {p : Process} {tally : Tally} {session : Session}

theorem next_sampleFrame (hsource : r.sourceInstanceId = "cmux-1")
    (h : SamplePayload payload kept) (hname : name ≠ "")
    (hphase : p.phase = .running tally (.reading session))
    (hboot : session.ack.bootId = "boot-1") :
    p.next r (.frame (.ok (some (sampleFrame seq name payload)))) =
      some (p.moveTo tally (.observing session (sampleEvent seq name kept)), []) := by
  unfold Process.next Process.receive
  simp only [hphase, hboot, classify_sampleFrame hsource h hname]

omit [Host] in
theorem commitEvent_sampleEvent (seq : Nat) (name : String) {o : Outbox} {permit : Bool}
    (h : SamplePayload payload kept) (hname : name ≠ "") (hseq : seq < 2 ^ 63)
    (hunseen : ∀ row ∈ o.rows, row.cursor ≠ (sampleEvent seq name kept).cursor ∧
      row.sourceEventId ≠ sampleEventId seq)
    (hadmits : Outbox.admitsUnseen (o.cursor "cmux-1") (sampleEvent seq name kept) permit =
      .ok ()) :
    o.commitEvent (sampleEvent seq name kept) permit =
      .ok (.inserted, o.insertEvent (sampleEvent seq name kept)) := by
  have hsmall : ¬ (sampleEvent seq name kept).seq ≥ 2 ^ 63 := by
    simp only [sampleEvent]
    omega
  have hfind : o.rows.find? (·.cursor = (sampleEvent seq name kept).cursor) = none := by
    rw [List.find?_eq_none]
    intro row hrow
    simpa using (hunseen row hrow).1
  have hfresh : ¬ o.rows.any fun row =>
      row.sourceInstanceId = (sampleEvent seq name kept).sourceInstanceId ∧
        row.sourceEventId = (sampleEvent seq name kept).sourceEventId := by
    rw [List.any_eq_true]
    rintro ⟨row, hrow, hsame⟩
    exact (hunseen row hrow).2 (by simpa [sampleEvent] using (of_decide_eq_true hsame).2)
  unfold Outbox.commitEvent
  rw [validateEvent_sampleEvent h hname]
  dsimp only
  rw [if_neg hsmall, hfind]
  dsimp only
  rw [if_neg hfresh, show (sampleEvent seq name kept).sourceInstanceId = "cmux-1" from rfl, hadmits]

omit [Host] in
theorem commitEvent_known (seq : Nat) (name : String) {o : Outbox} {permit : Bool}
    (h : SamplePayload payload kept) (hname : name ≠ "") (hseq : seq < 2 ^ 63)
    (hfind : o.rows.find? (·.cursor = (sampleEvent seq name kept).cursor) =
      some (sampleEvent seq name kept)) :
    o.commitEvent (sampleEvent seq name kept) permit = .ok (.duplicate, o) := by
  have hsmall : ¬ (sampleEvent seq name kept).seq ≥ 2 ^ 63 := by
    simp only [sampleEvent]
    omega
  unfold Outbox.commitEvent
  rw [validateEvent_sampleEvent h hname]
  dsimp only
  rw [if_neg hsmall, hfind]
  exact if_pos (by simp [Outbox.sameEvent])

theorem next_sampleEvent (seq : Nat) (name : String) {returns : Bool}
    (h : SamplePayload payload kept) (hname : name ≠ "") (hseq : seq < 2 ^ 63)
    (hphase : p.phase = .running tally (.committing session (sampleEvent seq name kept)))
    (hunseen : ∀ row ∈ p.outbox.rows, row.cursor ≠ (sampleEvent seq name kept).cursor ∧
      row.sourceEventId ≠ sampleEventId seq)
    (hadmits : Outbox.admitsUnseen (p.outbox.cursor "cmux-1") (sampleEvent seq name kept)
      session.gap = .ok ()) :
    p.next r (.proceed returns) = some
      ({ p with
        outbox := p.outbox.insertEvent (sampleEvent seq name kept)
        phase := .running
          (Process.account (tally.count .inserted) session (sampleEvent seq name kept)).1
          (Process.account (tally.count .inserted) session (sampleEvent seq name kept)).2 },
        [.committed (sampleEvent seq name kept) .inserted]) := by
  unfold Process.next Process.commit
  simp only [hphase, commitEvent_sampleEvent seq name h hname hseq hunseen hadmits]

end Steps

end Samples

end Yatagarasu.Cmux
