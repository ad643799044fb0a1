import Yatagarasu.Cmux.Framing
import Yatagarasu.Cmux.Journal
import Yatagarasu.Library.Cleanup

/-! The socket client: one connection for every command and every snapshot, and one that the event
stream keeps. Each call to the operating system is a step of its own that may raise. -/

namespace Yatagarasu.Cmux

open PyJson Encodings Lines

/-- What passes on a connection, as far as the client hands it over or is handed it. -/
inductive Transfer
  | sent (payload : List UInt8)
  | received (raw : List UInt8)
  deriving DecidableEq

/-- A socket object. Its descriptor lives until the socket and every reader on it are closed. -/
structure Sock where
  closed : Bool := false
  readers : Nat := 0
  dialogue : List Transfer := []
  deriving DecidableEq

def Sock.Open (sock : Sock) : Prop := sock.closed = false ∨ 0 < sock.readers

/-- The sockets of one client, and the next of its request numbers. -/
structure Sockets where
  socks : List Sock := []
  requestIds : Nat := 1

inductive SocketRequest
  | nextRequestId
  | socket
  | settimeout (sock : Nat) (seconds : Option Timestamp)
  | connect (sock : Nat) (path : String)
  | makefile (sock : Nat)
  | sendall (sock : Nat) (payload : List UInt8)
  | readline (sock : Nat) (limit : Nat)
  | closeReader (sock : Nat)
  | close (sock : Nat)

inductive SocketReply
  | done
  | number (n : Nat)
  | opened (sock : Nat)
  | line (raw : List UInt8)
  | raised (error : CmuxError)

/-- The calls that may fail without an effect. -/
def SocketRequest.MayFail : SocketRequest → Prop
  | .socket | .connect _ _ | .makefile _ | .readline _ _ => True
  | .nextRequestId | .settimeout _ _ | .sendall _ _ | .closeReader _ | .close _ => False

/-- A time-out that `settimeout` takes. -/
def TimeoutValid : Option Timestamp → Prop
  | none => True
  | some (.finite seconds) => 0 ≤ seconds
  | some (.infinite _) | some .nan => False

instance (seconds : Option Timestamp) : Decidable (TimeoutValid seconds) := by
  unfold TimeoutValid
  split <;> infer_instance

namespace Sockets

def modify (s : Sockets) (sock : Nat) (f : Sock → Sock) : Sockets :=
  { s with socks := s.socks.modify sock f }

def transfer (s : Sockets) (sock : Nat) (transfer : Transfer) : Sockets :=
  s.modify sock fun k => { k with dialogue := k.dialogue ++ [transfer] }

/-- How a call may be answered. What `sendall` was given may be on its way also if it raises, and a
socket that is closed is closed also if `close` raises. -/
inductive Serves : SocketRequest → Sockets → SocketReply → Sockets → Prop
  | nextRequestId {s} :
      Serves .nextRequestId s (.number s.requestIds) { s with requestIds := s.requestIds + 1 }
  | socket {s} : Serves .socket s (.opened s.socks.length) { s with socks := s.socks ++ [{}] }
  | settimeout {s sock seconds} : TimeoutValid seconds → Serves (.settimeout sock seconds) s .done s
  | refuseTimeout {s sock seconds error} : ¬ TimeoutValid seconds →
      Serves (.settimeout sock seconds) s (.raised error) s
  | connect {s sock path} : Serves (.connect sock path) s .done s
  | makefile {s sock} : Serves (.makefile sock) s .done
      (s.modify sock fun k => { k with readers := k.readers + 1 })
  | sendall {s sock payload reply} : (reply = .done ∨ ∃ error, reply = .raised error) →
      Serves (.sendall sock payload) s reply (s.transfer sock (.sent payload))
  | readline {s sock limit} (stream : List UInt8) :
      Serves (.readline sock limit) s (.line (Lines.readline newline limit stream).1)
        (s.transfer sock (.received (Lines.readline newline limit stream).1))
  | closeReader {s sock} : Serves (.closeReader sock) s .done
      (s.modify sock fun k => { k with readers := k.readers - 1 })
  | close {s sock reply} : (reply = .done ∨ ∃ error, reply = .raised error) →
      Serves (.close sock) s reply (s.modify sock fun k => { k with closed := true })
  | fail {s request error} : request.MayFail → Serves request s (.raised error) s

/-- Nobody else touches the sockets of a client. -/
def world : World Unit SocketRequest SocketReply Sockets where
  view _ := ()
  serves := Serves
  drifts s s' := s' = s
  drifts_refl _ := rfl
  drifts_trans h h' := h'.trans h

end Sockets

abbrev SocketScript (α : Type) := Raising CmuxError Unit SocketRequest SocketReply α

/-- The constructor arguments of a `UnixCmuxSocketClient`, and its `json.loads`. -/
structure SocketClient where
  socketPath : String
  password : Option String := none
  connectTimeout : Timestamp := .finite 5
  loads : Loads

def maxCommandFrameBytes : Nat := 4 * 1024 * 1024

/-- A line on the wire: the compact text of an object. -/
def wireLine (value : Dict) : List UInt8 := asciiBytes (render (.obj value)) ++ [newline]

/-- `value is True` for a value that may be missing. -/
def isTrue : Option Json → Bool
  | some (.bool true) => true
  | _ => false

def requestObject (id method : String) (params : Dict) : Dict :=
  [("id", .str id), ("method", .str method), ("params", .obj params)]

def commandId (n : Nat) : String := "yatagarasu-command-" ++ toString n

def snapshotId (index : Nat) : String := "yatagarasu-snapshot-" ++ toString index

section Client

open Raising

/-- A call that has nothing to return. -/
def perform (request : SocketRequest) : SocketScript Unit := do
  match ← send request with
  | .raised error => throw error
  | .done | .number _ | .opened _ | .line _ => pure ()

def nextRequestId : SocketScript Nat := do
  match ← send .nextRequestId with
  | .number n => pure n
  | .raised error => throw error
  | .done | .opened _ | .line _ => throw (.python .typeError)

def openSocket : SocketScript Nat := do
  match ← send .socket with
  | .opened sock => pure sock
  | .raised error => throw error
  | .done | .number _ | .line _ => throw (.python .typeError)

def readLine (sock limit : Nat) : SocketScript (List UInt8) := do
  match ← send (.readline sock limit) with
  | .line raw => pure raw
  | .raised error => throw error
  | .done | .number _ | .opened _ => throw (.python .typeError)

def writeJson (sock : Nat) (value : Dict) : SocketScript Unit :=
  perform (.sendall sock (wireLine value))

/-- The object that a line of a command connection stands for. -/
def commandValue (loads : Loads) (raw : List UInt8) : Except CmuxError Dict :=
  if raw = [] ∨ raw.length > maxCommandFrameBytes + 1 ∨ raw.getLast? ≠ some newline then
    .error (.streamProtocol "CMUX command response is missing or oversized")
  else
    match loads raw with
    | .error .invalid => .error (.streamProtocol "CMUX command response is not valid JSON")
    | .error (.raised error) => .error (.python error)
    | .ok (.obj value) => .ok value
    | .ok _ => .error (.streamProtocol "CMUX command response must be a JSON object")

/-- `with sock.makefile("rb") as reader:` -/
def withReader {α : Type} (sock : Nat) (body : SocketScript α) : SocketScript α := do
  perform (.makefile sock)
  body.andFinally (perform (.closeReader sock))

namespace SocketClient

variable (client : SocketClient)

def readJson (sock : Nat) : SocketScript Dict := do
  again (commandValue client.loads (← readLine sock (maxCommandFrameBytes + 2)))

def connect : SocketScript Nat := do
  let sock ← openSocket
  perform (.settimeout sock (some client.connectTimeout))
  (perform (.connect sock client.socketPath)).onError (perform (.close sock))
  pure sock

def loginObject (password : String) : Dict :=
  requestObject "yatagarasu-auth" "auth.login" [("password", .str password)]

def authenticate (sock : Nat) : SocketScript Unit := do
  match client.password with
  | none => pure ()
  | some password =>
    writeJson sock (loginObject password)
    let response ← client.readJson sock
    if ¬ isTrue (response.lookup "ok") then
      throw (.streamProtocol "CMUX socket authentication failed")
    else pure ()

/-- One request on a connection that it has for itself, and the reply. -/
def dialogue (sock : Nat) (value : Dict) : SocketScript Dict :=
  withReader sock do
    client.authenticate sock
    writeJson sock value
    client.readJson sock

/-- The text that a failed command is reported with. -/
def errorText (response : Dict) : String :=
  match response.lookup "error" with
  | some (.obj error) => codeText (error.lookup "code")
  | _ => "unknown"

/-- The result of a command whose reply names it. -/
def commandResult (requestId method : String) (response : Dict) : Except CmuxError Json :=
  if ¬ eqStr (response.lookup "id") requestId then
    .error (.streamProtocol "CMUX command response id mismatch")
  else if ¬ isTrue (response.lookup "ok") then
    .error (.streamProtocol ("CMUX command failed: " ++ method ++ ": " ++ errorText response))
  else .ok (get response "result")

/-- Execute one RPC on a fresh command connection. -/
def call (method : String) (params : Dict) : SocketScript Json := do
  let requestId := commandId (← nextRequestId)
  let sock ← client.connect
  let response ← (client.dialogue sock (requestObject requestId method params)).andFinally
    (perform (.close sock))
  again (commandResult requestId method response)

def streamParams (afterSeq : Option Int) : Dict :=
  ("include_heartbeats", .bool true) ::
    (afterSeq.toList.map fun seq => ("after_seq", .int seq))

def streamRequest (afterSeq : Option Int) : Dict :=
  requestObject "yatagarasu-events" "events.stream" (streamParams afterSeq)

/-- The socket of a stream connection: authenticated, asked for events, and with a reader. -/
def openStream (afterSeq : Option Int) : SocketScript Nat := do
  let sock ← client.connect
  (do
    withReader sock do
      client.authenticate sock
      writeJson sock (streamRequest afterSeq)
    perform (.settimeout sock none)
    perform (.makefile sock)).onError (perform (.close sock))
  pure sock

/-- `StreamConnection.read_frame` -/
def readFrame (sock : Nat) : SocketScript (Option Dict) := do
  let raw ← readLine sock (maxFrameBytes + 2)
  if raw = [] then pure none
  else if raw.length > maxFrameBytes + 1 ∨ raw.getLast? ≠ some newline then throw oversizedError
  else return some (← again (frameValue client.loads raw))

/-- `StreamConnection.__exit__` -/
def exitStream (sock : Nat) : SocketScript Unit := do
  perform (.closeReader sock)
  perform (.close sock)

/-- The baseline that a reply is. -/
def snapshotResult (method : String) (response : Dict) : Except CmuxError SnapshotBaseline :=
  if ¬ isTrue (response.lookup "ok") then
    .error (.streamProtocol ("snapshot RPC failed: " ++ method))
  else .ok ⟨method, dumps (get response "result")⟩

/-- The snapshot RPCs from the given index on. -/
def snapshotsFrom : Nat → List String → SocketScript (List SnapshotBaseline)
  | _, [] => pure []
  | index, method :: methods => do
    let sock ← client.connect
    let baseline ← (withReader sock do
      client.authenticate sock
      writeJson sock (requestObject (snapshotId index) method [])
      again (snapshotResult method (← client.readJson sock))).andFinally (perform (.close sock))
    return baseline :: (← snapshotsFrom (index + 1) methods)

/-- Run literal snapshot RPCs on command connections, never the stream. -/
def snapshots (methods : List String) : SocketScript (List SnapshotBaseline) :=
  client.snapshotsFrom 0 methods

end SocketClient

def sendTextMethod : String := "surface.send_text"

def sendKeyMethod : String := "surface.send_key"

/-- Send literal text without changing focus. -/
def SocketClient.sendText (client : SocketClient) (surface text : String) : SocketScript Unit := do
  let _ ← client.call sendTextMethod [("surface_id", .str surface), ("text", .str text)]

/-- Press one submit key. -/
def SocketClient.submit (client : SocketClient) (surface key : String) : SocketScript Unit := do
  let _ ← client.call sendKeyMethod [("surface_id", .str surface), ("key", .str key)]

end Client

/-- A reply that raises leaves `E`, and any other one `Q`. -/
def Left (Q E : Sockets → Prop) : SocketReply → Sockets → Prop
  | .raised _, s => E s
  | _, s => Q s

section Rules

open World

variable {allowed : Sockets → Sockets → Prop} {P E : Sockets → Prop}

theorem sockets_stable (P : Sockets → Prop) : Sockets.world.Stable P := by
  rintro s s' hs rfl
  exact hs

theorem triple_perform {request : SocketRequest} {Q : Sockets → Prop}
    (h : ∀ s reply s', P s → Sockets.Serves request s reply s' →
      allowed s s' ∧ Left Q E reply s') :
    Sockets.world.Triple allowed P (perform request) (fun _ => Q) E := by
  have hsend : Sockets.world.Triple allowed P (Raising.send request : SocketScript SocketReply)
      (Left Q E) E :=
    triple_send (sockets_stable P) h
  refine triple_bind hsend fun reply => ?_
  cases reply with
  | raised error => exact triple_throw fun _ hs => hs
  | done => exact triple_pure fun _ hs => hs
  | number n => exact triple_pure fun _ hs => hs
  | opened sock => exact triple_pure fun _ hs => hs
  | line raw => exact triple_pure fun _ hs => hs

theorem triple_nextRequestId {Q : Nat → Sockets → Prop}
    (h : ∀ s, P s → allowed s { s with requestIds := s.requestIds + 1 } ∧
      Q s.requestIds { s with requestIds := s.requestIds + 1 }) :
    Sockets.world.Triple allowed P nextRequestId Q E := by
  have hsend : Sockets.world.Triple allowed P
      (Raising.send .nextRequestId : SocketScript SocketReply)
      (fun
        | .number n, s => Q n s
        | _, s => E s) E := by
    refine triple_send (sockets_stable P) fun s reply s' hs hserves => ?_
    cases hserves with
    | nextRequestId => exact h s hs
    | fail hmay => exact hmay.elim
  refine triple_bind hsend fun reply => ?_
  cases reply with
  | number n => exact triple_pure fun _ hs => hs
  | raised error => exact triple_throw fun _ hs => hs
  | done => exact triple_throw fun _ hs => hs
  | opened sock => exact triple_throw fun _ hs => hs
  | line raw => exact triple_throw fun _ hs => hs

theorem triple_openSocket {Q : Nat → Sockets → Prop}
    (h : ∀ s, P s → allowed s { s with socks := s.socks ++ [{}] } ∧
      Q s.socks.length { s with socks := s.socks ++ [{}] })
    (hfail : ∀ s, P s → allowed s s ∧ E s) :
    Sockets.world.Triple allowed P openSocket Q E := by
  have hsend : Sockets.world.Triple allowed P (Raising.send .socket : SocketScript SocketReply)
      (fun
        | .opened sock, s => Q sock s
        | _, s => E s) E := by
    refine triple_send (sockets_stable P) fun s reply s' hs hserves => ?_
    cases hserves with
    | socket => exact h s hs
    | fail => exact hfail s hs
  refine triple_bind hsend fun reply => ?_
  cases reply with
  | opened sock => exact triple_pure fun _ hs => hs
  | raised error => exact triple_throw fun _ hs => hs
  | done => exact triple_throw fun _ hs => hs
  | number n => exact triple_throw fun _ hs => hs
  | line raw => exact triple_throw fun _ hs => hs

theorem triple_readLine {sock limit : Nat} {Q : List UInt8 → Sockets → Prop}
    (h : ∀ s raw, P s → allowed s (s.transfer sock (.received raw)) ∧
      Q raw (s.transfer sock (.received raw)))
    (hfail : ∀ s, P s → allowed s s ∧ E s) :
    Sockets.world.Triple allowed P (readLine sock limit) Q E := by
  have hsend : Sockets.world.Triple allowed P
      (Raising.send (.readline sock limit) : SocketScript SocketReply)
      (fun
        | .line raw, s => Q raw s
        | _, s => E s) E := by
    refine triple_send (sockets_stable P) fun s reply s' hs hserves => ?_
    cases hserves with
    | readline => exact h _ _ hs
    | fail => exact hfail s hs
  refine triple_bind hsend fun reply => ?_
  cases reply with
  | line raw => exact triple_pure fun _ hs => hs
  | raised error => exact triple_throw fun _ hs => hs
  | done => exact triple_throw fun _ hs => hs
  | number n => exact triple_throw fun _ hs => hs
  | opened other => exact triple_throw fun _ hs => hs

/-- A frame is one line, whatever it stands for. -/
theorem triple_readFrame {client : SocketClient} {sock : Nat} {Q : Sockets → Prop}
    (h : ∀ s raw, P s → allowed s (s.transfer sock (.received raw)) ∧
      Q (s.transfer sock (.received raw)))
    (hfail : ∀ s, P s → allowed s s ∧ Q s) :
    Sockets.world.Triple allowed P (client.readFrame sock) (fun _ => Q) Q := by
  refine triple_bind (triple_readLine h hfail) fun raw => ?_
  apply triple_ite
  · intro _
    exact triple_pure fun _ hs => hs
  intro _
  apply triple_ite
  · intro _
    exact triple_throw fun _ hs => hs
  intro _
  cases frameValue client.loads raw with
  | error error => exact triple_throw fun _ hs => hs
  | ok frame => exact triple_pure fun _ hs => hs

end Rules

end Yatagarasu.Cmux
