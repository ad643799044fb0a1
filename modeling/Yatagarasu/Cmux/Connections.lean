import Mathlib.Data.List.Basic
import Yatagarasu.Cmux.Commands
import Yatagarasu.Library.Transition

/-! A call of the client leaves the descriptors as it found them, however it ends. Only a stream
connection outlives the call that opened it. -/

namespace Yatagarasu.Cmux

open Transition World

/-- The descriptor of a socket is open. -/
def Sockets.Open (s : Sockets) (sock : Nat) : Prop := ∃ k, s.socks[sock]? = some k ∧ k.Open

/-- The socket of a stream connection is open with its reader, and any other one is not. -/
structure Placed (held : List Nat) (s : Sockets) (sock : Nat) : Prop where
  stream : sock ∈ held → ∃ k, s.socks[sock]? = some k ∧ k.closed = false ∧ k.readers = 1
  gone : sock ∉ held → ¬ s.Open sock

/-- Nothing is open but these stream connections. -/
def OnlyStreams (held : List Nat) (s : Sockets) : Prop := ∀ sock, Placed held s sock

/-- One more socket is open, with this many readers. -/
structure Holding (held : List Nat) (sock readers : Nat) (s : Sockets) : Prop where
  own : ∃ k, s.socks[sock]? = some k ∧ k.closed = false ∧ k.readers = readers
  fresh : sock ∉ held
  others : ∀ other, other ≠ sock → Placed held s other

section Changes

variable {s : Sockets} {held : List Nat} {sock other readers : Nat} {f : Sock → Sock}

theorem modify_own {k : Sock} (h : s.socks[sock]? = some k) :
    (s.modify sock f).socks[sock]? = some (f k) := by
  unfold Sockets.modify
  dsimp only
  rw [List.getElem?_modify_eq, h]
  rfl

theorem modify_other (h : other ≠ sock) :
    (s.modify sock f).socks[other]? = s.socks[other]? :=
  List.getElem?_modify_ne f s.socks (Ne.symm h)

theorem Placed.of_same {s' : Sockets} (h : Placed held s other)
    (hsame : s'.socks[other]? = s.socks[other]?) : Placed held s' other := by
  refine ⟨fun hmem => ?_, fun hmem => ?_⟩
  · rw [hsame]
    exact h.stream hmem
  · rintro ⟨k, hk, hopen⟩
    exact h.gone hmem ⟨k, hsame.symm.trans hk, hopen⟩

theorem Holding.modify {readers' : Nat} (h : Holding held sock readers s)
    (hclosed : ∀ k, (f k).closed = k.closed)
    (hreaders : ∀ k, k.readers = readers → (f k).readers = readers') :
    Holding held sock readers' (s.modify sock f) := by
  obtain ⟨k, hk, hopen, hcount⟩ := h.own
  refine ⟨⟨f k, modify_own hk, (hclosed k).trans hopen, hreaders k hcount⟩, h.fresh, ?_⟩
  intro other hne
  exact (h.others other hne).of_same (modify_other hne)

theorem Holding.transfer (h : Holding held sock readers s) (t : Transfer) :
    Holding held sock readers (s.transfer sock t) :=
  h.modify (fun _ => rfl) fun _ hcount => hcount

/-- A socket without a reader is gone when it is closed. -/
theorem Holding.close (h : Holding held sock 0 s) :
    OnlyStreams held (s.modify sock fun k => { k with closed := true }) := by
  obtain ⟨k, hk, -, hcount⟩ := h.own
  intro other
  by_cases hne : other = sock
  · subst hne
    refine ⟨fun hmem => absurd hmem h.fresh, fun _ => ?_⟩
    rintro ⟨k', hk', hopen⟩
    rw [modify_own hk] at hk'
    cases hk'
    rcases hopen with hclosed | hreaders
    · cases hclosed
    · dsimp only at hreaders
      omega
  · exact (h.others other hne).of_same (modify_other hne)

/-- A new socket is one more. -/
theorem OnlyStreams.socket (h : OnlyStreams held s) :
    Holding held s.socks.length 0 { s with socks := s.socks ++ [{}] } := by
  have hnone : s.socks[s.socks.length]? = none := by simp
  refine ⟨⟨{}, by simp, rfl, rfl⟩, fun hmem => ?_, ?_⟩
  · obtain ⟨k, hk, -⟩ := (h s.socks.length).stream hmem
    rw [hnone] at hk
    cases hk
  intro other hne
  apply (h other).of_same
  dsimp only
  by_cases hlt : other < s.socks.length
  · rw [List.getElem?_append_left hlt]
  · have hlarge : s.socks.length + 1 ≤ other := by omega
    rw [List.getElem?_eq_none (by simpa using hlarge), List.getElem?_eq_none (by omega)]

/-- What passes on a connection opens and closes nothing. -/
theorem OnlyStreams.transfer (h : OnlyStreams held s) (t : Transfer) :
    OnlyStreams held (s.transfer sock t) := by
  intro other
  by_cases hne : other = sock
  · subst hne
    refine ⟨fun hmem => ?_, fun hmem => ?_⟩
    · obtain ⟨k, hk, hopen⟩ := (h other).stream hmem
      exact ⟨_, modify_own hk, hopen⟩
    · rintro ⟨k', hk', hopen⟩
      cases hk : s.socks[other]? with
      | none =>
        have hlt : s.socks.length ≤ other := List.getElem?_eq_none_iff.mp hk
        have hnone : (s.transfer other t).socks[other]? = none := by
          simpa [Sockets.transfer, Sockets.modify] using hlt
        rw [hnone] at hk'
        cases hk'
      | some k =>
        cases (modify_own hk).symm.trans hk'
        exact (h other).gone hmem ⟨k, hk, hopen⟩
  · exact (h other).of_same (modify_other hne)

/-- An open socket with its reader is a stream connection more. -/
theorem Holding.stream (h : Holding held sock 1 s) : OnlyStreams (sock :: held) s := by
  intro other
  by_cases hne : other = sock
  · subst hne
    exact ⟨fun _ => h.own, fun hmem => absurd List.mem_cons_self hmem⟩
  · refine ⟨fun hmem => (h.others other hne).stream ?_, fun hmem => (h.others other hne).gone ?_⟩
    · exact (List.mem_cons.mp hmem).resolve_left hne
    · exact fun hheld => hmem (List.mem_cons_of_mem _ hheld)

theorem OnlyStreams.stream (h : OnlyStreams held s) (hnodup : held.Nodup) (hmem : sock ∈ held) :
    Holding (held.erase sock) sock 1 s := by
  refine ⟨(h sock).stream hmem, hnodup.not_mem_erase, fun other hne => ?_⟩
  refine ⟨fun hother => (h other).stream (List.mem_of_mem_erase hother), fun hother => ?_⟩
  exact (h other).gone fun hheld => hother ((List.mem_erase_of_ne hne).mpr hheld)

end Changes

/-- The rules are about the sockets of one client. -/
abbrev Leaves {α : Type} (P : Sockets → Prop) (x : SocketScript α) (Q : α → Sockets → Prop)
    (E : Sockets → Prop) : Prop :=
  Sockets.world.Triple (fun _ _ => True) P x Q E

section Calls

variable {P E : Sockets → Prop} {held : List Nat} {sock readers : Nat}
  {client : SocketClient}

theorem leaves_openSocket : Leaves (OnlyStreams held) openSocket
    (fun sock => Holding held sock 0) (OnlyStreams held) :=
  triple_openSocket (fun _ hs => ⟨trivial, hs.socket⟩) fun _ hs => ⟨trivial, hs⟩

theorem leaves_makefile : Leaves (Holding held sock readers) (perform (.makefile sock))
    (fun _ => Holding held sock (readers + 1)) (Holding held sock readers) := by
  refine triple_perform fun s reply s' hs hserves => ⟨trivial, ?_⟩
  cases hserves with
  | makefile => exact hs.modify (fun _ => rfl) fun k hcount => by rw [← hcount]
  | fail => exact hs

theorem leaves_closeReader : Leaves (Holding held sock (readers + 1)) (perform (.closeReader sock))
    (fun _ => Holding held sock readers) E := by
  refine triple_perform fun s reply s' hs hserves => ⟨trivial, ?_⟩
  cases hserves with
  | closeReader =>
    refine hs.modify (fun _ => rfl) fun k hcount => ?_
    dsimp only
    omega
  | fail hmay => exact hmay.elim

theorem leaves_close : Leaves (Holding held sock 0) (perform (.close sock))
    (fun _ => OnlyStreams held) (OnlyStreams held) := by
  refine triple_perform fun s reply s' hs hserves => ⟨trivial, ?_⟩
  cases hserves with
  | close hreply =>
    rcases hreply with rfl | ⟨error, rfl⟩
    · exact hs.close
    · exact hs.close
  | fail hmay => exact hmay.elim

theorem leaves_settimeout {seconds : Option Timestamp} (hvalid : TimeoutValid seconds) :
    Leaves P (perform (.settimeout sock seconds)) (fun _ => P) E := by
  refine triple_perform fun s reply s' hs hserves => ⟨trivial, ?_⟩
  cases hserves with
  | settimeout => exact hs
  | refuseTimeout hinvalid => exact absurd hvalid hinvalid
  | fail hmay => exact hmay.elim

theorem leaves_sendall {payload : List UInt8} :
    Leaves (Holding held sock readers) (perform (.sendall sock payload))
      (fun _ => Holding held sock readers) (Holding held sock readers) := by
  refine triple_perform fun s reply s' hs hserves => ⟨trivial, ?_⟩
  cases hserves with
  | sendall hreply =>
    rcases hreply with rfl | ⟨error, rfl⟩
    · exact hs.transfer _
    · exact hs.transfer _
  | fail hmay => exact hmay.elim

theorem leaves_readLine {limit : Nat} : Leaves (Holding held sock readers) (readLine sock limit)
    (fun _ => Holding held sock readers) (Holding held sock readers) :=
  triple_readLine (fun _ _ hs => ⟨trivial, hs.transfer _⟩) fun _ hs => ⟨trivial, hs⟩

theorem leaves_again {α : Type} {res : Except CmuxError α} :
    Leaves P (Raising.again res : SocketScript α) (fun _ => P) P := by
  cases res with
  | ok a => exact triple_pure fun _ hs => hs
  | error e => exact triple_throw fun _ hs => hs

theorem leaves_readJson : Leaves (Holding held sock readers) (client.readJson sock)
    (fun _ => Holding held sock readers) (Holding held sock readers) :=
  triple_bind leaves_readLine fun _ => leaves_again

theorem leaves_authenticate : Leaves (Holding held sock readers) (client.authenticate sock)
    (fun _ => Holding held sock readers) (Holding held sock readers) := by
  unfold SocketClient.authenticate
  cases client.password with
  | none => exact triple_pure fun _ hs => hs
  | some password =>
    refine triple_bind leaves_sendall fun _ => triple_bind leaves_readJson fun response => ?_
    apply triple_ite
    · intro _
      exact triple_throw fun _ hs => hs
    · intro _
      exact triple_pure fun _ hs => hs

/-- A reader is closed again, whatever its block does. -/
theorem leaves_withReader {α : Type} {body : SocketScript α}
    (hbody : Leaves (Holding held sock (readers + 1)) body
      (fun _ => Holding held sock (readers + 1)) (Holding held sock (readers + 1))) :
    Leaves (Holding held sock readers) (withReader sock body) (fun _ => Holding held sock readers)
      (Holding held sock readers) := by
  refine triple_bind leaves_makefile fun _ => ?_
  exact triple_andFinally hbody (fun _ => leaves_closeReader) leaves_closeReader

theorem leaves_connect (hvalid : TimeoutValid (some client.connectTimeout)) :
    Leaves (OnlyStreams held) client.connect (fun sock => Holding held sock 0)
      (OnlyStreams held) := by
  refine triple_bind leaves_openSocket fun sock => ?_
  refine triple_bind (leaves_settimeout hvalid) fun _ => ?_
  have hconnect : Leaves (Holding held sock 0) (perform (.connect sock client.socketPath))
      (fun _ => Holding held sock 0) (Holding held sock 0) := by
    refine triple_perform fun s reply s' hs hserves => ⟨trivial, ?_⟩
    cases hserves with
    | connect => exact hs
    | fail => exact hs
  exact triple_bind (triple_onError hconnect leaves_close) fun _ => triple_pure fun _ hs => hs

theorem leaves_dialogue {value : Dict} : Leaves (Holding held sock readers)
    (client.dialogue sock value) (fun _ => Holding held sock readers)
    (Holding held sock readers) := by
  apply leaves_withReader
  refine triple_bind leaves_authenticate fun _ => ?_
  exact triple_bind leaves_sendall fun _ => leaves_readJson

theorem leaves_call (hvalid : TimeoutValid (some client.connectTimeout)) (method : String)
    (params : Dict) : Leaves (OnlyStreams held) (client.call method params)
      (fun _ => OnlyStreams held) (OnlyStreams held) := by
  have hnext : Leaves (OnlyStreams held) nextRequestId (fun _ => OnlyStreams held)
      (OnlyStreams held) :=
    triple_nextRequestId fun _ hs => ⟨trivial, fun sock => (hs sock).of_same rfl⟩
  refine triple_bind hnext fun n => triple_bind (leaves_connect hvalid) fun sock => ?_
  have hdialogue : Leaves (Holding held sock 0)
      ((client.dialogue sock (requestObject (commandId n) method params)).andFinally
        (perform (.close sock))) (fun _ => OnlyStreams held) (OnlyStreams held) :=
    triple_andFinally leaves_dialogue (fun _ => leaves_close) leaves_close
  exact triple_bind hdialogue fun _ => leaves_again

theorem leaves_openStream (hvalid : TimeoutValid (some client.connectTimeout))
    (afterSeq : Option Int) : Leaves (OnlyStreams held) (client.openStream afterSeq)
      (fun sock => Holding held sock 1) (OnlyStreams held) := by
  refine triple_bind (leaves_connect hvalid) fun sock => ?_
  have hasked : Leaves (Holding held sock 0)
      (withReader sock do
        client.authenticate sock
        writeJson sock (SocketClient.streamRequest afterSeq))
      (fun _ => Holding held sock 0) (Holding held sock 0) := by
    apply leaves_withReader
    exact triple_bind leaves_authenticate fun _ => leaves_sendall
  refine triple_bind (triple_onError (triple_bind hasked fun _ => ?_) leaves_close) fun _ =>
    triple_pure fun _ hs => hs
  exact triple_bind (leaves_settimeout trivial) fun _ => leaves_makefile

theorem leaves_snapshotsFrom (hvalid : TimeoutValid (some client.connectTimeout)) (index : Nat)
    (methods : List String) : Leaves (OnlyStreams held) (client.snapshotsFrom index methods)
      (fun _ => OnlyStreams held) (OnlyStreams held) := by
  induction methods generalizing index with
  | nil => exact triple_pure fun _ hs => hs
  | cons method methods ih =>
    refine triple_bind (leaves_connect hvalid) fun sock => ?_
    have hread : Leaves (Holding held sock 0)
        ((withReader sock do
          client.authenticate sock
          writeJson sock (requestObject (snapshotId index) method [])
          Raising.again (SocketClient.snapshotResult method (← client.readJson sock))).andFinally
            (perform (.close sock))) (fun _ => OnlyStreams held) (OnlyStreams held) := by
      refine triple_andFinally (leaves_withReader ?_) (fun _ => leaves_close) leaves_close
      refine triple_bind leaves_authenticate fun _ => triple_bind leaves_sendall fun _ => ?_
      exact triple_bind leaves_readJson fun _ => leaves_again
    refine triple_bind hread fun _ => triple_bind (ih (index + 1)) fun _ => ?_
    exact triple_pure fun _ hs => hs

theorem leaves_readFrame {sock : Nat} : Leaves (OnlyStreams held) (client.readFrame sock)
    (fun _ => OnlyStreams held) (OnlyStreams held) :=
  triple_readFrame (fun _ _ hs => ⟨trivial, hs.transfer _⟩) fun _ hs => ⟨trivial, hs⟩

theorem leaves_exitStream : Leaves (Holding held sock 1) (SocketClient.exitStream sock)
    (fun _ => OnlyStreams held) (OnlyStreams held) :=
  triple_bind leaves_closeReader fun _ => leaves_close

end Calls

/-- The sockets of a client, and its stream connections. -/
structure ClientState where
  sockets : Sockets := {}
  held : List Nat := []

/-- A command that was run to its end. -/
structure Commanded where
  method : String
  params : Dict
  log : List (SocketRequest × SocketReply)
  result : Except CmuxError PyJson.Json

/-- A call of a client ends. -/
abbrev Ended {α : Type} (x : SocketScript α) (s : Sockets) (log : List (SocketRequest × SocketReply))
    (res : Except CmuxError α) (s' : Sockets) : Prop :=
  x.Conducts Sockets.world.view Sockets.world.serves s log res s'

/-- One call of a client, or one on a stream connection that it has opened. -/
inductive SocketClient.Step (client : SocketClient) :
    ClientState → List Commanded → ClientState → Prop
  | call {s s' held method params log res} : Ended (client.call method params) s log res s' →
      Step client ⟨s, held⟩ [⟨method, params, log, res⟩] ⟨s', held⟩
  | snapshots {s s' held methods log res} : Ended (client.snapshots methods) s log res s' →
      Step client ⟨s, held⟩ [] ⟨s', held⟩
  | openStream {s s' held afterSeq log sock} :
      Ended (client.openStream afterSeq) s log (.ok sock) s' →
      Step client ⟨s, held⟩ [] ⟨s', sock :: held⟩
  | openFailed {s s' held afterSeq log error} :
      Ended (client.openStream afterSeq) s log (.error error) s' →
      Step client ⟨s, held⟩ [] ⟨s', held⟩
  | readFrame {s s' held sock log res} : sock ∈ held →
      Ended (client.readFrame sock) s log res s' →
      Step client ⟨s, held⟩ [] ⟨s', held⟩
  | exitStream {s s' held sock log res} : sock ∈ held →
      Ended (SocketClient.exitStream sock) s log res s' →
      Step client ⟨s, held⟩ [] ⟨s', held.erase sock⟩

section Runs

variable {client : SocketClient} {s s' : ClientState} {answers new : List Commanded}

theorem onlyStreams_step (hvalid : TimeoutValid (some client.connectTimeout))
    (h : client.Step s new s') (hs : OnlyStreams s.held s.sockets ∧ s.held.Nodup) :
    OnlyStreams s'.held s'.sockets ∧ s'.held.Nodup := by
  obtain ⟨honly, hnodup⟩ := hs
  cases h with
  | call hended => exact ⟨ends_either (leaves_call hvalid _ _) hended honly, hnodup⟩
  | snapshots hended =>
    exact ⟨ends_either (leaves_snapshotsFrom hvalid 0 _) hended honly, hnodup⟩
  | @openStream t t' held afterSeq log sock hended =>
    have hholding : Holding held sock 1 t' :=
      ends_of_triple (leaves_openStream hvalid afterSeq) hended honly
    exact ⟨hholding.stream, List.nodup_cons.mpr ⟨hholding.fresh, hnodup⟩⟩
  | openFailed hended =>
    exact ⟨ends_of_triple (leaves_openStream hvalid _) hended honly, hnodup⟩
  | @readFrame t t' held sock log res _ hended =>
    exact ⟨ends_either leaves_readFrame hended honly, hnodup⟩
  | exitStream hmem hended =>
    exact ⟨ends_either leaves_exitStream hended (honly.stream hnodup hmem), hnodup.erase _⟩

theorem onlyStreams_run (hvalid : TimeoutValid (some client.connectTimeout))
    (h : Runs client.Step {} answers s) : OnlyStreams s.held s.sockets ∧ s.held.Nodup := by
  refine h.invariant (J := fun _ s => OnlyStreams s.held s.sockets ∧ s.held.Nodup) ?_
    fun hs hstep => onlyStreams_step hvalid hstep hs
  refine ⟨fun sock => ⟨fun hmem => absurd hmem List.not_mem_nil, ?_⟩, List.nodup_nil⟩
  rintro - ⟨k, hk, -⟩
  simp at hk

end Runs

/-- However the calls of a client end, no descriptor stays open but that of a stream connection that
was not left yet, and each of these has its own. -/
theorem descriptors_released (client : SocketClient)
    (hvalid : TimeoutValid (some client.connectTimeout)) (answers : List Commanded)
    (s : ClientState) (h : Runs client.Step {} answers s) :
    s.held.Nodup ∧ ∀ sock, s.sockets.Open sock ↔ sock ∈ s.held := by
  obtain ⟨honly, hnodup⟩ := onlyStreams_run hvalid h
  refine ⟨hnodup, fun sock => ⟨fun hopen => ?_, fun hmem => ?_⟩⟩
  · by_contra hmem
    exact (honly sock).gone hmem hopen
  · obtain ⟨k, hk, hclosed, -⟩ := (honly sock).stream hmem
    exact ⟨k, hk, .inl hclosed⟩

def sampleClient : SocketClient := { socketPath := "/run/cmux.sock", loads := jsonLoads }

/-- Without a password a stream connection is opened in eight calls. -/
theorem ended_openStream (s : Sockets) (afterSeq : Option Int) : ∃ log s',
    Ended (sampleClient.openStream afterSeq) s log (.ok s.socks.length) s' := by
  refine Program.exists_conducts .socket ?_
  refine Program.exists_conducts (.settimeout (by decide)) ?_
  refine Program.exists_conducts .connect ?_
  refine Program.exists_conducts .makefile ?_
  refine Program.exists_conducts (.sendall (.inl rfl)) ?_
  refine Program.exists_conducts .closeReader ?_
  refine Program.exists_conducts (.settimeout trivial) ?_
  exact Program.exists_conducts .makefile ⟨[], _, rfl, rfl, rfl⟩

/-- The sample connection is open, and nothing else is. -/
theorem descriptors_released_sample :
    ∃ answers s, Runs sampleClient.Step {} answers s ∧ s.held = [0] ∧
      ∀ sock, s.sockets.Open sock ↔ sock ∈ s.held := by
  obtain ⟨log, s', hended⟩ := ended_openStream {} none
  have hruns : Runs sampleClient.Step {} [] ⟨s', [0]⟩ := Runs.single (.openStream hended)
  exact ⟨_, _, hruns, rfl, (descriptors_released sampleClient (by decide) _ _ hruns).2⟩

end Yatagarasu.Cmux
