import Yatagarasu.Cmux.Connections
import Yatagarasu.Library.History

/-! Every connection of the client carries one exchange: a login first if there is a password, then
one request, and after it only what the server sends. -/

namespace Yatagarasu.Cmux

open PyJson Encodings Lines Transition World

/-- The dialogues of the sockets, in the order in which they were opened. -/
def Sockets.dialogues (s : Sockets) : List (List Transfer) := s.socks.map Sock.dialogue

def Transfer.payload : Transfer → Option (List UInt8)
  | .sent payload => some payload
  | .received _ => none

/-- The payloads that the client has handed to a connection, in order. -/
def sent (d : List Transfer) : List (List UInt8) := d.filterMap Transfer.payload

/-- What a caller does with a client, or with a stream connection of it. -/
inductive SocketOperation
  | call (method : String) (params : Dict)
  | snapshots (methods : List String)
  | openStream (afterSeq : Option Int)
  | readFrame (sock : Nat)
  | exitStream (sock : Nat)

def SocketClient.operate (client : SocketClient) : SocketOperation → SocketScript Unit
  | .call method params => do
    let _ ← client.call method params
  | .snapshots methods => do
    let _ ← client.snapshots methods
  | .openStream afterSeq => do
    let _ ← client.openStream afterSeq
  | .readFrame sock => do
    let _ ← client.readFrame sock
  | .exitStream sock => exitStream sock

/-- What an operation asks of the server, if the next number is `n`. -/
inductive SocketOperation.Asks (n : Nat) : SocketOperation → Dict → Prop
  | call (method : String) (params : Dict) :
      Asks n (.call method params) (requestObject (commandId n) method params)
  | snapshots {methods : List String} {index : Nat} {method : String} :
      methods[index]? = some method →
      Asks n (.snapshots methods) (requestObject (snapshotId index) method [])
  | openStream (afterSeq : Option Int) :
      Asks n (.openStream afterSeq) (SocketClient.streamRequest afterSeq)

/-- What some operation asks. -/
def Asked (request : Dict) : Prop :=
  ∃ n, ∃ operation : SocketOperation, operation.Asks n request

namespace SocketClient

variable (client : SocketClient)

def logins : List Dict := client.password.toList.map loginObject

/-- A connection on which a request may be sent: no password is set, or the server took it. -/
inductive LoggedIn : List Transfer → Prop
  | unlocked : client.password = none → LoggedIn []
  | accepted {password : String} {raw : List UInt8} {reply : Dict} :
      client.password = some password → commandValue client.loads raw = .ok reply →
      isTrue (reply.lookup "ok") →
      LoggedIn [.sent (wireLine (loginObject password)), .received raw]

/-- What a dialogue begins with. -/
inductive Opens (asks : Dict → Prop) : List Transfer → Prop
  | silence : Opens asks []
  | login {password : String} : client.password = some password →
      Opens asks [.sent (wireLine (loginObject password))]
  | request {exchange : List Transfer} {request : Dict} : client.LoggedIn exchange →
      asks request → Opens asks (exchange ++ [.sent (wireLine request)])

/-- After its opening a dialogue is what the server sends. -/
def Dialogue (asks : Dict → Prop) (d : List Transfer) : Prop :=
  ∃ opening, ∃ raws : List (List UInt8),
    client.Opens asks opening ∧ d = opening ++ raws.map Transfer.received

end SocketClient

section Dialogues

variable {client : SocketClient} {asks : Dict → Prop} {d : List Transfer}

theorem dialogue_silence : client.Dialogue asks [] := ⟨[], [], .silence, rfl⟩

theorem dialogue_login {password : String} (h : client.password = some password) :
    client.Dialogue asks [.sent (wireLine (SocketClient.loginObject password))] :=
  ⟨_, [], .login h, rfl⟩

theorem dialogue_request {exchange : List Transfer} {request : Dict}
    (h : client.LoggedIn exchange) (hasks : asks request) :
    client.Dialogue asks (exchange ++ [.sent (wireLine request)]) :=
  ⟨_, [], .request h hasks, (List.append_nil _).symm⟩

theorem SocketClient.Dialogue.received (h : client.Dialogue asks d) (raw : List UInt8) :
    client.Dialogue asks (d ++ [.received raw]) := by
  obtain ⟨opening, raws, hopens, rfl⟩ := h
  exact ⟨opening, raws ++ [raw], hopens, by simp⟩

end Dialogues

/-- Nothing is handed over, and no number is taken. -/
def SocketRequest.Silent : SocketRequest → Prop
  | .settimeout _ _ | .connect _ _ | .makefile _ | .closeReader _ | .close _ => True
  | .nextRequestId | .socket | .sendall _ _ | .readline _ _ => False

section Changes

variable {s s' : Sockets} {base : List (List Transfer)} {d : List Transfer} {sock : Nat}
  {f : Sock → Sock}

theorem dialogues_modify {g : List Transfer → List Transfer}
    (h : ∀ k, (f k).dialogue = g k.dialogue) :
    (s.modify sock f).dialogues = s.dialogues.modify sock g := by
  unfold Sockets.dialogues Sockets.modify
  dsimp only
  induction s.socks generalizing sock with
  | nil => simp
  | cons k socks ih =>
    cases sock with
    | zero => simp [h]
    | succ sock => simp [ih]

theorem dialogues_unmodified (h : ∀ k, (f k).dialogue = k.dialogue) :
    (s.modify sock f).dialogues = s.dialogues := by
  rw [dialogues_modify (g := id) h]
  apply List.ext_getElem?
  intro other
  by_cases hother : sock = other <;> simp [hother]

theorem dialogues_silent {request : SocketRequest} {reply : SocketReply}
    (hsilent : request.Silent) (h : Sockets.Serves request s reply s') :
    s'.dialogues = s.dialogues ∧ s'.requestIds = s.requestIds := by
  cases h with
  | nextRequestId => exact hsilent.elim
  | socket => exact hsilent.elim
  | settimeout => exact ⟨rfl, rfl⟩
  | refuseTimeout => exact ⟨rfl, rfl⟩
  | connect => exact ⟨rfl, rfl⟩
  | makefile => exact ⟨dialogues_unmodified fun _ => rfl, rfl⟩
  | sendall => exact hsilent.elim
  | readline => exact hsilent.elim
  | closeReader => exact ⟨dialogues_unmodified fun _ => rfl, rfl⟩
  | close => exact ⟨dialogues_unmodified fun _ => rfl, rfl⟩
  | fail => exact ⟨rfl, rfl⟩

/-- What passes on the last socket is appended to its dialogue. -/
theorem dialogues_transfer_last (t : Transfer) (h : s.dialogues = base ++ [d]) :
    (s.transfer base.length t).dialogues = base ++ [d ++ [t]] := by
  have htransfer : (s.transfer base.length t).dialogues =
      s.dialogues.modify base.length (· ++ [t]) := dialogues_modify fun _ => rfl
  rw [htransfer, h]
  clear h htransfer
  induction base with
  | nil => rfl
  | cons other base ih => simp [ih]

end Changes

/-- Since then more was received on a connection, and nothing sent. -/
def Longer (d d' : List Transfer) : Prop :=
  ∃ raws : List (List UInt8), d' = d ++ raws.map Transfer.received

theorem Longer.refl (d : List Transfer) : Longer d d := ⟨[], (List.append_nil d).symm⟩

theorem Longer.received {d d' : List Transfer} (h : Longer d d') (raw : List UInt8) :
    Longer d (d' ++ [.received raw]) := by
  obtain ⟨raws, rfl⟩ := h
  exact ⟨raws ++ [raw], by simp⟩

theorem sent_received (raws : List (List UInt8)) : sent (raws.map Transfer.received) = [] := by
  rw [sent, List.filterMap_map]
  exact List.filterMap_eq_nil_iff.mpr fun _ _ => rfl

theorem Longer.sent {d d' : List Transfer} (h : Longer d d') : sent d' = sent d := by
  obtain ⟨raws, rfl⟩ := h
  rw [Cmux.sent, List.filterMap_append]
  exact (congrArg _ (sent_received raws)).trans (List.append_nil _)

theorem SocketClient.Dialogue.longer {client : SocketClient} {asks : Dict → Prop}
    {d d' : List Transfer} (h : client.Dialogue asks d) (hlonger : Longer d d') :
    client.Dialogue asks d' := by
  obtain ⟨opening, raws, hopens, rfl⟩ := h
  obtain ⟨more, rfl⟩ := hlonger
  exact ⟨opening, raws ++ more, hopens, by simp⟩

/-- What is known of the dialogues and of the next number. -/
abbrev Spoken := List (List Transfer) → Nat → Prop

/-- These dialogues, and no other. -/
def Spoken.Exactly (base : List (List Transfer)) (n : Nat) : Spoken := fun ds m => ds = base ∧ m = n

/-- The last dialogue is under way. -/
def Spoken.Speaking (base : List (List Transfer)) (d : List Transfer) (n : Nat) : Spoken :=
  Spoken.Exactly (base ++ [d]) n

namespace SocketClient

variable (client : SocketClient) (asks : Dict → Prop)

/-- Nothing more was sent on the old connections, and those that were added are sound. -/
structure Adds (since ds : List (List Transfer)) : Prop where
  kept : ∀ (i : Nat) (d : List Transfer), since[i]? = some d → ∃ d', ds[i]? = some d' ∧ Longer d d'
  added : ∀ (i : Nat) (d : List Transfer), since.length ≤ i → ds[i]? = some d →
    client.Dialogue asks d

/-- Only sound dialogues were added. -/
def Grown (base : List (List Transfer)) (n : Nat) : Spoken := fun ds m =>
  m = n ∧ ∃ new, ds = base ++ new ∧ ∀ d ∈ new, client.Dialogue asks d

/-- The rules are about the dialogues, and about what was added since the operation began. -/
abbrev Says {α : Type} (since : List (List Transfer)) (P : Spoken) (x : SocketScript α)
    (Q : α → Spoken) (E : Spoken) : Prop :=
  Sockets.world.Triple (fun _ s => client.Adds asks since s.dialogues)
    (fun s => P s.dialogues s.requestIds) x (fun a s => Q a s.dialogues s.requestIds)
    fun s => E s.dialogues s.requestIds

end SocketClient

section Calls

open Spoken

variable {client : SocketClient} {asks : Dict → Prop} {P E : Spoken} {sock n m : Nat}
  {since base ds : List (List Transfer)} {d : List Transfer} {s s' : Sockets}

theorem adds_refl : client.Adds asks base base := by
  refine ⟨fun i d hd => ⟨d, hd, .refl d⟩, fun i d hi hd => ?_⟩
  rw [List.getElem?_eq_none hi] at hd
  cases hd

theorem SocketClient.Adds.append {new : List (List Transfer)} (h : client.Adds asks since base)
    (hnew : ∀ d ∈ new, client.Dialogue asks d) : client.Adds asks since (base ++ new) := by
  refine ⟨fun i d hd => ?_, fun i d hi hd => ?_⟩
  · obtain ⟨d', hd', hlonger⟩ := h.kept i d hd
    obtain ⟨hlt, -⟩ := List.getElem?_eq_some_iff.mp hd'
    exact ⟨d', by rw [List.getElem?_append_left hlt, hd'], hlonger⟩
  · rcases Nat.lt_or_ge i base.length with hlt | hge
    · rw [List.getElem?_append_left hlt] at hd
      exact h.added i d hi hd
    · rw [List.getElem?_append_right hge] at hd
      exact hnew d (List.mem_of_getElem? hd)

/-- More is received on a connection, whether it is an old one or not. -/
theorem SocketClient.Adds.received (h : client.Adds asks since ds) (sock : Nat)
    (raw : List UInt8) : client.Adds asks since (ds.modify sock (· ++ [.received raw])) := by
  refine ⟨fun i d hd => ?_, fun i d hi hd => ?_⟩
  · obtain ⟨d', hd', hlonger⟩ := h.kept i d hd
    have hmodified : (ds.modify sock (· ++ [.received raw]))[i]? =
        some (if sock = i then d' ++ [.received raw] else d') := by
      rw [List.getElem?_modify, hd']
      rfl
    refine ⟨_, hmodified, ?_⟩
    split
    · exact hlonger.received raw
    · exact hlonger
  · rw [List.getElem?_modify] at hd
    obtain ⟨before, hbefore, rfl⟩ := Option.map_eq_some_iff.mp hd
    have hdialogue := h.added i before hi hbefore
    split
    · exact hdialogue.received raw
    · exact hdialogue

theorem grown_of_exactly (h : Exactly base n ds m) : client.Grown asks base n ds m :=
  ⟨h.2, [], by rw [h.1, List.append_nil], by simp⟩

theorem grown_of_speaking (hd : client.Dialogue asks d) (h : Speaking base d n ds m) :
    client.Grown asks base n ds m :=
  ⟨h.2, [d], h.1, by simpa using hd⟩

theorem SocketClient.Adds.grown (hbase : client.Adds asks since base)
    (h : client.Grown asks base n ds m) : client.Adds asks since ds := by
  obtain ⟨-, new, rfl, hnew⟩ := h
  exact hbase.append hnew

theorem SocketClient.Adds.speaking (hbase : client.Adds asks since base)
    (hd : client.Dialogue asks d) (h : Speaking base d n ds m) : client.Adds asks since ds :=
  hbase.grown (grown_of_speaking hd h)

theorem says_silent {request : SocketRequest} (hsilent : request.Silent)
    (hE : ∀ ds m, P ds m → E ds m) (hadds : ∀ ds m, E ds m → client.Adds asks since ds) :
    client.Says asks since P (perform request) (fun _ => P) E := by
  refine triple_perform fun s reply s' hs hserves => ?_
  obtain ⟨hdialogues, hids⟩ := dialogues_silent hsilent hserves
  have hs' : P s'.dialogues s'.requestIds := by rwa [hdialogues, hids]
  refine ⟨hadds _ _ (hE _ _ hs'), ?_⟩
  cases reply with
  | raised error => exact hE _ _ hs'
  | done => exact hs'
  | number n => exact hs'
  | opened sock => exact hs'
  | line raw => exact hs'

theorem says_again {α : Type} {res : Except CmuxError α} (hE : ∀ ds m, P ds m → E ds m) :
    client.Says asks since P (Raising.again res : SocketScript α)
      (fun a ds m => res = .ok a ∧ P ds m) E := by
  cases res with
  | ok a => exact triple_pure fun _ hs => ⟨rfl, hs⟩
  | error e => exact triple_throw fun _ hs => hE _ _ hs

theorem says_withReader {α : Type} {body : SocketScript α} {Q : α → Spoken}
    (hbody : client.Says asks since P body Q E) (hP : ∀ ds m, P ds m → E ds m)
    (hQ : ∀ a ds m, Q a ds m → E ds m) (hadds : ∀ ds m, E ds m → client.Adds asks since ds) :
    client.Says asks since P (withReader sock body) Q E := by
  refine triple_bind (says_silent trivial hP hadds) fun _ => ?_
  exact triple_andFinally hbody (fun a => says_silent trivial (hQ a) hadds)
    (says_silent trivial (fun _ _ h => h) hadds)

theorem says_closing {α : Type} {body : SocketScript α} {Q : α → Spoken}
    (hbody : client.Says asks since P body Q E) (hQ : ∀ a ds m, Q a ds m → E ds m)
    (hadds : ∀ ds m, E ds m → client.Adds asks since ds) :
    client.Says asks since P (body.andFinally (perform (.close sock))) Q E :=
  triple_andFinally hbody (fun a => says_silent trivial (hQ a) hadds)
    (says_silent trivial (fun _ _ h => h) hadds)

/-- The dialogue of a request that was answered. -/
def Replied (client : SocketClient) (request reply : Dict) (d : List Transfer) : Prop :=
  ∃ exchange raw, client.LoggedIn exchange ∧ commandValue client.loads raw = .ok reply ∧
    d = exchange ++ [.sent (wireLine request), .received raw]

theorem Replied.dialogue {request reply : Dict} (h : Replied client request reply d)
    (hasks : asks request) : client.Dialogue asks d := by
  obtain ⟨exchange, raw, hlogin, -, rfl⟩ := h
  simpa using (dialogue_request hlogin hasks).received raw

/-- A command that returned: the dialogue that it had. -/
def Fulfils (client : SocketClient) (number : Nat) (method : String) (params : Dict) (result : Json)
    (d : List Transfer) : Prop :=
  ∃ reply, Replied client (requestObject (commandId number) method params) reply d ∧
    SocketClient.commandResult (commandId number) method reply = .ok result

/-- The dialogue of a stream connection that no frame was read on. -/
def StreamOpened (client : SocketClient) (afterSeq : Option Int) (d : List Transfer) : Prop :=
  ∃ exchange, client.LoggedIn exchange ∧
    d = exchange ++ [.sent (wireLine (SocketClient.streamRequest afterSeq))]

theorem StreamOpened.dialogue {afterSeq : Option Int} (h : StreamOpened client afterSeq d)
    (hasks : asks (SocketClient.streamRequest afterSeq)) : client.Dialogue asks d := by
  obtain ⟨exchange, hlogin, rfl⟩ := h
  exact dialogue_request hlogin hasks

theorem Grown.trans (hd : client.Dialogue asks d) (h : client.Grown asks (base ++ [d]) n ds m) :
    client.Grown asks base n ds m := by
  obtain ⟨hm, new, rfl, hnew⟩ := h
  refine ⟨hm, d :: new, by simp, ?_⟩
  rw [List.forall_mem_cons]
  exact ⟨hd, hnew⟩

section Exchanges

variable (hbase : client.Adds asks since base)

include hbase

theorem says_writeJson {value : Dict}
    (hd : client.Dialogue asks (d ++ [.sent (wireLine value)])) :
    client.Says asks since (Speaking base d n) (writeJson base.length value)
      (fun _ => Speaking base (d ++ [.sent (wireLine value)]) n) (client.Grown asks base n) := by
  refine triple_perform fun s reply s' hs hserves => ?_
  cases hserves with
  | sendall hreply =>
    have hs' := dialogues_transfer_last (.sent (wireLine value)) hs.1
    refine ⟨hbase.speaking hd ⟨hs', hs.2⟩, ?_⟩
    rcases hreply with rfl | ⟨error, rfl⟩
    · exact ⟨hs', hs.2⟩
    · exact grown_of_speaking hd ⟨hs', hs.2⟩
  | fail hmay => exact hmay.elim

theorem says_readLine {limit : Nat} (hd : client.Dialogue asks d) :
    client.Says asks since (Speaking base d n) (readLine base.length limit)
      (fun raw => Speaking base (d ++ [.received raw]) n) (client.Grown asks base n) := by
  refine triple_readLine (fun s raw hs => ?_) fun s hs => ?_
  · have hs' := dialogues_transfer_last (.received raw) hs.1
    exact ⟨hbase.speaking (hd.received raw) ⟨hs', hs.2⟩, hs', hs.2⟩
  · exact ⟨hbase.speaking hd hs, grown_of_speaking hd hs⟩

theorem says_readJson (hd : client.Dialogue asks d) :
    client.Says asks since (Speaking base d n) (client.readJson base.length)
      (fun reply ds m => ∃ raw, commandValue client.loads raw = .ok reply ∧
        Speaking base (d ++ [.received raw]) n ds m) (client.Grown asks base n) := by
  refine triple_bind (says_readLine hbase hd) fun raw => ?_
  refine triple_post (says_again fun _ _ => grown_of_speaking (hd.received raw)) ?_
  rintro reply s ⟨hreply, hs⟩
  exact ⟨raw, hreply, hs⟩

theorem says_authenticate :
    client.Says asks since (Speaking base [] n) (client.authenticate base.length)
      (fun _ ds m => ∃ exchange, client.LoggedIn exchange ∧ Speaking base exchange n ds m)
      (client.Grown asks base n) := by
  unfold SocketClient.authenticate
  cases hpassword : client.password with
  | none => exact triple_pure fun _ hs => ⟨[], .unlocked hpassword, hs⟩
  | some password =>
    have hlogin : client.Dialogue asks [.sent (wireLine (SocketClient.loginObject password))] :=
      dialogue_login hpassword
    refine triple_bind (says_writeJson hbase hlogin) fun _ => ?_
    refine triple_bind (says_readJson hbase hlogin) fun reply => triple_exists fun raw =>
      triple_fact fun hreply => ?_
    apply triple_ite
    · intro _
      exact triple_throw fun _ hs => grown_of_speaking (hlogin.received raw) hs
    · intro hok
      exact triple_pure fun _ hs =>
        ⟨_, .accepted hpassword hreply (by simpa using hok), hs⟩

theorem says_connect : client.Says asks since (Exactly base n) client.connect
    (fun sock ds m => sock = base.length ∧ Speaking base [] n ds m)
    (client.Grown asks base n) := by
  have hsilence : ∀ ds m, Speaking base [] n ds m → client.Grown asks base n ds m :=
    fun _ _ => grown_of_speaking dialogue_silence
  have hopen : client.Says asks since (Exactly base n) openSocket
      (fun sock ds m => sock = base.length ∧ Speaking base [] n ds m)
      (client.Grown asks base n) := by
    refine triple_openSocket (fun s hs => ?_) fun s hs => ?_
    · have hlength : s.socks.length = base.length := by
        rw [← hs.1, Sockets.dialogues, List.length_map]
      have hnew : Sockets.dialogues { s with socks := s.socks ++ [{}] } = base ++ [[]] := by
        rw [← hs.1]
        simp [Sockets.dialogues]
      exact ⟨hbase.speaking dialogue_silence ⟨hnew, hs.2⟩, hlength, hnew, hs.2⟩
    · exact ⟨hbase.grown (grown_of_exactly hs), grown_of_exactly hs⟩
  refine triple_bind hopen fun sock => triple_fact ?_
  rintro rfl
  refine triple_bind (says_silent trivial hsilence fun _ _ => hbase.grown) fun _ => ?_
  refine triple_bind (triple_onError (says_silent trivial hsilence fun _ _ => hbase.grown)
    (says_silent trivial (fun _ _ h => h) fun _ _ => hbase.grown)) fun _ => ?_
  exact triple_pure fun _ hs => ⟨rfl, hs⟩

/-- The request follows the login, and the reply the request. -/
theorem says_request {request : Dict} (hasks : asks request) :
    client.Says asks since (Speaking base [] n)
      (do
        client.authenticate base.length
        writeJson base.length request
        client.readJson base.length)
      (fun reply ds m => ∃ d, Replied client request reply d ∧ Speaking base d n ds m)
      (client.Grown asks base n) := by
  refine triple_bind (says_authenticate hbase) fun _ => triple_exists fun exchange =>
    triple_fact fun hlogin => ?_
  have hrequest := dialogue_request hlogin hasks
  refine triple_bind (says_writeJson hbase hrequest) fun _ => ?_
  refine triple_post (says_readJson hbase hrequest) ?_
  rintro reply s ⟨raw, hreply, hs⟩
  exact ⟨_, ⟨exchange, raw, hlogin, hreply, rfl⟩, by simpa using hs⟩

theorem says_dialogue {request : Dict} (hasks : asks request) :
    client.Says asks since (Speaking base [] n) (client.dialogue base.length request)
      (fun reply ds m => ∃ d, Replied client request reply d ∧ Speaking base d n ds m)
      (client.Grown asks base n) := by
  refine says_withReader (says_request hbase hasks)
    (fun _ _ => grown_of_speaking dialogue_silence) ?_ fun _ _ => hbase.grown
  rintro reply ds m ⟨d, hd, hs⟩
  exact grown_of_speaking (hd.dialogue hasks) hs

theorem says_call {method : String} {params : Dict}
    (hasks : asks (requestObject (commandId n) method params)) :
    client.Says asks since (Exactly base n) (client.call method params)
      (fun result ds m => ∃ d, Fulfils client n method params result d ∧
        Speaking base d (n + 1) ds m) (client.Grown asks base (n + 1)) := by
  have hnext : client.Says asks since (Exactly base n) nextRequestId
      (fun number ds m => number = n ∧ Exactly base (n + 1) ds m)
      (client.Grown asks base (n + 1)) :=
    triple_nextRequestId fun s hs =>
      ⟨hbase.grown (grown_of_exactly hs), hs.2, hs.1, congrArg (· + 1) hs.2⟩
  refine triple_bind hnext fun number => triple_fact ?_
  rintro rfl
  refine triple_bind (says_connect hbase) fun sock => triple_fact ?_
  rintro rfl
  refine triple_bind (says_closing (says_dialogue hbase hasks) ?_ fun _ _ => hbase.grown)
    fun reply => triple_exists fun d => triple_fact fun hd => ?_
  · rintro reply ds m ⟨d, hd, hs⟩
    exact grown_of_speaking (hd.dialogue hasks) hs
  refine triple_post (says_again fun _ _ => grown_of_speaking (hd.dialogue hasks)) ?_
  rintro result s ⟨hresult, hs⟩
  exact ⟨d, ⟨reply, hd, hresult⟩, hs⟩

theorem says_openStream {afterSeq : Option Int}
    (hasks : asks (SocketClient.streamRequest afterSeq)) :
    client.Says asks since (Exactly base n) (client.openStream afterSeq)
      (fun sock ds m => sock = base.length ∧ ∃ d, StreamOpened client afterSeq d ∧
        Speaking base d n ds m)
      (client.Grown asks base n) := by
  refine triple_bind (says_connect hbase) fun sock => triple_fact ?_
  rintro rfl
  have hsound : ∀ ds m, (∃ d, StreamOpened client afterSeq d ∧ Speaking base d n ds m) →
      client.Grown asks base n ds m := by
    rintro ds m ⟨d, hd, hs⟩
    exact grown_of_speaking (hd.dialogue hasks) hs
  have hasked : client.Says asks since (Speaking base [] n)
      (withReader base.length do
        client.authenticate base.length
        writeJson base.length (SocketClient.streamRequest afterSeq))
      (fun _ ds m => ∃ d, StreamOpened client afterSeq d ∧ Speaking base d n ds m)
      (client.Grown asks base n) := by
    refine says_withReader ?_ (fun _ _ => grown_of_speaking dialogue_silence) (fun _ => hsound)
      fun _ _ => hbase.grown
    refine triple_bind (says_authenticate hbase) fun _ => triple_exists fun exchange =>
      triple_fact fun hlogin => ?_
    have hrequest := dialogue_request hlogin hasks
    refine triple_post (says_writeJson hbase hrequest) ?_
    rintro _ s hs
    exact ⟨_, ⟨exchange, hlogin, rfl⟩, hs⟩
  refine triple_bind (triple_onError (triple_bind hasked fun _ => ?_)
    (says_silent trivial (fun _ _ h => h) fun _ _ => hbase.grown)) fun _ =>
      triple_pure fun _ hs => ⟨rfl, hs⟩
  have hsettimeout : SocketRequest.Silent (.settimeout base.length none) := trivial
  have hmakefile : SocketRequest.Silent (.makefile base.length) := trivial
  exact triple_bind (says_silent hsettimeout hsound fun _ _ => hbase.grown) fun _ =>
    says_silent hmakefile hsound fun _ _ => hbase.grown

omit hbase in
theorem says_snapshotsFrom (index : Nat) (methods : List String)
    (hbase : client.Adds asks since base)
    (hasks : ∀ i method, methods[i]? = some method →
      asks (requestObject (snapshotId (index + i)) method [])) :
    client.Says asks since (Exactly base n) (client.snapshotsFrom index methods)
      (fun _ => client.Grown asks base n) (client.Grown asks base n) := by
  induction methods generalizing index base with
  | nil => exact triple_pure fun _ hs => grown_of_exactly hs
  | cons method methods ih =>
    refine triple_bind (says_connect hbase) fun sock => triple_fact ?_
    rintro rfl
    have hfirst : asks (requestObject (snapshotId index) method []) := hasks 0 method rfl
    have hsound : ∀ (_ : SnapshotBaseline) ds m,
        (∃ d, client.Dialogue asks d ∧ Speaking base d n ds m) →
          client.Grown asks base n ds m := by
      rintro _ ds m ⟨d, hd, hs⟩
      exact grown_of_speaking hd hs
    have hread : client.Says asks since (Speaking base [] n)
        ((withReader base.length do
          client.authenticate base.length
          writeJson base.length (requestObject (snapshotId index) method [])
          Raising.again (SocketClient.snapshotResult method
            (← client.readJson base.length))).andFinally (perform (.close base.length)))
        (fun _ ds m => ∃ d, client.Dialogue asks d ∧ Speaking base d n ds m)
        (client.Grown asks base n) := by
      refine says_closing (says_withReader ?_ (fun _ _ => grown_of_speaking dialogue_silence)
        hsound fun _ _ => hbase.grown) hsound fun _ _ => hbase.grown
      refine triple_bind (says_authenticate hbase) fun _ => triple_exists fun exchange =>
        triple_fact fun hlogin => ?_
      have hrequest := dialogue_request hlogin hfirst
      refine triple_bind (says_writeJson hbase hrequest) fun _ => ?_
      refine triple_bind (says_readJson hbase hrequest) fun reply => triple_exists fun raw =>
        triple_fact fun _ => ?_
      refine triple_post (says_again fun _ _ => grown_of_speaking (hrequest.received raw)) ?_
      rintro _ s ⟨-, hs⟩
      exact ⟨_, hrequest.received raw, hs⟩
    refine triple_bind hread fun _ => triple_exists fun d => triple_fact fun hd => ?_
    have hlonger : client.Adds asks since (base ++ [d]) :=
      hbase.append (List.forall_mem_singleton.mpr hd)
    have hnext : client.Says asks since (Exactly (base ++ [d]) n)
        (client.snapshotsFrom (index + 1) methods) (fun _ => client.Grown asks (base ++ [d]) n)
        (client.Grown asks (base ++ [d]) n) := by
      refine ih (index + 1) hlonger fun i method' hi => ?_
      rw [Nat.add_assoc, Nat.add_comm 1]
      exact hasks (i + 1) method' hi
    have hrest := triple_weaken hnext (fun _ _ => Grown.trans hd) fun _ => Grown.trans hd
    exact triple_bind hrest fun _ => triple_pure fun _ hs => hs

end Exchanges

end Calls

section Histories

open Spoken

variable {client : SocketClient}

/-- Nothing more was sent on the connections that were there when the operation was started, and on
those that it opened only what it asks. -/
def SocketClient.Speaks (client : SocketClient) (operation : SocketOperation) (t s : Sockets) :
    Prop :=
  client.Adds (operation.Asks t.requestIds) t.dialogues s.dialogues

/-- Whatever an operation does not keep of its own additions, it keeps up to any point. -/
theorem speaks_operate (operation : SocketOperation) (t : Sockets) :
    Sockets.world.Safe (fun _ => client.Speaks operation t) (fun _ => client.Speaks operation t)
      (client.operate operation).run t := by
  have hwhole {α : Type} {x : SocketScript α} {Q : α → Spoken} {E : Spoken}
      (hx : client.Says (operation.Asks t.requestIds) t.dialogues
        (Exactly t.dialogues t.requestIds) x Q E)
      (hQ : ∀ a ds m, Q a ds m → client.Adds (operation.Asks t.requestIds) t.dialogues ds)
      (hE : ∀ ds m, E ds m → client.Adds (operation.Asks t.requestIds) t.dialogues ds) :
      Sockets.world.Safe (fun _ => client.Speaks operation t)
        (fun _ => client.Speaks operation t) (do let _ ← x : SocketScript Unit).run t := by
    have hends : client.Says (operation.Asks t.requestIds) t.dialogues
        (Exactly t.dialogues t.requestIds) (do let _ ← x : SocketScript Unit)
        (fun _ ds _ => client.Adds (operation.Asks t.requestIds) t.dialogues ds)
        fun ds _ => client.Adds (operation.Asks t.requestIds) t.dialogues ds :=
      triple_bind (triple_weaken hx (fun a s => hQ a _ _) fun s => hE _ _) fun _ =>
        triple_pure fun _ hs => hs
    refine safe_mono (hends t ⟨rfl, rfl⟩) ?_
    rintro (error | _) u hu
    · exact hu
    · exact hu
  have hread {sock : Nat} : client.Says (operation.Asks t.requestIds) t.dialogues
      (Exactly t.dialogues t.requestIds) (client.readFrame sock)
      (fun _ ds _ => client.Adds (operation.Asks t.requestIds) t.dialogues ds)
      fun ds _ => client.Adds (operation.Asks t.requestIds) t.dialogues ds := by
    refine triple_readFrame (fun s raw hs => ?_) fun s hs => ?_
    · have hds : (s.transfer sock (.received raw)).dialogues =
          s.dialogues.modify sock (· ++ [.received raw]) := dialogues_modify fun _ => rfl
      have hadds : client.Adds (operation.Asks t.requestIds) t.dialogues
          (s.transfer sock (.received raw)).dialogues := by
        rw [hds, hs.1]
        exact adds_refl.received sock raw
      exact ⟨hadds, hadds⟩
    · have hadds : client.Adds (operation.Asks t.requestIds) t.dialogues s.dialogues := by
        rw [hs.1]
        exact adds_refl
      exact ⟨hadds, hadds⟩
  cases operation with
  | call method params =>
    refine hwhole (says_call adds_refl (.call method params)) ?_ fun _ _ => adds_refl.grown
    rintro result ds m ⟨d, ⟨reply, hd, -⟩, hs⟩
    exact adds_refl.speaking (hd.dialogue (.call method params)) hs
  | snapshots methods =>
    refine hwhole (says_snapshotsFrom 0 methods adds_refl fun i method hi => ?_)
      (fun _ _ _ => adds_refl.grown) fun _ _ => adds_refl.grown
    rw [Nat.zero_add]
    exact .snapshots hi
  | openStream afterSeq =>
    refine hwhole (says_openStream adds_refl (.openStream afterSeq)) ?_ fun _ _ => adds_refl.grown
    rintro sock ds m ⟨-, d, hd, hs⟩
    exact adds_refl.speaking (hd.dialogue (.openStream afterSeq)) hs
  | readFrame sock => exact hwhole hread (fun _ _ _ h => h) fun _ _ h => h
  | exitStream sock =>
    have hclose : SocketRequest.Silent (.close sock) := trivial
    have hreader : SocketRequest.Silent (.closeReader sock) := trivial
    have hkeeps : ∀ ds m, Exactly t.dialogues t.requestIds ds m →
        client.Adds (SocketOperation.Asks t.requestIds (.exitStream sock)) t.dialogues ds := by
      rintro ds m ⟨rfl, -⟩
      exact adds_refl
    have hexit : client.Says (SocketOperation.Asks t.requestIds (.exitStream sock)) t.dialogues
        (Exactly t.dialogues t.requestIds) (SocketClient.exitStream sock)
        (fun _ => Exactly t.dialogues t.requestIds) (Exactly t.dialogues t.requestIds) :=
      triple_bind (says_silent hreader (fun _ _ h => h) hkeeps) fun _ =>
        says_silent hclose (fun _ _ h => h) hkeeps
    refine safe_mono (hexit t ⟨rfl, rfl⟩) ?_
    rintro (error | _) u hu
    · exact hkeeps _ _ hu
    · exact hkeeps _ _ hu

/-- What the operations of a history have asked, one after the other. -/
theorem speaks_history {κ : Type} {f : κ → SocketOperation} {started : List (κ × Sockets)}
    {s : World.Running Unit SocketRequest SocketReply Sockets κ (Except CmuxError Unit)}
    (h : Runs (Sockets.world.Logged fun k => (client.operate (f k)).run) ⟨{}, none⟩ started s) :
    Sockets.world.Chain (fun k => client.Speaks (f k)) {} started s.state :=
  chained_run (fun _ _ => sockets_stable _)
    (fun k t => ⟨adds_refl, speaks_operate (f k) t⟩) h

/-- Every dialogue of a history is that of some operation. -/
theorem sound_history {κ : Type} {f : κ → SocketOperation} {started : List (κ × Sockets)}
    {s : Sockets} (h : Sockets.world.Chain (fun k => client.Speaks (f k)) {} started s) :
    ∀ d ∈ s.dialogues, client.Dialogue Asked d := by
  induction h with
  | idle hdrift =>
    obtain rfl := hdrift
    exact fun d hd => absurd hd List.not_mem_nil
  | @after started k t u _ hspeaks ih =>
    intro d hd
    obtain ⟨i, hi⟩ := List.mem_iff_getElem?.mp hd
    rcases Nat.lt_or_ge i t.dialogues.length with hlt | hge
    · obtain ⟨d', hd', hlonger⟩ := hspeaks.kept i _ (List.getElem?_eq_getElem hlt)
      cases hi.symm.trans hd'
      exact (ih _ (List.getElem_mem hlt)).longer hlonger
    · obtain ⟨opening, raws, hopens, rfl⟩ := hspeaks.added i d hge hi
      refine ⟨opening, raws, ?_, rfl⟩
      cases hopens with
      | silence => exact .silence
      | login hpassword => exact .login hpassword
      | request hlogin hasks => exact .request hlogin ⟨_, _, hasks⟩

end Histories

/-- Whatever is called and wherever it is dropped: on each connection the client first logs in, if
there is a password, sends one request only after the server took the login, and then nothing. -/
theorem requests_authenticated (client : SocketClient)
    (s : World.Running Unit SocketRequest SocketReply Sockets SocketOperation (Except CmuxError Unit))
    (h : Relation.ReflTransGen (Sockets.world.Step fun op => (client.operate op).run)
      ⟨{}, none⟩ s) :
    ∀ sock ∈ s.state.socks, client.Dialogue Asked sock.dialogue := by
  intro sock hsock
  obtain ⟨started, hruns⟩ := logged_of_reach h
  have hchain : Sockets.world.Chain client.Speaks {} started s.state := speaks_history (f := id) hruns
  exact sound_history (f := id) hchain _ (List.mem_map_of_mem hsock)

theorem commandId_injective {n m : Nat} (h : commandId n = commandId m) : n = m := by
  have hdigits : Nat.toDigits 10 n = Nat.toDigits 10 m :=
    String.ofList_injective ((String.append_right_inj _).mp h)
  rw [← Nat.ofDigitChars_ten_toDigits (n := n), hdigits, Nat.ofDigitChars_ten_toDigits]

theorem commandResult_ok {requestId method : String} {reply : Dict} {result : Json} :
    SocketClient.commandResult requestId method reply = .ok result ↔
      eqStr (reply.lookup "id") requestId ∧ isTrue (reply.lookup "ok") = true ∧
        result = get reply "result" := by
  unfold SocketClient.commandResult
  by_cases hid : eqStr (reply.lookup "id") requestId
  · by_cases hok : isTrue (reply.lookup "ok") = true
    · rw [if_neg (not_not.mpr hid), if_neg (not_not.mpr hok)]
      constructor
      · rintro ⟨⟩
        exact ⟨hid, hok, rfl⟩
      · rintro ⟨-, -, rfl⟩
        rfl
    · rw [if_neg (not_not.mpr hid), if_pos hok]
      exact ⟨nofun, fun h => absurd h.2.1 hok⟩
  · rw [if_pos hid]
    exact ⟨nofun, fun h => absurd h.1 hid⟩

section Replies

open Spoken

variable {client : SocketClient} {s s' : ClientState} {answers new : List Commanded}

/-- The connection of a command that returned is not used any more. -/
def Matched (client : SocketClient) (s : ClientState) (number : Nat) (answer : Commanded) : Prop :=
  ∀ result, answer.result = .ok result → ∃ sock, sock ∉ s.held ∧ ∃ d,
    s.sockets.dialogues[sock]? = some d ∧
      Fulfils client number answer.method answer.params result d

/-- Every command took the next number, and has its reply if it returned. -/
structure Correlated (client : SocketClient) (answers : List Commanded) (s : ClientState) :
    Prop where
  next : s.sockets.requestIds = answers.length + 1
  held : ∀ sock ∈ s.held, sock < s.sockets.dialogues.length
  matched : ∀ i answer, answers[i]? = some answer → Matched client s (i + 1) answer

/-- New dialogues leave the old ones alone. -/
theorem Matched.grown {number : Nat} {answer : Commanded} {fresh : List (List Transfer)}
    (h : Matched client s number answer) (hds : s'.sockets.dialogues = s.sockets.dialogues ++ fresh)
    (hheld : ∀ sock ∈ s'.held, sock ∈ s.held ∨ s.sockets.dialogues.length ≤ sock) :
    Matched client s' number answer := by
  intro result hresult
  obtain ⟨sock, hsock, d, hd, hfulfils⟩ := h result hresult
  obtain ⟨hlt, -⟩ := List.getElem?_eq_some_iff.mp hd
  refine ⟨sock, fun hmem => ?_, d, ?_, hfulfils⟩
  · rcases hheld sock hmem with hold | hnew
    · exact hsock hold
    · omega
  · rw [hds, List.getElem?_append_left hlt, hd]

theorem Correlated.grown {fresh : List (List Transfer)} (h : Correlated client answers s)
    (hnext : s'.sockets.requestIds = s.sockets.requestIds)
    (hds : s'.sockets.dialogues = s.sockets.dialogues ++ fresh)
    (hheld : ∀ sock ∈ s'.held, sock ∈ s.held ∨
      s.sockets.dialogues.length ≤ sock ∧ sock < s'.sockets.dialogues.length) :
    Correlated client answers s' := by
  refine ⟨hnext.trans h.next, fun sock hmem => ?_, fun i answer hi => ?_⟩
  · rcases hheld sock hmem with hold | hnew
    · have hlt := h.held sock hold
      rw [hds, List.length_append]
      omega
    · exact hnew.2
  · exact (h.matched i answer hi).grown hds fun sock hmem => (hheld sock hmem).imp_right And.left

/-- What a stream connection reads is on no connection of a command. -/
theorem Correlated.transfer {t : Sockets} {held : List Nat} {sock : Nat} (tr : Transfer)
    (h : Correlated client answers ⟨t, held⟩) (hmem : sock ∈ held) :
    Correlated client answers ⟨t.transfer sock tr, held⟩ := by
  have hds : (t.transfer sock tr).dialogues = t.dialogues.modify sock (· ++ [tr]) :=
    dialogues_modify fun _ => rfl
  refine ⟨h.next, fun other hother => ?_, fun i answer hi result hresult => ?_⟩
  · have hlt : other < t.dialogues.length := h.held other hother
    rwa [hds, List.length_modify]
  · obtain ⟨own, hown, d, hd, hfulfils⟩ := h.matched i answer hi result hresult
    have hne : sock ≠ own := by
      rintro rfl
      exact hown hmem
    refine ⟨own, hown, d, ?_, hfulfils⟩
    rw [hds, List.getElem?_modify_ne _ _ hne]
    exact hd

/-- A command is the next one. -/
theorem correlated_call {t t' : Sockets} {held : List Nat} {method : String} {params : Dict}
    {log : List (SocketRequest × SocketReply)} {res : Except CmuxError Json}
    (h : Ended (client.call method params) t log res t')
    (hs : Correlated client answers ⟨t, held⟩) :
    Correlated client (answers ++ [⟨method, params, log, res⟩]) ⟨t', held⟩ := by
  have hcall : client.Says (fun _ => True) t.dialogues (Exactly t.dialogues t.requestIds)
      (client.call method params)
      (fun result ds m => ∃ d, Fulfils client t.requestIds method params result d ∧
        Speaking t.dialogues d (t.requestIds + 1) ds m)
      (client.Grown (fun _ => True) t.dialogues (t.requestIds + 1)) := says_call adds_refl trivial
  have hends := ends_of_triple hcall h ⟨rfl, rfl⟩
  have hgrown : ∃ fresh, t'.dialogues = t.dialogues ++ fresh := by
    cases res with
    | error e => exact ⟨_, hends.2.choose_spec.1⟩
    | ok result => exact ⟨_, hends.choose_spec.2.1⟩
  have hnext : t'.requestIds = t.requestIds + 1 := by
    cases res with
    | error e => exact hends.1
    | ok result => exact hends.choose_spec.2.2
  obtain ⟨fresh, hds⟩ := hgrown
  have hids : t.requestIds = answers.length + 1 := hs.next
  refine ⟨?_, fun sock hmem => ?_, fun i answer hi => ?_⟩
  · rw [List.length_append, List.length_singleton, ← hids]
    exact hnext
  · have hlt : sock < t.dialogues.length := hs.held sock hmem
    rw [hds, List.length_append]
    omega
  rcases Nat.lt_or_ge i answers.length with hlt | hge
  · rw [List.getElem?_append_left hlt] at hi
    exact (hs.matched i answer hi).grown hds fun _ hmem => .inl hmem
  · obtain ⟨hi', rfl⟩ : i = answers.length ∧ answer = ⟨method, params, log, res⟩ := by
      rw [List.getElem?_append_right hge] at hi
      obtain ⟨hlt, heq⟩ := List.getElem?_eq_some_iff.mp hi
      rw [List.length_singleton] at hlt
      exact ⟨by omega, by simpa using heq.symm⟩
    rintro result rfl
    obtain ⟨d, hfulfils, hds', -⟩ := hends
    refine ⟨t.dialogues.length, fun hmem => ?_, d, ?_, ?_⟩
    · exact Nat.lt_irrefl _ (hs.held _ hmem)
    · rw [hds']
      simp
    · rwa [hi', ← hids]

theorem says_stream (client : SocketClient) (afterSeq : Option Int) (t : Sockets) :
    client.Says (fun _ => True) t.dialogues (Exactly t.dialogues t.requestIds) (client.openStream afterSeq)
      (fun sock ds m => sock = t.dialogues.length ∧ ∃ d, StreamOpened client afterSeq d ∧
        Speaking t.dialogues d t.requestIds ds m)
      (client.Grown (fun _ => True) t.dialogues t.requestIds) := says_openStream adds_refl trivial

theorem correlated_step (h : client.Step s new s') (hs : Correlated client answers s) :
    Correlated client (answers ++ new) s' := by
  cases h with
  | call hended => exact correlated_call hended hs
  | @snapshots t t' held methods log res hended =>
    have hsnapshots : client.Says (fun _ => True) t.dialogues (Exactly t.dialogues t.requestIds)
        (client.snapshots methods) (fun _ => client.Grown (fun _ => True) t.dialogues t.requestIds)
        (client.Grown (fun _ => True) t.dialogues t.requestIds) :=
      says_snapshotsFrom 0 methods adds_refl fun _ _ _ => trivial
    obtain ⟨hids, fresh, hds, -⟩ := ends_either hsnapshots hended ⟨rfl, rfl⟩
    rw [List.append_nil]
    exact hs.grown hids hds fun _ hmem => .inl hmem
  | @openStream t t' held afterSeq log sock hended =>
    obtain ⟨rfl, d, -, hds, hids⟩ := ends_of_triple (says_stream client afterSeq t) hended
      ⟨rfl, rfl⟩
    rw [List.append_nil]
    refine hs.grown hids hds fun sock hmem => ?_
    rcases List.mem_cons.mp hmem with rfl | hold
    · refine .inr ⟨Nat.le_refl _, ?_⟩
      rw [hds, List.length_append, List.length_singleton]
      exact Nat.lt_succ_self _
    · exact .inl hold
  | @openFailed t t' held afterSeq log error hended =>
    obtain ⟨hids, fresh, hds, -⟩ := ends_of_triple (says_stream client afterSeq t) hended
      ⟨rfl, rfl⟩
    rw [List.append_nil]
    exact hs.grown hids hds fun _ hmem => .inl hmem
  | @readFrame t t' held sock log res hmem hended =>
    have hread : Leaves (fun u => Correlated client answers ⟨u, held⟩)
        (client.readFrame sock) (fun _ u => Correlated client answers ⟨u, held⟩)
        fun u => Correlated client answers ⟨u, held⟩ :=
      triple_readFrame (fun _ _ hu => ⟨trivial, hu.transfer _ hmem⟩) fun _ hu => ⟨trivial, hu⟩
    rw [List.append_nil]
    exact ends_either (F := fun u => Correlated client answers ⟨u, held⟩) hread hended hs
  | @exitStream t t' held sock log res hmem hended =>
    have hsilent : client.Says (fun _ => True) t.dialogues (Exactly t.dialogues t.requestIds)
        (SocketClient.exitStream sock) (fun _ => Exactly t.dialogues t.requestIds)
        (Exactly t.dialogues t.requestIds) := by
      have hreader : SocketRequest.Silent (.closeReader sock) := trivial
      have hclose : SocketRequest.Silent (.close sock) := trivial
      have hkeeps : ∀ ds m, Exactly t.dialogues t.requestIds ds m →
          client.Adds (fun _ => True) t.dialogues ds := fun _ _ hs => hs.1 ▸ adds_refl
      exact triple_bind (says_silent hreader (fun _ _ h => h) hkeeps) fun _ =>
        says_silent hclose (fun _ _ h => h) hkeeps
    obtain ⟨hds, hids⟩ := ends_either hsilent hended ⟨rfl, rfl⟩
    rw [List.append_nil]
    have hsame : t'.dialogues = t.dialogues ++ [] := hds.trans (List.append_nil _).symm
    exact hs.grown hids hsame fun _ hheld => .inl (List.mem_of_mem_erase hheld)

theorem correlated_run (h : Runs client.Step {} answers s) : Correlated client answers s := by
  refine h.invariant (J := Correlated client) ⟨rfl, fun _ hmem => ?_, fun _ _ hi => ?_⟩
    fun hs hstep => correlated_step hstep hs
  · exact absurd hmem List.not_mem_nil
  · rw [List.getElem?_nil] at hi
    cases hi

end Replies

section Returns

variable {s s' : Sockets} {client : SocketClient} {sock : Nat}

theorem returns_perform {request : SocketRequest} (h : Sockets.Serves request s .done s') :
    Sockets.world.Returns (perform request) s () s' := by
  have hsend : Sockets.world.Returns (Raising.send request : SocketScript SocketReply) s .done s' :=
    returns_send h
  exact hsend.bind returns_pure

theorem returns_nextRequestId : Sockets.world.Returns nextRequestId s s.requestIds
    { s with requestIds := s.requestIds + 1 } := by
  have hsend : Sockets.world.Returns (Raising.send .nextRequestId : SocketScript SocketReply) s
      (.number s.requestIds) { s with requestIds := s.requestIds + 1 } :=
    returns_send Sockets.Serves.nextRequestId
  exact hsend.bind returns_pure

theorem returns_connect (hvalid : TimeoutValid (some client.connectTimeout)) :
    Sockets.world.Returns client.connect s s.socks.length
      { s with socks := s.socks ++ [{}] } := by
  have hopen : Sockets.world.Returns (Raising.send .socket : SocketScript SocketReply) s
      (.opened s.socks.length) { s with socks := s.socks ++ [{}] } :=
    returns_send Sockets.Serves.socket
  exact (hopen.bind returns_pure).bind ((returns_perform (.settimeout hvalid)).bind
    ((returns_perform .connect).onError.bind returns_pure))

/-- A line of the server that the client reads as this object. -/
structure Legible (client : SocketClient) (line : List UInt8) (reply : Dict) : Prop where
  whole : newline ∉ line
  fits : line.length ≤ maxCommandFrameBytes
  loads : client.loads (line ++ [newline]) = .ok (.obj reply)

/-- The compact text of an object, if it is not too long. -/
theorem legible_render {reply : Dict} (hreader : client.loads = jsonLoads)
    (hreadable : Readable (.obj reply))
    (hfits : (render (.obj reply)).length ≤ maxCommandFrameBytes) :
    Legible client (asciiBytes (render (.obj reply))) reply := by
  refine ⟨newline_not_mem (isPlain_render hreadable), ?_, ?_⟩
  · rwa [asciiBytes, List.length_map]
  · rw [hreader]
    exact jsonLoads_line hreadable

variable {line login : List UInt8} {reply accepted : Dict} {password : String}

theorem returns_readJson (h : Legible client line reply) :
    Sockets.world.Returns (client.readJson sock) s reply
      (s.transfer sock (.received (line ++ [newline]))) := by
  have hread : (readline newline (maxCommandFrameBytes + 2) (line ++ [newline])).1 =
      line ++ [newline] := by
    rw [readline_line h.whole (Nat.lt_of_le_of_lt h.fits (by omega))]
  have hwhole : ¬ (line ++ [newline] = [] ∨
      (line ++ [newline]).length > maxCommandFrameBytes + 1 ∨
      (line ++ [newline]).getLast? ≠ some newline) := by
    simpa using h.fits
  have hvalue : commandValue client.loads (line ++ [newline]) = .ok reply := by
    rw [commandValue, if_neg hwhole, h.loads]
  have hserves : Sockets.Serves (.readline sock (maxCommandFrameBytes + 2)) s
      (.line (line ++ [newline])) (s.transfer sock (.received (line ++ [newline]))) := by
    rw [← hread]
    exact .readline (line ++ [newline])
  have hsend : Sockets.world.Returns
      (Raising.send (.readline sock (maxCommandFrameBytes + 2)) : SocketScript SocketReply) s
      (.line (line ++ [newline])) (s.transfer sock (.received (line ++ [newline]))) :=
    returns_send hserves
  exact (hsend.bind returns_pure).bind (returns_again hvalue)

theorem returns_writeJson {value : Dict} : Sockets.world.Returns (writeJson sock value) s ()
    (s.transfer sock (.sent (wireLine value))) := returns_perform (.sendall (.inl rfl))

/-- The server takes the login. -/
theorem returns_authenticate (hpassword : client.password = some password)
    (hlogin : Legible client login accepted) (hok : isTrue (accepted.lookup "ok") = true) :
    ∃ s', Sockets.world.Returns (client.authenticate sock) s () s' := by
  unfold SocketClient.authenticate
  rw [hpassword]
  have htaken (t : Sockets) : Sockets.world.Returns (if ¬ isTrue (accepted.lookup "ok") then
      throw (.streamProtocol "CMUX socket authentication failed")
    else pure () : SocketScript Unit) t () t := by
    rw [if_neg (not_not.mpr hok)]
    exact returns_pure
  exact ⟨_, returns_writeJson.bind ((returns_readJson hlogin).bind (htaken _))⟩

/-- A command whose login and request the server answers with a line each returns the result that it
is told. -/
theorem returns_call {method : String} {params : Dict} (hpassword : client.password = some password)
    (hvalid : TimeoutValid (some client.connectTimeout)) (hlogin : Legible client login accepted)
    (haccepted : isTrue (accepted.lookup "ok") = true) (hreply : Legible client line reply)
    (hid : eqStr (reply.lookup "id") (commandId s.requestIds))
    (hok : isTrue (reply.lookup "ok") = true) :
    ∃ s', Sockets.world.Returns (client.call method params) s (get reply "result") s' := by
  let request := requestObject (commandId s.requestIds) method params
  let opened : Sockets := { s with requestIds := s.requestIds + 1, socks := s.socks ++ [{}] }
  have hdialogue : ∃ t', Sockets.world.Returns (client.dialogue s.socks.length request) opened reply
      t' := by
    have hbody : ∀ t, ∃ t', Sockets.world.Returns
        (do
          client.authenticate s.socks.length
          writeJson s.socks.length request
          client.readJson s.socks.length) t reply t' := by
      intro t
      obtain ⟨t', hauthenticated⟩ := @returns_authenticate t _ s.socks.length _ _ _ hpassword hlogin
        haccepted
      exact ⟨_, hauthenticated.bind (returns_writeJson.bind (returns_readJson hreply))⟩
    obtain ⟨t', hbody⟩ :=
      hbody (opened.modify s.socks.length fun k => { k with readers := k.readers + 1 })
    exact ⟨_, (returns_perform .makefile).bind (hbody.andFinally (returns_perform .closeReader))⟩
  obtain ⟨t', hdialogue⟩ := hdialogue
  have hresult : SocketClient.commandResult (commandId s.requestIds) method reply =
      .ok (get reply "result") := commandResult_ok.mpr ⟨hid, hok, rfl⟩
  have hclose : Sockets.world.Returns (perform (.close s.socks.length)) t' ()
      (t'.modify s.socks.length fun k => { k with closed := true }) :=
    returns_perform (.close (.inl rfl))
  exact ⟨_, returns_nextRequestId.bind ((returns_connect hvalid).bind
    ((hdialogue.andFinally hclose).bind (returns_again hresult)))⟩

end Returns

/-- A command returns the result of a reply to itself. Of all commands of the client, the one with
number `i + 1` has a connection on which nothing passed but a login, its own request and one line;
that line is an object with the id of this command, and of no other one, that says `ok`. -/
theorem replies_matched (client : SocketClient) (answers : List Commanded) (s : ClientState)
    (h : Runs client.Step {} answers s) (i : Nat) (answer : Commanded) (result : Json)
    (hanswer : answers[i]? = some answer) (hresult : answer.result = .ok result) :
    ∃ sock ∈ s.sockets.socks, ∃ exchange raw reply, client.LoggedIn exchange ∧
      sock.dialogue = exchange ++
        [.sent (wireLine (requestObject (commandId (i + 1)) answer.method answer.params)),
          .received raw] ∧
      commandValue client.loads raw = .ok reply ∧
      (∀ j, eqStr (reply.lookup "id") (commandId (j + 1)) ↔ j = i) ∧
      reply.lookup "ok" = some (.bool true) ∧ result = get reply "result" := by
  obtain ⟨sock, -, d, hd, reply, ⟨exchange, raw, hlogin, hreply, rfl⟩, hcommand⟩ :=
    (correlated_run h).matched i answer hanswer result hresult
  obtain ⟨hid, hok, rfl⟩ := commandResult_ok.mp hcommand
  obtain ⟨k, hk, hdialogue⟩ := List.mem_map.mp (List.mem_of_getElem? hd)
  refine ⟨k, hk, exchange, raw, reply, hlogin, hdialogue, hreply, fun j => ⟨fun hj => ?_, ?_⟩, ?_,
    rfl⟩
  · exact Nat.succ_injective (commandId_injective (eqStr_unique hj hid))
  · rintro rfl
    exact hid
  · unfold isTrue at hok
    split at hok
    · assumption
    · cases hok

/-- A client that has to log in. -/
def lockedClient : SocketClient :=
  { socketPath := "/run/cmux.sock", password := some "secret", loads := jsonLoads }

def sampleAccepted : Dict := [("id", .str "yatagarasu-auth"), ("ok", .bool true)]

def sampleReply (n : Nat) : Dict :=
  [("id", .str (commandId n)), ("ok", .bool true), ("result", .int 7)]

def textParams : Dict := [("surface_id", .str "surface-1"), ("text", .str "a\n\"b\"")]

def keyParams : Dict := [("surface_id", .str "surface-1"), ("key", .str "return")]

/-- The server takes the login and answers the command with this number. -/
theorem returns_sampleCall (method : String) (params : Dict) {s : Sockets}
    (h : s.requestIds = 1 ∨ s.requestIds = 2) :
    ∃ s', Sockets.world.Returns (lockedClient.call method params) s (.int 7) s' := by
  have hlogin : Legible lockedClient (asciiBytes (render (.obj sampleAccepted))) sampleAccepted :=
    legible_render rfl (by simp [sampleAccepted, Readable, ReadableFields]) (by decide)
  have hreply : Legible lockedClient (asciiBytes (render (.obj (sampleReply s.requestIds))))
      (sampleReply s.requestIds) := by
    refine legible_render rfl (by simp [sampleReply, Readable, ReadableFields]) ?_
    rcases h with h | h <;>
    · rw [h]
      decide
  have hresult : get (sampleReply s.requestIds) "result" = .int 7 := rfl
  rw [← hresult]
  exact returns_call rfl (by decide) hlogin rfl hreply (by simp [sampleReply, eqStr]) rfl

/-- The second command of a client that has to log in. -/
theorem replies_matched_sample : ∃ answers s, Runs lockedClient.Step {} answers s ∧
    answers.length = 2 ∧
    ∃ sock ∈ s.sockets.socks, ∃ exchange raw reply, lockedClient.LoggedIn exchange ∧
      sock.dialogue = exchange ++ [.sent (wireLine (requestObject (commandId 2) sendKeyMethod keyParams)),
        .received raw] ∧
      commandValue lockedClient.loads raw = .ok reply ∧
      (∀ j, eqStr (reply.lookup "id") (commandId (j + 1)) ↔ j = 1) ∧
      reply.lookup "ok" = some (.bool true) ∧ .int 7 = get reply "result" := by
  obtain ⟨s, log, hfirst⟩ := @returns_sampleCall sendTextMethod textParams {} (.inl rfl)
  have hstep : lockedClient.Step {} [⟨sendTextMethod, textParams, log, .ok (.int 7)⟩] ⟨s, []⟩ :=
    .call hfirst
  have hruns := Runs.single hstep
  obtain ⟨s', log', hsecond⟩ := @returns_sampleCall sendKeyMethod keyParams s
    (.inr (correlated_run hruns).next)
  have hstep' : lockedClient.Step ⟨s, []⟩ [⟨sendKeyMethod, keyParams, log', .ok (.int 7)⟩] ⟨s', []⟩ :=
    .call hsecond
  have hruns' := hruns.tail hstep'
  have hmatched := replies_matched lockedClient _ _ hruns' 1
    ⟨sendKeyMethod, keyParams, log', .ok (.int 7)⟩ (.int 7) rfl rfl
  exact ⟨_, _, hruns', rfl, hmatched⟩

/-- The calls that type a message and submit it, in a history of their own. -/
theorem sampleCall_history {κ : Type} {f : κ → SocketOperation} {k k' : κ}
    (hk : f k = .call sendTextMethod textParams) (hk' : f k' = .call sendKeyMethod keyParams) :
    ∃ t, ∃ s : World.Running Unit SocketRequest SocketReply Sockets κ (Except CmuxError Unit),
      Runs (Sockets.world.Logged fun k => (lockedClient.operate (f k)).run) ⟨{}, none⟩
        [(k, {}), (k', t)] s ∧ s.state.socks.length = 2 := by
  have hcall (k : κ) (method : String) (params : Dict) (hk : f k = .call method params) (s : Sockets)
      (hs : s.requestIds = 1 ∨ s.requestIds = 2) :
      ∃ s', s'.requestIds = s.requestIds + 1 ∧ s'.socks.length = s.socks.length + 1 ∧
        Runs (Sockets.world.Logged fun k => (lockedClient.operate (f k)).run) ⟨s, none⟩ [(k, s)]
          ⟨s', none⟩ := by
    obtain ⟨s', hreturns⟩ := returns_sampleCall method params hs
    have hoperate : Sockets.world.Returns (lockedClient.operate (f k)) s () s' := by
      rw [hk]
      exact hreturns.bind returns_pure
    obtain ⟨log, hended⟩ := hreturns
    obtain ⟨log', hoperated⟩ := hoperate
    have hsays : lockedClient.Says (fun _ => True) s.dialogues
        (Spoken.Exactly s.dialogues s.requestIds) (lockedClient.call method params)
        (fun result ds m => ∃ d, Fulfils lockedClient s.requestIds method params result d ∧
          Spoken.Speaking s.dialogues d (s.requestIds + 1) ds m)
        (lockedClient.Grown (fun _ => True) s.dialogues (s.requestIds + 1)) :=
      says_call adds_refl trivial
    obtain ⟨d, -, hds, hids⟩ := ends_of_triple hsays hended ⟨rfl, rfl⟩
    have hlength := congrArg List.length hds
    rw [Sockets.dialogues, Sockets.dialogues, List.length_append, List.length_map,
      List.length_map] at hlength
    refine ⟨s', hids, hlength, ?_⟩
    have hstarted := Runs.single (.starts k : Sockets.world.Logged
      (fun k => (lockedClient.operate (f k)).run) ⟨s, none⟩ [(k, s)] _)
    exact (hstarted.trans (runs_of_conducts hoperated)).tail (.goes .finish fun h => by simp at h)
  obtain ⟨t, hids, hlength, hfirst⟩ := hcall k _ _ hk {} (.inl rfl)
  obtain ⟨s, -, hlength', hsecond⟩ := hcall k' _ _ hk' t (.inr hids)
  exact ⟨t, ⟨s, none⟩, hfirst.trans hsecond, by rw [hlength', hlength]; rfl⟩

theorem requests_authenticated_sample :
    ∃ s : World.Running Unit SocketRequest SocketReply Sockets SocketOperation (Except CmuxError Unit),
      s.state.socks.length = 2 ∧ ∀ sock ∈ s.state.socks, lockedClient.Dialogue Asked sock.dialogue := by
  obtain ⟨t, s, hruns, hlength⟩ := @sampleCall_history _ id _ _ rfl rfl
  exact ⟨s, hlength, requests_authenticated lockedClient s (reach_of_logged hruns)⟩

section Server

variable {client : SocketClient} {asks : Dict → Prop}

/-- The parameters of a call are read back as they were written. -/
def SocketOperation.Legible : SocketOperation → Prop
  | .call _ params => Readable (.obj params)
  | .snapshots _ | .openStream _ | .readFrame _ | .exitStream _ => True

theorem readable_request {n : Nat} {operation : SocketOperation} {request : Dict}
    (hlegible : operation.Legible) (h : operation.Asks n request) : Readable (.obj request) := by
  cases h with
  | call method params =>
    have hparams : Readable (.obj params) := hlegible
    simpa [requestObject, Readable, ReadableFields] using hparams
  | snapshots => simp [requestObject, Readable, ReadableFields]
  | openStream afterSeq =>
    cases afterSeq <;>
      simp [SocketClient.streamRequest, requestObject, SocketClient.streamParams, Readable,
        ReadableFields]

theorem readable_login (password : String) :
    Readable (.obj (SocketClient.loginObject password)) := by
  simp [SocketClient.loginObject, requestObject, Readable, ReadableFields]

/-- What has been asked on a connection: the login, if there is a password, and then the request, as
far as it came. -/
inductive SocketClient.Asking (client : SocketClient) (asks : Dict → Prop) : List Dict → Prop
  | early {asked : List Dict} : asked <+: client.logins → Asking client asks asked
  | request {request : Dict} : asks request → Asking client asks (client.logins ++ [request])

theorem SocketClient.Dialogue.asked {d : List Transfer} (h : client.Dialogue asks d) :
    ∃ asked, client.Asking asks asked ∧ sent d = asked.map wireLine := by
  obtain ⟨opening, raws, hopens, rfl⟩ := h
  have hlonger : Longer opening (opening ++ raws.map .received) := ⟨raws, rfl⟩
  rw [hlonger.sent]
  cases hopens with
  | silence => exact ⟨[], .early List.nil_prefix, rfl⟩
  | @login password hpassword =>
    refine ⟨[loginObject password], .early ?_, rfl⟩
    rw [SocketClient.logins, hpassword]
    exact List.prefix_refl _
  | @request exchange request hlogin hasks =>
    refine ⟨client.logins ++ [request], .request hasks, ?_⟩
    cases hlogin with
    | unlocked hpassword =>
      rw [SocketClient.logins, hpassword]
      rfl
    | accepted hpassword =>
      rw [SocketClient.logins, hpassword]
      rfl

end Server

/-- What the server reads on a connection, line by line. -/
def Sock.heard (sock : Sock) : List (Except LoadsError Json) :=
  (readlines newline (sent sock.dialogue).flatten).map jsonLoads

/-- No text of a readable object ends the line that the object is sent in. -/
theorem heard_asked {sock : Sock} {asked : List Dict}
    (hreadable : ∀ object ∈ asked, Readable (.obj object))
    (h : sent sock.dialogue = asked.map wireLine) :
    sock.heard = asked.map fun object => .ok (.obj object) := by
  have hbytes : (sent sock.dialogue).flatten =
      (asked.map fun object => asciiBytes (render (.obj object))).flatMap (· ++ [newline]) := by
    rw [h, List.flatMap_map]
    rfl
  rw [Sock.heard, hbytes, readlines_flatten, List.map_map, List.map_map]
  · apply List.map_congr_left
    intro object hobject
    exact jsonLoads_line (hreadable object hobject)
  · intro line hline
    obtain ⟨object, hobject, rfl⟩ := List.mem_map.mp hline
    exact newline_not_mem (isPlain_render (hreadable object hobject))

/-- What an operation that was started in the first state has made of it. On the connections that
were there the server has been sent nothing more. On each that was opened it was sent the lines of
the login and of the operation's own request, as far as it came, and reads just these objects. -/
structure SocketClient.Delivers (client : SocketClient) (operation : SocketOperation)
    (t s : Sockets) : Prop where
  kept : ∀ (i : Nat) (sock : Sock), t.socks[i]? = some sock →
    ∃ sock', s.socks[i]? = some sock' ∧ sent sock'.dialogue = sent sock.dialogue
  opened : ∀ (i : Nat) (sock : Sock), t.socks.length ≤ i → s.socks[i]? = some sock →
    ∃ asked, client.Asking (operation.Asks t.requestIds) asked ∧
      sent sock.dialogue = asked.map wireLine ∧
      sock.heard = asked.map fun object => .ok (.obj object)

theorem delivers_of_speaks {client : SocketClient} {operation : SocketOperation} {t s : Sockets}
    (hlegible : operation.Legible) (h : client.Speaks operation t s) :
    client.Delivers operation t s := by
  have hget (u : Sockets) (i : Nat) : u.dialogues[i]? = u.socks[i]?.map Sock.dialogue :=
    List.getElem?_map
  constructor
  · intro i sock hsock
    obtain ⟨d', hd', hlonger⟩ := h.kept i sock.dialogue (by rw [hget, hsock]; rfl)
    rw [hget] at hd'
    obtain ⟨sock', hsock', rfl⟩ := Option.map_eq_some_iff.mp hd'
    exact ⟨sock', hsock', hlonger.sent⟩
  · intro i sock hi hsock
    rw [← List.length_map Sock.dialogue] at hi
    obtain ⟨asked, hasking, hsent⟩ := (h.added i sock.dialogue hi (by rw [hget, hsock]; rfl)).asked
    refine ⟨asked, hasking, hsent, heard_asked (fun object hobject => ?_) hsent⟩
    have hlogins : ∀ object ∈ client.logins, Readable (.obj object) := by
      intro object hobject
      obtain ⟨password, -, rfl⟩ := List.mem_map.mp hobject
      exact readable_login password
    cases hasking with
    | early hpre => exact hlogins object (hpre.subset hobject)
    | request hasks =>
      rcases List.mem_append.mp hobject with hobject | hobject
      · exact hlogins object hobject
      · rw [List.mem_singleton.mp hobject]
        exact readable_request hlegible hasks

/-- Whatever the texts in the parameters are, and wherever a call is dropped: the calls of a history
follow each other, and what the server reads on the connections that one of them opens, line by line,
is the login, if there is a password, and the request of this call with its number, its method and
its parameters, or the first part of this. No text ends its line. -/
theorem requests_read_back (client : SocketClient)
    (started : List ({ operation : SocketOperation // operation.Legible } × Sockets))
    (s : World.Running Unit SocketRequest SocketReply Sockets
      { operation : SocketOperation // operation.Legible } (Except CmuxError Unit))
    (h : Runs (Sockets.world.Logged fun operation => (client.operate operation.val).run) ⟨{}, none⟩
      started s) :
    Sockets.world.Chain (fun operation => client.Delivers operation.val) {} started s.state :=
  (speaks_history (f := Subtype.val) h).mono fun operation _ _ =>
    delivers_of_speaks operation.property

theorem requests_read_back_sample :
    ∃ operation operation' : { operation : SocketOperation // operation.Legible }, ∃ t,
    ∃ s : World.Running Unit SocketRequest SocketReply Sockets
      { operation : SocketOperation // operation.Legible } (Except CmuxError Unit),
    s.state.socks.length = 2 ∧
    Sockets.world.Chain (fun operation => lockedClient.Delivers operation.val) {}
      [(operation, {}), (operation', t)] s.state := by
  have htext : (SocketOperation.call sendTextMethod textParams).Legible := by
    simp [SocketOperation.Legible, textParams, Readable, ReadableFields]
  have hkey : (SocketOperation.call sendKeyMethod keyParams).Legible := by
    simp [SocketOperation.Legible, keyParams, Readable, ReadableFields]
  obtain ⟨t, s, hruns, hlength⟩ := @sampleCall_history _ Subtype.val ⟨_, htext⟩ ⟨_, hkey⟩ rfl rfl
  exact ⟨_, _, t, s, hlength, requests_read_back lockedClient _ s hruns⟩

end Yatagarasu.Cmux
