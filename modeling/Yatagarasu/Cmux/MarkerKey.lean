import Yatagarasu.Library.Cleanup
import Yatagarasu.Library.Parallel

/-! The key that markers are signed with is created once, and every later start reads it. Any number
of processes may start at once, and each may stop anywhere. -/

namespace Yatagarasu.Cmux

open Raising World Parties

def markerKeyBytes : Nat := 32

/-- A file: its permission bits, and what is in it. -/
structure KeyFile where
  mode : Nat
  bytes : List UInt8

/-- The group and the others have no access. -/
def KeyFile.Private (file : KeyFile) : Prop := file.mode &&& 0o77 = 0

instance (file : KeyFile) : Decidable file.Private := by
  unfold KeyFile.Private
  infer_instance

/-- The file of the key, which process has it open for writing, and what was handed to `write`. -/
structure KeyDisk where
  file : Option KeyFile := none
  writer : Option Nat := none
  minted : Option (List UInt8) := none

inductive KeyError
  | discovery (message : String)
  | raised (name : String)

inductive KeyRequest
  | pathExists
  | stat
  | readBytes
  | tokenBytes (count : Nat)
  | create
  | write (payload : List UInt8)
  | close

inductive KeyReply
  | done
  | answer (found : Bool)
  | mode (bits : Nat)
  | bytes (content : List UInt8)
  | raised (error : KeyError)

/-- The calls that may fail without an effect; `close` closes the descriptor also if it fails. -/
inductive KeyDisk.Serves (i : Nat) : KeyRequest → KeyDisk → KeyReply → KeyDisk → Prop
  | pathExists {d} : Serves i .pathExists d (.answer d.file.isSome) d
  | stat {d file} : d.file = some file → Serves i .stat d (.mode file.mode) d
  | readBytes {d file} : d.file = some file → Serves i .readBytes d (.bytes file.bytes) d
  | tokenBytes {d count} (content : List UInt8) : content.length = count →
      Serves i (.tokenBytes count) d (.bytes content) d
  /-- The mask of the process may only take permissions away. -/
  | create {d} (mask : Nat) : d.file = none → Serves i .create d .done
      { d with file := some ⟨0o600 &&& mask, []⟩, writer := some i }
  /-- A write may stop short. -/
  | write {d file payload} (count : Nat) : d.file = some file → d.writer = some i →
      Serves i (.write payload) d .done
        { d with
          file := some { file with bytes := file.bytes ++ payload.take count }
          minted := some payload }
  | close {d} : Serves i .close d .done d
  | fail {d request error} : Serves i request d (.raised error) d

abbrev KeyScript (α : Type) := Raising KeyError Unit KeyRequest KeyReply α

namespace KeyScript

def unexpected : KeyError := .raised "TypeError"

def perform (request : KeyRequest) : KeyScript Unit := do
  match ← send request with
  | .raised error => throw error
  | .done | .answer _ | .mode _ | .bytes _ => pure ()

def pathExists : KeyScript Bool := do
  match ← send .pathExists with
  | .answer found => pure found
  | .raised error => throw error
  | .done | .mode _ | .bytes _ => throw unexpected

def stat : KeyScript Nat := do
  match ← send .stat with
  | .mode bits => pure bits
  | .raised error => throw error
  | .done | .answer _ | .bytes _ => throw unexpected

def content (request : KeyRequest) : KeyScript (List UInt8) := do
  match ← send request with
  | .bytes content => pure content
  | .raised error => throw error
  | .done | .answer _ | .mode _ => throw unexpected

end KeyScript

/-- `:04o` -/
def octal4 (n : Nat) : String :=
  let digits := Nat.toDigits 8 n
  String.ofList (List.replicate (4 - digits.length) '0' ++ digits)

open KeyScript in
/-- Return the persistent marker-signing key, creating it once. -/
def loadOrCreateMarkerKey (path : String) : KeyScript (List UInt8) := do
  if ← pathExists then
    let mode ← stat
    if mode &&& 0o77 ≠ 0 then
      throw (.discovery (path ++ " is readable beyond its owner (mode " ++
        octal4 (mode &&& 0o7777) ++ "); a leaked marker key lets anyone forge delivery proofs"))
    else
      let key ← content .readBytes
      if key.length < markerKeyBytes then
        throw (.discovery (path ++ " holds " ++ toString key.length ++
          " bytes; refusing to sign with a short key"))
      else pure key
  else
    let key ← content (.tokenBytes markerKeyBytes)
    perform .create
    (perform (.write key)).andFinally (perform .close)
    pure key

/-- The one that creates the file is the only one that writes it, and writes it once. -/
inductive KeyDisk.Changes (i : Nat) : KeyDisk → KeyDisk → Prop
  | same {d} : Changes i d d
  | created {d} (mask : Nat) : d.file = none → Changes i d
      { d with file := some ⟨0o600 &&& mask, []⟩, writer := some i }
  | written {d file} {key : List UInt8} (count : Nat) : d.file = some file → d.writer = some i →
      d.minted = none → key.length = markerKeyBytes → Changes i d
        { d with
          file := some { file with bytes := file.bytes ++ key.take count }
          minted := some key }

def keyParties : Parties Nat Unit KeyRequest KeyReply KeyDisk where
  view _ := ()
  serves := KeyDisk.Serves
  changes := KeyDisk.Changes

/-- A file that was there is left alone; otherwise it holds the beginning of one key at most. -/
inductive KeyDisk.Kept (before : Option KeyFile) : KeyDisk → Prop
  | existing {file : KeyFile} : before = some file → Kept before ⟨some file, none, none⟩
  | absent : before = none → Kept before ⟨none, none, none⟩
  | created {i : Nat} {file : KeyFile} : before = none → file.Private → file.bytes = [] →
      Kept before ⟨some file, some i, none⟩
  | written {i : Nat} {file : KeyFile} {key : List UInt8} : before = none → file.Private →
      key.length = markerKeyBytes → file.bytes <+: key → Kept before ⟨some file, some i, some key⟩

section Changes

variable {before : Option KeyFile} {i j : Nat} {d d' : KeyDisk} {key : List UInt8}

theorem private_created (mask : Nat) : KeyFile.Private ⟨0o600 &&& mask, []⟩ := by
  show (0o600 &&& mask) &&& 0o77 = 0
  rw [Nat.and_comm 0o600, Nat.and_assoc, show 0o600 &&& 0o77 = 0 from rfl, Nat.and_zero]

/-- A file that was there is the only one that there is, and nobody writes it. -/
theorem KeyDisk.Kept.existing_eq {file : KeyFile} (hd : d.Kept before) (h : before = some file) :
    d = ⟨some file, none, none⟩ := by
  cases hd with
  | existing hbefore =>
    rw [h] at hbefore
    cases hbefore
    rfl
  | absent hbefore => rw [h] at hbefore; cases hbefore
  | created hbefore _ _ => rw [h] at hbefore; cases hbefore
  | written hbefore _ _ _ => rw [h] at hbefore; cases hbefore

theorem KeyDisk.Kept.created_private {file : KeyFile} (hd : d.Kept before) (h : before = none)
    (hfile : d.file = some file) : file.Private := by
  cases hd with
  | existing hexisting => rw [h] at hexisting; cases hexisting
  | absent _ => cases hfile
  | created _ hprivate _ =>
    cases hfile
    exact hprivate
  | written _ hprivate _ _ =>
    cases hfile
    exact hprivate

theorem kept_change (h : d.Changes i d') (hd : d.Kept before) : d'.Kept before := by
  cases h with
  | same => exact hd
  | created mask hnone =>
    cases hd with
    | existing _ => cases hnone
    | absent hbefore => exact .created hbefore (private_created mask) rfl
    | created _ _ _ => cases hnone
    | written _ _ _ _ => cases hnone
  | written count hfile hwriter hminted hlength =>
    cases hd with
    | existing _ => cases hwriter
    | absent _ => cases hwriter
    | created hbefore hprivate hempty =>
      cases hfile
      refine .written hbefore hprivate hlength ?_
      rw [hempty, List.nil_append]
      exact List.take_prefix _ _
    | written _ _ _ _ => cases hminted

/-- A key that was minted stays the one that was minted. -/
theorem minted_change (h : d.Changes i d') (hkey : d.minted = some key) :
    d'.minted = some key := by
  cases h with
  | same => exact hkey
  | created mask hnone => exact hkey
  | written count hfile hwriter hminted hlength =>
    rw [hminted] at hkey
    cases hkey

/-- The process is not the one that has created the file. -/
structure Outside (before : Option KeyFile) (i : Nat) (d : KeyDisk) : Prop where
  kept : d.Kept before
  writer : d.writer ≠ some i

theorem outside_change (hj : j ≠ i) (h : d.Changes j d') (hd : Outside before i d) :
    Outside before i d' := by
  refine ⟨kept_change h hd.kept, ?_⟩
  cases h with
  | same => exact hd.writer
  | created mask hnone => simpa using hj
  | written count hfile hwriter hminted hlength => exact hd.writer

/-- The process has created the file and not written to it. -/
structure Inside (before : Option KeyFile) (i : Nat) (d : KeyDisk) : Prop where
  kept : d.Kept before
  writer : d.writer = some i
  minted : d.minted = none

theorem inside_change (hj : j ≠ i) (h : d.Changes j d') (hd : Inside before i d) : d' = d := by
  cases h with
  | same => rfl
  | created mask hnone =>
    cases hd.kept with
    | existing _ => cases hnone
    | absent _ => cases hd.writer
    | created _ _ _ => cases hnone
    | written _ _ _ _ => cases hnone
  | written count hfile hwriter hminted hlength =>
    rw [hd.writer] at hwriter
    cases hwriter
    exact absurd rfl hj

/-- What a process has read: the file that was there, or the beginning of the key that was minted. -/
structure Read (before : Option KeyFile) (key : List UInt8) (d : KeyDisk) : Prop where
  kept : d.Kept before
  existing : ∀ file, before = some file → key = file.bytes
  minted : before = none → key = [] ∨ ∃ whole, d.minted = some whole ∧ key <+: whole

theorem read_of_file {file : KeyFile} (hd : d.Kept before) (hfile : d.file = some file) :
    Read before file.bytes d := by
  refine ⟨hd, fun f hf => ?_, fun hbefore => ?_⟩
  · rw [hd.existing_eq hf] at hfile
    cases hfile
    rfl
  · cases hd with
    | existing hexisting => rw [hbefore] at hexisting; cases hexisting
    | absent _ => cases hfile
    | created _ _ hempty =>
      cases hfile
      exact .inl hempty
    | written _ _ _ hpre =>
      cases hfile
      exact .inr ⟨_, rfl, hpre⟩

/-- The key of the file that was there, or the one that was minted. -/
structure Agreed (before : Option KeyFile) (key : List UInt8) (d : KeyDisk) : Prop where
  kept : d.Kept before
  existing : ∀ file, before = some file → key = file.bytes ∧ file.Private
  minted : before = none → d.minted = some key
  whole : markerKeyBytes ≤ key.length

theorem agreed_change (h : d.Changes j d') (hd : Agreed before key d) :
    Agreed before key d' :=
  ⟨kept_change h hd.kept, hd.existing, fun hbefore => minted_change h (hd.minted hbefore),
    hd.whole⟩

/-- What is long enough was read whole. -/
theorem Read.settled (hd : Read before key d) (hlong : markerKeyBytes ≤ key.length)
    (hprivate : ∀ file, before = some file → file.Private) : Agreed before key d := by
  refine ⟨hd.kept, fun file hfile => ⟨hd.existing file hfile, hprivate file hfile⟩,
    fun hbefore => ?_, hlong⟩
  rcases hd.minted hbefore with rfl | ⟨whole, hwhole, hpre⟩
  · cases hlong
  · have hlength : whole.length = markerKeyBytes := by
      cases hd.kept with
      | existing _ => cases hwhole
      | absent _ => cases hwhole
      | created _ _ _ => cases hwhole
      | written _ _ hlength _ =>
        cases hwhole
        exact hlength
    have heq : key = whole := hpre.eq_of_length_le (by omega)
    rw [heq]
    exact hwhole

end Changes

section Loading

variable {before : Option KeyFile} {i : Nat}

/-- The rules are about one process; what it raises says nothing. -/
abbrev Obeys {α : Type} (i : Nat) (P : KeyDisk → Prop) (x : KeyScript α) (Q : α → KeyDisk → Prop) :
    Prop :=
  (keyParties.world i).Triple (keyParties.changes i) P x Q fun _ => True

theorem stable_outside : (keyParties.world i).Stable (Outside before i) :=
  stable_of_changes fun _ _ _ hj hd h => outside_change hj h hd

theorem stable_inside : (keyParties.world i).Stable (Inside before i) :=
  stable_of_changes fun _ _ _ hj hd h => by rwa [inside_change hj h hd]

theorem stable_agreed {key : List UInt8} : (keyParties.world i).Stable (Agreed before key) :=
  stable_of_changes fun _ _ _ _ hd h => agreed_change h hd

theorem obeys_pathExists : Obeys i (Outside before i) KeyScript.pathExists
    fun _ => Outside before i := by
  have hsend : Obeys i (Outside before i) (send .pathExists : KeyScript KeyReply)
      fun _ => Outside before i := by
    refine triple_send stable_outside fun d reply d' hd hserves => ?_
    cases hserves with
    | pathExists => exact ⟨.same, hd⟩
    | fail => exact ⟨.same, hd⟩
  refine triple_bind hsend fun reply => ?_
  cases reply with
  | answer found => exact triple_pure fun _ hd => hd
  | raised error => exact triple_throw fun _ _ => trivial
  | done => exact triple_throw fun _ _ => trivial
  | mode bits => exact triple_throw fun _ _ => trivial
  | bytes content => exact triple_throw fun _ _ => trivial

theorem obeys_stat : Obeys i (Outside before i) KeyScript.stat
    fun bits d => (∀ file, before = some file → bits = file.mode) ∧ Outside before i d := by
  have hsend : Obeys i (Outside before i) (send .stat : KeyScript KeyReply) fun reply d =>
      (∀ bits, reply = .mode bits → ∀ file, before = some file → bits = file.mode) ∧
        Outside before i d := by
    refine triple_send stable_outside fun d reply d' hd hserves => ?_
    cases hserves with
    | @stat d file hfile =>
      refine ⟨.same, ?_, hd⟩
      rintro _ ⟨⟩ f hf
      rw [hd.kept.existing_eq hf] at hfile
      cases hfile
      rfl
    | fail => exact ⟨.same, nofun, hd⟩
  refine triple_bind hsend fun reply => ?_
  cases reply with
  | mode bits => exact triple_pure fun _ hd => ⟨hd.1 bits rfl, hd.2⟩
  | raised error => exact triple_throw fun _ _ => trivial
  | done => exact triple_throw fun _ _ => trivial
  | answer found => exact triple_throw fun _ _ => trivial
  | bytes content => exact triple_throw fun _ _ => trivial

theorem obeys_content {request : KeyRequest} {Q : List UInt8 → KeyDisk → Prop}
    (h : ∀ d reply d', Outside before i d → KeyDisk.Serves i request d reply d' →
      d' = d ∧ ∀ key, reply = .bytes key → Q key d) :
    Obeys i (Outside before i) (KeyScript.content request) Q := by
  have hsend : Obeys i (Outside before i) (send request : KeyScript KeyReply) fun reply d =>
      ∀ key, reply = .bytes key → Q key d := by
    refine triple_send stable_outside fun d reply d' hd hserves => ?_
    obtain ⟨rfl, hQ⟩ := h d reply d' hd hserves
    exact ⟨.same, hQ⟩
  refine triple_bind hsend fun reply => ?_
  cases reply with
  | bytes content => exact triple_pure fun _ hd => hd content rfl
  | raised error => exact triple_throw fun _ _ => trivial
  | done => exact triple_throw fun _ _ => trivial
  | answer found => exact triple_throw fun _ _ => trivial
  | mode bits => exact triple_throw fun _ _ => trivial

theorem obeys_readBytes : Obeys i (Outside before i) (KeyScript.content .readBytes)
    (Read before) := by
  refine obeys_content fun d reply d' hd hserves => ?_
  cases hserves with
  | readBytes hfile =>
    refine ⟨rfl, ?_⟩
    rintro _ ⟨⟩
    exact read_of_file hd.kept hfile
  | fail => exact ⟨rfl, nofun⟩

theorem obeys_tokenBytes : Obeys i (Outside before i)
    (KeyScript.content (.tokenBytes markerKeyBytes))
    fun key d => key.length = markerKeyBytes ∧ Outside before i d := by
  refine obeys_content fun d reply d' hd hserves => ?_
  cases hserves with
  | tokenBytes content hlength =>
    refine ⟨rfl, ?_⟩
    rintro _ ⟨⟩
    exact ⟨hlength, hd⟩
  | fail => exact ⟨rfl, nofun⟩

theorem obeys_perform {request : KeyRequest} {P Q : KeyDisk → Prop}
    (hP : (keyParties.world i).Stable P)
    (h : ∀ d reply d', P d → KeyDisk.Serves i request d reply d' →
      d.Changes i d' ∧ ((∀ error, reply ≠ .raised error) → Q d')) :
    Obeys i P (KeyScript.perform request) fun _ => Q := by
  have hsend : Obeys i P (send request : KeyScript KeyReply) fun reply d =>
      (∀ error, reply ≠ .raised error) → Q d :=
    triple_send hP h
  refine triple_bind hsend fun reply => ?_
  cases reply with
  | raised error => exact triple_throw fun _ _ => trivial
  | done => exact triple_pure fun _ hd => hd nofun
  | answer found => exact triple_pure fun _ hd => hd nofun
  | mode bits => exact triple_pure fun _ hd => hd nofun
  | bytes content => exact triple_pure fun _ hd => hd nofun

theorem obeys_create : Obeys i (Outside before i) (KeyScript.perform .create)
    fun _ => Inside before i := by
  refine obeys_perform stable_outside fun d reply d' hd hserves => ?_
  cases hserves with
  | create mask hnone =>
    have hchange : d.Changes i { d with file := some ⟨0o600 &&& mask, []⟩, writer := some i } :=
      .created mask hnone
    refine ⟨hchange, fun _ => ⟨kept_change hchange hd.kept, rfl, ?_⟩⟩
    cases hd.kept with
    | existing _ => cases hnone
    | absent _ => rfl
    | created _ _ _ => cases hnone
    | written _ _ _ _ => cases hnone
  | fail => exact ⟨.same, fun h => absurd rfl (h _)⟩

theorem obeys_write {key : List UInt8} (hlength : key.length = markerKeyBytes) :
    Obeys i (Inside before i) (KeyScript.perform (.write key)) fun _ => Agreed before key := by
  refine obeys_perform stable_inside fun d reply d' hd hserves => ?_
  cases hserves with
  | @write d file payload count hfile hwriter =>
    have hchange : d.Changes i
        { d with
          file := some { file with bytes := file.bytes ++ key.take count }
          minted := some key } := .written count hfile hwriter hd.minted hlength
    refine ⟨hchange, fun _ => ⟨kept_change hchange hd.kept, fun f hf => ?_, fun _ => rfl, ?_⟩⟩
    · rw [hd.kept.existing_eq hf] at hwriter
      cases hwriter
    · exact Nat.le_of_eq hlength.symm
  | fail => exact ⟨.same, fun h => absurd rfl (h _)⟩

theorem obeys_close {key : List UInt8} : Obeys i (Agreed before key) (KeyScript.perform .close)
    fun _ => Agreed before key := by
  refine obeys_perform stable_agreed fun d reply d' hd hserves => ?_
  cases hserves with
  | close => exact ⟨.same, fun _ => hd⟩
  | fail => exact ⟨.same, fun _ => hd⟩

/-- A process returns the key of the file that was there, or the one that was minted. -/
theorem obeys_markerKey (path : String) :
    Obeys i (Outside before i) (loadOrCreateMarkerKey path) (Agreed before) := by
  refine triple_bind obeys_pathExists fun found => ?_
  apply triple_ite
  · intro _
    refine triple_bind obeys_stat fun bits => triple_fact fun hbits => ?_
    apply triple_ite
    · intro _
      exact triple_throw fun _ _ => trivial
    intro hmode
    rw [not_not] at hmode
    have hprivate : ∀ file, before = some file → file.Private := by
      intro file hfile
      rw [KeyFile.Private, ← hbits file hfile]
      exact hmode
    refine triple_bind obeys_readBytes fun key => ?_
    apply triple_ite
    · intro _
      exact triple_throw fun _ _ => trivial
    · intro hlong
      exact triple_pure fun _ hd => hd.settled (Nat.le_of_not_lt hlong) hprivate
  · intro _
    refine triple_bind obeys_tokenBytes fun key => triple_fact fun hlength => ?_
    refine triple_bind obeys_create fun _ => ?_
    refine triple_bind (triple_andFinally (obeys_write hlength) (fun _ => obeys_close) ?_) fun _ =>
      triple_pure fun _ hd => hd
    exact obeys_perform (fun _ _ _ _ => trivial) fun d reply d' _ hserves => by
      cases hserves with
      | close => exact ⟨.same, fun _ => trivial⟩
      | fail => exact ⟨.same, fun _ => trivial⟩

end Loading

/-- However many processes ask for the key at once, in whatever order they go on and wherever some of
them stop: all that get a key get the same one, and it is not short. If the file was there, the key is
what it holds, nobody but its owner may read it, and it is never touched. A file that is created is
private from the start. -/
theorem marker_key_stable (path : String) (before : Option KeyFile)
    (s : Parties.State Nat Unit KeyRequest KeyReply KeyDisk (Except KeyError (List UInt8)))
    (h : Relation.ReflTransGen keyParties.Step
      ⟨⟨before, none, none⟩, fun _ => (loadOrCreateMarkerKey path).run⟩ s) :
    (∀ i j key key', s.programs i = .done (.ok key) → s.programs j = .done (.ok key') →
      key = key') ∧
    (∀ i key, s.programs i = .done (.ok key) → markerKeyBytes ≤ key.length) ∧
    (∀ file, before = some file → s.shared.file = some file ∧
      ∀ i key, s.programs i = .done (.ok key) → key = file.bytes ∧ file.Private) ∧
    ∀ file, before = none → s.shared.file = some file → file.Private := by
  have hkept : KeyDisk.Kept before ⟨before, none, none⟩ := by
    cases hbefore : before with
    | none => exact .absent rfl
    | some file => exact .existing rfl
  have hstable : ∀ i (res : Except KeyError (List UInt8)),
      (keyParties.world i).Stable (Ends (Agreed before) (fun _ => True) res) := by
    rintro i (error | key)
    · exact fun _ _ _ _ => trivial
    · exact stable_agreed
  have hsound := sound_reach hstable (fun i => obeys_markerKey path _ ⟨hkept, nofun⟩) h
  have hdone : ∀ i key, s.programs i = .done (.ok key) → Agreed before key s.shared :=
    fun i key hi => expected_of_done hsound hi
  have hfinal : s.shared.Kept before :=
    invariant_reach hstable (fun _ _ _ hd hchange => kept_change hchange hd)
      (fun i => obeys_markerKey path _ ⟨hkept, nofun⟩) hkept h
  refine ⟨fun i j key key' hi hj => ?_, fun i key hi => (hdone i key hi).whole,
    fun file hfile => ⟨?_, fun i key hi => (hdone i key hi).existing file hfile⟩,
    fun file hbefore hfile => ?_⟩
  · cases hbefore : before with
    | none =>
      have hkey := (hdone i key hi).minted hbefore
      rw [(hdone j key' hj).minted hbefore] at hkey
      exact (Option.some.inj hkey).symm
    | some file =>
      rw [((hdone i key hi).existing file hbefore).1, ((hdone j key' hj).existing file hbefore).1]
  · rw [hfinal.existing_eq hfile]
  · exact hfinal.created_private hbefore hfile

def sampleKey : List UInt8 := List.replicate 32 7

section Returning

variable {d d' : KeyDisk} {i : Nat}

theorem returns_key {request : KeyRequest} (h : KeyDisk.Serves i request d .done d') :
    (keyParties.world i).Returns (KeyScript.perform request) d () d' := by
  have hsend : (keyParties.world i).Returns (send request : KeyScript KeyReply) d .done d' :=
    returns_send h
  exact hsend.bind returns_pure

theorem returns_content {request : KeyRequest} {key : List UInt8}
    (h : KeyDisk.Serves i request d (.bytes key) d) :
    (keyParties.world i).Returns (KeyScript.content request) d key d := by
  have hsend : (keyParties.world i).Returns (send request : KeyScript KeyReply) d (.bytes key) d :=
    returns_send h
  exact hsend.bind returns_pure

theorem returns_pathExists :
    (keyParties.world i).Returns KeyScript.pathExists d d.file.isSome d := by
  have hsend : (keyParties.world i).Returns (send .pathExists : KeyScript KeyReply) d
      (.answer d.file.isSome) d :=
    returns_send .pathExists
  exact hsend.bind returns_pure

theorem returns_stat {file : KeyFile} (h : d.file = some file) :
    (keyParties.world i).Returns KeyScript.stat d file.mode d := by
  have hsend : (keyParties.world i).Returns (send .stat : KeyScript KeyReply) d (.mode file.mode)
      d := returns_send (.stat h)
  exact hsend.bind returns_pure

/-- The first process creates the file, and writes the key whole. -/
theorem returns_created (path : String) : (keyParties.world 0).Returns (loadOrCreateMarkerKey path)
    {} sampleKey ⟨some ⟨0o600, sampleKey⟩, some 0, some sampleKey⟩ := by
  refine returns_pathExists.bind ?_
  refine (returns_content (.tokenBytes sampleKey rfl)).bind ?_
  refine (returns_key (.create 0o777 rfl)).bind ?_
  exact ((returns_key (.write 32 rfl rfl)).andFinally (returns_key .close)).bind returns_pure

/-- The second one reads it. -/
theorem returns_loaded (path : String) : (keyParties.world 1).Returns (loadOrCreateMarkerKey path)
    ⟨some ⟨0o600, sampleKey⟩, some 0, some sampleKey⟩ sampleKey
    ⟨some ⟨0o600, sampleKey⟩, some 0, some sampleKey⟩ := by
  refine returns_pathExists.bind ((returns_stat rfl).bind ?_)
  exact (returns_content (.readBytes rfl)).bind returns_pure

end Returning

/-- Two processes, one after the other, and no file before them. -/
theorem marker_key_stable_sample :
    ∃ s : Parties.State Nat Unit KeyRequest KeyReply KeyDisk (Except KeyError (List UInt8)),
      s.programs 0 = .done (.ok sampleKey) ∧ s.programs 1 = .done (.ok sampleKey) ∧
      (∀ i j key key', s.programs i = .done (.ok key) → s.programs j = .done (.ok key') →
        key = key') ∧
      (∀ i key, s.programs i = .done (.ok key) → markerKeyBytes ≤ key.length) ∧
      (∀ file, none = some file → s.shared.file = some file ∧
        ∀ i key, s.programs i = .done (.ok key) → key = file.bytes ∧ file.Private) ∧
      ∀ file, (none : Option KeyFile) = none → s.shared.file = some file → file.Private := by
  obtain ⟨created, hcreated⟩ := returns_created "marker-key"
  obtain ⟨loaded, hloaded⟩ := returns_loaded "marker-key"
  have hfirst : Relation.ReflTransGen keyParties.Step
      ⟨{}, fun _ => (loadOrCreateMarkerKey "marker-key").run⟩ _ :=
    Parties.reach_of_conducts rfl hcreated
  have hsecond := hfirst.trans
    (Parties.reach_of_conducts (Function.update_of_ne (by decide : (1 : Nat) ≠ 0) _ _) hloaded)
  exact ⟨_, by simp, by simp, marker_key_stable "marker-key" none _ hsecond⟩

end Yatagarasu.Cmux
