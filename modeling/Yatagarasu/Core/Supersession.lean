import Mathlib.Data.List.Infix
import Yatagarasu.Core.Revocation

/-! A supersession reads the old binding first and writes in a transaction of its own, so another
connection may write in between. A revocation is one guarded statement. -/

namespace Yatagarasu

open Sqlite

inductive BindingCall
  | supersede (oldBindingId : String) (replacement : SessionBinding)
  | revoke (bindingId : String)

/-- A call that has not started, one that has read, and one that returned or raised. -/
inductive BindingProgress
  | pending
  | checked
  | finished (result : Except PyError Unit)

/-- A connection that was just opened on the database. -/
def opened (t : Tables) : CoreStore := { committed := t, working := t }

/-- The transaction of a supersession. -/
def supersedeBlock (oldBindingId : String) (replacement : SessionBinding) : Block Unit := do
  Sqlite.insert (CoreStore.setBindingState oldBindingId .superseded)
  CoreStore.insertSessionBinding replacement

namespace BindingCall

def method [Host] : BindingCall → Method Unit
  | supersede oldBindingId replacement =>
    CoreStore.supersedeSessionBinding oldBindingId replacement
  | revoke bindingId => CoreStore.revokeSessionBinding bindingId

def steps : BindingCall → Nat
  | supersede _ _ => 2
  | revoke _ => 1

/-- The call on the database by itself. -/
def alone [Host] (call : BindingCall) (t : Tables) : Except PyError Unit × Tables :=
  ((call.method.exec (opened t)).1, (call.method.exec (opened t)).2.committed)

/-- A write transaction of the call. -/
def write (x : Method Unit) (t : Tables) : Tables × BindingProgress :=
  ((x.exec (opened t)).2.committed, .finished (x.exec (opened t)).1)

def step [Host] (call : BindingCall) (t : Tables) : BindingProgress → Tables × BindingProgress
  | .pending =>
    match call with
    | supersede oldBindingId replacement =>
      match CoreStore.validateSupersession oldBindingId replacement t with
      | .ok _ => (t, .checked)
      | .error e => (t, .finished (.error e))
    | revoke bindingId => write (CoreStore.revokeSessionBinding bindingId) t
  | .checked =>
    match call with
    | supersede oldBindingId replacement =>
      write (withConnection (supersedeBlock oldBindingId replacement)) t
    | revoke _ => (t, .checked)
  | .finished result => (t, .finished result)

end BindingCall

/-- Two calls, each on a connection of its own. -/
structure Race where
  tables : Tables
  first : BindingProgress := .pending
  second : BindingProgress := .pending

namespace Race

variable [Host] (a b : BindingCall)

def step (s : Race) (isFirst : Bool) : Race :=
  if isFirst then { s with tables := (a.step s.tables s.first).1
                           first := (a.step s.tables s.first).2 }
  else { s with tables := (b.step s.tables s.second).1, second := (b.step s.tables s.second).2 }

def run (order : List Bool) (t : Tables) : Race := order.foldl (step a b) { tables := t }

end Race

/-- An order of all the steps of two calls. -/
def Interleaves (a b : BindingCall) (order : List Bool) : Prop :=
  order.Perm (List.replicate a.steps true ++ List.replicate b.steps false)

/-- At most one call succeeds, a revoked binding stays revoked, and the bindings end as in one of
the serial orders. -/
structure RaceSerialisable [Host] (a b : BindingCall) (order : List Bool) (t : Tables) :
    Prop where
  atMostOne : ¬ ((Race.run a b order t).first = .finished (.ok ()) ∧
    (Race.run a b order t).second = .finished (.ok ()))
  revoked : ∀ before after, order = before ++ after →
    ∀ row ∈ (Race.run a b before t).tables.sessionBindings, row.state = .revoked →
      row ∈ (Race.run a b order t).tables.sessionBindings
  serial : (Race.run a b order t).tables.sessionBindings =
      (b.alone (a.alone t).2).2.sessionBindings ∨
    (Race.run a b order t).tables.sessionBindings = (a.alone (b.alone t).2).2.sessionBindings

section Steps

variable [Host] {t t' : Tables} {oldBindingId : String} {r : SessionBinding} {e : PyError}

omit [Host] in
theorem write_ok (h : (supersedeBlock oldBindingId r).run t = .ok ((), t')) :
    BindingCall.write (withConnection (supersedeBlock oldBindingId r)) t =
      (t', .finished (.ok ())) := by
  have h : supersedeBlock oldBindingId r t = .ok ((), t') := h
  simp [BindingCall.write, withConnection, Action.exec, ExceptT.run, StateT.run, opened, h]

omit [Host] in
theorem write_error (h : (supersedeBlock oldBindingId r).run t = .error e) :
    BindingCall.write (withConnection (supersedeBlock oldBindingId r)) t =
      (t, .finished (.error e)) := by
  have h : supersedeBlock oldBindingId r t = .error e := h
  simp [BindingCall.write, withConnection, Action.exec, ExceptT.run, StateT.run, opened, h]

theorem alone_refused (h : CoreStore.validateSupersession oldBindingId r t = .error e) :
    (BindingCall.supersede oldBindingId r).alone t = (.error e, t) := by
  have hquery : CoreStore.validateSupersession oldBindingId r (opened t).working = .error e := h
  unfold BindingCall.alone BindingCall.method CoreStore.supersedeSessionBinding
  rw [exec_query_bind, hquery]
  rfl

theorem alone_checked (h : CoreStore.validateSupersession oldBindingId r t = .ok ()) :
    ((BindingCall.supersede oldBindingId r).alone t).2 =
      (BindingCall.write (withConnection (supersedeBlock oldBindingId r)) t).1 := by
  have hquery : CoreStore.validateSupersession oldBindingId r (opened t).working = .ok () := h
  unfold BindingCall.alone BindingCall.method CoreStore.supersedeSessionBinding
  rw [exec_query_bind, hquery]
  rfl

end Steps

/-- A row of this binding is active. -/
def ActiveIn (t : Tables) (bindingId : String) : Prop :=
  ∃ row ∈ t.sessionBindings, row.bindingId = bindingId ∧ row.state = .active

section Active

variable {t t' : Tables} {oldBindingId : String} {r : SessionBinding}

theorem activeIn_of_validated [Host]
    (h : CoreStore.validateSupersession oldBindingId r t = .ok ()) : ActiveIn t oldBindingId := by
  obtain ⟨old, hold, hactive, -⟩ := validateSupersession_ok h
  unfold Tables.sessionBinding at hold
  exact ⟨old, List.mem_of_find?_eq_some hold, by simpa using List.find?_some hold, hactive⟩

theorem refused_of_inactive [Host] (h : ¬ ActiveIn t oldBindingId) :
    ∃ e, CoreStore.validateSupersession oldBindingId r t = .error e := by
  cases hvalid : CoreStore.validateSupersession oldBindingId r t with
  | error e => exact ⟨e, rfl⟩
  | ok _ => exact absurd (activeIn_of_validated hvalid) h

theorem revokeActive_misses (h : ¬ ActiveIn t oldBindingId) :
    (CoreStore.revokeActive oldBindingId t).2 ≠ 1 := by
  have hzero : (CoreStore.revokeActive oldBindingId t).2 = 0 := by
    refine List.countP_eq_zero.mpr fun row hrow hhit => h ?_
    exact ⟨row, hrow, of_decide_eq_true hhit⟩
  omega

theorem revokeActive_hits (hk : Keyed t) (h : ActiveIn t oldBindingId) :
    (CoreStore.revokeActive oldBindingId t).2 = 1 := by
  obtain ⟨row, hrow, hhit⟩ := h
  have hle := countP_key_le_one (k := oldBindingId)
    (p := fun row : SessionBindingRow => decide (row.bindingId = oldBindingId ∧ row.state = .active))
    hk.sessionBindings fun row hrow => (of_decide_eq_true hrow).1
  have hpos : 0 < t.sessionBindings.countP fun row =>
      decide (row.bindingId = oldBindingId ∧ row.state = .active) :=
    List.countP_pos_iff.mpr ⟨row, hrow, decide_eq_true hhit⟩
  exact Nat.le_antisymm hle hpos

theorem inactive_revoked : ¬ ActiveIn (CoreStore.revokeActive oldBindingId t).1 oldBindingId := by
  rintro ⟨row', hrow', hid, hactive⟩
  obtain ⟨row, -, rfl⟩ := List.mem_map.mp hrow'
  split at hactive
  · cases hactive
  · rename_i hmiss
    rw [if_neg hmiss] at hid
    exact hmiss (decide_eq_true ⟨hid, hactive⟩)

theorem inactive_retired : ¬ ActiveIn (retired t oldBindingId) oldBindingId := by
  rintro ⟨row', hrow', hid, hactive⟩
  obtain ⟨row, -, rfl⟩ := List.mem_map.mp hrow'
  split at hactive
  · cases hactive
  · rename_i hmiss
    rw [if_neg hmiss] at hid
    exact hmiss hid

theorem revokeActive_same (h : ¬ ActiveIn t oldBindingId) :
    (CoreStore.revokeActive oldBindingId t).1 = t := by
  have hzero : t.sessionBindings.countP (fun row =>
      decide (row.bindingId = oldBindingId ∧ row.state = .active)) = 0 :=
    List.countP_eq_zero.mpr fun row hrow hhit => h ⟨row, hrow, of_decide_eq_true hhit⟩
  simp only [CoreStore.revokeActive]
  rw [map_of_countP_zero hzero]

/-- A revocation on its own database hits the active row. -/
theorem write_revoke (hk : Keyed t) (h : ActiveIn t oldBindingId) :
    BindingCall.write (CoreStore.revokeSessionBinding oldBindingId) t =
      ((CoreStore.revokeActive oldBindingId t).1, .finished (.ok ())) := by
  cases hexec : (CoreStore.revokeSessionBinding oldBindingId).exec (opened t) with
  | mk res c' =>
    obtain ⟨hclean, ⟨-, rfl, hw⟩ | ⟨hn, -, -⟩⟩ := guardedUpdate_cases
      (rfl : Clean (opened t)) (revokeActive_idle hk) hexec
    · rw [BindingCall.write, hexec, ← hclean, hw]
      rfl
    · exact absurd (revokeActive_hits hk h) hn

/-- It changes nothing where no row is active. -/
theorem write_revoke_missed (h : ¬ ActiveIn t oldBindingId) :
    BindingCall.write (CoreStore.revokeSessionBinding oldBindingId) t =
      (t, .finished (.error (.valueError "binding_not_active"))) := by
  cases hexec : (CoreStore.revokeSessionBinding oldBindingId).exec (opened t) with
  | mk res c' =>
    obtain ⟨hclean, ⟨hn, -, -⟩ | ⟨-, rfl, hw⟩⟩ := guardedUpdate_cases
      (rfl : Clean (opened t)) (fun _ => revokeActive_same h) hexec
    · exact absurd hn (revokeActive_misses h)
    · rw [BindingCall.write, hexec, ← hclean, hw]
      rfl

/-- A supersession that went through leaves the old binding inactive. -/
theorem inactive_superseded (hactive : ActiveIn t oldBindingId)
    (hbindable : Bindable (retired t oldBindingId) r) :
    ¬ ActiveIn (bound (retired t oldBindingId) r) oldBindingId := by
  rintro ⟨row, hrow, hid, hstate⟩
  rcases List.mem_append.mp hrow with hrow | hrow
  · exact inactive_retired ⟨row, hrow, hid, hstate⟩
  · obtain ⟨old, hold, holdid, -⟩ := hactive
    cases List.mem_singleton.mp hrow
    refine hbindable.unused { old with state := .superseded } ?_ (holdid.trans hid.symm)
    refine List.mem_map.mpr ⟨old, hold, ?_⟩
    rw [if_pos holdid]

/-- A second replacement meets the first one in the unique index. -/
theorem supersedeBlock_conflict {other : SessionBindingRow} (hother : other ∈ t.sessionBindings)
    (hid : other.bindingId ≠ oldBindingId) (hactive : other.state = .active)
    (hrecipient : other.recipientId = r.recipientId) (hr : r.state = .active) :
    ∃ e, (supersedeBlock oldBindingId r).run t = .error e := by
  cases hrun : (supersedeBlock oldBindingId r).run t with
  | error e => exact ⟨e, rfl⟩
  | ok result =>
    obtain ⟨hbindable, -⟩ := supersedeBlock_ok hrun
    refine absurd hactive (hbindable.alone hr other (List.mem_map.mpr ⟨other, hother, ?_⟩)
      hrecipient)
    rw [if_neg hid]

end Active

/-- The foreign key of `binding_proof_methods`. -/
def MethodsOwned (t : Tables) : Prop :=
  ∀ row ∈ t.bindingProofMethods, ∃ b ∈ t.sessionBindings, b.bindingId = row.bindingId

section Install

variable {t t' : Tables} {oldBindingId : String} {r : SessionBinding}

theorem methodsOwned_bound (h : MethodsOwned t) : MethodsOwned (bound t r) := by
  intro row hrow
  rcases List.mem_append.mp hrow with hrow | hrow
  · obtain ⟨b, hb, hid⟩ := h row hrow
    exact ⟨b, List.mem_append_left _ hb, hid⟩
  · obtain ⟨registration, -, rfl⟩ := List.mem_map.mp hrow
    exact ⟨_, List.mem_append_right _ (List.mem_singleton_self _), rfl⟩

theorem methodsOwned_map {f : SessionBindingRow → SessionBindingRow}
    (hf : ∀ row, (f row).bindingId = row.bindingId) (h : MethodsOwned t)
    (hbindings : t'.sessionBindings = t.sessionBindings.map f)
    (hmethods : t'.bindingProofMethods = t.bindingProofMethods) : MethodsOwned t' := by
  intro row hrow
  rw [hmethods] at hrow
  obtain ⟨b, hb, hid⟩ := h row hrow
  exact ⟨f b, hbindings ▸ List.mem_map_of_mem hb, (hf b).trans hid⟩

theorem retired_id (row : SessionBindingRow) : (if row.bindingId = oldBindingId then
    { row with state := .superseded } else row : SessionBindingRow).bindingId = row.bindingId := by
  split <;> rfl

theorem methodsOwned_step [Host] {op : Op} (h : Effect t op t') (howned : MethodsOwned t) :
    MethodsOwned t' := by
  cases h with
  | bound => exact methodsOwned_bound howned
  | superseded => exact methodsOwned_bound (methodsOwned_map retired_id howned rfl rfl)
  | revoked =>
    refine methodsOwned_map (fun row => ?_) howned rfl rfl
    split <;> rfl
  | _ => exact howned

/-- What a binding that passed validation says of itself and of the store. -/
theorem validateSessionBinding_ok [Host] (h : CoreStore.validateSessionBinding r t = .ok ()) :
    r.state = .active ∧ (∃ p ∈ t.providers, p.providerId = r.providerId) ∧
      (r.proofMethods.map (·.proofMethod)).Nodup ∧
      (∃ ends, parseTimestamp r.expiresAt = .ok ends) ∧
      ∃ established, parseTimestamp r.establishedAt = .ok established := by
  unfold CoreStore.validateSessionBinding at h
  dsimp only at h
  obtain ⟨hstate, h⟩ := guard_ok.mp h
  obtain ⟨-, h⟩ := guard_ok.mp h
  obtain ⟨ends, hends, h⟩ := except_bind_ok.mp h
  obtain ⟨established, hestablished, h⟩ := except_bind_ok.mp h
  obtain ⟨-, h⟩ := guard_ok.mp h
  obtain ⟨hprovider, h⟩ := guard_ok.mp h
  obtain ⟨-, h⟩ := guard_ok.mp h
  obtain ⟨hnames, -⟩ := guard_ok.mp h
  rw [not_or, not_not] at hnames
  refine ⟨not_not.mp hstate, ?_, hnames.1, ⟨ends, hends⟩, established, hestablished⟩
  obtain ⟨p, hp, -⟩ := Option.map_eq_some_iff.mp (not_not.mp hprovider)
  exact ⟨p, List.mem_of_find?_eq_some hp, by simpa using List.find?_some hp⟩

theorem insertProofMethods_succeeds {bindingId : String} {methods : List ProofMethodRegistration}
    (hnodup : (methods.map (·.proofMethod)).Nodup)
    (hfresh : ∀ row ∈ t.bindingProofMethods, row.bindingId = bindingId →
      ∀ method ∈ methods, row.registration.proofMethod ≠ method.proofMethod)
    (howner : ∃ b ∈ t.sessionBindings, b.bindingId = bindingId) :
    ∃ t', (CoreStore.insertProofMethods bindingId methods).run t = .ok ((), t') := by
  induction methods generalizing t with
  | nil => exact ⟨t, rfl⟩
  | cons method rest ih =>
    rw [List.map_cons, List.nodup_cons] at hnodup
    obtain ⟨b, hb, hid⟩ := howner
    have hrow : t.insertProofMethod ⟨bindingId, method⟩ = some { t with
        bindingProofMethods := t.bindingProofMethods ++ [⟨bindingId, method⟩] } := by
      unfold Tables.insertProofMethod
      rw [if_neg]
      rintro (hold | howner)
      · obtain ⟨old, hold, hsame⟩ := List.any_eq_true.mp hold
        obtain ⟨hsameid, hsamemethod⟩ := of_decide_eq_true hsame
        exact hfresh old hold hsameid method List.mem_cons_self hsamemethod
      · exact howner (List.any_eq_true.mpr ⟨b, hb, by simp [hid]⟩)
    have hothers : ∀ row ∈ t.bindingProofMethods ++ [⟨bindingId, method⟩],
        row.bindingId = bindingId → ∀ other ∈ rest,
          row.registration.proofMethod ≠ other.proofMethod := by
      intro row hrow hrowid other hother
      rcases List.mem_append.mp hrow with hrow | hrow
      · exact hfresh row hrow hrowid other (List.mem_cons_of_mem _ hother)
      · rw [List.mem_singleton.mp hrow]
        intro hsame
        exact hnodup.1 (List.mem_map.mpr ⟨other, hother, hsame.symm⟩)
    obtain ⟨t', ht'⟩ := ih (t := { t with
        bindingProofMethods := t.bindingProofMethods ++ [⟨bindingId, method⟩] }) hnodup.2
      hothers ⟨b, hb, hid⟩
    exact ⟨t', block_bind_ok.mpr ⟨(), _, insert_ok.mpr hrow, ht'⟩⟩

/-- On a store that satisfies its constraints, a bindable binding that was validated goes in. -/
theorem insertSessionBinding_succeeds (hbindable : Bindable t r) (howned : MethodsOwned t)
    (hprovider : ∃ p ∈ t.providers, p.providerId = r.providerId)
    (hnodup : (r.proofMethods.map (·.proofMethod)).Nodup) :
    ∃ t', (CoreStore.insertSessionBinding r).run t = .ok ((), t') := by
  have hrow : t.insertSessionBindingRow (CoreStore.bindingRow r) = some { t with
      sessionBindings := t.sessionBindings ++ [CoreStore.bindingRow r] } := by
    unfold Tables.insertSessionBindingRow
    rw [if_neg]
    rintro (hold | ⟨hactive, hold⟩ | hmissing)
    · obtain ⟨old, hold, hid⟩ := List.any_eq_true.mp hold
      exact hbindable.unused old hold (of_decide_eq_true hid)
    · obtain ⟨old, hold, hsame⟩ := List.any_eq_true.mp hold
      obtain ⟨hrecipient, hstate⟩ := of_decide_eq_true hsame
      exact hbindable.alone hactive old hold hrecipient hstate
    · obtain ⟨p, hp, hid⟩ := hprovider
      exact hmissing (List.any_eq_true.mpr ⟨p, hp, by simp [CoreStore.bindingRow, hid]⟩)
  have hfresh : ∀ row ∈ t.bindingProofMethods, row.bindingId = r.bindingId →
      ∀ method ∈ r.proofMethods, row.registration.proofMethod ≠ method.proofMethod := by
    intro row hrow hid
    obtain ⟨b, hb, hbid⟩ := howned row hrow
    exact absurd (hbid.trans hid) (hbindable.unused b hb)
  obtain ⟨t', ht'⟩ := insertProofMethods_succeeds (t := { t with
      sessionBindings := t.sessionBindings ++ [CoreStore.bindingRow r] }) hnodup hfresh
    ⟨CoreStore.bindingRow r, List.mem_append_right _ (List.mem_singleton_self _), rfl⟩
  exact ⟨t', block_bind_ok.mpr ⟨(), _, insert_ok.mpr hrow, ht'⟩⟩

end Install

section Races

variable [Host] {t : Tables} {a b : BindingCall} {order : List Bool} {oldBindingId : String}
  {r other : SessionBinding}

/-- The write of a supersession lands after a revocation that its read did not see, and its
replacement has a new id. -/
def Overwrites (a b : BindingCall) (order : List Bool) (t : Tables) : Prop :=
  ∃ oldBindingId replacement, a = .supersede oldBindingId replacement ∧
    b = .revoke oldBindingId ∧ order = [true, false, true] ∧
    CoreStore.validateSupersession oldBindingId replacement t = .ok () ∧
    ∀ row ∈ t.sessionBindings, row.bindingId ≠ replacement.bindingId

theorem step_read (h : CoreStore.validateSupersession oldBindingId r t = .ok ()) :
    (BindingCall.supersede oldBindingId r).step t .pending = (t, .checked) := by
  simp [BindingCall.step, h]

theorem step_refused {e : PyError}
    (h : CoreStore.validateSupersession oldBindingId r t = .error e) :
    (BindingCall.supersede oldBindingId r).step t .pending = (t, .finished (.error e)) := by
  simp [BindingCall.step, h]

theorem step_finished (call : BindingCall) (result : Except PyError Unit) :
    call.step t (.finished result) = (t, .finished result) := rfl

/-- A race with one change of the tables at most, which a serial order makes too. -/
theorem raceSerialisable_of {T : Tables} {first second : BindingProgress}
    (hrun : Race.run a b order t = ⟨T, first, second⟩)
    (hone : ¬ (first = .finished (.ok ()) ∧ second = .finished (.ok ())))
    (hlast : BindingsLast t T)
    (hbefores : ∀ before ∈ order.inits, (Race.run a b before t).tables = t ∨
      (Race.run a b before t).tables = T)
    (hserial : T = (b.alone (a.alone t).2).2 ∨ T = (a.alone (b.alone t).2).2) :
    RaceSerialisable a b order t := by
  refine ⟨by rwa [hrun], fun before after heq row hrow hrevoked => ?_, ?_⟩
  · rw [hrun]
    have hmem : before ∈ order.inits := by
      rw [List.mem_inits, heq]
      exact List.prefix_append _ _
    rcases hbefores before hmem with htables | htables
    · rw [htables] at hrow
      obtain ⟨row', hrow', -, hkept⟩ := hlast row hrow
      have hsame : row' = row := hkept (by rw [hrevoked]; decide)
      exact hsame ▸ hrow'
    · rwa [htables] at hrow
  · rw [hrun]
    rcases hserial with rfl | rfl
    · exact Or.inl rfl
    · exact Or.inr rfl

omit [Host] in
theorem interleaves_revoke (h : Interleaves (.supersede oldBindingId r) (.revoke oldBindingId) order) :
    order = [true, true, false] ∨ order = [true, false, true] ∨ order = [false, true, true] := by
  have hperm : order.Perm [true, true, false] := h
  have hlength : order.length = 3 := hperm.length_eq
  obtain ⟨x, y, z, rfl⟩ := List.length_eq_three.mp hlength
  clear h hlength
  revert x y z
  decide

omit [Host] in
theorem interleaves_supersede
    (h : Interleaves (.supersede oldBindingId r) (.supersede oldBindingId other) order) :
    order ∈ [[true, true, false, false], [true, false, true, false], [false, true, true, false],
      [true, false, false, true], [false, true, false, true], [false, false, true, true]] := by
  have hperm : order.Perm [true, true, false, false] := h
  have hlength : order.length = 4 := hperm.length_eq
  obtain ⟨w, rest, rfl⟩ := List.exists_cons_of_length_eq_add_one hlength
  obtain ⟨x, y, z, rfl⟩ := List.length_eq_three.mp (Nat.succ.inj hlength)
  clear h hlength
  revert w x y z
  decide

/-- The constraints of the schema on bindings. -/
structure Constrained (t : Tables) : Prop where
  keyed : Keyed t
  oneActive : OneActive t
  methods : MethodsOwned t

/-- Where the old binding is not active, only the other call counts. -/
theorem race_refused_revoke {e : PyError} (hs : Constrained t)
    (h : CoreStore.validateSupersession oldBindingId r t = .error e)
    (horder : Interleaves (.supersede oldBindingId r) (.revoke oldBindingId) order) :
    RaceSerialisable (.supersede oldBindingId r) (.revoke oldBindingId) order t := by
  obtain ⟨T, second, hwrite⟩ : ∃ T second,
      BindingCall.write (CoreStore.revokeSessionBinding oldBindingId) t = (T, second) := ⟨_, _, rfl⟩
  have hrevoke : (BindingCall.revoke oldBindingId).step t .pending = (T, second) := hwrite
  have hinactive : ¬ ActiveIn T oldBindingId ∧ BindingsLast t T := by
    by_cases hactive : ActiveIn t oldBindingId
    · rw [write_revoke hs.keyed hactive] at hwrite
      cases hwrite
      exact ⟨inactive_revoked, bindingsLast_step hs.keyed (.revoked)⟩
    · rw [write_revoke_missed hactive] at hwrite
      cases hwrite
      exact ⟨hactive, bindingsLast_of_eq rfl⟩
  obtain ⟨e', hrefused⟩ := refused_of_inactive (r := r) hinactive.1
  have hread := step_refused h
  have hread' := step_refused hrefused
  have hserial : T = ((BindingCall.revoke oldBindingId).alone
      ((BindingCall.supersede oldBindingId r).alone t).2).2 := by
    rw [alone_refused h]
    exact (congrArg Prod.fst hwrite).symm
  rcases interleaves_revoke horder with rfl | rfl | rfl
  · have hrun : Race.run (.supersede oldBindingId r) (.revoke oldBindingId) [true, true, false] t =
        ⟨T, .finished (.error e), second⟩ := by
      simp [Race.run, Race.step, hread, hrevoke, step_finished]
    refine raceSerialisable_of hrun (by simp) hinactive.2 ?_ (Or.inl hserial)
    simp [Race.run, Race.step, hread, hrevoke, step_finished]
  · have hrun : Race.run (.supersede oldBindingId r) (.revoke oldBindingId) [true, false, true] t =
        ⟨T, .finished (.error e), second⟩ := by
      simp [Race.run, Race.step, hread, hrevoke, step_finished]
    refine raceSerialisable_of hrun (by simp) hinactive.2 ?_ (Or.inl hserial)
    simp [Race.run, Race.step, hread, hrevoke, step_finished]
  · have hrun : Race.run (.supersede oldBindingId r) (.revoke oldBindingId) [false, true, true] t =
        ⟨T, .finished (.error e'), second⟩ := by
      simp [Race.run, Race.step, hread', hrevoke, step_finished]
    refine raceSerialisable_of hrun (by simp) hinactive.2 ?_ (Or.inl hserial)
    simp [Race.run, Race.step, hread', hrevoke, step_finished]

/-- A replacement with an unused id goes in over a revoked binding too. -/
theorem supersedeBlock_over_revoked (hs : Constrained t)
    (hvalid : CoreStore.validateSupersession oldBindingId r t = .ok ()) :
    (∃ t', (supersedeBlock oldBindingId r).run (CoreStore.revokeActive oldBindingId t).1 =
        .ok ((), t')) ↔ ∀ row ∈ t.sessionBindings, row.bindingId ≠ r.bindingId := by
  obtain ⟨old, hold, hactive, hrecipient, hbinding⟩ := validateSupersession_ok hvalid
  obtain ⟨hmem, hid⟩ := (sessionBinding_eq_some hs.keyed).mp hold
  obtain ⟨hstate, hprovider, hnodup, -⟩ := validateSessionBinding_ok hbinding
  have hids : ∀ row, row ∈ (retired (CoreStore.revokeActive oldBindingId t).1
      oldBindingId).sessionBindings → ∃ row' ∈ t.sessionBindings, row'.bindingId = row.bindingId ∧
      row'.recipientId = row.recipientId ∧
      (row.state = .active → row' = row ∧ row.bindingId ≠ oldBindingId) := by
    intro row hrow
    obtain ⟨mid, hmid, rfl⟩ := List.mem_map.mp hrow
    obtain ⟨first, hfirst, rfl⟩ := List.mem_map.mp hmid
    by_cases hsame : first.bindingId = oldBindingId
    · refine ⟨first, hfirst, ?_⟩
      by_cases hrevoked : first.state = .active <;> simp [hsame, hrevoked]
    · exact ⟨first, hfirst, by simp [hsame]⟩
  constructor
  · rintro ⟨t', hrun⟩ row hrow
    obtain ⟨hbindable, -⟩ := supersedeBlock_ok hrun
    intro hsame
    have hstays : ∃ row' ∈ (retired (CoreStore.revokeActive oldBindingId t).1
        oldBindingId).sessionBindings, row'.bindingId = row.bindingId := by
      refine ⟨_, List.mem_map_of_mem (List.mem_map_of_mem hrow), ?_⟩
      rw [retired_id]
      split <;> rfl
    obtain ⟨row', hrow', hid'⟩ := hstays
    exact hbindable.unused row' hrow' (hid'.trans hsame)
  · intro hfresh
    have hbindable : Bindable (retired (CoreStore.revokeActive oldBindingId t).1 oldBindingId) r := by
      refine ⟨fun row hrow hsame => ?_, fun _ row hrow hsame hactive' => ?_⟩
      · obtain ⟨row', hrow', hid', -⟩ := hids row hrow
        exact hfresh row' hrow' (hid'.trans hsame)
      · obtain ⟨row', hrow', -, -, hkept⟩ := hids row hrow
        obtain ⟨rfl, hother⟩ := hkept hactive'
        -- the old binding was the only active one of its recipient
        exact hother (hs.oneActive row' hrow' old hmem hactive' hactive
          (hsame.trans hrecipient.symm) ▸ hid)
    have howned : MethodsOwned (retired (CoreStore.revokeActive oldBindingId t).1 oldBindingId) :=
      methodsOwned_map retired_id (methodsOwned_step .revoked hs.methods) rfl rfl
    obtain ⟨t', ht'⟩ := insertSessionBinding_succeeds hbindable howned hprovider hnodup
    exact ⟨t', block_bind_ok.mpr ⟨(), _, insert_ok.mpr rfl, ht'⟩⟩

/-- A supersession that reads an active binding, against a revocation of it. -/
theorem race_checked_revoke (hs : Constrained t)
    (hvalid : CoreStore.validateSupersession oldBindingId r t = .ok ())
    (horder : Interleaves (.supersede oldBindingId r) (.revoke oldBindingId) order) :
    RaceSerialisable (.supersede oldBindingId r) (.revoke oldBindingId) order t ↔
      ¬ Overwrites (.supersede oldBindingId r) (.revoke oldBindingId) order t := by
  have hactive := activeIn_of_validated hvalid
  have hread := step_read hvalid
  have hwrite := write_revoke hs.keyed hactive
  have hrevoke : (BindingCall.revoke oldBindingId).step t .pending =
      ((CoreStore.revokeActive oldBindingId t).1, .finished (.ok ())) := hwrite
  have hrevoked : ((BindingCall.revoke oldBindingId).alone t).2 =
      (CoreStore.revokeActive oldBindingId t).1 := congrArg Prod.fst hwrite
  have hlast : BindingsLast t (CoreStore.revokeActive oldBindingId t).1 :=
    bindingsLast_step hs.keyed .revoked
  obtain ⟨e, hrefused⟩ := refused_of_inactive (r := r) (inactive_revoked (t := t))
  have hserial : (CoreStore.revokeActive oldBindingId t).1 = ((BindingCall.supersede oldBindingId
      r).alone ((BindingCall.revoke oldBindingId).alone t).2).2 := by
    rw [hrevoked, alone_refused hrefused]
  rcases interleaves_revoke horder with rfl | rfl | rfl
  · refine iff_of_true ?_ (by rintro ⟨_, _, -, -, horder, -⟩; cases horder)
    cases hblock : (supersedeBlock oldBindingId r).run t with
    | ok result =>
      obtain ⟨⟨⟩, t'⟩ := result
      obtain ⟨hbindable, rfl⟩ := supersedeBlock_ok hblock
      have hinactive := inactive_superseded hactive hbindable
      have hstep : (BindingCall.supersede oldBindingId r).step t .checked = _ := write_ok hblock
      have hmissed : (BindingCall.revoke oldBindingId).step
          (bound (retired t oldBindingId) r) .pending = _ := write_revoke_missed hinactive
      have hrun : Race.run (.supersede oldBindingId r) (.revoke oldBindingId) [true, true, false] t =
          ⟨bound (retired t oldBindingId) r, .finished (.ok ()),
            .finished (.error (.valueError "binding_not_active"))⟩ := by
        simp [Race.run, Race.step, hread, hstep, hmissed]
      refine raceSerialisable_of hrun (by simp)
        (bindingsLast_step hs.keyed (.superseded hvalid hbindable)) ?_ (Or.inl ?_)
      · simp [Race.run, Race.step, hread, hstep, hmissed]
      · rw [alone_checked hvalid, write_ok hblock]
        exact (congrArg Prod.fst (write_revoke_missed hinactive)).symm
    | error e' =>
      have hstep : (BindingCall.supersede oldBindingId r).step t .checked = _ := write_error hblock
      have hrun : Race.run (.supersede oldBindingId r) (.revoke oldBindingId) [true, true, false] t =
          ⟨(CoreStore.revokeActive oldBindingId t).1, .finished (.error e'), .finished (.ok ())⟩ := by
        simp [Race.run, Race.step, hread, hstep, hrevoke]
      refine raceSerialisable_of hrun (by simp) hlast ?_ (Or.inl ?_)
      · simp [Race.run, Race.step, hread, hstep, hrevoke]
      · rw [alone_checked hvalid, write_error hblock]
        exact hrevoked.symm
  · cases hblock : (supersedeBlock oldBindingId r).run (CoreStore.revokeActive oldBindingId t).1 with
    | ok result =>
      obtain ⟨⟨⟩, t'⟩ := result
      -- the write goes through over the revoked binding
      have hfresh := (supersedeBlock_over_revoked hs hvalid).mp ⟨t', hblock⟩
      have hstep : (BindingCall.supersede oldBindingId r).step
          (CoreStore.revokeActive oldBindingId t).1 .checked = _ := write_ok hblock
      refine iff_of_false (fun hserialisable => hserialisable.atMostOne ?_)
        (not_not.mpr ⟨oldBindingId, r, rfl, rfl, rfl, hvalid, hfresh⟩)
      simp [Race.run, Race.step, hread, hstep, hrevoke]
    | error e' =>
      have hstep : (BindingCall.supersede oldBindingId r).step
          (CoreStore.revokeActive oldBindingId t).1 .checked = _ := write_error hblock
      refine iff_of_true ?_ ?_
      · have hrun : Race.run (.supersede oldBindingId r) (.revoke oldBindingId)
            [true, false, true] t =
            ⟨(CoreStore.revokeActive oldBindingId t).1, .finished (.error e'),
              .finished (.ok ())⟩ := by
          simp [Race.run, Race.step, hread, hstep, hrevoke]
        refine raceSerialisable_of hrun (by simp) hlast ?_ (Or.inr hserial)
        simp [Race.run, Race.step, hread, hstep, hrevoke]
      · rintro ⟨_, _, hcall, -, -, -, hfresh⟩
        cases hcall
        obtain ⟨t', ht'⟩ := (supersedeBlock_over_revoked hs hvalid).mpr hfresh
        rw [hblock] at ht'
        cases ht'
  · refine iff_of_true ?_ (by rintro ⟨_, _, -, -, horder, -⟩; cases horder)
    have hread' := step_refused hrefused
    have hrun : Race.run (.supersede oldBindingId r) (.revoke oldBindingId) [false, true, true] t =
        ⟨(CoreStore.revokeActive oldBindingId t).1, .finished (.error e), .finished (.ok ())⟩ := by
      simp [Race.run, Race.step, hread', hrevoke, step_finished]
    refine raceSerialisable_of hrun (by simp) hlast ?_ (Or.inr hserial)
    simp [Race.run, Race.step, hread', hrevoke, step_finished]

/-- After a supersession, a second one of the same binding neither reads nor writes it. -/
theorem supersede_twice (hvalid : CoreStore.validateSupersession oldBindingId r t = .ok ())
    (hvalid' : CoreStore.validateSupersession oldBindingId other t = .ok ())
    (hbindable : Bindable (retired t oldBindingId) r) :
    (∃ e, CoreStore.validateSupersession oldBindingId other (bound (retired t oldBindingId) r) =
        .error e) ∧
      ∃ e, (supersedeBlock oldBindingId other).run (bound (retired t oldBindingId) r) =
        .error e := by
  have hactive := activeIn_of_validated hvalid
  refine ⟨refused_of_inactive (inactive_superseded hactive hbindable), ?_⟩
  obtain ⟨old, hold, -, hrecipient, hr⟩ := validateSupersession_ok hvalid
  obtain ⟨old', hold', -, hrecipient', hother⟩ := validateSupersession_ok hvalid'
  cases hold.symm.trans hold'
  obtain ⟨row, hrow, hid, -⟩ := hactive
  refine supersedeBlock_conflict (List.mem_append_right _ (List.mem_singleton_self _)) ?_
    (validateSessionBinding_ok hr).1 (hrecipient.symm.trans hrecipient')
    (validateSessionBinding_ok hother).1
  intro hsame
  refine hbindable.unused { row with state := .superseded } (List.mem_map.mpr ⟨row, hrow, ?_⟩)
    (hid.trans hsame.symm)
  rw [if_pos hid]

/-- The two steps of a supersession on tables that nobody else changes. -/
theorem supersede_steps (oldBindingId : String) (r : SessionBinding) (t : Tables) :
    ∃ progress T result, (BindingCall.supersede oldBindingId r).step t .pending = (t, progress) ∧
      (BindingCall.supersede oldBindingId r).step t progress = (T, .finished result) ∧
      ((BindingCall.supersede oldBindingId r).alone t).2 = T ∧
      ((T = t ∧ result ≠ .ok ()) ∨
        (CoreStore.validateSupersession oldBindingId r t = .ok () ∧
          Bindable (retired t oldBindingId) r ∧ T = bound (retired t oldBindingId) r)) := by
  cases hvalid : CoreStore.validateSupersession oldBindingId r t with
  | error e =>
    exact ⟨_, t, .error e, step_refused hvalid, rfl, by rw [alone_refused hvalid],
      Or.inl ⟨rfl, by simp⟩⟩
  | ok _ =>
    cases hblock : (supersedeBlock oldBindingId r).run t with
    | error e =>
      exact ⟨_, t, .error e, step_read hvalid, write_error hblock,
        by rw [alone_checked hvalid, write_error hblock], Or.inl ⟨rfl, by simp⟩⟩
    | ok result =>
      obtain ⟨⟨⟩, t'⟩ := result
      obtain ⟨hbindable, hbound⟩ := supersedeBlock_ok hblock
      exact ⟨_, t', .ok (), step_read hvalid, write_ok hblock,
        by rw [alone_checked hvalid, write_ok hblock], Or.inr ⟨rfl, hbindable, hbound⟩⟩

/-- The interleavings in which the first call writes before the second. -/
theorem race_supersede_first (hs : Constrained t)
    (horder : order ∈ [[true, true, false, false], [true, false, true, false],
      [false, true, true, false]]) :
    RaceSerialisable (.supersede oldBindingId r) (.supersede oldBindingId other) order t := by
  obtain ⟨pa, T₁, ra, hread, hwrite, halone, hcase⟩ := supersede_steps oldBindingId r t
  obtain ⟨pb, T, rb, hread', hwrite', halone', hcase'⟩ := supersede_steps oldBindingId other T₁
  have hserial : T = ((BindingCall.supersede oldBindingId other).alone
      ((BindingCall.supersede oldBindingId r).alone t).2).2 := by
    rw [halone, halone']
  have hfate : (T₁ = t ∧ ra ≠ .ok ()) ∨
      (CoreStore.validateSupersession oldBindingId r t = .ok () ∧
        Bindable (retired t oldBindingId) r ∧ T₁ = bound (retired t oldBindingId) r ∧ T = T₁ ∧
        rb ≠ .ok ()) := by
    rcases hcase with hfailed | ⟨hvalid, hbindable, rfl⟩
    · exact Or.inl hfailed
    · rcases hcase' with ⟨hT, hrb⟩ | ⟨hvalid', -⟩
      · exact Or.inr ⟨hvalid, hbindable, rfl, hT, hrb⟩
      · have hinactive := inactive_superseded (activeIn_of_validated hvalid) hbindable
        exact absurd (activeIn_of_validated hvalid') hinactive
  have hone : ¬ (ra = .ok () ∧ rb = .ok ()) := by
    rcases hfate with ⟨-, hra⟩ | ⟨-, -, -, -, hrb⟩
    · exact fun hboth => hra hboth.1
    · exact fun hboth => hrb hboth.2
  have hlast : BindingsLast t T := by
    rcases hfate with ⟨rfl, -⟩ | ⟨hvalid, hbindable, hT₁, hT, -⟩
    · rcases hcase' with ⟨rfl, -⟩ | ⟨hvalid', hbindable', rfl⟩
      · exact bindingsLast_of_eq rfl
      · exact bindingsLast_step hs.keyed (.superseded hvalid' hbindable')
    · rw [hT, hT₁]
      exact bindingsLast_step hs.keyed (.superseded hvalid hbindable)
  have htables : T₁ = t ∨ T₁ = T := by
    rcases hfate with ⟨hT₁, -⟩ | ⟨-, -, -, hT, -⟩
    · exact Or.inl hT₁
    · exact Or.inr hT.symm
  -- the second call ends the same if it reads before the first one's write
  obtain ⟨early, late, hearly, hlate, hone'⟩ : ∃ early late,
      (BindingCall.supersede oldBindingId other).step t .pending = (t, early) ∧
      (BindingCall.supersede oldBindingId other).step T₁ early = (T, .finished late) ∧
      ¬ (ra = .ok () ∧ late = .ok ()) := by
    rcases hfate with ⟨rfl, hra⟩ | ⟨hvalid, hbindable, rfl, rfl, -⟩
    · exact ⟨pb, rb, hread', hwrite', fun hboth => hra hboth.1⟩
    · cases hvalid' : CoreStore.validateSupersession oldBindingId other t with
      | error e => exact ⟨_, .error e, step_refused hvalid', rfl, by simp⟩
      | ok _ =>
        obtain ⟨-, e, hblock⟩ := supersede_twice hvalid hvalid' hbindable
        exact ⟨_, .error e, step_read hvalid', write_error hblock, by simp⟩
  simp only [List.mem_cons, List.not_mem_nil, or_false] at horder
  rcases horder with rfl | rfl | rfl
  · have hrun : Race.run (.supersede oldBindingId r) (.supersede oldBindingId other)
        [true, true, false, false] t = ⟨T, .finished ra, .finished rb⟩ := by
      simp [Race.run, Race.step, hread, hwrite, hread', hwrite']
    refine raceSerialisable_of hrun (by simpa using hone) hlast ?_ (Or.inl hserial)
    simpa [Race.run, Race.step, hread, hwrite, hread', hwrite'] using htables
  · have hrun : Race.run (.supersede oldBindingId r) (.supersede oldBindingId other)
        [true, false, true, false] t = ⟨T, .finished ra, .finished late⟩ := by
      simp [Race.run, Race.step, hread, hwrite, hearly, hlate]
    refine raceSerialisable_of hrun (by simpa using hone') hlast ?_ (Or.inl hserial)
    simpa [Race.run, Race.step, hread, hwrite, hearly, hlate] using htables
  · have hrun : Race.run (.supersede oldBindingId r) (.supersede oldBindingId other)
        [false, true, true, false] t = ⟨T, .finished ra, .finished late⟩ := by
      simp [Race.run, Race.step, hread, hwrite, hearly, hlate]
    refine raceSerialisable_of hrun (by simpa using hone') hlast ?_ (Or.inl hserial)
    simpa [Race.run, Race.step, hread, hwrite, hearly, hlate] using htables

def Race.swap (s : Race) : Race := { tables := s.tables, first := s.second, second := s.first }

theorem race_swap (a b : BindingCall) (order : List Bool) (s : Race) :
    order.foldl (Race.step a b) s = ((order.map not).foldl (Race.step b a) s.swap).swap := by
  induction order generalizing s with
  | nil => rfl
  | cons isFirst order ih =>
    have hstep : (Race.step a b s isFirst).swap = Race.step b a s.swap (!isFirst) := by
      cases isFirst <;> rfl
    rw [List.foldl_cons, ih, hstep]
    rfl

theorem raceSerialisable_swap (h : RaceSerialisable b a (order.map not) t) :
    RaceSerialisable a b order t := by
  have hrun : ∀ order, Race.run a b order t = (Race.run b a (order.map not) t).swap :=
    fun order => race_swap a b order { tables := t }
  refine ⟨?_, fun before after heq row hrow hrevoked => ?_, ?_⟩
  · rw [hrun]
    exact fun hboth => h.atMostOne hboth.symm
  · rw [hrun] at hrow ⊢
    exact h.revoked (before.map not) (after.map not) (by rw [heq, List.map_append]) row hrow hrevoked
  · rw [hrun]
    exact h.serial.symm

theorem race_supersede (hs : Constrained t)
    (horder : Interleaves (.supersede oldBindingId r) (.supersede oldBindingId other) order) :
    RaceSerialisable (.supersede oldBindingId r) (.supersede oldBindingId other) order t := by
  have hcases := interleaves_supersede horder
  simp only [List.mem_cons, List.not_mem_nil, or_false] at hcases
  rcases hcases with rfl | rfl | rfl | rfl | rfl | rfl
  · exact race_supersede_first hs (by simp)
  · exact race_supersede_first hs (by simp)
  · exact race_supersede_first hs (by simp)
  · exact raceSerialisable_swap (race_supersede_first hs (by simp))
  · exact raceSerialisable_swap (race_supersede_first hs (by simp))
  · exact raceSerialisable_swap (race_supersede_first hs (by simp))

end Races

section Reachable

variable [Host]

theorem constrained_run (ops : List Op) : Constrained (run ops CoreStore.empty).working := by
  refine ⟨(sound_run ops sound_empty).keyed, oneActive_run ops, ?_⟩
  refine run_invariant (fun _ heffect howned => methodsOwned_step heffect howned) ops sound_empty ?_
  intro row hrow
  cases hrow

/-- A supersession against a revocation or another supersession of the same binding is
serialisable, except where its write lands on a revocation that its read did not see. -/
theorem supersession_serialisable (ops : List Op) (oldBindingId : String)
    (replacement : SessionBinding) (call : BindingCall) (order : List Bool)
    (hcall : call = .revoke oldBindingId ∨ ∃ other, call = .supersede oldBindingId other)
    (horder : Interleaves (.supersede oldBindingId replacement) call order) :
    let t := (run ops CoreStore.empty).working
    RaceSerialisable (.supersede oldBindingId replacement) call order t ↔
      ¬ Overwrites (.supersede oldBindingId replacement) call order t := by
  intro t
  have hs : Constrained t := constrained_run ops
  rcases hcall with rfl | ⟨other, rfl⟩
  · cases hvalid : CoreStore.validateSupersession oldBindingId replacement t with
    | error e =>
      refine iff_of_true (race_refused_revoke hs hvalid horder) ?_
      rintro ⟨_, _, hsame, -, -, hok, -⟩
      cases hsame
      rw [hvalid] at hok
      cases hok
    | ok _ => exact race_checked_revoke hs hvalid horder
  · refine iff_of_true (race_supersede hs horder) ?_
    rintro ⟨_, _, -, hsame, -⟩
    cases hsame

end Reachable

def sampleReplacement : SessionBinding := { sampleBinding with bindingId := "binding-2" }

/-- Both calls succeed and the revoked binding ends superseded. -/
theorem supersession_overwrites_revocation :
    let t := (@run sampleHost sampleSetup CoreStore.empty).working
    ¬ @RaceSerialisable sampleHost (.supersede "binding-1" sampleReplacement)
      (.revoke "binding-1") [true, false, true] t := by
  intro t hserialisable
  exact @RaceSerialisable.atMostOne sampleHost _ _ _ _ hserialisable ⟨by rfl, by rfl⟩

theorem supersession_serialisable_sample :
    let t := (@run sampleHost sampleSetup CoreStore.empty).working
    ¬ @Overwrites sampleHost (.supersede "binding-1" sampleReplacement)
      (.revoke "binding-1") [true, true, false] t ∧
    @RaceSerialisable sampleHost (.supersede "binding-1" sampleReplacement)
      (.revoke "binding-1") [true, true, false] t := by
  intro t
  have hkept : ¬ @Overwrites sampleHost (.supersede "binding-1" sampleReplacement)
      (.revoke "binding-1") [true, true, false] t := by
    rintro ⟨_, _, -, -, horder, -⟩
    cases horder
  exact ⟨hkept, (@supersession_serialisable sampleHost sampleSetup "binding-1" sampleReplacement
    (.revoke "binding-1") [true, true, false] (Or.inl rfl) (List.Perm.refl _)).mpr hkept⟩

end Yatagarasu
