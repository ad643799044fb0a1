import Yatagarasu.Library.Sqlite

/-! A script is a sequence of labelled statements on one connection. A table of fates says which of
them raise, and after which one the process ends; what was committed by then is what the file keeps.
-/

namespace Sqlite

/-- What becomes of a statement when it is reached. -/
inductive Fate (ε : Type)
  | passes
  | raises (error : ε)
  | crashes
  deriving DecidableEq

inductive Halt (ε : Type)
  | raised (error : ε)
  | crashed
  deriving DecidableEq

abbrev Script (κ ε σ α : Type) :=
  ReaderT (κ → Fate ε) (ExceptT (Halt ε) (StateM (Connection σ))) α

variable {κ ε σ α β : Type} {fate : κ → Fate ε} {c : Connection σ} {label : κ}

/-- A definition of the schema: outside a transaction it commits at once. -/
def define (f : σ → Except ε σ) : Action ε σ Unit := fun c =>
  match f c.working with
  | .ok s => (.ok (), { c with
      committed := if c.inTransaction then c.committed else s
      working := s })
  | .error e => (.error e, c)

def rollback : Action ε σ Unit := fun c =>
  (.ok (), { committed := c.committed, working := c.committed, inTransaction := false })

namespace Script

def exec (x : Script κ ε σ α) (fate : κ → Fate ε) (c : Connection σ) :
    Except (Halt ε) α × Connection σ := x.run fate c

def raise (e : ε) : Script κ ε σ α := fun _ c => (.error (.raised e), c)

def statement (label : κ) (x : Action ε σ α) : Script κ ε σ α := fun fate c =>
  match fate label with
  | .passes =>
    match x.exec c with
    | (.ok a, c') => (.ok a, c')
    | (.error e, c') => (.error (.raised e), c')
  | .raises e => (.error (.raised e), c)
  | .crashes => (.error .crashed, (x.exec c).2)

/-- `with connection:` whose commit and rollback are statements like the others. -/
def transaction (commitLabel rollbackLabel : κ) (body : Script κ ε σ α) : Script κ ε σ α :=
  fun fate c =>
    match body.exec fate c with
    | (.ok a, c') => (do statement commitLabel commit; pure a : Script κ ε σ α).exec fate c'
    | (.error (.raised e), c') =>
      (do statement rollbackLabel rollback; raise e : Script κ ε σ α).exec fate c'
    | (.error .crashed, c') => (.error .crashed, c')

/-- `try: … finally: …` -/
def andFinally (body : Script κ ε σ α) (last : Script κ ε σ Unit) : Script κ ε σ α := fun fate c =>
  match body.exec fate c with
  | (.ok a, c') => (do last; pure a : Script κ ε σ α).exec fate c'
  | (.error (.raised e), c') => (do last; raise e : Script κ ε σ α).exec fate c'
  | (.error .crashed, c') => (.error .crashed, c')

@[simp] theorem exec_pure (a : α) : (pure a : Script κ ε σ α).exec fate c = (.ok a, c) := rfl

@[simp] theorem exec_raise (e : ε) :
    (raise e : Script κ ε σ α).exec fate c = (.error (.raised e), c) := rfl

theorem exec_bind (x : Script κ ε σ α) (f : α → Script κ ε σ β) :
    (x >>= f).exec fate c = match x.exec fate c with
      | (.ok a, c') => (f a).exec fate c'
      | (.error h, c') => (.error h, c') := by
  simp only [exec, ReaderT.run_bind]
  cases hx : x.run fate c with
  | mk r c' =>
    cases r with
    | ok a => simp [bind, ExceptT.bind, ExceptT.mk, ExceptT.bindCont, StateT.bind, hx]
    | error h =>
      simp [bind, ExceptT.bind, ExceptT.mk, ExceptT.bindCont, StateT.bind, hx]
      rfl

theorem exec_statement (x : Action ε σ α) : (statement label x).exec fate c =
    match fate label with
    | .passes =>
      match x.exec c with
      | (.ok a, c') => (.ok a, c')
      | (.error e, c') => (.error (.raised e), c')
    | .raises e => (.error (.raised e), c)
    | .crashes => (.error .crashed, (x.exec c).2) := rfl

/-- A statement that succeeds when it passes, and what follows it. -/
theorem next_statement {x : Action ε σ α} {f : α → Script κ ε σ β} {a : α} {c' m : Connection σ}
    {result : Except (Halt ε) β} (hx : x.exec c = (.ok a, m))
    (h : (statement label x >>= f).exec fate c = (result, c')) :
    (∃ halt, result = .error halt ∧
        ((∃ e, fate label = .raises e) ∧ c' = c ∨ fate label = .crashes ∧ c' = m)) ∨
      (fate label = .passes ∧ (f a).exec fate m = (result, c')) := by
  rw [exec_bind, exec_statement, hx] at h
  cases hfate : fate label with
  | passes =>
    rw [hfate] at h
    exact Or.inr ⟨rfl, h⟩
  | raises e =>
    rw [hfate] at h
    cases h
    exact Or.inl ⟨.raised e, rfl, Or.inl ⟨⟨e, rfl⟩, rfl⟩⟩
  | crashes =>
    rw [hfate] at h
    cases h
    exact Or.inl ⟨.crashed, rfl, Or.inr ⟨rfl, rfl⟩⟩

/-- A statement that fails halts its script. -/
theorem failed_statement {x : Action ε σ α} {f : α → Script κ ε σ β} {e : ε} {c' m : Connection σ}
    {result : Except (Halt ε) β} (hx : x.exec c = (.error e, m))
    (h : (statement label x >>= f).exec fate c = (result, c')) :
    ∃ halt, result = .error halt ∧ (c' = c ∨ c' = m) := by
  rw [exec_bind, exec_statement, hx] at h
  cases hfate : fate label with
  | passes =>
    rw [hfate] at h
    cases h
    exact ⟨.raised e, rfl, Or.inr rfl⟩
  | raises e' =>
    rw [hfate] at h
    cases h
    exact ⟨.raised e', rfl, Or.inl rfl⟩
  | crashes =>
    rw [hfate] at h
    cases h
    exact ⟨.crashed, rfl, Or.inr rfl⟩

theorem exec_transaction {commitLabel rollbackLabel : κ} (body : Script κ ε σ α) :
    (transaction commitLabel rollbackLabel body).exec fate c =
      match body.exec fate c with
      | (.ok a, c') => (do statement commitLabel commit; pure a : Script κ ε σ α).exec fate c'
      | (.error (.raised e), c') =>
        (do statement rollbackLabel rollback; raise e : Script κ ε σ α).exec fate c'
      | (.error .crashed, c') => (.error .crashed, c') := rfl

theorem exec_andFinally (body : Script κ ε σ α) (last : Script κ ε σ Unit) :
    (andFinally body last).exec fate c =
      match body.exec fate c with
      | (.ok a, c') => (do last; pure a : Script κ ε σ α).exec fate c'
      | (.error (.raised e), c') => (do last; raise e : Script κ ε σ α).exec fate c'
      | (.error .crashed, c') => (.error .crashed, c') := rfl

/-- Work that is not committed is in an open transaction. -/
def Settled (c : Connection σ) : Prop := c.inTransaction = true ∨ c.working = c.committed

/-- However the script ends, its uncommitted work is in a transaction. -/
def Settles (x : Script κ ε σ α) : Prop := ∀ fate c, Settled c → Settled (x.exec fate c).2

theorem settles_pure (a : α) : Settles (pure a : Script κ ε σ α) := fun _ _ hc => hc

theorem settles_raise (e : ε) : Settles (raise e : Script κ ε σ α) := fun _ _ hc => hc

theorem settles_bind {x : Script κ ε σ α} {f : α → Script κ ε σ β} (hx : Settles x)
    (hf : ∀ a, Settles (f a)) : Settles (x >>= f) := by
  intro fate c hc
  have hmiddle := hx fate c hc
  rw [exec_bind]
  cases hrun : x.exec fate c with
  | mk r c' =>
    rw [hrun] at hmiddle
    cases r with
    | error halt => exact hmiddle
    | ok a => exact hf a fate c' hmiddle

theorem settles_statement {x : Action ε σ α} (h : ∀ c, Settled c → Settled (x.exec c).2) :
    Settles (statement label x : Script κ ε σ α) := by
  intro fate c hc
  have hexec := h c hc
  rw [exec_statement]
  cases fate label with
  | raises e => exact hc
  | crashes => exact hexec
  | passes =>
    cases hrun : x.exec c with
    | mk r c' =>
      rw [hrun] at hexec
      cases r <;> exact hexec

theorem settles_define (f : σ → Except ε σ) :
    Settles (statement label (define f) : Script κ ε σ Unit) := by
  apply settles_statement
  intro c hc
  obtain ⟨committed, working, inTransaction⟩ := c
  simp only [Action.exec, define, ExceptT.run, StateT.run]
  cases f working with
  | error e => exact hc
  | ok s =>
    cases inTransaction with
    | true => exact Or.inl rfl
    | false => exact Or.inr rfl

theorem settles_execute [Errors ε] (f : σ → Option σ) :
    Settles (statement label (execute f) : Script κ ε σ Unit) := by
  apply settles_statement
  intro c _
  simp only [Action.exec, execute, ExceptT.run, StateT.run]
  cases f c.working <;> exact Or.inl rfl

theorem settles_fetch (q : σ → α) : Settles (statement label (fetch q) : Script κ ε σ α) :=
  settles_statement fun _ hc => hc

theorem settles_commit : Settles (statement label commit : Script κ ε σ Unit) :=
  settles_statement fun _ _ => Or.inr rfl

theorem settles_rollback : Settles (statement label rollback : Script κ ε σ Unit) :=
  settles_statement fun _ _ => Or.inr rfl

/-- A script that commits nothing of its own. -/
def Inert (x : Script κ ε σ α) : Prop :=
  ∀ fate c, Settled c → Settled (x.exec fate c).2 ∧ (x.exec fate c).2.committed = c.committed

theorem inert_bind {x : Script κ ε σ α} {f : α → Script κ ε σ β} (hx : Inert x)
    (hf : ∀ a, Inert (f a)) : Inert (x >>= f) := by
  intro fate c hc
  obtain ⟨hsettled, hcommitted⟩ := hx fate c hc
  rw [exec_bind]
  cases hrun : x.exec fate c with
  | mk r c' =>
    rw [hrun] at hsettled hcommitted
    cases r with
    | error halt => exact ⟨hsettled, hcommitted⟩
    | ok a =>
      obtain ⟨hsettled', hcommitted'⟩ := hf a fate c' hsettled
      exact ⟨hsettled', hcommitted'.trans hcommitted⟩

theorem inert_define : Inert (statement label (define .ok) : Script κ ε σ Unit) := by
  intro fate c hc
  refine ⟨settles_define .ok fate c hc, ?_⟩
  have hdefine : ((define .ok : Action ε σ Unit).exec c).2.committed = c.committed := by
    rcases hc with hopen | hclean
    · simp [Action.exec, define, ExceptT.run, StateT.run, hopen]
    · simp [Action.exec, define, ExceptT.run, StateT.run, hclean]
  rw [exec_statement]
  cases fate label with
  | raises e => rfl
  | passes => exact hdefine
  | crashes => exact hdefine

section Blocks

variable {commitLabel rollbackLabel : κ} {body : Script κ ε σ α} {last : Script κ ε σ Unit}
  {c' middle : Connection σ} {result : Except (Halt ε) α} {halt : Halt ε} {a : α}

theorem settles_transaction (h : Settles body) :
    Settles (transaction commitLabel rollbackLabel body) := by
  intro fate c hc
  have hbody := h fate c hc
  rw [exec_transaction]
  cases hrun : body.exec fate c with
  | mk r c' =>
    rw [hrun] at hbody
    rcases r with (⟨e⟩ | -) | a
    · exact settles_bind settles_rollback (fun _ => settles_raise e) fate c' hbody
    · exact hbody
    · exact settles_bind settles_commit (fun _ => settles_pure a) fate c' hbody

/-- A body that is halted commits no more. -/
theorem transaction_halted (commitLabel rollbackLabel : κ)
    (hbody : body.exec fate c = (.error halt, middle)) :
    (∃ halt, ((transaction commitLabel rollbackLabel body).exec fate c).1 = .error halt) ∧
      ((transaction commitLabel rollbackLabel body).exec fate c).2.committed =
        middle.committed := by
  rw [exec_transaction]
  rw [hbody]
  cases halt with
  | crashed => exact ⟨⟨_, rfl⟩, rfl⟩
  | raised e =>
    dsimp only
    rw [exec_bind, exec_statement]
    cases fate rollbackLabel with
    | passes => exact ⟨⟨_, rfl⟩, rfl⟩
    | raises e => exact ⟨⟨_, rfl⟩, rfl⟩
    | crashes => exact ⟨⟨_, rfl⟩, rfl⟩

/-- A body that goes through is committed as a whole, or its commit raises and nothing is. -/
theorem transaction_done (commitLabel rollbackLabel : κ)
    (hbody : body.exec fate c = (.ok a, middle)) :
    ((∃ e, fate commitLabel = .raises e) ∧
        (∃ halt, ((transaction commitLabel rollbackLabel body).exec fate c).1 = .error halt) ∧
        ((transaction commitLabel rollbackLabel body).exec fate c).2.committed =
          middle.committed) ∨
      (¬ ∃ e, fate commitLabel = .raises e) ∧
        ((transaction commitLabel rollbackLabel body).exec fate c).2.committed =
          middle.working := by
  rw [exec_transaction]
  rw [hbody]
  dsimp only
  rw [exec_bind, exec_statement]
  cases fate commitLabel with
  | passes => exact Or.inr ⟨by simp, rfl⟩
  | raises e => exact Or.inl ⟨⟨e, rfl⟩, ⟨_, rfl⟩, rfl⟩
  | crashes => exact Or.inr ⟨by simp, rfl⟩

/-- The last statements commit nothing of their own. -/
theorem andFinally_committed (hbody : Settles body) (hc : Settled c)
    (hlast : Inert last) :
    ((andFinally body last).exec fate c).2.committed = (body.exec fate c).2.committed := by
  have hsettled := hbody fate c hc
  rw [exec_andFinally]
  cases hrun : body.exec fate c with
  | mk r middle =>
    rw [hrun] at hsettled
    have hcommitted := (hlast fate middle hsettled).2
    rcases r with (⟨e⟩ | -) | a
    · dsimp only
      rw [exec_bind]
      cases hend : last.exec fate middle with
      | mk r c' =>
        rw [hend] at hcommitted
        cases r <;> exact hcommitted
    · rfl
    · dsimp only
      rw [exec_bind]
      cases hend : last.exec fate middle with
      | mk r c' =>
        rw [hend] at hcommitted
        cases r <;> exact hcommitted

theorem andFinally_halted (last : Script κ ε σ Unit)
    (hbody : (body.exec fate c).1 = .error halt) :
    ∃ halt, ((andFinally body last).exec fate c).1 = .error halt := by
  rw [exec_andFinally]
  cases hrun : body.exec fate c with
  | mk r middle =>
    rw [hrun] at hbody
    cases hbody
    cases halt with
    | crashed => exact ⟨_, rfl⟩
    | raised e =>
      dsimp only
      rw [exec_bind]
      cases last.exec fate middle with
      | mk r c' => cases r <;> exact ⟨_, rfl⟩

end Blocks

/-- No transaction is open, so that a crash takes nothing away. -/
structure Idle (c : Connection σ) : Prop where
  closed : c.inTransaction = false
  clean : c.working = c.committed

/-- From a committed `P` outside a transaction the script ends outside one: with `Q` committed when
it goes through, and with `H` when it is halted. -/
def Lands (P : σ → Prop) (x : Script κ ε σ α) (Q H : σ → Prop) : Prop :=
  ∀ fate c, Idle c → P c.committed → Idle (x.exec fate c).2 ∧
    match (x.exec fate c).1 with
    | .ok _ => Q (x.exec fate c).2.committed
    | .error _ => H (x.exec fate c).2.committed

section Rules

variable {P Q Q' H H' : σ → Prop} {x : Script κ ε σ α} {f : α → Script κ ε σ β}

theorem lands_pure (a : α) : Lands P (pure a : Script κ ε σ α) P H :=
  fun _ _ hc hP => ⟨hc, hP⟩

theorem lands_bind (hx : Lands P x Q H) (hf : ∀ a, Lands Q (f a) Q' H) :
    Lands P (x >>= f) Q' H := by
  intro fate c hc hP
  obtain ⟨hc', hends⟩ := hx fate c hc hP
  rw [exec_bind]
  cases hrun : x.exec fate c with
  | mk r c' =>
    rw [hrun] at hc' hends
    cases r with
    | error h => exact ⟨hc', hends⟩
    | ok a => exact hf a fate c' hc' hends

theorem lands_mono (h : Lands P x Q H) (hH : ∀ s, H s → H' s) : Lands P x Q H' := by
  intro fate c hc hP
  obtain ⟨hc', hends⟩ := h fate c hc hP
  refine ⟨hc', ?_⟩
  cases hrun : x.exec fate c with
  | mk r c' =>
    rw [hrun] at hends
    cases r with
    | ok a => exact hends
    | error h => exact hH _ hends

/-- A definition that cannot fail. -/
theorem exec_define (f : σ → σ) (hc : Idle c) :
    (define (fun s => .ok (f s)) : Action ε σ Unit).exec c =
      (.ok (), ⟨f c.committed, f c.committed, false⟩) := by
  obtain ⟨committed, working, inTransaction⟩ := c
  cases hc.closed
  cases hc.clean
  rfl

theorem lands_define {f : σ → σ} (hQ : ∀ s, P s → Q (f s)) (hraises : ∀ s, P s → H s)
    (hcrashes : ∀ s, P s → H (f s)) :
    Lands P (statement label (define fun s => .ok (f s)) : Script κ ε σ Unit) Q H := by
  intro fate c hc hP
  rw [exec_statement, exec_define f hc]
  cases fate label with
  | passes => exact ⟨⟨rfl, rfl⟩, hQ _ hP⟩
  | raises e => exact ⟨hc, hraises _ hP⟩
  | crashes => exact ⟨⟨rfl, rfl⟩, hcrashes _ hP⟩

theorem lands_commit : Lands P (statement label commit : Script κ ε σ Unit) P P := by
  intro fate c hc hP
  have hcommit : (commit : Action ε σ Unit).exec c =
      (.ok (), ⟨c.committed, c.committed, false⟩) := by
    obtain ⟨committed, working, inTransaction⟩ := c
    cases hc.closed
    cases hc.clean
    rfl
  rw [exec_statement, hcommit]
  cases fate label with
  | passes => exact ⟨⟨rfl, rfl⟩, hP⟩
  | raises e => exact ⟨hc, hP⟩
  | crashes => exact ⟨⟨rfl, rfl⟩, hP⟩

end Rules

/-- The script goes through exactly when each of these statements passes. -/
def Completes (labels : List κ) (x : Script κ ε σ Unit) : Prop :=
  ∀ fate c, (x.exec fate c).1 = .ok () ↔ ∀ label ∈ labels, fate label = .passes

theorem completes_pure : Completes [] (pure () : Script κ ε σ Unit) := by
  intro fate c
  simp

theorem completes_bind {labels labels' : List κ} {x : Script κ ε σ Unit}
    {f : Unit → Script κ ε σ Unit} (hx : Completes labels x) (hf : Completes labels' (f ())) :
    Completes (labels ++ labels') (x >>= f) := by
  intro fate c
  rw [exec_bind]
  simp only [List.mem_append, or_imp, forall_and]
  rw [← hx fate c]
  cases hrun : x.exec fate c with
  | mk r c' =>
    cases r with
    | error h => simp
    | ok a => simpa using hf fate c'

theorem completes_statement {x : Action ε σ Unit} (h : ∀ c, (x.exec c).1 = .ok ()) :
    Completes [label] (statement label x : Script κ ε σ Unit) := by
  intro fate c
  rw [exec_statement]
  simp only [List.mem_singleton, forall_eq]
  cases fate label with
  | raises e => simp
  | crashes => simp
  | passes =>
    have hrun := h c
    cases hx : x.exec c with
    | mk r c' =>
      rw [hx] at hrun
      cases hrun
      simp

end Script

end Sqlite
