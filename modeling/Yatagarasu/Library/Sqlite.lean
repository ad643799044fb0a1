import Mathlib.Order.Defs.Unbundled

/-! Python's default `sqlite3` transaction control over an arbitrary store: a data statement opens a
transaction, which ends by `commit`, by `rollback` or at the end of a `with connection` block. -/

namespace Sqlite

/-- The last commit, what this connection's own statements made of it, and whether a transaction
is open. -/
structure Connection (σ : Type) where
  committed : σ
  working : σ
  inTransaction : Bool := false

/-- The errors that the driver itself raises. -/
class Errors (ε : Type) where
  integrityError : ε
  operationalError : ε

abbrev Action (ε σ α : Type) := ExceptT ε (StateM (Connection σ)) α

variable {ε σ α : Type}

def Action.exec (x : Action ε σ α) (c : Connection σ) : Except ε α × Connection σ := x.run.run c

def fetch (q : σ → α) : Action ε σ α := fun c => (.ok (q c.working), c)

/-- An `INSERT`: `none` is a violated constraint, and the transaction it opened stays open. -/
def execute [Errors ε] (f : σ → Option σ) : Action ε σ Unit := fun c =>
  match f c.working with
  | some s => (.ok (), { c with working := s, inTransaction := true })
  | none => (.error Errors.integrityError, { c with inTransaction := true })

/-- An `UPDATE` that violates no constraint, with its row count. -/
def update (f : σ → σ × Nat) : Action ε σ Nat := fun c =>
  (.ok (f c.working).2, { c with working := (f c.working).1, inTransaction := true })

def commit : Action ε σ Unit := fun c =>
  (.ok (), { committed := c.working, working := c.working, inTransaction := false })

/-- `with connection:` commits the statements of its body, or rolls back to the last commit. -/
def withConnection (body : StateT σ (Except ε) α) : Action ε σ α := fun c =>
  match body.run c.working with
  | .ok (a, s) => (.ok a, { committed := s, working := s, inTransaction := false })
  | .error e =>
    (.error e, { committed := c.committed, working := c.committed, inTransaction := false })

/-- The same block when its first statement is `BEGIN IMMEDIATE`. -/
def withImmediate [Errors ε] (body : StateT σ (Except ε) α) : Action ε σ α := fun c =>
  if c.inTransaction then
    (.error Errors.operationalError,
      { committed := c.committed, working := c.committed, inTransaction := false })
  else withConnection body c

/-- No statement of this connection waits for a commit. -/
def Clean (c : Connection σ) : Prop := c.working = c.committed

/-- An insert statement of a block. -/
def insert [Errors ε] (f : σ → Option σ) : StateT σ (Except ε) Unit := fun s =>
  match f s with
  | some s => .ok ((), s)
  | none => .error Errors.integrityError

theorem exec_bind {β : Type} (x : Action ε σ α) (f : α → Action ε σ β) (c : Connection σ) :
    (x >>= f).exec c = match x.exec c with
      | (.ok a, c') => (f a).exec c'
      | (.error e, c') => (.error e, c') := by
  simp only [Action.exec, ExceptT.run_bind, StateT.run_bind]
  cases h : StateT.run (ExceptT.run x) c with
  | mk r c' => cases r <;> rfl

@[simp] theorem exec_pure (a : α) (c : Connection σ) :
    (pure a : Action ε σ α).exec c = (.ok a, c) := rfl

@[simp] theorem exec_throw (e : ε) (c : Connection σ) :
    (throw e : Action ε σ α).exec c = (.error e, c) := rfl

@[simp] theorem exec_fetch (q : σ → α) (c : Connection σ) :
    (fetch q : Action ε σ α).exec c = (.ok (q c.working), c) := rfl

/-- A statement and its commit leave a clean connection clean, with the row in or nothing done. -/
theorem execute_commit_cases [Errors ε] {f : σ → Option σ} {c c' : Connection σ}
    {r : Except ε Unit} (hc : Clean c)
    (h : (do execute f; commit : Action ε σ Unit).exec c = (r, c')) :
    Clean c' ∧ ((∃ s, f c.working = some s ∧ r = .ok () ∧ c'.working = s) ∨
      (f c.working = none ∧ r = .error Errors.integrityError ∧ c'.working = c.working)) := by
  rw [exec_bind] at h
  cases hf : f c.working with
  | some s =>
    have he : (execute f : Action ε σ Unit).exec c =
        (.ok (), { c with working := s, inTransaction := true }) := by
      simp [Action.exec, execute, ExceptT.run, StateT.run, hf]
    rw [he] at h
    cases h
    exact ⟨rfl, .inl ⟨s, rfl, rfl, rfl⟩⟩
  | none =>
    have he : (execute f : Action ε σ Unit).exec c =
        (.error Errors.integrityError, { c with inTransaction := true }) := by
      simp [Action.exec, execute, ExceptT.run, StateT.run, hf]
    rw [he] at h
    cases h
    exact ⟨hc, .inr ⟨rfl, rfl, rfl⟩⟩

theorem withConnection_cases {body : StateT σ (Except ε) α} {c c' : Connection σ}
    {r : Except ε α} (hc : Clean c) (h : (withConnection body).exec c = (r, c')) :
    Clean c' ∧ ((∃ a, body.run c.working = .ok (a, c'.working) ∧ r = .ok a) ∨
      (∃ e, body.run c.working = .error e ∧ r = .error e ∧ c'.working = c.working)) := by
  simp only [Action.exec, withConnection, ExceptT.run, StateT.run] at h
  cases hb : body c.working with
  | ok p =>
    rw [hb] at h
    cases h
    exact ⟨rfl, .inl ⟨p.1, hb, rfl⟩⟩
  | error e =>
    rw [hb] at h
    cases h
    exact ⟨rfl, .inr ⟨e, hb, rfl, hc.symm⟩⟩

theorem withImmediate_cases [Errors ε] {body : StateT σ (Except ε) α} {c c' : Connection σ}
    {r : Except ε α} (hc : Clean c) (h : (withImmediate body).exec c = (r, c')) :
    Clean c' ∧ ((∃ a, body.run c.working = .ok (a, c'.working) ∧ r = .ok a) ∨
      (∃ e, r = .error e ∧ c'.working = c.working)) := by
  by_cases ht : c.inTransaction
  · simp only [Action.exec, withImmediate, ExceptT.run, StateT.run, ht, if_true] at h
    cases h
    exact ⟨rfl, .inr ⟨_, rfl, hc.symm⟩⟩
  · have h : (withConnection body).exec c = (r, c') := by
      simpa [Action.exec, withImmediate, ExceptT.run, StateT.run, ht] using h
    obtain ⟨hc', hr | ⟨e, -, hr, hw⟩⟩ := withConnection_cases hc h
    · exact ⟨hc', .inl hr⟩
    · exact ⟨hc', .inr ⟨e, hr, hw⟩⟩

/-- A guarded update that hit one row commits; one that hit nothing leaves nothing to commit. -/
theorem guardedUpdate_cases {f : σ → σ × Nat} {e : ε} {c c' : Connection σ} {r : Except ε Unit}
    (hc : Clean c) (hidle : (f c.working).2 ≠ 1 → (f c.working).1 = c.working)
    (h : (do let n ← update f; if n ≠ 1 then throw e else commit : Action ε σ Unit).exec c =
      (r, c')) :
    Clean c' ∧ (((f c.working).2 = 1 ∧ r = .ok () ∧ c'.working = (f c.working).1) ∨
      ((f c.working).2 ≠ 1 ∧ r = .error e ∧ c'.working = c.working)) := by
  rw [exec_bind] at h
  have he : (update f : Action ε σ Nat).exec c =
      (.ok (f c.working).2, { c with working := (f c.working).1, inTransaction := true }) := rfl
  rw [he] at h
  by_cases hn : (f c.working).2 = 1
  · simp only [hn, ne_eq, not_true_eq_false, if_false] at h
    cases h
    exact ⟨rfl, .inl ⟨hn, rfl, rfl⟩⟩
  · simp only [ne_eq, hn, not_false_eq_true, if_true] at h
    cases h
    exact ⟨(hidle hn).trans hc, .inr ⟨hn, rfl, hidle hn⟩⟩

/-- A refused statement leaves the transaction that it opened. -/
theorem execute_commit_open [Errors ε] {f : σ → Option σ} {c : Connection σ} :
    ((do execute f; commit : Action ε σ Unit).exec c).2.inTransaction = true ↔
      f c.working = none := by
  rw [exec_bind]
  cases hf : f c.working with
  | some s =>
    have he : (execute f : Action ε σ Unit).exec c =
        (.ok (), { c with working := s, inTransaction := true }) := by
      simp [Action.exec, execute, ExceptT.run, StateT.run, hf]
    rw [he]
    simp [Action.exec, commit, ExceptT.run, StateT.run]
  | none =>
    have he : (execute f : Action ε σ Unit).exec c =
        (.error Errors.integrityError, { c with inTransaction := true }) := by
      simp [Action.exec, execute, ExceptT.run, StateT.run, hf]
    rw [he]
    simp

/-- So does a guarded update that hits nothing. -/
theorem guardedUpdate_open {f : σ → σ × Nat} {e : ε} {c : Connection σ} :
    ((do let n ← update f; if n ≠ 1 then throw e else commit :
      Action ε σ Unit).exec c).2.inTransaction = true ↔ (f c.working).2 ≠ 1 := by
  rw [exec_bind]
  have he : (update f : Action ε σ Nat).exec c =
      (.ok (f c.working).2, { c with working := (f c.working).1, inTransaction := true }) := rfl
  rw [he]
  by_cases hn : (f c.working).2 = 1
  · simp [hn, Action.exec, commit, ExceptT.run, StateT.run]
  · simp [hn]

theorem withConnection_closed (body : StateT σ (Except ε) α) (c : Connection σ) :
    ((withConnection body).exec c).2.inTransaction = false := by
  simp only [Action.exec, withConnection, ExceptT.run, StateT.run]
  cases body c.working <;> rfl

theorem withImmediate_closed [Errors ε] (body : StateT σ (Except ε) α) (c : Connection σ) :
    ((withImmediate body).exec c).2.inTransaction = false := by
  by_cases hopen : c.inTransaction
  · simp [Action.exec, withImmediate, ExceptT.run, StateT.run, hopen]
  · have hsame : (withImmediate body).exec c = (withConnection body).exec c := by
      simp [Action.exec, withImmediate, ExceptT.run, StateT.run, hopen]
    rw [hsame]
    exact withConnection_closed body c

theorem except_bind_ok {β : Type} {x : Except ε α} {f : α → Except ε β} {b : β} :
    (x >>= f) = .ok b ↔ ∃ a, x = .ok a ∧ f a = .ok b := by
  cases x with
  | error e =>
    constructor
    · intro h
      cases h
    · rintro ⟨a, h, -⟩
      cases h
  | ok a =>
    constructor
    · intro h
      exact ⟨a, rfl, h⟩
    · rintro ⟨a, h, hf⟩
      cases h
      exact hf

/-- A check that raises, and what follows it. -/
theorem guard_ok {β : Type} {p : Prop} [Decidable p] {e : ε} {f : β → Except ε α}
    {x : Except ε α} {a : α} :
    (if p then (throw e >>= f) else x) = .ok a ↔ ¬ p ∧ x = .ok a := by
  by_cases hp : p
  · rw [if_pos hp]
    constructor
    · intro h
      cases h
    · rintro ⟨hnot, -⟩
      exact absurd hp hnot
  · rw [if_neg hp]
    simp [hp]

theorem block_bind_ok {β : Type} {x : StateT σ (Except ε) α} {g : α → StateT σ (Except ε) β}
    {s t : σ} {b : β} : (x >>= g).run s = .ok (b, t) ↔
      ∃ a m, x.run s = .ok (a, m) ∧ (g a).run m = .ok (b, t) := by
  rw [StateT.run_bind]
  cases hx : x.run s with
  | error e =>
    constructor
    · intro h
      cases h
    · rintro ⟨a, m, h, -⟩
      cases h
  | ok p =>
    constructor
    · intro h
      exact ⟨p.1, p.2, rfl, h⟩
    · rintro ⟨a, m, h, hg⟩
      cases h
      exact hg

@[simp] theorem insert_ok [Errors ε] {f : σ → Option σ} {s t : σ} {u : Unit} :
    (insert f : StateT σ (Except ε) Unit).run s = .ok (u, t) ↔ f s = some t := by
  unfold insert
  simp only [StateT.run]
  cases f s with
  | none => simp
  | some m => simp

theorem block_bind_error {β : Type} {x : StateT σ (Except ε) α} {g : α → StateT σ (Except ε) β}
    {s : σ} {e : ε} (h : (x >>= g).run s = .error e) :
    x.run s = .error e ∨ ∃ a m, x.run s = .ok (a, m) ∧ (g a).run m = .error e := by
  rw [StateT.run_bind] at h
  cases hx : x.run s with
  | error e' =>
    rw [hx] at h
    cases h
    exact Or.inl rfl
  | ok p =>
    rw [hx] at h
    exact Or.inr ⟨p.1, p.2, rfl, h⟩

theorem insert_error [Errors ε] {f : σ → Option σ} {s : σ} {e : ε}
    (h : (insert f : StateT σ (Except ε) Unit).run s = .error e) : e = Errors.integrityError := by
  unfold insert at h
  simp only [StateT.run] at h
  cases hf : f s with
  | none =>
    rw [hf] at h
    cases h
    rfl
  | some m =>
    rw [hf] at h
    cases h

section Relations

variable {R : σ → σ → Prop} [IsPreorder σ R]

/-- A block that succeeds relates its first state to its last. -/
def Preserves (R : σ → σ → Prop) (body : StateT σ (Except ε) α) : Prop :=
  ∀ s a t, body.run s = .ok (a, t) → R s t

theorem preserves_pure (a : α) :
    Preserves R (pure a : StateT σ (Except ε) α) := by
  intro s b t h
  cases h
  exact refl_of R s

theorem preserves_bind {β : Type} {x : StateT σ (Except ε) α} {g : α → StateT σ (Except ε) β}
    (hx : Preserves R x) (hg : ∀ a, Preserves R (g a)) : Preserves R (x >>= g) := by
  intro s b t h
  obtain ⟨a, m, hrun, hrest⟩ := block_bind_ok.mp h
  exact trans_of R (hx s a m hrun) (hg a m b t hrest)

omit [IsPreorder σ R] in
theorem preserves_insert [Errors ε] {f : σ → Option σ} (h : ∀ s t, f s = some t → R s t) :
    Preserves R (insert f : StateT σ (Except ε) Unit) :=
  fun s _ t hrun => h s t (insert_ok.mp hrun)

/-- An action that leaves a clean connection clean, and relates what it commits. -/
def Leaves (R : σ → σ → Prop) (x : Action ε σ α) : Prop :=
  ∀ c, Clean c → Clean (x.exec c).2 ∧ R c.working (x.exec c).2.working

theorem leaves_throw (e : ε) : Leaves R (throw e : Action ε σ α) :=
  fun c hc => ⟨hc, refl_of R c.working⟩

theorem leaves_execute_commit [Errors ε] {f : σ → Option σ}
    (h : ∀ s t, f s = some t → R s t) : Leaves R (do execute f; commit : Action ε σ Unit) := by
  intro c hc
  obtain ⟨hc', ⟨s, hs, -, hw⟩ | ⟨-, -, hw⟩⟩ := execute_commit_cases hc
    (rfl : (do execute f; commit : Action ε σ Unit).exec c = _)
  · exact ⟨hc', hw ▸ h _ _ hs⟩
  · exact ⟨hc', hw ▸ refl_of R _⟩

theorem leaves_withConnection {body : StateT σ (Except ε) α}
    (h : Preserves R body) : Leaves R (withConnection body) := by
  intro c hc
  obtain ⟨hc', ⟨a, hb, -⟩ | ⟨e, -, -, hw⟩⟩ :=
    withConnection_cases hc (rfl : (withConnection body).exec c = _)
  · exact ⟨hc', h _ _ _ hb⟩
  · exact ⟨hc', hw ▸ refl_of R _⟩

theorem leaves_withImmediate [Errors ε] {body : StateT σ (Except ε) α}
    (h : Preserves R body) : Leaves R (withImmediate body) := by
  intro c hc
  obtain ⟨hc', ⟨a, hb, -⟩ | ⟨e, -, hw⟩⟩ :=
    withImmediate_cases hc (rfl : (withImmediate body).exec c = _)
  · exact ⟨hc', h _ _ _ hb⟩
  · exact ⟨hc', hw ▸ refl_of R _⟩

theorem leaves_bind {β : Type} {x : Action ε σ α} {g : α → Action ε σ β} (hx : Leaves R x)
    (hg : ∀ a, Leaves R (g a)) : Leaves R (x >>= g) := by
  intro c hc
  obtain ⟨hc', hR⟩ := hx c hc
  rw [exec_bind]
  cases hrun : x.exec c with
  | mk r c' =>
    rw [hrun] at hc' hR
    cases r with
    | error e => exact ⟨hc', hR⟩
    | ok a => exact ⟨(hg a c' hc').1, trans_of R hR (hg a c' hc').2⟩

end Relations

section Mirrored

variable {β : Type} {R : σ → σ → Prop}

/-- On related states the block raises the same error, or returns the same value and leaves
related states. -/
def Mirrors (R : σ → σ → Prop) (body : StateT σ (Except ε) α) : Prop :=
  ∀ s u, R s u →
    (∃ a s' u', body.run s = .ok (a, s') ∧ body.run u = .ok (a, u') ∧ R s' u') ∨
    ∃ e, body.run s = .error e ∧ body.run u = .error e

theorem mirrors_pure (a : α) : Mirrors R (pure a : StateT σ (Except ε) α) :=
  fun s u h => .inl ⟨a, s, u, rfl, rfl, h⟩

theorem mirrors_throw (e : ε) : Mirrors R (throw e : StateT σ (Except ε) α) :=
  fun _ _ _ => .inr ⟨e, rfl, rfl⟩

theorem mirrors_bind {x : StateT σ (Except ε) α} {g : α → StateT σ (Except ε) β}
    (hx : Mirrors R x) (hg : ∀ a, Mirrors R (g a)) : Mirrors R (x >>= g) := by
  intro s u h
  simp only [StateT.run_bind]
  rcases hx s u h with ⟨a, s', u', hs, hu, h'⟩ | ⟨e, hs, hu⟩
  · rw [hs, hu]
    exact hg a s' u' h'
  · rw [hs, hu]
    exact .inr ⟨e, rfl, rfl⟩

theorem mirrors_insert [Errors ε] {f : σ → Option σ}
    (h : ∀ s u, R s u → Option.Rel R (f s) (f u)) :
    Mirrors R (insert f : StateT σ (Except ε) Unit) := by
  intro s u hsu
  have hrel := h s u hsu
  unfold insert
  simp only [StateT.run]
  generalize f s = s', f u = u' at hrel
  cases hrel with
  | some h' => exact .inl ⟨(), _, _, rfl, rfl, h'⟩
  | none => exact .inr ⟨_, rfl, rfl⟩

theorem mirrors_modifyGet {f : σ → α × σ}
    (h : ∀ s u, R s u → (f s).1 = (f u).1 ∧ R (f s).2 (f u).2) :
    Mirrors R (modifyGet f : StateT σ (Except ε) α) := by
  intro s u hsu
  obtain ⟨hres, hR⟩ := h s u hsu
  exact .inl ⟨(f s).1, (f s).2, (f u).2, rfl, congrArg (fun a => Except.ok (a, (f u).2)) hres.symm,
    hR⟩

/-- A guarded statement, on states that decide the guard alike. -/
theorem rel_guard {p q : Prop} [Decidable p] [Decidable q] {s u : σ} (hguard : p ↔ q)
    (h : R s u) : Option.Rel R (if p then none else some s) (if q then none else some u) := by
  by_cases hp : p
  · rw [if_pos hp, if_pos (hguard.mp hp)]
    exact .none
  · rw [if_neg hp, if_neg fun hq => hp (hguard.mpr hq)]
    exact .some h

/-- Related commits and related states; the second may be inside a transaction that the first is
not in. -/
structure Alike (R : σ → σ → Prop) (c c' : Connection σ) : Prop where
  committed : R c.committed c'.committed
  working : R c.working c'.working
  transaction : c.inTransaction = true → c'.inTransaction = true

/-- On alike connections the action ends the same way, and leaves alike connections. -/
def Mirrored (R : σ → σ → Prop) (x : Action ε σ α) : Prop :=
  ∀ c c', Alike R c c' → (x.exec c).1 = (x.exec c').1 ∧ Alike R (x.exec c).2 (x.exec c').2

theorem mirrored_throw (e : ε) : Mirrored R (throw e : Action ε σ α) :=
  fun _ _ h => ⟨rfl, h⟩

theorem mirrored_commit : Mirrored R (commit : Action ε σ Unit) :=
  fun _ _ h => ⟨rfl, h.working, h.working, id⟩

theorem mirrored_execute [Errors ε] {f : σ → Option σ}
    (h : ∀ s u, R s u → Option.Rel R (f s) (f u)) :
    Mirrored R (execute f : Action ε σ Unit) := by
  intro c c' hc
  have hrel := h _ _ hc.working
  simp only [Action.exec, execute, ExceptT.run, StateT.run]
  generalize f c.working = s, f c'.working = u at hrel
  cases hrel with
  | some h' => exact ⟨rfl, hc.committed, h', id⟩
  | none => exact ⟨rfl, hc.committed, hc.working, id⟩

theorem mirrored_update {f : σ → σ × Nat}
    (h : ∀ s u, R s u → R (f s).1 (f u).1 ∧ (f s).2 = (f u).2) :
    Mirrored R (update f : Action ε σ Nat) := by
  intro c c' hc
  obtain ⟨hR, hn⟩ := h _ _ hc.working
  exact ⟨congrArg Except.ok hn, hc.committed, hR, id⟩

theorem mirrored_withConnection {body : StateT σ (Except ε) α} (h : Mirrors R body) :
    Mirrored R (withConnection body) := by
  intro c c' hc
  simp only [Action.exec, withConnection, ExceptT.run, StateT.run]
  rcases h _ _ hc.working with ⟨a, s', u', hs, hu, h'⟩ | ⟨e, hs, hu⟩
  · rw [show body c.working = _ from hs, show body c'.working = _ from hu]
    exact ⟨rfl, h', h', id⟩
  · rw [show body c.working = _ from hs, show body c'.working = _ from hu]
    exact ⟨rfl, hc.committed, hc.committed, id⟩

/-- A block with `BEGIN IMMEDIATE` also asks whether a transaction is open. -/
theorem withImmediate_mirrored [Errors ε] {body : StateT σ (Except ε) α} {c c' : Connection σ}
    (h : Mirrors R body) (hc : Alike R c c')
    (hopen : c'.inTransaction = true → c.inTransaction = true) :
    ((withImmediate body).exec c).1 = ((withImmediate body).exec c').1 ∧
      Alike R ((withImmediate body).exec c).2 ((withImmediate body).exec c').2 := by
  by_cases hin : c.inTransaction
  · have hin' := hc.transaction hin
    simp only [Action.exec, withImmediate, ExceptT.run, StateT.run, hin, hin', if_true, true_and]
    exact ⟨hc.committed, hc.committed, id⟩
  · have hin' : ¬ c'.inTransaction = true := fun hin' => hin (hopen hin')
    have hsame : ∀ {c : Connection σ}, ¬ c.inTransaction = true →
        (withImmediate body).exec c = (withConnection body).exec c := by
      intro c hin
      simp [Action.exec, withImmediate, ExceptT.run, StateT.run, hin]
    rw [hsame hin, hsame hin']
    exact mirrored_withConnection h c c' hc

theorem mirrored_bind {x : Action ε σ α} {g : α → Action ε σ β} (hx : Mirrored R x)
    (hg : ∀ a, Mirrored R (g a)) : Mirrored R (x >>= g) := by
  intro c c' hc
  obtain ⟨hres, hnext⟩ := hx c c' hc
  simp only [exec_bind]
  generalize x.exec c = p, x.exec c' = p' at hres hnext
  obtain ⟨res, c₁⟩ := p
  obtain ⟨res', c₁'⟩ := p'
  obtain rfl : res = res' := hres
  cases res with
  | error e => exact ⟨rfl, hnext⟩
  | ok a => exact hg a c₁ c₁' hnext

end Mirrored

end Sqlite
