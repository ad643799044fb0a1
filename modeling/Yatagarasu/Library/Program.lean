import Mathlib.Logic.Basic

/-! A program reads the shared state, sends a request to whoever serves it, or is done. Reads and
requests are separate atomic steps, so the same program runs alone or between other programs. -/

inductive Program (σ ι ο α : Type) where
  | done (a : α)
  | read (next : σ → Program σ ι ο α)
  | call (request : ι) (next : ο → Program σ ι ο α)

namespace Program

variable {σ ι ο α β τ : Type}

protected def bind : Program σ ι ο α → (α → Program σ ι ο β) → Program σ ι ο β
  | done a, f => f a
  | read next, f => read fun s => (next s).bind f
  | call i next, f => call i fun o => (next o).bind f

instance : Monad (Program σ ι ο) where
  pure := done
  bind := Program.bind

def fetch (q : σ → α) : Program σ ι ο α := read fun s => done (q s)

def send (i : ι) : Program σ ι ο ο := call i done

/-- The program alone: every read sees the current state. -/
def run (view : τ → σ) (serve : ι → τ → ο × τ) : Program σ ι ο α → τ → α × τ
  | done a, t => (a, t)
  | read next, t => (next (view t)).run view serve t
  | call i next, t => (next (serve i t).1).run view serve (serve i t).2

@[simp] theorem pure_bind (a : α) (f : α → Program σ ι ο β) : (pure a >>= f) = f a := rfl

@[simp] theorem done_bind (a : α) (f : α → Program σ ι ο β) : (done a >>= f) = f a := rfl

@[simp] theorem read_bind (next : σ → Program σ ι ο α) (f : α → Program σ ι ο β) :
    (read next >>= f) = read fun s => next s >>= f := rfl

@[simp] theorem call_bind (i : ι) (next : ο → Program σ ι ο α) (f : α → Program σ ι ο β) :
    (call i next >>= f) = call i fun o => next o >>= f := rfl

@[simp] theorem fetch_bind (q : σ → α) (f : α → Program σ ι ο β) :
    (fetch q >>= f) = read fun s => f (q s) := rfl

@[simp] theorem send_bind (i : ι) (f : ο → Program σ ι ο β) : (send i >>= f) = call i f := rfl

theorem run_bind (view : τ → σ) (serve : ι → τ → ο × τ) (p : Program σ ι ο α)
    (f : α → Program σ ι ο β) (t : τ) :
    (p >>= f).run view serve t = (f (p.run view serve t).1).run view serve (p.run view serve t).2 := by
  induction p generalizing t with
  | done a => rfl
  | read next ih => exact ih (view t) t
  | call i next ih => exact ih _ _

/-- What every served call keeps holds after the program. -/
theorem run_keeps {view : τ → σ} {serve : ι → τ → ο × τ} {J : τ → Prop}
    (h : ∀ i t, J t → J (serve i t).2) (p : Program σ ι ο α) {t : τ} (ht : J t) :
    J (p.run view serve t).2 := by
  induction p generalizing t with
  | done a => exact ht
  | read next ih => exact ih _ ht
  | call i next ih => exact ih _ (h i t ht)

/-- The result of a program that only reads, on one state; `none` if it reaches a call. -/
def value : Program σ ι ο α → σ → Option α
  | done a, _ => some a
  | read next, s => (next s).value s
  | call _ _, _ => none

@[simp] theorem value_done (a : α) (s : σ) : (done a : Program σ ι ο α).value s = some a := rfl

@[simp] theorem value_pure (a : α) (s : σ) : (pure a : Program σ ι ο α).value s = some a := rfl

@[simp] theorem value_read (next : σ → Program σ ι ο α) (s : σ) :
    (read next).value s = (next s).value s := rfl

@[simp] theorem value_fetch (q : σ → α) (s : σ) :
    (fetch q : Program σ ι ο α).value s = some (q s) := rfl

theorem value_bind (p : Program σ ι ο α) (f : α → Program σ ι ο β) (s : σ) :
    (p >>= f).value s = (p.value s).bind fun a => (f a).value s := by
  induction p with
  | done a => rfl
  | read next ih => exact ih s
  | call i next => rfl

/-- A program that only reads changes nothing, whoever serves the calls. -/
theorem run_of_value {view : τ → σ} {serve : ι → τ → ο × τ} {p : Program σ ι ο α} {t : τ} {a : α}
    (h : p.value (view t) = some a) : p.run view serve t = (a, t) := by
  induction p with
  | done b => cases h; rfl
  | read next ih => exact ih _ h
  | call i next => cases h

/-- Alone, a program first makes the reads that lead to its next call or result. -/
def advance : Program σ ι ο α → σ → Program σ ι ο α
  | done a, _ => done a
  | read next, s => (next s).advance s
  | call i next, _ => call i next

@[simp] theorem advance_done (a : α) (s : σ) :
    (done a : Program σ ι ο α).advance s = done a := rfl

@[simp] theorem advance_read (next : σ → Program σ ι ο α) (s : σ) :
    (read next).advance s = (next s).advance s := rfl

@[simp] theorem advance_call (i : ι) (next : ο → Program σ ι ο α) (s : σ) :
    (call i next).advance s = call i next := rfl

theorem run_advance (view : τ → σ) (serve : ι → τ → ο × τ) (p : Program σ ι ο α) (t : τ) :
    (p.advance (view t)).run view serve t = p.run view serve t := by
  induction p with
  | done a => rfl
  | read next ih => exact ih (view t)
  | call i next => rfl

theorem advance_bind_of_value {p : Program σ ι ο α} {f : α → Program σ ι ο β} {s : σ} {a : α}
    (h : p.value s = some a) : (p >>= f).advance s = (f a).advance s := by
  induction p with
  | done b => cases h; rfl
  | read next ih => exact ih s h
  | call i next => cases h

/-- Every call that the program may make is allowed, and every result it may end with expected. -/
def Always (allowed : ι → Prop) (expected : α → Prop) : Program σ ι ο α → Prop
  | done a => expected a
  | read next => ∀ s, (next s).Always allowed expected
  | call i next => allowed i ∧ ∀ o, (next o).Always allowed expected

theorem always_bind {allowed : ι → Prop} {between : α → Prop} {expected : β → Prop}
    {p : Program σ ι ο α} {f : α → Program σ ι ο β} (hp : p.Always allowed between)
    (hf : ∀ a, between a → (f a).Always allowed expected) :
    (p >>= f).Always allowed expected := by
  induction p with
  | done a => exact hf a hp
  | read next ih => exact fun s => ih s (hp s)
  | call i next ih => exact ⟨hp.1, fun o => ih o (hp.2 o)⟩

theorem run_of_always {view : τ → σ} {serve : ι → τ → ο × τ} {allowed : ι → Prop}
    {expected : α → Prop} {p : Program σ ι ο α} (h : p.Always allowed expected) {t : τ} :
    expected (p.run view serve t).1 := by
  induction p generalizing t with
  | done a => exact h
  | read next ih => exact ih _ (h _)
  | call i next ih => exact ih _ (h.2 _)

/-- The program makes no call. -/
def ReadOnly (p : Program σ ι ο α) : Prop := p.Always (fun _ => False) fun _ => True

@[simp] theorem readOnly_done (a : α) : (done a : Program σ ι ο α).ReadOnly := trivial

@[simp] theorem readOnly_pure (a : α) : (pure a : Program σ ι ο α).ReadOnly := trivial

@[simp] theorem readOnly_read {next : σ → Program σ ι ο α} :
    (read next).ReadOnly ↔ ∀ s, (next s).ReadOnly := Iff.rfl

@[simp] theorem readOnly_fetch (q : σ → α) : (fetch q : Program σ ι ο α).ReadOnly :=
  fun _ => trivial

theorem readOnly_bind {p : Program σ ι ο α} {f : α → Program σ ι ο β} (hp : p.ReadOnly)
    (hf : ∀ a, (f a).ReadOnly) : (p >>= f).ReadOnly :=
  always_bind hp fun a _ => hf a

theorem always_of_readOnly {allowed : ι → Prop} {p : Program σ ι ο α} (h : p.ReadOnly) :
    p.Always allowed fun _ => True := by
  induction p with
  | done a => exact trivial
  | read next ih => exact fun s => ih s (h s)
  | call i next => exact h.1.elim

theorem value_of_readOnly {p : Program σ ι ο α} (h : p.ReadOnly) (s : σ) :
    ∃ a, p.value s = some a := by
  induction p with
  | done a => exact ⟨a, rfl⟩
  | read next ih => exact ih s (h s)
  | call i next => exact h.1.elim

section Tracks

variable {agree same : σ → σ → Prop} {lost : σ → Prop}

/-- Up to its next call, the program goes the same way on states that agree: on all of them if
they are also the same, and otherwise unless it gave up on a state that is lost. -/
def Tracks (agree same : σ → σ → Prop) (lost : σ → Prop) (inert : Program σ ι ο α → Prop) :
    Program σ ι ο α → Prop
  | done _ => True
  | read next =>
    (∀ s u, agree s u → same s u → next s = next u) ∧
    (∀ s, lost s → inert (next s) ∨ ∀ u, agree s u → next s = next u) ∧
    ∀ s, (next s).Tracks agree same lost inert
  | call _ _ => True

variable {inert : Program σ ι ο α → Prop}

theorem tracks_read {next : σ → Program σ ι ο α} (h : ∀ s u, agree s u → next s = next u)
    (hn : ∀ s, (next s).Tracks agree same lost inert) :
    (read next).Tracks agree same lost inert :=
  ⟨fun s u ha _ => h s u ha, fun s _ => Or.inr (h s), hn⟩

theorem tracks_bind {inert' : Program σ ι ο β → Prop} {p : Program σ ι ο α}
    {f : α → Program σ ι ο β} (hp : p.Tracks agree same lost inert)
    (hi : ∀ q : Program σ ι ο α, inert q → inert' (q >>= f))
    (hf : ∀ a, (f a).Tracks agree same lost inert') :
    (p >>= f).Tracks agree same lost inert' := by
  induction p with
  | done a => exact hf a
  | read next ih =>
    refine ⟨fun s u ha hs => ?_, fun s hl => ?_, fun s => ih s (hp.2.2 s)⟩
    · exact congrArg (· >>= f) (hp.1 s u ha hs)
    · rcases hp.2.1 s hl with hinert | heq
      · exact Or.inl (hi _ hinert)
      · exact Or.inr fun u ha => congrArg (· >>= f) (heq u ha)
  | call i next => exact trivial

/-- On states that agree and are the same, the program comes to the same call or result. -/
theorem advance_congr {p : Program σ ι ο α} (hp : p.Tracks agree same lost inert) {s u : σ}
    (ha : agree s u) (hs : same s u) : p.advance s = p.advance u := by
  induction p with
  | done a => rfl
  | read next ih => exact (ih s (hp.2.2 s)).trans (congrArg (·.advance u) (hp.1 s u ha hs))
  | call i next => rfl

/-- Up to its next call, the program goes the same way on states that agree. -/
def Follows (agree : σ → σ → Prop) : Program σ ι ο α → Prop
  | done _ => True
  | read next => (∀ s u, agree s u → next s = next u) ∧ ∀ s, (next s).Follows agree
  | call _ _ => True

theorem follows_of_tracks {agree' : σ → σ → Prop} {p : Program σ ι ο α}
    (h : p.Tracks agree same lost inert) (ha : ∀ s u, agree' s u → agree s u ∧ same s u) :
    p.Follows agree' := by
  induction p with
  | done a => exact trivial
  | read next ih =>
    exact ⟨fun s u hsu => h.1 s u (ha s u hsu).1 (ha s u hsu).2, fun s => ih s (h.2.2 s)⟩
  | call i next => exact trivial

theorem follows_bind {p : Program σ ι ο α} {f : α → Program σ ι ο β} (hp : p.Follows agree)
    (hf : ∀ a, (f a).Follows agree) : (p >>= f).Follows agree := by
  induction p with
  | done a => exact hf a
  | read next ih =>
    exact ⟨fun s u hsu => congrArg (· >>= f) (hp.1 s u hsu), fun s => ih s (hp.2 s)⟩
  | call i next => exact trivial

/-- On states that agree, the program comes to the same call or result. -/
theorem advance_of_follows {p : Program σ ι ο α} (hp : p.Follows agree) {s u : σ}
    (h : agree s u) : p.advance s = p.advance u := by
  induction p with
  | done a => rfl
  | read next ih => exact (ih s (hp.2 s)).trans (congrArg (·.advance u) (hp.1 s u h))
  | call i next => rfl

end Tracks

section Agrees

variable {view : τ → σ} {serve : ι → τ → ο × τ} {R : τ → τ → Prop}

/-- From related states the program alone comes to the same result, and to related states. -/
def Agrees (view : τ → σ) (serve : ι → τ → ο × τ) (R : τ → τ → Prop) (p : Program σ ι ο α) :
    Prop :=
  ∀ t t', R t t' → (p.run view serve t).1 = (p.run view serve t').1 ∧
    R (p.run view serve t).2 (p.run view serve t').2

theorem agrees_done (a : α) : (done a : Program σ ι ο α).Agrees view serve R :=
  fun _ _ h => ⟨rfl, h⟩

theorem agrees_read {next : σ → Program σ ι ο α}
    (h : ∀ t t', R t t' → next (view t) = next (view t'))
    (hn : ∀ s, (next s).Agrees view serve R) : (read next).Agrees view serve R := by
  intro t t' ht
  simp only [run]
  rw [h t t' ht]
  exact hn _ t t' ht

theorem agrees_call {i : ι} {next : ο → Program σ ι ο α}
    (h : ∀ t t', R t t' → (serve i t).1 = (serve i t').1 ∧ R (serve i t).2 (serve i t').2)
    (hn : ∀ o, (next o).Agrees view serve R) : (call i next).Agrees view serve R := by
  intro t t' ht
  obtain ⟨hres, hnext⟩ := h t t' ht
  simp only [run]
  rw [hres]
  exact hn _ _ _ hnext

theorem agrees_bind {p : Program σ ι ο α} {f : α → Program σ ι ο β} (hp : p.Agrees view serve R)
    (hf : ∀ a, (f a).Agrees view serve R) : (p >>= f).Agrees view serve R := by
  intro t t' ht
  obtain ⟨hres, hnext⟩ := hp t t' ht
  rw [run_bind, run_bind, hres]
  exact hf _ _ _ hnext

end Agrees

section Conducts

variable {view : τ → σ} {serves : ι → τ → ο → τ → Prop} {t u : τ} {log : List (ι × ο)}

/-- Served in some way, the program makes these requests with these answers and ends. -/
def Conducts (view : τ → σ) (serves : ι → τ → ο → τ → Prop) :
    Program σ ι ο α → τ → List (ι × ο) → α → τ → Prop
  | done a, t, log, b, u => log = [] ∧ b = a ∧ u = t
  | read next, t, log, b, u => (next (view t)).Conducts view serves t log b u
  | call i next, t, log, b, u => ∃ o m rest, log = (i, o) :: rest ∧ serves i t o m ∧
      (next o).Conducts view serves m rest b u

theorem conducts_bind {p : Program σ ι ο α} {f : α → Program σ ι ο β} {b : β} :
    (p >>= f).Conducts view serves t log b u ↔ ∃ a m before after, log = before ++ after ∧
      p.Conducts view serves t before a m ∧ (f a).Conducts view serves m after b u := by
  induction p generalizing t log with
  | done a =>
    constructor
    · intro h
      exact ⟨a, t, [], log, rfl, ⟨rfl, rfl, rfl⟩, h⟩
    · rintro ⟨a', m, before, after, rfl, ⟨rfl, rfl, rfl⟩, h⟩
      exact h
  | read next ih => exact ih (view t)
  | call i next ih =>
    constructor
    · rintro ⟨o, m, rest, rfl, hserves, h⟩
      obtain ⟨a, m', before, after, rfl, hp, hf⟩ := (ih o).mp h
      exact ⟨a, m', (i, o) :: before, after, rfl, ⟨o, m, before, rfl, hserves, hp⟩, hf⟩
    · rintro ⟨a, m', before, after, rfl, ⟨o, m, rest, rfl, hserves, hp⟩, hf⟩
      exact ⟨o, m, rest ++ after, rfl, hserves, (ih o).mpr ⟨a, m', rest, after, rfl, hp, hf⟩⟩

/-- Where an answer settles the next state, the answers settle the run. -/
theorem conducts_unique {p : Program σ ι ο α} {a b : α} {v : τ} {log' : List (ι × ο)}
    (hserves : ∀ i t o u v, serves i t o u → serves i t o v → u = v)
    (h : p.Conducts view serves t log a u) (h' : p.Conducts view serves t log' b v)
    (hsame : log.map Prod.snd = log'.map Prod.snd) : log = log' ∧ a = b ∧ u = v := by
  induction p generalizing t log log' with
  | done c =>
    obtain ⟨rfl, rfl, rfl⟩ := h
    obtain ⟨rfl, rfl, rfl⟩ := h'
    exact ⟨rfl, rfl, rfl⟩
  | read next ih => exact ih _ h h' hsame
  | call i next ih =>
    obtain ⟨o, m, rest, rfl, hserved, h⟩ := h
    obtain ⟨o', m', rest', rfl, hserved', h'⟩ := h'
    rw [List.map_cons, List.map_cons, List.cons.injEq] at hsame
    obtain ⟨rfl, hsame⟩ := hsame
    obtain rfl := hserves i t o m m' hserved hserved'
    obtain ⟨rfl, hresult⟩ := ih o h h' hsame
    exact ⟨rfl, hresult⟩

/-- What every answered request keeps holds after the run. -/
theorem conducts_keeps {J : τ → Prop} {p : Program σ ι ο α} {a : α}
    (hserves : ∀ i t o u, J t → serves i t o u → J u) (h : p.Conducts view serves t log a u)
    (ht : J t) : J u := by
  induction p generalizing t log with
  | done b =>
    obtain ⟨-, -, rfl⟩ := h
    exact ht
  | read next ih => exact ih _ h ht
  | call i next ih =>
    obtain ⟨o, m, rest, -, hserved, h⟩ := h
    exact ih o h (hserves i t o m ht hserved)

end Conducts

end Program
