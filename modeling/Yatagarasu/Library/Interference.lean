import Mathlib.Logic.Relation
import Yatagarasu.Library.Program

/-! A program that may raise runs against a world that serves its requests and acts of its own
between them. It can be dropped at any point, and another one started. -/

/-- What a program sees, how its requests may be served, and what happens of its own accord. -/
structure World (σ ι ο τ : Type) where
  view : τ → σ
  serves : ι → τ → ο → τ → Prop
  drifts : τ → τ → Prop
  drifts_refl : ∀ t, drifts t t
  drifts_trans : ∀ {t u v}, drifts t u → drifts u v → drifts t v

/-- A program that ends with a value or an exception. -/
abbrev Raising (ε σ ι ο α : Type) := ExceptT ε (Program σ ι ο) α

namespace Raising

variable {ε σ ι ο α : Type}

def fetch (q : σ → α) : Raising ε σ ι ο α := ExceptT.lift (Program.fetch q)

def send (request : ι) : Raising ε σ ι ο ο := ExceptT.lift (Program.send request)

section Conducts

variable {β τ : Type} {view : τ → σ} {serves : ι → τ → ο → τ → Prop} {t u : τ}
  {log : List (ι × ο)} {x : Raising ε σ ι ο α} {f : α → Raising ε σ ι ο β}

/-- A whole run of a program that may raise. -/
abbrev Conducts (view : τ → σ) (serves : ι → τ → ο → τ → Prop) (x : Raising ε σ ι ο α) (t : τ)
    (log : List (ι × ο)) (res : Except ε α) (u : τ) : Prop :=
  Program.Conducts view serves x.run t log res u

theorem conducts_pure {a : α} {res : Except ε α} :
    (pure a : Raising ε σ ι ο α).Conducts view serves t log res u ↔
      log = [] ∧ res = .ok a ∧ u = t := Iff.rfl

theorem conducts_throw {e : ε} {res : Except ε α} :
    (throw e : Raising ε σ ι ο α).Conducts view serves t log res u ↔
      log = [] ∧ res = .error e ∧ u = t := Iff.rfl

theorem conducts_fetch {q : σ → α} {res : Except ε α} :
    (fetch q : Raising ε σ ι ο α).Conducts view serves t log res u ↔
      log = [] ∧ res = .ok (q (view t)) ∧ u = t := Iff.rfl

theorem conducts_send {i : ι} {res : Except ε ο} :
    (send i : Raising ε σ ι ο ο).Conducts view serves t log res u ↔
      ∃ o, log = [(i, o)] ∧ res = .ok o ∧ serves i t o u := by
  constructor
  · rintro ⟨o, m, rest, rfl, hserves, rfl, rfl, rfl⟩
    exact ⟨o, rfl, rfl, hserves⟩
  · rintro ⟨o, rfl, rfl, hserves⟩
    exact ⟨o, u, [], rfl, hserves, rfl, rfl, rfl⟩

/-- The first part raises, or both follow each other. -/
theorem conducts_bind {res : Except ε β} :
    (x >>= f).Conducts view serves t log res u ↔
      (∃ e, res = .error e ∧ x.Conducts view serves t log (.error e) u) ∨
      ∃ a m before after, log = before ++ after ∧ x.Conducts view serves t before (.ok a) m ∧
        (f a).Conducts view serves m after res u := by
  unfold Conducts
  rw [ExceptT.run_bind, Program.conducts_bind]
  constructor
  · rintro ⟨e | a, m, before, after, rfl, hx, hf⟩
    · obtain ⟨rfl, rfl, rfl⟩ := hf
      rw [List.append_nil]
      exact .inl ⟨e, rfl, hx⟩
    · exact .inr ⟨a, m, before, after, rfl, hx, hf⟩
  · rintro (⟨e, rfl, hx⟩ | ⟨a, m, before, after, rfl, hx, hf⟩)
    · exact ⟨.error e, u, log, [], (List.append_nil log).symm, hx, rfl, rfl, rfl⟩
    · exact ⟨.ok a, m, before, after, rfl, hx, hf⟩

/-- Where nothing was raised, both parts follow each other. -/
theorem conducts_bind_ok {b : β} : (x >>= f).Conducts view serves t log (.ok b) u ↔
    ∃ a m before after, log = before ++ after ∧ x.Conducts view serves t before (.ok a) m ∧
      (f a).Conducts view serves m after (.ok b) u := by
  rw [conducts_bind]
  apply or_iff_right
  rintro ⟨_, hres, -⟩
  cases hres

end Conducts

end Raising

namespace World

variable {ε σ ι ο τ κ α β : Type} {w : World σ ι ο τ} {allowed : τ → τ → Prop}

/-- Every request is served by an allowed change of the state, and the end is as expected. -/
def Safe (w : World σ ι ο τ) (allowed : τ → τ → Prop) (expected : α → τ → Prop) :
    Program σ ι ο α → τ → Prop
  | .done a, t => expected a t
  | .read next, t => ∀ u, w.drifts t u → w.Safe allowed expected (next (w.view u)) u
  | .call request next, t => ∀ u, w.drifts t u → ∀ reply v, w.serves request u reply v →
      allowed u v ∧ w.Safe allowed expected (next reply) v

/-- What no drift takes away. -/
def Stable (w : World σ ι ο τ) (P : τ → Prop) : Prop := ∀ t u, P t → w.drifts t u → P u

theorem safe_drift {expected : α → τ → Prop} (hstable : ∀ a, w.Stable (expected a))
    {p : Program σ ι ο α} {t u : τ} (h : w.Safe allowed expected p t) (hdrift : w.drifts t u) :
    w.Safe allowed expected p u := by
  cases p with
  | done a => exact hstable a t u h hdrift
  | read next => exact fun v hv => h v (w.drifts_trans hdrift hv)
  | call request next => exact fun v hv => h v (w.drifts_trans hdrift hv)

theorem safe_mono {expected expected' : α → τ → Prop} {p : Program σ ι ο α} {t : τ}
    (h : w.Safe allowed expected p t) (hexpected : ∀ a u, expected a u → expected' a u) :
    w.Safe allowed expected' p t := by
  induction p generalizing t with
  | done a => exact hexpected a t h
  | read next ih => exact fun u hu => ih _ (h u hu)
  | call request next ih =>
    intro u hu reply v hserves
    obtain ⟨hallowed, hnext⟩ := h u hu reply v hserves
    exact ⟨hallowed, ih reply hnext⟩

theorem safe_bind {between : α → τ → Prop} {expected : β → τ → Prop} {p : Program σ ι ο α}
    {f : α → Program σ ι ο β} {t : τ} (hp : w.Safe allowed between p t)
    (hf : ∀ a u, between a u → w.Safe allowed expected (f a) u) :
    w.Safe allowed expected (p >>= f) t := by
  induction p generalizing t with
  | done a => exact hf a t hp
  | read next ih => exact fun u hu => ih _ (hp u hu)
  | call request next ih =>
    intro u hu reply v hserves
    obtain ⟨hallowed, hnext⟩ := hp u hu reply v hserves
    exact ⟨hallowed, ih reply hnext⟩

/-- A value is as in `Q`, and an exception leaves `E`. -/
def Ends (Q : α → τ → Prop) (E : τ → Prop) : Except ε α → τ → Prop
  | .ok a, t => Q a t
  | .error _, t => E t

/-- From `P` the program makes allowed changes only, and ends with `Q` or raises with `E`. -/
def Triple (w : World σ ι ο τ) (allowed : τ → τ → Prop) (P : τ → Prop) (x : Raising ε σ ι ο α)
    (Q : α → τ → Prop) (E : τ → Prop) : Prop :=
  ∀ t, P t → w.Safe allowed (Ends Q E) x.run t

section Rules

variable {P P' : τ → Prop} {Q : α → τ → Prop} {R : β → τ → Prop} {E : τ → Prop}
  {x : Raising ε σ ι ο α} {f : α → Raising ε σ ι ο β}

theorem triple_pure {a : α} (h : ∀ t, P t → Q a t) :
    w.Triple allowed P (pure a : Raising ε σ ι ο α) Q E := fun t ht => h t ht

theorem triple_throw {e : ε} (h : ∀ t, P t → E t) :
    w.Triple allowed P (throw e : Raising ε σ ι ο α) Q E := fun t ht => h t ht

theorem triple_bind (hx : w.Triple allowed P x Q E)
    (hf : ∀ a, w.Triple allowed (Q a) (f a) R E) : w.Triple allowed P (x >>= f) R E := by
  intro t ht
  rw [ExceptT.run_bind]
  refine safe_bind (hx t ht) ?_
  rintro (e | a) u hu
  · exact hu
  · exact hf a u hu

theorem triple_pre (h : w.Triple allowed P x Q E) (hP : ∀ t, P' t → P t) :
    w.Triple allowed P' x Q E := fun t ht => h t (hP t ht)

theorem triple_post {Q' : α → τ → Prop} (h : w.Triple allowed P x Q E)
    (hQ : ∀ a t, Q a t → Q' a t) : w.Triple allowed P x Q' E := by
  intro t ht
  refine safe_mono (h t ht) ?_
  rintro (e | a) u hu
  · exact hu
  · exact hQ a u hu

theorem triple_fetch {q : σ → α} (hP : w.Stable P) (h : ∀ t, P t → Q (q (w.view t)) t) :
    w.Triple allowed P (Raising.fetch q : Raising ε σ ι ο α) Q E :=
  fun t ht u hu => h u (hP t u ht hu)

theorem triple_send {request : ι} {Q : ο → τ → Prop} (hP : w.Stable P)
    (h : ∀ t reply u, P t → w.serves request t reply u → allowed t u ∧ Q reply u) :
    w.Triple allowed P (Raising.send request : Raising ε σ ι ο ο) Q E :=
  fun t ht u hu reply v hserves => h u reply v (hP t u ht hu) hserves

theorem triple_ite {p : Prop} [Decidable p] {y : Raising ε σ ι ο α}
    (hx : p → w.Triple allowed P x Q E) (hy : ¬ p → w.Triple allowed P y Q E) :
    w.Triple allowed P (if p then x else y) Q E := by
  by_cases hp : p
  · rw [if_pos hp]
    exact hx hp
  · rw [if_neg hp]
    exact hy hp

end Rules

/-- The state, and the operation that is under way with what is left of its program. -/
structure Running (σ ι ο τ κ ρ : Type) where
  state : τ
  operation : Option (κ × Program σ ι ο ρ) := none

variable {ρ : Type} {start : κ → Program σ ι ο ρ} {s s' : Running σ ι ο τ κ ρ}

/-- One operation at a time, which may be dropped anywhere. -/
inductive Step (w : World σ ι ο τ) (start : κ → Program σ ι ο ρ) :
    Running σ ι ο τ κ ρ → Running σ ι ο τ κ ρ → Prop
  | drift {t u : τ} {operation} : w.drifts t u → Step w start ⟨t, operation⟩ ⟨u, operation⟩
  | start {t : τ} (k : κ) : Step w start ⟨t, none⟩ ⟨t, some (k, start k)⟩
  | read {t : τ} {k : κ} {next} :
      Step w start ⟨t, some (k, .read next)⟩ ⟨t, some (k, next (w.view t))⟩
  | serve {t u : τ} {k : κ} {request : ι} {reply : ο} {next} : w.serves request t reply u →
      Step w start ⟨t, some (k, .call request next)⟩ ⟨u, some (k, next reply)⟩
  | finish {t : τ} {k : κ} {a : ρ} : Step w start ⟨t, some (k, .done a)⟩ ⟨t, none⟩
  | crash {t : τ} {operation} : Step w start ⟨t, operation⟩ ⟨t, none⟩

variable {allowed : κ → τ → τ → Prop} {J : τ → Prop}

/-- The state is sound, and the rest of the operation is safe from it. -/
structure Guarded (w : World σ ι ο τ) (allowed : κ → τ → τ → Prop) (J : τ → Prop)
    (s : Running σ ι ο τ κ ρ) : Prop where
  sound : J s.state
  safe : ∀ k p, s.operation = some (k, p) → w.Safe (allowed k) (fun _ => J) p s.state

theorem guarded_step (hJ : w.Stable J) (hallowed : ∀ k t u, J t → allowed k t u → J u)
    (hstart : ∀ k t, J t → w.Safe (allowed k) (fun _ => J) (start k) t)
    (hs : w.Guarded allowed J s) (h : w.Step start s s') : w.Guarded allowed J s' := by
  cases h with
  | drift hdrift =>
    refine ⟨hJ _ _ hs.sound hdrift, fun k p hop => ?_⟩
    exact safe_drift (fun _ => hJ) (hs.safe k p hop) hdrift
  | start k =>
    refine ⟨hs.sound, ?_⟩
    rintro _ _ ⟨⟩
    exact hstart k _ hs.sound
  | @read t k next =>
    refine ⟨hs.sound, ?_⟩
    rintro _ _ ⟨⟩
    exact hs.safe k _ rfl t (w.drifts_refl t)
  | @serve t u k request reply next hserves =>
    obtain ⟨hchange, hnext⟩ := hs.safe k _ rfl t (w.drifts_refl t) reply u hserves
    refine ⟨hallowed k t u hs.sound hchange, ?_⟩
    rintro _ _ ⟨⟩
    exact hnext
  | finish => exact ⟨hs.sound, nofun⟩
  | crash => exact ⟨hs.sound, nofun⟩

theorem guarded_reach (hJ : w.Stable J) (hallowed : ∀ k t u, J t → allowed k t u → J u)
    (hstart : ∀ k t, J t → w.Safe (allowed k) (fun _ => J) (start k) t)
    (hs : w.Guarded allowed J s) (h : Relation.ReflTransGen (w.Step start) s s') :
    w.Guarded allowed J s' := by
  induction h with
  | refl => exact hs
  | tail _ hlast ih => exact guarded_step hJ hallowed hstart ih hlast

/-- A step drifts, leaves the state, or makes a change that its operation is allowed. -/
theorem step_change (hs : w.Guarded allowed J s) (h : w.Step start s s') :
    w.drifts s.state s'.state ∨
      ∃ k p, s.operation = some (k, p) ∧ allowed k s.state s'.state := by
  cases h with
  | drift hdrift => exact Or.inl hdrift
  | start k => exact Or.inl (w.drifts_refl _)
  | read => exact Or.inl (w.drifts_refl _)
  | @serve t u k request reply next hserves =>
    exact Or.inr ⟨k, _, rfl, (hs.safe k _ rfl t (w.drifts_refl t) reply u hserves).1⟩
  | finish => exact Or.inl (w.drifts_refl _)
  | crash => exact Or.inl (w.drifts_refl _)

end World
