import Yatagarasu.Library.Interference

/-! What a program does after another one has returned or raised: `finally` blocks, and handlers
that raise again. -/

namespace Program

variable {σ ι ο α β : Type}

protected theorem bind_done (p : Program σ ι ο α) : p.bind done = p := by
  induction p with
  | done a => rfl
  | read next ih => exact congrArg read (funext ih)
  | call i next ih => exact congrArg (call i) (funext ih)

protected theorem bind_assoc {γ : Type} (p : Program σ ι ο α) (f : α → Program σ ι ο β)
    (g : β → Program σ ι ο γ) : (p.bind f).bind g = p.bind fun a => (f a).bind g := by
  induction p with
  | done a => rfl
  | read next ih => exact congrArg read (funext ih)
  | call i next ih => exact congrArg (call i) (funext ih)

protected theorem lawfulMonad : LawfulMonad (Program σ ι ο) :=
  LawfulMonad.mk' _ Program.bind_done (fun _ _ => rfl) Program.bind_assoc

end Program

namespace Raising

variable {ε σ ι ο τ α β : Type}

protected theorem bind_assoc {γ : Type} (x : Raising ε σ ι ο α) (f : α → Raising ε σ ι ο β)
    (g : β → Raising ε σ ι ο γ) : x >>= f >>= g = x >>= fun a => f a >>= g := by
  have : LawfulMonad (Program σ ι ο) := Program.lawfulMonad
  exact bind_assoc x f g

/-- Go on with the result of a program, also if it raised. -/
def afterwards (x : Raising ε σ ι ο α) (next : Except ε α → Raising ε σ ι ο β) :
    Raising ε σ ι ο β :=
  ExceptT.mk (x.run >>= fun res => (next res).run)

/-- What was returned, or raised, once more. -/
def again : Except ε α → Raising ε σ ι ο α
  | .ok a => pure a
  | .error e => throw e

/-- `try: x finally: last`. What `last` raises takes the place of what `x` did. -/
def andFinally (x : Raising ε σ ι ο α) (last : Raising ε σ ι ο Unit) : Raising ε σ ι ο α :=
  x.afterwards fun res => do
    last
    again res

/-- `try: x except BaseException: last; raise`. -/
def onError (x : Raising ε σ ι ο α) (last : Raising ε σ ι ο Unit) : Raising ε σ ι ο α :=
  x.afterwards fun
    | .ok a => pure a
    | .error e => do
      last
      throw e

section Conducts

variable {view : τ → σ} {serves : ι → τ → ο → τ → Prop} {t u : τ} {log : List (ι × ο)}
  {x : Raising ε σ ι ο α} {last : Raising ε σ ι ο Unit} {a : α}

theorem conducts_afterwards {next : Except ε α → Raising ε σ ι ο β} {res : Except ε β} :
    (x.afterwards next).Conducts view serves t log res u ↔ ∃ first m before after,
      log = before ++ after ∧ x.Conducts view serves t before first m ∧
        (next first).Conducts view serves m after res u :=
  Program.conducts_bind

/-- A value survives the block only if the block itself raised nothing. -/
theorem conducts_andFinally_ok (h : (x.andFinally last).Conducts view serves t log (.ok a) u) :
    ∃ m before after, log = before ++ after ∧ x.Conducts view serves t before (.ok a) m := by
  obtain ⟨first, m, before, after, hlog, hx, hnext⟩ := conducts_afterwards.mp h
  obtain ⟨_, _, _, _, -, -, hagain⟩ := conducts_bind_ok.mp hnext
  cases first with
  | ok b =>
    obtain ⟨-, hres, -⟩ := conducts_pure.mp hagain
    cases hres
    exact ⟨m, before, after, hlog, hx⟩
  | error e =>
    obtain ⟨-, hres, -⟩ := conducts_throw.mp hagain
    cases hres

end Conducts

end Raising

/-- A call that may be served so, and a run from there. -/
theorem Program.exists_conducts {σ ι ο τ α : Type} {view : τ → σ}
    {serves : ι → τ → ο → τ → Prop} {t m : τ} {i : ι} {o : ο} {next : ο → Program σ ι ο α} {a : α}
    (hserves : serves i t o m) (h : ∃ log u, (next o).Conducts view serves m log a u) :
    ∃ log u, (Program.call i next).Conducts view serves t log a u := by
  obtain ⟨log, u, hnext⟩ := h
  exact ⟨(i, o) :: log, u, o, m, log, rfl, hserves, hnext⟩

namespace World

variable {ε σ ι ο τ α β : Type} {w : World σ ι ο τ} {allowed : τ → τ → Prop} {P : τ → Prop}
  {Q : α → τ → Prop} {R : β → τ → Prop} {E F : τ → Prop} {x : Raising ε σ ι ο α}
  {last : Raising ε σ ι ο Unit}

theorem triple_afterwards {next : Except ε α → Raising ε σ ι ο β}
    (hx : w.Triple allowed P x Q E) (hok : ∀ a, w.Triple allowed (Q a) (next (.ok a)) R F)
    (herror : ∀ e, w.Triple allowed E (next (.error e)) R F) :
    w.Triple allowed P (x.afterwards next) R F := by
  intro t ht
  refine safe_bind (hx t ht) ?_
  rintro (e | a) u hu
  · exact herror e u hu
  · exact hok a u hu

/-- The block runs from wherever the program stops. -/
theorem triple_andFinally {Q' : α → τ → Prop} (hx : w.Triple allowed P x Q E)
    (hok : ∀ a, w.Triple allowed (Q a) last (fun _ => Q' a) F)
    (herror : w.Triple allowed E last (fun _ => F) F) :
    w.Triple allowed P (x.andFinally last) Q' F := by
  apply triple_afterwards hx
  · intro a
    exact triple_bind (hok a) fun _ => triple_pure fun _ h => h
  · intro e
    exact triple_bind herror fun _ => triple_throw fun _ h => h

theorem triple_onError (hx : w.Triple allowed P x Q E)
    (herror : w.Triple allowed E last (fun _ => F) F) :
    w.Triple allowed P (x.onError last) Q F := by
  apply triple_afterwards hx
  · intro a
    exact triple_pure fun _ h => h
  · intro e
    exact triple_bind herror fun _ => triple_throw fun _ h => h

theorem triple_weaken {Q' : α → τ → Prop} (h : w.Triple allowed P x Q E)
    (hQ : ∀ a t, Q a t → Q' a t) (hE : ∀ t, E t → F t) : w.Triple allowed P x Q' F := by
  intro t ht
  refine safe_mono (h t ht) ?_
  rintro (e | a) u hu
  · exact hE u hu
  · exact hQ a u hu

theorem triple_exists {κ : Type} {P : κ → τ → Prop} (h : ∀ k, w.Triple allowed (P k) x Q E) :
    w.Triple allowed (fun t => ∃ k, P k t) x Q E := by
  rintro t ⟨k, hk⟩
  exact h k t hk

/-- What holds whatever the state is may be used on the way. -/
theorem triple_fact {p : Prop} (h : p → w.Triple allowed P x Q E) :
    w.Triple allowed (fun t => p ∧ P t) x Q E := by
  rintro t ⟨hp, ht⟩
  exact h hp t ht

/-- A whole run of a safe program ends as expected. -/
theorem ends_of_conducts {expected : α → τ → Prop} {p : Program σ ι ο α} {t u : τ}
    {log : List (ι × ο)} {a : α} (hsafe : w.Safe allowed expected p t)
    (h : p.Conducts w.view w.serves t log a u) : expected a u := by
  induction p generalizing t log with
  | done b =>
    obtain ⟨-, rfl, rfl⟩ := h
    exact hsafe
  | read next ih => exact ih _ (hsafe t (w.drifts_refl t)) h
  | call request next ih =>
    obtain ⟨reply, m, rest, -, hserves, h⟩ := h
    exact ih reply (hsafe t (w.drifts_refl t) reply m hserves).2 h

theorem ends_of_triple {res : Except ε α} {t u : τ} {log : List (ι × ο)}
    (hx : w.Triple allowed P x Q E) (h : x.Conducts w.view w.serves t log res u) (ht : P t) :
    Ends Q E res u :=
  ends_of_conducts (hx t ht) h

theorem ends_either {res : Except ε α} {t u : τ} {log : List (ι × ο)}
    (hx : w.Triple allowed P x (fun _ => F) F) (h : x.Conducts w.view w.serves t log res u)
    (ht : P t) : F u := by
  have hends := ends_of_triple hx h ht
  cases res with
  | ok a => exact hends
  | error e => exact hends

/-- Served in some way, the program returns this value. -/
def Returns (w : World σ ι ο τ) (x : Raising ε σ ι ο α) (t : τ) (a : α) (u : τ) : Prop :=
  ∃ log, x.Conducts w.view w.serves t log (.ok a) u

section Returns

variable {t m u : τ} {a : α} {b : β}

theorem returns_pure : w.Returns (pure a : Raising ε σ ι ο α) t a t := ⟨[], rfl, rfl, rfl⟩

theorem returns_again {res : Except ε α} (h : res = .ok a) :
    w.Returns (Raising.again res : Raising ε σ ι ο α) t a t := by
  subst h
  exact returns_pure

theorem returns_send {i : ι} {o : ο} (h : w.serves i t o u) :
    w.Returns (Raising.send i : Raising ε σ ι ο ο) t o u :=
  ⟨_, Raising.conducts_send.mpr ⟨o, rfl, rfl, h⟩⟩

theorem Returns.bind {f : α → Raising ε σ ι ο β} (hx : w.Returns x t a m)
    (hf : w.Returns (f a) m b u) : w.Returns (x >>= f) t b u := by
  obtain ⟨before, hx⟩ := hx
  obtain ⟨after, hf⟩ := hf
  exact ⟨before ++ after, Raising.conducts_bind_ok.mpr ⟨a, m, before, after, rfl, hx, hf⟩⟩

theorem Returns.afterwards {next : Except ε α → Raising ε σ ι ο β} (hx : w.Returns x t a m)
    (hnext : w.Returns (next (.ok a)) m b u) : w.Returns (x.afterwards next) t b u := by
  obtain ⟨before, hx⟩ := hx
  obtain ⟨after, hnext⟩ := hnext
  exact ⟨before ++ after,
    Raising.conducts_afterwards.mpr ⟨.ok a, m, before, after, rfl, hx, hnext⟩⟩

theorem Returns.andFinally (hx : w.Returns x t a m) (hlast : w.Returns last m () u) :
    w.Returns (x.andFinally last) t a u := hx.afterwards (hlast.bind returns_pure)

theorem Returns.onError (hx : w.Returns x t a u) : w.Returns (x.onError last) t a u :=
  hx.afterwards returns_pure

end Returns

end World
