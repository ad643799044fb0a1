import Yatagarasu.Library.Interference
import Yatagarasu.Library.Transition

/-! The log of a run names the operations that it starts, each with the state that it starts from. -/

namespace World

open Transition

variable {σ ι ο τ κ ρ : Type} {w : World σ ι ο τ} {start : κ → Program σ ι ο ρ}
  {s s' : Running σ ι ο τ κ ρ}

/-- A step, and the operation that it starts with the state in which it does. -/
inductive Logged (w : World σ ι ο τ) (start : κ → Program σ ι ο ρ) :
    Running σ ι ο τ κ ρ → List (κ × τ) → Running σ ι ο τ κ ρ → Prop
  | starts {t : τ} (k : κ) : Logged w start ⟨t, none⟩ [(k, t)] ⟨t, some (k, start k)⟩
  | goes {s s' : Running σ ι ο τ κ ρ} : w.Step start s s' →
      (s'.operation ≠ none → s.operation ≠ none) → Logged w start s [] s'

/-- The operations follow each other, each from the state in which it was started: `Makes` says what
one of them makes of this state. -/
inductive Chain (w : World σ ι ο τ) (Makes : κ → τ → τ → Prop) (t₀ : τ) : List (κ × τ) → τ → Prop
  | idle {t : τ} : w.drifts t₀ t → Chain w Makes t₀ [] t
  | after {started : List (κ × τ)} {k : κ} {t u : τ} : Chain w Makes t₀ started t →
      Makes k t u → Chain w Makes t₀ (started ++ [(k, t)]) u

variable {Makes : κ → τ → τ → Prop} {t₀ t u : τ} {k : κ} {started new : List (κ × τ)}

theorem Chain.last (h : w.Chain Makes t₀ (started ++ [(k, t)]) u) :
    w.Chain Makes t₀ started t ∧ Makes k t u := by
  generalize hwhole : started ++ [(k, t)] = whole at h
  cases h with
  | idle => simp at hwhole
  | after hbefore hmakes =>
    obtain ⟨rfl, hsame⟩ := List.append_inj' hwhole rfl
    cases hsame
    exact ⟨hbefore, hmakes⟩

theorem Chain.drift (hstable : ∀ k t, w.Stable (Makes k t)) (h : w.Chain Makes t₀ started t)
    (hdrift : w.drifts t u) : w.Chain Makes t₀ started u := by
  cases h with
  | idle hfirst => exact .idle (w.drifts_trans hfirst hdrift)
  | after hbefore hmakes => exact .after hbefore (hstable _ _ _ _ hmakes hdrift)

/-- The chain goes up to the state, and the rest of the last operation keeps to it. -/
structure Chained (w : World σ ι ο τ) (Makes : κ → τ → τ → Prop) (t₀ : τ)
    (started : List (κ × τ)) (s : Running σ ι ο τ κ ρ) : Prop where
  chain : w.Chain Makes t₀ started s.state
  rest : ∀ k p, s.operation = some (k, p) → ∃ before t, started = before ++ [(k, t)] ∧
    w.Safe (fun _ => Makes k t) (fun _ => Makes k t) p s.state

theorem chained_step (hstable : ∀ k t, w.Stable (Makes k t))
    (hstart : ∀ k t, Makes k t t ∧ w.Safe (fun _ => Makes k t) (fun _ => Makes k t) (start k) t)
    (hs : w.Chained Makes t₀ started s) (h : w.Logged start s new s') :
    w.Chained Makes t₀ (started ++ new) s' := by
  cases h with
  | starts k =>
    refine ⟨.after hs.chain (hstart k _).1, ?_⟩
    rintro _ _ ⟨⟩
    exact ⟨started, _, rfl, (hstart k _).2⟩
  | goes hstep hunder =>
    rw [List.append_nil]
    cases hstep with
    | drift hdrift =>
      refine ⟨hs.chain.drift hstable hdrift, fun k p hop => ?_⟩
      obtain ⟨before, t, hlast, hsafe⟩ := hs.rest k p hop
      exact ⟨before, t, hlast, safe_drift (fun _ => hstable k t) hsafe hdrift⟩
    | start k => exact absurd rfl (hunder (by simp))
    | @read t k next =>
      refine ⟨hs.chain, ?_⟩
      rintro _ _ ⟨⟩
      obtain ⟨before, t₁, hlast, hsafe⟩ := hs.rest k _ rfl
      exact ⟨before, t₁, hlast, hsafe t (w.drifts_refl t)⟩
    | @serve t u k request reply next hserves =>
      obtain ⟨before, t₁, rfl, hsafe⟩ := hs.rest k _ rfl
      obtain ⟨hmakes, hnext⟩ := hsafe t (w.drifts_refl t) reply u hserves
      refine ⟨.after hs.chain.last.1 hmakes, ?_⟩
      rintro _ _ ⟨⟩
      exact ⟨before, t₁, rfl, hnext⟩
    | finish => exact ⟨hs.chain, nofun⟩
    | crash => exact ⟨hs.chain, nofun⟩

theorem chained_run (hstable : ∀ k t, w.Stable (Makes k t))
    (hstart : ∀ k t, Makes k t t ∧ w.Safe (fun _ => Makes k t) (fun _ => Makes k t) (start k) t)
    (h : Runs (w.Logged start) ⟨t₀, none⟩ started s) : w.Chain Makes t₀ started s.state := by
  have hchained : w.Chained Makes t₀ started s :=
    h.invariant (J := w.Chained Makes t₀) ⟨.idle (w.drifts_refl t₀), fun _ _ hop => by cases hop⟩
      fun hs hstep => chained_step hstable hstart hs hstep
  exact hchained.chain

theorem Chain.mono {Makes' : κ → τ → τ → Prop} (h : w.Chain Makes t₀ started t)
    (hmakes : ∀ k t u, Makes k t u → Makes' k t u) : w.Chain Makes' t₀ started t := by
  induction h with
  | idle hdrift => exact .idle hdrift
  | after _ hlast ih => exact .after ih (hmakes _ _ _ hlast)

theorem reach_of_logged (h : Runs (w.Logged start) s started s') :
    Relation.ReflTransGen (w.Step start) s s' := by
  induction h with
  | refl => exact .refl
  | tail _ hlast ih =>
    cases hlast with
    | starts k => exact ih.tail (.start k)
    | goes hstep => exact ih.tail hstep

/-- Every run has its log. -/
theorem logged_of_reach (h : Relation.ReflTransGen (w.Step start) s s') :
    ∃ started, Runs (w.Logged start) s started s' := by
  induction h with
  | refl => exact ⟨[], .refl s⟩
  | @tail u v _ hlast ih =>
    obtain ⟨started, hruns⟩ := ih
    by_cases hunder : v.operation ≠ none → u.operation ≠ none
    · exact ⟨_, hruns.tail (.goes hlast hunder)⟩
    · cases hlast with
      | start k => exact ⟨_, hruns.tail (.starts k)⟩
      | drift => exact absurd (fun hop : _ ≠ none => hop) hunder
      | crash | finish => exact absurd (fun hop : none ≠ none => absurd rfl hop) hunder
      | read | serve => exact absurd (fun _ => by simp) hunder

/-- An operation that is not dropped comes to the end of a whole run of it. -/
theorem runs_of_conducts {p : Program σ ι ο ρ} {log : List (ι × ο)} {a : ρ}
    (h : p.Conducts w.view w.serves t log a u) :
    Runs (w.Logged start) ⟨t, some (k, p)⟩ [] ⟨u, some (k, .done a)⟩ := by
  induction p generalizing t log with
  | done b =>
    obtain ⟨-, rfl, rfl⟩ := h
    exact .refl _
  | read next ih =>
    exact (Runs.single (.goes .read fun _ => by simp)).trans (ih _ h)
  | call request next ih =>
    obtain ⟨reply, m, rest, -, hserves, h⟩ := h
    exact (Runs.single (.goes (.serve hserves) fun _ => by simp)).trans (ih reply h)

end World
