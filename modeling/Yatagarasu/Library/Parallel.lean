import Mathlib.Logic.Function.Basic
import Yatagarasu.Library.Interference

/-! Any number of programs on one state, each taking one step at a time, in any order. Each is
verified alone, against what the others may do; together they then do what was proved of each. -/

/-- What a party sees, how its requests may be served, and which changes it may make. -/
structure Parties (κ σ ι ο τ : Type) where
  view : τ → σ
  serves : κ → ι → τ → ο → τ → Prop
  changes : κ → τ → τ → Prop

namespace Parties

variable {κ σ ι ο τ ρ : Type} (g : Parties κ σ ι ο τ)

/-- A change that another party may make. -/
def Elsewhere (i : κ) (t u : τ) : Prop := ∃ j, j ≠ i ∧ g.changes j t u

/-- One party among the others: the world drifts as they may change it. -/
def world (i : κ) : World σ ι ο τ where
  view := g.view
  serves := g.serves i
  drifts := Relation.ReflTransGen (g.Elsewhere i)
  drifts_refl _ := .refl
  drifts_trans := .trans

/-- The state, and what is left of the program of each party. -/
structure State (κ σ ι ο τ ρ : Type) where
  shared : τ
  programs : κ → Program σ ι ο ρ

/-- One party takes a step. A party that never does so again has crashed. -/
inductive Step [DecidableEq κ] : State κ σ ι ο τ ρ → State κ σ ι ο τ ρ → Prop
  | read {t : τ} {programs : κ → Program σ ι ο ρ} (i : κ) {next} : programs i = .read next →
      Step ⟨t, programs⟩ ⟨t, Function.update programs i (next (g.view t))⟩
  | serve {t u : τ} {programs : κ → Program σ ι ο ρ} (i : κ) {request : ι} {reply : ο} {next} :
      programs i = .call request next → g.serves i request t reply u →
      Step ⟨t, programs⟩ ⟨u, Function.update programs i (next reply)⟩

variable {g} {expected : κ → ρ → τ → Prop} {s s' : State κ σ ι ο τ ρ} {P : τ → Prop}

/-- What no single change of another party takes away, no drift takes away. -/
theorem stable_of_changes {i : κ} (h : ∀ j t u, j ≠ i → P t → g.changes j t u → P u) :
    (g.world i).Stable P := by
  intro t u ht hdrift
  change Relation.ReflTransGen (g.Elsewhere i) t u at hdrift
  induction hdrift with
  | refl => exact ht
  | tail _ hlast ih =>
    obtain ⟨j, hj, hchange⟩ := hlast
    exact h j _ _ hj ih hchange

/-- Every party is safe in its world. -/
def Sound (g : Parties κ σ ι ο τ) (expected : κ → ρ → τ → Prop) (s : State κ σ ι ο τ ρ) : Prop :=
  ∀ i, (g.world i).Safe (g.changes i) (expected i) (s.programs i) s.shared

/-- A party that has returned did so as expected. -/
theorem expected_of_done {i : κ} {a : ρ} (hs : g.Sound expected s)
    (h : s.programs i = .done a) : expected i a s.shared := by
  have hsafe := hs i
  rw [h] at hsafe
  exact hsafe

variable [DecidableEq κ]

theorem sound_step (hstable : ∀ i a, (g.world i).Stable (expected i a)) (hs : g.Sound expected s)
    (h : g.Step s s') : g.Sound expected s' := by
  cases h with
  | @read t programs i next hread =>
    intro j
    by_cases hj : j = i
    · subst hj
      have hsafe : (g.world j).Safe (g.changes j) (expected j) (programs j) t := hs j
      rw [hread] at hsafe
      have hnext : (g.world j).Safe (g.changes j) (expected j) (next (g.view t)) t := hsafe t .refl
      simpa using hnext
    · simpa [Function.update_of_ne hj] using hs j
  | @serve t u programs i request reply next hcall hserves =>
    have hsafe : (g.world i).Safe (g.changes i) (expected i) (programs i) t := hs i
    rw [hcall] at hsafe
    obtain ⟨hchange, hnext⟩ := hsafe t .refl reply u hserves
    intro j
    by_cases hj : j = i
    · subst hj
      simpa using hnext
    · have hdrift : (g.world j).drifts t u := .single ⟨i, Ne.symm hj, hchange⟩
      simpa [Function.update_of_ne hj] using World.safe_drift (hstable j) (hs j) hdrift

theorem sound_reach (hstable : ∀ i a, (g.world i).Stable (expected i a))
    (hs : g.Sound expected s) (h : Relation.ReflTransGen g.Step s s') : g.Sound expected s' := by
  induction h with
  | refl => exact hs
  | tail _ hlast ih => exact sound_step hstable ih hlast

/-- What every change keeps, every step of sound parties keeps. -/
theorem invariant_reach (hstable : ∀ i a, (g.world i).Stable (expected i a))
    (hP : ∀ i t u, P t → g.changes i t u → P u) (hs : g.Sound expected s) (ht : P s.shared)
    (h : Relation.ReflTransGen g.Step s s') : P s'.shared := by
  induction h with
  | refl => exact ht
  | @tail u v hreach hlast ih =>
    have hsound := sound_reach hstable hs hreach
    cases hlast with
    | read => exact ih
    | @serve t u programs i request reply next hcall hserves =>
      have hsafe : (g.world i).Safe (g.changes i) (expected i) (programs i) t := hsound i
      rw [hcall] at hsafe
      exact hP i t u ih (hsafe t .refl reply u hserves).1

/-- A party that is left alone comes to the end of a whole run of its program. -/
theorem reach_of_conducts {i : κ} {p : Program σ ι ο ρ} {programs : κ → Program σ ι ο ρ}
    {t u : τ} {log : List (ι × ο)} {a : ρ} (hp : programs i = p)
    (h : p.Conducts g.view (g.serves i) t log a u) :
    Relation.ReflTransGen g.Step ⟨t, programs⟩ ⟨u, Function.update programs i (.done a)⟩ := by
  induction p generalizing t log programs with
  | done b =>
    obtain ⟨-, rfl, rfl⟩ := h
    rw [← hp, Function.update_eq_self]
  | read next ih =>
    have hnext := ih (g.view t) (Function.update_self i _ programs) h
    rw [Function.update_idem] at hnext
    exact hnext.head (.read i hp)
  | call request next ih =>
    obtain ⟨reply, m, rest, -, hserves, h⟩ := h
    have hnext := ih reply (Function.update_self i _ programs) h
    rw [Function.update_idem] at hnext
    exact hnext.head (.serve i hp hserves)

end Parties
