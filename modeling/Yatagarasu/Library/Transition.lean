import Mathlib.Data.List.Basic

/-! A step takes a state to the next one and says what occurred; a run collects the occurrences. -/

namespace Transition

variable {σ ω : Type} {step step' : σ → List ω → σ → Prop} {s t u : σ} {os later new : List ω}

/-- Zero or more steps from the first state to the last. -/
inductive Runs (step : σ → List ω → σ → Prop) : σ → List ω → σ → Prop
  | refl (s : σ) : Runs step s [] s
  | tail {s t u : σ} {os new : List ω} :
      Runs step s os t → step t new u → Runs step s (os ++ new) u

namespace Runs

theorem single (h : step s new t) : Runs step s new t := (Runs.refl s).tail h

theorem trans (h : Runs step s os t) (h' : Runs step t later u) :
    Runs step s (os ++ later) u := by
  induction h' with
  | refl => simpa using h
  | tail _ hlast ih =>
    rw [← List.append_assoc]
    exact ih.tail hlast

theorem mono (hstep : ∀ s new t, step s new t → step' s new t) (h : Runs step s os t) :
    Runs step' s os t := by
  induction h with
  | refl => exact .refl _
  | tail _ hlast ih => exact ih.tail (hstep _ _ _ hlast)

/-- What holds of no occurrence and survives a step holds of every run. -/
theorem invariant {J : List ω → σ → Prop} (hinitial : J [] s)
    (hstep : ∀ {os t new u}, J os t → step t new u → J (os ++ new) u) (h : Runs step s os t) :
    J os t := by
  induction h with
  | refl => exact hinitial
  | tail _ hlast ih => exact hstep ih hlast

/-- Where each step is matched by a run with the same occurrences, a whole run is. -/
theorem simulates {τ : Type} {step' : τ → List ω → τ → Prop} {R : σ → τ → Prop} {v : τ}
    (hinitial : R s v)
    (hstep : ∀ {s t new s'}, R s t → step s new s' → ∃ t', Runs step' t new t' ∧ R s' t')
    (h : Runs step s os t) : ∃ w, Runs step' v os w ∧ R t w := by
  induction h with
  | refl => exact ⟨v, .refl v, hinitial⟩
  | tail _ hlast ih =>
    obtain ⟨w, hruns, hrelated⟩ := ih
    obtain ⟨w', hnew, hrelated'⟩ := hstep hrelated hlast
    exact ⟨w', hruns.trans hnew, hrelated'⟩

/-- The step that an occurrence comes from, and the run before it. -/
theorem occurrence {o : ω} {before after : List ω} (h : Runs step s os t)
    (heq : os = before ++ o :: after) : ∃ earlier u new u' front back,
      Runs step s earlier u ∧ step u new u' ∧ new = front ++ o :: back ∧
        before = earlier ++ front := by
  induction h generalizing after with
  | refl => simp at heq
  | @tail t u os new hruns hstep ih =>
    rcases List.append_eq_append_iff.mp heq with ⟨front, rfl, hnew⟩ | ⟨rest, hos, hrest⟩
    · exact ⟨os, t, new, u, front, after, hruns, hstep, hnew, rfl⟩
    · cases rest with
      | nil =>
        rw [List.append_nil] at hos
        exact ⟨os, t, new, u, [], after, hruns, hstep, hrest.symm, by simp [hos]⟩
      | cons first rest =>
        rw [List.cons_append, List.cons.injEq] at hrest
        obtain ⟨rfl, -⟩ := hrest
        exact ih hos

end Runs

end Transition
