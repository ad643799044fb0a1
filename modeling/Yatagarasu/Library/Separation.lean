import Mathlib.Data.List.Basic

/-! A machine whose actions belong to owners. If an owner's view of the state is moved on by its own
actions only, and they act and answer by this view, then the others do not interfere with it. -/

namespace Separation

variable {σ α ω : Type} {step : σ → α → σ} {output : σ → α → List ω} {owns : α → Bool}
  {view : σ → σ → Prop} {s t : σ} {actions : List α}

/-- What a run puts out on the actions that are owned. -/
def outputs (step : σ → α → σ) (output : σ → α → List ω) (owns : α → Bool) : List α → σ → List ω
  | [], _ => []
  | action :: rest, s =>
    (if owns action then output s action else []) ++ outputs step output owns rest (step s action)

/-- States that the owner cannot tell apart stay so, and put out the same on its actions. -/
structure Unwinds (step : σ → α → σ) (output : σ → α → List ω) (owns : α → Bool)
    (view : σ → σ → Prop) : Prop where
  own : ∀ s t action, owns action → view s t →
    output s action = output t action ∧ view (step s action) (step t action)
  other : ∀ s t action, ¬ owns action → view s t → view (step s action) t

/-- The outputs of the owner are those of a run of its own actions only. -/
theorem Unwinds.outputs_filter (h : Unwinds step output owns view) (hview : view s t) :
    outputs step output owns actions s =
      outputs step output (fun _ => true) (actions.filter owns) t := by
  induction actions generalizing s t with
  | nil => rfl
  | cons action rest ih =>
    by_cases howns : owns action
    · obtain ⟨houtput, hnext⟩ := h.own s t action howns hview
      rw [List.filter_cons_of_pos howns, outputs, outputs, if_pos howns, if_pos rfl, houtput,
        ih hnext]
    · rw [List.filter_cons_of_neg howns, outputs, if_neg howns, List.nil_append]
      exact ih (h.other s t action howns hview)

variable {ι : Type} {next : σ → ι → Option (σ × List ω)} {alike : ι → ι → Prop}
  {inputs inputs' : List ι}

end Separation
