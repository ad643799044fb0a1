import Mathlib.Data.List.Basic

/-! A list that grows by the items it does not hold yet: nothing is removed, moved or repeated. -/

namespace FirstSeen

variable {α : Type} [DecidableEq α] {seen items later : List α} {item : α}

/-- One more item, at the end if it is new. -/
def note (seen : List α) (item : α) : List α := if item ∈ seen then seen else seen ++ [item]

def noteAll (seen items : List α) : List α := items.foldl note seen

theorem mem_note {x : α} : x ∈ note seen item ↔ x ∈ seen ∨ x = item := by
  unfold note
  split
  · constructor
    · exact Or.inl
    · rintro (hseen | rfl)
      · exact hseen
      · assumption
  · simp

theorem nodup_note (h : seen.Nodup) : (note seen item).Nodup := by
  unfold note
  split
  · exact h
  · rename_i hnew
    rw [List.nodup_append]
    refine ⟨h, by simp, ?_⟩
    intro x hx y hy hxy
    rw [List.mem_singleton] at hy
    exact hnew (hy ▸ hxy ▸ hx)

theorem prefix_note (seen : List α) (item : α) : seen <+: note seen item := by
  unfold note
  split
  · exact List.prefix_rfl
  · exact List.prefix_append seen [item]

theorem mem_noteAll {x : α} : x ∈ noteAll seen items ↔ x ∈ seen ∨ x ∈ items := by
  induction items generalizing seen with
  | nil => simp [noteAll]
  | cons item items ih =>
    change x ∈ noteAll (note seen item) items ↔ _
    rw [ih, mem_note, List.mem_cons, or_assoc]

theorem nodup_noteAll (h : seen.Nodup) : (noteAll seen items).Nodup := by
  induction items generalizing seen with
  | nil => exact h
  | cons item items ih => exact ih (nodup_note h)

theorem prefix_noteAll (seen items : List α) : seen <+: noteAll seen items := by
  induction items generalizing seen with
  | nil => exact List.prefix_rfl
  | cons item items ih => exact (prefix_note seen item).trans (ih (note seen item))

/-- The new items follow in the order of their first occurrences. -/
theorem noteAll_eq (seen items : List α) :
    noteAll seen items = seen ++ (items.filter fun item => item ∉ seen).eraseDups := by
  induction items generalizing seen with
  | nil => simp [noteAll]
  | cons item items ih =>
    have hcons : noteAll seen (item :: items) = noteAll (note seen item) items := rfl
    rw [hcons, ih]
    by_cases hseen : item ∈ seen
    · simp [note, hseen]
    · simp only [note, hseen, if_false, not_false_eq_true, decide_true, List.filter_cons_of_pos,
        List.append_assoc, List.singleton_append, List.eraseDups_cons, List.filter_filter]
      congr 3
      apply List.filter_congr
      intro x hx
      by_cases hx' : x = item <;> simp [hx']

end FirstSeen
