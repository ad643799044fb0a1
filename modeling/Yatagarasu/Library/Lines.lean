import Mathlib.Data.List.Basic

/-! A bounded `readline` on a stream that ends: it reads up to a terminator, up to its limit, or up
to the end of the stream. -/

namespace Lines

variable {α : Type} [DecidableEq α] {terminator : α} {limit : Nat} {line stream rest : List α}

/-- What `readline` returns, and what is left of the stream. -/
def readline (terminator : α) : Nat → List α → List α × List α
  | 0, stream => ([], stream)
  | _ + 1, [] => ([], [])
  | limit + 1, x :: stream =>
    if x = terminator then ([x], stream)
    else
      let (line, rest) := readline terminator limit stream
      (x :: line, rest)

theorem readline_cons {x : α} (h : x ≠ terminator) :
    readline terminator (limit + 1) (x :: stream) =
      (x :: (readline terminator limit stream).1, (readline terminator limit stream).2) := by
  rw [readline, if_neg h]

/-- A line that fits is read to its terminator. -/
theorem readline_line (hline : terminator ∉ line) (hfits : line.length < limit) :
    readline terminator limit (line ++ terminator :: rest) = (line ++ [terminator], rest) := by
  induction line generalizing limit with
  | nil =>
    obtain ⟨limit, rfl⟩ : ∃ n, limit = n + 1 := ⟨limit - 1, by simp at hfits; omega⟩
    rw [List.nil_append, readline, if_pos rfl, List.nil_append]
  | cons x line ih =>
    obtain ⟨limit, rfl⟩ : ∃ n, limit = n + 1 := ⟨limit - 1, by simp at hfits; omega⟩
    rw [List.mem_cons, not_or] at hline
    have hfits : line.length < limit := by simpa using hfits
    rw [List.cons_append, readline_cons (Ne.symm hline.1), ih hline.2 hfits]
    rfl

/-- The rest of a stream without a terminator is read to its end. -/
theorem readline_last (hstream : terminator ∉ stream) (hfits : stream.length ≤ limit) :
    readline terminator limit stream = (stream, []) := by
  induction stream generalizing limit with
  | nil => cases limit <;> rfl
  | cons x stream ih =>
    obtain ⟨limit, rfl⟩ : ∃ n, limit = n + 1 := ⟨limit - 1, by simp at hfits; omega⟩
    rw [List.mem_cons, not_or] at hstream
    have hfits : stream.length ≤ limit := by simpa using hfits
    rw [readline_cons (Ne.symm hstream.1), ih hstream.2 hfits]

/-- Nothing is lost: what is read and what is left is the stream. -/
theorem readline_append (terminator : α) (limit : Nat) (stream : List α) :
    (readline terminator limit stream).1 ++ (readline terminator limit stream).2 = stream := by
  fun_induction readline terminator limit stream with
  | case1 => rfl
  | case2 => rfl
  | case3 => rfl
  | case4 limit x stream hx line rest heq ih =>
    rw [heq] at ih
    rw [List.cons_append, ih]

/-- A terminator is the last thing that is read. -/
theorem readline_terminator (h : (readline terminator limit stream).1 = line ++ [terminator]) :
    terminator ∉ line := by
  induction limit generalizing stream line with
  | zero => simp [readline] at h
  | succ limit ih =>
    cases stream with
    | nil => simp [readline] at h
    | cons x stream =>
      by_cases hx : x = terminator
      · rw [readline, if_pos hx] at h
        cases line with
        | nil => exact List.not_mem_nil
        | cons y line => simp at h
      · rw [readline_cons hx] at h
        cases line with
        | nil =>
          rw [List.nil_append, List.cons.injEq] at h
          exact absurd h.1 hx
        | cons y line =>
          rw [List.cons_append, List.cons.injEq] at h
          rw [List.mem_cons, not_or]
          exact ⟨h.1 ▸ Ne.symm hx, ih h.2⟩

/-- The lines of a stream, each with its terminator, and the rest that has none. -/
def readlines (terminator : α) : List α → List (List α)
  | [] => []
  | x :: stream =>
    if x = terminator then [x] :: readlines terminator stream
    else
      match readlines terminator stream with
      | [] => [[x]]
      | line :: lines => (x :: line) :: lines

theorem readlines_line (hline : terminator ∉ line) (rest : List α) :
    readlines terminator (line ++ terminator :: rest) =
      (line ++ [terminator]) :: readlines terminator rest := by
  induction line with
  | nil => rw [List.nil_append, readlines, if_pos rfl, List.nil_append]
  | cons x line ih =>
    rw [List.mem_cons, not_or] at hline
    rw [List.cons_append, readlines, if_neg (Ne.symm hline.1), ih hline.2]
    rfl

/-- Lines that were written one after the other are read back. -/
theorem readlines_flatten {written : List (List α)} (h : ∀ l ∈ written, terminator ∉ l) :
    readlines terminator (written.flatMap fun l => l ++ [terminator]) =
      written.map fun l => l ++ [terminator] := by
  induction written with
  | nil => rfl
  | cons l written ih =>
    rw [List.forall_mem_cons] at h
    rw [List.flatMap_cons, List.append_assoc, List.singleton_append, readlines_line h.1, ih h.2,
      List.map_cons]

end Lines
