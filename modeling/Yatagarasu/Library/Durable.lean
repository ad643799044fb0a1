/-! A transaction commits its rows and then syncs the directory of the file. What the file system
and the other writers let it do is an argument. -/

namespace Durable

variable {ε σ α : Type} {now next : σ} {body : Except ε (α × σ)} {result : Except ε α}

inductive Ending (ε : Type)
  | synced
  /-- The transaction cannot begin, or one of its statements fails: it is rolled back. -/
  | rolledBack (error : ε)
  /-- The commit is done and the directory cannot be opened for its sync. -/
  | unsynced (error : ε)

namespace Ending

/-- Carry out a transaction that raises or returns a value with the tables it leaves. -/
def transaction (ending : Ending ε) (now : σ) (body : Except ε (α × σ)) : Except ε α × σ :=
  match body, ending with
  | .error e, _ => (.error e, now)
  | .ok _, .rolledBack e => (.error e, now)
  | .ok (value, next), .synced => (.ok value, next)
  | .ok (_, next), .unsynced e => (.error e, next)

/-- Nothing is committed and the call raises, or the whole body is. -/
theorem transaction_cases (ending : Ending ε) (h : ending.transaction now body = (result, next)) :
    (next = now ∧ ∃ e, result = .error e) ∨
      ∃ value, body = .ok (value, next) ∧
        (result = .ok value ∨ ∃ e, ending = .unsynced e ∧ result = .error e) := by
  cases body with
  | error e =>
    cases h
    exact Or.inl ⟨rfl, e, rfl⟩
  | ok outcome =>
    obtain ⟨value, committed⟩ := outcome
    cases ending with
    | synced =>
      cases h
      exact Or.inr ⟨value, rfl, Or.inl rfl⟩
    | rolledBack e =>
      cases h
      exact Or.inl ⟨rfl, e, rfl⟩
    | unsynced e =>
      cases h
      exact Or.inr ⟨value, rfl, Or.inr ⟨e, rfl, rfl⟩⟩

end Ending

end Durable
