import Mathlib.Data.List.Basic
import Mathlib.Data.List.Chain
import Mathlib.Tactic.Cases

/-! Texts as Python has them: sequences of code points, in which a surrogate may stand alone. -/

namespace PyStr

/-- A character of a `str`: a Unicode scalar value, or a surrogate that is half of no pair. -/
inductive Point where
  | scalar (c : Char)
  | surrogate (code : Fin 0x800)
  deriving DecidableEq

namespace Point

def IsHigh : Point → Prop
  | surrogate code => code.val < 0x400
  | scalar _ => False

def IsLow : Point → Prop
  | surrogate code => 0x400 ≤ code.val
  | scalar _ => False

instance (p : Point) : Decidable p.IsHigh := by
  cases p <;> unfold IsHigh <;> infer_instance

instance (p : Point) : Decidable p.IsLow := by
  cases p <;> unfold IsLow <;> infer_instance

/-- `ord(p)` -/
def code : Point → Nat
  | scalar c => c.toNat
  | surrogate code => 0xd800 + code.val

/-- `chr(n)` -/
def ofNat (n : Nat) : Point :=
  if n < 0xd800 ∨ 0xdfff < n then .scalar (Char.ofNat n) else .surrogate (Fin.ofNat 0x800 (n - 0xd800))

/-- A code point, if there is one of this number. -/
def ofNat? (n : Nat) : Option Point := if n < 0x110000 then some (ofNat n) else none

theorem ofNat_scalar {n : Nat} (h : n < 0xd800 ∨ 0xdfff < n) : ofNat n = .scalar (Char.ofNat n) :=
  if_pos h

theorem ofNat_surrogate (code : Fin 0x800) : ofNat (0xd800 + code.val) = .surrogate code := by
  rw [ofNat, if_neg (by omega), Nat.add_sub_cancel_left]
  exact congrArg Point.surrogate (Fin.ofNat_val_eq_self code)

theorem ofNat?_ascii {c : Char} (h : c.toNat < 0x80) : ofNat? c.toNat = some (.scalar c) := by
  rw [ofNat?, if_pos (by omega), ofNat_scalar (by omega), Char.ofNat_toNat]

end Point

/-- The text of Unicode characters. -/
def points (cs : List Char) : List Point := cs.map .scalar

/-- The characters of a text without surrogates. -/
def unicode : List Point → Option (List Char)
  | [] => some []
  | .scalar c :: rest => (unicode rest).map (c :: ·)
  | .surrogate _ :: _ => none

theorem points_cons (c : Char) (cs : List Char) : points (c :: cs) = .scalar c :: points cs := rfl

theorem points_append (cs ds : List Char) : points (cs ++ ds) = points cs ++ points ds :=
  List.map_append

theorem points_injective : Function.Injective points :=
  List.map_injective_iff.mpr fun _ _ h => Point.scalar.inj h

theorem points_eq_cons {cs : List Char} {c : Char} {ps : List Point}
    (h : points cs = .scalar c :: ps) : ∃ after, cs = c :: after ∧ ps = points after := by
  obtain ⟨c', after, rfl, hc, rfl⟩ := List.map_eq_cons_iff.mp h
  cases hc
  exact ⟨after, rfl, rfl⟩

theorem unicode_eq_some {ps : List Point} {cs : List Char} :
    unicode ps = some cs ↔ ps = points cs := by
  constructor
  · intro h
    induction ps generalizing cs with
    | nil =>
      cases h
      rfl
    | cons p ps ih =>
      cases p with
      | surrogate code => cases h
      | scalar c =>
        obtain ⟨cs', hcs', rfl⟩ := Option.map_eq_some_iff.mp h
        rw [points_cons, ih hcs']
  · rintro rfl
    induction cs with
    | nil => rfl
    | cons c cs ih => rw [points_cons, unicode, ih, Option.map_some]

theorem unicode_points (cs : List Char) : unicode (points cs) = some cs := unicode_eq_some.mpr rfl

/-- The scalar value whose number is spelled by two units. -/
def pairNat (high low : Nat) : Nat := 0x10000 + (high - 0xd800) * 0x400 + (low - 0xdc00)

/-- A high surrogate and the low one after it become the character they spell. -/
def join : List Point → List Point
  | [] => []
  | .surrogate high :: .surrogate low :: rest =>
    if high.val < 0x400 ∧ 0x400 ≤ low.val then
      .scalar (Char.ofNat (pairNat (0xd800 + high.val) (0xd800 + low.val))) :: join rest
    else .surrogate high :: join (.surrogate low :: rest)
  | p :: rest => p :: join rest

/-- No high surrogate is followed by a low one. -/
def Unpaired (text : List Point) : Prop := text.IsChain fun p q => ¬ (p.IsHigh ∧ q.IsLow)

instance (text : List Point) : Decidable (Unpaired text) := by
  unfold Unpaired
  infer_instance

theorem length_join_le (text : List Point) : (join text).length ≤ text.length := by
  fun_induction join text with
  | case1 => exact Nat.le_refl 0
  | case2 high low rest hpair ih =>
    simp only [List.length_cons]
    omega
  | case3 high low rest hpair ih =>
    rw [List.length_cons, List.length_cons]
    exact Nat.succ_le_succ ih
  | case4 p rest hlone ih =>
    rw [List.length_cons, List.length_cons]
    exact Nat.succ_le_succ ih

/-- Joining leaves a text alone exactly when there is nothing to join. -/
theorem join_eq_iff (text : List Point) : join text = text ↔ Unpaired text := by
  fun_induction join text with
  | case1 => simp [Unpaired]
  | case2 high low rest hpair ih =>
    have hlength := length_join_le rest
    constructor
    · intro h
      have hsame := congrArg List.length h
      simp only [List.length_cons] at hsame
      omega
    · intro h
      exact absurd hpair (List.isChain_cons_cons.mp h).1
  | case3 high low rest hpair ih =>
    rw [List.cons.injEq, ih, Unpaired, Unpaired, List.isChain_cons_cons]
    exact ⟨fun h => ⟨hpair, h.2⟩, fun h => ⟨rfl, h.2⟩⟩
  | case4 p rest hlone ih =>
    have hhead : ∀ q ∈ rest.head?, ¬ (p.IsHigh ∧ q.IsLow) := by
      rintro q hq ⟨hhigh, hlow⟩
      cases rest with
      | nil => cases hq
      | cons q' rest =>
        cases hq
        cases p with
        | scalar c => exact hhigh
        | surrogate high =>
          cases q with
          | scalar c => exact hlow
          | surrogate low => exact hlone high low rest rfl rfl
    rw [List.cons.injEq, ih, Unpaired, Unpaired, List.isChain_cons]
    exact ⟨fun h => ⟨hhead, h.2⟩, fun h => ⟨rfl, h.2⟩⟩

theorem unpaired_points (cs : List Char) : Unpaired (points cs) := by
  induction cs with
  | nil => exact List.isChain_nil
  | cons c cs ih =>
    rw [points_cons, Unpaired, List.isChain_cons]
    exact ⟨fun _ _ h => h.1, ih⟩

theorem join_points (cs : List Char) : join (points cs) = points cs :=
  (join_eq_iff _).mpr (unpaired_points cs)

end PyStr
