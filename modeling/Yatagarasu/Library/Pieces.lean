import Yatagarasu.Library.Json
import Yatagarasu.Library.Points

/-! What `json` writes for a text of code points, and what it reads of one. A surrogate is written
as its escape; read back, an escaped high surrogate and the escaped low one after it are one
character. -/

namespace PyJson

open PyStr

def escapePoint : Point → List Char
  | .scalar c => escapeChar c
  | .surrogate code => '\\' :: 'u' :: hex4 (0xd800 + code.val)

def renderText (text : List Point) : List Char := '"' :: text.flatMap escapePoint ++ ['"']

/-- What a string body is made of: a character, or a `\u` escape. -/
inductive Piece where
  | plain (p : Point)
  | escaped (n : Nat)

/-- The body of a string after its opening quote. -/
def scanPieces : List Point → Option (List Piece × List Point)
  | [] => none
  | .scalar '"' :: rest => some ([], rest)
  | .scalar '\\' :: .scalar 'u' :: .scalar a :: .scalar b :: .scalar c :: .scalar d :: rest =>
    match unhex4 a b c d with
    | none => none
    | some n => (scanPieces rest).map fun p => (.escaped n :: p.1, p.2)
  | .scalar '\\' :: .scalar c :: rest =>
    match unescape c with
    | none => none
    | some c => (scanPieces rest).map fun p => (.plain (.scalar c) :: p.1, p.2)
  | .scalar '\\' :: _ => none
  | .scalar c :: rest =>
    if c.toNat < 0x20 then none else (scanPieces rest).map fun p => (.plain (.scalar c) :: p.1, p.2)
  | .surrogate code :: rest => (scanPieces rest).map fun p => (.plain (.surrogate code) :: p.1, p.2)

/-- An escaped high surrogate takes the escaped low one after it; every other one stands alone. -/
def assemble : List Piece → List Point
  | [] => []
  | .plain p :: rest => p :: assemble rest
  | .escaped n :: .escaped m :: rest =>
    if (0xd800 ≤ n ∧ n ≤ 0xdbff) ∧ 0xdc00 ≤ m ∧ m ≤ 0xdfff then
      .scalar (Char.ofNat (pairNat n m)) :: assemble rest
    else .ofNat n :: assemble (.escaped m :: rest)
  | .escaped n :: rest => .ofNat n :: assemble rest

def scanText (ps : List Point) : Option (List Point × List Point) :=
  (scanPieces ps).map fun p => (assemble p.1, p.2)

section Pieces

variable {pieces : List Piece} {ps rest : List Point}

theorem scanPieces_unicode {a b c d : Char} {n : Nat} (h : unhex4 a b c d = some n)
    (hps : scanPieces ps = some (pieces, rest)) :
    scanPieces (.scalar '\\' :: .scalar 'u' :: .scalar a :: .scalar b :: .scalar c :: .scalar d ::
      ps) = some (.escaped n :: pieces, rest) := by
  rw [scanPieces, h, hps]
  rfl

theorem scanPieces_escape {c c' : Char} (h : unescape c = some c')
    (hps : scanPieces ps = some (pieces, rest)) :
    scanPieces (.scalar '\\' :: .scalar c :: ps) =
      some (.plain (.scalar c') :: pieces, rest) := by
  have hu : c ≠ 'u' := by
    rintro rfl
    simp [unescape] at h
  rw [scanPieces.eq_def]
  split
  case h_4 heq =>
    cases heq
    rw [h, hps]
    rfl
  case h_5 hother heq =>
    cases heq
    exact (hother c ps rfl).elim
  case h_6 hslash heq =>
    cases heq
    exact (hslash rfl).elim
  all_goals simp_all

theorem scanPieces_plain {c : Char} (hq : c ≠ '"') (hb : c ≠ '\\') (hc : 0x20 ≤ c.toNat)
    (hps : scanPieces ps = some (pieces, rest)) :
    scanPieces (.scalar c :: ps) = some (.plain (.scalar c) :: pieces, rest) := by
  rw [scanPieces.eq_def]
  split
  all_goals simp_all

theorem scanText_of_pieces (h : scanPieces ps = some (pieces, rest)) :
    scanText ps = some (assemble pieces, rest) := by
  rw [scanText, h]
  rfl

end Pieces

section Unicode

variable {cs text rest : List Char}

theorem assemble_lone {n : Nat} (h : n < 0xd800 ∨ 0xdfff < n) (pieces : List Piece) :
    assemble (.escaped n :: pieces) = .scalar (Char.ofNat n) :: assemble pieces := by
  rw [assemble.eq_def]
  split
  case h_3 heq =>
    cases heq
    rw [if_neg (by omega), Point.ofNat_scalar h]
  case h_4 heq =>
    cases heq
    rw [Point.ofNat_scalar h]
  all_goals simp_all

/-- A text without surrogates is scanned as such a text. -/
theorem scanPieces_points (h : scanString cs = some (text, rest)) :
    ∃ pieces, scanPieces (points cs) = some (pieces, points rest) ∧
      assemble pieces = points text := by
  fun_induction scanString cs generalizing text with
  | case1 | case3 | case5 | case7 | case8 | case9 | case11 => cases h
  | case2 =>
    cases h
    exact ⟨[], rfl, rfl⟩
  | case4 a b c d after n hdigits hscalar ih =>
    obtain ⟨⟨text', after'⟩, hscan, heq⟩ := Option.map_eq_some_iff.mp h
    cases heq
    obtain ⟨pieces, hpieces, hassemble⟩ := ih hscan
    refine ⟨_, scanPieces_unicode hdigits hpieces, ?_⟩
    rw [assemble_lone hscalar, hassemble]
    rfl
  | case6 a b c d high hdigits hsurrogate e f g k after low hdigits' hpair ih =>
    obtain ⟨⟨text', after'⟩, hscan, heq⟩ := Option.map_eq_some_iff.mp h
    cases heq
    obtain ⟨pieces, hpieces, hassemble⟩ := ih hscan
    refine ⟨_, scanPieces_unicode hdigits (scanPieces_unicode hdigits' hpieces), ?_⟩
    rw [assemble, if_pos ⟨⟨by omega, hpair.1⟩, hpair.2⟩, hassemble]
    rfl
  | case10 c after _ c' hescape ih =>
    obtain ⟨⟨text', after'⟩, hscan, heq⟩ := Option.map_eq_some_iff.mp h
    cases heq
    obtain ⟨pieces, hpieces, hassemble⟩ := ih hscan
    exact ⟨_, scanPieces_escape hescape hpieces, by rw [assemble, hassemble]; rfl⟩
  | case12 c after hquote hunicode hescape hprintable ih =>
    obtain ⟨⟨text', after'⟩, hscan, heq⟩ := Option.map_eq_some_iff.mp h
    cases heq
    have hslash : c ≠ '\\' := by
      rintro rfl
      cases after with
      | nil => cases hscan
      | cons d after => exact hescape d after rfl rfl
    obtain ⟨pieces, hpieces, hassemble⟩ := ih hscan
    exact ⟨_, scanPieces_plain hquote hslash (Nat.not_lt.mp hprintable) hpieces,
      by rw [assemble, hassemble]; rfl⟩

theorem scanText_points (h : scanString cs = some (text, rest)) :
    scanText (points cs) = some (points text, points rest) := by
  obtain ⟨pieces, hpieces, hassemble⟩ := scanPieces_points h
  rw [scanText_of_pieces hpieces, hassemble]

end Unicode

/-- How a character is written, and how that is read. -/
inductive Spells : Point → List Piece → Prop
  | plain (c : Char) : Spells (.scalar c) [.plain (.scalar c)]
  | lone {c : Char} {n : Nat} (h : n < 0xd800 ∨ 0xdfff < n) (hc : Char.ofNat n = c) :
      Spells (.scalar c) [.escaped n]
  | pair {c : Char} {high low : Nat} (hhigh : 0xd800 ≤ high ∧ high ≤ 0xdbff)
      (hlow : 0xdc00 ≤ low ∧ low ≤ 0xdfff) (hc : Char.ofNat (pairNat high low) = c) :
      Spells (.scalar c) [.escaped high, .escaped low]
  | surrogate (code : Fin 0x800) : Spells (.surrogate code) [.escaped (0xd800 + code.val)]

/-- The pieces of a text, character by character. -/
inductive Spelled : List Point → List Piece → Prop
  | nil : Spelled [] []
  | cons {p : Point} {ps : List Point} {spelled pieces : List Piece} :
      Spells p spelled → Spelled ps pieces → Spelled (p :: ps) (spelled ++ pieces)

section RoundTrip

variable {ps rest : List Point} {pieces spelled : List Piece}

theorem scanPieces_hex4 {n : Nat} (h : n < 0x10000) (hps : scanPieces ps = some (pieces, rest)) :
    scanPieces (points ('\\' :: 'u' :: hex4 n) ++ ps) = some (.escaped n :: pieces, rest) :=
  scanPieces_unicode (unhex4_hex4 h) hps

theorem toNat_valid (c : Char) : c.toNat < 0xd800 ∨ 0xdfff < c.toNat ∧ c.toNat < 0x110000 :=
  c.valid

theorem scanPieces_escapePoint (p : Point) (hps : scanPieces ps = some (pieces, rest)) :
    ∃ spelled, Spells p spelled ∧
      scanPieces (points (escapePoint p) ++ ps) = some (spelled ++ pieces, rest) := by
  cases p with
  | surrogate code => exact ⟨_, .surrogate code, scanPieces_hex4 (by omega) hps⟩
  | scalar c =>
    have hvalid := toNat_valid c
    change ∃ spelled, _ ∧ scanPieces (points (escapeChar c) ++ ps) = _
    unfold escapeChar
    split_ifs with hquote hslash hn hr ht hf hb hprintable hbasic
    · subst hquote
      exact ⟨_, .plain _, scanPieces_escape rfl hps⟩
    · subst hslash
      exact ⟨_, .plain _, scanPieces_escape rfl hps⟩
    · subst hn
      exact ⟨_, .plain _, scanPieces_escape rfl hps⟩
    · subst hr
      exact ⟨_, .plain _, scanPieces_escape rfl hps⟩
    · subst ht
      exact ⟨_, .plain _, scanPieces_escape rfl hps⟩
    · subst hf
      exact ⟨_, .plain _, scanPieces_escape rfl hps⟩
    · subst hb
      exact ⟨_, .plain _, scanPieces_escape rfl hps⟩
    · exact ⟨_, .plain _, scanPieces_plain hquote hslash hprintable.1 hps⟩
    · exact ⟨_, .lone (by omega) (Char.ofNat_toNat c), scanPieces_hex4 hbasic hps⟩
    · have hspelled : pairNat (0xd800 + (c.toNat - 0x10000) / 0x400)
          (0xdc00 + (c.toNat - 0x10000) % 0x400) = c.toNat := by
        unfold pairNat
        omega
      refine ⟨_, .pair (by omega) (by omega) ((congrArg _ hspelled).trans (Char.ofNat_toNat c)), ?_⟩
      rw [points_append, List.append_assoc]
      exact scanPieces_hex4 (by omega) (scanPieces_hex4 (by omega) hps)

theorem scanPieces_escaped (text : List Point) (rest : List Point) :
    ∃ pieces, Spelled text pieces ∧
      scanPieces (points (text.flatMap escapePoint) ++ .scalar '"' :: rest) =
        some (pieces, rest) := by
  induction text with
  | nil => exact ⟨[], .nil, rfl⟩
  | cons p text ih =>
    obtain ⟨pieces, hpieces, hscan⟩ := ih
    obtain ⟨spelled, hspelled, hhead⟩ := scanPieces_escapePoint p hscan
    refine ⟨spelled ++ pieces, .cons hspelled hpieces, ?_⟩
    rw [List.flatMap_cons, points_append, List.append_assoc]
    exact hhead

theorem assemble_pair {high low : Nat} (hhigh : 0xd800 ≤ high ∧ high ≤ 0xdbff)
    (hlow : 0xdc00 ≤ low ∧ low ≤ 0xdfff) (pieces : List Piece) :
    assemble (.escaped high :: .escaped low :: pieces) =
      .scalar (Char.ofNat (pairNat high low)) :: assemble pieces := by
  rw [assemble, if_pos ⟨hhigh, hlow⟩]

theorem assemble_scalar {c : Char} (h : Spells (.scalar c) spelled) (pieces : List Piece) :
    assemble (spelled ++ pieces) = .scalar c :: assemble pieces := by
  cases h with
  | plain => rfl
  | lone h hc => exact hc ▸ assemble_lone h pieces
  | pair hhigh hlow hc => exact hc ▸ assemble_pair hhigh hlow pieces

/-- The escape of a surrogate is read alone, unless a low one follows a high one. -/
theorem assemble_surrogate {code : Fin 0x800}
    (h : ∀ n later, pieces = .escaped n :: later → ¬ (code.val < 0x400 ∧ 0xdc00 ≤ n ∧ n ≤ 0xdfff)) :
    assemble (.escaped (0xd800 + code.val) :: pieces) = .surrogate code :: assemble pieces := by
  rw [assemble.eq_def]
  split
  case h_3 n m later heq =>
    cases heq
    have hm := h m later rfl
    rw [if_neg (by omega), Point.ofNat_surrogate]
  case h_4 heq =>
    cases heq
    rw [Point.ofNat_surrogate]
  all_goals simp_all

/-- What is written of a text reads as the text with its surrogates joined. -/
theorem assemble_spelled {text : List Point} (h : Spelled text pieces) :
    assemble pieces = join text := by
  fun_induction join text generalizing pieces with
  | case1 =>
    cases h
    rfl
  | case2 high low rest hpair ih =>
    obtain _ | ⟨hhigh, h⟩ := h
    obtain _ | ⟨hlow, h⟩ := h
    cases hhigh
    cases hlow
    have hrest := ih h
    rw [← hrest]
    exact assemble_pair (by omega) (by omega) _
  | case3 high low rest hpair ih =>
    obtain _ | ⟨hhigh, h⟩ := h
    cases hhigh
    rw [← ih h]
    apply assemble_surrogate
    intro n later heq
    obtain _ | ⟨hlow, h⟩ := h
    cases hlow
    cases heq
    omega
  | case4 p rest hlone ih =>
    obtain _ | ⟨hp, h⟩ := h
    rw [← ih h]
    cases p with
    | scalar c => exact assemble_scalar hp _
    | surrogate high =>
      cases hp
      apply assemble_surrogate
      intro n later heq
      obtain _ | ⟨hnext, h⟩ := h
      · cases heq
      · cases hnext with
        | plain c => cases heq
        | lone hn =>
          cases heq
          omega
        | pair hhigh hlow =>
          cases heq
          omega
        | surrogate low => exact (hlone high low _ rfl rfl).elim

/-- The reader inverts the writer up to the joining of surrogates. -/
theorem scanText_escaped (text rest : List Point) :
    scanText (points (text.flatMap escapePoint) ++ .scalar '"' :: rest) =
      some (join text, rest) := by
  obtain ⟨pieces, hpieces, hscan⟩ := scanPieces_escaped text rest
  rw [scanText_of_pieces hscan, assemble_spelled hpieces]

end RoundTrip

end PyJson
