import Mathlib.Tactic.IntervalCases
import Yatagarasu.Library.Decoded
import Yatagarasu.Library.Encodings
import Yatagarasu.Library.Rereading

/-! The base64 reader inverts the writer, and a JSON text is ASCII, so that its bytes decode to
itself. -/

namespace Encodings

open PyStr

theorem digitVal_digit : ∀ n < 64, digitVal (digit n) = some n := by decide +kernel

theorem digit_mem : ∀ n < 64, digit n ∈ alphabet := by decide +kernel

theorem encode64_mem {bytes : List UInt8} {c : Char} (h : c ∈ encode64 bytes) : c ∈ alphabet := by
  induction bytes using encode64.induct with
  | case1 => cases h
  | case2 a =>
    have ha : a.toNat < 256 := a.toNat_lt
    simp only [encode64, List.mem_cons, List.not_mem_nil, or_false] at h
    rcases h with rfl | rfl <;> exact digit_mem _ (by omega)
  | case3 a b =>
    have ha : a.toNat < 256 := a.toNat_lt
    have hb : b.toNat < 256 := b.toNat_lt
    simp only [encode64, List.mem_cons, List.not_mem_nil, or_false] at h
    rcases h with rfl | rfl | rfl <;> exact digit_mem _ (by omega)
  | case4 a b c rest ih =>
    have ha : a.toNat < 256 := a.toNat_lt
    have hb : b.toNat < 256 := b.toNat_lt
    have hc : c.toNat < 256 := c.toNat_lt
    simp only [encode64, List.mem_cons] at h
    rcases h with rfl | rfl | rfl | rfl | h
    · exact digit_mem _ (by omega)
    · exact digit_mem _ (by omega)
    · exact digit_mem _ (by omega)
    · exact digit_mem _ (by omega)
    · exact ih h

theorem digit_ne_pad : ∀ n < 64, digit n ≠ '=' := by decide +kernel

theorem alphabet_ascii : alphabet.all (·.toNat < 0x80) := by decide +kernel

section Digits

variable {n : Nat} (hn : n < 64) (left pads : Nat) (cs : List Char)

include hn

theorem scan64_first : scan64 0 left pads (digit n :: cs) = scan64 1 n 0 cs := by
  rw [scan64, if_neg (digit_ne_pad n hn), digitVal_digit n hn]
  rfl

theorem scan64_second : scan64 1 left pads (digit n :: cs) =
    (scan64 2 (n % 16) 0 cs).map (UInt8.ofNat (left * 4 + n / 16) :: ·) := by
  rw [scan64, if_neg (digit_ne_pad n hn), digitVal_digit n hn]
  rfl

theorem scan64_third : scan64 2 left pads (digit n :: cs) =
    (scan64 3 (n % 4) 0 cs).map (UInt8.ofNat (left * 16 + n / 4) :: ·) := by
  rw [scan64, if_neg (digit_ne_pad n hn), digitVal_digit n hn]
  rfl

theorem scan64_fourth : scan64 3 left pads (digit n :: cs) =
    (scan64 0 0 0 cs).map (UInt8.ofNat (left * 64 + n) :: ·) := by
  rw [scan64, if_neg (digit_ne_pad n hn), digitVal_digit n hn]
  rfl

end Digits

theorem padding_add (length : Nat) : padding (length + 4) = padding length := by
  rw [padding, padding, Nat.add_mod_right]

theorem scan64_encode64 (bytes : List UInt8) :
    scan64 0 0 0 (encode64 bytes ++ padding (encode64 bytes).length) = some bytes := by
  induction bytes using encode64.induct with
  | case1 => rfl
  | case2 a =>
    have ha : a.toNat < 256 := a.toNat_lt
    have hbyte : a.toNat / 4 * 4 + a.toNat % 4 * 16 / 16 = a.toNat := by omega
    change scan64 0 0 0 (digit (a.toNat / 4) :: digit (a.toNat % 4 * 16) :: ['=', '=']) = _
    rw [scan64_first (by omega), scan64_second (by omega), hbyte, UInt8.ofNat_toNat]
    rfl
  | case3 a b =>
    have ha : a.toNat < 256 := a.toNat_lt
    have hb : b.toNat < 256 := b.toNat_lt
    have hfirst : a.toNat / 4 * 4 + (a.toNat % 4 * 16 + b.toNat / 16) / 16 = a.toNat := by omega
    have hsecond : (a.toNat % 4 * 16 + b.toNat / 16) % 16 * 16 + b.toNat % 16 * 4 / 4 =
        b.toNat := by omega
    change scan64 0 0 0 (digit (a.toNat / 4) :: digit (a.toNat % 4 * 16 + b.toNat / 16) ::
      digit (b.toNat % 16 * 4) :: ['=']) = _
    rw [scan64_first (by omega), scan64_second (by omega), scan64_third (by omega), hfirst, hsecond,
      UInt8.ofNat_toNat, UInt8.ofNat_toNat]
    rfl
  | case4 a b c rest ih =>
    have ha : a.toNat < 256 := a.toNat_lt
    have hb : b.toNat < 256 := b.toNat_lt
    have hc : c.toNat < 256 := c.toNat_lt
    have hfirst : a.toNat / 4 * 4 + (a.toNat % 4 * 16 + b.toNat / 16) / 16 = a.toNat := by omega
    have hsecond : (a.toNat % 4 * 16 + b.toNat / 16) % 16 * 16 +
        (b.toNat % 16 * 4 + c.toNat / 64) / 4 = b.toNat := by omega
    have hthird : (b.toNat % 16 * 4 + c.toNat / 64) % 4 * 64 + c.toNat % 64 = c.toNat := by omega
    simp only [encode64, List.length_cons, padding_add, List.cons_append]
    rw [scan64_first (by omega), scan64_second (by omega), scan64_third (by omega),
      scan64_fourth (by omega), ih, hfirst, hsecond, hthird, UInt8.ofNat_toNat, UInt8.ofNat_toNat,
      UInt8.ofNat_toNat]
    rfl

/-- The reader inverts the writer. -/
theorem decode64_encode64 (bytes : List UInt8) : decode64 (encode64 bytes) = some bytes := by
  have hascii : (encode64 bytes).all (·.toNat < 0x80) := by
    rw [List.all_eq_true]
    exact fun c hc => List.all_eq_true.mp alphabet_ascii c (encode64_mem hc)
  rw [decode64, if_pos hascii, scan64_encode64]

/-- Four digits for three bytes, without padding. -/
theorem length_encode64 (bytes : List UInt8) :
    (encode64 bytes).length = (4 * bytes.length + 2) / 3 := by
  induction bytes using encode64.induct with
  | case1 => rfl
  | case2 a => simp [encode64]
  | case3 a b => simp [encode64]
  | case4 a b c rest ih =>
    simp only [encode64, List.length_cons, ih]
    omega

theorem encode64_ne_nil {bytes : List UInt8} (h : bytes ≠ []) : encode64 bytes ≠ [] := by
  intro hnil
  have hlength := length_encode64 bytes
  rw [hnil, List.length_nil] at hlength
  have hpos := List.length_pos_iff.mpr h
  omega

/-- The bytes of an ASCII text. -/
def asciiBytes (cs : List Char) : List UInt8 := cs.map fun c => UInt8.ofNat c.toNat

/-- Neither NUL nor anything outside the ASCII range. -/
def IsAscii (cs : List Char) : Prop := ∀ c ∈ cs, 0 < c.toNat ∧ c.toNat < 0x80

theorem isAscii_cons {c : Char} {cs : List Char} :
    IsAscii (c :: cs) ↔ (0 < c.toNat ∧ c.toNat < 0x80) ∧ IsAscii cs := by
  simp [IsAscii]

theorem isAscii_of_all {cs : List Char} (h : cs.all fun c => 0 < c.toNat ∧ c.toNat < 0x80) :
    IsAscii cs := by
  simpa [IsAscii] using h

theorem toNat_byte {c : Char} (h : c.toNat < 0x80) : (UInt8.ofNat c.toNat).toNat = c.toNat := by
  rw [UInt8.toNat_ofNat']
  omega

theorem utf8_cons {a : UInt8} {rest : List UInt8} (h : a.toNat < 0x80) :
    utf8 (a :: rest) = consPoint (Point.ofNat? a.toNat) (utf8 rest) := by
  rw [utf8.eq_def]
  dsimp only
  rw [if_pos h]

theorem utf8_ascii {cs : List Char} (h : IsAscii cs) :
    utf8 (asciiBytes cs) = some (points cs) := by
  induction cs with
  | nil => rfl
  | cons c cs ih =>
    obtain ⟨⟨-, hc⟩, hcs⟩ := isAscii_cons.mp h
    have hbyte := toNat_byte hc
    have hcons : asciiBytes (c :: cs) = UInt8.ofNat c.toNat :: asciiBytes cs := rfl
    rw [hcons, utf8_cons (by rwa [hbyte]), hbyte, Point.ofNat?_ascii hc, ih hcs]
    rfl

theorem byte_ne {c : Char} (h : 0 < c.toNat ∧ c.toNat < 0x80) {b : UInt8}
    (hb : b.toNat = 0 ∨ 0x80 ≤ b.toNat) : UInt8.ofNat c.toNat ≠ b := by
  rintro rfl
  rw [toNat_byte h.2] at hb
  omega

theorem not_prefix {x y : UInt8} {xs ys : List UInt8} (h : y ≠ x) :
    (x :: xs).isPrefixOf (y :: ys) = false := by
  rw [List.isPrefixOf_cons_cons, beq_eq_false_iff_ne.mpr h.symm, Bool.false_and]

/-- No byte order mark and no NUL byte: the text is read as UTF-8. -/
theorem decodeJsonBytes_ascii {cs : List Char} (h : IsAscii cs) :
    decodeJsonBytes (asciiBytes cs) = some (points cs) := by
  rw [← utf8_ascii h]
  cases cs with
  | nil => rfl
  | cons a rest =>
    obtain ⟨ha, hrest⟩ := isAscii_cons.mp h
    have hff := byte_ne ha (b := 0xff) (by decide)
    have hfe := byte_ne ha (b := 0xfe) (by decide)
    have hef := byte_ne ha (b := 0xef) (by decide)
    have hzero := byte_ne ha (b := 0) (by decide)
    have hcons : asciiBytes (a :: rest) = UInt8.ofNat a.toNat :: asciiBytes rest := rfl
    unfold decodeJsonBytes
    rw [hcons, not_prefix hff, not_prefix hzero, not_prefix hff, not_prefix hfe, not_prefix hef]
    simp only [Bool.false_eq_true, if_false]
    rcases rest with _ | ⟨b, _ | ⟨c, _ | ⟨d, rest⟩⟩⟩
    · rfl
    · have hzero' := byte_ne (isAscii_cons.mp hrest).1 (b := 0) (by decide)
      exact (if_neg hzero).trans (if_neg hzero')
    · rfl
    · have hzero' := byte_ne (isAscii_cons.mp hrest).1 (b := 0) (by decide)
      exact (if_neg hzero).trans (if_neg hzero')

end Encodings

namespace PyJson

open Encodings PyStr

/-- Printable ASCII characters. -/
def IsPlain (cs : List Char) : Prop := ∀ c ∈ cs, 0x20 ≤ c.toNat ∧ c.toNat ≤ 0x7e

theorem IsPlain.isAscii {cs : List Char} (h : IsPlain cs) : IsAscii cs := by
  intro c hc
  have hplain := h c hc
  omega

theorem isPlain_cons {c : Char} {cs : List Char} :
    IsPlain (c :: cs) ↔ (0x20 ≤ c.toNat ∧ c.toNat ≤ 0x7e) ∧ IsPlain cs :=
  List.forall_mem_cons

theorem isPlain_append {cs ds : List Char} : IsPlain (cs ++ ds) ↔ IsPlain cs ∧ IsPlain ds :=
  List.forall_mem_append

theorem isPlain_of_all {cs : List Char} (h : cs.all fun c => 0x20 ≤ c.toNat ∧ c.toNat ≤ 0x7e) :
    IsPlain cs := by
  simpa [IsPlain] using h

theorem isPlain_nil : IsPlain [] := fun _ h => absurd h List.not_mem_nil

theorem isPlain_digits {ds : List Char} (h : IsDigits ds) : IsPlain ds := by
  intro c hc
  have hdigit : 48 ≤ c.toNat ∧ c.toNat ≤ 57 := by
    simpa [Char.isDigit, UInt32.le_iff_toNat_le] using h c hc
  omega

theorem digitChar_plain :
    ∀ d < 16, 0x20 ≤ (Nat.digitChar d).toNat ∧ (Nat.digitChar d).toNat ≤ 0x7e := by
  decide

theorem isPlain_hex4 (n : Nat) : IsPlain (hex4 n) := by
  have hdigit : ∀ k,
      0x20 ≤ (Nat.digitChar (k % 16)).toNat ∧ (Nat.digitChar (k % 16)).toNat ≤ 0x7e :=
    fun k => digitChar_plain _ (Nat.mod_lt _ (by omega))
  intro c hc
  simp only [hex4, List.mem_cons, List.not_mem_nil, or_false] at hc
  rcases hc with rfl | rfl | rfl | rfl <;> exact hdigit _

theorem isPlain_unicode (n : Nat) : IsPlain ('\\' :: 'u' :: hex4 n) := by
  rw [isPlain_cons, isPlain_cons]
  exact ⟨by decide, by decide, isPlain_hex4 n⟩

theorem isPlain_escapeChar (c : Char) : IsPlain (escapeChar c) := by
  have hpair : ∀ d : Char, 0x20 ≤ d.toNat ∧ d.toNat ≤ 0x7e → IsPlain ['\\', d] := by
    intro d hd
    rw [isPlain_cons, isPlain_cons]
    exact ⟨by decide, hd, isPlain_nil⟩
  unfold escapeChar
  split
  · exact hpair _ (by decide)
  split
  · exact hpair _ (by decide)
  split
  · exact hpair _ (by decide)
  split
  · exact hpair _ (by decide)
  split
  · exact hpair _ (by decide)
  split
  · exact hpair _ (by decide)
  split
  · exact hpair _ (by decide)
  split
  · rw [isPlain_cons]
    exact ⟨by omega, isPlain_nil⟩
  split
  · exact isPlain_unicode _
  · rw [List.cons_append, List.cons_append, ← List.cons_append, ← List.cons_append,
      isPlain_append]
    exact ⟨isPlain_unicode _, isPlain_unicode _⟩

theorem isPlain_escapePoint (p : Point) : IsPlain (escapePoint p) := by
  cases p with
  | scalar c => exact isPlain_escapeChar c
  | surrogate code => exact isPlain_unicode _

theorem isPlain_renderText (text : List Point) : IsPlain (renderText text) := by
  unfold renderText
  rw [List.cons_append, isPlain_cons, isPlain_append, isPlain_cons]
  refine ⟨by decide, ?_, by decide, isPlain_nil⟩
  intro c hc
  obtain ⟨p, -, hc⟩ := List.mem_flatMap.mp hc
  exact isPlain_escapePoint p c hc

theorem isPlain_renderString (s : String) : IsPlain (renderString s) :=
  Value.renderText_points s ▸ isPlain_renderText _

theorem isPlain_toDigits (n : Nat) : IsPlain (Nat.toDigits 10 n) :=
  isPlain_digits fun _ => toDigits_isDigit

theorem isPlain_renderInt (n : Int) : IsPlain (renderInt n) := by
  cases n with
  | ofNat n => exact isPlain_toDigits n
  | negSucc n => exact isPlain_cons.mpr ⟨by decide, isPlain_toDigits (n + 1)⟩

theorem isPlain_whole {whole : List Char} (h : Whole whole) : IsPlain whole := by
  cases h with
  | zero => exact isPlain_cons.mpr ⟨by decide, isPlain_nil⟩
  | digits _ hd hds =>
    apply isPlain_digits
    intro c hc
    rcases List.mem_cons.mp hc with rfl | hc
    · exact hd
    · exact hds c hc

theorem isPlain_fraction {fraction : List Char} (h : Fraction fraction) : IsPlain fraction := by
  cases h with
  | absent => exact isPlain_nil
  | digits _ hds => exact isPlain_cons.mpr ⟨by decide, isPlain_digits hds⟩

theorem isPlain_sign {sign : List Char} (h : sign = [] ∨ sign = ['+'] ∨ sign = ['-']) :
    IsPlain sign := by
  rcases h with rfl | rfl | rfl
  · exact isPlain_nil
  · exact isPlain_cons.mpr ⟨by decide, isPlain_nil⟩
  · exact isPlain_cons.mpr ⟨by decide, isPlain_nil⟩

theorem isPlain_exponent {exponent : List Char} (h : Exponent exponent) : IsPlain exponent := by
  cases h with
  | absent => exact isPlain_nil
  | digits he hsign _ hds =>
    rw [List.cons_append, isPlain_cons, isPlain_append]
    refine ⟨?_, isPlain_sign hsign, isPlain_digits hds⟩
    rcases he with rfl | rfl <;> decide

theorem isPlain_numeral {text : List Char} (h : Numeral text) : IsPlain text := by
  cases h with
  | @constant _ literal hmem =>
    have hall : constants.all fun pair =>
        pair.1.all fun c => 0x20 ≤ c.toNat ∧ c.toNat ≤ 0x7e := by decide
    exact isPlain_of_all (List.all_eq_true.mp hall (text, .float literal) hmem)
  | number hsign hwhole hfraction hexponent _ =>
    rw [isPlain_append, isPlain_append, isPlain_append]
    refine ⟨⟨⟨isPlain_sign ?_, isPlain_whole hwhole⟩, isPlain_fraction hfraction⟩,
      isPlain_exponent hexponent⟩
    rcases hsign with rfl | rfl
    · exact .inl rfl
    · exact .inr (.inr rfl)

namespace Value

mutual
theorem isPlain_render : ∀ {v : Value}, Readable v → IsPlain (render v)
  | .null, _ => isPlain_of_all (by rw [render, PyJson.render]; decide)
  | .bool true, _ => isPlain_of_all (by rw [render, PyJson.render]; decide)
  | .bool false, _ => isPlain_of_all (by rw [render, PyJson.render]; decide)
  | .int n, _ => isPlain_renderInt n
  | .float _, h => isPlain_numeral h
  | .str text, _ => isPlain_renderText text
  | .arr [], _ => isPlain_of_all (by rw [render]; decide)
  | .arr (_ :: _), h => by
    rw [render, List.cons_append, isPlain_cons, isPlain_append]
    exact ⟨by decide, isPlain_render h.1, isPlain_renderItems h.2⟩
  | .obj [], _ => isPlain_of_all (by rw [render]; decide)
  | .obj ((key, _) :: _), h => by
    rw [render, List.cons_append, List.cons_append, isPlain_cons, isPlain_append, isPlain_append,
      isPlain_cons]
    exact ⟨by decide, ⟨isPlain_renderText key, by decide, isPlain_render h.1⟩,
      isPlain_renderFields h.2⟩

theorem isPlain_renderItems : ∀ {items : List Value}, ReadableItems items →
    IsPlain (renderItems items)
  | [], _ => isPlain_of_all (by rw [renderItems]; decide)
  | _ :: _, h => by
    rw [renderItems, List.cons_append, isPlain_cons, isPlain_append]
    exact ⟨by decide, isPlain_render h.1, isPlain_renderItems h.2⟩

theorem isPlain_renderFields : ∀ {fields : List (List Point × Value)}, ReadableFields fields →
    IsPlain (renderFields fields)
  | [], _ => isPlain_of_all (by rw [renderFields]; decide)
  | (key, _) :: _, h => by
    rw [renderFields, List.cons_append, List.cons_append, isPlain_cons, isPlain_append,
      isPlain_append, isPlain_cons]
    exact ⟨by decide, ⟨isPlain_renderText key, by decide, isPlain_render h.1⟩,
      isPlain_renderFields h.2⟩
end

end Value

theorem isPlain_render {j : Json} (h : Readable j) : IsPlain (render j) :=
  Value.render_ofJson j ▸ Value.isPlain_render (Value.readable_ofJson h)

theorem isAscii_render {j : Json} (h : Readable j) : IsAscii (render j) :=
  (isPlain_render h).isAscii

theorem isAscii_renderString (s : String) : IsAscii (renderString s) :=
  (isPlain_renderString s).isAscii

end PyJson
