import Mathlib.Data.List.Basic
import Mathlib.Data.List.Dedup
import Mathlib.Tactic.Cases

/-! Texts as Python's `json` module writes and reads them. `dumps` has compact separators, sorted
keys and ASCII escapes; `loads` has the module's whitespace, escape and constant rules. Texts are
sequences of Unicode scalar values, so an unpaired surrogate escape, which Python reads as a text of
its own kind, is refused. A float is kept as its literal, which Python would write its own way. -/

namespace PyJson

/-- A decoded value. A float is kept as its literal: nothing here computes with one. -/
inductive Json where
  | null
  | bool (b : Bool)
  | int (n : Int)
  | float (literal : String)
  | str (s : String)
  | arr (items : List Json)
  | obj (fields : List (String × Json))

def hex4 (n : Nat) : List Char :=
  [Nat.digitChar (n / 4096 % 16), Nat.digitChar (n / 256 % 16), Nat.digitChar (n / 16 % 16),
    Nat.digitChar (n % 16)]

/-- `ensure_ascii`: everything outside the printable ASCII range becomes a `\u` escape, and a
code point above the basic plane becomes a surrogate pair. -/
def escapeChar (c : Char) : List Char :=
  if c = '"' then ['\\', '"']
  else if c = '\\' then ['\\', '\\']
  else if c = '\n' then ['\\', 'n']
  else if c = '\r' then ['\\', 'r']
  else if c = '\t' then ['\\', 't']
  else if c = '\x0c' then ['\\', 'f']
  else if c = '\x08' then ['\\', 'b']
  else if 0x20 ≤ c.toNat ∧ c.toNat ≤ 0x7e then [c]
  else if c.toNat < 0x10000 then '\\' :: 'u' :: hex4 c.toNat
  else '\\' :: 'u' :: hex4 (0xd800 + (c.toNat - 0x10000) / 0x400) ++
    '\\' :: 'u' :: hex4 (0xdc00 + (c.toNat - 0x10000) % 0x400)

def renderString (s : String) : List Char := '"' :: s.toList.flatMap escapeChar ++ ['"']

def renderInt : Int → List Char
  | .ofNat n => Nat.toDigits 10 n
  | .negSucc n => '-' :: Nat.toDigits 10 (n + 1)

mutual
def render : Json → List Char
  | .null => ['n', 'u', 'l', 'l']
  | .bool true => ['t', 'r', 'u', 'e']
  | .bool false => ['f', 'a', 'l', 's', 'e']
  | .int n => renderInt n
  | .float literal => literal.toList
  | .str s => renderString s
  | .arr [] => ['[', ']']
  | .arr (x :: xs) => '[' :: render x ++ renderItems xs
  | .obj [] => ['{', '}']
  | .obj ((k, v) :: fs) => '{' :: renderString k ++ ':' :: render v ++ renderFields fs

/-- What follows the first element of an array. -/
def renderItems : List Json → List Char
  | [] => [']']
  | x :: xs => ',' :: render x ++ renderItems xs

def renderFields : List (String × Json) → List Char
  | [] => ['}']
  | (k, v) :: fs => ',' :: renderString k ++ ':' :: render v ++ renderFields fs
end

mutual
def sortKeys : Json → Json
  | .arr xs => .arr (sortItems xs)
  | .obj fs => .obj ((sortFields fs).mergeSort fun a b => decide (a.1 ≤ b.1))
  | .null => .null
  | .bool b => .bool b
  | .int n => .int n
  | .float literal => .float literal
  | .str s => .str s

def sortItems : List Json → List Json
  | [] => []
  | x :: xs => sortKeys x :: sortItems xs

def sortFields : List (String × Json) → List (String × Json)
  | [] => []
  | (k, v) :: fs => (k, sortKeys v) :: sortFields fs
end

/-- `json.dumps(value, separators=(",", ":"), sort_keys=True)`. -/
def dumps (j : Json) : String := String.ofList (render (sortKeys j))

def hexVal (c : Char) : Option Nat :=
  if '0' ≤ c ∧ c ≤ '9' then some (c.toNat - 48)
  else if 'a' ≤ c ∧ c ≤ 'f' then some (c.toNat - 87)
  else if 'A' ≤ c ∧ c ≤ 'F' then some (c.toNat - 55)
  else none

def unhex4 (a b c d : Char) : Option Nat :=
  match hexVal a, hexVal b, hexVal c, hexVal d with
  | some a, some b, some c, some d => some (a * 4096 + b * 256 + c * 16 + d)
  | _, _, _, _ => none

def unescape (c : Char) : Option Char :=
  if c = '"' then some '"'
  else if c = '\\' then some '\\'
  else if c = '/' then some '/'
  else if c = 'b' then some '\x08'
  else if c = 'f' then some '\x0c'
  else if c = 'n' then some '\n'
  else if c = 'r' then some '\r'
  else if c = 't' then some '\t'
  else none

/-- The body of a string after its opening quote. -/
def scanString : List Char → Option (List Char × List Char)
  | [] => none
  | '"' :: rest => some ([], rest)
  | '\\' :: 'u' :: a :: b :: c :: d :: rest =>
    match unhex4 a b c d with
    | none => none
    | some high =>
      if high < 0xd800 ∨ 0xdfff < high then
        (scanString rest).map fun p => (Char.ofNat high :: p.1, p.2)
      else match rest with
        | '\\' :: 'u' :: e :: f :: g :: h :: rest' =>
          match unhex4 e f g h with
          | none => none
          | some low =>
            if high ≤ 0xdbff ∧ 0xdc00 ≤ low ∧ low ≤ 0xdfff then
              (scanString rest').map fun p =>
                (Char.ofNat (0x10000 + (high - 0xd800) * 0x400 + (low - 0xdc00)) :: p.1, p.2)
            else none
        | _ => none
  | '\\' :: c :: rest =>
    match unescape c with
    | none => none
    | some c => (scanString rest).map fun p => (c :: p.1, p.2)
  | c :: rest =>
    if c.toNat < 0x20 then none else (scanString rest).map fun p => (c :: p.1, p.2)

def isSpace (c : Char) : Bool := c == ' ' || c == '\t' || c == '\n' || c == '\r'

def skipSpace (cs : List Char) : List Char := cs.dropWhile isSpace

def constants : List (List Char × Json) :=
  [(['n', 'u', 'l', 'l'], .null), (['t', 'r', 'u', 'e'], .bool true),
    (['f', 'a', 'l', 's', 'e'], .bool false), (['N', 'a', 'N'], .float "NaN"),
    ("Infinity".toList, .float "Infinity"), ("-Infinity".toList, .float "-Infinity")]

def scanConstant (cs : List Char) : Option (Json × List Char) :=
  constants.findSome? fun c => if c.1.isPrefixOf cs then some (c.2, cs.drop c.1.length) else none

/-- The whole part of a number: a lone `0`, or digits that start with another digit. -/
def scanWhole : List Char → Option (List Char × List Char)
  | '0' :: rest => some (['0'], rest)
  | c :: rest =>
    if c.isDigit then some (c :: rest.takeWhile Char.isDigit, rest.dropWhile Char.isDigit) else none
  | [] => none

def scanFraction : List Char → List Char × List Char
  | '.' :: rest =>
    if rest.takeWhile Char.isDigit = [] then ([], '.' :: rest)
    else ('.' :: rest.takeWhile Char.isDigit, rest.dropWhile Char.isDigit)
  | cs => ([], cs)

def scanExponent : List Char → List Char × List Char
  | e :: rest =>
    if e = 'e' ∨ e = 'E' then
      let sign := rest.take 1 |>.filter fun c => c == '+' || c == '-'
      let digits := rest.drop sign.length
      if digits.takeWhile Char.isDigit = [] then ([], e :: rest)
      else (e :: sign ++ digits.takeWhile Char.isDigit, digits.dropWhile Char.isDigit)
    else ([], e :: rest)
  | [] => ([], [])

def scanUnsigned (sign cs : List Char) : Option (Json × List Char) :=
  match scanWhole cs with
  | none => none
  | some (whole, rest) =>
    let fraction := scanFraction rest
    let exponent := scanExponent fraction.2
    if fraction.1 = [] ∧ exponent.1 = [] then
      let n : Int := Nat.ofDigitChars 10 whole 0
      some (.int (if sign = [] then n else -n), exponent.2)
    else some (.float (String.ofList (sign ++ whole ++ fraction.1 ++ exponent.1)), exponent.2)

def scanNumber : List Char → Option (Json × List Char)
  | '-' :: rest => scanUnsigned ['-'] rest
  | cs => scanUnsigned [] cs

/-- A repeated key keeps its first position and takes the last value. -/
def setField {κ α : Type} [DecidableEq κ] (k : κ) (v : α) : List (κ × α) → List (κ × α)
  | [] => [(k, v)]
  | (k', v') :: fs => if k' = k then (k, v) :: fs else (k', v') :: setField k v fs

def dict {κ α : Type} [DecidableEq κ] (fs : List (κ × α)) : List (κ × α) :=
  fs.foldl (fun acc f => setField f.1 f.2 acc) []

mutual
def scanValue : Nat → List Char → Option (Json × List Char)
  | 0, _ => none
  | _ + 1, [] => none
  | n + 1, c :: rest =>
    if c = '"' then (scanString rest).map fun p => (.str (String.ofList p.1), p.2)
    else if c = '{' then
      match skipSpace rest with
      | '}' :: r => some (.obj [], r)
      | r => (scanFields n r).map fun p => (.obj (dict p.1), p.2)
    else if c = '[' then
      match skipSpace rest with
      | ']' :: r => some (.arr [], r)
      | r => (scanItems n r).map fun p => (.arr p.1, p.2)
    else match scanConstant (c :: rest) with
      | some p => some p
      | none => scanNumber (c :: rest)

def scanItems : Nat → List Char → Option (List Json × List Char)
  | 0, _ => none
  | n + 1, cs =>
    match scanValue n cs with
    | none => none
    | some (v, r) =>
      match skipSpace r with
      | ']' :: r => some ([v], r)
      | ',' :: r => (scanItems n (skipSpace r)).map fun p => (v :: p.1, p.2)
      | _ => none

def scanFields : Nat → List Char → Option (List (String × Json) × List Char)
  | n + 1, '"' :: cs =>
    match scanString cs with
    | none => none
    | some (k, r) =>
      match skipSpace r with
      | ':' :: r =>
        match scanValue n (skipSpace r) with
        | none => none
        | some (v, r) =>
          match skipSpace r with
          | '}' :: r => some ([(String.ofList k, v)], r)
          | ',' :: r =>
            (scanFields n (skipSpace r)).map fun p => ((String.ofList k, v) :: p.1, p.2)
          | _ => none
      | _ => none
  | _, _ => none
end

/-- `json.loads(text)`; `none` stands for the `JSONDecodeError`. -/
def loads (text : String) : Option Json :=
  match scanValue text.length (skipSpace text.toList) with
  | some (j, rest) => if skipSpace rest = [] then some j else none
  | none => none

theorem hexVal_digitChar : ∀ d < 16, hexVal (Nat.digitChar d) = some d := by decide

theorem unhex4_hex4 {n : Nat} (h : n < 0x10000) :
    unhex4 (Nat.digitChar (n / 4096 % 16)) (Nat.digitChar (n / 256 % 16))
      (Nat.digitChar (n / 16 % 16)) (Nat.digitChar (n % 16)) = some n := by
  simp only [unhex4, hexVal_digitChar _ (Nat.mod_lt _ (by decide : 0 < 16))]
  congr 1
  omega

theorem scanString_unicode {n : Nat} (h : n < 0xd800 ∨ 0xdfff < n) (hn : n < 0x10000)
    (rest : List Char) :
    scanString ('\\' :: 'u' :: hex4 n ++ rest) =
      (scanString rest).map fun p => (Char.ofNat n :: p.1, p.2) := by
  simp only [hex4, List.cons_append, List.nil_append, scanString, unhex4_hex4 hn, h, if_true]

theorem scanString_surrogates {m : Nat} (h : m < 0x100000) (rest : List Char) :
    scanString ('\\' :: 'u' :: hex4 (0xd800 + m / 0x400) ++
        '\\' :: 'u' :: hex4 (0xdc00 + m % 0x400) ++ rest) =
      (scanString rest).map fun p => (Char.ofNat (0x10000 + m) :: p.1, p.2) := by
  have hh : 0xd800 + m / 0x400 < 0x10000 := by omega
  have hl : 0xdc00 + m % 0x400 < 0x10000 := by omega
  have hs : ¬ (0xd800 + m / 0x400 < 0xd800 ∨ 0xdfff < 0xd800 + m / 0x400) := by omega
  have hp : 0xd800 + m / 0x400 ≤ 0xdbff ∧ 0xdc00 ≤ 0xdc00 + m % 0x400 ∧
      0xdc00 + m % 0x400 ≤ 0xdfff := by omega
  have hm : 0x10000 + (0xd800 + m / 0x400 - 0xd800) * 0x400 + (0xdc00 + m % 0x400 - 0xdc00) =
      0x10000 + m := by omega
  simp only [hex4, List.cons_append, List.nil_append, scanString,
    unhex4_hex4 hh, unhex4_hex4 hl, hs, hp, hm, if_true, if_false, and_self]

theorem scanString_plain {c : Char} (hq : c ≠ '"') (hb : c ≠ '\\') (hc : 0x20 ≤ c.toNat)
    (rest : List Char) :
    scanString (c :: rest) = (scanString rest).map fun p => (c :: p.1, p.2) := by
  rw [scanString.eq_def]
  split
  case h_5 heq =>
    obtain ⟨rfl, rfl⟩ := List.cons.inj heq
    exact if_neg (Nat.not_lt.mpr hc)
  all_goals simp_all

theorem scanString_escapeChar (c : Char) (rest : List Char) :
    scanString (escapeChar c ++ rest) = (scanString rest).map fun p => (c :: p.1, p.2) := by
  unfold escapeChar
  split_ifs with h1 h2 h3 h4 h5 h6 h7 h8 h9
  · subst h1; simp [scanString, unescape]
  · subst h2; simp [scanString, unescape]
  · subst h3; simp [scanString, unescape]
  · subst h4; simp [scanString, unescape]
  · subst h5; simp [scanString, unescape]
  · subst h6; simp [scanString, unescape]
  · subst h7; simp [scanString, unescape]
  · exact scanString_plain h1 h2 h8.1 rest
  · have hv : c.toNat < 0xd800 ∨ 0xdfff < c.toNat := by
      have := c.valid
      simp only [UInt32.isValidChar, Nat.isValidChar] at this
      have hc : c.toNat = c.val.toNat := rfl
      omega
    rw [scanString_unicode hv h9, Char.ofNat_toNat]
  · have hv : c.toNat < 0x110000 := by
      have := c.valid
      simp only [UInt32.isValidChar, Nat.isValidChar] at this
      have hc : c.toNat = c.val.toNat := rfl
      omega
    have hc : 0x10000 + (c.toNat - 0x10000) = c.toNat := by omega
    rw [scanString_surrogates (by omega), hc, Char.ofNat_toNat]

theorem scanString_flatMap_escapeChar (cs rest : List Char) :
    scanString (cs.flatMap escapeChar ++ '"' :: rest) = some (cs, rest) := by
  induction cs with
  | nil => simp [scanString]
  | cons c cs ih =>
    rw [List.flatMap_cons, List.append_assoc, scanString_escapeChar, ih]
    rfl

theorem scanString_renderString (s : String) (rest : List Char) :
    ∃ body, renderString s ++ rest = '"' :: body ∧ scanString body = some (s.toList, rest) := by
  refine ⟨s.toList.flatMap escapeChar ++ '"' :: rest, ?_, scanString_flatMap_escapeChar _ _⟩
  simp [renderString]

/-- Digits, as many as there are. -/
def IsDigits (ds : List Char) : Prop := ∀ c ∈ ds, c.isDigit = true

inductive Whole : List Char → Prop
  | zero : Whole ['0']
  | digits {d : Char} {ds : List Char} : d ≠ '0' → d.isDigit = true → IsDigits ds → Whole (d :: ds)

inductive Fraction : List Char → Prop
  | absent : Fraction []
  | digits {ds : List Char} : ds ≠ [] → IsDigits ds → Fraction ('.' :: ds)

inductive Exponent : List Char → Prop
  | absent : Exponent []
  | digits {e : Char} {sign ds : List Char} : e = 'e' ∨ e = 'E' →
      sign = [] ∨ sign = ['+'] ∨ sign = ['-'] → ds ≠ [] → IsDigits ds → Exponent (e :: sign ++ ds)

/-- The text of a float: a constant, or a number with a fraction or an exponent. -/
inductive Numeral : List Char → Prop
  | constant {text : List Char} {literal : String} : (text, .float literal) ∈ constants → Numeral text
  | number {sign whole fraction exponent : List Char} : sign = [] ∨ sign = ['-'] → Whole whole →
      Fraction fraction → Exponent exponent → ¬ (fraction = [] ∧ exponent = []) →
      Numeral (sign ++ whole ++ fraction ++ exponent)

theorem isDigits_takeWhile (cs : List Char) : IsDigits (cs.takeWhile Char.isDigit) :=
  List.all_eq_true.mp List.all_takeWhile

theorem whole_of_scan {cs whole rest : List Char} (h : scanWhole cs = some (whole, rest)) :
    Whole whole := by
  unfold scanWhole at h
  split at h
  · cases h
    exact .zero
  · rename_i c cs hzero
    split at h
    · rename_i hdigit
      cases h
      exact .digits (fun hc => hzero (by simp [hc])) hdigit (isDigits_takeWhile cs)
    · cases h
  · cases h

theorem fraction_of_scan (cs : List Char) : Fraction (scanFraction cs).1 := by
  unfold scanFraction
  split
  · rename_i rest
    by_cases hnone : rest.takeWhile Char.isDigit = []
    · rw [if_pos hnone]
      exact .absent
    · rw [if_neg hnone]
      exact .digits hnone (isDigits_takeWhile rest)
  · exact .absent

theorem sign_of_take (cs : List Char) :
    (cs.take 1 |>.filter fun c => c == '+' || c == '-') = [] ∨
      (cs.take 1 |>.filter fun c => c == '+' || c == '-') = ['+'] ∨
      (cs.take 1 |>.filter fun c => c == '+' || c == '-') = ['-'] := by
  cases cs with
  | nil => simp
  | cons c cs =>
    by_cases hplus : c = '+'
    · simp [hplus]
    by_cases hminus : c = '-'
    · simp [hminus]
    · simp [hplus, hminus]

theorem exponent_of_scan (cs : List Char) : Exponent (scanExponent cs).1 := by
  unfold scanExponent
  split
  · rename_i e rest
    split
    · rename_i he
      dsimp only
      split
      · exact .absent
      · rename_i hdigits
        exact .digits he (sign_of_take rest) hdigits (isDigits_takeWhile _)
    · exact .absent
  · exact .absent

/-- A value is followed by a separator, a closing bracket or the end of the text. -/
def Stops (rest : List Char) : Prop :=
  ∀ c ∈ rest.head?, c = ',' ∨ c = ']' ∨ c = '}'

theorem stops_nil : Stops [] := by simp [Stops]

theorem stops_renderItems (xs : List Json) (rest : List Char) :
    Stops (renderItems xs ++ rest) := by
  cases xs <;> simp [Stops, renderItems]

theorem stops_renderFields (fs : List (String × Json)) (rest : List Char) :
    Stops (renderFields fs ++ rest) := by
  rcases fs with _ | ⟨⟨k, v⟩, fs⟩ <;> simp [Stops, renderFields]

theorem toDigits_isDigit {n : Nat} {c : Char} (h : c ∈ Nat.toDigits 10 n) : c.isDigit = true :=
  Nat.isDigit_of_mem_toDigits (by decide) (by decide) h

theorem span_isDigits {ds rest : List Char} (hds : IsDigits ds)
    (hrest : ∀ c ∈ rest.head?, c.isDigit = false) :
    (ds ++ rest).takeWhile Char.isDigit = ds ∧ (ds ++ rest).dropWhile Char.isDigit = rest := by
  induction ds with
  | nil =>
    cases rest with
    | nil => simp
    | cons c rest => simp [hrest c (by simp)]
  | cons d ds ih =>
    have hsplit := ih fun c hc => hds c (List.mem_cons_of_mem d hc)
    simp [hds d List.mem_cons_self, hsplit]

theorem not_isDigit_stops {rest : List Char} (h : Stops rest) :
    ∀ c ∈ rest.head?, c.isDigit = false := by
  intro c hc
  rcases h c hc with rfl | rfl | rfl <;> decide

theorem scanFraction_stops {rest : List Char} (h : Stops rest) : scanFraction rest = ([], rest) := by
  cases rest with
  | nil => rfl
  | cons c rest => rcases h c (by simp) with rfl | rfl | rfl <;> rfl

theorem scanExponent_stops {rest : List Char} (h : Stops rest) : scanExponent rest = ([], rest) := by
  cases rest with
  | nil => rfl
  | cons c rest => rcases h c (by simp) with rfl | rfl | rfl <;> simp [scanExponent]

theorem toDigits_head_ne_zero {n : Nat} (hn : 0 < n) : (Nat.toDigits 10 n).head? ≠ some '0' := by
  induction n using Nat.strongRecOn with
  | ind n ih =>
    by_cases h : n < 10
    · rw [Nat.toDigits_of_lt_base h]
      have hd : ∀ d < 10, 0 < d → [Nat.digitChar d].head? ≠ some '0' := by decide
      exact hd n h hn
    · rw [Nat.toDigits_of_base_le (by decide) (by omega), List.head?_append_of_ne_nil _
        Nat.toDigits_ne_nil]
      exact ih _ (by omega) (by omega)

theorem scanWhole_append {whole rest : List Char} (h : Whole whole)
    (hrest : ∀ c ∈ rest.head?, c.isDigit = false) :
    scanWhole (whole ++ rest) = some (whole, rest) := by
  cases h with
  | zero => rfl
  | @digits d ds _ hdigit hds =>
    have hspan := span_isDigits hds hrest
    simp [scanWhole, hdigit, hspan.1, hspan.2]

theorem whole_toDigits (n : Nat) : Whole (Nat.toDigits 10 n) := by
  rcases Nat.eq_zero_or_pos n with rfl | hn
  · exact .zero
  · have hzero := toDigits_head_ne_zero hn
    have hdigits : IsDigits (Nat.toDigits 10 n) := fun _ => toDigits_isDigit
    cases hds : Nat.toDigits 10 n with
    | nil => exact (Nat.toDigits_ne_nil hds).elim
    | cons d ds =>
      rw [hds] at hzero hdigits
      exact .digits (by simpa using hzero) (hdigits d List.mem_cons_self)
        fun c hc => hdigits c (List.mem_cons_of_mem d hc)

theorem scanWhole_toDigits (n : Nat) {rest : List Char} (hr : Stops rest) :
    scanWhole (Nat.toDigits 10 n ++ rest) = some (Nat.toDigits 10 n, rest) :=
  scanWhole_append (whole_toDigits n) (not_isDigit_stops hr)

theorem scanUnsigned_toDigits (sign : List Char) (n : Nat) {rest : List Char} (hr : Stops rest) :
    scanUnsigned sign (Nat.toDigits 10 n ++ rest) =
      some (.int (if sign = [] then (n : Int) else -n), rest) := by
  simp [scanUnsigned, scanWhole_toDigits n hr, scanFraction_stops hr, scanExponent_stops hr,
    Nat.ofDigitChars_toDigits]

theorem digit_head {n : Nat} : ∃ d ds, Nat.toDigits 10 n = d :: ds ∧ d.isDigit = true := by
  cases hds : Nat.toDigits 10 n with
  | nil => exact (Nat.toDigits_ne_nil hds).elim
  | cons d ds => exact ⟨d, ds, rfl, toDigits_isDigit (n := n) (by simp [hds])⟩

theorem digit_ne {d c : Char} (hd : d.isDigit = true) (hc : c.isDigit = false) : d ≠ c := by
  rintro rfl
  simp_all

theorem scanNumber_renderInt (n : Int) {rest : List Char} (hr : Stops rest) :
    scanNumber (renderInt n ++ rest) = some (.int n, rest) := by
  cases n with
  | ofNat n =>
    obtain ⟨d, ds, hds, hd⟩ := digit_head (n := n)
    have hm : d ≠ '-' := digit_ne hd (by decide)
    have hs := scanUnsigned_toDigits [] n hr
    rw [renderInt, hds, List.cons_append, scanNumber.eq_def]
    rw [hds, List.cons_append] at hs
    split <;> simp_all
  | negSucc n =>
    simp only [renderInt, List.cons_append, scanNumber, scanUnsigned_toDigits _ _ hr]
    rfl

theorem scanConstant_renderInt (n : Int) (rest : List Char) :
    scanConstant (renderInt n ++ rest) = none := by
  cases n with
  | ofNat n =>
    obtain ⟨d, ds, hds, hd⟩ := digit_head (n := n)
    simp [renderInt, hds, scanConstant, constants]
    refine ⟨?_, ?_, ?_, ?_, ?_, ?_⟩ <;> (rintro rfl; exact absurd hd (by decide))
  | negSucc n =>
    obtain ⟨d, ds, hds, hd⟩ := digit_head (n := n + 1)
    simp [renderInt, hds, scanConstant, constants]
    rintro rfl
    exact absurd hd (by decide)

/-- What follows a numeral's part does not go on with it. -/
def Ends (rest : List Char) : Prop := ∀ c ∈ rest.head?, c.isDigit = false ∧ c ≠ '.'

theorem scanFraction_append {fraction rest : List Char} (h : Fraction fraction) (hrest : Ends rest) :
    scanFraction (fraction ++ rest) = (fraction, rest) := by
  cases h with
  | absent =>
    cases rest with
    | nil => rfl
    | cons c rest =>
      have hdot : c ≠ '.' := (hrest c (by simp)).2
      simp [scanFraction, hdot]
  | @digits ds hne hds =>
    have hspan := span_isDigits hds fun c hc => (hrest c hc).1
    simp [scanFraction, hspan.1, hspan.2, hne]

theorem scanExponent_append {exponent rest : List Char} (h : Exponent exponent)
    (hrest : Stops rest) : scanExponent (exponent ++ rest) = (exponent, rest) := by
  cases h with
  | absent => exact scanExponent_stops hrest
  | @digits e sign ds he hsign hne hds =>
    have hspan := span_isDigits hds (not_isDigit_stops hrest)
    obtain ⟨d, digits, rfl⟩ := List.exists_cons_of_ne_nil hne
    have hd : d ≠ '+' ∧ d ≠ '-' :=
      ⟨digit_ne (hds d List.mem_cons_self) (by decide),
        digit_ne (hds d List.mem_cons_self) (by decide)⟩
    rw [List.cons_append] at hspan
    rcases hsign with rfl | rfl | rfl <;> simp [scanExponent, he, hd, hspan]

theorem ends_exponent {exponent rest : List Char} (h : Exponent exponent) (hrest : Stops rest) :
    Ends (exponent ++ rest) := by
  intro c hc
  cases h with
  | absent => rcases hrest c hc with rfl | rfl | rfl <;> decide
  | digits he =>
    simp at hc
    subst hc
    rcases he with rfl | rfl <;> decide

theorem not_digit_fraction {fraction rest : List Char} (h : Fraction fraction) (hrest : Ends rest) :
    ∀ c ∈ (fraction ++ rest).head?, c.isDigit = false := by
  intro c hc
  cases h with
  | absent => exact (hrest c hc).1
  | digits =>
    simp at hc
    subst hc
    decide

theorem scanUnsigned_append {sign whole fraction exponent rest : List Char} (hwhole : Whole whole)
    (hfraction : Fraction fraction) (hexponent : Exponent exponent)
    (hfloat : ¬ (fraction = [] ∧ exponent = [])) (hrest : Stops rest) :
    scanUnsigned sign (whole ++ (fraction ++ (exponent ++ rest))) =
      some (.float (String.ofList (sign ++ whole ++ fraction ++ exponent)), rest) := by
  have hends := ends_exponent hexponent hrest
  simp [scanUnsigned, scanWhole_append hwhole (not_digit_fraction hfraction hends),
    scanFraction_append hfraction hends, scanExponent_append hexponent hrest, hfloat]

theorem whole_head {whole : List Char} (h : Whole whole) :
    ∃ d ds, whole = d :: ds ∧ d.isDigit = true := by
  cases h with
  | zero => exact ⟨_, _, rfl, by decide⟩
  | digits _ hdigit => exact ⟨_, _, rfl, hdigit⟩

theorem scanConstant_digit {d : Char} (rest : List Char) (hd : d.isDigit = true) :
    scanConstant (d :: rest) = none := by
  simp [scanConstant, constants]
  refine ⟨?_, ?_, ?_, ?_, ?_, ?_⟩ <;> (rintro rfl; exact absurd hd (by decide))

theorem scanConstant_minus {d : Char} (rest : List Char) (hd : d.isDigit = true) :
    scanConstant ('-' :: d :: rest) = none := by
  simp [scanConstant, constants]
  rintro rfl
  exact absurd hd (by decide)

mutual
/-- Values that survive a write and a read: every float is a numeral, and no object repeats a
key. -/
def Readable : Json → Prop
  | .float literal => Numeral literal.toList
  | .arr xs => ReadableItems xs
  | .obj fs => (fs.map Prod.fst).Nodup ∧ ReadableFields fs
  | .null | .bool _ | .int _ | .str _ => True

def ReadableItems : List Json → Prop
  | [] => True
  | x :: xs => Readable x ∧ ReadableItems xs

def ReadableFields : List (String × Json) → Prop
  | [] => True
  | (_, v) :: fs => Readable v ∧ ReadableFields fs
end

section Dict

variable {κ α : Type} [DecidableEq κ]

theorem setField_fresh {k : κ} (v : α) {fs : List (κ × α)}
    (h : k ∉ fs.map Prod.fst) : setField k v fs = fs ++ [(k, v)] := by
  induction fs with
  | nil => rfl
  | cons f fs ih =>
    have hk : f.1 ≠ k ∧ k ∉ fs.map Prod.fst := by
      simp only [List.map_cons, List.mem_cons, not_or] at h
      exact ⟨Ne.symm h.1, h.2⟩
    simp [setField, hk.1, ih hk.2]

theorem foldl_setField {fs : List (κ × α)} (acc : List (κ × α))
    (h : ((acc ++ fs).map Prod.fst).Nodup) :
    fs.foldl (fun acc f => setField f.1 f.2 acc) acc = acc ++ fs := by
  induction fs generalizing acc with
  | nil => simp
  | cons f fs ih =>
    have hf : f.1 ∉ acc.map Prod.fst := by
      intro hm
      rw [List.map_append, List.map_cons] at h
      exact (List.disjoint_of_nodup_append h) hm (by simp)
    rw [List.foldl_cons, setField_fresh _ hf, ih _ (by simpa using h)]
    simp

theorem dict_of_nodup {fs : List (κ × α)} (h : (fs.map Prod.fst).Nodup) : dict fs = fs := by
  simpa [dict] using foldl_setField [] h

end Dict

theorem numeral_head {text : List Char} (h : Numeral text) :
    ∃ c cs, text = c :: cs ∧ isSpace c = false ∧ c ≠ ']' := by
  cases h with
  | constant hmem =>
    simp [constants] at hmem
    rcases hmem with ⟨rfl, -⟩ | ⟨rfl, -⟩ | ⟨rfl, -⟩ <;> exact ⟨_, _, rfl, by decide, by decide⟩
  | number hsign hwhole =>
    obtain ⟨d, ds, rfl, hd⟩ := whole_head hwhole
    rcases hsign with rfl | rfl
    · exact ⟨d, _, rfl, by simp [isSpace, digit_ne hd], digit_ne hd (by decide)⟩
    · exact ⟨'-', _, rfl, by decide, by decide⟩

theorem render_head {j : Json} (h : Readable j) :
    ∃ c cs, render j = c :: cs ∧ isSpace c = false ∧ c ≠ ']' := by
  cases j with
  | null => exact ⟨_, _, rfl, by decide, by decide⟩
  | bool b => cases b <;> exact ⟨_, _, rfl, by decide, by decide⟩
  | float literal =>
    obtain ⟨c, cs, hc, hspace, hclose⟩ := numeral_head h
    exact ⟨c, cs, hc, hspace, hclose⟩
  | str s => exact ⟨_, _, rfl, by decide, by decide⟩
  | arr xs => cases xs <;> exact ⟨_, _, rfl, by decide, by decide⟩
  | obj fs => rcases fs with _ | ⟨⟨k, v⟩, fs⟩ <;> exact ⟨_, _, rfl, by decide, by decide⟩
  | int n =>
    cases n with
    | negSucc n => exact ⟨_, _, rfl, by decide, by decide⟩
    | ofNat n =>
      obtain ⟨d, ds, hds, hd⟩ := digit_head (n := n)
      refine ⟨d, ds, hds, ?_, digit_ne hd (by decide)⟩
      simp [isSpace, digit_ne hd]

theorem skipSpace_cons {c : Char} (h : isSpace c = false) (cs : List Char) :
    skipSpace (c :: cs) = c :: cs := by
  simp [skipSpace, h]

theorem skipSpace_render {j : Json} (h : Readable j) (rest : List Char) :
    skipSpace (render j ++ rest) = render j ++ rest := by
  obtain ⟨c, cs, hc, hs, _⟩ := render_head h
  rw [hc]
  exact skipSpace_cons hs _

theorem skipSpace_renderString (s : String) (rest : List Char) :
    skipSpace (renderString s ++ rest) = renderString s ++ rest :=
  skipSpace_cons (by decide) _

theorem scanValue_int (n : Int) {fuel : Nat} {rest : List Char} (hr : Stops rest) :
    scanValue (fuel + 1) (renderInt n ++ rest) = some (.int n, rest) := by
  have hc := scanConstant_renderInt n rest
  have hn := scanNumber_renderInt n hr
  obtain ⟨c, cs, hcs, hq, ho, ha⟩ : ∃ c cs, renderInt n = c :: cs ∧ c ≠ '"' ∧ c ≠ '{' ∧ c ≠ '[' := by
    cases n with
    | negSucc n => exact ⟨_, _, rfl, by decide, by decide, by decide⟩
    | ofNat n =>
      obtain ⟨d, ds, hds, hd⟩ := digit_head (n := n)
      exact ⟨d, ds, hds, digit_ne hd (by decide), digit_ne hd (by decide), digit_ne hd (by decide)⟩
  rw [hcs] at hc hn ⊢
  rw [List.cons_append] at hc hn ⊢
  simp only [scanValue, hq, ho, ha, if_false, hc, hn]

theorem scanValue_float {literal : String} (h : Numeral literal.toList) {fuel : Nat}
    {rest : List Char} (hrest : Stops rest) :
    scanValue (fuel + 1) (literal.toList ++ rest) = some (.float literal, rest) := by
  generalize htext : literal.toList = text at h
  have hliteral : literal = String.ofList text := by rw [← htext, String.ofList_toList]
  subst hliteral
  cases h with
  | @constant _ literal' hmem =>
    simp [constants] at hmem
    rcases hmem with ⟨rfl, rfl⟩ | ⟨rfl, rfl⟩ | ⟨rfl, rfl⟩ <;>
      simp [scanValue, scanConstant, constants]
  | @number sign whole fraction exponent hsign hwhole hfraction hexponent hfloat =>
    obtain ⟨d, ds, hds, hd⟩ := whole_head hwhole
    have hq : d ≠ '"' := digit_ne hd (by decide)
    have ho : d ≠ '{' := digit_ne hd (by decide)
    have ha : d ≠ '[' := digit_ne hd (by decide)
    have hm : d ≠ '-' := digit_ne hd (by decide)
    have hscan := @scanUnsigned_append sign _ _ _ _ hwhole hfraction hexponent hfloat hrest
    rcases hsign with rfl | rfl
    · have hnumber : scanNumber (d :: (ds ++ (fraction ++ (exponent ++ rest)))) =
          scanUnsigned [] (d :: (ds ++ (fraction ++ (exponent ++ rest)))) := by
        rw [scanNumber.eq_def]
        split <;> simp_all
      rw [hds] at hscan ⊢
      simp only [List.nil_append, List.cons_append, List.append_assoc] at hscan ⊢
      simp only [scanValue, hq, ho, ha, if_false, scanConstant_digit _ hd, hnumber, hscan]
    · rw [hds] at hscan ⊢
      simp only [List.cons_append, List.nil_append, List.append_assoc] at hscan ⊢
      have hne : ('-' : Char) ≠ '"' ∧ ('-' : Char) ≠ '{' ∧ ('-' : Char) ≠ '[' := by decide
      simp only [scanValue, hne, if_false, scanConstant_minus _ hd, scanNumber, hscan]

theorem scanValue_empty (fuel : Nat) (rest : List Char) :
    scanValue (fuel + 1) (render (.obj []) ++ rest) = some (.obj [], rest) := by
  simp [render, scanValue, skipSpace_cons, isSpace]

theorem scanValue_fields {k : String} {v : Json} {fs : List (String × Json)} {fuel : Nat}
    {rest : List Char} (hkeys : (((k, v) :: fs).map Prod.fst).Nodup)
    (h : scanFields fuel (renderString k ++ (':' :: render v ++ (renderFields fs ++ rest))) =
      some ((k, v) :: fs, rest)) :
    scanValue (fuel + 1) (render (.obj ((k, v) :: fs)) ++ rest) =
      some (.obj ((k, v) :: fs), rest) := by
  have hd := dict_of_nodup hkeys
  simp only [renderString, List.cons_append, List.append_assoc, List.nil_append] at h
  simp [render, renderString, scanValue, skipSpace_cons, isSpace, h, hd]

mutual
theorem scanValue_render : ∀ (j : Json) (fuel : Nat) (rest : List Char), Readable j →
    (render j).length ≤ fuel → Stops rest → scanValue fuel (render j ++ rest) = some (j, rest)
  | j, 0, rest, h, hf, _ => by
    obtain ⟨c, cs, hc, _⟩ := render_head h
    simp [hc] at hf
  | .null, _ + 1, _, _, _, _ => by simp [render, scanValue, scanConstant, constants]
  | .bool true, _ + 1, _, _, _, _ => by simp [render, scanValue, scanConstant, constants]
  | .bool false, _ + 1, _, _, _, _ => by simp [render, scanValue, scanConstant, constants]
  | .int n, _ + 1, _, _, _, hr => scanValue_int n hr
  | .float _, _ + 1, _, h, _, hr => scanValue_float h hr
  | .str s, _ + 1, rest, _, _, _ => by
    obtain ⟨body, hb, hs⟩ := scanString_renderString s rest
    rw [render, hb]
    simp [scanValue, hs]
  | .arr [], _ + 1, _, _, _, _ => by simp [render, scanValue, skipSpace_cons, isSpace]
  | .arr (x :: xs), fuel + 1, rest, h, hf, _ => by
    have hi := scanItems_render x xs fuel rest h.1 h.2 (by
      simp only [render, List.length_cons, List.length_append] at hf; omega)
    obtain ⟨c, cs, hc, hs, hne⟩ := render_head h.1
    rw [hc, List.cons_append] at hi
    simp [render, hc, scanValue, skipSpace_cons hs, hne, hi]
  | .obj [], fuel + 1, rest, _, _, _ => scanValue_empty fuel rest
  | .obj ((k, v) :: fs), fuel + 1, rest, h, hf, _ => by
    have hi := scanFields_render k v fs fuel rest h.2.1 h.2.2 (by
      simp only [render, List.length_cons, List.length_append] at hf; omega)
    exact scanValue_fields h.1 hi

theorem scanItems_render : ∀ (x : Json) (xs : List Json) (fuel : Nat) (rest : List Char),
    Readable x → ReadableItems xs → (render x).length + (renderItems xs).length ≤ fuel →
      scanItems fuel (render x ++ (renderItems xs ++ rest)) = some (x :: xs, rest)
  | x, xs, 0, _, h, _, hf => by
    obtain ⟨c, cs, hc, _⟩ := render_head h
    simp [hc] at hf
  | x, [], fuel + 1, rest, h, _, hf => by
    have hx := scanValue_render x fuel (renderItems [] ++ rest) h
      (by simp only [renderItems, List.length_cons] at hf; omega) (stops_renderItems _ _)
    rw [scanItems, hx]
    simp [renderItems, skipSpace_cons, isSpace]
  | x, y :: ys, fuel + 1, rest, h, hs, hf => by
    simp only [renderItems, List.length_cons, List.length_append] at hf
    have hx := scanValue_render x fuel (renderItems (y :: ys) ++ rest) h (by omega)
      (stops_renderItems _ _)
    have hy := scanItems_render y ys fuel rest hs.1 hs.2 (by omega)
    rw [scanItems, hx]
    simp [renderItems, skipSpace_cons, isSpace, skipSpace_render hs.1, hy]

theorem scanFields_render : ∀ (k : String) (v : Json) (fs : List (String × Json)) (fuel : Nat)
    (rest : List Char), Readable v → ReadableFields fs →
      (renderString k).length + (render v).length + (renderFields fs).length ≤ fuel →
      scanFields fuel (renderString k ++ (':' :: render v ++ (renderFields fs ++ rest))) =
        some ((k, v) :: fs, rest)
  | k, _, _, 0, _, _, _, hf => by simp [renderString] at hf
  | k, v, [], fuel + 1, rest, h, _, hf => by
    have hv := scanValue_render v fuel (renderFields [] ++ rest) h
      (by simp only [renderFields, List.length_cons] at hf; omega) (stops_renderFields _ _)
    obtain ⟨body, hb, hs⟩ := scanString_renderString k (':' :: render v ++ (renderFields [] ++ rest))
    rw [hb]
    simp [scanFields, hs, skipSpace_cons, isSpace, skipSpace_render h, hv]
    simp [renderFields, skipSpace_cons, isSpace]
  | k, v, (k', v') :: fs, fuel + 1, rest, h, hs, hf => by
    simp only [renderFields, List.length_cons, List.length_append] at hf
    have hv := scanValue_render v fuel (renderFields ((k', v') :: fs) ++ rest) h (by omega)
      (stops_renderFields _ _)
    have hn := scanFields_render k' v' fs fuel rest hs.1 hs.2 (by omega)
    obtain ⟨body, hb, hk⟩ :=
      scanString_renderString k (':' :: render v ++ (renderFields ((k', v') :: fs) ++ rest))
    rw [hb]
    simp only [List.cons_append] at hk hn
    simp [scanFields, hk, skipSpace_cons, isSpace, skipSpace_render h, hv]
    simp [renderFields, skipSpace_cons, isSpace, skipSpace_renderString, hn]
end

/-- An object ends by itself, whatever follows it. -/
theorem scanValue_obj {fs : List (String × Json)} {fuel : Nat} (rest : List Char)
    (h : Readable (.obj fs)) (hf : (render (.obj fs)).length ≤ fuel) :
    scanValue fuel (render (.obj fs) ++ rest) = some (.obj fs, rest) := by
  obtain ⟨fuel, rfl⟩ : ∃ n, fuel = n + 1 := by
    obtain ⟨c, cs, hc, _⟩ := render_head h
    rw [hc, List.length_cons] at hf
    exact ⟨fuel - 1, by omega⟩
  cases fs with
  | nil => exact scanValue_empty fuel rest
  | cons f fs =>
    have hi := scanFields_render f.1 f.2 fs fuel rest h.2.1 h.2.2 (by
      simp only [render, List.length_cons, List.length_append] at hf; omega)
    exact scanValue_fields h.1 hi

/-- White space after an object is passed over. -/
theorem loads_obj_space {fs : List (String × Json)} {spaces : List Char}
    (h : Readable (.obj fs)) (hspaces : skipSpace spaces = []) :
    loads (String.ofList (render (.obj fs) ++ spaces)) = some (.obj fs) := by
  have hfuel : (render (.obj fs)).length ≤ (render (.obj fs) ++ spaces).length := by
    rw [List.length_append]
    omega
  have hv := scanValue_obj spaces h hfuel
  have hs := skipSpace_render h spaces
  rw [loads, String.toList_ofList, String.length_ofList, hs, hv]
  exact if_pos hspaces

/-- The reader inverts the writer. -/
theorem loads_render {j : Json} (h : Readable j) : loads (String.ofList (render j)) = some j := by
  have hv := scanValue_render j (render j).length [] h (Nat.le_refl _) stops_nil
  have hs := skipSpace_render h []
  have he : skipSpace [] = [] := rfl
  rw [List.append_nil] at hv hs
  simp [loads, hs, hv, he]

theorem sortFields_of_sorted {fs : List (String × Json)} (h : ∀ f ∈ fs, sortKeys f.2 = f.2) :
    sortFields fs = fs := by
  induction fs with
  | nil => rfl
  | cons f fs ih =>
    simp only [sortFields, h f (by simp), ih fun g hg => h g (by simp [hg])]

theorem sortItems_of_sorted {xs : List Json} (h : ∀ x ∈ xs, sortKeys x = x) :
    sortItems xs = xs := by
  induction xs with
  | nil => rfl
  | cons x xs ih => simp only [sortItems, h x (by simp), ih fun y hy => h y (by simp [hy])]

/-- An object literal whose keys are written in order. -/
theorem sortKeys_obj_of_sorted {fs : List (String × Json)}
    (hk : fs.Pairwise fun a b => a.1 ≤ b.1) (hv : ∀ f ∈ fs, sortKeys f.2 = f.2) :
    sortKeys (.obj fs) = .obj fs := by
  rw [sortKeys, sortFields_of_sorted hv, List.mergeSort_of_pairwise]
  simpa using hk

end PyJson
