import Mathlib.Data.List.TakeWhile
import Yatagarasu.Core.Proofs

/-! What the plugin finds in observed text: the short marker that fits a preview, or the core's own
token. The patterns are deterministic, so a match is read off the runs of token characters. -/

namespace Yatagarasu.Cmux

open Encodings

/-- The independently observed correlation fields that fit a preview. -/
structure ShortMarker where
  deliveryId : String
  bindingId : String
  signature : String
  deriving DecidableEq, Repr

/-- A decoded marker, of either wire form. Decoding is not authorization. -/
inductive WireMarker
  | delivery (marker : DeliveryMarker)
  | short (marker : ShortMarker)
  deriving DecidableEq, Repr

namespace WireMarker

def deliveryId : WireMarker → String
  | delivery marker => marker.deliveryId
  | short marker => marker.deliveryId

def bindingId : WireMarker → String
  | delivery marker => marker.bindingId
  | short marker => marker.bindingId

def signature : WireMarker → String
  | delivery marker => marker.signature
  | short marker => marker.signature

end WireMarker

/-- `[A-Za-z0-9_-]`. -/
def tokenChar (c : Char) : Bool :=
  ('A' ≤ c ∧ c ≤ 'Z') ∨ ('a' ≤ c ∧ c ≤ 'z') ∨ ('0' ≤ c ∧ c ≤ '9') ∨ c = '_' ∨ c = '-'

def shortPrefix : List Char := "ygr1s.".toList

def longPrefix : List Char := "ygr1.".toList

theorem shortPrefix_eq : shortPrefix = ['y', 'g', 'r', '1', 's', '.'] := by decide +kernel

theorem longPrefix_eq : longPrefix = ['y', 'g', 'r', '1', '.'] := by decide +kernel

/-- An id of 1 to 64 token characters and the dot that ends it. -/
def scanId (cs : List Char) : Option (List Char × List Char) :=
  match cs.dropWhile tokenChar with
  | '.' :: rest =>
    let id := cs.takeWhile tokenChar
    if 1 ≤ id.length ∧ id.length ≤ 64 then some (id, rest) else none
  | _ => none

/-- `_SHORT_MARKER_RE` at the start of the text: delivery id, binding id and signature. -/
def matchShort (cs : List Char) : Option (List Char × List Char × List Char) := do
  if ¬ shortPrefix.isPrefixOf cs then none
  let (deliveryId, rest) ← scanId (cs.drop shortPrefix.length)
  let (bindingId, rest) ← scanId rest
  let signature := rest.takeWhile tokenChar
  if signature.length = 43 then some (deliveryId, bindingId, signature) else none

/-- `_SHORT_MARKER_RE.search`: the first match. -/
def searchShort : List Char → Option (List Char × List Char × List Char)
  | [] => none
  | c :: cs => (matchShort (c :: cs)).or (searchShort cs)

/-- The signature of a short marker is 32 bytes in canonical base64. -/
def canonicalShort (groups : List Char × List Char × List Char) : Option ShortMarker :=
  let bytes := (decode64 groups.2.2).getD []
  if bytes.length = 32 ∧ encode64 bytes = groups.2.2 then
    some { deliveryId := String.ofList groups.1, bindingId := String.ofList groups.2.1
           signature := String.ofList (hex bytes) }
  else none

/-- `_YGR1_RE.finditer`; the fuel is the length of the text. -/
def longTokens : Nat → List Char → List (List Char)
  | fuel + 1, c :: cs =>
    let run := ((c :: cs).drop longPrefix.length).takeWhile tokenChar
    if longPrefix.isPrefixOf (c :: cs) ∧ run ≠ [] then
      (longPrefix ++ run) ::
        longTokens fuel (((c :: cs).drop longPrefix.length).dropWhile tokenChar)
    else longTokens fuel cs
  | _, _ => []

/-- Extract and parse a marker from arbitrary text: a short one, or else the first long token that
decodes. -/
def extract (haystack : String) : Option WireMarker :=
  match (searchShort haystack.toList).bind canonicalShort with
  | some marker => some (.short marker)
  | none => ((longTokens haystack.length haystack.toList).findSome? fun token =>
      MarkerAuthority.decode (String.ofList token)).map .delivery

/-- The token of a short marker; `bytes.fromhex` raises on a signature that is no hex. -/
def ShortMarker.text (marker : ShortMarker) : Except PyError String :=
  match unhex marker.signature.toList with
  | some bytes => .ok (String.ofList (shortPrefix ++ marker.deliveryId.toList ++
      '.' :: marker.bindingId.toList ++ '.' :: encode64 bytes))
  | none => .error (.valueError "non-hexadecimal number found in fromhex() arg")

/-- The exact safe marker token without surrounding prompt content. -/
def markerText : WireMarker → Except PyError String
  | .short marker => marker.text
  | .delivery marker => .ok (MarkerAuthority.encode marker)

def maxShortMarkerChars : Nat := 180

def isToken (text : String) : Prop :=
  (∀ c ∈ text.toList, tokenChar c) ∧ 1 ≤ text.length ∧ text.length ≤ 64

instance (text : String) : Decidable (isToken text) :=
  have := List.decidableBAll (fun c => tokenChar c = true) text.toList
  inferInstanceAs (Decidable ((∀ c ∈ text.toList, tokenChar c) ∧ _))

/-- The full text of a SHA-256 digest. -/
def isDigest (text : String) : Prop :=
  text.length = 64 ∧ ∀ c ∈ text.toList, ('0' ≤ c ∧ c ≤ '9') ∨ ('a' ≤ c ∧ c ≤ 'f')

instance (text : String) : Decidable (isDigest text) :=
  have := List.decidableBAll (fun c => ('0' ≤ c ∧ c ≤ '9') ∨ ('a' ≤ c ∧ c ≤ 'f')) text.toList
  inferInstanceAs (Decidable (_ ∧ ∀ c ∈ text.toList, _))

/-- Encode only wire-observed correlation fields under the preview cap. -/
def encodeShort (marker : DeliveryMarker) : Except PyError String := do
  if ¬ isToken marker.deliveryId then
    throw (.valueError "delivery_id cannot be represented in a short marker")
  if ¬ isToken marker.bindingId then
    throw (.valueError "binding_id cannot be represented in a short marker")
  if ¬ isDigest marker.signature then
    throw (.valueError "marker signature is not a full SHA-256 hex digest")
  let token ← ShortMarker.text ⟨marker.deliveryId, marker.bindingId, marker.signature⟩
  if token.length > maxShortMarkerChars then
    throw (.valueError "short marker exceeds the CMUX preview budget")
  return token

section RoundTrip

variable {cs rest : List Char} {groups : List Char × List Char × List Char} {m : ShortMarker}

theorem nibble_digitChar : ∀ d < 16, nibble (Nat.digitChar d) = some d := by decide

theorem unhex_hex (bytes : List UInt8) : unhex (hex bytes) = some bytes := by
  induction bytes with
  | nil => rfl
  | cons b bytes ih =>
    have hb : b.toNat < 256 := b.toNat_lt
    have hhigh := nibble_digitChar (b.toNat / 16) (by omega)
    have hlow := nibble_digitChar (b.toNat % 16) (by omega)
    have hbyte : UInt8.ofNat (b.toNat / 16 * 16 + b.toNat % 16) = b := by
      rw [Nat.div_add_mod']
      exact UInt8.ofNat_toNat
    have hunfold : hex (b :: bytes) = Nat.digitChar (b.toNat / 16) ::
        Nat.digitChar (b.toNat % 16) :: hex bytes := rfl
    rw [hunfold, unhex, hhigh, hlow, ih]
    simp only [hbyte]

theorem takeWhile_run {run : List Char} (h : ∀ c ∈ run, tokenChar c)
    (hrest : ∀ c ∈ rest.head?, ¬ tokenChar c) : (run ++ rest).takeWhile tokenChar = run ∧
      (run ++ rest).dropWhile tokenChar = rest := by
  rw [List.takeWhile_append_of_pos h, List.dropWhile_append_of_pos h]
  cases rest with
  | nil => simp
  | cons c rest =>
    have hc := hrest c rfl
    simp [hc]

theorem scanId_eq_some {id : List Char} (h : scanId cs = some (id, rest)) :
    (∀ c ∈ id, tokenChar c) ∧ 1 ≤ id.length ∧ id.length ≤ 64 := by
  unfold scanId at h
  split at h
  · dsimp only at h
    split at h
    · rename_i hlength
      cases h
      exact ⟨fun c hc => List.mem_takeWhile_imp hc, hlength.1, hlength.2⟩
    · cases h
  · cases h

theorem scanId_run {id : List Char} (h : ∀ c ∈ id, tokenChar c) (hlow : 1 ≤ id.length)
    (hhigh : id.length ≤ 64) : scanId (id ++ '.' :: rest) = some (id, rest) := by
  obtain ⟨htake, hdrop⟩ := @takeWhile_run ('.' :: rest) id h (by simp [tokenChar])
  unfold scanId
  rw [hdrop]
  simp [htake, hlow, hhigh]

theorem matchShort_eq_some (h : matchShort cs = some groups) :
    ((∀ c ∈ groups.1, tokenChar c) ∧ 1 ≤ groups.1.length ∧ groups.1.length ≤ 64) ∧
    ((∀ c ∈ groups.2.1, tokenChar c) ∧ 1 ≤ groups.2.1.length ∧ groups.2.1.length ≤ 64) ∧
    (∀ c ∈ groups.2.2, tokenChar c) ∧ groups.2.2.length = 43 := by
  unfold matchShort at h
  split at h
  · cases h
  obtain ⟨⟨deliveryId, rest⟩, hd, h⟩ := Option.bind_eq_some_iff.mp h
  obtain ⟨⟨bindingId, rest'⟩, hb, h⟩ := Option.bind_eq_some_iff.mp h
  dsimp only at h
  split at h
  · rename_i hlength
    cases h
    exact ⟨scanId_eq_some hd, scanId_eq_some hb, fun c hc => List.mem_takeWhile_imp hc, hlength⟩
  · cases h

theorem searchShort_eq_some (h : searchShort cs = some groups) :
    ∃ rest, matchShort rest = some groups := by
  induction cs with
  | nil => cases h
  | cons c cs ih =>
    rcases Option.or_eq_some_iff.mp h with hmatch | ⟨-, hsearch⟩
    · exact ⟨_, hmatch⟩
    · exact ih hsearch

/-- The text of a match is its own first match. -/
theorem searchShort_text (h : matchShort cs = some groups) :
    searchShort (shortPrefix ++ groups.1 ++ '.' :: groups.2.1 ++ '.' :: groups.2.2) =
      some groups := by
  obtain ⟨⟨hd, hdlow, hdhigh⟩, ⟨hb, hblow, hbhigh⟩, hs, hslength⟩ := matchShort_eq_some h
  have htake := (@takeWhile_run [] groups.2.2 hs (by simp)).1
  rw [List.append_nil] at htake
  have hmatch : matchShort (shortPrefix ++ (groups.1 ++ '.' :: (groups.2.1 ++ '.' :: groups.2.2))) =
      some groups := by
    unfold matchShort
    rw [if_neg (by simp), List.drop_left, scanId_run hd hdlow hdhigh]
    simp [scanId_run hb hblow hbhigh, htake, hslength]
  have hassoc : shortPrefix ++ groups.1 ++ '.' :: groups.2.1 ++ '.' :: groups.2.2 =
      shortPrefix ++ (groups.1 ++ '.' :: (groups.2.1 ++ '.' :: groups.2.2)) := by simp
  rw [hassoc]
  change (matchShort (shortPrefix ++ _)).or _ = _
  rw [hmatch, Option.some_or]

/-- The text of the marker is the match that it was read from. -/
theorem text_of_canonical (hsearch : searchShort cs = some groups)
    (hcanonical : canonicalShort groups = some m) :
    ∃ text, m.text = .ok text ∧ (searchShort text.toList).bind canonicalShort = some m := by
  obtain ⟨rest, hmatch⟩ := searchShort_eq_some hsearch
  have hagain := searchShort_text hmatch
  have hc := hcanonical
  unfold canonicalShort at hc
  dsimp only at hc
  split at hc
  · rename_i hbytes
    cases hc
    refine ⟨String.ofList (shortPrefix ++ groups.1 ++ '.' :: groups.2.1 ++ '.' :: groups.2.2),
      ?_, ?_⟩
    · simp only [ShortMarker.text, String.toList_ofList, unhex_hex, hbytes.2]
    · rw [String.toList_ofList, hagain, Option.bind_some, hcanonical]
  · cases hc

/-- What is kept of a short marker reads back as the same marker. -/
theorem extract_text_short {haystack : String} (h : extract haystack = some (.short m)) :
    ∃ text, markerText (.short m) = .ok text ∧ extract text = some (.short m) := by
  unfold extract at h
  split at h
  · rename_i found hfound
    cases h
    obtain ⟨groups, hsearch, hcanonical⟩ := Option.bind_eq_some_iff.mp hfound
    obtain ⟨text, htext, hagain⟩ := text_of_canonical hsearch hcanonical
    refine ⟨text, htext, ?_⟩
    unfold extract
    rw [hagain]
  · obtain ⟨_, -, hshort⟩ := Option.map_eq_some_iff.mp h
    cases hshort

end RoundTrip

end Yatagarasu.Cmux
