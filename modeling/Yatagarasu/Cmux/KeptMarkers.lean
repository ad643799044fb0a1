import Yatagarasu.Cmux.Extraction
import Yatagarasu.Core.DecodedMarkers

/-! Whether what the projector keeps of a marker reads back as that marker. Observed text may hold
surrogates anywhere, and so may the texts of the marker it carries. -/

namespace Yatagarasu.Cmux

open Encodings PyJson PyStr MarkerAuthority

/-- A marker of an observed text, of either wire form. -/
inductive ObservedMarker
  | delivery (marker : DecodedMarker)
  | short (marker : ShortMarker)
  deriving DecidableEq

namespace ObservedMarker

/-- What the two patterns see of a text. A surrogate is in none of their classes, as a blank is in
none. -/
def visible (text : List Point) : List Char :=
  text.map fun
    | .scalar c => c
    | .surrogate _ => ' '

/-- Extract and parse a marker from arbitrary text. -/
def extract (haystack : List Point) : Option ObservedMarker :=
  match (searchShort (visible haystack)).bind canonicalShort with
  | some marker => some (.short marker)
  | none => ((longTokens haystack.length (visible haystack)).findSome? fun token =>
      DecodedMarker.decode (String.ofList token)).map .delivery

/-- The exact safe marker token without surrounding prompt content. -/
def markerText : ObservedMarker → Except PyError String
  | .short marker => marker.text
  | .delivery marker => .ok marker.encode

/-- The kept token reads back as the marker. -/
def ReadsBack (m : ObservedMarker) : Prop :=
  ∃ text, markerText m = .ok text ∧ extract (points text.toList) = some m

/-- The canonical text of the marker fits a token, and joining surrogates leaves its texts alone. -/
def Canonical : ObservedMarker → Prop
  | .short _ => True
  | .delivery marker => (Value.render marker.encodePayload).length ≤ 3072 ∧
      ∀ text ∈ marker.texts, Unpaired text

section Tokens

theorem visible_points (cs : List Char) : visible (points cs) = cs := by
  rw [visible, points, List.map_map]
  exact List.map_id cs

/-- A long token on its own is the only one of its text. -/
theorem longTokens_token {body : List Char} (hchars : ∀ c ∈ body, tokenChar c)
    (hfilled : body ≠ []) :
    longTokens (longPrefix ++ body).length (longPrefix ++ body) = [longPrefix ++ body] := by
  have hlong : LongAt (longPrefix ++ body) [] body [] :=
    ⟨by rw [List.nil_append, List.append_nil], hchars, hfilled, endsToken_nil⟩
  have hlength : (longPrefix ++ body).length = 4 + body.length + 1 := by
    rw [List.length_append, Nat.add_right_comm]
    rfl
  rw [hlength]
  rcases longTokens_cases (4 + body.length) 'y' (['g', 'r', '1', '.'] ++ body) with
    ⟨run, post, hfirst, heq⟩ | ⟨hnone, -⟩
  · obtain ⟨rfl, rfl⟩ := longAt_front hlong hfirst
    exact heq.trans (by rw [longTokens_nil])
  · exact absurd hlong (hnone _ _)

/-- A text that is one long token is decoded as it stands. -/
theorem extract_token {bytes : List UInt8} (hfilled : bytes ≠ []) :
    extract (points (longPrefix ++ encode64 bytes)) =
      (DecodedMarker.decode (String.ofList (longPrefix ++ encode64 bytes))).map .delivery := by
  have hchars : ∀ c ∈ encode64 bytes, tokenChar c :=
    fun c hc => tokenChar_alphabet c (encode64_mem hc)
  unfold extract
  rw [visible_points, points, List.length_map, searchShort_token hchars,
    longTokens_token hchars (encode64_ne_nil hfilled), List.findSome?_singleton]
  rfl

theorem extract_encode (marker : DecodedMarker) :
    extract (points marker.encode.toList) = (DecodedMarker.decode marker.encode).map .delivery := by
  have hbytes : asciiBytes (Value.render marker.encodePayload) ≠ [] := by
    simpa [asciiBytes] using marker.render_ne_nil
  rw [marker.encode_eq_ofList, String.toList_ofList]
  exact extract_token hbytes

end Tokens

section Kept

variable {haystack : List Point} {m : ObservedMarker}

theorem readsBack_short {marker : ShortMarker} (h : extract haystack = some (.short marker)) :
    ReadsBack (.short marker) := by
  unfold extract at h
  split at h
  · rename_i found hfound
    cases h
    obtain ⟨groups, hsearch, hcanonical⟩ := Option.bind_eq_some_iff.mp hfound
    obtain ⟨text, htext, hagain⟩ := text_of_canonical hsearch hcanonical
    refine ⟨text, htext, ?_⟩
    unfold extract
    rw [visible_points, hagain]
  · obtain ⟨_, -, hshort⟩ := Option.map_eq_some_iff.mp h
    cases hshort

theorem readsBack_delivery (marker : DecodedMarker) :
    ReadsBack (.delivery marker) ↔ Canonical (.delivery marker) := by
  have hdecode := marker.decode_encode_iff
  constructor
  · rintro ⟨text, htext, hagain⟩
    cases htext
    rw [extract_encode, Option.map_eq_some_iff] at hagain
    obtain ⟨marker', hmarker, hsame⟩ := hagain
    cases hsame
    exact hdecode.mp hmarker
  · intro hcanonical
    refine ⟨_, rfl, ?_⟩
    rw [extract_encode, hdecode.mpr hcanonical, Option.map_some]

/-- What is kept of a marker reads back as the same marker exactly when its canonical text fits a
token and no text of it has a high surrogate right before a low one. -/
theorem extract_markerText_iff (haystack : List Point) (m : ObservedMarker)
    (h : extract haystack = some m) : ReadsBack m ↔ Canonical m := by
  cases m with
  | short marker => exact ⟨fun _ => trivial, fun _ => readsBack_short h⟩
  | delivery marker => exact readsBack_delivery marker

/-- A marker of a version that is a constant and of an attempt id that is no Unicode text. -/
def oddMarker : DecodedMarker :=
  { DecodedMarker.ofMarker (.bool true) sampleMarker with
    attemptId := [.ofNat 0xdc00, .ofNat 0xd800, .scalar 'a'] }

theorem canonical_oddMarker : Canonical (.delivery oddMarker) := by
  refine ⟨by decide +kernel, ?_⟩
  decide +kernel

theorem extract_markerText_iff_sample : ReadsBack (.delivery oddMarker) := by
  have hfound : extract (points oddMarker.encode.toList) = some (.delivery oddMarker) := by
    rw [extract_encode, oddMarker.decode_encode_iff.mpr canonical_oddMarker, Option.map_some]
  exact (extract_markerText_iff _ _ hfound).mpr canonical_oddMarker

theorem scanString_verbatim {cs rest : List Char}
    (h : ∀ c ∈ cs, c ≠ '"' ∧ c ≠ '\\' ∧ 0x20 ≤ c.toNat) :
    scanString (cs ++ '"' :: rest) = some (cs, rest) := by
  induction cs with
  | nil => simp [scanString]
  | cons c cs ih =>
    obtain ⟨hquote, hescape, hcontrol⟩ := h c List.mem_cons_self
    rw [List.cons_append, scanString_plain hquote hescape hcontrol,
      ih fun x hx => h x (List.mem_cons_of_mem _ hx)]
    rfl

/-- An object of two texts or more whose first text is written without escapes. -/
def verbatim (key : String) (text : List Char) (key' : String) (value : Json)
    (fields : List (String × Json)) : List Char :=
  '{' :: (renderString key ++ (':' :: '"' :: (text ++ '"' :: ',' ::
    (renderString key' ++ (':' :: render value ++ renderFields fields)))))

theorem loads_verbatim {key key' : String} {text : List Char} {value : Json}
    {fields : List (String × Json)} (htext : ∀ c ∈ text, c ≠ '"' ∧ c ≠ '\\' ∧ 0x20 ≤ c.toNat)
    (hvalue : Readable value) (hfields : ReadableFields fields)
    (hkeys : (key :: key' :: fields.map Prod.fst).Nodup) :
    loads (String.ofList (verbatim key text key' value fields)) =
      some (.obj ((key, .str (String.ofList text)) :: (key', value) :: fields)) := by
  obtain ⟨body, hbody, hkey⟩ := scanString_renderString key (':' :: '"' :: (text ++ '"' :: ',' ::
    (renderString key' ++ (':' :: render value ++ renderFields fields))))
  obtain ⟨fuel, hfuel, hlength⟩ : ∃ fuel, (verbatim key text key' value fields).length = fuel + 4 ∧
      (renderString key').length + (render value).length + (renderFields fields).length ≤
        fuel + 2 := by
    refine ⟨(verbatim key text key' value fields).length - 4, ?_, ?_⟩ <;>
    · simp [verbatim, renderString]
      omega
  have hrest := scanFields_render key' value fields (fuel + 2) [] hvalue hfields hlength
  rw [List.append_nil] at hrest
  have hquoted : ∃ tail, renderString key' ++ (':' :: render value ++ renderFields fields) =
      '"' :: tail := ⟨_, by simp [renderString]; rfl⟩
  have hscan : scanFields (fuel + 3) ('"' :: body) =
      some ((key, .str (String.ofList text)) :: (key', value) :: fields, []) := by
    obtain ⟨tail, htail⟩ := hquoted
    rw [htail] at hrest hkey
    simp [scanFields, hkey, skipSpace_cons, isSpace, scanValue, scanString_verbatim htext, hrest]
  have hdict : dict ((key, .str (String.ofList text)) :: (key', value) :: fields) =
      (key, .str (String.ofList text)) :: (key', value) :: fields := dict_of_nodup hkeys
  unfold loads
  rw [String.length_ofList, String.toList_ofList, hfuel, verbatim, hbody]
  simp [isSpace, scanValue, hscan, hdict, skipSpace]

/-- An attempt id of control characters that JSON need not escape. -/
def wideMarker : DeliveryMarker :=
  { sampleMarker with attemptId := String.ofList (List.replicate 600 '\x7f') }

/-- The fields of the sample marker after the first two. -/
def wideFields : List (String × Json) :=
  [("binding_id", .str "binding-1"), ("delivery_id", .str "delivery-1"),
    ("event_id", .str "event-1"), ("expires_at", .str "2026-01-01T01:00:00Z"),
    ("issued_at", .str "2026-01-01T00:00:00Z"), ("schema_version", .int 1),
    ("signature", .str sampleMarker.signature)]

def wideText : List Char :=
  verbatim "attempt_id" (List.replicate 600 '\x7f') "authority_scope" (.str "conversation") wideFields

/-- The token of the marker with the attempt id as it is. -/
def wideToken : String := String.ofList (longPrefix ++ encode64 (asciiBytes wideText))

theorem loads_wideText : loads (String.ofList wideText) = some (encodePayload wideMarker) := by
  refine loads_verbatim ?_ trivial ?_ ?_
  · intro c hc
    rw [List.eq_of_mem_replicate hc]
    decide
  · simp [wideFields, Readable, ReadableFields]
  · simp [wideFields]

theorem decode_wideToken : decode wideToken = some wideMarker := by
  have hascii : IsAscii wideText := isAscii_of_all (by decide +kernel)
  have hlength : wideText.length ≤ 3072 := by decide +kernel
  have hsize : (encode64 (asciiBytes wideText)).length ≤ 4096 := by
    rw [length_encode64, asciiBytes, List.length_map]
    omega
  have hfilled : wideText ≠ [] := List.cons_ne_nil _ _
  exact (decode_text hascii hfilled loads_wideText).trans (if_pos hsize)

/-- With its escapes the attempt id alone is longer than a token may be. -/
theorem not_canonical_wideMarker (version : Version) :
    ¬ Canonical (.delivery (DecodedMarker.ofMarker version wideMarker)) := by
  rintro ⟨hfits, -⟩
  have hescaped : ((points (List.replicate 600 '\x7f')).flatMap escapePoint).length = 3600 := by
    decide +kernel
  have hattempt : (DecodedMarker.ofMarker version wideMarker).attemptId =
      points (List.replicate 600 '\x7f') := by
    unfold DecodedMarker.ofMarker wideMarker
    rw [String.toList_ofList]
  simp only [DecodedMarker.encodePayload, DecodedMarker.payloadFields, Value.render, renderText,
    hattempt, hescaped, List.length_cons, List.length_append] at hfits
  omega

theorem extract_wideToken : ∃ version,
    extract (points wideToken.toList) =
      some (.delivery (DecodedMarker.ofMarker version wideMarker)) := by
  obtain ⟨version, -, hdecode⟩ := DecodedMarker.decode_of_marker decode_wideToken
  have hbytes : asciiBytes wideText ≠ [] := List.cons_ne_nil _ _
  refine ⟨version, ?_⟩
  rw [wideToken, String.toList_ofList, extract_token hbytes]
  exact congrArg (Option.map _) hdecode

/-- The bytes of a high surrogate and of a low one, which are read as two characters. -/
def pairedBytes : List UInt8 :=
  asciiBytes ('{' :: renderString "attempt_id" ++ [':', '"']) ++
    [0xed, 0xa0, 0x80, 0xed, 0xb0, 0x80] ++
    asciiBytes ('"' :: renderFields (("authority_scope", .str "conversation") :: wideFields))

def pairedMarker : DecodedMarker :=
  { DecodedMarker.ofMarker (.int 1) sampleMarker with attemptId := [.ofNat 0xd800, .ofNat 0xdc00] }

theorem extract_paired :
    extract (points (longPrefix ++ encode64 pairedBytes)) = some (.delivery pairedMarker) := by
  have hbytes : pairedBytes ≠ [] := List.cons_ne_nil _ _
  have hlength : pairedBytes.length ≤ 3072 := by decide +kernel
  have hsize : (encode64 pairedBytes).length ≤ 4096 := by
    rw [length_encode64]
    omega
  have htext : (decodeJsonBytes pairedBytes).bind DecodedMarker.ofText = some pairedMarker := by
    decide +kernel
  rw [extract_token hbytes, DecodedMarker.decode, longPrefix, tokenText_encode64 hbytes,
    if_pos hsize, htext, Option.map_some]

/-- The projector sees a marker on the wire, and nobody reads it back: its token is too long, or it
is a token of another marker. -/
theorem marker_lost :
    (∃ haystack marker, extract haystack = some (.delivery marker) ∧
      (∀ text ∈ marker.texts, Unpaired text) ∧ ¬ ReadsBack (.delivery marker)) ∧
    ∃ haystack marker, extract haystack = some (.delivery marker) ∧
      (Value.render marker.encodePayload).length ≤ 3072 ∧ ¬ ReadsBack (.delivery marker) := by
  constructor
  · obtain ⟨version, hfound⟩ := extract_wideToken
    refine ⟨_, _, hfound, DecodedMarker.unpaired_ofMarker version wideMarker, fun h => ?_⟩
    exact not_canonical_wideMarker version ((readsBack_delivery _).mp h)
  · refine ⟨_, _, extract_paired, by decide +kernel, fun h => ?_⟩
    have hunpaired := ((readsBack_delivery _).mp h).2 pairedMarker.attemptId List.mem_cons_self
    exact absurd hunpaired (by decide)

end Kept

end ObservedMarker

end Yatagarasu.Cmux
