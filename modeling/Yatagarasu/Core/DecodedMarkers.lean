import Yatagarasu.Core.Markers
import Yatagarasu.Library.Rereading

/-! Markers as a token spells them: their texts may hold surrogates, and their schema version may be
a JSON constant. Which of them their own token gives back. -/

namespace Yatagarasu

open PyJson PyStr Encodings

/-- What `isinstance(value, int)` lets through. -/
inductive Version
  | int (n : Int)
  | bool (b : Bool)
  deriving DecidableEq

namespace Version

def json : Version → Value
  | int n => .int n
  | bool b => .bool b

def number : Version → Int
  | int n => n
  | bool b => if b then 1 else 0

end Version

/-- A `DeliveryMarker` that has been decoded. -/
structure DecodedMarker where
  schemaVersion : Version
  eventId : List Point
  deliveryId : List Point
  attemptId : List Point
  bindingId : List Point
  authorityScope : List Point
  issuedAt : List Point
  expiresAt : List Point
  signature : List Point
  deriving DecidableEq

namespace DecodedMarker

open MarkerAuthority (markerFields tokenText)

def payloadFields (m : DecodedMarker) : List (List Point × Value) :=
  [(points "attempt_id".toList, .str m.attemptId),
    (points "authority_scope".toList, .str m.authorityScope),
    (points "binding_id".toList, .str m.bindingId),
    (points "delivery_id".toList, .str m.deliveryId),
    (points "event_id".toList, .str m.eventId),
    (points "expires_at".toList, .str m.expiresAt),
    (points "issued_at".toList, .str m.issuedAt),
    (points "schema_version".toList, m.schemaVersion.json),
    (points "signature".toList, .str m.signature)]

def encodePayload (m : DecodedMarker) : Value := .obj m.payloadFields

/-- One bounded, URL-safe token. The JSON text is ASCII, and its keys stand sorted. -/
def encode (m : DecodedMarker) : String :=
  "ygr1." ++ String.ofList (encode64 (asciiBytes (Value.render m.encodePayload)))

def intField (fields : List (List Point × Value)) (key : String) : Option Version :=
  match fields.lookup (points key.toList) with
  | some (.int n) => some (.int n)
  | some (.bool b) => some (.bool b)
  | _ => none

def strField (fields : List (List Point × Value)) (key : String) : Option (List Point) :=
  match fields.lookup (points key.toList) with
  | some (.str text) => some text
  | _ => none

def ofFields (fields : List (List Point × Value)) : Option DecodedMarker := do
  return {
    schemaVersion := ← intField fields "schema_version"
    eventId := ← strField fields "event_id"
    deliveryId := ← strField fields "delivery_id"
    attemptId := ← strField fields "attempt_id"
    bindingId := ← strField fields "binding_id"
    authorityScope := ← strField fields "authority_scope"
    issuedAt := ← strField fields "issued_at"
    expiresAt := ← strField fields "expires_at"
    signature := ← strField fields "signature" }

/-- The marker of a JSON text. -/
def ofText (text : List Point) : Option DecodedMarker :=
  match Value.loads text with
  | some (.obj fields) =>
    if (∀ key ∈ fields.map Prod.fst, key ∈ markerFields.map (points ·.toList)) ∧
        (∀ key ∈ markerFields, points key.toList ∈ fields.map Prod.fst) then ofFields fields
    else none
  | _ => none

/-- Parse an untrusted marker token; `none` stands for the `MarkerError`. -/
def decode (token : String) : Option DecodedMarker := (tokenText token).bind ofText

/-- The texts of a marker. -/
def texts (m : DecodedMarker) : List (List Point) :=
  [m.attemptId, m.authorityScope, m.bindingId, m.deliveryId, m.eventId, m.expiresAt, m.issuedAt,
    m.signature]

/-- The marker with the surrogates of its texts joined. -/
def joined (m : DecodedMarker) : DecodedMarker where
  schemaVersion := m.schemaVersion
  eventId := join m.eventId
  deliveryId := join m.deliveryId
  attemptId := join m.attemptId
  bindingId := join m.bindingId
  authorityScope := join m.authorityScope
  issuedAt := join m.issuedAt
  expiresAt := join m.expiresAt
  signature := join m.signature

theorem joined_eq_iff (m : DecodedMarker) : m.joined = m ↔ ∀ text ∈ m.texts, Unpaired text := by
  cases m
  simp only [joined, texts, mk.injEq, join_eq_iff, List.forall_mem_cons, List.not_mem_nil,
    false_implies, implies_true, and_true, true_and]
  tauto

section Tokens

variable {m : DecodedMarker}

theorem readable_payload (m : DecodedMarker) : Value.Readable m.encodePayload := by
  rcases m with ⟨_ | _, _, _, _, _, _, _, _, _⟩ <;>
    simp [encodePayload, payloadFields, Version.json, Value.Readable, Value.ReadableFields]

theorem keys_payload (m : DecodedMarker) :
    m.payloadFields.map Prod.fst = markerFields.map (points ·.toList) := rfl

theorem nodup_keys (m : DecodedMarker) : (m.payloadFields.map Prod.fst).Nodup := by
  have hnodup : markerFields.Nodup := by decide
  rw [keys_payload]
  exact hnodup.map fun key key' h => String.toList_inj.mp (points_injective h)

theorem joinedFields_payload (m : DecodedMarker) :
    Value.joinedFields m.payloadFields = m.joined.payloadFields := by
  rcases m with ⟨_ | _, _, _, _, _, _, _, _, _⟩ <;>
    simp [payloadFields, Value.joinedFields, Value.joined, Version.json, joined, join_points]

/-- The payload is read with its surrogates joined. -/
theorem loads_payload (m : DecodedMarker) :
    Value.loads (points (Value.render m.encodePayload)) = some m.joined.encodePayload := by
  rw [Value.loads_render m.readable_payload, encodePayload, Value.joined, joinedFields_payload,
    dict_of_nodup m.joined.nodup_keys]
  rfl

theorem lookup_payload (m : DecodedMarker) : ofFields m.payloadFields = some m := by
  rcases m with ⟨_ | _, _, _, _, _, _, _, _, _⟩ <;> rfl

/-- The token after its prefix. -/
def tokenBody (m : DecodedMarker) : List Char :=
  encode64 (asciiBytes (Value.render m.encodePayload))

theorem encode_eq_ofList (m : DecodedMarker) :
    m.encode = String.ofList ("ygr1.".toList ++ m.tokenBody) := by
  rw [encode, String.ofList_append, String.ofList_toList, tokenBody]

theorem render_ne_nil (m : DecodedMarker) : Value.render m.encodePayload ≠ [] :=
  List.cons_ne_nil _ _

theorem ofText_payload (m : DecodedMarker) :
    ofText (points (Value.render m.encodePayload)) = some m.joined := by
  have hknown : ∀ key ∈ m.joined.payloadFields.map Prod.fst,
      key ∈ markerFields.map (points ·.toList) := fun key hkey => hkey
  have hall : ∀ key ∈ markerFields, points key.toList ∈ m.joined.payloadFields.map Prod.fst := by
    rw [keys_payload]
    exact fun key hkey => List.mem_map_of_mem hkey
  unfold ofText
  rw [loads_payload]
  exact (if_pos ⟨hknown, hall⟩).trans (lookup_payload m.joined)

/-- A token of at most 4096 characters gives its marker back with its surrogates joined. -/
theorem decode_encode (m : DecodedMarker) :
    decode m.encode = if m.tokenBody.length ≤ 4096 then some m.joined else none := by
  have hascii : IsAscii (Value.render m.encodePayload) := (Value.isPlain_render m.readable_payload).isAscii
  have htext := MarkerAuthority.tokenText_ascii hascii (render_ne_nil m)
  rw [← tokenBody, ← encode_eq_ofList] at htext
  rw [decode, htext]
  split
  · exact ofText_payload m
  · rfl

/-- Four digits encode three characters. -/
theorem tokenBody_fits (m : DecodedMarker) :
    m.tokenBody.length ≤ 4096 ↔ (Value.render m.encodePayload).length ≤ 3072 := by
  rw [tokenBody, length_encode64, asciiBytes, List.length_map]
  omega

theorem decode_encode_iff (m : DecodedMarker) : decode m.encode = some m ↔
    (Value.render m.encodePayload).length ≤ 3072 ∧ ∀ text ∈ m.texts, Unpaired text := by
  rw [decode_encode, ← tokenBody_fits, ← joined_eq_iff]
  split
  · rename_i hfits
    exact ⟨fun h => ⟨hfits, Option.some.inj h⟩, fun h => congrArg some h.2⟩
  · rename_i hfits
    constructor
    · intro h
      cases h
    · exact fun h => absurd h.1 hfits

end Tokens

section Unicode

/-- The marker of Unicode texts as it is decoded. -/
def ofMarker (version : Version) (m : DeliveryMarker) : DecodedMarker where
  schemaVersion := version
  eventId := points m.eventId.toList
  deliveryId := points m.deliveryId.toList
  attemptId := points m.attemptId.toList
  bindingId := points m.bindingId.toList
  authorityScope := points m.authorityScope.toList
  issuedAt := points m.issuedAt.toList
  expiresAt := points m.expiresAt.toList
  signature := points m.signature.toList

variable {fields : List (String × Json)} {key : String} {m : DeliveryMarker} {token : String}

theorem lookup_ofFields (fields : List (String × Json)) (key : String) :
    (Value.ofFields fields).lookup (points key.toList) = (fields.lookup key).map Value.ofJson := by
  induction fields with
  | nil => rfl
  | cons field fields ih =>
    obtain ⟨key', j⟩ := field
    rw [Value.ofFields, List.lookup_cons, List.lookup_cons, ih]
    by_cases hkey : key = key'
    · subst hkey
      simp
    · have hpoints : points key.toList ≠ points key'.toList :=
        fun h => hkey (Value.points_toList_inj.mp h)
      rw [beq_eq_false_iff_ne.mpr hkey, beq_eq_false_iff_ne.mpr hpoints]

theorem keys_ofFields (fields : List (String × Json)) :
    (Value.ofFields fields).map Prod.fst = (fields.map Prod.fst).map (points ·.toList) := by
  induction fields with
  | nil => rfl
  | cons field fields ih => simp [Value.ofFields, ih]

theorem strField_ofFields {text : String} (h : MarkerAuthority.strField fields key = some text) :
    strField (Value.ofFields fields) key = some (points text.toList) := by
  unfold MarkerAuthority.strField at h
  unfold strField
  rw [lookup_ofFields]
  split at h
  · rename_i hlookup
    cases h
    rw [hlookup]
    rfl
  · cases h

theorem intField_ofFields {n : Int} (h : MarkerAuthority.intField fields key = some n) :
    ∃ version : Version, version.number = n ∧
      intField (Value.ofFields fields) key = some version := by
  unfold MarkerAuthority.intField at h
  unfold intField
  rw [lookup_ofFields]
  split at h
  · rename_i hlookup
    cases h
    rw [hlookup]
    exact ⟨.int _, rfl, rfl⟩
  · rename_i b hlookup
    cases h
    rw [hlookup]
    exact ⟨.bool b, rfl, rfl⟩
  · cases h

theorem ofFields_ofFields (h : MarkerAuthority.ofFields fields = some m) :
    ∃ version : Version, version.number = m.schemaVersion ∧
      ofFields (Value.ofFields fields) = some (ofMarker version m) := by
  unfold MarkerAuthority.ofFields at h
  simp only [Option.bind_eq_bind, Option.bind_eq_some_iff] at h
  obtain ⟨n, hversion, eventId, hevent, deliveryId, hdelivery, attemptId, hattempt, bindingId,
    hbinding, authorityScope, hscope, issuedAt, hissued, expiresAt, hexpires, signature, hsignature,
    h⟩ := h
  cases h
  obtain ⟨version, hnumber, hfield⟩ := intField_ofFields hversion
  refine ⟨version, hnumber, ?_⟩
  unfold ofFields
  rw [hfield, strField_ofFields hevent, strField_ofFields hdelivery, strField_ofFields hattempt,
    strField_ofFields hbinding, strField_ofFields hscope, strField_ofFields hissued,
    strField_ofFields hexpires, strField_ofFields hsignature]
  rfl

/-- A token that is decoded without surrogates is decoded alike with them. -/
theorem decode_of_marker (h : MarkerAuthority.decode token = some m) :
    ∃ version : Version, version.number = m.schemaVersion ∧
      decode token = some (ofMarker version m) := by
  unfold MarkerAuthority.decode at h
  obtain ⟨cs, htext, h⟩ := Option.bind_eq_some_iff.mp h
  obtain ⟨ps, htext, hunicode⟩ := Option.bind_eq_some_iff.mp htext
  rw [unicode_eq_some] at hunicode
  subst hunicode
  split at h
  · rename_i fields hloads
    split at h
    · rename_i hkeys
      obtain ⟨version, hnumber, hfields⟩ := ofFields_ofFields h
      refine ⟨version, hnumber, ?_⟩
      have hvalue := loads_points hloads
      rw [String.toList_ofList, Value.ofJson] at hvalue
      have hknown : ∀ key ∈ (Value.ofFields fields).map Prod.fst,
          key ∈ markerFields.map (points ·.toList) := by
        rw [keys_ofFields]
        intro key' hkey'
        obtain ⟨key, hkey, rfl⟩ := List.mem_map.mp hkey'
        exact List.mem_map_of_mem (hkeys.1 key hkey)
      have hall : ∀ key ∈ markerFields,
          points key.toList ∈ (Value.ofFields fields).map Prod.fst := by
        rw [keys_ofFields]
        exact fun key hkey => List.mem_map_of_mem (hkeys.2 key hkey)
      unfold decode ofText
      rw [htext, Option.bind_some, hvalue]
      exact (if_pos ⟨hknown, hall⟩).trans hfields
    · cases h
  · cases h

theorem unpaired_ofMarker (version : Version) (m : DeliveryMarker) :
    ∀ text ∈ (ofMarker version m).texts, Unpaired text := by
  simp [texts, ofMarker, unpaired_points]

/-- The canonical token is the same. -/
theorem render_ofMarker (m : DeliveryMarker) :
    Value.render (ofMarker (.int m.schemaVersion) m).encodePayload =
      render (MarkerAuthority.encodePayload m) :=
  Value.render_ofJson (MarkerAuthority.encodePayload m)

end Unicode

end DecodedMarker

end Yatagarasu
