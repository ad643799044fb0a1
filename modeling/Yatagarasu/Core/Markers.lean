import Yatagarasu.Core.Runs
import Yatagarasu.Library.Ascii

/-! The token of a marker reads back as the marker, and the signature of a minted marker covers
every field of it. -/

namespace Yatagarasu

open PyJson Encodings PyStr

namespace MarkerAuthority

section Tokens

variable {m m' : DeliveryMarker}

theorem sortKeys_encodePayload (m : DeliveryMarker) :
    sortKeys (encodePayload m) = encodePayload m := by
  refine sortKeys_obj_of_sorted ?_ ?_
  · simp
  · simp [sortKeys]

theorem readable_encodePayload (m : DeliveryMarker) : Readable (encodePayload m) := by
  simp [encodePayload, Readable, ReadableFields]

/-- The token after its prefix. -/
def tokenBody (m : DeliveryMarker) : List Char := encode64 (asciiBytes (render (encodePayload m)))

theorem toList_encode (m : DeliveryMarker) : (encode m).toList = "ygr1.".toList ++ tokenBody m := by
  simp [encode, tokenBody, dumps, sortKeys_encodePayload, asciiBytes]

theorem tokenBody_mem {c : Char} (h : c ∈ tokenBody m) : c ∈ alphabet := encode64_mem h

theorem ofFields_encodePayload (m : DeliveryMarker) :
    ∃ fields, encodePayload m = .obj fields ∧ (∀ key ∈ fields.map Prod.fst, key ∈ markerFields) ∧
      (∀ key ∈ markerFields, key ∈ fields.map Prod.fst) ∧ ofFields fields = some m := by
  refine ⟨_, rfl, by simp [markerFields], by simp [markerFields], ?_⟩
  simp [ofFields, intField, strField, List.lookup_cons]

/-- A token is taken apart into its bytes, if it is not too long. -/
theorem tokenText_encode64 {bytes : List UInt8} (hfilled : bytes ≠ []) :
    tokenText (String.ofList ("ygr1.".toList ++ encode64 bytes)) =
      if (encode64 bytes).length ≤ 4096 then decodeJsonBytes bytes else none := by
  have hbytes := decode64_encode64 bytes
  have hpos : 0 < (encode64 bytes).length := List.length_pos_iff.mpr (encode64_ne_nil hfilled)
  generalize encode64 bytes = body at hbytes hpos
  have hstarts : "ygr1.".toList.isPrefixOf ("ygr1.".toList ++ body) :=
    List.isPrefixOf_iff_prefix.mpr (List.prefix_append _ _)
  have hbody : ("ygr1.".toList ++ body).drop 5 = body := List.drop_left' rfl
  generalize htoken : String.ofList ("ygr1.".toList ++ body) = token
  have htoList : token.toList = "ygr1.".toList ++ body := by
    rw [← htoken, String.toList_ofList]
  unfold tokenText
  simp only [htoList, hstarts, if_true, hbody, Option.bind_eq_bind, Option.bind_some]
  by_cases hsize : body.length ≤ 4096
  · rw [if_neg (by omega), if_pos hsize]
    change (decode64 body).bind _ = _
    rw [hbytes, Option.bind_some]
  · rw [if_pos (by omega), if_neg hsize]
    rfl

/-- A token of an ASCII text is taken apart into the text. -/
theorem tokenText_ascii {text : List Char} (hascii : IsAscii text) (hfilled : text ≠ []) :
    tokenText (String.ofList ("ygr1.".toList ++ encode64 (asciiBytes text))) =
      if (encode64 (asciiBytes text)).length ≤ 4096 then some (points text) else none := by
  have hbytes : asciiBytes text ≠ [] := by simpa [asciiBytes] using hfilled
  rw [tokenText_encode64 hbytes, decodeJsonBytes_ascii hascii]

/-- Any text that reads as the payload of the marker may stand in the token. -/
theorem decode_text {text : List Char} (hascii : IsAscii text) (hfilled : text ≠ [])
    (hloads : loads (String.ofList text) = some (encodePayload m)) :
    decode (String.ofList ("ygr1.".toList ++ encode64 (asciiBytes text))) =
      if (encode64 (asciiBytes text)).length ≤ 4096 then some m else none := by
  unfold decode
  rw [tokenText_ascii hascii hfilled]
  split
  · obtain ⟨fields, hfields, hknown, hall, hof⟩ := ofFields_encodePayload m
    simp only [Option.bind_eq_bind, Option.bind_some, unicode_points, hloads, hfields]
    rw [if_pos ⟨hknown, hall⟩, hof]
  · rfl

/-- A token of at most 4096 characters decodes to its marker, and a longer one is refused. -/
theorem decode_encode (m : DeliveryMarker) :
    decode (encode m) = if (tokenBody m).length ≤ 4096 then some m else none := by
  have hfilled : render (encodePayload m) ≠ [] := by simp [encodePayload, render]
  have hread := decode_text (isAscii_render (readable_encodePayload m)) hfilled
    (loads_render (readable_encodePayload m))
  have htoken : String.ofList ("ygr1.".toList ++ tokenBody m) = encode m := by
    rw [← toList_encode, String.ofList_toList]
  rw [← htoken]
  exact hread

theorem length_encode (m : DeliveryMarker) : (encode m).length = 5 + (tokenBody m).length := by
  rw [← String.length_toList, toList_encode, List.length_append]
  rfl

/-- A token is the prefix and URL-safe characters, it reads back as its marker up to the size limit
and is refused beyond it, and up to the limit no two markers share one. -/
theorem tokens_round_trip :
    (∀ m, ∃ body, encode m = "ygr1." ++ body ∧ (∀ c ∈ body.toList, c ∈ alphabet) ∧
      (body.length ≤ 4096 → decode (encode m) = some m) ∧
      (4096 < body.length → decode (encode m) = none)) ∧
    ∀ m m', (encode m).length ≤ "ygr1.".length + 4096 →
      (encode m').length ≤ "ygr1.".length + 4096 → encode m = encode m' → m = m' := by
  constructor
  · intro m
    refine ⟨String.ofList (tokenBody m), ?_, ?_, ?_, ?_⟩
    · apply String.toList_injective
      simp only [toList_encode, String.toList_append, String.toList_ofList]
    · rw [String.toList_ofList]
      exact fun c => tokenBody_mem
    · intro hsize
      rw [String.length_ofList] at hsize
      rw [decode_encode, if_pos hsize]
    · intro hsize
      rw [String.length_ofList] at hsize
      rw [decode_encode, if_neg (by omega)]
  · intro m m' hm hm' heq
    have hstarts : "ygr1.".length = 5 := rfl
    rw [length_encode, hstarts] at hm hm'
    have hread := congrArg decode heq
    rw [decode_encode, decode_encode, if_pos (by omega), if_pos (by omega)] at hread
    exact Option.some.inj hread

end Tokens

end MarkerAuthority

section Signatures

open MarkerAuthority

variable [Host] {authority : MarkerAuthority} {d d' : Delivery} {m m' : DeliveryMarker}
  {issuedAt expiresAt observedAt : String}

/-- What a keyed digest is taken to be: an ASCII text that no two payloads share. -/
structure Digests (key : List UInt8) : Prop where
  ascii : ∀ payload, ∀ c ∈ (Host.hmacSha256 key payload).toList, c.toNat < 128
  injective : Function.Injective (Host.hmacSha256 key)

/-- One field of the marker is replaced by a different value. -/
inductive Altered (m : DeliveryMarker) : DeliveryMarker → Prop
  | schemaVersion {value : Int} :
      value ≠ m.schemaVersion → Altered m { m with schemaVersion := value }
  | eventId {value : String} : value ≠ m.eventId → Altered m { m with eventId := value }
  | deliveryId {value : String} : value ≠ m.deliveryId → Altered m { m with deliveryId := value }
  | attemptId {value : String} : value ≠ m.attemptId → Altered m { m with attemptId := value }
  | bindingId {value : String} : value ≠ m.bindingId → Altered m { m with bindingId := value }
  | authorityScope {value : String} : value ≠ m.authorityScope →
      Altered m { m with authorityScope := value }
  | issuedAt {value : String} : value ≠ m.issuedAt → Altered m { m with issuedAt := value }
  | expiresAt {value : String} : value ≠ m.expiresAt → Altered m { m with expiresAt := value }
  | signature {value : String} : value ≠ m.signature → Altered m { m with signature := value }

/-- What a minted marker says of its delivery and its window. -/
structure Minted (authority : MarkerAuthority) (d : Delivery) (issuedAt expiresAt : String)
    (m : DeliveryMarker) : Prop where
  fields : FieldsMatch m d
  times : m.issuedAt = issuedAt ∧ m.expiresAt = expiresAt
  signed : m.signature = authority.sign m
  window : ∃ issued expires, parseTimestamp issuedAt = .ok issued ∧
    parseTimestamp expiresAt = .ok expires ∧ issued < expires ∧
    expires - issued ≤ authority.maxLifetime

theorem minted_of_mint (h : authority.mint d issuedAt expiresAt = .ok m) :
    Minted authority d issuedAt expiresAt m := by
  unfold mint at h
  split at h
  · cases h
  rename_i bindingId hbound
  cases hexpires : parseTimestamp expiresAt with
  | error e =>
    rw [hexpires] at h
    cases h
  | ok expires =>
    cases hissued : parseTimestamp issuedAt with
    | error e =>
      rw [hexpires, hissued] at h
      cases h
    | ok issued =>
      simp only [hexpires, hissued, bind, Except.bind] at h
      split at h
      · cases h
      rename_i hpositive
      split at h
      · cases h
      rename_i hlifetime
      cases h
      exact ⟨⟨rfl, rfl, rfl, rfl, hbound.symm, rfl⟩, ⟨rfl, rfl⟩, rfl, issued, expires, hissued,
        hexpires, by omega, by omega⟩

omit [Host] in
/-- The payload text tells the payload. -/
theorem signPayload_of_dumps (h : dumps (signPayload m) = dumps (signPayload m')) :
    signPayload m = signPayload m' := by
  have hsort : ∀ m, sortKeys (signPayload m) = signPayload m := by
    intro m
    refine sortKeys_obj_of_sorted ?_ ?_
    · simp
    · simp [sortKeys]
  have hreadable : ∀ m, Readable (signPayload m) := by
    intro m
    simp [signPayload, Readable, ReadableFields]
  have hpayload := sortKeys_of_dumps (hreadable m) (hreadable m') h
  rwa [hsort, hsort] at hpayload

/-- The signature covers every field but itself. -/
theorem signPayload_of_sign (hdigest : Digests authority.signingKey)
    (h : authority.sign m = authority.sign m') : signPayload m = signPayload m' :=
  signPayload_of_dumps (hdigest.injective h)

omit [Host] in
theorem signed_of_signPayload (h : signPayload m = signPayload m') :
    m.attemptId = m'.attemptId ∧ m.authorityScope = m'.authorityScope ∧
      m.bindingId = m'.bindingId ∧ m.deliveryId = m'.deliveryId ∧ m.eventId = m'.eventId ∧
      m.expiresAt = m'.expiresAt ∧ m.issuedAt = m'.issuedAt ∧
      m.schemaVersion = m'.schemaVersion := by
  simp only [signPayload, Json.obj.injEq, List.cons.injEq, Prod.mk.injEq, Json.str.injEq,
    Json.int.injEq, true_and, and_true] at h
  exact h

theorem times_of_sign (hdigest : Digests authority.signingKey)
    (h : authority.sign m = authority.sign m') :
    m.issuedAt = m'.issuedAt ∧ m.expiresAt = m'.expiresAt := by
  obtain ⟨-, -, -, -, -, hexpires, hissued, -⟩ :=
    signed_of_signPayload (signPayload_of_sign hdigest h)
  exact ⟨hissued, hexpires⟩

theorem compareDigest_self (hdigest : Digests authority.signingKey) :
    compareDigest (authority.sign m) (authority.sign m) = .ok true := by
  have hascii : (authority.sign m).toList.all fun c => c.toNat < 128 := by
    rw [List.all_eq_true]
    intro c hc
    exact decide_eq_true (hdigest.ascii _ c hc)
  unfold compareDigest
  rw [if_pos ⟨hascii, hascii⟩]
  simp

/-- What `validate` accepts of a marker that it has minted. -/
theorem validate_minted (hdigest : Digests authority.signingKey)
    (hminted : Minted authority d issuedAt expiresAt m) {observed : Int}
    (hobserved : parseTimestamp observedAt = .ok observed) :
    authority.validate (.typed m) d' observedAt = .ok none ↔ FieldsMatch m d' ∧
      ∃ issued expires, parseTimestamp issuedAt = .ok issued ∧
        parseTimestamp expiresAt = .ok expires ∧ issued ≤ observed ∧ observed < expires := by
  constructor
  · intro h
    obtain ⟨_, heq, hvalid⟩ := markerValid_of_validate h
    cases heq
    obtain ⟨issued, expires, observed', hissued, hexpires, hobserved', -, hfrom, hto⟩ :=
      hvalid.window
    rw [hminted.times.1] at hissued
    rw [hminted.times.2] at hexpires
    cases hobserved.symm.trans hobserved'
    exact ⟨hvalid.fields, issued, expires, hissued, hexpires, hfrom, hto⟩
  · rintro ⟨hfields, issued, expires, hissued, hexpires, hfrom, hto⟩
    obtain ⟨issued', expires', hissued', hexpires', hpositive, hlifetime⟩ := hminted.window
    cases hissued.symm.trans hissued'
    cases hexpires.symm.trans hexpires'
    unfold validate
    dsimp only
    rw [if_neg (not_not.mpr hfields), hminted.signed, compareDigest_self hdigest, hminted.times.1,
      hminted.times.2, hissued, hexpires, hobserved]
    dsimp only
    rw [if_neg (by omega), if_neg (by omega)]

/-- A marker with one other field is not valid for the delivery of the original. -/
theorem not_valid_altered (hdigest : Digests authority.signingKey)
    (hminted : Minted authority d issuedAt expiresAt m) (h : Altered m m') :
    ¬ MarkerValid authority m' d observedAt := by
  intro hvalid
  obtain ⟨hschema, hevent, hdelivery, hattempt, hbinding, hscope⟩ := hminted.fields
  obtain ⟨hschema', hevent', hdelivery', hattempt', hbinding', hscope'⟩ := hvalid.fields
  have hsigned := hvalid.signed
  cases h with
  | schemaVersion hne => exact hne (hschema'.trans hschema.symm)
  | eventId hne => exact hne (hevent'.trans hevent.symm)
  | deliveryId hne => exact hne (hdelivery'.trans hdelivery.symm)
  | attemptId hne => exact hne (hattempt'.trans hattempt.symm)
  | bindingId hne => exact hne (Option.some.inj (hbinding'.trans hbinding.symm))
  | authorityScope hne => exact hne (hscope'.trans hscope.symm)
  | issuedAt hne => exact hne (times_of_sign hdigest (hsigned.symm.trans hminted.signed)).1
  | expiresAt hne => exact hne (times_of_sign hdigest (hsigned.symm.trans hminted.signed)).2
  | signature hne => exact hne (hsigned.trans hminted.signed.symm)

end Signatures

/-- A minted marker is valid for the four ids of its delivery within its window and for nothing
else, and no field of it can be replaced. -/
theorem mint_validate_agree [Host] (authority : MarkerAuthority)
    (hdigest : Digests authority.signingKey) (d : Delivery) (issuedAt expiresAt : String)
    (m : DeliveryMarker) (hmint : authority.mint d issuedAt expiresAt = .ok m) :
    (∀ d' observedAt observed, parseTimestamp observedAt = .ok observed →
      (authority.validate (.typed m) d' observedAt = .ok none ↔
        (d'.eventId = d.eventId ∧ d'.deliveryId = d.deliveryId ∧ d'.attemptId = d.attemptId ∧
          d'.bindingId = d.bindingId) ∧
        ∃ issued expires, parseTimestamp issuedAt = .ok issued ∧
          parseTimestamp expiresAt = .ok expires ∧ issued ≤ observed ∧ observed < expires)) ∧
    ∀ m', Altered m m' → ∀ observedAt, authority.validate (.typed m') d observedAt ≠ .ok none := by
  have hminted := minted_of_mint hmint
  constructor
  · intro d' observedAt observed hobserved
    rw [validate_minted hdigest hminted hobserved]
    obtain ⟨hschema, hevent, hdelivery, hattempt, hbinding, hscope⟩ := hminted.fields
    have hfields : MarkerAuthority.FieldsMatch m d' ↔ d'.eventId = d.eventId ∧
        d'.deliveryId = d.deliveryId ∧ d'.attemptId = d.attemptId ∧ d'.bindingId = d.bindingId := by
      simp [MarkerAuthority.FieldsMatch, hschema, hevent, hdelivery, hattempt, hbinding, hscope,
        eq_comm]
    rw [hfields]
  · intro m' haltered observedAt h
    obtain ⟨_, heq, hvalid⟩ := markerValid_of_validate h
    cases heq
    exact not_valid_altered hdigest hminted haltered hvalid

/-- A chain and the signed fields of a marker can be told from the texts that stand for them: the
one is compared, and the other signed. -/
theorem canonical_texts_injective :
    (∀ a b : List SourceEventRef, sourceChainJson a = sourceChainJson b → a = b) ∧
    ∀ m m' : DeliveryMarker,
      dumps (MarkerAuthority.signPayload m) = dumps (MarkerAuthority.signPayload m') →
        m.attemptId = m'.attemptId ∧ m.authorityScope = m'.authorityScope ∧
          m.bindingId = m'.bindingId ∧ m.deliveryId = m'.deliveryId ∧ m.eventId = m'.eventId ∧
          m.expiresAt = m'.expiresAt ∧ m.issuedAt = m'.issuedAt ∧
          m.schemaVersion = m'.schemaVersion :=
  ⟨fun _ _ h => sourceChainJson_injective h,
    fun _ _ h => signed_of_signPayload (signPayload_of_dumps h)⟩

/-- An event without a session. -/
def sessionless : SourceEventRef :=
  ⟨"cmux-1", "boot-1", 1, "event-1", "agent.hook.Stop", none, none, none⟩

/-- No session, a session `null` and one with quotes in its name have different texts. -/
theorem canonical_texts_injective_sample :
    sourceChainJson [sessionless] ≠
        sourceChainJson [{ sessionless with sessionId := some "null" }] ∧
      sourceChainJson [sessionless, sessionless] ≠
        sourceChainJson [{ sessionless with sessionId := some "a\",\"b" }] ∧
      sampleMarker.eventId = { sampleMarker with signature := "" }.eventId := by
  obtain ⟨hchain, hsigned⟩ := canonical_texts_injective
  refine ⟨?_, ?_, (hsigned sampleMarker { sampleMarker with signature := "" } rfl).2.2.2.2.1⟩
  · intro h
    exact absurd (hchain _ _ h) (by decide)
  · intro h
    exact absurd (hchain _ _ h) (by decide)

/-- The digest of the sample marker, and for other payloads a text that quotes the payload. -/
@[reducible] def quotingHost : Host :=
  { sampleHost with
    hmacSha256 := fun _ payload =>
      if payload = dumps (MarkerAuthority.signPayload sampleMarker) then sampleMarker.signature
      else String.ofList (renderString payload) }

theorem digests_quotingHost (key : List UInt8) : @Digests quotingHost key := by
  have hdigest : ∀ payload, @Host.hmacSha256 quotingHost key payload =
      if payload = dumps (MarkerAuthority.signPayload sampleMarker) then sampleMarker.signature
      else String.ofList (renderString payload) := fun _ => rfl
  have hquote : ∀ payload, String.ofList (renderString payload) ≠ sampleMarker.signature := by
    intro payload heq
    have hhead := congrArg (fun s => s.toList.head?) heq
    rw [String.toList_ofList] at hhead
    change some '"' = some 'f' at hhead
    cases hhead
  have hscan : ∀ s, scanString (renderString s).tail = some (s.toList, []) := by
    intro s
    have hs := scanString_renderString s []
    simpa [renderString] using hs
  refine @Digests.mk quotingHost key ?_ ?_
  · intro payload c hc
    rw [hdigest] at hc
    split at hc
    · have hdigits : sampleMarker.signature.toList.all fun c => c.toNat < 0x80 := by decide
      exact of_decide_eq_true (List.all_eq_true.mp hdigits c hc)
    · rw [String.toList_ofList] at hc
      exact (isAscii_renderString payload c hc).2
  · intro a b hab
    rw [hdigest, hdigest] at hab
    split at hab
    · rename_i ha
      split at hab
      · rename_i hb
        exact ha.trans hb.symm
      · exact absurd hab.symm (hquote b)
    · split at hab
      · exact absurd hab (hquote a)
      · have hread := congrArg (scanString ∘ List.tail) (String.ofList_injective hab)
        simp only [Function.comp, hscan, Option.some.injEq, Prod.mk.injEq, and_true] at hread
        exact String.toList_injective hread

theorem mint_sampleMarker : @MarkerAuthority.mint quotingHost sampleAuthority sampleDelivery
    "2026-01-01T00:00:00Z" "2026-01-01T01:00:00Z" = .ok sampleMarker := by
  have hexpires : @parseTimestamp quotingHost "2026-01-01T01:00:00Z" = .ok 1767229200000000 := by
    decide +kernel
  have hissued : @parseTimestamp quotingHost "2026-01-01T00:00:00Z" = .ok 1767225600000000 := by
    decide +kernel
  have hsign : ∀ m, MarkerAuthority.signPayload m = MarkerAuthority.signPayload sampleMarker →
      @MarkerAuthority.sign quotingHost sampleAuthority m = sampleMarker.signature := by
    intro m hpayload
    exact if_pos (congrArg dumps hpayload)
  unfold MarkerAuthority.mint
  simp only [sampleDelivery, hexpires, hissued, bind, Except.bind]
  rw [if_neg (by decide), if_neg (by decide)]
  exact congrArg (fun s => Except.ok { sampleMarker with signature := s }) (hsign _ rfl)

/-- The sample marker is valid half an hour after it was issued, and no altered one ever is. -/
theorem mint_validate_agree_sample :
    @MarkerAuthority.validate quotingHost sampleAuthority (.typed sampleMarker) sampleDelivery
      "2026-01-01T00:30:00Z" = .ok none ∧
    ∀ m', Altered sampleMarker m' → ∀ observedAt, @MarkerAuthority.validate quotingHost
      sampleAuthority (.typed m') sampleDelivery observedAt ≠ .ok none := by
  obtain ⟨hvalid, haltered⟩ := @mint_validate_agree quotingHost sampleAuthority
    (digests_quotingHost _) sampleDelivery "2026-01-01T00:00:00Z" "2026-01-01T01:00:00Z"
    sampleMarker mint_sampleMarker
  refine ⟨?_, haltered⟩
  refine (hvalid sampleDelivery "2026-01-01T00:30:00Z" 1767227400000000 (by decide +kernel)).mpr ?_
  exact ⟨⟨rfl, rfl, rfl, rfl⟩, 1767225600000000, 1767229200000000, by decide +kernel,
    by decide +kernel, by decide, by decide⟩

end Yatagarasu
