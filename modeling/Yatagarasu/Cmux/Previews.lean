import Mathlib.Tactic.IntervalCases
import Yatagarasu.Cmux.Acceptance
import Yatagarasu.Cmux.Deliver
import Yatagarasu.Cmux.Extraction

/-! The host shows a prompt as a preview, cut after some characters. The marker stands early enough
to survive the cut, the projection and the translation. -/

namespace Yatagarasu.Cmux

open Encodings PyJson MarkerAuthority

section Injected

variable {m : DeliveryMarker} {encoded : String} {cs : List Char}

theorem nibble_digest {c : Char} (h : ('0' ≤ c ∧ c ≤ '9') ∨ ('a' ≤ c ∧ c ≤ 'f')) :
    ∃ n < 16, nibble c = some n ∧ Nat.digitChar n = c := by
  have hrange : (48 ≤ c.toNat ∧ c.toNat ≤ 57) ∨ (97 ≤ c.toNat ∧ c.toNat ≤ 102) := by
    simpa [Char.le_def, UInt32.le_iff_toNat_le] using h
  have hc := Char.ofNat_toNat c
  generalize c.toNat = n at hrange hc
  subst hc
  rcases hrange with ⟨hlow, hhigh⟩ | ⟨hlow, hhigh⟩
  · interval_cases n <;> exact ⟨_, by decide, rfl, rfl⟩
  · interval_cases n <;> exact ⟨_, by decide, rfl, rfl⟩

/-- Lowercase hex digits are written back as they are. -/
theorem hex_unhex : ∀ cs : List Char, (∀ c ∈ cs, ('0' ≤ c ∧ c ≤ '9') ∨ ('a' ≤ c ∧ c ≤ 'f')) →
    cs.length % 2 = 0 → ∃ bytes, unhex cs = some bytes ∧ hex bytes = cs ∧
      2 * bytes.length = cs.length
  | [], _, _ => ⟨[], rfl, rfl, rfl⟩
  | [_], _, heven => by simp at heven
  | a :: b :: rest, h, heven => by
    obtain ⟨high, hhigh, hnibble, hdigit⟩ := nibble_digest (h a (by simp))
    obtain ⟨low, hlow, hnibble', hdigit'⟩ := nibble_digest (h b (by simp))
    have heven : rest.length % 2 = 0 := by
      simp only [List.length_cons] at heven
      omega
    obtain ⟨bytes, hbytes, hhex, hlength⟩ := hex_unhex rest (fun c hc => h c (by simp [hc])) heven
    have hbyte : (UInt8.ofNat (high * 16 + low)).toNat = high * 16 + low := by
      rw [UInt8.toNat_ofNat']
      omega
    have hdiv : (high * 16 + low) / 16 = high := by omega
    have hmod : (high * 16 + low) % 16 = low := by omega
    refine ⟨UInt8.ofNat (high * 16 + low) :: bytes, ?_, ?_, ?_⟩
    · rw [unhex, hnibble, hnibble', hbytes]
    · change Nat.digitChar _ :: Nat.digitChar _ :: hex bytes = _
      rw [hbyte, hdiv, hmod, hdigit, hdigit', hhex]
    · simp only [List.length_cons]
      omega

/-- A marker that has a short form is found in it, with its own ids and signature. -/
theorem encodeShort_form (h : encodeShort m = .ok encoded) : ∃ groups,
    encoded.toList = shortText groups ∧ ShortForm groups ∧
      canonicalShort groups = some ⟨m.deliveryId, m.bindingId, m.signature⟩ := by
  unfold encodeShort at h
  by_cases hdelivery : isToken m.deliveryId
  swap
  · rw [if_pos hdelivery] at h
    cases h
  rw [if_neg (not_not.mpr hdelivery)] at h
  by_cases hbinding : isToken m.bindingId
  swap
  · rw [if_pos hbinding] at h
    cases h
  rw [if_neg (not_not.mpr hbinding)] at h
  by_cases hdigest : isDigest m.signature
  swap
  · rw [if_pos hdigest] at h
    cases h
  rw [if_neg (not_not.mpr hdigest)] at h
  obtain ⟨bytes, hbytes, hhex, hlength⟩ := hex_unhex m.signature.toList hdigest.2
    (by rw [String.length_toList, hdigest.1])
  rw [String.length_toList, hdigest.1] at hlength
  have hsize : bytes.length = 32 := by omega
  have htext : encoded = String.ofList (shortPrefix ++ m.deliveryId.toList ++
      '.' :: m.bindingId.toList ++ '.' :: encode64 bytes) := by
    simp only [ShortMarker.text, hbytes, pure, Except.pure, bind, Except.bind] at h
    split at h
    · cases h
    · cases h
      rfl
  refine ⟨(m.deliveryId.toList, m.bindingId.toList, encode64 bytes), ?_, ⟨⟨hdelivery.1, ?_⟩,
    ⟨hbinding.1, ?_⟩, ?_, ?_⟩, ?_⟩
  · rw [htext, String.toList_ofList]
    rfl
  · rw [String.length_toList]
    exact hdelivery.2
  · rw [String.length_toList]
    exact hbinding.2
  · exact fun c hc => tokenChar_alphabet c (encode64_mem hc)
  · rw [length_encode64, hsize]
  · unfold canonicalShort
    simp [decode64_encode64, hsize, hhex]

/-- What the host shows of a text: all of it, or its first characters, and perhaps an ellipsis. -/
inductive Preview (text : String) : String → Prop
  | whole : Preview text text
  | cut (n : Nat) (ellipsis : String) : 187 ≤ n → ellipsis ∈ ["", "…", "..."] →
      Preview text (String.ofList (text.toList.take n) ++ ellipsis)

theorem shortText_length {groups : List Char × List Char × List Char} (h : ShortForm groups) :
    (shortText groups).length ≤ 179 := by
  have hdelivery := h.delivery.size
  have hbinding := h.binding.size
  have hsignature := h.signature.2
  have hstarts : shortPrefix.length = 6 := rfl
  simp only [shortText, List.length_append, List.length_cons]
  omega

/-- Every profile puts the marker where the first match is found. -/
theorem searchShort_profile (kind : HarnessKind) (cs : List Char) :
    searchShort ((profiles kind).textPrefix.toList ++ cs) = searchShort cs := by
  have hqueue : searchShort ("/queue ".toList ++ cs) = searchShort cs := by
    simp [searchShort_skip]
  cases kind with
  | claudeCode => rfl
  | codex => rfl
  | hermes => exact hqueue

/-- A preview shows the whole marker and a space after it. -/
theorem preview_split {text preview : String} {before body : List Char}
    (htext : text.toList = before ++ ' ' :: body) (hsize : before.length ≤ 186)
    (h : Preview text preview) : ∃ rest, preview.toList = before ++ ' ' :: rest := by
  cases h with
  | whole => exact ⟨body, htext⟩
  | cut n ellipsis hn _ =>
    obtain ⟨k, hk⟩ : ∃ k, n - before.length = k + 1 := ⟨n - before.length - 1, by omega⟩
    refine ⟨body.take k ++ ellipsis.toList, ?_⟩
    rw [String.toList_append, String.toList_ofList, htext, List.take_append,
      List.take_of_length_le (by omega), hk, List.take_succ_cons]
    simp

theorem envelope_text [PyText] {call : DeliverCall} {profile : HarnessProfile} {text : String}
    (h : call.envelope m = .ok (profile, text)) : ∃ kind encoded, encodeShort m = .ok encoded ∧
      text = (profiles kind).textPrefix ++ (encoded ++ " " ++ call.body) := by
  unfold DeliverCall.envelope profileFor at h
  cases hkind : HarnessKind.ofValue call.harness with
  | none =>
    rw [hkind] at h
    cases h
  | some kind =>
    cases hencoded : encodeShort m with
    | error e =>
      rw [hkind, hencoded] at h
      cases h
    | ok encoded =>
      simp only [hkind, hencoded, HarnessProfile.render, bind, Except.bind] at h
      split at h
      · cases h
      · rename_i heq
        cases h
        split at heq
        · cases heq
        · cases heq
          exact ⟨kind, encoded, rfl, rfl⟩

/-- What is extracted from a preview of the injected text is the injected marker. -/
theorem extract_preview [PyText] {call : DeliverCall} {profile : HarnessProfile}
    {text preview : String} (h : call.envelope m = .ok (profile, text))
    (hpreview : Preview text preview) :
    extract preview = some (.short ⟨m.deliveryId, m.bindingId, m.signature⟩) := by
  obtain ⟨kind, encoded, hencoded, hrendered⟩ := envelope_text h
  obtain ⟨groups, hgroups, hform, hcanonical⟩ := encodeShort_form hencoded
  have htext : text.toList = ((profiles kind).textPrefix.toList ++ shortText groups) ++
      ' ' :: call.body.toList := by
    rw [hrendered]
    simp [hgroups]
  have hsize : ((profiles kind).textPrefix.toList ++ shortText groups).length ≤ 186 := by
    have hshort := shortText_length hform
    have hstarts : (profiles kind).textPrefix.toList.length ≤ 7 := by
      cases kind <;> decide
    rw [List.length_append]
    omega
  obtain ⟨rest, hrest⟩ := preview_split htext hsize hpreview
  have hmatch : matchShort (shortText groups ++ ' ' :: rest) = some groups :=
    matchShort_iff.mpr ⟨hform, _, rfl, by simp [EndsToken, tokenChar]⟩
  have hsearch : searchShort preview.toList = some groups := by
    rw [hrest, List.append_assoc, searchShort_profile]
    change (matchShort (shortText groups ++ ' ' :: rest)).or _ = some groups
    rw [hmatch, Option.some_or]
  unfold extract
  rw [hsearch, Option.bind_some, hcanonical]

end Injected

section Observed

variable [Host] {m : DeliveryMarker} {frame payload : Dict} {boot preview : String}

/-- A frame of a submitted prompt that the projector and the producer accept. -/
structure PromptFrame (frame payload : Dict) (boot preview : String) : Prop where
  decoded : Decoded frame
  supported : eqStr (frame.lookup "type") "event" ∧ eqStr (frame.lookup "protocol") protocol ∧
    eqInt (frame.lookup "version") protocolVersion
  boot : eqStr (frame.lookup "boot_id") boot
  identity : ∃ seq eventId, frame.lookup "seq" = some (.int seq) ∧
    frame.lookup "id" = some (.str eventId) ∧ 0 ≤ seq ∧ eventId ≠ ""
  name : frame.lookup "name" = some (.str promptSubmitted)
  stamped : Stamped frame
  carries : frame.lookup "payload" = some (.obj payload)
  shows : payload.lookup "message_preview" = some (.str preview)

omit [Host] in
/-- A field of the kept payload is read back. -/
theorem lookup_storedPayload {fields : Dict} (h : Kept fields) {key : String} {value : Json}
    (hfield : (key, value) ∈ fields) :
    (storedPayload fields).lookup key = some (sortKeys value) := by
  have hperm := List.mergeSort_perm (sortFields fields) fun a b => decide (a.1 ≤ b.1)
  apply lookup_of_mem
  · unfold storedPayload
    rw [(hperm.map Prod.fst).nodup_iff, keys_sortFields]
    exact h.readable.1
  · unfold storedPayload
    rw [hperm.mem_iff, sortFields_eq_map]
    exact List.mem_map.mpr ⟨_, hfield, rfl⟩

/-- The marker of a preview is projected, and both consumers read it back. -/
theorem observed_preview (source : String) (h : PromptFrame frame payload boot preview)
    {short : ShortMarker} (hextract : extract preview = some (.short short)) :
    ∃ event obs, project source frame boot = .ok event ∧ translateDerivedEvent event = .ok obs ∧
      obs.sourceEvent.bindingId = some short.bindingId ∧
      obs.sourceEvent.markerSignature = some short.signature ∧
      previewMarker obs.payload = .ok (some (.short short)) := by
  obtain ⟨text, htext, hagain⟩ := extract_text_short hextract
  obtain ⟨seq, eventId, hseq, hid, hnonneg, hfilled⟩ := h.identity
  have hsafe : safePayload (frame.lookup "payload") =
      .ok (safeFields payload ++ [("message_preview", .str text)]) := by
    rw [h.carries]
    simp only [safePayload, h.shows, hextract, htext]
    rfl
  obtain ⟨event, hproject, hname⟩ : ∃ event, project source frame boot = .ok event ∧
      event.eventName = promptSubmitted := by
    unfold project
    rw [if_neg (not_not.mpr h.supported), if_neg (not_not.mpr h.boot), hseq, hid, h.name]
    dsimp only
    rw [if_neg (by simp [hnonneg, hfilled, promptSubmitted]), hsafe]
    exact ⟨_, rfl, rfl⟩
  have htranslate := translate_form h.decoded hproject hsafe
  obtain ⟨observedAt, hobserved⟩ := Option.ne_none_iff_exists'.mp (stamped_iff.mp h.stamped)
  rw [hobserved] at htranslate
  obtain ⟨document, hdocument⟩ := h.decoded
  have hread : Readable (.obj payload) :=
    readable_of_lookup (readable_of_loads hdocument) h.carries
  have hkept : Kept (safeFields payload ++ [("message_preview", .str text)]) :=
    kept_preview text (kept_filter hread) (preview_not_safe payload)
  have hstored := lookup_storedPayload hkept (List.mem_append_right _ (List.mem_singleton_self _))
  have hmarker : observedMarker event.eventName
      (storedPayload (safeFields payload ++ [("message_preview", .str text)])) =
        some (.short short) := by
    rw [observedMarker, if_pos hname, hstored]
    exact hagain
  refine ⟨event, _, hproject, htranslate, ?_, ?_, ?_⟩
  · simp only [observation, hmarker]
    rfl
  · simp only [observation, hmarker]
    rfl
  · simp only [observation, previewMarker, hstored]
    exact congrArg Except.ok hagain

end Observed

/-- Whatever the body says, and wherever the host cuts the preview, the injected marker reaches the
receipt plane. -/
theorem injected_marker_survives [Host] [PyText] (authority : MarkerAuthority) (call : DeliverCall)
    (m : DeliveryMarker) (hmint : authority.mint call.delivery call.issuedAt call.expiresAt = .ok m)
    (profile : HarnessProfile) (text : String) (henvelope : call.envelope m = .ok (profile, text))
    (preview : String) (hpreview : Preview text preview) (source boot : String)
    (frame payload : Dict) (hframe : PromptFrame frame payload boot preview) :
    ∃ event obs, project source frame boot = .ok event ∧ translateDerivedEvent event = .ok obs ∧
      obs.sourceEvent.bindingId = some m.bindingId ∧
      obs.sourceEvent.markerSignature = some m.signature ∧
      ∃ marker, previewMarker obs.payload = .ok (some marker) ∧
        marker.deliveryId = m.deliveryId ∧ m.deliveryId = call.delivery.deliveryId := by
  obtain ⟨event, obs, hproject, htranslate, hbinding, hsignature, hmarker⟩ :=
    observed_preview source hframe (extract_preview henvelope hpreview)
  obtain ⟨-, -, hdelivery, -⟩ := (minted_of_mint hmint).fields
  exact ⟨event, obs, hproject, htranslate, hbinding, hsignature, _, hmarker, rfl, hdelivery⟩

def promptPayload (preview : String) : Dict := [("message_preview", .str preview)]

def promptFrame (preview : String) : Dict :=
  [("type", .str "event"), ("protocol", .str protocol), ("version", .int 1),
    ("boot_id", .str "boot-1"), ("seq", .int 1), ("id", .str "e-1"),
    ("name", .str promptSubmitted), ("occurred_at", .str "2026-01-01T00:30:00Z"),
    ("payload", .obj (promptPayload preview))]

theorem promptFrame_accepted [Host] (preview : String) :
    PromptFrame (promptFrame preview) (promptPayload preview) "boot-1" preview where
  decoded := by
    refine ⟨_, loads_render (j := .obj (promptFrame preview)) ⟨by simp [promptFrame], ?_⟩⟩
    simp [promptFrame, promptPayload, Readable, ReadableFields]
  supported := by simp [promptFrame, List.lookup_cons, eqStr, eqInt, protocolVersion]
  boot := by simp [promptFrame, List.lookup_cons, eqStr]
  identity := ⟨1, "e-1", by simp [promptFrame, List.lookup_cons],
    by simp [promptFrame, List.lookup_cons], by decide, by decide⟩
  name := by simp [promptFrame, List.lookup_cons]
  stamped := ⟨"2026-01-01T00:30:00Z", by simp [promptFrame, List.lookup_cons], by decide⟩
  carries := by simp [promptFrame, List.lookup_cons]
  shows := by simp [promptPayload]

/-- A call whose body quotes the marker of another delivery. -/
def quotingCall : DeliverCall :=
  { sampleCall with
    harness := "hermes"
    body := "compare " ++ secondToken ++ " with what you see here and say in a few words what changed" }

/-- Its text is longer than a preview may be cut, and what is left still has the quoted marker. -/
theorem envelope_quotingCall : ∃ m profile text,
    @MarkerAuthority.mint sampleHost sampleAuthority quotingCall.delivery quotingCall.issuedAt
      quotingCall.expiresAt = .ok m ∧
    @DeliverCall.envelope sampleText quotingCall m = .ok (profile, text) ∧ 187 < text.length ∧
      secondToken.toList <:+: text.toList.take 187 := by
  have hready : (match @MarkerAuthority.mint sampleHost sampleAuthority quotingCall.delivery
      quotingCall.issuedAt quotingCall.expiresAt with
    | .ok marker =>
      match @DeliverCall.envelope sampleText quotingCall marker with
      | .ok pair =>
        decide (187 < pair.2.length ∧ secondToken.toList <:+: pair.2.toList.take 187)
      | .error _ => false
    | .error _ => false) = true := by decide +kernel
  split at hready
  · rename_i m hmint
    split at hready
    · rename_i pair henvelope
      obtain ⟨hlong, hquoted⟩ := of_decide_eq_true hready
      exact ⟨m, pair.1, pair.2, hmint, henvelope, hlong, hquoted⟩
    · cases hready
  · cases hready

/-- The preview is cut after the quoted marker, and the injected one is read from it. -/
theorem injected_marker_survives_sample : ∃ m event obs, ∃ text preview : String,
    @MarkerAuthority.mint sampleHost sampleAuthority quotingCall.delivery quotingCall.issuedAt
      quotingCall.expiresAt = .ok m ∧
    preview = String.ofList (text.toList.take 187) ++ "…" ∧ 187 < text.length ∧
      secondToken.toList <:+: text.toList.take 187 ∧
    @project sampleHost "cmux-1" (promptFrame preview) "boot-1" = .ok event ∧
    @translateDerivedEvent sampleHost event = .ok obs ∧
      obs.sourceEvent.bindingId = some m.bindingId ∧
      obs.sourceEvent.markerSignature = some m.signature := by
  obtain ⟨m, profile, text, hmint, henvelope, hlong, hquoted⟩ := envelope_quotingCall
  obtain ⟨event, obs, hproject, htranslate, hbinding, hsignature, -⟩ :=
    @injected_marker_survives sampleHost sampleText sampleAuthority quotingCall m hmint profile text
      henvelope _ (.cut 187 "…" (by decide) (by decide)) "cmux-1" "boot-1" _ _
      (@promptFrame_accepted sampleHost _)
  exact ⟨m, event, obs, text, _, hmint, rfl, hlong, hquoted, hproject, htranslate, hbinding,
    hsignature⟩

end Yatagarasu.Cmux
