import Mathlib.Data.List.Nodup
import Yatagarasu.Cmux.Notifications

/-! What every state of the table and of CMUX satisfies, whatever the calls, the lost replies, the
crashes and the user's own dismissals. -/

namespace Yatagarasu.Cmux

open NotificationDesk World

/-- The banner is at the place of the row, under its subtitle. -/
def NotificationRow.Matches (row : NotificationRow) (banner : Banner) : Prop :=
  banner.workspaceId = row.workspaceId ∧ banner.surfaceId = row.surfaceId ∧
    banner.subtitle = row.subtitle

section Listing

variable {row : NotificationRow} {banner : Banner} {banners : List Banner}

theorem matchesItem_item : row.matchesItem banner.item = true ↔ row.Matches banner := by
  simp [NotificationRow.matchesItem, Banner.item, List.lookup_cons, eqStr,
    NotificationRow.Matches, and_assoc]

theorem itemId_item (banner : Banner) : itemId banner.item = some banner.id := by
  simp [itemId, Banner.item]

theorem eqStr_item {id : String} :
    eqStr (banner.item.lookup "id") id = true ↔ banner.id = id := by
  simp [Banner.item, eqStr]

theorem listedItems_listing (banners : List Banner) :
    listedItems (listing banners) = some (banners.map fun banner => .obj banner.item) := by
  simp [listing, listedItems]

theorem mem_dictItems {item : Dict} {items : List PyJson.Json} (h : .obj item ∈ items) :
    item ∈ dictItems items :=
  List.mem_filterMap.mpr ⟨_, h, rfl⟩

end Listing

variable [NotificationHost]

/-- The row was prepared for the claim. -/
structure NotificationRow.IsFor (row : NotificationRow) (claim : NotificationClaim) : Prop where
  deliveryId : row.deliveryId = claim.deliveryId
  token : row.correlationToken = claim.token
  subtitle : row.subtitle = claim.displaySubtitle

/-- The token ends the subtitle of the banner. -/
def Banner.Carries (banner : Banner) (token : String) : Prop :=
  token.toList <:+ banner.subtitle.toList

instance (banner : Banner) (token : String) : Decidable (banner.Carries token) :=
  inferInstanceAs (Decidable (_ <:+ _))

/-- Claims for distinct deliveries have distinct tokens. -/
def Distinct (claims : NotificationClaim → Prop) : Prop :=
  ∀ claim claim', claims claim → claims claim' → claim.token = claim'.token →
    claim.deliveryId = claim'.deliveryId

section Tokens

variable {claim claim' : NotificationClaim}

theorem length_token (claim : NotificationClaim) : claim.token.toList.length = 20 := by
  have hlength := NotificationHost.sha256Hex_length (claim.eventId ++ "\x00" ++ claim.deliveryId)
  rw [← String.length_toList] at hlength
  simp [NotificationClaim.token, String.toList_append, hlength]

theorem token_suffix (claim : NotificationClaim) :
    claim.token.toList <:+ claim.displaySubtitle.toList := by
  unfold NotificationClaim.displaySubtitle
  split
  · exact List.suffix_rfl
  · rw [String.toList_append]
    exact List.suffix_append _ _

/-- A subtitle ends with one token only. -/
theorem token_eq_of_suffix (h : claim.token.toList <:+ claim'.displaySubtitle.toList) :
    claim.token = claim'.token := by
  have hlength : claim.token.toList.length = claim'.token.toList.length := by
    rw [length_token, length_token]
  rw [← String.toList_inj]
  exact (List.suffix_of_suffix_length_le h (token_suffix claim') hlength.le).eq_of_length hlength

end Tokens

/-- What every state of the table and of CMUX satisfies. -/
structure NotificationDesk.Sound (claims : NotificationClaim → Prop) (desk : NotificationDesk) :
    Prop where
  claimed : ∀ row ∈ desk.rows, ∃ claim, claims claim ∧ row.IsFor claim
  keys : (desk.rows.map (·.deliveryId)).Nodup
  unrecorded : ∀ row ∈ desk.rows, row.state = .prepared → row.notificationId = none
  recorded : ∀ row ∈ desk.rows, row.state = .active →
    ∃ id, row.notificationId = some id ∧ id ≠ ""
  ids : (desk.banners.map (·.id)).Nodup
  owned : ∀ banner ∈ desk.banners, ∃ row ∈ desk.rows, row.Matches banner ∧ row.state.Live ∧
    (row.state = .active → row.notificationId = some banner.id)
  single : ∀ banner ∈ desk.banners, ∀ banner' ∈ desk.banners,
    banner.subtitle = banner'.subtitle → banner = banner'

/-- A sound state whose rows and banners satisfy more. -/
structure Standing (claims : NotificationClaim → Prop) (P : List NotificationRow → Prop)
    (B : Banner → Prop) (desk : NotificationDesk) : Prop where
  sound : desk.Sound claims
  rows : P desk.rows
  banners : ∀ banner ∈ desk.banners, B banner

section Invariant

variable {claims : NotificationClaim → Prop} {desk desk' : NotificationDesk}
  {row row' : NotificationRow} {banner : Banner} {P : List NotificationRow → Prop}
  {B : Banner → Prop}

theorem NotificationDesk.Sound.row_unique (hs : desk.Sound claims) (hrow : row ∈ desk.rows)
    (hrow' : row' ∈ desk.rows) (h : row.deliveryId = row'.deliveryId) : row = row' :=
  List.inj_on_of_nodup_map hs.keys hrow hrow' h

/-- Rows with one token are one row. -/
theorem NotificationDesk.Sound.row_of_token (hdistinct : Distinct claims)
    (hs : desk.Sound claims) (hrow : row ∈ desk.rows) (hrow' : row' ∈ desk.rows)
    (h : row.correlationToken = row'.correlationToken) : row = row' := by
  obtain ⟨claim, hclaim, hfor⟩ := hs.claimed row hrow
  obtain ⟨claim', hclaim', hfor'⟩ := hs.claimed row' hrow'
  apply hs.row_unique hrow hrow'
  rw [hfor.deliveryId, hfor'.deliveryId]
  exact hdistinct claim claim' hclaim hclaim' (hfor.token.symm.trans (h.trans hfor'.token))

theorem NotificationDesk.Sound.row_of_subtitle (hdistinct : Distinct claims)
    (hs : desk.Sound claims) (hrow : row ∈ desk.rows) (hrow' : row' ∈ desk.rows)
    (h : row.subtitle = row'.subtitle) : row = row' := by
  obtain ⟨claim, -, hfor⟩ := hs.claimed row hrow
  obtain ⟨claim', -, hfor'⟩ := hs.claimed row' hrow'
  apply hs.row_of_token hdistinct hrow hrow'
  have hsuffix := token_suffix claim
  rw [← hfor.subtitle, h, hfor'.subtitle] at hsuffix
  rw [hfor.token, hfor'.token, token_eq_of_suffix hsuffix]

/-- The owner of a banner that matches a row is the row. -/
theorem NotificationDesk.Sound.owner (hdistinct : Distinct claims) (hs : desk.Sound claims)
    (hrow : row ∈ desk.rows) (hbanner : banner ∈ desk.banners) (hmatches : row.Matches banner) :
    row.state.Live ∧ (row.state = .active → row.notificationId = some banner.id) := by
  obtain ⟨owner, howner, hmatch, hlive, hactive⟩ := hs.owned banner hbanner
  have hsame : owner = row :=
    hs.row_of_subtitle hdistinct howner hrow (hmatch.2.2.symm.trans hmatches.2.2)
  subst hsame
  exact ⟨hlive, hactive⟩

theorem sound_drift (hs : desk.Sound claims) (h : world.drifts desk desk') :
    desk'.Sound claims := by
  obtain ⟨hrows, hsub⟩ := h
  constructor
  · rw [hrows]
    exact hs.claimed
  · rw [hrows]
    exact hs.keys
  · rw [hrows]
    exact hs.unrecorded
  · rw [hrows]
    exact hs.recorded
  · exact hs.ids.sublist (hsub.map _)
  · intro banner hbanner
    rw [hrows]
    exact hs.owned banner (hsub.subset hbanner)
  · intro banner hbanner banner' hbanner'
    exact hs.single banner (hsub.subset hbanner) banner' (hsub.subset hbanner')

theorem stable_standing : world.Stable (Standing claims P B) := by
  rintro desk desk' ⟨hs, hrows, hbanners⟩ hdrift
  refine ⟨sound_drift hs hdrift, ?_, fun banner hbanner => ?_⟩
  · rw [hdrift.1]
    exact hrows
  · exact hbanners banner (hdrift.2.subset hbanner)

end Invariant

/-- A row after its retirement. -/
def NotificationRow.retired (row : NotificationRow) (reason : String) (state : NotificationState) :
    NotificationRow :=
  { row with state, retiredReason := some reason }

/-- A change that keeps the invariant and every retired row, and retires a row only as allowed. -/
structure Change (claims : NotificationClaim → Prop)
    (may : List NotificationRow → NotificationRow → NotificationRow → Prop)
    (desk desk' : NotificationDesk) : Prop where
  sound : desk'.Sound claims
  frozen : ∀ row ∈ desk.rows, ¬ row.state.Live → row ∈ desk'.rows
  charged : ∀ row ∈ desk.rows, row.state.Live → ∀ row' ∈ desk'.rows,
    row'.deliveryId = row.deliveryId → ¬ row'.state.Live → may desk.rows row row'

section Changes

variable {claims : NotificationClaim → Prop} {desk desk' : NotificationDesk}
  {may : List NotificationRow → NotificationRow → NotificationRow → Prop}
  {row : NotificationRow} {deliveryId reason id : String} {state : NotificationState}

theorem change_of_same_rows (hs : desk.Sound claims) (hs' : desk'.Sound claims)
    (hrows : desk'.rows = desk.rows) : Change claims may desk desk' := by
  refine ⟨hs', fun row hrow _ => hrows ▸ hrow, ?_⟩
  intro row hrow hlive row' hrow' hid hretired
  rw [hrows] at hrow'
  rw [hs.row_unique hrow' hrow hid] at hretired
  exact absurd hlive hretired

theorem sound_create (hdistinct : Distinct claims) (hs : desk.Sound claims)
    (hrow : row ∈ desk.rows) (hprepared : row.state = .prepared)
    (hnone : ∀ banner ∈ desk.banners, ¬ row.Matches banner)
    (hfresh : ∀ banner ∈ desk.banners, banner.id ≠ id) :
    Sound claims { desk with banners := desk.banners ++ [row.banner id] } := by
  -- an old banner with the subtitle of the row would match it
  have hother : ∀ banner ∈ desk.banners, banner.subtitle ≠ row.subtitle := by
    intro banner hbanner hsubtitle
    obtain ⟨owner, howner, hmatches, -⟩ := hs.owned banner hbanner
    have hsame : owner = row :=
      hs.row_of_subtitle hdistinct howner hrow (hmatches.2.2.symm.trans hsubtitle)
    exact hnone banner hbanner (hsame ▸ hmatches)
  refine ⟨hs.claimed, hs.keys, hs.unrecorded, hs.recorded, ?_, ?_, ?_⟩
  · rw [List.map_append, List.nodup_append]
    refine ⟨hs.ids, by simp, ?_⟩
    intro old hold new hnew heq
    obtain ⟨banner, hbanner, rfl⟩ := List.mem_map.mp hold
    simp only [List.map_cons, List.map_nil, List.mem_singleton] at hnew
    exact hfresh banner hbanner (heq.trans hnew)
  · intro banner hbanner
    rcases List.mem_append.mp hbanner with hold | hnew
    · exact hs.owned banner hold
    · rw [List.mem_singleton.mp hnew]
      refine ⟨row, hrow, ⟨rfl, rfl, rfl⟩, Or.inl hprepared, ?_⟩
      intro hactive
      cases hprepared.symm.trans hactive
  · intro banner hbanner banner' hbanner' hsubtitle
    rcases List.mem_append.mp hbanner with hold | hnew <;>
      rcases List.mem_append.mp hbanner' with hold' | hnew'
    · exact hs.single banner hold banner' hold' hsubtitle
    · rw [List.mem_singleton.mp hnew'] at hsubtitle
      exact absurd hsubtitle (hother banner hold)
    · rw [List.mem_singleton.mp hnew] at hsubtitle
      exact absurd hsubtitle.symm (hother banner' hold')
    · rw [List.mem_singleton.mp hnew, List.mem_singleton.mp hnew']

theorem sound_dismiss (hs : desk.Sound claims) :
    Sound claims { desk with banners := desk.banners.filter fun banner => banner.id ≠ id } :=
  sound_drift hs ⟨rfl, List.filter_sublist⟩

theorem change_insert (hs : desk.Sound claims) (hfresh : ¬ Refuses desk.rows row)
    (hprepared : row.state = .prepared) (hid : row.notificationId = none)
    (hclaimed : ∃ claim, claims claim ∧ row.IsFor claim) :
    Change claims may desk { desk with rows := desk.rows ++ [row] } := by
  have hnew : ∀ old ∈ desk.rows, old.deliveryId ≠ row.deliveryId := by
    intro old hold heq
    exact hfresh (Or.inl ⟨old, hold, Or.inl heq⟩)
  refine ⟨⟨?_, ?_, ?_, ?_, hs.ids, ?_, hs.single⟩, ?_, ?_⟩
  · intro row' hrow'
    rcases List.mem_append.mp hrow' with hold | hlast
    · exact hs.claimed row' hold
    · rw [List.mem_singleton.mp hlast]
      exact hclaimed
  · rw [List.map_append, List.nodup_append]
    refine ⟨hs.keys, by simp, ?_⟩
    intro old hold new hlast heq
    obtain ⟨row', hrow', rfl⟩ := List.mem_map.mp hold
    simp only [List.map_cons, List.map_nil, List.mem_singleton] at hlast
    exact hnew row' hrow' (heq.trans hlast)
  · intro row' hrow' hstate
    rcases List.mem_append.mp hrow' with hold | hlast
    · exact hs.unrecorded row' hold hstate
    · rw [List.mem_singleton.mp hlast]
      exact hid
  · intro row' hrow' hstate
    rcases List.mem_append.mp hrow' with hold | hlast
    · exact hs.recorded row' hold hstate
    · rw [List.mem_singleton.mp hlast, hprepared] at hstate
      cases hstate
  · intro banner hbanner
    obtain ⟨owner, howner, howns⟩ := hs.owned banner hbanner
    exact ⟨owner, List.mem_append_left _ howner, howns⟩
  · intro row' hrow' _
    exact List.mem_append_left _ hrow'
  · intro old hold hlive row' hrow' heq hretired
    rcases List.mem_append.mp hrow' with hsame | hlast
    · rw [hs.row_unique hsame hold heq] at hretired
      exact absurd hlive hretired
    · rw [List.mem_singleton.mp hlast] at hretired
      exact absurd (Or.inl hprepared) hretired

/-- One live row is replaced by a later version of it. -/
theorem change_replace (new : NotificationRow) {update : NotificationRow → NotificationRow}
    (hs : desk.Sound claims) (hrow : row ∈ desk.rows) (hlive : row.state.Live)
    (hnew : update row = new) (hother : ∀ old ∈ desk.rows, old ≠ row → update old = old)
    (hdelivery : new.deliveryId = row.deliveryId)
    (hfor : ∀ claim, row.IsFor claim → new.IsFor claim)
    (hunrecorded : new.state = .prepared → new.notificationId = none)
    (hrecorded : new.state = .active → ∃ id, new.notificationId = some id ∧ id ≠ "")
    (howns : ∀ banner ∈ desk.banners, row.Matches banner → new.Matches banner ∧ new.state.Live ∧
      (new.state = .active → new.notificationId = some banner.id))
    (hmay : ¬ new.state.Live → may desk.rows row new) :
    Change claims may desk { desk with rows := desk.rows.map update } := by
  have hmem : ∀ {row'}, row' ∈ desk.rows.map update →
      row' = new ∨ row' ∈ desk.rows ∧ row' ≠ row := by
    intro row' hrow'
    obtain ⟨old, hold, rfl⟩ := List.mem_map.mp hrow'
    by_cases hsame : old = row
    · exact Or.inl (hsame ▸ hnew)
    · rw [hother old hold hsame]
      exact Or.inr ⟨hold, hsame⟩
  have hkept : ∀ {old}, old ∈ desk.rows → old ≠ row → old ∈ desk.rows.map update := by
    intro old hold hne
    exact List.mem_map.mpr ⟨old, hold, hother old hold hne⟩
  refine ⟨⟨?_, ?_, ?_, ?_, hs.ids, ?_, hs.single⟩, ?_, ?_⟩
  · intro row' hrow'
    rcases hmem hrow' with rfl | ⟨hold, -⟩
    · obtain ⟨claim, hclaim, hrowFor⟩ := hs.claimed row hrow
      exact ⟨claim, hclaim, hfor claim hrowFor⟩
    · exact hs.claimed row' hold
  · have hkeys : (desk.rows.map update).map (·.deliveryId) = desk.rows.map (·.deliveryId) := by
      rw [List.map_map]
      apply List.map_congr_left
      intro old hold
      by_cases hsame : old = row
      · subst hsame
        exact (congrArg (·.deliveryId) hnew).trans hdelivery
      · exact congrArg (·.deliveryId) (hother old hold hsame)
    show ((desk.rows.map update).map (·.deliveryId)).Nodup
    rw [hkeys]
    exact hs.keys
  · intro row' hrow' hstate
    rcases hmem hrow' with rfl | ⟨hold, -⟩
    · exact hunrecorded hstate
    · exact hs.unrecorded row' hold hstate
  · intro row' hrow' hstate
    rcases hmem hrow' with rfl | ⟨hold, -⟩
    · exact hrecorded hstate
    · exact hs.recorded row' hold hstate
  · intro banner hbanner
    obtain ⟨owner, howner, hmatches, hkeeps⟩ := hs.owned banner hbanner
    by_cases hsame : owner = row
    · subst hsame
      exact ⟨new, List.mem_map.mpr ⟨owner, howner, hnew⟩, howns banner hbanner hmatches⟩
    · exact ⟨owner, hkept howner hsame, hmatches, hkeeps⟩
  · intro old hold hretired
    refine hkept hold ?_
    rintro rfl
    exact hretired hlive
  · intro old hold hstays row' hrow' heq hretired
    rcases hmem hrow' with rfl | ⟨hsame, -⟩
    · rw [hs.row_unique hold hrow (heq.symm.trans hdelivery)]
      exact hmay hretired
    · rw [hs.row_unique hsame hold heq] at hretired
      exact absurd hstays hretired

theorem change_activate (hs : desk.Sound claims) (hrow : row ∈ desk.rows)
    (hprepared : row.state = .prepared) (hid : id ≠ "")
    (honly : ∀ banner ∈ desk.banners, row.Matches banner → banner.id = id) :
    Change claims may desk
      { desk with rows := NotificationDesk.activate desk.rows row.deliveryId id } := by
  refine change_replace { row with notificationId := some id, state := .active } hs hrow
    (Or.inl hprepared) (if_pos ⟨rfl, hprepared⟩) ?_ rfl ?_ nofun ?_ ?_ ?_
  · intro old hold hne
    exact if_neg fun hsame => hne (hs.row_unique hold hrow hsame.1)
  · exact fun claim hfor => ⟨hfor.deliveryId, hfor.token, hfor.subtitle⟩
  · exact fun _ => ⟨id, rfl, hid⟩
  · intro banner hbanner hmatches
    exact ⟨hmatches, Or.inr rfl, fun _ => congrArg some (honly banner hbanner hmatches).symm⟩
  · exact fun hretired => absurd (Or.inr rfl) hretired

theorem change_retire (hs : desk.Sound claims) (hrow : row ∈ desk.rows) (hlive : row.state.Live)
    (hnone : ∀ banner ∈ desk.banners, ¬ row.Matches banner) (hstate : ¬ state.Live)
    (hmay : may desk.rows row (row.retired reason state)) :
    Change claims may desk
      { desk with rows := NotificationDesk.retire desk.rows row.deliveryId reason state } := by
  refine change_replace (row.retired reason state) hs hrow hlive (if_pos rfl) ?_ rfl ?_ ?_ ?_ ?_ ?_
  · intro old hold hne
    exact if_neg fun hsame => hne (hs.row_unique hold hrow hsame)
  · exact fun claim hfor => ⟨hfor.deliveryId, hfor.token, hfor.subtitle⟩
  · exact fun hprepared => absurd (Or.inl hprepared) hstate
  · exact fun hactive => absurd (Or.inr hactive) hstate
  · exact fun banner hbanner hmatches => absurd hmatches (hnone banner hbanner)
  · exact fun _ => hmay

end Changes

/-- The script makes such changes only, and keeps the invariant also when it raises. -/
abbrev Keeps {α : Type} (claims : NotificationClaim → Prop)
    (may : List NotificationRow → NotificationRow → NotificationRow → Prop)
    (P : NotificationDesk → Prop) (x : NotificationScript α) (Q : α → NotificationDesk → Prop) :
    Prop :=
  world.Triple (Change claims may) P x Q (Sound claims)

section Commands

variable {claims : NotificationClaim → Prop}
  {may : List NotificationRow → NotificationRow → NotificationRow → Prop}
  {P Q : List NotificationRow → Prop} {B : Banner → Prop} {row : NotificationRow}
  {deliveryId reason id : String} {state : NotificationState}

/-- The list that CMUX returns is well-formed and complete. -/
theorem keeps_callList : Keeps claims may (Standing claims P B) callList
    fun result desk => ∃ items, listedItems result = some items ∧
      Standing claims P (fun banner => B banner ∧ banner.item ∈ dictItems items) desk := by
  have hsend : Keeps claims may (Standing claims P B) (Raising.send .list) fun reply desk =>
      match reply with
      | .returned result => ∃ items, listedItems result = some items ∧
          Standing claims P (fun banner => B banner ∧ banner.item ∈ dictItems items) desk
      | _ => desk.Sound claims := by
    apply triple_send stable_standing
    intro desk reply desk' hstanding hserves
    cases hserves with
    | list =>
      refine ⟨change_of_same_rows hstanding.sound hstanding.sound rfl, _,
        listedItems_listing desk.banners, hstanding.sound, hstanding.rows, ?_⟩
      intro banner hbanner
      exact ⟨hstanding.banners banner hbanner, mem_dictItems (List.mem_map_of_mem hbanner)⟩
    | reject => exact ⟨change_of_same_rows hstanding.sound hstanding.sound rfl, hstanding.sound⟩
    | fail => exact ⟨change_of_same_rows hstanding.sound hstanding.sound rfl, hstanding.sound⟩
  apply triple_bind hsend
  intro reply
  cases reply with
  | returned result => exact triple_pure fun _ h => h
  | done => exact triple_throw fun _ h => h
  | streamProtocolError => exact triple_throw fun _ h => h
  | integrityError => exact triple_throw fun _ h => h
  | otherError => exact triple_throw fun _ h => h

theorem keeps_matchingNotifications (row : NotificationRow) :
    Keeps claims may (Standing claims P B) (matchingNotifications row)
      fun found => Standing claims P fun banner =>
        B banner ∧ (row.Matches banner → banner.item ∈ found) := by
  apply triple_bind keeps_callList
  intro result
  cases hlisted : listedItems result with
  | none =>
    apply triple_throw
    rintro desk ⟨items, hitems, -⟩
    cases hitems
  | some listed =>
    apply triple_pure
    rintro desk ⟨items, hitems, hs, hrows, hbanners⟩
    cases hitems
    refine ⟨hs, hrows, fun banner hbanner => ?_⟩
    obtain ⟨hB, hmem⟩ := hbanners banner hbanner
    exact ⟨hB, fun hmatches => List.mem_filter.mpr ⟨hmem, matchesItem_item.mpr hmatches⟩⟩

theorem keeps_notificationExists (id : String) :
    Keeps claims may (Standing claims P B) (notificationExists id)
      fun present => Standing claims P fun banner =>
        B banner ∧ (present = false → banner.id ≠ id) := by
  apply triple_bind keeps_callList
  intro result
  cases hlisted : listedItems result with
  | none =>
    apply triple_pure
    rintro desk ⟨items, hitems, -⟩
    cases hitems
  | some listed =>
    apply triple_pure
    rintro desk ⟨items, hitems, hs, hrows, hbanners⟩
    cases hitems
    refine ⟨hs, hrows, fun banner hbanner => ?_⟩
    obtain ⟨hB, hmem⟩ := hbanners banner hbanner
    refine ⟨hB, fun habsent hid => ?_⟩
    exact List.any_eq_false.mp habsent banner.item hmem (eqStr_item.mpr hid)

/-- Whatever the reply, the banner is gone when the dismissal goes through. -/
theorem keeps_dismissNotification (id : String) :
    Keeps claims may (Standing claims P B) (dismissNotification id)
      fun _ => Standing claims P fun banner => B banner ∧ banner.id ≠ id := by
  have hsend : Keeps claims may (Standing claims P B) (Raising.send (.dismiss id))
      fun reply desk =>
        match reply with
        | .streamProtocolError => Standing claims P B desk
        | .done => Standing claims P (fun banner => B banner ∧ banner.id ≠ id) desk
        | .otherError => desk.Sound claims
        | _ => False := by
    apply triple_send stable_standing
    rintro desk reply desk' ⟨hs, hrows, hbanners⟩ hserves
    cases hserves with
    | dismiss hsome hreply =>
      have hgone : Standing claims P (fun banner => B banner ∧ banner.id ≠ id)
          { desk with banners := desk.banners.filter fun banner => banner.id ≠ id } := by
        refine ⟨sound_dismiss hs, hrows, fun banner hbanner => ?_⟩
        obtain ⟨hmem, hid⟩ := List.mem_filter.mp hbanner
        exact ⟨hbanners banner hmem, by simpa using hid⟩
      refine ⟨change_of_same_rows hs hgone.sound rfl, ?_⟩
      rcases reply with _ | _ | _ | _ | _
      · simp at hreply
      · exact hgone
      · exact ⟨hgone.sound, hgone.rows, fun banner hbanner => (hgone.banners banner hbanner).1⟩
      · simp at hreply
      · exact hgone.sound
    | reject => exact ⟨change_of_same_rows hs hs rfl, hs, hrows, hbanners⟩
    | fail => exact ⟨change_of_same_rows hs hs rfl, hs⟩
  apply triple_bind hsend
  intro reply
  cases reply with
  | returned result => exact triple_pure fun _ h => h.elim
  | done => exact triple_pure fun _ h => h
  | integrityError => exact triple_throw fun _ h => h.elim
  | otherError => exact triple_throw fun _ h => h
  | streamProtocolError =>
    apply triple_bind (keeps_notificationExists id)
    intro present
    cases present with
    | true => exact triple_throw fun _ h => h.sound
    | false =>
      apply triple_pure
      rintro desk ⟨hs, hrows, hbanners⟩
      exact ⟨hs, hrows, fun banner hbanner => (hbanners banner hbanner).imp_right fun h => h rfl⟩

/-- After the dismissals none of the banners of the row is left. -/
theorem keeps_dismissAll (row : NotificationRow) (ids : List String) :
    Keeps claims may (Standing claims P fun banner => row.Matches banner → banner.id ∈ ids)
      (dismissAll ids) fun _ => Standing claims P fun banner => ¬ row.Matches banner := by
  induction ids with
  | nil =>
    apply triple_pure
    rintro desk ⟨hs, hrows, hbanners⟩
    refine ⟨hs, hrows, fun banner hbanner hmatches => ?_⟩
    simpa using hbanners banner hbanner hmatches
  | cons id rest ih =>
    apply triple_bind (keeps_dismissNotification id)
    intro _
    apply triple_pre ih
    rintro desk ⟨hs, hrows, hbanners⟩
    refine ⟨hs, hrows, fun banner hbanner hmatches => ?_⟩
    obtain ⟨hlisted, hgone⟩ := hbanners banner hbanner
    exact (List.mem_cons.mp (hlisted hmatches)).resolve_left hgone

/-- The dismissals of a live row cover its banners. -/
theorem keeps_notificationIds (hdistinct : Distinct claims) (row : NotificationRow) :
    Keeps claims may (Standing claims (fun rows => P rows ∧ row ∈ rows) B) (notificationIds row)
      fun ids => Standing claims (fun rows => P rows ∧ row ∈ rows) fun banner =>
        row.Matches banner → banner.id ∈ ids := by
  have hlisted : Keeps claims may (Standing claims (fun rows => P rows ∧ row ∈ rows) B)
      (do return (← matchingNotifications row).filterMap itemId) fun ids =>
        Standing claims (fun rows => P rows ∧ row ∈ rows) fun banner =>
          row.Matches banner → banner.id ∈ ids := by
    apply triple_bind (keeps_matchingNotifications row)
    intro found
    apply triple_pure
    rintro desk ⟨hs, hrows, hbanners⟩
    refine ⟨hs, hrows, fun banner hbanner hmatches => ?_⟩
    exact List.mem_filterMap.mpr
      ⟨banner.item, (hbanners banner hbanner).2 hmatches, itemId_item banner⟩
  unfold notificationIds
  cases hrecorded : row.notificationId with
  | none => exact hlisted
  | some id =>
    apply triple_ite
    · exact fun _ => hlisted
    · intro _
      apply triple_pure
      rintro desk ⟨hs, hrows, -⟩
      refine ⟨hs, hrows, fun banner hbanner hmatches => ?_⟩
      -- only an active row has a recorded notification
      obtain ⟨hlive, hactive⟩ := hs.owner hdistinct hrows.2 hbanner hmatches
      rcases hlive with hprepared | hstate
      · rw [hs.unrecorded row hrows.2 hprepared] at hrecorded
        cases hrecorded
      · rw [hactive hstate] at hrecorded
        cases hrecorded
        exact List.mem_singleton_self _

/-- A command on the table that can fail, and otherwise does its part. -/
theorem keeps_command {request : NotificationRequest} {P P' : NotificationDesk → Prop}
    (hP : world.Stable P)
    (h : ∀ desk reply desk', P desk → Serves request desk reply desk' →
      Change claims may desk desk' ∧ (reply = .done ∧ P' desk' ∨
        reply ∈ [.streamProtocolError, .integrityError, .otherError])) :
    Keeps claims may P (command request) fun _ => P' := by
  have hsend : Keeps claims may P (Raising.send request) fun reply desk =>
      desk.Sound claims ∧ (reply = .done ∧ P' desk ∨
        reply ∈ [.streamProtocolError, .integrityError, .otherError]) := by
    apply triple_send hP
    intro desk reply desk' hdesk hserves
    obtain ⟨hchange, hends⟩ := h desk reply desk' hdesk hserves
    exact ⟨hchange, hchange.sound, hends⟩
  apply triple_bind hsend
  intro reply
  cases reply with
  | returned result => exact triple_pure fun _ h => by simp at h
  | done => exact triple_pure fun _ h => by simpa using h.2
  | streamProtocolError => exact triple_throw fun _ h => h.1
  | integrityError => exact triple_throw fun _ h => h.1
  | otherError => exact triple_throw fun _ h => h.1

end Commands

section Retirement

variable {claims : NotificationClaim → Prop}
  {may : List NotificationRow → NotificationRow → NotificationRow → Prop}
  {P Q : List NotificationRow → Prop} {deliveryId reason : String} {state : NotificationState}

omit [NotificationHost] in
theorem find_row {rows : List NotificationRow} {row : NotificationRow}
    (h : rows.find? (·.deliveryId = deliveryId) = some row) :
    row ∈ rows ∧ row.deliveryId = deliveryId := by
  refine ⟨List.mem_of_find?_eq_some h, ?_⟩
  simpa using List.find?_some h

theorem keeps_rowForDelivery (deliveryId : String) {B : Banner → Prop} :
    Keeps claims may (Standing claims P B) (rowForDelivery deliveryId) fun found =>
      Standing claims (fun rows => P rows ∧ rows.find? (·.deliveryId = deliveryId) = found) B := by
  apply triple_fetch stable_standing
  rintro desk ⟨hs, hrows, hbanners⟩
  exact ⟨hs, ⟨hrows, rfl⟩, hbanners⟩

/-- A live row is retired when none of its banners is left, and no other row is touched. -/
theorem keeps_retireDelivery (hdistinct : Distinct claims) (hstate : ¬ state.Live)
    (hmay : ∀ rows, P rows → ∀ row ∈ rows, row.deliveryId = deliveryId → row.state.Live →
      may rows row (row.retired reason state))
    (hkeep : ∀ rows, P rows → Q rows)
    (hdone : ∀ rows, P rows → Q (NotificationDesk.retire rows deliveryId reason state)) :
    Keeps claims may (Standing claims P fun _ => True) (retireDelivery deliveryId reason state)
      fun _ => Standing claims Q fun _ => True := by
  have hunchanged : ∀ {P' : List NotificationRow → Prop} {b : Bool}, (∀ rows, P' rows → P rows) →
      Keeps claims may (Standing claims P' fun _ => True) (pure b)
        fun _ => Standing claims Q fun _ => True := by
    intro P' b hP'
    apply triple_pure
    rintro desk ⟨hs, hrows, hbanners⟩
    exact ⟨hs, hkeep _ (hP' _ hrows), hbanners⟩
  apply triple_bind (keeps_rowForDelivery deliveryId)
  intro found
  cases found with
  | none => exact hunchanged fun _ h => h.1
  | some row =>
    apply triple_ite
    · intro hlive
      have hpre : ∀ desk, Standing claims (fun rows => P rows ∧
          rows.find? (·.deliveryId = deliveryId) = some row) (fun _ => True) desk →
          Standing claims (fun rows => (P rows ∧ row.deliveryId = deliveryId) ∧ row ∈ rows)
            (fun _ => True) desk := by
        rintro desk ⟨hs, ⟨hrows, hfind⟩, hbanners⟩
        obtain ⟨hmem, hid⟩ := find_row hfind
        exact ⟨hs, ⟨⟨hrows, hid⟩, hmem⟩, hbanners⟩
      apply triple_pre _ hpre
      apply triple_bind (keeps_notificationIds hdistinct row)
      intro ids
      apply triple_bind (keeps_dismissAll row ids)
      intro _
      have hretire : Keeps claims may (Standing claims (fun rows =>
          (P rows ∧ row.deliveryId = deliveryId) ∧ row ∈ rows) fun banner => ¬ row.Matches banner)
          (command (.retire deliveryId reason state))
          fun _ => Standing claims Q fun _ => True := by
        apply keeps_command stable_standing
        rintro desk reply desk' ⟨hs, ⟨⟨hrows, rfl⟩, hmem⟩, hnone⟩ hserves
        cases hserves with
        | reject hcommand => exact hcommand.elim
        | fail => exact ⟨change_of_same_rows hs hs rfl, Or.inr (by simp)⟩
        | retire =>
          have hchange : Change claims may desk { desk with
              rows := NotificationDesk.retire desk.rows row.deliveryId reason state } :=
            change_retire hs hmem hlive hnone hstate (hmay _ hrows row hmem rfl hlive)
          exact ⟨hchange, Or.inl ⟨rfl, hchange.sound, hdone _ hrows, fun _ _ => trivial⟩⟩
      apply triple_bind hretire
      intro _
      exact triple_pure fun _ h => h
    · exact fun _ => hunchanged fun _ h => h.1

/-- Retirements one after the other; `P` says what the rows have for those that remain. -/
theorem keeps_retireAll (P : List String → List NotificationRow → Prop)
    (hdistinct : Distinct claims) (hstate : ¬ state.Live)
    (hmay : ∀ deliveryId rest rows, P (deliveryId :: rest) rows → ∀ row ∈ rows,
      row.deliveryId = deliveryId → row.state.Live → may rows row (row.retired reason state))
    (hkeep : ∀ deliveryId rest rows, P (deliveryId :: rest) rows → P rest rows)
    (hdone : ∀ deliveryId rest rows, P (deliveryId :: rest) rows →
      P rest (NotificationDesk.retire rows deliveryId reason state)) (deliveries : List String) :
    Keeps claims may (Standing claims (P deliveries) fun _ => True)
      (retireAll reason state deliveries) fun _ => Standing claims (P []) fun _ => True := by
  induction deliveries with
  | nil => exact triple_pure fun _ h => h
  | cons deliveryId rest ih =>
    apply triple_bind (keeps_retireDelivery hdistinct hstate (hmay deliveryId rest)
      (hkeep deliveryId rest) (hdone deliveryId rest))
    intro _
    exact ih

end Retirement

/-- The mailbox time of the row is over. -/
def Expires (now : Timestamp) (row row' : NotificationRow) : Prop :=
  row'.state = .expired ∧ row.expiresAt.le now

/-- The seat has more active rows than its cap, and the row is not the one to keep. -/
def Evicts (perSeatCap : Nat) (seatId keepDeliveryId : String) (rows : List NotificationRow)
    (row row' : NotificationRow) : Prop :=
  row'.state = .evicted ∧ row.seatId = seatId ∧ row.deliveryId ≠ keepDeliveryId ∧
    perSeatCap < (activeOn seatId rows).length

section Limits

variable {claims : NotificationClaim → Prop}
  {may : List NotificationRow → NotificationRow → NotificationRow → Prop}

omit [NotificationHost] in
theorem mem_retire {rows : List NotificationRow} {deliveryId reason : String}
    {state : NotificationState} {row : NotificationRow}
    (h : row ∈ NotificationDesk.retire rows deliveryId reason state) :
    ∃ old ∈ rows, row.deliveryId = old.deliveryId ∧ row.seatId = old.seatId ∧
      row.expiresAt = old.expiresAt := by
  obtain ⟨old, hold, rfl⟩ := List.mem_map.mp h
  refine ⟨old, hold, ?_⟩
  split <;> exact ⟨rfl, rfl, rfl⟩

omit [NotificationHost] in
theorem map_deliveryId_retire {rows : List NotificationRow} {deliveryId reason : String}
    {state : NotificationState} :
    (NotificationDesk.retire rows deliveryId reason state).map (·.deliveryId) =
      rows.map (·.deliveryId) := by
  unfold NotificationDesk.retire
  rw [List.map_map]
  apply List.map_congr_left
  intro row _
  by_cases h : row.deliveryId = deliveryId <;> simp [h]

omit [NotificationHost] in
/-- A retirement takes at most one row from a seat. -/
theorem activeOn_retire {rows : List NotificationRow} (deliveryId reason seatId : String)
    (state : NotificationState) (hkeys : (rows.map (·.deliveryId)).Nodup) :
    (activeOn seatId rows).length ≤
      (activeOn seatId (NotificationDesk.retire rows deliveryId reason state)).length + 1 := by
  induction rows with
  | nil => simp [activeOn]
  | cons row rest ih =>
    obtain ⟨hfresh, hrest⟩ := List.nodup_cons.mp hkeys
    unfold activeOn NotificationDesk.retire at ih ⊢
    rw [List.map_cons]
    by_cases hrow : row.deliveryId = deliveryId
    · have hsame : (rest.map fun row => if row.deliveryId = deliveryId then
          { row with state, retiredReason := some reason } else row) = rest := by
        apply (List.map_congr_left _).trans (List.map_id rest)
        intro other hother
        refine if_neg fun heq => hfresh ?_
        exact List.mem_map.mpr ⟨other, hother, heq.trans hrow.symm⟩
      rw [hsame, List.filter_cons, List.filter_cons]
      split
      · split <;> simp
      · split
        · simp only [List.length_cons]
          omega
        · omega
    · rw [if_neg hrow, List.filter_cons, List.filter_cons]
      have hle := ih hrest
      split
      · simp only [List.length_cons]
        omega
      · exact hle

omit [NotificationHost] in
theorem mem_expiredDeliveries {now : Timestamp} {rows : List NotificationRow}
    {deliveryId : String} (h : deliveryId ∈ expiredDeliveries now rows) :
    ∃ row ∈ rows, row.deliveryId = deliveryId ∧ row.expiresAt.le now := by
  obtain ⟨row, hrow, rfl⟩ := List.mem_map.mp h
  obtain ⟨hmem, hdue⟩ := List.mem_filter.mp ((List.mem_insertionSort _).mp hrow)
  exact ⟨row, hmem, rfl, (by simpa using hdue : row.state.Live ∧ row.expiresAt.le now).2⟩

theorem keeps_expire (hdistinct : Distinct claims) (now : Timestamp)
    (hmay : ∀ rows row row', Expires now row row' → may rows row row') :
    Keeps claims may (Standing claims (fun _ => True) fun _ => True) (expire now)
      fun _ => Standing claims (fun _ => True) fun _ => True := by
  -- the remaining deliveries are due, whatever the loop has done so far
  have hread : Keeps claims may (Standing claims (fun _ => True) fun _ => True)
      (Raising.fetch (expiredDeliveries now)) fun deliveries =>
        Standing claims (fun rows => ∀ deliveryId ∈ deliveries, ∀ row ∈ rows,
          row.deliveryId = deliveryId → row.expiresAt.le now) fun _ => True := by
    apply triple_fetch stable_standing
    rintro desk ⟨hs, -, -⟩
    refine ⟨hs, ?_, fun _ _ => trivial⟩
    intro deliveryId hdelivery row hrow hid
    obtain ⟨due, hdue, hdueId, hle⟩ := mem_expiredDeliveries hdelivery
    rw [hs.row_unique hrow hdue (hid.trans hdueId.symm)]
    exact hle
  apply triple_bind hread
  intro deliveries
  have hloop : Keeps claims may (Standing claims (fun rows => ∀ deliveryId ∈ deliveries,
      ∀ row ∈ rows, row.deliveryId = deliveryId → row.expiresAt.le now) fun _ => True)
      (retireAll "expired" .expired deliveries)
      fun _ => Standing claims (fun rows => ∀ deliveryId ∈ [], ∀ row ∈ rows,
        row.deliveryId = deliveryId → row.expiresAt.le now) fun _ => True := by
    apply keeps_retireAll (fun deliveries rows => ∀ deliveryId ∈ deliveries,
      ∀ row ∈ rows, row.deliveryId = deliveryId → row.expiresAt.le now) hdistinct (by decide)
    · intro deliveryId rest rows hP row hrow hid _
      exact hmay rows row _ ⟨rfl, hP deliveryId List.mem_cons_self row hrow hid⟩
    · intro deliveryId rest rows hP other hother
      exact hP other (List.mem_cons_of_mem _ hother)
    · intro deliveryId rest rows hP other hother row hrow hid
      obtain ⟨old, hold, holdId, -, hexpires⟩ := mem_retire hrow
      rw [hexpires]
      exact hP other (List.mem_cons_of_mem _ hother) old hold (holdId.symm.trans hid)
  apply triple_bind hloop
  intro _
  apply triple_pure
  rintro desk ⟨hs, -, hbanners⟩
  exact ⟨hs, trivial, hbanners⟩

/-- What the rows have for the evictions that remain. -/
structure Crowded (perSeatCap : Nat) (seatId keepDeliveryId : String) (deliveries : List String)
    (rows : List NotificationRow) : Prop where
  keys : (rows.map (·.deliveryId)).Nodup
  seat : ∀ deliveryId ∈ deliveries, deliveryId ≠ keepDeliveryId ∧
    ∀ row ∈ rows, row.deliveryId = deliveryId → row.seatId = seatId
  excess : deliveries ≠ [] → perSeatCap + deliveries.length ≤ (activeOn seatId rows).length

theorem keeps_enforceCap (hdistinct : Distinct claims) (perSeatCap : Nat)
    (seatId keepDeliveryId : String) (hmay : ∀ rows row row',
      Evicts perSeatCap seatId keepDeliveryId rows row row' → may rows row row') :
    Keeps claims may (Standing claims (fun _ => True) fun _ => True)
      (enforceCap perSeatCap seatId keepDeliveryId)
      fun _ => Standing claims (fun _ => True) fun _ => True := by
  have hread : Keeps claims may (Standing claims (fun _ => True) fun _ => True)
      (Raising.fetch (excessDeliveries perSeatCap seatId keepDeliveryId)) fun deliveries =>
        Standing claims (Crowded perSeatCap seatId keepDeliveryId deliveries) fun _ => True := by
    apply triple_fetch stable_standing
    rintro desk ⟨hs, -, -⟩
    refine ⟨hs, ⟨hs.keys, ?_, ?_⟩, fun _ _ => trivial⟩
    · intro deliveryId hdelivery
      obtain ⟨victim, hvictim, rfl⟩ := List.mem_map.mp hdelivery
      obtain ⟨hactive, hkeep⟩ := List.mem_filter.mp (List.mem_of_mem_take hvictim)
      obtain ⟨hmem, hseat⟩ := List.mem_filter.mp ((List.mem_insertionSort _).mp hactive)
      refine ⟨by simpa using hkeep, fun row hrow hid => ?_⟩
      rw [hs.row_unique hrow hmem hid]
      exact (by simpa using hseat : victim.seatId = seatId ∧ victim.state = .active).1
    · intro hsome
      have hlength : (inOrder (activeOn seatId desk.rows)).length =
          (activeOn seatId desk.rows).length := List.length_insertionSort _ _
      have hpositive := List.length_pos_iff.mpr hsome
      show perSeatCap + (excessDeliveries perSeatCap seatId keepDeliveryId desk.rows).length ≤ _
      change 0 < (excessDeliveries perSeatCap seatId keepDeliveryId desk.rows).length at hpositive
      simp only [excessDeliveries, List.length_map, List.length_take] at hpositive ⊢
      omega
  apply triple_bind hread
  intro deliveries
  have hloop : Keeps claims may
      (Standing claims (Crowded perSeatCap seatId keepDeliveryId deliveries) fun _ => True)
      (retireAll "per-seat-cap" .evicted deliveries)
      fun _ => Standing claims (Crowded perSeatCap seatId keepDeliveryId []) fun _ => True := by
    apply keeps_retireAll (Crowded perSeatCap seatId keepDeliveryId) hdistinct (by decide)
    · intro deliveryId rest rows hP row hrow hid _
      obtain ⟨hkeep, hseat⟩ := hP.seat deliveryId List.mem_cons_self
      have hexcess := hP.excess (List.cons_ne_nil _ _)
      rw [List.length_cons] at hexcess
      exact hmay rows row _ ⟨rfl, hseat row hrow hid, hid ▸ hkeep, by omega⟩
    · rintro deliveryId rest rows ⟨hkeys, hseat, hexcess⟩
      refine ⟨hkeys, fun other hother => hseat other (List.mem_cons_of_mem _ hother), fun _ => ?_⟩
      have hle := hexcess (List.cons_ne_nil _ _)
      rw [List.length_cons] at hle
      omega
    · rintro deliveryId rest rows ⟨hkeys, hseat, hexcess⟩
      refine ⟨?_, ?_, fun _ => ?_⟩
      · rw [map_deliveryId_retire]
        exact hkeys
      · intro other hother
        obtain ⟨hkeep, hrows⟩ := hseat other (List.mem_cons_of_mem _ hother)
        refine ⟨hkeep, fun row hrow hid => ?_⟩
        obtain ⟨old, hold, holdId, holdSeat, -⟩ := mem_retire hrow
        rw [holdSeat]
        exact hrows old hold (holdId.symm.trans hid)
      · have hle := hexcess (List.cons_ne_nil _ _)
        have hone := activeOn_retire deliveryId "per-seat-cap" seatId .evicted hkeys
        rw [List.length_cons] at hle
        omega
  apply triple_post hloop
  rintro _ desk ⟨hs, -, hbanners⟩
  exact ⟨hs, trivial, hbanners⟩

end Limits

section Publication

variable {claims : NotificationClaim → Prop}
  {may : List NotificationRow → NotificationRow → NotificationRow → Prop}
  {B : Banner → Prop} {row : NotificationRow} {claim : NotificationClaim}

/-- After its banner is shown, a prepared row has no other. -/
theorem keeps_showBanner (hdistinct : Distinct claims) :
    Keeps claims may (Standing claims (fun rows => row ∈ rows ∧ row.state = .prepared) B)
      (showBanner row) fun found => Standing claims (fun rows => row ∈ rows ∧ row.state = .prepared)
        fun banner => row.Matches banner → banner.item ∈ found := by
  apply triple_bind (keeps_matchingNotifications row)
  intro found
  apply triple_ite
  · rintro rfl
    have hcreate : Keeps claims may (Standing claims
        (fun rows => row ∈ rows ∧ row.state = .prepared) fun banner =>
          B banner ∧ (row.Matches banner → banner.item ∈ [])) (command (.create row))
        fun _ => Standing claims (fun rows => row ∈ rows ∧ row.state = .prepared)
          fun _ => True := by
      apply keeps_command stable_standing
      rintro desk reply desk' ⟨hs, hrows, hbanners⟩ hserves
      cases hserves with
      | create hfresh hreply =>
        have hnone : ∀ banner ∈ desk.banners, ¬ row.Matches banner := by
          intro banner hbanner hmatches
          simpa using (hbanners banner hbanner).2 hmatches
        have hs' := sound_create hdistinct hs hrows.1 hrows.2 hnone hfresh
        refine ⟨change_of_same_rows hs hs' rfl, ?_⟩
        simp only [List.mem_cons, List.not_mem_nil, or_false] at hreply
        rcases hreply with rfl | rfl | rfl
        · exact Or.inl ⟨rfl, hs', hrows, fun _ _ => trivial⟩
        · exact Or.inr (by simp)
        · exact Or.inr (by simp)
      | reject => exact ⟨change_of_same_rows hs hs rfl, Or.inr (by simp)⟩
      | fail => exact ⟨change_of_same_rows hs hs rfl, Or.inr (by simp)⟩
    apply triple_bind hcreate
    intro _
    apply triple_post (keeps_matchingNotifications row)
    rintro found desk ⟨hs, hrows, hbanners⟩
    exact ⟨hs, hrows, fun banner hbanner => (hbanners banner hbanner).2⟩
  · intro _
    apply triple_pure
    rintro desk ⟨hs, hrows, hbanners⟩
    exact ⟨hs, hrows, fun banner hbanner => (hbanners banner hbanner).2⟩

/-- A script that only reads a row at its end. -/
theorem keeps_recordOf (row : NotificationRow) {P : List NotificationRow → Prop} :
    Keeps claims may (Standing claims P B) (recordOf row)
      fun _ => Standing claims (fun _ => True) fun _ => True := by
  unfold recordOf
  cases row.notificationId with
  | none => exact triple_throw fun _ h => h.sound
  | some id => exact triple_pure fun _ h => ⟨h.sound, trivial, fun _ _ => trivial⟩

theorem keeps_activateRow (hdistinct : Distinct claims) (lifecycle : NotificationLifecycle)
    (found : List Dict) (hmay : ∀ rows row' row'',
      Evicts lifecycle.perSeatCap row.seatId row.deliveryId rows row' row'' →
        may rows row' row'') :
    Keeps claims may (Standing claims (fun rows => row ∈ rows ∧ row.state = .prepared)
        fun banner => row.Matches banner → banner.item ∈ found) (activateRow lifecycle row found)
      fun _ => Standing claims (fun _ => True) fun _ => True := by
  unfold activateRow
  split
  · rename_i item
    split
    · exact triple_throw fun _ h => h.sound
    · rename_i id hitem
      obtain ⟨hitem, hid⟩ := Option.filter_eq_some_iff.mp hitem
      have hactivate : Keeps claims may (Standing claims
          (fun rows => row ∈ rows ∧ row.state = .prepared)
          fun other => row.Matches other → other.item ∈ [item])
          (command (.activate row.deliveryId id))
          fun _ => Standing claims (fun _ => True) fun _ => True := by
        apply keeps_command stable_standing
        rintro desk reply desk' ⟨hs, hrows, hbanners⟩ hserves
        cases hserves with
        | activate =>
          have honly : ∀ other ∈ desk.banners, row.Matches other → other.id = id := by
            intro other hother hmatches
            have hsame := itemId_item other
            rw [List.mem_singleton.mp (hbanners other hother hmatches), hitem] at hsame
            exact (Option.some.inj hsame).symm
          have hchange : Change claims may desk { desk with
              rows := NotificationDesk.activate desk.rows row.deliveryId id } :=
            change_activate hs hrows.1 hrows.2 (of_decide_eq_true hid) honly
          exact ⟨hchange, Or.inl ⟨rfl, hchange.sound, trivial, fun _ _ => trivial⟩⟩
        | taken => exact ⟨change_of_same_rows hs hs rfl, Or.inr (by simp)⟩
        | reject hcommand => exact hcommand.elim
        | fail => exact ⟨change_of_same_rows hs hs rfl, Or.inr (by simp)⟩
      apply triple_bind hactivate
      intro _
      apply triple_bind (keeps_enforceCap hdistinct _ _ _ hmay)
      intro _
      apply triple_bind (keeps_rowForDelivery row.deliveryId)
      intro active
      cases active with
      | none => exact triple_throw fun _ h => h.sound
      | some active => exact keeps_recordOf active
  · exact triple_throw fun _ h => h.sound

/-- The row of a new delivery is the one that was inserted. -/
theorem keeps_prepareRow (lifecycle : NotificationLifecycle) (now : Timestamp)
    (hclaim : claims claim) :
    Keeps claims may (Standing claims
        (fun rows => ∀ row ∈ rows, row.deliveryId ≠ claim.deliveryId) B)
      (prepareRow lifecycle now claim)
      fun row => Standing claims (fun rows => (row ∈ rows ∧ row.state = .prepared) ∧
        row.deliveryId = claim.deliveryId ∧ row.seatId = claim.seatId) B := by
  have hsend : Keeps claims may (Standing claims
      (fun rows => ∀ row ∈ rows, row.deliveryId ≠ claim.deliveryId) B)
      (Raising.send (.insert (claim.row lifecycle now))) fun reply desk =>
        match reply with
        | .done => Standing claims (fun rows => ∀ row ∈ rows, row.deliveryId = claim.deliveryId →
            row = claim.row lifecycle now) B desk
        | .integrityError =>
          Standing claims (fun rows => ∀ row ∈ rows, row.deliveryId ≠ claim.deliveryId) B desk
        | .otherError => desk.Sound claims
        | _ => False := by
    apply triple_send stable_standing
    rintro desk reply desk' ⟨hs, hnew, hbanners⟩ hserves
    cases hserves with
    | insert hfresh =>
      have hfor : (claim.row lifecycle now).IsFor claim := ⟨rfl, rfl, rfl⟩
      have hchange : Change claims may desk { desk with
          rows := desk.rows ++ [claim.row lifecycle now] } :=
        change_insert hs hfresh rfl rfl ⟨claim, hclaim, hfor⟩
      refine ⟨hchange, hchange.sound, ?_, hbanners⟩
      intro row hrow hid
      rcases List.mem_append.mp hrow with hold | hlast
      · exact absurd hid (hnew row hold)
      · exact List.mem_singleton.mp hlast
    | refuse => exact ⟨change_of_same_rows hs hs rfl, hs, hnew, hbanners⟩
    | reject hcommand => exact hcommand.elim
    | fail => exact ⟨change_of_same_rows hs hs rfl, hs⟩
  have hreread : Keeps claims may (Standing claims (fun rows => ∀ row ∈ rows,
      row.deliveryId = claim.deliveryId → row = claim.row lifecycle now) B)
      (preparedRow claim.deliveryId) fun row => Standing claims
        (fun rows => (row ∈ rows ∧ row.state = .prepared) ∧
          row.deliveryId = claim.deliveryId ∧ row.seatId = claim.seatId) B := by
    apply triple_bind (keeps_rowForDelivery claim.deliveryId)
    intro found
    cases found with
    | none => exact triple_throw fun _ h => h.sound
    | some row =>
      apply triple_pure
      rintro desk ⟨hs, ⟨hnew, hfind⟩, hbanners⟩
      obtain ⟨hmem, hid⟩ := find_row hfind
      have hrow := hnew row hmem hid
      refine ⟨hs, ⟨⟨hmem, ?_⟩, hid, ?_⟩, hbanners⟩
      · rw [hrow]
        rfl
      · rw [hrow]
        rfl
  unfold prepareRow
  apply triple_bind hsend
  intro reply
  cases reply with
  | done => exact hreread
  | integrityError =>
    -- nobody else can have inserted a row for the delivery
    apply triple_bind (keeps_rowForDelivery claim.deliveryId)
    intro found
    cases found with
    | none => exact triple_throw fun _ h => h.sound
    | some winner =>
      intro desk hdesk
      obtain ⟨hmem, hid⟩ := find_row hdesk.rows.2
      exact absurd hid (hdesk.rows.1 winner hmem)
  | returned result => exact fun desk hdesk => hdesk.elim
  | streamProtocolError => exact triple_throw fun _ h => h.elim
  | otherError => exact triple_throw fun _ h => h

theorem keeps_publish (hdistinct : Distinct claims) (lifecycle : NotificationLifecycle)
    (now : Timestamp) (hclaim : claims claim)
    (hexpires : ∀ rows row row', Expires now row row' → may rows row row')
    (hevicts : ∀ rows row row',
      Evicts lifecycle.perSeatCap claim.seatId claim.deliveryId rows row row' →
        may rows row row') :
    Keeps claims may (Standing claims (fun _ => True) fun _ => True)
      (publish lifecycle now claim) fun _ => Standing claims (fun _ => True) fun _ => True := by
  -- the row of the delivery, new or not, is shown and activated in the same way
  have hshow : ∀ row, Keeps claims may (Standing claims (fun rows =>
      (row ∈ rows ∧ row.state = .prepared) ∧
        row.deliveryId = claim.deliveryId ∧ row.seatId = claim.seatId) fun _ => True)
      (do activateRow lifecycle row (← showBanner row))
      fun _ => Standing claims (fun _ => True) fun _ => True := by
    rintro row desk ⟨hs, ⟨hrow, hid, hseat⟩, hbanners⟩
    have hevicts' : ∀ rows row' row'', Evicts lifecycle.perSeatCap row.seatId row.deliveryId rows
        row' row'' → may rows row' row'' := by
      rw [hid, hseat]
      exact hevicts
    exact triple_bind (keeps_showBanner hdistinct)
      (fun found => keeps_activateRow hdistinct lifecycle found hevicts') desk ⟨hs, hrow, hbanners⟩
  unfold publish
  apply triple_bind (keeps_expire hdistinct now hexpires)
  intro _
  apply triple_bind (keeps_rowForDelivery claim.deliveryId)
  intro found
  cases found with
  | none =>
    have hnew : ∀ desk, Standing claims (fun rows => True ∧
        rows.find? (·.deliveryId = claim.deliveryId) = none) (fun _ => True) desk →
        Standing claims (fun rows => ∀ row ∈ rows, row.deliveryId ≠ claim.deliveryId)
          (fun _ => True) desk := by
      rintro desk ⟨hs, ⟨-, hfind⟩, hbanners⟩
      refine ⟨hs, fun row hrow => ?_, hbanners⟩
      simpa using List.find?_eq_none.mp hfind row hrow
    apply triple_pre _ hnew
    exact triple_bind (keeps_prepareRow lifecycle now hclaim) hshow
  | some row =>
    dsimp only
    have hsame : Keeps claims may (Standing claims (fun rows => True ∧
        rows.find? (·.deliveryId = claim.deliveryId) = some row) fun _ => True)
        (assertSameClaim claim row) fun _ => Standing claims (fun rows => row ∈ rows ∧
          row.deliveryId = claim.deliveryId ∧ row.seatId = claim.seatId) fun _ => True := by
      apply triple_ite
      · intro hclaims
        apply triple_pure
        rintro desk ⟨hs, ⟨-, hfind⟩, hbanners⟩
        exact ⟨hs, ⟨(find_row hfind).1, hclaims.2.1, hclaims.2.2.1⟩, hbanners⟩
      · exact fun _ => triple_throw fun _ h => h.sound
    apply triple_bind hsame
    intro _
    apply triple_ite
    · exact fun _ => keeps_recordOf row
    · intro _
      apply triple_ite
      · exact fun _ => triple_throw fun _ h => h.sound
      · intro hprepared
        apply triple_pre (hshow row)
        rintro desk ⟨hs, ⟨hmem, hids⟩, hbanners⟩
        exact ⟨hs, ⟨⟨hmem, not_not.mp hprepared⟩, hids⟩, hbanners⟩

end Publication

section Acknowledgement

variable {claims : NotificationClaim → Prop}
  {may : List NotificationRow → NotificationRow → NotificationRow → Prop}

theorem keeps_onReceipt (hdistinct : Distinct claims) (notice : ReceiptNotice)
    (hmay : ∀ rows row row', row.deliveryId = notice.deliveryId → may rows row row') :
    Keeps claims may (Standing claims (fun _ => True) fun _ => True) (onReceipt notice)
      fun _ => Standing claims (fun _ => True) fun _ => True := by
  apply triple_ite
  · exact fun _ => triple_pure fun _ h => h
  · intro _
    apply triple_bind (keeps_rowForDelivery notice.deliveryId)
    intro found
    cases found with
    | none => exact triple_pure fun _ h => ⟨h.sound, trivial, h.banners⟩
    | some row =>
      apply triple_ite
      · exact fun _ => triple_pure fun _ h => ⟨h.sound, trivial, h.banners⟩
      · intro _
        apply keeps_retireDelivery hdistinct (by decide)
        · exact fun rows _ row _ hid _ => hmay rows row _ hid
        · exact fun _ _ => trivial
        · exact fun _ _ => trivial

theorem keeps_onNotificationRead (hdistinct : Distinct claims) (notificationId : String)
    (hmay : ∀ rows row row', row.notificationId = some notificationId → may rows row row') :
    Keeps claims may (Standing claims (fun _ => True) fun _ => True)
      (onNotificationRead notificationId)
      fun _ => Standing claims (fun _ => True) fun _ => True := by
  have hread : Keeps claims may (Standing claims (fun _ => True) fun _ => True)
      (Raising.fetch (List.find? fun row : NotificationRow =>
        row.notificationId = some notificationId ∧ row.state = .active)) fun found =>
          Standing claims (fun rows => ∀ row, found = some row → ∀ other ∈ rows,
            other.deliveryId = row.deliveryId → other.notificationId = some notificationId)
            fun _ => True := by
    apply triple_fetch stable_standing
    rintro desk ⟨hs, -, hbanners⟩
    refine ⟨hs, ?_, hbanners⟩
    intro row hfind other hother hid
    rw [hs.row_unique hother (List.mem_of_find?_eq_some hfind) hid]
    exact (by simpa using List.find?_some hfind :
      row.notificationId = some notificationId ∧ row.state = .active).1
  apply triple_bind hread
  intro found
  cases found with
  | none => exact triple_pure fun _ h => ⟨h.sound, trivial, h.banners⟩
  | some row =>
    apply keeps_retireDelivery hdistinct (by decide)
    · exact fun rows hrows other hother hid _ =>
        hmay rows other _ (hrows row rfl other hother hid)
    · exact fun _ _ => trivial
    · exact fun _ _ => trivial

end Acknowledgement

/-- The retirements that an operation is there for, or that the limits call for. -/
def NotificationOperation.MayRetire (operation : NotificationOperation)
    (rows : List NotificationRow) (row row' : NotificationRow) : Prop :=
  match operation with
  | .publish lifecycle now claim => Expires now row row' ∨
      Evicts lifecycle.perSeatCap claim.seatId claim.deliveryId rows row row'
  | .onReceipt notice => row.deliveryId = notice.deliveryId
  | .onNotificationRead notificationId => row.notificationId = some notificationId
  | .expire now => Expires now row row'

/-- Publications are of the given claims. -/
def NotificationOperation.Within (claims : NotificationClaim → Prop) :
    NotificationOperation → Prop
  | .publish _ _ claim => claims claim
  | _ => True

abbrev AdmittedOperation (claims : NotificationClaim → Prop) : Type :=
  { operation : NotificationOperation // operation.Within claims }

/-- The table, CMUX and the operation that is under way. -/
abbrev NotificationPlant (claims : NotificationClaim → Prop) : Type :=
  Running (List NotificationRow) NotificationRequest NotificationReply NotificationDesk
    (AdmittedOperation claims) Unit

/-- One step of the lifecycle, of CMUX, of the user, or a crash. -/
abbrev NotificationStep (claims : NotificationClaim → Prop) :
    NotificationPlant claims → NotificationPlant claims → Prop :=
  world.Step fun operation => operation.1.program

section Runs

variable {claims : NotificationClaim → Prop} {s s' : NotificationPlant claims}

theorem sound_stable : world.Stable (Sound claims) := fun _ _ hs hdrift => sound_drift hs hdrift

/-- The value of a script is not used. -/
theorem safe_discard {α : Type} {may} {x : NotificationScript α} {desk : NotificationDesk}
    (h : Keeps claims may (Standing claims (fun _ => True) fun _ => True) x
      fun _ => Standing claims (fun _ => True) fun _ => True) (hs : desk.Sound claims) :
    world.Safe (Change claims may) (fun _ : Unit => Sound claims) (do let _ ← x.run) desk := by
  apply safe_bind (h desk ⟨hs, trivial, fun _ _ => trivial⟩)
  rintro (e | a) desk' hdesk'
  · exact hdesk'
  · exact hdesk'.sound

theorem safe_program (hdistinct : Distinct claims) (operation : AdmittedOperation claims)
    {desk : NotificationDesk} (hs : desk.Sound claims) :
    world.Safe (Change claims operation.1.MayRetire) (fun _ => Sound claims)
      operation.1.program desk := by
  obtain ⟨operation, hwithin⟩ := operation
  cases operation with
  | publish lifecycle now claim =>
    apply safe_discard _ hs
    exact keeps_publish hdistinct lifecycle now hwithin (fun _ _ _ => Or.inl) fun _ _ _ => Or.inr
  | onReceipt notice =>
    apply safe_discard _ hs
    exact keeps_onReceipt hdistinct notice fun _ _ _ h => h
  | onNotificationRead notificationId =>
    apply safe_discard _ hs
    exact keeps_onNotificationRead hdistinct notificationId fun _ _ _ h => h
  | expire now =>
    apply safe_discard _ hs
    exact keeps_expire hdistinct now fun _ _ _ h => h

theorem sound_emptyDesk : Sound claims {} := by
  have hrows : ∀ {p : NotificationRow → Prop}, ∀ row ∈ ([] : List NotificationRow), p row :=
    fun row hrow => absurd hrow List.not_mem_nil
  have hbanners : ∀ {p : Banner → Prop}, ∀ banner ∈ ([] : List Banner), p banner :=
    fun banner hbanner => absurd hbanner List.not_mem_nil
  exact ⟨hrows, List.nodup_nil, hrows, hrows, List.nodup_nil, hbanners, hbanners⟩

theorem guarded (hdistinct : Distinct claims)
    (h : Relation.ReflTransGen (NotificationStep claims) ⟨{}, none⟩ s) :
    world.Guarded (fun operation : AdmittedOperation claims =>
      Change claims operation.1.MayRetire) (Sound claims) s := by
  refine guarded_reach sound_stable (fun _ _ _ _ hchange => hchange.sound)
    (fun operation desk hs => safe_program hdistinct operation hs) ⟨?_, ?_⟩ h
  · exact sound_emptyDesk
  · intro operation program hop
    cases hop

/-- What a banner carries is the token of the row that owns it. -/
theorem NotificationDesk.Sound.token_of_carries {desk : NotificationDesk} {banner : Banner}
    {claim : NotificationClaim} (hs : desk.Sound claims) (hbanner : banner ∈ desk.banners)
    (hcarries : banner.Carries claim.token) :
    ∃ row ∈ desk.rows, row.Matches banner ∧ row.state.Live ∧
      row.correlationToken = claim.token := by
  obtain ⟨row, hrow, hmatches, hlive, -⟩ := hs.owned banner hbanner
  obtain ⟨claim', -, hfor⟩ := hs.claimed row hrow
  refine ⟨row, hrow, hmatches, hlive, ?_⟩
  unfold Banner.Carries at hcarries
  rw [hmatches.2.2, hfor.subtitle] at hcarries
  rw [hfor.token, token_eq_of_suffix hcarries]

/-- What is asked of every state that is reached. -/
structure BannersKept (claims : NotificationClaim → Prop) (s : NotificationPlant claims) :
    Prop where
  single : ∀ claim, claims claim →
    (s.state.banners.filter fun banner => banner.Carries claim.token).length ≤ 1
  cleared : ∀ row ∈ s.state.rows, ¬ row.state.Live → ∀ banner ∈ s.state.banners,
    ¬ banner.Carries row.correlationToken
  final : ∀ s', Relation.ReflTransGen (NotificationStep claims) s s' → ∀ row ∈ s.state.rows,
    ¬ row.state.Live → row ∈ s'.state.rows ∧
      ∀ row' ∈ s'.state.rows, row'.deliveryId = row.deliveryId → row' = row
  charged : ∀ s', NotificationStep claims s s' → ∀ row ∈ s.state.rows, row.state.Live →
    ∀ row' ∈ s'.state.rows, row'.deliveryId = row.deliveryId → ¬ row'.state.Live →
      ∃ operation program, s.operation = some (operation, program) ∧
        operation.1.MayRetire s.state.rows row row'

/-- A delivery has at most one banner at any time and none after it is retired, it stays retired,
and an operation retires no other delivery but by the time limit or the cap. -/
theorem one_banner_per_delivery (hdistinct : Distinct claims)
    (h : Relation.ReflTransGen (NotificationStep claims) ⟨{}, none⟩ s) : BannersKept claims s := by
  have hguarded := guarded hdistinct h
  have hs := hguarded.sound
  refine ⟨?_, ?_, ?_, ?_⟩
  · intro claim hclaim
    have hsame : ∀ banner ∈ s.state.banners.filter fun banner => banner.Carries claim.token,
        ∀ banner' ∈ s.state.banners.filter fun banner => banner.Carries claim.token,
          banner = banner' := by
      intro banner hbanner banner' hbanner'
      obtain ⟨hmem, hcarries⟩ := List.mem_filter.mp hbanner
      obtain ⟨hmem', hcarries'⟩ := List.mem_filter.mp hbanner'
      obtain ⟨row, hrow, hmatches, -, htoken⟩ :=
        hs.token_of_carries hmem (of_decide_eq_true hcarries)
      obtain ⟨row', hrow', hmatches', -, htoken'⟩ :=
        hs.token_of_carries hmem' (of_decide_eq_true hcarries')
      have hrows := hs.row_of_token hdistinct hrow hrow' (htoken.trans htoken'.symm)
      subst hrows
      exact hs.single banner hmem banner' hmem' (hmatches.2.2.trans hmatches'.2.2.symm)
    have hnodup : (s.state.banners.filter fun banner => banner.Carries claim.token).Nodup :=
      hs.ids.of_map.filter _
    rcases hfilter : s.state.banners.filter fun banner => banner.Carries claim.token with
      _ | ⟨first, _ | ⟨second, rest⟩⟩
    · simp [hfilter]
    · simp [hfilter]
    · rw [hfilter] at hsame hnodup
      have hequal := hsame first List.mem_cons_self second (by simp)
      exact absurd (hequal ▸ List.mem_cons_self) (List.nodup_cons.mp hnodup).1
  · intro row hrow hretired banner hbanner hcarries
    obtain ⟨claim, hclaim, hfor⟩ := hs.claimed row hrow
    rw [hfor.token] at hcarries
    obtain ⟨owner, howner, -, hlive, htoken⟩ := hs.token_of_carries hbanner hcarries
    rw [hs.row_of_token hdistinct howner hrow (htoken.trans hfor.token.symm)] at hlive
    exact hretired hlive
  · intro s' hreach row hrow hretired
    have hguarded' := guarded hdistinct (h.trans hreach)
    have hmem : row ∈ s'.state.rows := by
      induction hreach with
      | refl => exact hrow
      | tail hearlier hlast ih =>
        have hbefore := guarded hdistinct (h.trans hearlier)
        rcases step_change hbefore hlast with hdrift | ⟨_, _, -, hchange⟩
        · rw [hdrift.1]
          exact ih hbefore
        · exact hchange.frozen row (ih hbefore) hretired
    exact ⟨hmem, fun row' hrow' hid => hguarded'.sound.row_unique hrow' hmem hid⟩
  · intro s' hstep row hrow hlive row' hrow' hid hretired
    rcases step_change hguarded hstep with hdrift | ⟨operation, program, hop, hchange⟩
    · rw [hdrift.1] at hrow'
      rw [hs.row_unique hrow' hrow hid] at hretired
      exact absurd hlive hretired
    · exact ⟨operation, program, hop, hchange.charged row hrow hlive row' hrow' hid hretired⟩

end Runs

end Yatagarasu.Cmux

namespace Yatagarasu.Cmux

def sampleDigest : String := "a49a97f7f4543cfa03fd9b34efd42f6aad8e2b07b7e2c43c47c1f7ab6ded2a58"

@[reducible] def sampleNotificationHost : NotificationHost where
  sha256Hex text :=
    if text = "event-1\x00delivery-1" then sampleDigest else String.ofList (List.replicate 64 '0')
  sha256Hex_length text := by
    split
    · decide
    · exact (String.length_ofList).trans List.length_replicate
  addFloat now ttl :=
    match now, ttl with
    | .finite a, .finite b => .finite (a + b)
    | time, _ => time

def samplePublication : NotificationClaim where
  eventId := "event-1"
  deliveryId := "delivery-1"
  seatId := "yua"
  workspaceId := "workspace-yua"
  surfaceId := "surface-yua"
  title := "Yatagarasu"
  body := "message"

def sampleLifecycle : NotificationLifecycle := ⟨8, .finite 86400⟩

def samplePrepared : NotificationRow :=
  @NotificationClaim.row sampleNotificationHost samplePublication sampleLifecycle (.finite 1)

/-- The process has died between the creation of the banner and the next statement. -/
def sampleCrashed : NotificationPlant (· = samplePublication) :=
  ⟨{ rows := [samplePrepared], banners := [samplePrepared.banner "banner-1"] }, none⟩

theorem sample_crash : Relation.ReflTransGen
    (@NotificationStep sampleNotificationHost (· = samplePublication)) ⟨{}, none⟩
      sampleCrashed := by
  have hcreate : NotificationDesk.Serves (.create samplePrepared) ⟨[samplePrepared], []⟩ .done
      ⟨[samplePrepared], [samplePrepared.banner "banner-1"]⟩ := .create nofun (by simp)
  refine .head (.start ⟨.publish sampleLifecycle (.finite 1) samplePublication, rfl⟩) ?_
  refine .head .read ?_
  refine .head .read ?_
  refine .head (.serve (.insert (by decide))) ?_
  refine .head .read ?_
  refine .head (.serve .list) ?_
  refine .head (.serve hcreate) ?_
  exact .single .crash

theorem one_banner_per_delivery_crashed : sampleCrashed.state.banners ≠ [] ∧
    @BannersKept sampleNotificationHost (· = samplePublication) sampleCrashed := by
  refine ⟨List.cons_ne_nil _ _, ?_⟩
  refine @one_banner_per_delivery sampleNotificationHost (· = samplePublication) sampleCrashed ?_
    sample_crash
  rintro claim claim' rfl rfl -
  rfl

end Yatagarasu.Cmux
