import Yatagarasu.Cmux.Retirement

/-! Complete calls of one lifecycle, from an empty table and against any client: how many active
rows a seat has when `publish` returns. -/

namespace Yatagarasu.Cmux

open NotificationDesk Raising PyJson

/-- No two rows have the same delivery. -/
abbrev OneRowEach (rows : List NotificationRow) : Prop := (rows.map (·.deliveryId)).Nodup

/-- The live rows of these deliveries are retired. -/
def retireListed (reason : String) (state : NotificationState) (deliveries : List String)
    (rows : List NotificationRow) : List NotificationRow :=
  rows.map fun row =>
    if row.deliveryId ∈ deliveries ∧ row.state.Live then row.retired reason state else row

/-- The rows once what is due has been retired. -/
def afterExpiry (now : Timestamp) (rows : List NotificationRow) : List NotificationRow :=
  rows.map fun row =>
    if row.state.Live ∧ row.expiresAt.le now then row.retired "expired" .expired else row

section Rows

variable {α : Type} {rows rows' : List NotificationRow} {row : NotificationRow}
  {log : List Exchange} {deliveryId reason : String} {state : NotificationState}
  {deliveries : List String} {now : Timestamp}

theorem OneRowEach.row_unique {other : NotificationRow} (h : OneRowEach rows) (hrow : row ∈ rows)
    (hother : other ∈ rows) (hsame : row.deliveryId = other.deliveryId) : row = other :=
  List.inj_on_of_nodup_map h hrow hother hsame

theorem OneRowEach.find_eq (h : OneRowEach rows) (hrow : row ∈ rows)
    (hid : row.deliveryId = deliveryId) :
    rows.find? (·.deliveryId = deliveryId) = some row := by
  cases hfound : rows.find? (·.deliveryId = deliveryId) with
  | none => exact absurd hid (by simpa using List.find?_eq_none.mp hfound row hrow)
  | some other =>
    have hother : other.deliveryId = deliveryId := by simpa using List.find?_some hfound
    rw [h.row_unique hrow (List.mem_of_find?_eq_some hfound) (hid.trans hother.symm)]

theorem OneRowEach.map {update : NotificationRow → NotificationRow} (h : OneRowEach rows)
    (hid : ∀ row, (update row).deliveryId = row.deliveryId) : OneRowEach (rows.map update) := by
  have hsame : (fun row => row.deliveryId) ∘ update = fun row => row.deliveryId := funext hid
  unfold OneRowEach
  rw [List.map_map, hsame]
  exact h

theorem answers_keyed {request : NotificationRequest} {reply : NotificationReply}
    (hkeys : OneRowEach rows) (h : Answers request rows reply rows') : OneRowEach rows' := by
  cases h with
  | command => exact hkeys
  | statement hstatement hserves =>
    cases hserves with
    | list | create | dismiss => exact absurd trivial hstatement
    | reject hcommand => exact absurd hcommand hstatement
    | fail | refuse | taken => exact hkeys
    | insert hfresh =>
      unfold OneRowEach
      rw [List.map_append, List.map_singleton]
      refine List.nodup_append.mpr ⟨hkeys, List.nodup_singleton _, ?_⟩
      intro old hold new hnew heq
      obtain ⟨other, hother, rfl⟩ := List.mem_map.mp hold
      rw [List.mem_singleton.mp hnew] at heq
      exact hfresh (.inl ⟨other, hother, .inl heq⟩)
    | activate => exact hkeys.map fun row => by split <;> rfl
    | retire => exact hkeys.map fun row => by split <;> rfl

theorem ran_keyed {x : NotificationScript α} {res : Except NotificationError α}
    (hkeys : OneRowEach rows) (h : Ran x rows log res rows') : OneRowEach rows' :=
  Program.conducts_keeps (fun _ _ _ _ hkeys h => answers_keyed hkeys h) h hkeys

theorem retireListed_nil : retireListed reason state [] rows = rows := by
  simp [retireListed]

/-- A row that is not live is retired by nothing. -/
theorem retireListed_cons_of_not_live (hkeys : OneRowEach rows) (h : ∀ row,
    rows.find? (·.deliveryId = deliveryId) = some row → ¬ row.state.Live) :
    retireListed reason state (deliveryId :: deliveries) rows =
      retireListed reason state deliveries rows := by
  apply List.map_congr_left
  intro row hrow
  by_cases hid : row.deliveryId = deliveryId
  · have hretired := h row (hkeys.find_eq hrow hid)
    rw [if_neg fun hlisted => hretired hlisted.2, if_neg fun hlisted => hretired hlisted.2]
  · simp [hid]

theorem retireListed_cons (hkeys : OneRowEach rows) (hstate : ¬ state.Live)
    (hrow : rows.find? (·.deliveryId = deliveryId) = some row) (hlive : row.state.Live) :
    retireListed reason state deliveries (NotificationDesk.retire rows deliveryId reason state) =
      retireListed reason state (deliveryId :: deliveries) rows := by
  unfold retireListed NotificationDesk.retire
  rw [List.map_map]
  apply List.map_congr_left
  intro other hother
  dsimp only [Function.comp_apply]
  by_cases hid : other.deliveryId = deliveryId
  · obtain ⟨hmem, hrowId⟩ := find_row hrow
    have hsame : other = row := hkeys.row_unique hother hmem (hid.trans hrowId.symm)
    rw [if_pos hid, if_neg fun hlisted => hstate hlisted.2, hsame]
    exact (if_pos ⟨by simp [hrowId], hlive⟩).symm
  · simp [hid]

theorem retireAll_ran (hkeys : OneRowEach rows) (hstate : ¬ state.Live)
    (h : Ran (retireAll reason state deliveries) rows log (.ok ()) rows') :
    rows' = retireListed reason state deliveries rows := by
  induction deliveries generalizing rows log with
  | nil =>
    obtain ⟨-, -, rfl⟩ := conducts_pure.mp h
    exact retireListed_nil.symm
  | cons deliveryId rest ih =>
    obtain ⟨retired, middle, before, after, -, hfirst, hrest⟩ := conducts_bind_ok.mp h
    rw [ih (ran_keyed hkeys hfirst) hrest]
    cases retireDelivery_ran hfirst with
    | nothing hnone => exact (retireListed_cons_of_not_live hkeys hnone).symm
    | retired hrow hlive => exact retireListed_cons hkeys hstate hrow hlive

theorem expire_ran {count : Nat} (hkeys : OneRowEach rows)
    (h : Ran (expire now) rows log (.ok count) rows') : rows' = afterExpiry now rows := by
  obtain ⟨due, middle, before, after, -, hread, hrest⟩ := conducts_bind_ok.mp h
  obtain ⟨-, hdue, rfl⟩ := conducts_fetch.mp hread
  cases hdue
  obtain ⟨_, last, before', after', -, hloop, hend⟩ := conducts_bind_ok.mp hrest
  obtain ⟨-, -, rfl⟩ := conducts_pure.mp hend
  rw [retireAll_ran hkeys (by decide) hloop]
  apply List.map_congr_left
  intro row hrow
  have hlisted : row.deliveryId ∈ expiredDeliveries now middle ∧ row.state.Live ↔
      row.state.Live ∧ row.expiresAt.le now := by
    constructor
    · rintro ⟨hmem, hlive⟩
      obtain ⟨other, hother, hid, hdue⟩ := mem_expiredDeliveries hmem
      rw [hkeys.row_unique hother hrow hid] at hdue
      exact ⟨hlive, hdue⟩
    · rintro ⟨hlive, hdue⟩
      refine ⟨List.mem_map.mpr ⟨row, (List.mem_insertionSort _).mpr ?_, rfl⟩, hlive⟩
      exact List.mem_filter.mpr ⟨hrow, by simp [hlive, hdue]⟩
  exact if_congr hlisted rfl rfl

theorem enforceCap_ran {perSeatCap : Nat} {seatId : String} (hkeys : OneRowEach rows)
    (h : Ran (enforceCap perSeatCap seatId deliveryId) rows log (.ok ()) rows') :
    rows' = retireListed "per-seat-cap" .evicted
      (excessDeliveries perSeatCap seatId deliveryId rows) rows := by
  obtain ⟨excess, middle, before, after, -, hread, hloop⟩ := conducts_bind_ok.mp h
  obtain ⟨-, hexcess, rfl⟩ := conducts_fetch.mp hread
  cases hexcess
  exact retireAll_ran hkeys (by decide) hloop

end Rows

section Evictions

variable {rows : List NotificationRow} {row : NotificationRow} {seatId keepDeliveryId : String}
  {perSeatCap : Nat} {now : Timestamp}

theorem mem_activeOn : row ∈ activeOn seatId rows ↔
    row ∈ rows ∧ row.seatId = seatId ∧ row.state = .active := by
  simp [activeOn]

theorem activeOn_retireListed {reason : String} {state : NotificationState}
    {deliveries : List String} (hstate : ¬ state.Live) :
    activeOn seatId (retireListed reason state deliveries rows) =
      (activeOn seatId rows).filter (·.deliveryId ∉ deliveries) := by
  induction rows with
  | nil => rfl
  | cons row rest ih =>
    unfold activeOn retireListed at ih ⊢
    rw [List.map_cons, List.filter_cons, List.filter_cons, ih]
    by_cases hlisted : row.deliveryId ∈ deliveries ∧ row.state.Live
    · have hgone : (row.retired reason state).state ≠ .active := fun hactive =>
        hstate (.inr hactive)
      rw [if_pos hlisted, if_neg (by simp [hgone])]
      split
      · rw [List.filter_cons_of_neg (by simp [hlisted.1])]
      · rfl
    · rw [if_neg hlisted]
      by_cases hactive : row.seatId = seatId ∧ row.state = .active
      · have hunlisted : row.deliveryId ∉ deliveries := fun hmem =>
          hlisted ⟨hmem, .inr hactive.2⟩
        rw [if_pos (by simp [hactive]), if_pos (by simp [hactive]),
          List.filter_cons_of_pos (by simp [hunlisted])]
      · rw [if_neg (by simpa using hactive), if_neg (by simpa using hactive)]

/-- The active rows whose time is not over stay active, and no other row does. -/
theorem activeOn_afterExpiry : activeOn seatId (afterExpiry now rows) =
    (activeOn seatId rows).filter fun row => ¬ row.expiresAt.le now := by
  induction rows with
  | nil => rfl
  | cons row rest ih =>
    unfold activeOn afterExpiry at ih ⊢
    rw [List.map_cons, List.filter_cons, List.filter_cons, ih]
    by_cases hdue : row.state.Live ∧ row.expiresAt.le now
    · rw [if_pos hdue, if_neg (by simp [NotificationRow.retired])]
      split
      · rw [List.filter_cons_of_neg (by simp [hdue.2])]
      · rfl
    · rw [if_neg hdue]
      by_cases hactive : row.seatId = seatId ∧ row.state = .active
      · have hlater : ¬ row.expiresAt.le now := fun hle => hdue ⟨.inr hactive.2, hle⟩
        rw [if_pos (by simp [hactive]), if_pos (by simp [hactive]),
          List.filter_cons_of_pos (by simp [hlater])]
      · rw [if_neg (by simpa using hactive), if_neg (by simpa using hactive)]

theorem excess_sublist : (excessDeliveries perSeatCap seatId keepDeliveryId rows).Sublist
    ((inOrder (activeOn seatId rows)).map (·.deliveryId)) :=
  ((List.take_sublist _ _).trans List.filter_sublist).map _

theorem inOrder_perm (rows : List NotificationRow) : (inOrder rows).Perm rows :=
  List.perm_insertionSort _ rows

theorem keep_not_excess :
    keepDeliveryId ∉ excessDeliveries perSeatCap seatId keepDeliveryId rows := by
  intro hmem
  obtain ⟨row, hrow, hid⟩ := List.mem_map.mp hmem
  have hkept := (List.mem_filter.mp (List.mem_of_mem_take hrow)).2
  exact absurd hid (by simpa using hkept)

theorem OneRowEach.inOrder_activeOn (hkeys : OneRowEach rows) :
    OneRowEach (inOrder (activeOn seatId rows)) := by
  refine ((inOrder_perm _).map _).nodup_iff.mpr ?_
  exact List.Nodup.sublist (List.filter_sublist.map _) hkeys

/-- At most one row is kept, so the rest covers the excess. -/
theorem excess_length (seatId keepDeliveryId : String) (hkeys : OneRowEach rows)
    (hcap : 1 ≤ perSeatCap) :
    (excessDeliveries perSeatCap seatId keepDeliveryId rows).length =
      (activeOn seatId rows).length - perSeatCap := by
  have hactive : OneRowEach (inOrder (activeOn seatId rows)) := hkeys.inOrder_activeOn
  have hlength := (inOrder_perm (activeOn seatId rows)).length_eq
  generalize hsorted : inOrder (activeOn seatId rows) = sorted at hactive hlength
  have hkept : (sorted.filter (·.deliveryId = keepDeliveryId)).length ≤ 1 := by
    have hcount := List.nodup_iff_count_le_one.mp hactive keepDeliveryId
    rw [List.count, List.countP_map, List.countP_eq_length_filter] at hcount
    simpa [Function.comp_def, beq_eq_decide] using hcount
  have hsplit : sorted.length = (sorted.filter (·.deliveryId = keepDeliveryId)).length +
      (sorted.filter (·.deliveryId ≠ keepDeliveryId)).length := by
    simpa using sorted.length_eq_length_filter_add (·.deliveryId = keepDeliveryId)
  unfold excessDeliveries
  rw [hsorted, List.length_map, List.length_take, ← hlength]
  omega

/-- The evictions take the seat down to its cap. -/
theorem retained_length (seatId keepDeliveryId : String) (hkeys : OneRowEach rows)
    (hcap : 1 ≤ perSeatCap) :
    (activeOn seatId (retireListed "per-seat-cap" .evicted
      (excessDeliveries perSeatCap seatId keepDeliveryId rows) rows)).length ≤ perSeatCap := by
  rw [activeOn_retireListed (by decide)]
  have hexcess := excess_length seatId keepDeliveryId hkeys hcap
  have hordered : (excessDeliveries perSeatCap seatId keepDeliveryId rows).Sublist
    ((inOrder (activeOn seatId rows)).map (·.deliveryId)) := excess_sublist
  generalize excessDeliveries perSeatCap seatId keepDeliveryId rows = excess at hexcess hordered ⊢
  have hsplit : (activeOn seatId rows).length =
      ((activeOn seatId rows).filter (·.deliveryId ∈ excess)).length +
        ((activeOn seatId rows).filter (·.deliveryId ∉ excess)).length := by
    simpa using (activeOn seatId rows).length_eq_length_filter_add (·.deliveryId ∈ excess)
  -- each of the deliveries to evict is one of the active rows
  have hevicted : excess ⊆
      ((activeOn seatId rows).filter (·.deliveryId ∈ excess)).map (·.deliveryId) := by
    intro deliveryId hmem
    obtain ⟨row, hrow, rfl⟩ := List.mem_map.mp (hordered.subset hmem)
    refine List.mem_map.mpr ⟨row, List.mem_filter.mpr ⟨?_, by simpa using hmem⟩, rfl⟩
    exact (inOrder_perm _).mem_iff.mp hrow
  have hdistinct : excess.Nodup := hordered.nodup hkeys.inOrder_activeOn
  have hlength := (List.subperm_of_subset hdistinct hevicted).length_le
  rw [List.length_map] at hlength
  omega

end Evictions

section Publish

variable {rows rows' : List NotificationRow} {row : NotificationRow} {log : List Exchange}

theorem command_ran {request : NotificationRequest}
    (h : Ran (command request) rows log (.ok ()) rows') :
    ∃ reply, (reply = .done ∨ ∃ result, reply = .returned result) ∧
      Answers request rows reply rows' := by
  obtain ⟨reply, middle, before, after, -, hsend, hend⟩ := conducts_bind_ok.mp h
  obtain ⟨reply', -, hres, hanswers⟩ := conducts_send.mp hsend
  cases hres
  cases reply with
  | done =>
    obtain ⟨-, -, rfl⟩ := conducts_pure.mp hend
    exact ⟨_, .inl rfl, hanswers⟩
  | returned result =>
    obtain ⟨-, -, rfl⟩ := conducts_pure.mp hend
    exact ⟨_, .inr ⟨result, rfl⟩, hanswers⟩
  | streamProtocolError | integrityError | otherError =>
    obtain ⟨-, hres, -⟩ := conducts_throw.mp hend
    cases hres

theorem showBanner_ran {found : List Dict} (h : Ran (showBanner row) rows log (.ok found) rows') :
    rows' = rows := by
  obtain ⟨matching, middle, before, after, -, hlist, hrest⟩ := conducts_bind_ok.mp h
  have hkept : middle = rows := (matchingNotifications_ran hlist).1
  by_cases hnone : matching = []
  · rw [if_pos hnone] at hrest
    obtain ⟨_, last, before', after', -, hcreate, hagain⟩ := conducts_bind_ok.mp hrest
    obtain ⟨reply, -, hanswers⟩ := command_ran hcreate
    have hcreated : last = middle := command_answers (by exact trivial) hanswers
    rw [(matchingNotifications_ran hagain).1, hcreated, hkept]
  · rw [if_neg hnone] at hrest
    obtain ⟨-, -, rfl⟩ := conducts_pure.mp hrest
    exact hkept

theorem recordOf_ran {record : NotificationRecord}
    (h : Ran (recordOf row) rows log (.ok record) rows') : rows' = rows := by
  unfold recordOf at h
  cases hid : row.notificationId with
  | none =>
    rw [hid] at h
    obtain ⟨-, hres, -⟩ := conducts_throw.mp h
    cases hres
  | some notificationId =>
    rw [hid] at h
    exact (conducts_pure.mp h).2.2

/-- The prepared row becomes active, and then the evictions go through. -/
theorem activateRow_ran {lifecycle : NotificationLifecycle} {found : List Dict}
    {record : NotificationRecord} (hkeys : OneRowEach rows)
    (h : Ran (activateRow lifecycle row found) rows log (.ok record) rows') :
    ∃ notificationId, let active := NotificationDesk.activate rows row.deliveryId notificationId
      rows' = retireListed "per-seat-cap" .evicted
        (excessDeliveries lifecycle.perSeatCap row.seatId row.deliveryId active) active := by
  unfold activateRow at h
  split at h
  · split at h
    · obtain ⟨-, hres, -⟩ := conducts_throw.mp h
      cases hres
    · rename_i notificationId _
      obtain ⟨_, active, before, after, -, hactivate, hrest⟩ := conducts_bind_ok.mp h
      obtain ⟨_, evicted, before', after', -, hcap, hend⟩ := conducts_bind_ok.mp hrest
      have hactive : active = NotificationDesk.activate rows row.deliveryId notificationId := by
        obtain ⟨reply, hreply, hanswers⟩ := command_ran hactivate
        cases hanswers with
        | command hcommand => exact hcommand.elim
        | statement _ hserves =>
          cases hserves with
          | activate => rfl
          | reject hcommand => exact hcommand.elim
          | fail | taken => simp at hreply
      subst hactive
      refine ⟨notificationId, ?_⟩
      dsimp only
      rw [← enforceCap_ran (ran_keyed hkeys hactivate) hcap]
      obtain ⟨found, last, before', after', -, hread, hend⟩ := conducts_bind_ok.mp hend
      obtain ⟨-, -, rfl⟩ := conducts_fetch.mp hread
      cases found with
      | none =>
        obtain ⟨-, hres, -⟩ := conducts_throw.mp hend
        cases hres
      | some shown =>
        exact recordOf_ran hend
  · obtain ⟨-, hres, -⟩ := conducts_throw.mp h
    cases hres

theorem preparedRow_ran {deliveryId : String}
    (h : Ran (preparedRow deliveryId) rows log (.ok row) rows') :
    rows.find? (·.deliveryId = deliveryId) = some row ∧ rows' = rows := by
  obtain ⟨found, middle, before, after, -, hread, hend⟩ := conducts_bind_ok.mp h
  obtain ⟨-, hfound, rfl⟩ := conducts_fetch.mp hread
  cases found with
  | none =>
    obtain ⟨-, hres, -⟩ := conducts_throw.mp hend
    cases hres
  | some shown =>
    obtain ⟨-, hres, rfl⟩ := conducts_pure.mp hend
    cases hres
    exact ⟨(Except.ok.inj hfound).symm, rfl⟩

variable [NotificationHost] {claim : NotificationClaim} {lifecycle : NotificationLifecycle}
  {now : Timestamp}

/-- The row of a new delivery is inserted and read back. -/
theorem prepareRow_ran (hnew : rows.find? (·.deliveryId = claim.deliveryId) = none)
    (h : Ran (prepareRow lifecycle now claim) rows log (.ok row) rows') :
    row = claim.row lifecycle now ∧ rows' = rows ++ [row] := by
  obtain ⟨reply, inserted, before, after, -, hsend, hrest⟩ := conducts_bind_ok.mp h
  obtain ⟨reply', -, hres, hanswers⟩ := conducts_send.mp hsend
  cases hres
  cases hanswers with
  | command hcommand => exact hcommand.elim
  | statement _ hserves =>
    cases hserves with
    | insert =>
      obtain ⟨hfound, rfl⟩ := preparedRow_ran hrest
      rw [List.find?_append, hnew, Option.none_or, List.find?_singleton] at hfound
      have hid : (claim.row lifecycle now).deliveryId = claim.deliveryId := rfl
      rw [if_pos (by simp [hid])] at hfound
      cases hfound
      exact ⟨rfl, rfl⟩
    | refuse =>
      -- nobody else writes, so there is no winner
      obtain ⟨found, last, before', after', -, hread, hend⟩ := conducts_bind_ok.mp hrest
      obtain ⟨-, hfound, -⟩ := conducts_fetch.mp hread
      rw [id, hnew] at hfound
      cases hfound
      obtain ⟨_, _, _, _, -, hthrow, -⟩ := conducts_bind_ok.mp hend
      obtain ⟨-, hres, -⟩ := conducts_throw.mp hthrow
      cases hres
    | reject hcommand => exact hcommand.elim
    | fail =>
      obtain ⟨_, _, _, _, -, hthrow, -⟩ := conducts_bind_ok.mp hrest
      obtain ⟨-, hres, -⟩ := conducts_throw.mp hthrow
      cases hres

theorem assertSameClaim_ran (h : Ran (assertSameClaim claim row) rows log (.ok ()) rows') :
    claim.Same row ∧ rows' = rows := by
  unfold assertSameClaim at h
  by_cases hsame : claim.Same row
  · rw [if_pos hsame] at h
    exact ⟨hsame, (conducts_pure.mp h).2.2⟩
  · rw [if_neg hsame] at h
    obtain ⟨-, hres, -⟩ := conducts_throw.mp h
    cases hres

/-- What a call of `publish` that returns has done. -/
inductive Published (lifecycle : NotificationLifecycle) (now : Timestamp)
    (claim : NotificationClaim) (rows : List NotificationRow) : List NotificationRow → Prop
  /-- The delivery is active already, and nothing but what is due is retired. -/
  | again {row : NotificationRow} : row ∈ afterExpiry now rows →
      row.deliveryId = claim.deliveryId → row.seatId = claim.seatId → row.state = .active →
      Published lifecycle now claim rows (afterExpiry now rows)
  /-- The delivery has become active, and the seat's excess is evicted. -/
  | shown {row : NotificationRow} {active : List NotificationRow} : OneRowEach active →
      row ∈ active → row.deliveryId = claim.deliveryId → row.seatId = claim.seatId →
      row.state = .active →
      (∀ old ∈ afterExpiry now rows, old.deliveryId = claim.deliveryId → old.state = .prepared) →
      Published lifecycle now claim rows (retireListed "per-seat-cap" .evicted
        (excessDeliveries lifecycle.perSeatCap claim.seatId claim.deliveryId active) active)

omit [NotificationHost] in
/-- A prepared row that gets its banner. -/
theorem published_of_shown {found : List Dict} {record : NotificationRecord}
    {middle : List NotificationRow} (hkeys : OneRowEach middle) (hrow : row ∈ middle)
    (hprepared : row.state = .prepared) (hid : row.deliveryId = claim.deliveryId)
    (hseat : row.seatId = claim.seatId)
    (hold : ∀ old ∈ afterExpiry now rows, old.deliveryId = claim.deliveryId → old.state = .prepared)
    (h : Ran (activateRow lifecycle row found) middle log (.ok record) rows') :
    Published lifecycle now claim rows rows' := by
  obtain ⟨notificationId, rfl⟩ := activateRow_ran hkeys h
  rw [hid, hseat]
  have hshown : { row with notificationId := some notificationId, state := .active } ∈
      NotificationDesk.activate middle claim.deliveryId notificationId :=
    List.mem_map.mpr ⟨row, hrow, if_pos ⟨hid, hprepared⟩⟩
  exact .shown (hkeys.map fun row => by split <;> rfl) hshown hid hseat rfl hold

theorem publish_ran {record : NotificationRecord} (hkeys : OneRowEach rows)
    (h : Ran (publish lifecycle now claim) rows log (.ok record) rows') :
    Published lifecycle now claim rows rows' := by
  obtain ⟨_, middle, before, after, -, hexpire, hrest⟩ := conducts_bind_ok.mp h
  have hmiddle := ran_keyed hkeys hexpire
  obtain rfl := expire_ran hkeys hexpire
  obtain ⟨found, last, before', after', -, hread, hbody⟩ := conducts_bind_ok.mp hrest
  obtain ⟨-, hfound, rfl⟩ := conducts_fetch.mp hread
  cases found with
  | none =>
    have hnone : (afterExpiry now rows).find? (·.deliveryId = claim.deliveryId) = none :=
      (Except.ok.inj hfound).symm
    obtain ⟨row, prepared, _, _, -, hprepare, hshow⟩ := conducts_bind_ok.mp hbody
    obtain ⟨banners, last, _, _, -, hshow, hactivate⟩ := conducts_bind_ok.mp hshow
    have hinserted := ran_keyed hmiddle hprepare
    obtain ⟨rfl, rfl⟩ := prepareRow_ran hnone hprepare
    rw [showBanner_ran hshow] at hactivate
    refine published_of_shown hinserted (by simp) rfl rfl rfl ?_ hactivate
    intro old hold hid
    exact absurd hid (by simpa using List.find?_eq_none.mp hnone old hold)
  | some row =>
    obtain ⟨hrow, hid⟩ := find_row (Except.ok.inj hfound).symm
    obtain ⟨_, checked, _, _, -, hcheck, hbody⟩ := conducts_bind_ok.mp hbody
    obtain ⟨hsame, rfl⟩ := assertSameClaim_ran hcheck
    have hseat : row.seatId = claim.seatId := hsame.2.2.1
    by_cases hactive : row.state = .active
    · rw [if_pos hactive] at hbody
      rw [recordOf_ran hbody]
      exact .again hrow hid hseat hactive
    · rw [if_neg hactive] at hbody
      by_cases hprepared : row.state = .prepared
      · rw [if_neg (not_not.mpr hprepared)] at hbody
        obtain ⟨banners, last, _, _, -, hshow, hactivate⟩ := conducts_bind_ok.mp hbody
        rw [showBanner_ran hshow] at hactivate
        refine published_of_shown hmiddle hrow hprepared hid hseat ?_ hactivate
        intro old hold holdId
        rwa [hmiddle.row_unique hold hrow (holdId.trans hid.symm)]
      · rw [if_pos hprepared] at hbody
        obtain ⟨-, hres, -⟩ := conducts_throw.mp hbody
        cases hres

end Publish

/-- The seat is within its cap, and the published delivery is one of its active rows. -/
structure Capped (perSeatCap : Nat) (claim : NotificationClaim) (rows : List NotificationRow) :
    Prop where
  seat : (activeOn claim.seatId rows).length ≤ perSeatCap
  published : ∃ row ∈ activeOn claim.seatId rows, row.deliveryId = claim.deliveryId

/-- The delivery is active and not due, and its seat has more such rows than its cap. -/
structure Overfull (perSeatCap : Nat) (now : Timestamp) (claim : NotificationClaim)
    (rows : List NotificationRow) : Prop where
  active : ∃ row ∈ rows, row.deliveryId = claim.deliveryId ∧ row.state = .active ∧
    ¬ row.expiresAt.le now
  seat : perSeatCap <
    ((activeOn claim.seatId rows).filter fun row => ¬ row.expiresAt.le now).length

/-- One complete call, with the rows around it. -/
structure LifecycleCall where
  operation : NotificationOperation
  before : List NotificationRow
  returned : Bool
  after : List NotificationRow

section Histories

variable [NotificationHost] {lifecycle : NotificationLifecycle} {call : LifecycleCall}
  {calls : List LifecycleCall} {rows rows' : List NotificationRow} {claim : NotificationClaim}
  {now : Timestamp}

/-- A call of this lifecycle, which may raise anywhere. -/
inductive Performs (lifecycle : NotificationLifecycle) : LifecycleCall → Prop
  | publish {now claim rows log res rows'} :
      Ran (publish lifecycle now claim) rows log res rows' →
      Performs lifecycle ⟨.publish lifecycle now claim, rows, res.isOk, rows'⟩
  | onReceipt {notice rows log res rows'} : Ran (onReceipt notice) rows log res rows' →
      Performs lifecycle ⟨.onReceipt notice, rows, res.isOk, rows'⟩
  | onNotificationRead {notificationId rows log res rows'} :
      Ran (onNotificationRead notificationId) rows log res rows' →
      Performs lifecycle ⟨.onNotificationRead notificationId, rows, res.isOk, rows'⟩
  | expire {now rows log res rows'} : Ran (expire now) rows log res rows' →
      Performs lifecycle ⟨.expire now, rows, res.isOk, rows'⟩

/-- The calls so far, from an empty table, and the rows that they have left. -/
inductive LifecycleRun (lifecycle : NotificationLifecycle) :
    List LifecycleCall → List NotificationRow → Prop
  | empty : LifecycleRun lifecycle [] []
  | next {before : List LifecycleCall} {last : LifecycleCall} :
      LifecycleRun lifecycle before last.before → Performs lifecycle last →
      LifecycleRun lifecycle (before ++ [last]) last.after

theorem performs_keyed (h : Performs lifecycle call) (hkeys : OneRowEach call.before) :
    OneRowEach call.after := by
  cases h with
  | publish hran | onReceipt hran | onNotificationRead hran | expire hran =>
    exact ran_keyed hkeys hran

theorem LifecycleRun.keyed (h : LifecycleRun lifecycle calls rows) : OneRowEach rows := by
  induction h with
  | empty => exact List.nodup_nil
  | next _ hperforms ih => exact performs_keyed hperforms ih

omit [NotificationHost] in
theorem published_capped_iff (hcap : 1 ≤ lifecycle.perSeatCap)
    (h : Published lifecycle now claim rows rows') :
    Capped lifecycle.perSeatCap claim rows' ↔ ¬ Overfull lifecycle.perSeatCap now claim rows := by
  cases h with
  | @again row hrow hid hseat hactive =>
    have hshown : row ∈ activeOn claim.seatId (afterExpiry now rows) :=
      mem_activeOn.mpr ⟨hrow, hseat, hactive⟩
    constructor
    · intro hcapped hoverfull
      have hmore := hoverfull.seat
      rw [← activeOn_afterExpiry] at hmore
      have hless := hcapped.seat
      omega
    · intro hfits
      refine ⟨?_, row, hshown, hid⟩
      by_contra hmore
      rw [activeOn_afterExpiry] at hshown hmore
      obtain ⟨hmem, hlater⟩ := List.mem_filter.mp hshown
      have hold := mem_activeOn.mp hmem
      exact hfits ⟨⟨row, hold.1, hid, hactive, by simpa using hlater⟩, by omega⟩
  | @shown row active hkeys hrow hid hseat hactive hold =>
    refine iff_of_true ⟨retained_length _ _ hkeys hcap, row, ?_, hid⟩ ?_
    · rw [activeOn_retireListed (by decide)]
      refine List.mem_filter.mpr ⟨mem_activeOn.mpr ⟨hrow, hseat, hactive⟩, ?_⟩
      rw [hid]
      simpa using keep_not_excess
    · rintro ⟨⟨old, hmem, holdId, hlive, hlater⟩, -⟩
      have hkept : old ∈ afterExpiry now rows :=
        List.mem_map.mpr ⟨old, hmem, if_neg fun hdue => hlater hdue.2⟩
      have hprepared := hold old hkept holdId
      rw [hlive] at hprepared
      cases hprepared

/-- Whenever `publish` returns, its seat is within the cap and shows the delivery, unless the
delivery was active already while the seat was overfull. -/
theorem publish_capped_iff (hcap : 1 ≤ lifecycle.perSeatCap)
    (h : LifecycleRun lifecycle calls rows) :
    ∀ call ∈ calls, ∀ now claim, call.operation = .publish lifecycle now claim →
      call.returned = true → (Capped lifecycle.perSeatCap claim call.after ↔
        ¬ Overfull lifecycle.perSeatCap now claim call.before) := by
  induction h with
  | empty => exact fun call hmem => absurd hmem List.not_mem_nil
  | @next earlier last hbefore hperforms ih =>
    intro call hmem now claim hpublish hreturned
    rcases List.mem_append.mp hmem with hmem | hmem
    · exact ih call hmem now claim hpublish hreturned
    · obtain rfl := List.mem_singleton.mp hmem
      cases hperforms with
      | onReceipt | onNotificationRead | expire => cases hpublish
      | @publish now' claim' before log res after hran =>
        cases hpublish
        cases res with
        | error e => cases hreturned
        | ok record => exact published_capped_iff hcap (publish_ran hbefore.keyed hran)

end Histories

/-- A lifecycle that shows one banner on each seat. -/
def sampleSingle : NotificationLifecycle := ⟨1, .finite 86400⟩

def sampleLater : NotificationClaim :=
  { samplePublication with eventId := "event-2", deliveryId := "delivery-2" }

def sampleInserted (claim : NotificationClaim) (now : Timestamp) : NotificationRow :=
  @NotificationClaim.row sampleNotificationHost claim sampleSingle now

def sampleFirst : NotificationRow :=
  { sampleInserted samplePublication (.finite 1) with
    notificationId := some "banner-1", state := .active }

def sampleSecond : NotificationRow :=
  { sampleInserted sampleLater (.finite 2) with
    notificationId := some "banner-2", state := .active }

/-- The second publication: the dismissal of the first banner fails. -/
def sampleRefused : List Exchange :=
  [(.insert (sampleInserted sampleLater (.finite 2)), .done),
    (.list, .returned (listing [sampleFirst.banner "banner-1"])),
    (.create (sampleInserted sampleLater (.finite 2)), .done),
    (.list, .returned (listing [sampleFirst.banner "banner-1", sampleSecond.banner "banner-2"])),
    (.activate "delivery-2" "banner-2", .done), (.dismiss "banner-1", .otherError)]

/-- The same publication once more. -/
def sampleRepeat : LifecycleCall :=
  ⟨.publish sampleSingle (.finite 3) sampleLater, [sampleFirst, sampleSecond], true,
    [sampleFirst, sampleSecond]⟩

def sampleCalls : List LifecycleCall :=
  [⟨.publish sampleSingle (.finite 1) samplePublication, [], true, [sampleFirst]⟩,
    ⟨.publish sampleSingle (.finite 2) sampleLater, [sampleFirst], false,
      [sampleFirst, sampleSecond]⟩, sampleRepeat]

theorem answers_list (rows : List NotificationRow) (result : Json) :
    Answers .list rows (.returned result) rows := .command trivial (by simp)

theorem answers_create (rows : List NotificationRow) (row : NotificationRow) :
    Answers (.create row) rows .done rows := .command trivial (by simp)

theorem expire_idle {rows : List NotificationRow} {now : Timestamp}
    (h : expiredDeliveries now rows = []) : Ran (expire now) rows [] (.ok 0) rows := by
  refine conducts_bind.mpr (.inr ⟨_, _, [], [], rfl, conducts_fetch.mpr ⟨rfl, rfl, rfl⟩, ?_⟩)
  rw [id, h]
  exact ⟨rfl, rfl, rfl⟩

theorem sample_first_ran : ∃ log record,
    Ran (@publish sampleNotificationHost sampleSingle (.finite 1) samplePublication) [] log
      (.ok record) [sampleFirst] := by
  let row := sampleInserted samplePublication (.finite 1)
  have hinsert : Serves (.insert row) ⟨[], []⟩ .done ⟨[row], []⟩ := .insert (by decide)
  have hactivate : Serves (.activate "delivery-1" "banner-1") ⟨[row], []⟩ .done
      ⟨[sampleFirst], []⟩ := .activate (by decide)
  exact ⟨_, _, _, _, _, rfl, .statement id hinsert,
    _, _, _, rfl, answers_list _ (listing []), _, _, _, rfl, answers_create _ _,
    _, _, _, rfl, answers_list _ (listing [row.banner "banner-1"]),
    _, _, _, rfl, .statement id hactivate, rfl, rfl, rfl⟩

/-- The row is active when the call raises. -/
theorem sample_second_ran :
    Ran (@publish sampleNotificationHost sampleSingle (.finite 2) sampleLater) [sampleFirst]
      sampleRefused (.error .other) [sampleFirst, sampleSecond] := by
  let row := sampleInserted sampleLater (.finite 2)
  have hinsert : Serves (.insert row) ⟨[sampleFirst], []⟩ .done ⟨[sampleFirst, row], []⟩ :=
    .insert (by decide)
  have hactivate : Serves (.activate "delivery-2" "banner-2") ⟨[sampleFirst, row], []⟩ .done
      ⟨[sampleFirst, sampleSecond], []⟩ := .activate (by decide)
  have hfails : Answers (.dismiss "banner-1") [sampleFirst, sampleSecond] .otherError
      [sampleFirst, sampleSecond] := .command trivial (by simp)
  have hdue : expiredDeliveries (.finite 2) [sampleFirst] = [] := by decide +kernel
  refine conducts_bind.mpr (.inr ⟨0, _, [], _, rfl, expire_idle hdue, ?_⟩)
  exact ⟨_, _, _, rfl, .statement id hinsert, _, _, _, rfl, answers_list _ _,
    _, _, _, rfl, answers_create _ _, _, _, _, rfl, answers_list _ _,
    _, _, _, rfl, .statement id hactivate, _, _, _, rfl, hfails, rfl, rfl, rfl⟩

/-- The second call of the same delivery returns before it looks at the cap. -/
theorem sample_again_ran : ∃ log record,
    Ran (@publish sampleNotificationHost sampleSingle (.finite 3) sampleLater)
      [sampleFirst, sampleSecond] log (.ok record) [sampleFirst, sampleSecond] := by
  have hdue : expiredDeliveries (.finite 3) [sampleFirst, sampleSecond] = [] := by
    decide +kernel
  exact ⟨[], _, conducts_bind.mpr (.inr ⟨0, _, [], _, rfl, expire_idle hdue, rfl, rfl, rfl⟩)⟩

theorem sampleCalls_run :
    @LifecycleRun sampleNotificationHost sampleSingle sampleCalls [sampleFirst, sampleSecond] := by
  let _ := sampleNotificationHost
  obtain ⟨_, _, hfirst⟩ := sample_first_ran
  obtain ⟨_, _, hagain⟩ := sample_again_ran
  have hone : LifecycleRun sampleSingle [_] [sampleFirst] := .next .empty (.publish hfirst)
  have htwo : LifecycleRun sampleSingle [_, _] [sampleFirst, sampleSecond] :=
    .next hone (.publish sample_second_ran)
  exact .next htwo (.publish hagain)

/-- The first publication is within the cap. -/
theorem publish_capped_first : Capped 1 samplePublication [sampleFirst] := by
  refine (@publish_capped_iff sampleNotificationHost sampleSingle sampleCalls _ (by decide)
    sampleCalls_run _ List.mem_cons_self (.finite 1) samplePublication rfl rfl).mpr ?_
  rintro ⟨⟨row, hrow, -⟩, -⟩
  exact absurd hrow List.not_mem_nil

/-- A publication returns although its seat has more active rows than the cap. -/
theorem publish_overfull :
    ∃ calls rows, @LifecycleRun sampleNotificationHost sampleSingle calls rows ∧
      ∃ call ∈ calls, call.operation = .publish sampleSingle (.finite 3) sampleLater ∧
        call.returned = true ∧ ¬ Capped sampleSingle.perSeatCap sampleLater call.after := by
  refine ⟨sampleCalls, _, sampleCalls_run, sampleRepeat, by simp [sampleCalls], rfl, rfl, ?_⟩
  intro hcapped
  have htwo : (activeOn sampleLater.seatId sampleRepeat.after).length = 2 := by decide
  have hone := hcapped.seat
  rw [htwo] at hone
  exact absurd hone (by decide)

end Yatagarasu.Cmux
