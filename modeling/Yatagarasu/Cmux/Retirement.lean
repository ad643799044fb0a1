import Mathlib.Data.List.ReduceOption
import Yatagarasu.Cmux.Banners

/-! One call of `_retire_delivery` against any client: what it asked, what it was answered, and
whether the banners of the row are proven gone. -/

namespace Yatagarasu.Cmux

open NotificationDesk Raising PyJson

/-- A request with its answer. -/
abbrev Exchange := NotificationRequest × NotificationReply

/-- A whole run of the script against any client. -/
abbrev Ran {α : Type} (x : NotificationScript α) (rows : List NotificationRow)
    (log : List Exchange) (res : Except NotificationError α)
    (rows' : List NotificationRow) : Prop :=
  x.Conducts id Answers rows log res rows'

/-- The result is a well-formed list that has the id. -/
def Lists (result : Json) (id : String) : Prop :=
  ∃ items, listedItems result = some items ∧
    ∃ item ∈ dictItems items, eqStr (item.lookup "id") id = true

/-- A dismissal of the id returned. -/
def Dismissed (log : List Exchange) (id : String) : Prop :=
  (.dismiss id, .done) ∈ log ∨ ∃ result, (.dismiss id, .returned result) ∈ log

/-- A well-formed list of the call does not have the id. -/
def ShownAbsent (log : List Exchange) (id : String) : Prop :=
  ∃ result, (.list, .returned result) ∈ log ∧ listedItems result ≠ none ∧ ¬ Lists result id

/-- The banners that the row is known to have, or is listed to have at the start of the call, each
with its id if that is a text. -/
inductive BannerOf (row : NotificationRow) (log : List Exchange) : Option String → Prop
  | known {id : String} : row.notificationId = some id → id ≠ "" → BannerOf row log (some id)
  | listed {result : Json} {items : List Json} {item : Dict} {rest : List Exchange} :
      (∀ id, row.notificationId = some id → id = "") →
      log = (.list, .returned result) :: rest → listedItems result = some items →
      item ∈ dictItems items → row.matchesItem item = true → BannerOf row log (itemId item)

/-- How the client takes a dismissal without ending the call: it goes through, or it fails and this
is what the list that is asked for next returns. -/
inductive Passage
  | granted (result : Option Json)
  | missed (result : Json)

def Passage.exchanges (id : String) : Passage → List Exchange
  | granted none => [(.dismiss id, .done)]
  | granted (some result) => [(.dismiss id, .returned result)]
  | missed result => [(.dismiss id, .streamProtocolError), (.list, .returned result)]

def Passage.replies : Passage → List NotificationReply
  | granted none => [.done]
  | granted (some result) => [.returned result]
  | missed result => [.streamProtocolError, .returned result]

/-- No list that follows a failure shows the id. -/
def Passes (passages : List (String × Passage)) : Prop :=
  ∀ id result, (id, .missed result) ∈ passages → ¬ Lists result id

/-- The banners of a row, each with its id if that is a text: the recorded one, or those of a first
reply that is a well-formed list. -/
inductive Names (row : NotificationRow) : List NotificationReply → List (Option String) → Prop
  | recorded {id : String} : row.notificationId = some id → id ≠ "" → Names row [] [some id]
  | listed {result : Json} {items : List Json} :
      (∀ id, row.notificationId = some id → id = "") → listedItems result = some items →
      Names row [.returned result] (((dictItems items).filter row.matchesItem).map itemId)

/-- Every dismissal of the id fails with a malformed list after it, and the well-formed lists after
other failures show the id. -/
structure Overlooks (passages : List (String × Passage)) (id : String) : Prop where
  malformed : ∀ passage, (id, passage) ∈ passages →
    ∃ result, passage = .missed result ∧ listedItems result = none
  shown : ∀ other result, (other, .missed result) ∈ passages → listedItems result ≠ none →
    Lists result id

/-- With these replies no dismissal ends the call and the store takes the `UPDATE`, although a
banner of the row has no text as its id or is overlooked. -/
def Forgets (row : NotificationRow) (replies : List NotificationReply) : Prop :=
  ∃ first banners passages, Names row first banners ∧
    passages.map Prod.fst = banners.reduceOption ∧ Passes passages ∧
    replies = first ++ passages.flatMap (·.2.replies) ++ [.done] ∧
    ∃ banner ∈ banners, ∀ id, banner = some id → Overlooks passages id

section Exchanges

variable {rows rows' : List NotificationRow}

/-- A command leaves the table. -/
theorem command_answers {request : NotificationRequest} {reply : NotificationReply}
    (hcommand : request.IsCommand) (h : Answers request rows reply rows') : rows' = rows := by
  cases h with
  | command => rfl
  | statement hstatement => exact absurd hcommand hstatement

theorem retire_answers {deliveryId reason : String} {state : NotificationState}
    {reply : NotificationReply} (h : Answers (.retire deliveryId reason state) rows reply rows') :
    (reply = .done ∧ rows' = NotificationDesk.retire rows deliveryId reason state) ∨
      (reply = .otherError ∧ rows' = rows) := by
  cases h with
  | command hcommand => exact hcommand.elim
  | statement _ hserves =>
    cases hserves with
    | retire => exact .inl ⟨rfl, rfl⟩
    | reject hcommand => exact hcommand.elim
    | fail => exact .inr ⟨rfl, rfl⟩

theorem serves_unique {request : NotificationRequest} {desk desk' desk₁ desk₁' : NotificationDesk}
    {reply : NotificationReply} (hstatement : ¬ request.IsCommand)
    (h : NotificationDesk.Serves request desk reply desk')
    (h' : NotificationDesk.Serves request desk₁ reply desk₁') (hrows : desk.rows = desk₁.rows) :
    desk'.rows = desk₁'.rows := by
  cases h with
  | list | create | dismiss => exact absurd trivial hstatement
  | reject hcommand => exact absurd hcommand hstatement
  | fail => cases h' <;> exact hrows
  | insert | activate | retire => cases h'; simp only [hrows]
  | refuse | taken => cases h'; exact hrows

/-- The answer settles what becomes of the table. -/
theorem answers_unique (request : NotificationRequest) (rows : List NotificationRow)
    (reply : NotificationReply) (rows₁ rows₂ : List NotificationRow)
    (h : Answers request rows reply rows₁) (h' : Answers request rows reply rows₂) :
    rows₁ = rows₂ := by
  by_cases hcommand : request.IsCommand
  · rw [command_answers hcommand h, command_answers hcommand h']
  · cases h with
    | command hc => exact absurd hc hcommand
    | statement _ hserves =>
      generalize hrows : NotificationDesk.rows _ = rows at h'
      cases h' with
      | command hc => exact absurd hc hcommand
      | statement _ hserves' => exact serves_unique hcommand hserves hserves' hrows

end Exchanges

section Parts

variable {log : List Exchange} {rows rows' : List NotificationRow} {row : NotificationRow}

theorem callList_ran {res : Except NotificationError Json} (h : Ran callList rows log res rows') :
    rows' = rows ∧ ((∃ e, res = .error e) ∨
      ∃ result, log = [(.list, .returned result)] ∧ res = .ok result) := by
  rcases conducts_bind.mp h with ⟨e, rfl, hsend⟩ | ⟨reply, m, before, after, rfl, hsend, hrest⟩
  · obtain ⟨_, -, hres, -⟩ := conducts_send.mp hsend
    cases hres
  · obtain ⟨reply, rfl, hres, hanswers⟩ := conducts_send.mp hsend
    cases hres
    obtain rfl := command_answers (by exact trivial) hanswers
    cases reply with
    | returned result =>
      obtain ⟨rfl, rfl, rfl⟩ := conducts_pure.mp hrest
      exact ⟨rfl, .inr ⟨result, rfl, rfl⟩⟩
    | done | streamProtocolError | integrityError | otherError =>
      obtain ⟨rfl, rfl, rfl⟩ := conducts_throw.mp hrest
      exact ⟨rfl, .inl ⟨_, rfl⟩⟩

theorem ran_callList (rows : List NotificationRow) (result : Json) :
    Ran callList rows [(.list, .returned result)] (.ok result) rows :=
  ⟨_, _, _, rfl, .command trivial (by simp), rfl, rfl, rfl⟩

theorem matchingNotifications_ran {res : Except NotificationError (List Dict)}
    (h : Ran (matchingNotifications row) rows log res rows') :
    rows' = rows ∧ ((∃ e, res = .error e) ∨ ∃ result items,
      log = [(.list, .returned result)] ∧ listedItems result = some items ∧
        res = .ok ((dictItems items).filter row.matchesItem)) := by
  rcases conducts_bind.mp h with ⟨e, rfl, hlist⟩ | ⟨result, m, before, after, rfl, hlist, hrest⟩
  · exact ⟨(callList_ran hlist).1, .inl ⟨e, rfl⟩⟩
  · obtain ⟨rfl, ⟨e, hres⟩ | ⟨result', rfl, hres⟩⟩ := callList_ran hlist
    · cases hres
    cases hres
    cases hitems : listedItems result with
    | none =>
      rw [hitems] at hrest
      obtain ⟨rfl, rfl, rfl⟩ := conducts_throw.mp hrest
      exact ⟨rfl, .inl ⟨_, rfl⟩⟩
    | some items =>
      rw [hitems] at hrest
      obtain ⟨rfl, rfl, rfl⟩ := conducts_pure.mp hrest
      exact ⟨rfl, .inr ⟨result, items, rfl, hitems, rfl⟩⟩

theorem ran_matchingNotifications (rows : List NotificationRow) {result : Json} {items : List Json}
    (hitems : listedItems result = some items) :
    Ran (matchingNotifications row) rows [(.list, .returned result)]
      (.ok ((dictItems items).filter row.matchesItem)) rows := by
  refine conducts_bind.mpr (.inr ⟨_, _, _, [], rfl, ran_callList rows result, ?_⟩)
  rw [hitems]
  exact conducts_pure.mpr ⟨rfl, rfl, rfl⟩

theorem notificationExists_ran {id : String} {res : Except NotificationError Bool}
    (h : Ran (notificationExists id) rows log res rows') :
    rows' = rows ∧ ((∃ e, res = .error e) ∨ ∃ result present,
      log = [(.list, .returned result)] ∧ res = .ok present ∧
        (present = true ↔ Lists result id)) := by
  rcases conducts_bind.mp h with ⟨e, rfl, hlist⟩ | ⟨result, m, before, after, rfl, hlist, hrest⟩
  · exact ⟨(callList_ran hlist).1, .inl ⟨e, rfl⟩⟩
  · obtain ⟨rfl, ⟨e, hres⟩ | ⟨result', rfl, hres⟩⟩ := callList_ran hlist
    · cases hres
    cases hres
    cases hitems : listedItems result with
    | none =>
      rw [hitems] at hrest
      obtain ⟨rfl, rfl, rfl⟩ := conducts_pure.mp hrest
      refine ⟨rfl, .inr ⟨result, false, rfl, rfl, ?_⟩⟩
      simp [Lists, hitems]
    | some items =>
      rw [hitems] at hrest
      obtain ⟨rfl, rfl, rfl⟩ := conducts_pure.mp hrest
      refine ⟨rfl, .inr ⟨result, _, rfl, rfl, ?_⟩⟩
      simp [Lists, hitems]

theorem ran_notificationExists (rows : List NotificationRow) {result : Json} {id : String}
    (habsent : ¬ Lists result id) :
    Ran (notificationExists id) rows [(.list, .returned result)] (.ok false) rows := by
  refine conducts_bind.mpr (.inr ⟨_, _, _, [], rfl, ran_callList rows result, ?_⟩)
  cases hitems : listedItems result with
  | none => exact conducts_pure.mpr ⟨rfl, rfl, rfl⟩
  | some items =>
    refine conducts_pure.mpr ⟨rfl, ?_, rfl⟩
    have hnone : ¬ ((dictItems items).any fun item => eqStr (item.lookup "id") id) = true :=
      fun hany => habsent ⟨items, hitems, List.any_eq_true.mp hany⟩
    rw [Bool.eq_false_iff.mpr hnone]

/-- A dismissal ends the call, or passes. -/
theorem dismissNotification_ran {id : String} {res : Except NotificationError Unit}
    (h : Ran (dismissNotification id) rows log res rows') :
    rows' = rows ∧ ((∃ e, res = .error e) ∨ ∃ passage : Passage, res = .ok () ∧
      log = passage.exchanges id ∧ ∀ result, passage = .missed result → ¬ Lists result id) := by
  rcases conducts_bind.mp h with ⟨e, rfl, hsend⟩ | ⟨reply, m, before, after, rfl, hsend, hrest⟩
  · obtain ⟨_, -, hres, -⟩ := conducts_send.mp hsend
    cases hres
  obtain ⟨reply, rfl, hres, hanswers⟩ := conducts_send.mp hsend
  cases hres
  obtain rfl := command_answers (by exact trivial) hanswers
  cases reply with
  | done =>
    obtain ⟨rfl, rfl, rfl⟩ := conducts_pure.mp hrest
    exact ⟨rfl, .inr ⟨.granted none, rfl, rfl, nofun⟩⟩
  | returned result =>
    obtain ⟨rfl, rfl, rfl⟩ := conducts_pure.mp hrest
    exact ⟨rfl, .inr ⟨.granted (some result), rfl, rfl, nofun⟩⟩
  | integrityError | otherError =>
    obtain ⟨rfl, rfl, rfl⟩ := conducts_throw.mp hrest
    exact ⟨rfl, .inl ⟨_, rfl⟩⟩
  | streamProtocolError =>
    -- the call asks whether the banner is still there
    rcases conducts_bind.mp hrest with ⟨e, rfl, hlist⟩ | ⟨present, m', asked, rest, rfl, hlist,
      hend⟩
    · exact ⟨(notificationExists_ran hlist).1, .inl ⟨e, rfl⟩⟩
    obtain ⟨rfl, ⟨e, hres⟩ | ⟨result, present', rfl, hres, hpresent⟩⟩ :=
      notificationExists_ran hlist
    · cases hres
    cases hres
    cases present with
    | true =>
      obtain ⟨rfl, rfl, rfl⟩ := conducts_throw.mp hend
      exact ⟨rfl, .inl ⟨_, rfl⟩⟩
    | false =>
      obtain ⟨rfl, rfl, rfl⟩ := conducts_pure.mp hend
      refine ⟨rfl, .inr ⟨.missed result, rfl, rfl, fun _ hresult hlists => ?_⟩⟩
      cases hresult
      cases hpresent.mpr hlists

theorem ran_dismissNotification (rows : List NotificationRow) {id : String} {passage : Passage}
    (hpasses : ∀ result, passage = .missed result → ¬ Lists result id) :
    Ran (dismissNotification id) rows (passage.exchanges id) (.ok ()) rows := by
  have hsend (reply : NotificationReply) (hreply : reply ≠ .integrityError) :
      Ran (send (.dismiss id)) rows [(.dismiss id, reply)] (.ok reply) rows :=
    conducts_send.mpr ⟨reply, rfl, rfl, .command trivial hreply⟩
  unfold dismissNotification
  rcases passage with (_ | result) | result
  · exact conducts_bind.mpr (.inr ⟨_, _, _, [], rfl, hsend .done (by simp), rfl, rfl, rfl⟩)
  · exact conducts_bind.mpr (.inr ⟨_, _, _, [], rfl, hsend (.returned result) (by simp), rfl, rfl,
      rfl⟩)
  · refine conducts_bind.mpr (.inr ⟨_, _, _, _, rfl, hsend .streamProtocolError (by simp), ?_⟩)
    have hexists := ran_notificationExists rows (hpasses result rfl)
    exact conducts_bind.mpr (.inr ⟨_, _, _, [], rfl, hexists, rfl, rfl, rfl⟩)

/-- The dismissals of some ids one after the other. -/
theorem dismissAll_ran {ids : List String} {res : Except NotificationError Unit}
    (h : Ran (dismissAll ids) rows log res rows') :
    rows' = rows ∧ ((∃ e, res = .error e) ∨ ∃ passages : List (String × Passage), res = .ok () ∧
      passages.map Prod.fst = ids ∧ Passes passages ∧
      log = passages.flatMap fun p => p.2.exchanges p.1) := by
  induction ids generalizing rows log with
  | nil =>
    obtain ⟨rfl, rfl, rfl⟩ := conducts_pure.mp h
    exact ⟨rfl, .inr ⟨[], rfl, rfl, fun _ _ hmem => absurd hmem List.not_mem_nil, rfl⟩⟩
  | cons id ids ih =>
    rcases conducts_bind.mp h with ⟨e, rfl, hfirst⟩ | ⟨_, m, before, after, rfl, hfirst, hrest⟩
    · exact ⟨(dismissNotification_ran hfirst).1, .inl ⟨e, rfl⟩⟩
    obtain ⟨rfl, ⟨e, hres⟩ | ⟨passage, -, rfl, hpasses⟩⟩ := dismissNotification_ran hfirst
    · cases hres
    obtain ⟨rfl, herror | ⟨passages, rfl, hids, hall, rfl⟩⟩ := ih hrest
    · exact ⟨rfl, .inl herror⟩
    refine ⟨rfl, .inr ⟨(id, passage) :: passages, rfl, ?_, fun id' result hmem => ?_, rfl⟩⟩
    · rw [List.map_cons, hids]
    · rcases List.mem_cons.mp hmem with hmem | hmem
      · cases hmem
        exact hpasses result rfl
      · exact hall id' result hmem

theorem ran_dismissAll (rows : List NotificationRow) {passages : List (String × Passage)}
    (hpasses : Passes passages) :
    Ran (dismissAll (passages.map Prod.fst)) rows
      (passages.flatMap fun p => p.2.exchanges p.1) (.ok ()) rows := by
  induction passages with
  | nil => exact conducts_pure.mpr ⟨rfl, rfl, rfl⟩
  | cons p passages ih =>
    have hfirst : Ran (dismissNotification p.1) rows (p.2.exchanges p.1) (.ok ()) rows :=
      ran_dismissNotification rows fun result hresult => hpasses p.1 result (by simp [← hresult])
    have hrest := ih fun id result hmem => hpasses id result (List.mem_cons_of_mem p hmem)
    exact conducts_bind.mpr (.inr ⟨_, _, _, _, rfl, hfirst, hrest⟩)

/-- The ids that a call dismisses are those of the banners that have one. -/
theorem notificationIds_ran {res : Except NotificationError (List String)}
    (h : Ran (notificationIds row) rows log res rows') :
    rows' = rows ∧ ((∃ e, res = .error e) ∨ ∃ first banners, Names row first banners ∧
      res = .ok banners.reduceOption ∧ log = first.map (Prod.mk .list)) := by
  have hlisted : (∀ id, row.notificationId = some id → id = "") →
      Ran (do return (← matchingNotifications row).filterMap itemId) rows log res rows' →
      rows' = rows ∧ ((∃ e, res = .error e) ∨ ∃ first banners, Names row first banners ∧
        res = .ok banners.reduceOption ∧ log = first.map (Prod.mk .list)) := by
    intro hunrecorded hran
    rcases conducts_bind.mp hran with ⟨e, rfl, hmatching⟩ | ⟨found, m, before, after, rfl,
      hmatching, hrest⟩
    · exact ⟨(matchingNotifications_ran hmatching).1, .inl ⟨e, rfl⟩⟩
    obtain ⟨rfl, ⟨e, hres⟩ | ⟨result, items, rfl, hitems, hres⟩⟩ :=
      matchingNotifications_ran hmatching
    · cases hres
    cases hres
    obtain ⟨rfl, rfl, rfl⟩ := conducts_pure.mp hrest
    refine ⟨rfl, .inr ⟨_, _, .listed hunrecorded hitems, ?_, rfl⟩⟩
    rw [List.reduceOption, List.filterMap_map, Function.id_comp]
  unfold notificationIds at h
  cases hrecorded : row.notificationId with
  | none =>
    rw [hrecorded] at h
    exact hlisted (fun id hid => by cases hrecorded.symm.trans hid) h
  | some id =>
    rw [hrecorded] at h
    dsimp only at h
    by_cases hempty : id = ""
    · rw [if_pos hempty] at h
      refine hlisted (fun id' hid => ?_) h
      rw [hrecorded] at hid
      cases hid
      exact hempty
    · rw [if_neg hempty] at h
      obtain ⟨rfl, rfl, rfl⟩ := conducts_pure.mp h
      exact ⟨rfl, .inr ⟨[], [some id], .recorded hrecorded hempty, rfl, rfl⟩⟩

theorem ran_notificationIds (rows : List NotificationRow) {first : List NotificationReply}
    {banners : List (Option String)} (h : Names row first banners) :
    Ran (notificationIds row) rows (first.map (Prod.mk .list)) (.ok banners.reduceOption) rows := by
  unfold notificationIds
  cases h with
  | @recorded id hrecorded hne =>
    rw [hrecorded]
    dsimp only
    rw [if_neg hne]
    exact conducts_pure.mpr ⟨rfl, rfl, rfl⟩
  | @listed result items hunrecorded hitems =>
    have hran : Ran (do return (← matchingNotifications row).filterMap itemId) rows
        [(.list, .returned result)]
        (.ok (((dictItems items).filter row.matchesItem).filterMap itemId)) rows :=
      conducts_bind.mpr (.inr ⟨_, _, _, [], rfl, ran_matchingNotifications rows hitems, rfl, rfl,
        rfl⟩)
    rw [List.reduceOption, List.filterMap_map, Function.id_comp]
    cases hrecorded : row.notificationId with
    | none => exact hran
    | some id =>
      dsimp only
      rw [if_pos (hunrecorded id hrecorded)]
      exact hran

end Parts

section Call

variable {deliveryId reason : String} {state : NotificationState} {log : List Exchange}
  {rows rows' : List NotificationRow} {res : Except NotificationError Bool} {row : NotificationRow}
  {first : List NotificationReply} {banners : List (Option String)}
  {passages : List (String × Passage)}

/-- Everything that a call asks and is answered when it retires the row. -/
def retiring (deliveryId reason : String) (state : NotificationState)
    (first : List NotificationReply) (passages : List (String × Passage)) : List Exchange :=
  first.map (Prod.mk .list) ++ ((passages.flatMap fun p => p.2.exchanges p.1) ++
    [(.retire deliveryId reason state, .done)])

/-- What a call of `_retire_delivery` comes to. -/
inductive Retires (deliveryId reason : String) (state : NotificationState)
    (rows : List NotificationRow) (log : List Exchange) :
    Except NotificationError Bool → List NotificationRow → Prop
  | nothing : (∀ row, rows.find? (·.deliveryId = deliveryId) = some row → ¬ row.state.Live) →
      Retires deliveryId reason state rows log (.ok false) rows
  | raised (e : NotificationError) : Retires deliveryId reason state rows log (.error e) rows
  | retired {row : NotificationRow} {first : List NotificationReply}
      {banners : List (Option String)} {passages : List (String × Passage)} :
      rows.find? (·.deliveryId = deliveryId) = some row → row.state.Live →
      Names row first banners → passages.map Prod.fst = banners.reduceOption → Passes passages →
      log = retiring deliveryId reason state first passages →
      Retires deliveryId reason state rows log (.ok true)
        (NotificationDesk.retire rows deliveryId reason state)

theorem retire_ran {res : Except NotificationError Unit}
    (h : Ran (command (.retire deliveryId reason state)) rows log res rows') :
    (log = [(.retire deliveryId reason state, .done)] ∧ res = .ok () ∧
      rows' = NotificationDesk.retire rows deliveryId reason state) ∨
    ∃ e, res = .error e ∧ rows' = rows := by
  rcases conducts_bind.mp h with ⟨e, rfl, hsend⟩ | ⟨reply, m, before, after, rfl, hsend, hrest⟩
  · obtain ⟨_, -, hres, -⟩ := conducts_send.mp hsend
    cases hres
  obtain ⟨reply, rfl, hres, hanswers⟩ := conducts_send.mp hsend
  cases hres
  rcases retire_answers hanswers with ⟨rfl, rfl⟩ | ⟨rfl, rfl⟩
  · obtain ⟨rfl, rfl, rfl⟩ := conducts_pure.mp hrest
    exact .inl ⟨rfl, rfl, rfl⟩
  · obtain ⟨rfl, rfl, rfl⟩ := conducts_throw.mp hrest
    exact .inr ⟨_, rfl, rfl⟩

theorem retireDelivery_ran (h : Ran (retireDelivery deliveryId reason state) rows log res rows') :
    Retires deliveryId reason state rows log res rows' := by
  rcases conducts_bind.mp h with ⟨e, rfl, hrow⟩ | ⟨found, m, before, after, rfl, hrow, hrest⟩
  · obtain ⟨-, hres, -⟩ := conducts_fetch.mp hrow
    cases hres
  obtain ⟨rfl, hres, rfl⟩ := conducts_fetch.mp hrow
  rw [List.nil_append]
  cases hfound : m.find? (·.deliveryId = deliveryId) with
  | none =>
    rw [id, hfound] at hres
    cases hres
    obtain ⟨rfl, rfl, rfl⟩ := conducts_pure.mp hrest
    exact .nothing fun row hrow => by cases hfound.symm.trans hrow
  | some row =>
    rw [id, hfound] at hres
    cases hres
    dsimp only at hrest
    by_cases hlive : row.state.Live
    · rw [if_pos hlive] at hrest
      rcases conducts_bind.mp hrest with ⟨e, rfl, hids⟩ | ⟨ids, m₁, log₁, rest₁, rfl, hids, hrest₁⟩
      · rw [(notificationIds_ran hids).1]
        exact .raised e
      obtain ⟨rfl, ⟨e, hres⟩ | ⟨first, banners, hnames, hres, rfl⟩⟩ := notificationIds_ran hids
      · cases hres
      cases hres
      rcases conducts_bind.mp hrest₁ with ⟨e, rfl, hall⟩ | ⟨_, m₂, log₂, rest₂, rfl, hall, hrest₂⟩
      · rw [(dismissAll_ran hall).1]
        exact .raised e
      obtain ⟨rfl, ⟨e, hres⟩ | ⟨passages, -, hids, hpasses, rfl⟩⟩ := dismissAll_ran hall
      · cases hres
      rcases conducts_bind.mp hrest₂ with ⟨e, rfl, hretire⟩ | ⟨_, m₃, log₃, rest₃, rfl, hretire,
        hend⟩
      · rcases retire_ran hretire with ⟨-, hres, -⟩ | ⟨e', -, rfl⟩
        · cases hres
        · exact .raised e
      · rcases retire_ran hretire with ⟨rfl, -, rfl⟩ | ⟨e', hres, -⟩
        · obtain ⟨rfl, rfl, rfl⟩ := conducts_pure.mp hend
          exact .retired hfound hlive hnames hids hpasses rfl
        · cases hres
    · rw [if_neg hlive] at hrest
      obtain ⟨rfl, rfl, rfl⟩ := conducts_pure.mp hrest
      refine .nothing fun row' hrow' => ?_
      rw [hfound] at hrow'
      cases hrow'
      exact hlive

theorem ran_retireDelivery (hrow : rows.find? (·.deliveryId = deliveryId) = some row)
    (hlive : row.state.Live) (hnames : Names row first banners)
    (hids : passages.map Prod.fst = banners.reduceOption) (hpasses : Passes passages) :
    Ran (retireDelivery deliveryId reason state) rows
      (retiring deliveryId reason state first passages) (.ok true)
      (NotificationDesk.retire rows deliveryId reason state) := by
  let retired := NotificationDesk.retire rows deliveryId reason state
  have hserves : NotificationDesk.Serves (.retire deliveryId reason state) ⟨rows, []⟩ .done
      ⟨retired, []⟩ := .retire
  have hupdate : Answers (.retire deliveryId reason state) rows .done retired :=
    .statement id hserves
  have hretire : Ran (command (.retire deliveryId reason state)) rows
      [(.retire deliveryId reason state, .done)] (.ok ())
      (NotificationDesk.retire rows deliveryId reason state) :=
    conducts_bind.mpr (.inr ⟨_, _, _, [], rfl, conducts_send.mpr ⟨_, rfl, rfl, hupdate⟩, rfl, rfl,
      rfl⟩)
  have hall := ran_dismissAll rows hpasses
  rw [hids] at hall
  refine conducts_bind.mpr (.inr ⟨_, _, [], _, rfl, conducts_fetch.mpr ⟨rfl, rfl, rfl⟩, ?_⟩)
  rw [id, hrow]
  dsimp only
  rw [if_pos hlive]
  refine conducts_bind.mpr (.inr ⟨_, _, _, _, rfl, ran_notificationIds rows hnames, ?_⟩)
  refine conducts_bind.mpr (.inr ⟨_, _, _, _, rfl, hall, ?_⟩)
  exact conducts_bind.mpr (.inr ⟨_, _, _, [], rfl, hretire, rfl, rfl, rfl⟩)

theorem replies_exchanges (passages : List (String × Passage)) :
    (passages.flatMap fun p => p.2.exchanges p.1).map Prod.snd =
      passages.flatMap (·.2.replies) := by
  rw [List.map_flatMap]
  refine congrArg (List.flatMap · passages) (funext fun p => ?_)
  rcases p with ⟨id, (_ | result) | result⟩ <;> rfl

theorem replies_retiring : (retiring deliveryId reason state first passages).map Prod.snd =
    first ++ passages.flatMap (·.2.replies) ++ [.done] := by
  unfold retiring
  rw [List.map_append, List.map_append, replies_exchanges, List.map_map]
  simp

/-- The banners that the row names are those of the call. -/
theorem bannerOf_iff (h : Names row first banners) {rest : List Exchange}
    {banner : Option String} :
    BannerOf row (first.map (Prod.mk .list) ++ rest) banner ↔ banner ∈ banners := by
  cases h with
  | @recorded id hrecorded hne =>
    rw [List.mem_singleton]
    constructor
    · intro hbanner
      cases hbanner with
      | known hknown _ => exact hknown.symm.trans hrecorded
      | listed hunrecorded => exact absurd (hunrecorded id hrecorded) hne
    · rintro rfl
      exact .known hrecorded hne
  | @listed result items hunrecorded hitems =>
    rw [List.mem_map]
    constructor
    · intro hbanner
      cases hbanner with
      | known hknown hne => exact absurd (hunrecorded _ hknown) hne
      | @listed result' items' item rest' _ hlog hitems' hmem hmatches =>
        cases hlog
        rw [hitems] at hitems'
        cases hitems'
        exact ⟨item, List.mem_filter.mpr ⟨hmem, hmatches⟩, rfl⟩
    · rintro ⟨item, hmem, rfl⟩
      obtain ⟨hmem, hmatches⟩ := List.mem_filter.mp hmem
      exact .listed hunrecorded rfl hitems hmem hmatches

theorem eqStr_itemId {item : Dict} {id : String} (h : itemId item = some id) :
    eqStr (item.lookup "id") id = true := by
  unfold itemId at h
  split at h
  · rename_i found hfound
    cases h
    rw [hfound]
    exact decide_eq_true rfl
  · cases h

/-- The first list shows the banners that it names. -/
theorem Names.lists (h : Names row first banners) {id : String} (hid : some id ∈ banners)
    {result : Json} (hresult : .returned result ∈ first) : Lists result id := by
  cases h with
  | recorded => exact absurd hresult List.not_mem_nil
  | @listed result' items _ hitems =>
    obtain rfl := NotificationReply.returned.inj (List.mem_singleton.mp hresult)
    obtain ⟨item, hitem, hitemId⟩ := List.mem_map.mp hid
    exact ⟨items, hitems, item, (List.mem_filter.mp hitem).1, eqStr_itemId hitemId⟩

theorem dismissed_iff {id : String} :
    Dismissed (retiring deliveryId reason state first passages) id ↔
      ∃ result, (id, .granted result) ∈ passages := by
  have hexchange (reply : NotificationReply) :
      (.dismiss id, reply) ∈ retiring deliveryId reason state first passages ↔
        ∃ p ∈ passages, (.dismiss id, reply) ∈ p.2.exchanges p.1 := by
    simp [retiring]
  unfold Dismissed
  simp only [hexchange]
  constructor
  · rintro (⟨⟨id', (_ | result) | result⟩, hp, hmem⟩ |
      ⟨result', ⟨id', (_ | result) | result⟩, hp, hmem⟩) <;>
      simp only [Passage.exchanges, List.mem_cons, Prod.mk.injEq, NotificationRequest.dismiss.injEq,
        List.not_mem_nil, or_false, reduceCtorEq, and_false, false_and, and_true] at hmem
    · exact ⟨none, hmem ▸ hp⟩
    · exact ⟨some result, hmem.1 ▸ hp⟩
  · rintro ⟨_ | result, hp⟩
    · exact .inl ⟨_, hp, List.mem_cons_self⟩
    · exact .inr ⟨result, _, hp, List.mem_cons_self⟩

theorem shownAbsent_iff (hnames : Names row first banners) {id : String}
    (hid : some id ∈ banners) :
    ShownAbsent (retiring deliveryId reason state first passages) id ↔
      ∃ other result, (other, .missed result) ∈ passages ∧ listedItems result ≠ none ∧
        ¬ Lists result id := by
  constructor
  · rintro ⟨result, hmem, hformed, habsent⟩
    rcases List.mem_append.mp hmem with hmem | hmem
    · obtain ⟨reply, hreply, hsame⟩ := List.mem_map.mp hmem
      cases hsame
      exact absurd (hnames.lists hid hreply) habsent
    rcases List.mem_append.mp hmem with hmem | hmem
    · obtain ⟨⟨other, (_ | found) | found⟩, hp, hmem⟩ := List.mem_flatMap.mp hmem <;>
        simp only [Passage.exchanges, List.mem_cons, Prod.mk.injEq, List.not_mem_nil, or_false,
          reduceCtorEq, false_and, false_or, true_and, NotificationReply.returned.injEq] at hmem
      obtain rfl := hmem
      exact ⟨other, result, hp, hformed, habsent⟩
    · simp at hmem
  · rintro ⟨other, result, hp, hformed, habsent⟩
    refine ⟨result, ?_, hformed, habsent⟩
    refine List.mem_append_right _ (List.mem_append_left _ (List.mem_flatMap.mpr ⟨_, hp, ?_⟩))
    exact List.mem_cons_of_mem _ List.mem_cons_self

/-- A banner of a retired row is overlooked where nothing proves it gone. -/
theorem overlooks_iff (hnames : Names row first banners) (hpasses : Passes passages) {id : String}
    (hid : some id ∈ banners) : Overlooks passages id ↔
      ¬ (Dismissed (retiring deliveryId reason state first passages) id ∨
        ShownAbsent (retiring deliveryId reason state first passages) id) := by
  rw [dismissed_iff, shownAbsent_iff hnames hid, not_or]
  constructor
  · rintro ⟨hmalformed, hshown⟩
    refine ⟨fun ⟨result, hgranted⟩ => ?_, fun ⟨other, result, hp, hformed, habsent⟩ => ?_⟩
    · obtain ⟨_, hmissed, -⟩ := hmalformed _ hgranted
      cases hmissed
    · exact habsent (hshown other result hp hformed)
  · rintro ⟨hdismissed, habsent⟩
    refine ⟨fun passage hp => ?_, fun other result hp hformed => ?_⟩
    · cases passage with
      | granted result => exact absurd ⟨result, hp⟩ hdismissed
      | missed result =>
        refine ⟨result, rfl, ?_⟩
        by_contra hformed
        exact habsent ⟨id, result, hp, hformed, hpasses id result hp⟩
    · by_contra hlists
      exact habsent ⟨other, result, hp, hformed, hlists⟩

/-- The banners of a row that was retired are proven gone, and a call that raises or finds nothing
to retire leaves the row. -/
structure ProvenGone (deliveryId reason : String) (state : NotificationState)
    (rows : List NotificationRow) (log : List Exchange) (res : Except NotificationError Bool)
    (rows' : List NotificationRow) : Prop where
  retired : res = .ok true → rows' = NotificationDesk.retire rows deliveryId reason state ∧
    ∃ row, rows.find? (·.deliveryId = deliveryId) = some row ∧ row.state.Live ∧
      ∀ banner, BannerOf row log banner →
        ∃ id, banner = some id ∧ (Dismissed log id ∨ ShownAbsent log id)
  idle : res = .ok false → rows' = rows ∧ ∀ row,
    rows.find? (·.deliveryId = deliveryId) = some row → ¬ row.state.Live
  raised : ∀ e, res = .error e → rows' = rows

/-- A row is retired with all its banners gone unless one of them is forgotten. -/
theorem provenGone_retired (hrow : rows.find? (·.deliveryId = deliveryId) = some row)
    (hlive : row.state.Live) (hnames : Names row first banners) (hpasses : Passes passages) :
    ProvenGone deliveryId reason state rows (retiring deliveryId reason state first passages)
        (.ok true) (NotificationDesk.retire rows deliveryId reason state) ↔
      ¬ ∃ banner ∈ banners, ∀ id, banner = some id → Overlooks passages id := by
  constructor
  · rintro hgone ⟨banner, hbanner, hoverlooks⟩
    obtain ⟨-, row', hrow', -, hall⟩ := hgone.retired rfl
    cases hrow.symm.trans hrow'
    obtain ⟨id, rfl, hproof⟩ := hall banner ((bannerOf_iff hnames).mpr hbanner)
    exact (overlooks_iff hnames hpasses hbanner).mp (hoverlooks id rfl) hproof
  · intro hremembers
    refine ⟨fun _ => ⟨rfl, row, hrow, hlive, fun banner hbanner => ?_⟩, nofun, nofun⟩
    have hmem := (bannerOf_iff hnames).mp hbanner
    by_contra hunproven
    refine hremembers ⟨banner, hmem, ?_⟩
    rintro id rfl
    rw [overlooks_iff hnames hpasses hmem]
    exact fun hproof => hunproven ⟨id, rfl, hproof⟩

/-- For every behaviour of the client, what `_retire_delivery` retires is proven gone unless the
replies make it forget a banner of the row. -/
theorem retire_proven_gone_iff
    (h : Ran (retireDelivery deliveryId reason state) rows log res rows') :
    ProvenGone deliveryId reason state rows log res rows' ↔
      ∀ row, rows.find? (·.deliveryId = deliveryId) = some row → row.state.Live →
        ¬ Forgets row (log.map Prod.snd) := by
  have hforgets : ∀ row, rows.find? (·.deliveryId = deliveryId) = some row → row.state.Live →
      Forgets row (log.map Prod.snd) → res = .ok true ∧
        ¬ ProvenGone deliveryId reason state rows log res rows' := by
    rintro row hrow hlive ⟨first, banners, passages, hnames, hids, hpasses, hreplies, hbanner⟩
    have hran : Ran (retireDelivery deliveryId reason state) rows
        (retiring deliveryId reason state first passages) (.ok true)
        (NotificationDesk.retire rows deliveryId reason state) :=
      ran_retireDelivery hrow hlive hnames hids hpasses
    -- these replies leave the call no other way
    obtain ⟨rfl, rfl, rfl⟩ := Program.conducts_unique answers_unique h hran
      (hreplies.trans replies_retiring.symm)
    exact ⟨rfl, fun hgone => (provenGone_retired hrow hlive hnames hpasses).mp hgone hbanner⟩
  constructor
  · exact fun hgone row hrow hlive hreplies => (hforgets row hrow hlive hreplies).2 hgone
  · intro hremembers
    cases retireDelivery_ran h with
    | nothing hnone => exact ⟨nofun, fun _ => ⟨rfl, hnone⟩, nofun⟩
    | raised e => exact ⟨nofun, nofun, fun _ _ => rfl⟩
    | @retired row first banners passages hrow hlive hnames hids hpasses hlog =>
      subst hlog
      refine (provenGone_retired hrow hlive hnames hpasses).mpr fun hbanner => ?_
      exact hremembers row hrow hlive
        ⟨first, banners, passages, hnames, hids, hpasses, replies_retiring, hbanner⟩

end Call

/-- A row that knows its banner. -/
def sampleShown : NotificationRow where
  eventId := "event-1"
  deliveryId := "delivery-1"
  seatId := "yua"
  notificationId := some "banner-1"
  workspaceId := "workspace-yua"
  surfaceId := "surface-yua"
  correlationToken := "yatagarasu:a49a97f7f"
  title := "Yatagarasu"
  subtitle := "yatagarasu:a49a97f7f"
  body := "message"
  state := .active
  createdAt := .finite 1
  expiresAt := .finite 86401

/-- The dismissal fails, the list says this, and the row is retired. -/
def sampleOutage (result : Json) : List Exchange :=
  [(.dismiss "banner-1", .streamProtocolError), (.list, .returned result),
    (.retire "delivery-1" "read" .dismissed, .done)]

theorem sampleOutage_ran {result : Json} (h : result = .null ∨ result = listing []) :
    Ran (retireDelivery "delivery-1" "read" .dismissed) [sampleShown] (sampleOutage result)
      (.ok true) (NotificationDesk.retire [sampleShown] "delivery-1" "read" .dismissed) := by
  let retired := NotificationDesk.retire [sampleShown] "delivery-1" "read" .dismissed
  have hupdate : NotificationDesk.Serves (.retire "delivery-1" "read" .dismissed)
      ⟨[sampleShown], []⟩ .done ⟨retired, []⟩ := .retire
  have hfails : Answers (.dismiss "banner-1") [sampleShown] .streamProtocolError [sampleShown] :=
    .command trivial (by simp)
  have hlist : Answers .list [sampleShown] (.returned result) [sampleShown] :=
    .command trivial (by simp)
  rcases h with rfl | rfl
  · exact ⟨_, _, _, rfl, hfails, _, _, _, rfl, hlist, _, _, _, rfl, .statement id hupdate,
      rfl, rfl, rfl⟩
  · exact ⟨_, _, _, rfl, hfails, _, _, _, rfl, hlist, _, _, _, rfl, .statement id hupdate,
      rfl, rfl, rfl⟩

/-- An empty list proves that the banner is gone. -/
theorem retire_proven_gone_empty :
    ProvenGone "delivery-1" "read" .dismissed [sampleShown] (sampleOutage (listing [])) (.ok true)
      (NotificationDesk.retire [sampleShown] "delivery-1" "read" .dismissed) := by
  refine (retire_proven_gone_iff (sampleOutage_ran (.inr rfl))).mpr ?_
  rintro row hrow - ⟨first, banners, passages, hnames, hids, -, hreplies, banner, hbanner,
    hoverlooks⟩
  cases hrow
  cases hnames with
  | listed hunrecorded => exact absurd (hunrecorded "banner-1" rfl) (by decide)
  | @recorded id hrecorded =>
    cases hrecorded
    -- the one dismissal was followed by a well-formed list
    have hformed : listedItems (listing []) ≠ none := by simp [listing, listedItems]
    obtain ⟨⟨_, passage⟩, rfl, rfl⟩ := List.map_eq_singleton_iff.mp hids
    obtain rfl := List.mem_singleton.mp hbanner
    obtain ⟨result, rfl, hmalformed⟩ := (hoverlooks _ rfl).malformed passage List.mem_cons_self
    cases hreplies
    exact hformed hmalformed

/-- The dismissal fails, the list is malformed, and the row is retired all the same. -/
theorem retire_forgets_unlisted :
    Ran (retireDelivery "delivery-1" "read" .dismissed) [sampleShown] (sampleOutage .null)
      (.ok true) (NotificationDesk.retire [sampleShown] "delivery-1" "read" .dismissed) ∧
    ¬ ProvenGone "delivery-1" "read" .dismissed [sampleShown] (sampleOutage .null) (.ok true)
      (NotificationDesk.retire [sampleShown] "delivery-1" "read" .dismissed) := by
  refine ⟨sampleOutage_ran (.inl rfl), fun hgone => ?_⟩
  obtain ⟨-, row, hrow, -, hall⟩ := hgone.retired rfl
  cases hrow
  obtain ⟨id, hid, hproof⟩ := hall _ (.known rfl (by decide))
  cases hid
  rcases hproof with (hdone | ⟨result, hdone⟩) | ⟨result, hlist, hformed, -⟩
  · simp [sampleOutage] at hdone
  · simp [sampleOutage] at hdone
  · simp only [sampleOutage, List.mem_cons, Prod.mk.injEq, reduceCtorEq, and_false, true_and,
      NotificationReply.returned.injEq, List.not_mem_nil, or_false, false_or] at hlist
    rw [hlist] at hformed
    exact hformed rfl

end Yatagarasu.Cmux
