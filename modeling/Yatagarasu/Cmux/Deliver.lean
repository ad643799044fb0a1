import Yatagarasu.Cmux.AtMostOnce
import Yatagarasu.Library.FirstSeen

/-! What `deliver` returns when its collaborators behave in a given way. Each of them may raise at
any call, and the observer also between two of its names. -/

namespace Yatagarasu.Cmux

/-- The behaviour of resolver, `on_effect_pending`, transport and observer during one call. -/
structure Collaborators where
  resolve : Except Raised String
  /-- The callback, if there is one. -/
  effectPending : Option (Except Raised Unit)
  sendText : Except Raised Unit
  /-- The answer to the key of this index. -/
  submit : Nat → Except Raised Unit
  /-- The names that the observer yields, and what it raises after them, if anything. -/
  names : List String
  observerRaises : Option Raised

namespace Collaborators

/-- Nothing but `Exception`s is raised. -/
structure Exceptional (w : Collaborators) : Prop where
  resolve : ∀ e, w.resolve = .error e → e.exception
  effectPending : ∀ e, w.effectPending = some (.error e) → e.exception
  sendText : ∀ e, w.sendText = .error e → e.exception
  submit : ∀ index e, w.submit index = .error e → e.exception
  observer : ∀ e, w.observerRaises = some e → e.exception

end Collaborators

namespace DeliverCall

variable [Host] [PyText] (authority : MarkerAuthority) (call : DeliverCall) (w : Collaborators)

/-- `except ValueError` around the pure part of a call. -/
def refused (label : String) : PyError → Except Raised SubmitResult
  | .valueError message => .ok
    { outcome := .notSubmitted, deliveryId := call.deliveryId, detail := label ++ message }
  | _ => .error ⟨true, ""⟩

/-- The profile of the harness and the text to be sent. -/
def envelope (marker : DeliveryMarker) : Except PyError (HarnessProfile × String) := do
  let profile ← profileFor call.harness
  let encoded ← encodeShort marker
  let text ← profile.render (encoded ++ " " ++ call.body)
  return (profile, text)

/-- The key presses, up to the first that raises. -/
def press (surface : String) : Nat → List String → List Deed × Except Raised Unit
  | _, [] => ([], .ok ())
  | index, key :: keys =>
    match w.submit index with
    | .error e => ([], .error e)
    | .ok _ =>
      let (deeds, result) := press surface (index + 1) keys
      (.pressed call.deliveryId surface key :: deeds, result)

/-- `send_text` and the submit keys. -/
def transport (surface text : String) (keys : List String) : List Deed × Except Raised Unit :=
  let (deeds, result) : List Deed × Except Raised Unit :=
    match w.sendText with
    | .error e => ([], .error e)
    | .ok _ => call.press w surface 0 keys
  (.sent call.deliveryId surface text :: deeds, result)

/-- The loop over the observer, from the names seen so far. -/
def awaitProof (seen : List String) : List String → Except Raised SubmitResult
  | [] =>
    match w.observerRaises with
    | some e => .error e
    | none => .ok (classifyShortfall call.deliveryId seen)
  | name :: names =>
    let seen := FirstSeen.note seen name
    if eventInputSent ∈ seen ∧ eventPromptSubmitted ∈ seen then
      .ok { outcome := .submitted, deliveryId := call.deliveryId, sourceEvents := seen }
    else awaitProof seen names

/-- The part of a call after the intent was recorded. -/
def inject (surface text : String) (keys : List String) : List Deed × Except Raised SubmitResult :=
  let (deeds, result) := call.transport w surface text keys
  (deeds, match result with
    | .error e =>
      if e.exception then .ok
        { outcome := .unknown, deliveryId := call.deliveryId
          detail := "transport error: " ++ e.text }
      else .error e
    | .ok _ => call.awaitProof w [] w.names)

/-- Inject the body and report a definite outcome, with what was done to the surface. -/
def deliver : List Deed × Except Raised SubmitResult :=
  match authority.mint call.delivery call.issuedAt call.expiresAt with
  | .error e => ([], call.refused "marker error: " e)
  | .ok marker =>
    match call.envelope marker with
    | .error e => ([], call.refused "harness profile error: " e)
    | .ok (profile, text) =>
      match w.resolve with
      | .error e => ([],
          if e.exception then .ok
            { outcome := .notSubmitted, deliveryId := call.deliveryId
              detail := "unresolved: " ++ e.text }
          else .error e)
      | .ok surface =>
        match w.effectPending with
        | some (.error e) => ([], .error e)
        | _ => call.inject w surface text profile.submitKeys

end DeliverCall

section Verdict

open DeliverCall FirstSeen

variable {call : DeliverCall} {w : Collaborators} {surface text : String} {keys seen : List String}

/-- Both required events are there. -/
def BothIn (names : List String) : Prop := eventInputSent ∈ names ∧ eventPromptSubmitted ∈ names

theorem bothIn_noteAll {names : List String} : BothIn (noteAll [] names) ↔ BothIn names := by
  simp [BothIn, mem_noteAll]

/-- The loop ends at the first name that completes the pair, or after the last one. -/
theorem awaitProof_cases (names : List String) (hseen : ¬ BothIn seen) :
    (∃ before last after, names = before ++ last :: after ∧ ¬ BothIn (noteAll seen before) ∧
      BothIn (noteAll seen (before ++ [last])) ∧ call.awaitProof w seen names =
        .ok { outcome := .submitted, deliveryId := call.deliveryId
              sourceEvents := noteAll seen (before ++ [last]) }) ∨
    (¬ BothIn (noteAll seen names) ∧ call.awaitProof w seen names =
      match w.observerRaises with
      | some e => .error e
      | none => .ok (classifyShortfall call.deliveryId (noteAll seen names))) := by
  induction names generalizing seen with
  | nil => exact .inr ⟨hseen, rfl⟩
  | cons name names ih =>
    unfold awaitProof
    by_cases hboth : BothIn (note seen name)
    · left
      exact ⟨[], name, names, rfl, hseen, hboth, if_pos hboth⟩
    · have hmissing : ¬ (eventInputSent ∈ note seen name ∧
          eventPromptSubmitted ∈ note seen name) := hboth
      dsimp only
      rw [if_neg hmissing]
      rcases ih hboth with ⟨before, last, after, rfl, hbefore, hlast, heq⟩ | ⟨hrest, heq⟩
      · exact .inl ⟨name :: before, last, after, rfl, hbefore, hlast, heq⟩
      · exact .inr ⟨hrest, heq⟩

/-- `send_text` and every key press return. -/
def Collaborators.Transports (w : Collaborators) (keys : List String) : Prop :=
  w.sendText = .ok () ∧ ∀ index < keys.length, w.submit index = .ok ()

theorem press_cases (index : Nat) (keys : List String) :
    ((call.press w surface index keys).2 = .ok () ∧
      ∀ offset < keys.length, w.submit (index + offset) = .ok ()) ∨
    ∃ e offset, (call.press w surface index keys).2 = .error e ∧ offset < keys.length ∧
      w.submit (index + offset) = .error e := by
  induction keys generalizing index with
  | nil => exact .inl ⟨rfl, fun _ hlt => absurd hlt (Nat.not_lt_zero _)⟩
  | cons key keys ih =>
    unfold press
    cases hsubmit : w.submit index with
    | error e => exact .inr ⟨e, 0, rfl, Nat.succ_pos _, hsubmit⟩
    | ok _ =>
      rcases ih (index + 1) with ⟨hok, hall⟩ | ⟨e, offset, herror, hlt, hraises⟩
      · left
        refine ⟨hok, fun offset hlt => ?_⟩
        cases offset with
        | zero => exact hsubmit
        | succ offset =>
          rw [← Nat.succ_add_eq_add_succ]
          exact hall offset (Nat.lt_of_succ_lt_succ hlt)
      · right
        refine ⟨e, offset + 1, herror, Nat.succ_lt_succ hlt, ?_⟩
        rw [← Nat.succ_add_eq_add_succ]
        exact hraises

/-- The transport returns, or something that it called raised. -/
theorem transport_cases (surface text : String) (keys : List String) :
    ((call.transport w surface text keys).2 = .ok () ∧ w.Transports keys) ∨
    ∃ e, (call.transport w surface text keys).2 = .error e ∧ ¬ w.Transports keys ∧
      (w.sendText = .error e ∨ ∃ index, w.submit index = .error e) := by
  unfold transport
  cases hsend : w.sendText with
  | error e =>
    refine .inr ⟨e, rfl, fun h => ?_, .inl rfl⟩
    cases hsend.symm.trans h.1
  | ok _ =>
    rcases @press_cases call w surface 0 keys with ⟨hok, hall⟩ | ⟨e, index, herror, hlt, hraises⟩
    · refine .inl ⟨hok, hsend, fun index hlt => ?_⟩
      simpa using hall index hlt
    · rw [Nat.zero_add] at hraises
      refine .inr ⟨e, herror, fun h => ?_, .inr ⟨index, hraises⟩⟩
      rw [h.2 index hlt] at hraises
      cases hraises

/-- The result of a call that never came to its surface. -/
def CleanNegative (call : DeliverCall) (outcome : Except Raised SubmitResult) : Prop :=
  ∃ detail, outcome =
    .ok { outcome := .notSubmitted, deliveryId := call.deliveryId, detail }

theorem refused_negative (label message : String) :
    CleanNegative call (call.refused label (.valueError message)) := ⟨_, rfl⟩

end Verdict

/-- Nothing but a `ValueError` is raised. -/
def ValueErrors {α : Type} (x : Except PyError α) : Prop :=
  ∀ e, x = .error e → ∃ message, e = .valueError message

theorem valueErrors_ok {α : Type} (a : α) : ValueErrors (.ok a) := fun _ h => by cases h

theorem valueErrors_error {α : Type} (message : String) :
    ValueErrors (.error (.valueError message) : Except PyError α) := by
  intro e h
  cases h
  exact ⟨message, rfl⟩

theorem valueErrors_bind {α β : Type} {x : Except PyError α} {f : α → Except PyError β}
    (hx : ValueErrors x) (hf : ∀ a, ValueErrors (f a)) : ValueErrors (x >>= f) := by
  intro e h
  cases x with
  | error e' =>
    cases h
    exact hx _ rfl
  | ok a => exact hf a e h

section Call

open DeliverCall FirstSeen

variable [Host] [PyText] {authority : MarkerAuthority} {call : DeliverCall} {w : Collaborators}
  {marker : DeliveryMarker}

omit [PyText] in
theorem valueErrors_parseTimestamp (value : String) : ValueErrors (parseTimestamp value) := by
  unfold parseTimestamp
  split
  · exact valueErrors_error _
  · split
    · exact valueErrors_ok _
    · exact valueErrors_error _

omit [PyText] in
theorem valueErrors_mint (authority : MarkerAuthority) (delivery : Delivery)
    (issuedAt expiresAt : String) : ValueErrors (authority.mint delivery issuedAt expiresAt) := by
  unfold MarkerAuthority.mint
  split
  · exact valueErrors_error _
  · apply valueErrors_bind (valueErrors_parseTimestamp expiresAt)
    intro expires
    apply valueErrors_bind (valueErrors_parseTimestamp issuedAt)
    intro issued
    dsimp only
    split
    · exact valueErrors_error _
    · split
      · exact valueErrors_error _
      · exact valueErrors_ok _

omit [Host] in
theorem valueErrors_profileFor (kind : String) : ValueErrors (profileFor kind) := by
  unfold profileFor
  split
  · exact valueErrors_ok _
  · exact valueErrors_error _

omit [Host] [PyText] in
theorem valueErrors_encodeShort (marker : DeliveryMarker) : ValueErrors (encodeShort marker) := by
  have htext : ∀ short : ShortMarker, ValueErrors short.text := by
    intro short
    unfold ShortMarker.text
    split
    · exact valueErrors_ok _
    · exact valueErrors_error _
  unfold encodeShort
  dsimp only
  split
  · exact valueErrors_error _
  split
  · exact valueErrors_error _
  split
  · exact valueErrors_error _
  apply valueErrors_bind (htext _)
  intro token
  split
  · exact valueErrors_error _
  · exact valueErrors_ok _

omit [Host] in
theorem valueErrors_envelope (call : DeliverCall) (marker : DeliveryMarker) :
    ValueErrors (call.envelope marker) := by
  unfold envelope
  apply valueErrors_bind (valueErrors_profileFor call.harness)
  intro profile
  apply valueErrors_bind (valueErrors_encodeShort marker)
  intro encoded
  refine valueErrors_bind ?_ fun _ => valueErrors_ok _
  unfold HarnessProfile.render
  split
  · exact valueErrors_error _
  · exact valueErrors_ok _

/-- What a call is about to do to the surface that it resolved. -/
structure Effect where
  surface : String
  text : String
  keys : List String

/-- Marker and text are made and the surface is resolved. -/
def Reaches (authority : MarkerAuthority) (call : DeliverCall) (w : Collaborators)
    (effect : Effect) : Prop :=
  ∃ marker profile, authority.mint call.delivery call.issuedAt call.expiresAt = .ok marker ∧
    call.envelope marker = .ok (profile, effect.text) ∧ w.resolve = .ok effect.surface ∧
      effect.keys = profile.submitKeys

/-- What is left of a call that has reached its effect. -/
def effectuate (call : DeliverCall) (w : Collaborators) (effect : Effect) :
    List Deed × Except Raised SubmitResult :=
  match w.effectPending with
  | some (.error e) => ([], .error e)
  | _ => call.inject w effect.surface effect.text effect.keys

/-- A call is refused, or it reaches its effect. -/
theorem deliver_cases (h : w.Exceptional) :
    ((∀ effect, ¬ Reaches authority call w effect) ∧ (call.deliver authority w).1 = [] ∧
      CleanNegative call (call.deliver authority w).2) ∨
    ∃ effect, Reaches authority call w effect ∧
      call.deliver authority w = effectuate call w effect := by
  unfold deliver
  cases hmint : authority.mint call.delivery call.issuedAt call.expiresAt with
  | error e =>
    obtain ⟨message, rfl⟩ := valueErrors_mint _ _ _ _ e hmint
    refine .inl ⟨?_, rfl, refused_negative _ message⟩
    rintro effect ⟨marker, profile, hmint', -⟩
    cases hmint.symm.trans hmint'
  | ok marker =>
    cases henvelope : call.envelope marker with
    | error e =>
      obtain ⟨message, rfl⟩ := valueErrors_envelope _ _ e henvelope
      refine .inl ⟨?_, by simp [henvelope], ?_⟩
      · rintro effect ⟨marker', profile, hmint', henvelope', -⟩
        cases hmint.symm.trans hmint'
        cases henvelope.symm.trans henvelope'
      · simpa [henvelope] using refused_negative _ message
    | ok pair =>
      obtain ⟨profile, text⟩ := pair
      cases hresolve : w.resolve with
      | error e =>
        refine .inl ⟨?_, by simp [henvelope], ?_⟩
        · rintro effect ⟨marker', profile', hmint', henvelope', hresolve', -⟩
          cases hresolve.symm.trans hresolve'
        · exact ⟨_, by simp [henvelope, h.resolve e hresolve]; rfl⟩
      | ok surface =>
        refine .inr ⟨⟨surface, text, profile.submitKeys⟩, ⟨marker, profile, hmint, henvelope,
          hresolve, rfl⟩, ?_⟩
        simp only [henvelope]
        rfl

theorem reaches_unique {effect effect' : Effect} (h : Reaches authority call w effect)
    (h' : Reaches authority call w effect') : effect = effect' := by
  obtain ⟨marker, profile, hmint, henvelope, hresolve, hkeys⟩ := h
  obtain ⟨marker', profile', hmint', henvelope', hresolve', hkeys'⟩ := h'
  cases hmint.symm.trans hmint'
  obtain ⟨rfl, htext⟩ := Prod.mk.inj (Except.ok.inj (henvelope.symm.trans henvelope'))
  cases effect
  cases effect'
  cases hresolve.symm.trans hresolve'
  simp_all

/-- The call returns a definite outcome: a submission is proven by both events after an
undisturbed effect, and nothing but that or silence takes the place of an unknown once the surface
is touched. -/
def Definite (authority : MarkerAuthority) (call : DeliverCall) (w : Collaborators) : Prop :=
  ∃ result, (call.deliver authority w).2 = .ok result ∧
    (result.outcome = .submitted → ∃ effect, Reaches authority call w effect ∧
      w.Transports effect.keys ∧ BothIn w.names) ∧
    ((∃ surface text, .sent call.deliveryId surface text ∈ (call.deliver authority w).1) →
      result.outcome = .unknown ∨ (BothIn w.names ∧ result.outcome = .submitted) ∨
        (w.names = [] ∧ w.observerRaises = none))

/-- An exception meets the call where it catches none: from the callback, or from the observer
before it has yielded both events. -/
def Interrupted (authority : MarkerAuthority) (call : DeliverCall) (w : Collaborators) : Prop :=
  ∃ effect, Reaches authority call w effect ∧
    ((∃ e, w.effectPending = some (.error e)) ∨
      (w.Transports effect.keys ∧ w.observerRaises ≠ none ∧ ¬ BothIn w.names))

omit [Host] [PyText] in
theorem shortfall_outcome (names : List String) :
    (classifyShortfall call.deliveryId (noteAll [] names)).outcome = .unknown ∨
      (names = [] ∧ (classifyShortfall call.deliveryId (noteAll [] names)).outcome =
        .notSubmitted) := by
  unfold classifyShortfall
  split
  · rename_i hnone
    have hempty : names = [] := by
      rw [List.eq_nil_iff_forall_not_mem] at hnone ⊢
      intro name hname
      exact hnone name (mem_noteAll.mpr (.inr hname))
    exact .inr ⟨hempty, rfl⟩
  · split
    · exact .inl rfl
    · exact .inl rfl

omit [Host] [PyText] in
/-- What the call comes to once the intent is recorded. -/
theorem inject_cases (h : w.Exceptional) (effect : Effect) :
    (¬ w.Transports effect.keys ∧ ∃ result, result.outcome = .unknown ∧
      (call.inject w effect.surface effect.text effect.keys).2 = .ok result) ∨
    (w.Transports effect.keys ∧ (call.inject w effect.surface effect.text effect.keys).2 =
      call.awaitProof w [] w.names) := by
  unfold inject
  dsimp only
  rcases @transport_cases call w effect.surface effect.text effect.keys with
    ⟨hok, htransports⟩ | ⟨e, herror, hfails, hraised⟩
  · rw [hok]
    exact .inr ⟨htransports, rfl⟩
  · rw [herror]
    have hexception : e.exception := by
      rcases hraised with hsend | ⟨index, hsubmit⟩
      · exact h.sendText e hsend
      · exact h.submit index e hsubmit
    refine .inl ⟨hfails, { outcome := .unknown, deliveryId := call.deliveryId
                           detail := "transport error: " ++ e.text }, rfl, if_pos hexception⟩

omit [Host] [PyText] in
/-- What the observer's loop comes to. -/
theorem await_outcome :
    (BothIn w.names ∧ ∃ result, call.awaitProof w [] w.names = .ok result ∧
      result.outcome = .submitted) ∨
    (¬ BothIn w.names ∧ ∃ e, w.observerRaises = some e ∧
      call.awaitProof w [] w.names = .error e) ∨
    (¬ BothIn w.names ∧ w.observerRaises = none ∧ ∃ result,
      call.awaitProof w [] w.names = .ok result ∧ result.outcome ≠ .submitted ∧
        (result.outcome = .unknown ∨ w.names = [])) := by
  have hnone : ¬ BothIn [] := fun h => List.not_mem_nil h.1
  rcases @awaitProof_cases call w [] w.names hnone with
    ⟨before, last, after, hnames, -, hboth, hawait⟩ | ⟨hmissing, hawait⟩
  · left
    refine ⟨?_, _, hawait, rfl⟩
    rw [bothIn_noteAll] at hboth
    have hsub : before ++ [last] ⊆ w.names := by
      rw [hnames]
      intro name hname
      simpa [or_assoc] using List.mem_append_left after hname
    exact ⟨hsub hboth.1, hsub hboth.2⟩
  · rw [bothIn_noteAll] at hmissing
    right
    cases hobserver : w.observerRaises with
    | some e =>
      rw [hobserver] at hawait
      exact .inl ⟨hmissing, e, rfl, hawait⟩
    | none =>
      rw [hobserver] at hawait
      refine .inr ⟨hmissing, rfl, _, hawait, ?_⟩
      rcases @shortfall_outcome call w.names with hunknown | ⟨hempty, hnegative⟩
      · rw [hunknown]
        exact ⟨by decide, .inl rfl⟩
      · rw [hnegative]
        exact ⟨by decide, .inr hempty⟩

theorem interrupted_iff {effect : Effect} (hreaches : Reaches authority call w effect) :
    Interrupted authority call w ↔ (∃ e, w.effectPending = some (.error e)) ∨
      (w.Transports effect.keys ∧ w.observerRaises ≠ none ∧ ¬ BothIn w.names) := by
  constructor
  · rintro ⟨effect', hreaches', hmeets⟩
    rw [reaches_unique hreaches' hreaches] at hmeets
    exact hmeets
  · exact fun hmeets => ⟨effect, hreaches, hmeets⟩

theorem definite_refused (hdeeds : (call.deliver authority w).1 = [])
    (hresult : CleanNegative call (call.deliver authority w).2) : Definite authority call w := by
  obtain ⟨detail, hresult⟩ := hresult
  refine ⟨_, hresult, ?_, ?_⟩
  · intro houtcome
    cases houtcome
  · rintro ⟨surface, text, hsent⟩
    rw [hdeeds] at hsent
    cases hsent

theorem definite_unknown {result : SubmitResult}
    (hresult : (call.deliver authority w).2 = .ok result)
    (hunknown : result.outcome = .unknown) : Definite authority call w := by
  refine ⟨result, hresult, ?_, fun _ => .inl hunknown⟩
  intro houtcome
  rw [hunknown] at houtcome
  cases houtcome

theorem not_definite_error {e : Raised} (herror : (call.deliver authority w).2 = .error e) :
    ¬ Definite authority call w := by
  rintro ⟨result, hresult, -⟩
  rw [herror] at hresult
  cases hresult

/-- After an undisturbed effect the call is as definite as its observer. -/
theorem definite_observed {effect : Effect} (hreaches : Reaches authority call w effect)
    (htransports : w.Transports effect.keys)
    (hawait : (call.deliver authority w).2 = call.awaitProof w [] w.names) :
    Definite authority call w ↔ ¬ (w.observerRaises ≠ none ∧ ¬ BothIn w.names) := by
  rcases @await_outcome call w with ⟨hboth, result, hresult, hsubmitted⟩ |
    ⟨hmissing, e, hobserver, herror⟩ | ⟨hmissing, hobserver, result, hresult, hnot, hshort⟩
  · rw [hresult] at hawait
    refine ⟨fun _ hmet => hmet.2 hboth, fun _ => ⟨result, hawait, ?_, ?_⟩⟩
    · intro _
      exact ⟨effect, hreaches, htransports, hboth⟩
    · intro _
      exact .inr (.inl ⟨hboth, hsubmitted⟩)
  · rw [herror] at hawait
    refine ⟨fun hdefinite => absurd hdefinite (not_definite_error hawait), fun hnot => ?_⟩
    exact absurd ⟨by simp [hobserver], hmissing⟩ hnot
  · rw [hresult] at hawait
    refine ⟨fun _ hmet => hmet.1 hobserver, fun _ => ⟨result, hawait, ?_, ?_⟩⟩
    · intro houtcome
      exact absurd houtcome hnot
    · intro _
      rcases hshort with hunknown | hempty
      · exact .inl hunknown
      · exact .inr (.inr ⟨hempty, hobserver⟩)

/-- A call that reaches its effect is definite unless an exception meets it there. -/
theorem definite_reached (h : w.Exceptional) {effect : Effect}
    (hreaches : Reaches authority call w effect) : Definite authority call w ↔
      ¬ ((∃ e, w.effectPending = some (.error e)) ∨
        (w.Transports effect.keys ∧ w.observerRaises ≠ none ∧ ¬ BothIn w.names)) := by
  have hdeliver : call.deliver authority w = effectuate call w effect := by
    rcases @deliver_cases _ _ authority call w h with ⟨hnever, -⟩ | ⟨effect', hreaches', hdeliver⟩
    · exact absurd hreaches (hnever effect)
    · rwa [reaches_unique hreaches' hreaches] at hdeliver
  by_cases hpending : ∃ e, w.effectPending = some (.error e)
  · refine ⟨?_, fun hnot => absurd (.inl hpending) hnot⟩
    obtain ⟨e, hpending⟩ := hpending
    intro hdefinite
    refine absurd hdefinite (@not_definite_error _ _ authority call w e ?_)
    rw [hdeliver, effectuate, hpending]
  · have hinject : call.deliver authority w =
        call.inject w effect.surface effect.text effect.keys := by
      rw [hdeliver]
      unfold effectuate
      split
      · rename_i e herror
        exact absurd ⟨e, herror⟩ hpending
      · rfl
    rcases @inject_cases call w h effect with ⟨hfails, result, hunknown, hresult⟩ |
      ⟨htransports, hawait⟩
    · rw [← hinject] at hresult
      refine ⟨?_, fun _ => definite_unknown hresult hunknown⟩
      rintro - (hpending' | ⟨htransports, -⟩)
      · exact hpending hpending'
      · exact hfails htransports
    · rw [← hinject] at hawait
      rw [definite_observed hreaches htransports hawait]
      simp [hpending, htransports]

end Call

/-- A call whose collaborators raise nothing but exceptions gives its verdict unless one of them
meets it where it catches none. -/
theorem deliver_definite_iff [Host] [PyText] (authority : MarkerAuthority) (call : DeliverCall)
    {w : Collaborators} (h : w.Exceptional) :
    Definite authority call w ↔ ¬ Interrupted authority call w := by
  rcases @deliver_cases _ _ authority call w h with
    ⟨hnever, hdeeds, hresult⟩ | ⟨effect, hreaches, -⟩
  · refine ⟨?_, fun _ => definite_refused hdeeds hresult⟩
    rintro - ⟨effect, hreaches, -⟩
    exact hnever effect hreaches
  · rw [definite_reached h hreaches, interrupted_iff hreaches]

/-- Everything returns; the observer yields these names and then raises or ends. -/
def sampleCollaborators (names : List String) (observerRaises : Option Raised) : Collaborators where
  resolve := .ok "surface-1"
  effectPending := none
  sendText := .ok ()
  submit _ := .ok ()
  names := names
  observerRaises := observerRaises

theorem sampleCollaborators_exceptional (names : List String) {observerRaises : Option Raised}
    (h : ∀ e, observerRaises = some e → e.exception) :
    (sampleCollaborators names observerRaises).Exceptional where
  resolve _ herror := by cases herror
  effectPending _ herror := by cases herror
  sendText _ herror := by cases herror
  submit _ _ herror := by cases herror
  observer := h

theorem reaches_sampleCall (names : List String) (observerRaises : Option Raised) :
    ∃ effect, @Reaches sampleHost sampleText sampleAuthority sampleCall
      (sampleCollaborators names observerRaises) effect := by
  have hready : (match @MarkerAuthority.mint sampleHost sampleAuthority sampleCall.delivery
      sampleCall.issuedAt sampleCall.expiresAt with
    | .ok marker => (@DeliverCall.envelope sampleText sampleCall marker).isOk
    | .error _ => false) = true := by decide +kernel
  split at hready
  · rename_i marker hmint
    cases henvelope : @DeliverCall.envelope sampleText sampleCall marker with
    | error e =>
      rw [henvelope] at hready
      cases hready
    | ok pair => exact ⟨⟨"surface-1", pair.2, pair.1.submitKeys⟩, marker, pair.1, hmint, henvelope,
        rfl, rfl⟩
  · cases hready

/-- The observer times out with an exception after the text was sent: the call raises. -/
theorem raising_observer_escapes :
    ¬ ∀ (authority : MarkerAuthority) (call : DeliverCall) (w : Collaborators), w.Exceptional →
      @Definite sampleHost sampleText authority call w := by
  intro hclaim
  have hexceptional := @sampleCollaborators_exceptional [eventInputSent]
    (some ⟨true, "timed out"⟩) fun e he => by cases he; rfl
  obtain ⟨effect, hreaches⟩ := reaches_sampleCall [eventInputSent] (some ⟨true, "timed out"⟩)
  have hdefinite := hclaim sampleAuthority sampleCall _ hexceptional
  rw [@definite_reached sampleHost sampleText _ _ _ hexceptional _ hreaches] at hdefinite
  exact hdefinite (.inr ⟨⟨rfl, fun _ _ => rfl⟩, by simp [sampleCollaborators],
    fun hboth => absurd hboth.2 (by decide)⟩)

theorem deliver_definite_iff_sample : @Definite sampleHost sampleText sampleAuthority sampleCall
    (sampleCollaborators [eventInputSent, eventPromptSubmitted] none) := by
  have hexceptional := @sampleCollaborators_exceptional
    [eventInputSent, eventPromptSubmitted] none fun _ he => by cases he
  rw [@deliver_definite_iff sampleHost sampleText sampleAuthority sampleCall _ hexceptional]
  rintro ⟨effect, -, ⟨e, herror⟩ | ⟨-, hraises, -⟩⟩
  · cases herror
  · exact hraises rfl

end Yatagarasu.Cmux
