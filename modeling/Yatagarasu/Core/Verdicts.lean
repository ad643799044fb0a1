import Yatagarasu.Core.Runs

/-! `submit` answers malformed evidence with a rejection where it looks at its shape. It compares a
repeated receipt, stores a proof that its class does not ask for, and compares signatures before it
has looked. -/

namespace Yatagarasu

open Sqlite Program ReceiptReducer

def Ascii (text : String) : Prop := ∀ c ∈ text.toList, c.toNat < 128

/-- The chain cannot be written down: it is no sequence, or something in it is no event. -/
def SourceEvents.Shapeless : SourceEvents → Prop
  | .tuple events | .list events => Untyped.other ∈ events
  | .other => True

/-- A `SessionProof` whose marker or whose source events have the wrong shape. -/
def Malformed : Option (Untyped SessionProof) → Prop
  | some (.typed proof) => proof.marker = .other ∨ proof.sourceEvents.Shapeless
  | _ => False

/-- The receipt is new and passes every check that does not look at its proof. -/
structure Presented (t : Tables) (r : Receipt) (d : Delivery) (next : Transition) : Prop where
  unused : t.receiptRecord r.receiptId = none
  delivery : t.getDelivery r.deliveryId = some d
  keys : validateKeys r d = none
  provider : ∃ provider, t.provider r.evidenceProviderId = some provider ∧
    t.providerDeclares r.evidenceProviderId r.evidenceClass ∧
    (validateMode r d provider.kind).value t = some none ∧
    (transition r d provider.kind).value t = some (.ok next)

/-- The proof comes as far as the comparison of its marker's signature, which is not ASCII. -/
structure ComparedBadly [Host] (authority : Option MarkerAuthority) (t : Tables) (r : Receipt)
    (d : Delivery) (proof : SessionProof) (marker : DeliveryMarker) (binding : SessionBindingRow)
    (registration : ProofMethodRegistration) : Prop where
  trusted : authority ≠ none
  carried : r.proof = some (.typed proof)
  marked : proof.marker = .typed marker
  registered : t.sessionBinding r.bindingId = some binding
  owner : validateBinding r d proof binding = none
  method : t.bindingProofMethod r.bindingId r.proofMethod = some registration
  declared : r.evidenceClass ∈ registration.evidenceClasses
  rule : registration.correlationRule = .cmuxHarnessChain
  kind : registration.sourceKind = .eventBus
  fields : MarkerAuthority.FieldsMatch marker d
  signature : ¬ Ascii marker.signature

/-- The three ways to leave `submit` without a verdict. -/
inductive Raises [Host] (authority : Option MarkerAuthority) (t : Tables) (r : Receipt) : Prop
  | repeated {row : ReceiptRow} : t.receiptRecord r.receiptId = some row → Malformed r.proof →
      Raises authority t r
  | stored {d : Delivery} {next : Transition} : Presented t r d next →
      r.evidenceClass ∉ sessionProofEvidence → Malformed r.proof → Raises authority t r
  | compared {d : Delivery} {next : Transition} {proof : SessionProof} {marker : DeliveryMarker}
      {binding : SessionBindingRow} {registration : ProofMethodRegistration} :
      Presented t r d next → r.evidenceClass ∈ sessionProofEvidence →
      ComparedBadly authority t r d proof marker binding registration → Raises authority t r

section Shapes

theorem typedEvents_eq_none {events : List (Untyped SourceEventRef)} :
    typedEvents events = none ↔ Untyped.other ∈ events := by
  induction events with
  | nil => simp [typedEvents]
  | cons event rest ih =>
    cases event with
    | typed event => simp [typedEvents, ih]
    | other => simp [typedEvents]

theorem storedChain_error {chain : SourceEvents} :
    (∃ e, storedChain chain = .error e) ↔ chain.Shapeless := by
  have hlist : ∀ events : List (Untyped SourceEventRef),
      (∃ e, storedChain (.list events) = .error e) ↔ Untyped.other ∈ events := by
    intro events
    rw [← typedEvents_eq_none]
    simp only [storedChain]
    cases typedEvents events with
    | none => simp
    | some typed => simp
  cases chain with
  | tuple events => exact hlist events
  | list events => exact hlist events
  | other => exact iff_of_true ⟨_, rfl⟩ trivial

/-- What stores a proof raises on the malformed ones. -/
theorem proofStorageFields_error {proof : Option (Untyped SessionProof)}
    (hshaped : proof ≠ some .other) :
    (∃ e, proofStorageFields proof = .error e) ↔ Malformed proof := by
  cases proof with
  | none => simp [proofStorageFields, Malformed]
  | some proof =>
    cases proof with
    | other => exact absurd rfl hshaped
    | typed proof =>
      unfold proofStorageFields Malformed
      dsimp only
      cases proof.marker with
      | other => simp
      | typed marker =>
        rw [← storedChain_error]
        cases storedChain proof.sourceEvents with
        | error e => simp
        | ok chain => simp

/-- A malformed proof raises neither of the two errors that `submit` catches. -/
theorem proofStorageFields_uncaught {proof : Option (Untyped SessionProof)} {e : PyError}
    (h : proofStorageFields proof = .error e) : e ≠ .concurrentTransition ∧ e ≠ .integrityError := by
  have hchain : ∀ {chain : SourceEvents}, storedChain chain = .error e →
      e = .attributeError ∨ e = .typeError := by
    intro chain hchain
    cases chain with
    | tuple events | list events =>
      simp only [storedChain] at hchain
      split at hchain
      · cases hchain
      · cases hchain
        exact Or.inl rfl
    | other =>
      cases hchain
      exact Or.inr rfl
  have hcases : e = .attributeError ∨ e = .typeError := by
    unfold proofStorageFields at h
    split at h
    · cases h
    · cases h
      exact Or.inl rfl
    · split at h
      · cases h
        exact Or.inl rfl
      · split at h
        · rename_i hstored
          cases h
          exact hchain hstored
        · cases h
  rcases hcases with rfl | rfl <;> simp

end Shapes

section Session

variable [Host] {t : Tables} {r : Receipt} {d : Delivery} {authority : Option MarkerAuthority}

/-- `hexdigest` returns hexadecimal digits. -/
def HexDigests : Prop := ∀ key text, Ascii (Host.hmacSha256 key text)

omit [Host] in
theorem compareDigest_error {a b : String} (hb : Ascii b) :
    (∃ e, compareDigest a b = .error e) ↔ ¬ Ascii a := by
  have hall : ∀ text : String, (text.toList.all (·.toNat < 128)) = true ↔ Ascii text := by
    intro text
    simp [Ascii]
  unfold compareDigest
  split
  · rename_i hboth
    exact iff_of_false (by simp) (not_not.mpr ((hall a).mp hboth.1))
  · rename_i hnot
    exact iff_of_true ⟨_, rfl⟩ fun ha => hnot ⟨(hall a).mpr ha, (hall b).mpr hb⟩

theorem validate_error {a : MarkerAuthority} {marker : Untyped DeliveryMarker} {observedAt : String}
    (hdigest : HexDigests) : (∃ e, a.validate marker d observedAt = .error e) ↔
      ∃ m, marker = .typed m ∧ MarkerAuthority.FieldsMatch m d ∧ ¬ Ascii m.signature := by
  unfold MarkerAuthority.validate
  cases marker with
  | other => simp
  | typed m =>
    dsimp only
    have hcompare := compareDigest_error (a := m.signature) (hdigest a.signingKey
      (PyJson.dumps (MarkerAuthority.signPayload m)))
    split
    · rename_i hfields
      refine iff_of_false (by simp) ?_
      rintro ⟨_, hsame, hmatch, -⟩
      cases hsame
      exact hfields hmatch
    · rename_i hfields
      have hmatch := not_not.mp hfields
      split
      · rename_i e hraised
        exact iff_of_true ⟨e, rfl⟩ ⟨m, rfl, hmatch, hcompare.mp ⟨e, hraised⟩⟩
      · rename_i hsame
        refine iff_of_false (by simp) ?_
        rintro ⟨_, heq, -, hascii⟩
        cases heq
        obtain ⟨e, hraised⟩ := hcompare.mpr hascii
        rw [MarkerAuthority.sign, hraised] at hsame
        cases hsame
      · rename_i hsame
        refine iff_of_false ?_ ?_
        · rintro ⟨e, he⟩
          split at he
          · split at he
            · cases he
            · split at he <;> cases he
          · cases he
        · rintro ⟨_, heq, -, hascii⟩
          cases heq
          obtain ⟨e, hraised⟩ := hcompare.mpr hascii
          rw [MarkerAuthority.sign, hraised] at hsame
          cases hsame

theorem validateSessionProof_error {a : MarkerAuthority} {proof : SessionProof}
    {evidenceClass : EvidenceClass} {registration : ProofMethodRegistration} {observedAt : String}
    (hdigest : HexDigests) :
    (∃ e, validateSessionProof proof d evidenceClass registration a observedAt = .error e) ↔
      (evidenceClass ∈ registration.evidenceClasses ∧
        registration.correlationRule = .cmuxHarnessChain ∧ registration.sourceKind = .eventBus) ∧
      ∃ m, proof.marker = .typed m ∧ MarkerAuthority.FieldsMatch m d ∧ ¬ Ascii m.signature := by
  have hvalidate : (∃ e, a.validate proof.marker d observedAt = .error e) ↔ _ :=
    validate_error hdigest
  unfold validateSessionProof
  split
  · rename_i hclass
    exact iff_of_false (by simp) fun h => hclass h.1.1
  rename_i hclass
  split
  · rename_i hrule
    exact iff_of_false (by simp) fun h => hrule h.1.2.1
  rename_i hrule
  split
  · rename_i hkind
    exact iff_of_false (by simp) fun h => hkind h.1.2.2
  rename_i hkind
  rw [and_iff_right ⟨not_not.mp hclass, not_not.mp hrule, not_not.mp hkind⟩, ← hvalidate]
  split
  · rename_i e hraised
    exact iff_of_true ⟨e, rfl⟩ ⟨e, hraised⟩
  · rename_i hreason
    rw [hreason]
  · rename_i hnone hmarker
    rw [hmarker] at hnone
    cases hnone
  · rename_i hnone _
    rw [hnone]
    refine iff_of_false ?_ (by simp)
    rintro ⟨e, he⟩
    split at he
    · cases he
    · split at he <;> cases he

/-- The check of a session proof raises on the comparison of signatures and nowhere else. -/
theorem validateSessionReceipt_error (hdigest : HexDigests) :
    (∃ e, (validateSessionReceipt authority r d).value t = some (.error e)) ↔
      ∃ proof marker binding registration,
        ComparedBadly authority t r d proof marker binding registration := by
  unfold validateSessionReceipt
  simp only [fetch_bind]
  split
  · rename_i hproof
    refine iff_of_false (by simp) ?_
    rintro ⟨_, _, _, _, h⟩
    cases hproof.symm.trans h.carried
  · rename_i hproof
    refine iff_of_false (by simp) ?_
    rintro ⟨_, _, _, _, h⟩
    cases hproof.symm.trans h.carried
  rename_i proof hproof
  split
  · refine iff_of_false (by simp) ?_
    rintro ⟨_, _, _, _, h⟩
    exact h.trusted rfl
  rename_i a
  simp only [value_read]
  split
  · rename_i hbinding
    refine iff_of_false (by simp) ?_
    rintro ⟨_, _, _, _, h⟩
    cases hbinding.symm.trans h.registered
  rename_i binding hbinding
  split
  · rename_i reason howner
    refine iff_of_false (by simp) ?_
    rintro ⟨_, _, _, _, h⟩
    cases hproof.symm.trans h.carried
    cases hbinding.symm.trans h.registered
    cases howner.symm.trans h.owner
  rename_i howner
  simp only [value_read]
  split
  · rename_i hmethod
    refine iff_of_false (by simp) ?_
    rintro ⟨_, _, _, _, h⟩
    cases hmethod.symm.trans h.method
  rename_i registration hmethod
  have hraise : (∃ e, validateSessionProof proof d r.evidenceClass registration a r.observedAt =
      .error e) ↔ _ := validateSessionProof_error hdigest
  have hchecked : (∃ e, validateSessionProof proof d r.evidenceClass registration a r.observedAt =
      .error e) ↔ ∃ proof marker binding registration,
        ComparedBadly (some a) t r d proof marker binding registration := by
    rw [hraise]
    constructor
    · rintro ⟨⟨hdeclared, hrule, hkind⟩, m, hmarked, hfields, hsignature⟩
      exact ⟨proof, m, binding, registration, by simp, hproof, hmarked, hbinding, howner, hmethod,
        hdeclared, hrule, hkind, hfields, hsignature⟩
    · rintro ⟨_, m, _, _, h⟩
      cases hproof.symm.trans h.carried
      cases hmethod.symm.trans h.method
      exact ⟨⟨h.declared, h.rule, h.kind⟩, m, h.marked, h.fields, h.signature⟩
  rw [← hchecked]
  split
  · rename_i e hraised
    exact iff_of_true ⟨e, rfl⟩ ⟨e, hraised⟩
  · rename_i hreason
    rw [hreason]
    exact iff_of_false (by simp) (by simp)
  · rename_i hnone hevents
    obtain ⟨-, _, _, _, -, -, -, htyped, -⟩ := validateSessionProof_eq_ok.mp hnone
    rw [hevents] at htyped
    cases htyped
  · rename_i events hnone _
    rw [hnone]
    obtain ⟨res, hres⟩ := value_of_readOnly (validateClosing_readOnly r d events) t
    rw [value_bind, hres]
    exact iff_of_false (by simp) (by simp)

end Session

section Submit

variable [Host] {t : Tables} {r : Receipt} {d : Delivery} {authority : Option MarkerAuthority}
  {next : Transition}

theorem submit_advance_unused (haudited : ¬ (r.proofMethod = "" ∨ r.observedAt = ""))
    (hshaped : r.proof ≠ some .other) (hunused : t.receiptRecord r.receiptId = none) :
    (submit authority r).advance t = (submitFresh authority r).advance t := by
  have hv : (existingReceiptResult r).value t = some (.ok none) := by
    simp [existingReceiptResult, hunused]
  unfold submit
  rw [if_neg haudited, if_neg hshaped, advance_bind_of_value hv]

/-- What is left of a new submission, once its other checks passed. -/
theorem submit_advance_presented (authority : Option MarkerAuthority)
    (haudited : ¬ (r.proofMethod = "" ∨ r.observedAt = ""))
    (hshaped : r.proof ≠ some .other) (h : Presented t r d next) :
    ∃ checked, (validateProof authority r d).value t = some checked ∧
      (submit authority r).advance t = match checked with
        | .error e => done (.error e)
        | .ok (some reason) => reject reason r
        | .ok none => commitReceipt r d next := by
  obtain ⟨provider, hprovider, hdeclares, hmode, htransition⟩ := h.provider
  obtain ⟨checked, hchecked⟩ := value_of_readOnly (validateProof_readOnly authority r d) t
  refine ⟨checked, hchecked, ?_⟩
  rw [submit_advance_unused haudited hshaped h.unused]
  unfold submitFresh
  rw [fetch_bind, advance_read, h.delivery]
  dsimp only
  unfold submitDelivery
  rw [h.keys]
  dsimp only
  rw [fetch_bind, advance_read, hprovider]
  dsimp only
  rw [fetch_bind, advance_read, if_neg (not_not.mpr hdeclares)]
  unfold submitEvidence
  rw [advance_bind_of_value hmode]
  dsimp only
  rw [advance_bind_of_value htransition]
  dsimp only
  rw [advance_bind_of_value hchecked]
  match checked with
  | .error e => rfl
  | .ok (some reason) => rfl
  | .ok none => rfl

/-- A new submission that fails one of the other checks is rejected. -/
theorem submit_advance_failed (authority : Option MarkerAuthority)
    (haudited : ¬ (r.proofMethod = "" ∨ r.observedAt = ""))
    (hshaped : r.proof ≠ some .other) (hunused : t.receiptRecord r.receiptId = none)
    (h : ¬ ∃ d next, Presented t r d next) :
    ∃ reason, (submit authority r).advance t = reject reason r := by
  rw [submit_advance_unused haudited hshaped hunused]
  unfold submitFresh
  rw [fetch_bind, advance_read]
  cases hdelivery : t.getDelivery r.deliveryId with
  | none => exact ⟨_, rfl⟩
  | some d =>
    dsimp only
    unfold submitDelivery
    cases hkeys : validateKeys r d with
    | some reason => exact ⟨_, rfl⟩
    | none =>
      dsimp only
      rw [fetch_bind, advance_read]
      cases hprovider : t.provider r.evidenceProviderId with
      | none => exact ⟨_, rfl⟩
      | some provider =>
        dsimp only
        rw [fetch_bind, advance_read]
        split
        · exact ⟨_, rfl⟩
        rename_i hdeclares
        unfold submitEvidence
        obtain ⟨mode, hmode⟩ := value_of_readOnly (validateMode_readOnly r d provider.kind) t
        rw [advance_bind_of_value hmode]
        cases mode with
        | some reason => exact ⟨_, rfl⟩
        | none =>
          obtain ⟨step, hstep⟩ := value_of_readOnly (transition_readOnly r d provider.kind) t
          dsimp only
          rw [advance_bind_of_value hstep]
          cases step with
          | error reason => exact ⟨_, rfl⟩
          | ok next =>
            refine absurd ⟨d, next, hunused, hdelivery, hkeys, provider, hprovider,
              not_not.mp hdeclares, hmode, hstep⟩ h

omit [Host] in
/-- The transaction of an accepted receipt raises only what `submit` catches. -/
theorem acceptBlock_caught {state : DeliveryState} {disposition : Option Disposition}
    {proof : ProofFields} {e : PyError}
    (h : (CoreStore.acceptBlock r d state disposition proof).run t = .error e) :
    e = .concurrentTransition ∨ e = .integrityError := by
  unfold CoreStore.acceptBlock at h
  cases hbinding : d.bindingId with
  | none =>
    rw [hbinding] at h
    cases h
    exact Or.inr rfl
  | some bindingId =>
    rw [hbinding] at h
    rcases block_bind_error h with h | ⟨_, m, -, h⟩
    · exact Or.inr (insert_error h)
    rcases block_bind_error h with h | ⟨changed, m', -, h⟩
    · cases h
    split at h
    · cases h
      exact Or.inl rfl
    · exact Or.inr (insert_error h)

omit [Host] in
/-- The commit of a receipt raises when its proof cannot be stored, and not otherwise. -/
theorem commitReceipt_error {c : CoreStore} (hclean : Clean c) (hshaped : r.proof ≠ some .other)
    (hunused : c.working.receiptRecord r.receiptId = none) :
    (∃ e, (runOn (commitReceipt r d next) c).1 = .error e) ↔ Malformed r.proof := by
  have hrecover : ∀ {c' : CoreStore}, c'.working = c.working →
      ∃ res, (runOn (recoverIntegrityCollision r) c').1 = .ok res := by
    intro c' hw
    obtain ⟨reason, hadv⟩ := recover_advance (hw ▸ hunused)
    obtain ⟨c₁, hrun, -⟩ := reject_run reason r c'
    rw [runOn, ← run_advance, hadv]
    exact ⟨_, congrArg Prod.fst hrun⟩
  rw [← proofStorageFields_error hshaped]
  unfold commitReceipt
  rw [send_bind]
  cases hfields : proofStorageFields r.proof with
  | error e =>
    have hexec : (StoreCall.acceptReceipt r d next.1 next.2).method.exec c = (.error e, c) := by
      simp only [StoreCall.method, hfields]
      rfl
    obtain ⟨hconcurrent, hintegrity⟩ := proofStorageFields_uncaught hfields
    refine iff_of_true ?_ ⟨e, rfl⟩
    simp only [runOn, Program.run, hexec]
    exact ⟨_, rfl⟩
  | ok proof =>
    refine iff_of_false ?_ (by simp)
    obtain ⟨o, c₁, hexec⟩ : ∃ o c₁,
        (StoreCall.acceptReceipt r d next.1 next.2).method.exec c = (o, c₁) := ⟨_, _, rfl⟩
    have hblock : (withConnection (CoreStore.acceptBlock r d next.1 next.2 proof)).exec c =
        (o, c₁) := by
      simpa only [StoreCall.method, hfields] using hexec
    simp only [runOn, Program.run, hexec]
    rintro ⟨e, hraised⟩
    obtain ⟨-, ⟨_, -, rfl⟩ | ⟨e', hrun, rfl, hw⟩⟩ := withConnection_cases hclean hblock
    · cases hraised
    · rcases acceptBlock_caught hrun with rfl | rfl
      · obtain ⟨c₂, hreject, -⟩ := reject_run "delivery_state_changed" r c₁
        have hres := congrArg Prod.fst hreject
        cases hres.symm.trans hraised
      · obtain ⟨res, hres⟩ := hrecover hw
        cases hres.symm.trans hraised

theorem submit_rejects {c : CoreStore} {reason : String}
    (h : (submit authority r).advance c.working = reject reason r) :
    (CoreStore.submit authority r c).1 = .ok (.rejected reason) := by
  obtain ⟨c', hrun, -⟩ := reject_run reason r c
  rw [CoreStore.submit, ← run_advance, h]
  exact congrArg Prod.fst hrun

/-- A receipt whose id is stored is compared with the stored one, proof included. -/
theorem submit_repeated {c : CoreStore} {row : ReceiptRow}
    (haudited : ¬ (r.proofMethod = "" ∨ r.observedAt = "")) (hshaped : r.proof ≠ some .other)
    (hrow : c.working.receiptRecord r.receiptId = some row) :
    (∃ e, (CoreStore.submit authority r c).1 = .error e) ↔ Malformed r.proof := by
  rw [← proofStorageFields_error hshaped]
  unfold CoreStore.submit submit
  rw [if_neg haudited, if_neg hshaped]
  unfold existingReceiptResult
  simp only [fetch_bind, read_bind, Program.run, hrow, run_bind]
  unfold repeatedReceipt sameReceipt
  cases proofStorageFields r.proof with
  | error e => exact iff_of_true ⟨e, rfl⟩ ⟨e, rfl⟩
  | ok fields =>
    refine iff_of_false ?_ (by simp)
    by_cases hsame : SameColumns row r fields
    · simp only [hsame, decide_true]
      rintro ⟨e, he⟩
      cases he
    · simp only [hsame, decide_false]
      rintro ⟨e, he⟩
      cases he

omit [Host] in
theorem not_malformed {proof : SessionProof} {marker : DeliveryMarker}
    {events : List SourceEventRef} (hcarried : r.proof = some (.typed proof))
    (hmarked : proof.marker = .typed marker) (hevents : proof.sourceEvents.typedTuple = some events) :
    ¬ Malformed r.proof := by
  rw [← proofStorageFields_error (by simp [hcarried]), hcarried]
  simp [proofStorageFields, hmarked, storedChain_of_typed hevents]

/-- `submit` raises in the three ways and in no other. -/
theorem submit_raises_iff {c : CoreStore} (hclean : Clean c) (hdigest : HexDigests) :
    (∃ e, (CoreStore.submit authority r c).1 = .error e) ↔
      ¬ (r.proofMethod = "" ∨ r.observedAt = "") ∧ Raises authority c.working r := by
  constructor
  · rintro ⟨e, he⟩
    have hnever : ∀ reason, (submit authority r).advance c.working ≠ reject reason r := by
      intro reason hreject
      cases (submit_rejects hreject).symm.trans he
    have haudited : ¬ (r.proofMethod = "" ∨ r.observedAt = "") := by
      intro hmissing
      refine hnever "audit_fields_required" ?_
      unfold submit
      rw [if_pos hmissing]
      rfl
    have hshaped : r.proof ≠ some .other := by
      intro hother
      refine hnever "session_proof_shape_invalid" ?_
      unfold submit
      rw [if_neg haudited, if_pos hother]
      rfl
    refine ⟨haudited, ?_⟩
    cases hrow : c.working.receiptRecord r.receiptId with
    | some row => exact .repeated hrow ((submit_repeated haudited hshaped hrow).mp ⟨e, he⟩)
    | none =>
      obtain ⟨d, next, hpresented⟩ : ∃ d next, Presented c.working r d next := by
        by_contra hnone
        obtain ⟨reason, hreject⟩ := submit_advance_failed authority haudited hshaped
          hrow hnone
        exact hnever reason hreject
      obtain ⟨checked, hchecked, hadvance⟩ :=
        submit_advance_presented authority haudited hshaped hpresented
      match checked, hchecked with
      | .error e', hchecked =>
        unfold validateProof at hchecked
        split at hchecked
        · rename_i hclass
          obtain ⟨proof, marker, binding, registration, hcompared⟩ :=
            (validateSessionReceipt_error hdigest).mp ⟨e', hchecked⟩
          exact .compared hpresented hclass hcompared
        · cases hchecked
      | .ok (some reason), _ => exact absurd hadvance (hnever reason)
      | .ok none, hchecked =>
        have hraised : (runOn (commitReceipt r d next) c).1 = .error e := by
          rw [CoreStore.submit, ← run_advance, hadvance] at he
          exact he
        have hmalformed : Malformed r.proof :=
          (commitReceipt_error hclean hshaped hrow).mp ⟨e, hraised⟩
        refine .stored hpresented (fun hclass => ?_) hmalformed
        unfold validateProof at hchecked
        rw [if_pos hclass] at hchecked
        obtain ⟨a, proof, binding, registration, events, -, hsession⟩ :=
          sessionChecked_of_value hchecked
        obtain ⟨-, marker, _, _, hmarked, -⟩ := validateSessionProof_eq_ok.mp hsession.valid
        exact not_malformed hsession.carried hmarked hsession.chain hmalformed
  · rintro ⟨haudited, hraises⟩
    have hshaped : r.proof ≠ some .other := by
      intro hother
      cases hraises with
      | repeated _ hmalformed =>
        rw [hother] at hmalformed
        exact hmalformed
      | stored _ _ hmalformed =>
        rw [hother] at hmalformed
        exact hmalformed
      | compared _ _ hcompared => cases hother.symm.trans hcompared.carried
    cases hraises with
    | repeated hrow hmalformed => exact (submit_repeated haudited hshaped hrow).mpr hmalformed
    | stored hpresented hclass hmalformed =>
      obtain ⟨checked, hchecked, hadvance⟩ :=
        submit_advance_presented authority haudited hshaped hpresented
      unfold validateProof at hchecked
      rw [if_neg hclass] at hchecked
      cases hchecked
      rw [CoreStore.submit, ← run_advance, hadvance]
      exact (commitReceipt_error hclean hshaped hpresented.unused).mpr hmalformed
    | compared hpresented hclass hcompared =>
      obtain ⟨checked, hchecked, hadvance⟩ :=
        submit_advance_presented authority haudited hshaped hpresented
      unfold validateProof at hchecked
      rw [if_pos hclass] at hchecked
      obtain ⟨e, he⟩ := (validateSessionReceipt_error hdigest).mpr ⟨_, _, _, _, hcompared⟩
      cases hchecked.symm.trans he
      rw [CoreStore.submit, ← run_advance, hadvance]
      exact ⟨e, rfl⟩

/-- A verdict came back, and a rejection was committed to the rejections. -/
def Answered (authority : Option MarkerAuthority) (r : Receipt) (c : CoreStore) : Prop :=
  ∃ res, (CoreStore.submit authority r c).1 = .ok res ∧ ∀ reason, res = .rejected reason →
    (CoreStore.submit authority r c).2.committed.receiptRejections =
      c.committed.receiptRejections ++ [CoreStore.rejectionRow r reason]

theorem answered_of_ok {c : CoreStore} (hclean : Clean c) {res : ReceiptResult}
    (h : (CoreStore.submit authority r c).1 = .ok res) : Answered authority r c := by
  cases hsubmit : CoreStore.submit authority r c with
  | mk result c' =>
    refine ⟨res, h, fun reason hreason => ?_⟩
    rw [hsubmit] at h ⊢
    dsimp only at h ⊢
    subst h hreason
    obtain ⟨hclean', houtcome⟩ := submit_outcome hclean hsubmit
    rw [← hclean', ← hclean]
    generalize c'.working = t' at houtcome
    cases houtcome with
    | rejected => rfl
    | contradiction => rfl

/-- A submission is answered unless a malformed proof is compared with a stored receipt or stored
for a class that asks for none, or a signature that is not ASCII is compared. -/
theorem submit_answers_iff (ops : List Op) (authority : Option MarkerAuthority) (r : Receipt)
    (hdigest : HexDigests) : let c := run ops CoreStore.empty
    Answered authority r c ↔
      ¬ (¬ (r.proofMethod = "" ∨ r.observedAt = "") ∧ Raises authority c.working r) := by
  intro c
  have hclean : Clean c := (sound_run ops sound_empty).clean
  rw [← submit_raises_iff hclean hdigest]
  constructor
  · rintro ⟨res, hres, -⟩ ⟨e, he⟩
    cases hres.symm.trans he
  · intro hnever
    cases hres : (CoreStore.submit authority r c).1 with
    | error e => exact absurd ⟨e, hres⟩ hnever
    | ok res => exact answered_of_ok hclean hres

end Submit

/-- The sample entry under a marker whose signature is the text `é`. -/
def sampleForged : Receipt :=
  { sampleEntry with
    proof := some (.typed
      { sessionId := "session-1", marker := .typed { sampleMarker with signature := "é" }
        sourceEvents := .tuple (sampleEvents.map .typed) }) }

theorem forged_signature_unanswered :
    ¬ @Answered sampleHost (some sampleAuthority) sampleForged
      (@run sampleHost (sampleSetup ++ [.submit (some sampleAuthority) sampleAck])
        CoreStore.empty) := by
  rintro ⟨res, hres, -⟩
  have hraised : (@CoreStore.submit sampleHost (some sampleAuthority) sampleForged
      (@run sampleHost (sampleSetup ++ [.submit (some sampleAuthority) sampleAck])
        CoreStore.empty)).1 = .error .typeError := by
    rfl
  cases hres.symm.trans hraised

theorem submit_answers_sample : @HexDigests sampleHost ∧
    @Answered sampleHost (some sampleAuthority) sampleAck
      (@run sampleHost sampleSetup CoreStore.empty) := by
  have hdigest : @HexDigests sampleHost := by
    intro key text
    show Ascii "fc0bcaec35d952d2a15d7cacf20e2805936d50d1e44f9318a7f0b4f1722b89ea"
    simp [Ascii]
  refine ⟨hdigest, (@submit_answers_iff sampleHost sampleSetup (some sampleAuthority) sampleAck
    hdigest).mpr ?_⟩
  rintro ⟨-, hraises⟩
  cases hraises with
  | repeated _ hmalformed => exact hmalformed
  | stored _ _ hmalformed => exact hmalformed
  | compared _ hclass _ => simp [sampleAck, sessionProofEvidence] at hclass

end Yatagarasu
