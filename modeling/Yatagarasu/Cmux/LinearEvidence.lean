import Yatagarasu.Cmux.Turns

/-! The emitter on its own, with any sequence of observations. An input, a prompt and a hook are
used for one accepted prompt at most, and an accepted prompt for one completed turn. -/

namespace Yatagarasu.Cmux

open PyJson ReceiptReducer

/-- A call of `observe`, with the answers of the lookup at that time. -/
structure EmitterCall where
  config : EmitterConfig
  event : SourceEventRef
  payload : Dict
  observedAt : String
  workspaceId : Option String

namespace EmitterCall

def key (o : EmitterCall) : String := workspaceKey o.workspaceId

def session (o : EmitterCall) : Option String := present o.event.sessionId

/-- The occurrence has this name and belongs to this workspace. -/
def Is (o : EmitterCall) (name key : String) : Prop := o.event.eventName = name ∧ o.key = key

/-- A stop of the workspace and session. -/
def Ends (o : EmitterCall) (key session : String) : Prop :=
  o.Is stop key ∧ o.session = some session

def reaction [Host] (o : EmitterCall) (s : EmitterState) : Reaction EmitterState :=
  s.observe o.config o.event o.payload o.observedAt o.workspaceId

end EmitterCall

/-- Everything that an occurrence can do to an emitter. -/
inductive Reacts (o : EmitterCall) (s : EmitterState) : Reaction EmitterState → Prop
  | input : o.event.eventName = inputSent → Reacts o s (.silent (s.observeInput o.event o.key))
  | prompt {reaction : Reaction EmitterState} (marker : Option WireMarker) :
      o.event.eventName = promptSubmitted → reaction.receipt = none →
      (∀ returns, reaction.next returns = { s with
        pendingChains := Function.update s.pendingChains o.key (some
          { (s.pendingChains o.key).getD {} with
            promptEvent := some o.event, decodedMarker := marker }) }) → Reacts o s reaction
  | popped : o.event.eventName = userPromptSubmit → Reacts o s
      (.silent { s with pendingChains := Function.update s.pendingChains o.key none })
  | opened {session : String} {chain : ActiveChain} : o.event.eventName = userPromptSubmit →
      o.session = some session → correlate o.config (s.pendingChains o.key) o.event = some chain →
      Reacts o s (.submits (acceptedReceipt o.config chain session o.observedAt o.event)
        ⟨Function.update s.activeChains (o.key, session) (some chain),
          Function.update s.pendingChains o.key none⟩
        { s with pendingChains := Function.update s.pendingChains o.key none })
  | uncorrelated : o.event.eventName = stop → (∀ session, o.session = some session →
      s.activeChains (o.key, session) = none) → Reacts o s (.silent s)
  | unbound {session : String} : o.event.eventName = stop → o.session = some session →
      Reacts o s (.silent { s with
        activeChains := Function.update s.activeChains (o.key, session) none })
  | closed {session : String} {chain : ActiveChain} : o.event.eventName = stop →
      o.session = some session → s.activeChains (o.key, session) = some chain →
      Reacts o s (.submits (completedReceipt o.config chain session o.observedAt o.event)
        { s with activeChains := Function.update s.activeChains (o.key, session) none }
        { s with activeChains := Function.update s.activeChains (o.key, session) none })
  | other : o.event.eventName ≠ inputSent → o.event.eventName ≠ promptSubmitted →
      o.event.eventName ≠ userPromptSubmit → o.event.eventName ≠ stop → Reacts o s (.silent s)

section Step

variable [Host] {o : EmitterCall} {s : EmitterState}

theorem reaction_reacts (o : EmitterCall) (s : EmitterState) : Reacts o s (o.reaction s) := by
  unfold EmitterCall.reaction EmitterState.observe
  split
  · rename_i hname
    exact .input hname
  split
  · rename_i hname
    unfold EmitterState.observePrompt
    split
    · rename_i marker _
      exact .prompt marker hname rfl fun _ => rfl
    · exact .prompt none hname rfl fun _ => rfl
  split
  · rename_i hname
    unfold EmitterState.observeUserPromptSubmit
    split
    · exact .popped hname
    rename_i hsession
    split
    · exact .popped hname
    · rename_i hchain
      exact .opened hname hsession hchain
  split
  · rename_i hname
    unfold EmitterState.observeStop
    split
    · rename_i hsession
      refine .uncorrelated hname fun session hsome => ?_
      cases hsession.symm.trans hsome
    rename_i hsession
    split
    · rename_i hnone
      refine .uncorrelated hname fun session hsome => ?_
      cases hsession.symm.trans hsome
      exact hnone
    rename_i hactive
    dsimp only
    split
    · exact .unbound hname hsession
    · exact .closed hname hsession hactive
  · rename_i hinput hprompt hhook hstop
    exact .other hinput hprompt hhook hstop

end Step

section Places

variable {before : List EmitterCall} {o new : EmitterCall} {i : Nat} {P : EmitterCall → Prop}

/-- No later occurrence is such. -/
def NoneSince (before : List EmitterCall) (i : Nat) (P : EmitterCall → Prop) : Prop :=
  ∀ m o, i < m → before[m]? = some o → ¬ P o

/-- The last occurrence that is such, at its place. -/
structure LastIn (before : List EmitterCall) (P : EmitterCall → Prop) (i : Nat) (o : EmitterCall) :
    Prop where
  place : before[i]? = some o
  such : P o
  last : NoneSince before i P

theorem place_append (h : before[i]? = some o) : (before ++ [new])[i]? = some o := by
  obtain ⟨hlt, -⟩ := List.getElem?_eq_some_iff.mp h
  rw [List.getElem?_append_left hlt, h]

theorem NoneSince.append (h : NoneSince before i P) (hnew : ¬ P new) :
    NoneSince (before ++ [new]) i P := by
  intro m o hlt hplace
  rw [List.getElem?_append] at hplace
  split at hplace
  · exact h m o hlt hplace
  · rw [List.getElem?_singleton] at hplace
    split at hplace
    · cases hplace
      exact hnew
    · cases hplace

theorem noneSince_new (before : List EmitterCall) (new : EmitterCall) (P : EmitterCall → Prop) :
    NoneSince (before ++ [new]) before.length P := by
  intro m o hlt hplace
  rw [List.getElem?_eq_none (by rw [List.length_append, List.length_singleton]; omega)] at hplace
  cases hplace

theorem LastIn.append (h : LastIn before P i o) (hnew : ¬ P new) :
    LastIn (before ++ [new]) P i o :=
  ⟨place_append h.place, h.such, h.last.append hnew⟩

theorem lastIn_new (hnew : P new) : LastIn (before ++ [new]) P before.length new :=
  ⟨by simp, hnew, noneSince_new before new P⟩

end Places

section Run

variable [Host] {before os : List EmitterCall} {o new : EmitterCall} {i j a m n : Nat}
  {key session : String} {chain : ActiveChain} {r : Receipt}

/-- The emitter after these occurrences, with a core client that returns. -/
def emitterAfter (os : List EmitterCall) : EmitterState :=
  os.foldl (fun s o => (o.reaction s).next fun _ => true) {}

/-- The receipt that the occurrence at a place makes. -/
def emittedAt (os : List EmitterCall) (n : Nat) : Option Receipt :=
  os[n]?.bind fun o => (o.reaction (emitterAfter (os.take n))).receipt

/-- The occurrence at the place emits an accepted prompt of the workspace and session. -/
def AcceptsAt (os : List EmitterCall) (n : Nat) (key session : String) (r : Receipt) : Prop :=
  (∃ o, os[n]? = some o ∧ o.key = key ∧ o.session = some session) ∧ emittedAt os n = some r ∧
    r.evidenceClass = .harnessPromptAccepted

/-- The input and the prompt that a workspace waits with, at their places. -/
structure PendsWith (before : List EmitterCall) (key : String) (i j : Nat)
    (input prompt : EmitterCall) : Prop where
  input : LastIn before (·.Is inputSent key) i input
  prompt : LastIn before (·.Is promptSubmitted key) j prompt
  order : i < j
  unspent : NoneSince before i (·.Is userPromptSubmit key)

/-- The accepted prompt that a session waits with, at its place. -/
structure OpenSince (before : List EmitterCall) (key session : String) (a : Nat)
    (chain : ActiveChain) : Prop where
  accepts : ∃ o, before[a]? = some o ∧
    AcceptsAt before a key session (acceptedReceipt o.config chain session o.observedAt o.event)
  latest : ∀ m r, a < m → ¬ AcceptsAt before m key session r
  unended : NoneSince before a (·.Ends key session)

/-- The input of a pending chain is the last one of the workspace, and no hook has come since. -/
def InputTraced (before : List EmitterCall) (key : String) : Prop :=
  ∀ pending event, (emitterAfter before).pendingChains key = some pending →
    pending.inputEvent = some event → ∃ i o, o.event = event ∧
      LastIn before (·.Is inputSent key) i o ∧ NoneSince before i (·.Is userPromptSubmit key)

/-- The prompt of a pending chain is the last one of the workspace, and no input has come since. -/
def PromptTraced (before : List EmitterCall) (key : String) : Prop :=
  ∀ pending event, (emitterAfter before).pendingChains key = some pending →
    pending.promptEvent = some event → ∃ j o, o.event = event ∧
      LastIn before (·.Is promptSubmitted key) j o ∧ NoneSince before j (·.Is inputSent key)

/-- Where the parts of the emitter's chains come from. -/
structure Traceable (before : List EmitterCall) : Prop where
  input : ∀ key, InputTraced before key
  prompt : ∀ key, PromptTraced before key
  active : ∀ key session chain, (emitterAfter before).activeChains (key, session) = some chain →
    ∃ a, OpenSince before key session a chain

theorem emitterAfter_append (os : List EmitterCall) (new : EmitterCall) :
    emitterAfter (os ++ [new]) = (new.reaction (emitterAfter os)).next fun _ => true := by
  rw [emitterAfter, List.foldl_append]
  rfl

theorem emittedAt_append (h : n < os.length) (later : List EmitterCall) :
    emittedAt (os ++ later) n = emittedAt os n := by
  unfold emittedAt
  rw [List.getElem?_append_left h, List.take_append_of_le_length h.le]

theorem emittedAt_new (os : List EmitterCall) (new : EmitterCall) :
    emittedAt (os ++ [new]) os.length = (new.reaction (emitterAfter os)).receipt := by
  unfold emittedAt
  rw [List.take_left]
  simp

theorem acceptsAt_append {later : List EmitterCall} (h : n < os.length) :
    AcceptsAt (os ++ later) n key session r ↔ AcceptsAt os n key session r := by
  unfold AcceptsAt
  rw [List.getElem?_append_left h, emittedAt_append h]

theorem acceptsAt_take (h : m < n) :
    AcceptsAt (os.take n) m key session r ↔ AcceptsAt os m key session r := by
  rcases lt_or_ge m os.length with hlt | hge
  · have hshort : m < (os.take n).length := by
      rw [List.length_take]
      omega
    rw [← acceptsAt_append hshort, List.take_append_drop]
  · rw [List.take_of_length_le (by omega)]

theorem AcceptsAt.lt (h : AcceptsAt os n key session r) : n < os.length := by
  obtain ⟨⟨o, hplace, -⟩, -⟩ := h
  exact (List.getElem?_eq_some_iff.mp hplace).1

theorem OpenSince.append (h : OpenSince os key session a chain)
    (haccepts : ∀ r, ¬ AcceptsAt (os ++ [new]) os.length key session r)
    (hends : ¬ new.Ends key session) : OpenSince (os ++ [new]) key session a chain := by
  obtain ⟨o, hplace, hat⟩ := h.accepts
  refine ⟨⟨o, place_append hplace, (acceptsAt_append hat.lt).mpr hat⟩, ?_, h.unended.append hends⟩
  intro m r hlater hm
  rcases Nat.lt_succ_iff_lt_or_eq.mp (show m < os.length + 1 by simpa using hm.lt) with hlt | rfl
  · exact h.latest m r hlater ((acceptsAt_append hlt).mp hm)
  · exact haccepts r hm

theorem inputTraced_kept (h : InputTraced os key)
    (hkept : (emitterAfter (os ++ [new])).pendingChains key = (emitterAfter os).pendingChains key)
    (hinput : ¬ new.Is inputSent key) (hhook : ¬ new.Is userPromptSubmit key) :
    InputTraced (os ++ [new]) key := by
  intro pending event hpending hevent
  rw [hkept] at hpending
  obtain ⟨i, o, ho, hlast, hsince⟩ := h pending event hpending hevent
  exact ⟨i, o, ho, hlast.append hinput, hsince.append hhook⟩

theorem promptTraced_kept (h : PromptTraced os key)
    (hkept : (emitterAfter (os ++ [new])).pendingChains key = (emitterAfter os).pendingChains key)
    (hprompt : ¬ new.Is promptSubmitted key) (hinput : ¬ new.Is inputSent key) :
    PromptTraced (os ++ [new]) key := by
  intro pending event hpending hevent
  rw [hkept] at hpending
  obtain ⟨j, o, ho, hlast, hsince⟩ := h pending event hpending hevent
  exact ⟨j, o, ho, hlast.append hprompt, hsince.append hinput⟩

theorem traced_of_none (h : (emitterAfter os).pendingChains key = none) :
    InputTraced os key ∧ PromptTraced os key := by
  refine ⟨fun pending event hsome _ => ?_, fun pending event hsome _ => ?_⟩
  · cases h.symm.trans hsome
  · cases h.symm.trans hsome

theorem traced_kept (h : Traceable os)
    (hkept : (emitterAfter (os ++ [new])).pendingChains key = (emitterAfter os).pendingChains key)
    (hother : ∀ name ∈ [inputSent, promptSubmitted, userPromptSubmit], ¬ new.Is name key) :
    InputTraced (os ++ [new]) key ∧ PromptTraced (os ++ [new]) key := by
  have hinput := hother inputSent (by simp)
  have hprompt := hother promptSubmitted (by simp)
  have hhook := hother userPromptSubmit (by simp)
  exact ⟨inputTraced_kept (h.input key) hkept hinput hhook,
    promptTraced_kept (h.prompt key) hkept hprompt hinput⟩

omit [Host] in
theorem not_is_of_name {name other : String} (hname : new.event.eventName = name)
    (hne : name ≠ other) : ¬ new.Is other key := fun his => hne (hname.symm.trans his.1)

/-- A stop touches no pending chain. -/
theorem traced_stop (h : Traceable os) (hname : new.event.eventName = stop)
    (hkept : (emitterAfter (os ++ [new])).pendingChains key =
      (emitterAfter os).pendingChains key) :
    InputTraced (os ++ [new]) key ∧ PromptTraced (os ++ [new]) key := by
  refine traced_kept h hkept fun name hmem => not_is_of_name hname ?_
  rintro rfl
  exact absurd hmem (by decide)

theorem pending_step (h : Traceable os) (new : EmitterCall) (key : String) :
    InputTraced (os ++ [new]) key ∧ PromptTraced (os ++ [new]) key := by
  have hafter := emitterAfter_append os new
  have hreacts := reaction_reacts new (emitterAfter os)
  generalize new.reaction (emitterAfter os) = reaction at hafter hreacts
  by_cases hkey : new.key = key
  · subst hkey
    cases hreacts with
    | input hname =>
      have hpending : (emitterAfter (os ++ [new])).pendingChains new.key =
          some { inputEvent := some new.event } := by
        rw [hafter]
        simp [Reaction.next, EmitterState.observeInput]
      refine ⟨fun pending event hsome hevent => ?_, fun pending event hsome hevent => ?_⟩
      · cases hpending.symm.trans hsome
        cases hevent
        exact ⟨os.length, new, rfl, lastIn_new ⟨hname, rfl⟩, noneSince_new os new _⟩
      · cases hpending.symm.trans hsome
        cases hevent
    | prompt marker hname hsilent hnext =>
      have hpending : (emitterAfter (os ++ [new])).pendingChains new.key = some
          { ((emitterAfter os).pendingChains new.key).getD {} with
            promptEvent := some new.event, decodedMarker := marker } := by
        rw [hafter, hnext]
        simp
      have hinput : ¬ new.Is inputSent new.key := not_is_of_name hname (by decide)
      have hhook : ¬ new.Is userPromptSubmit new.key := not_is_of_name hname (by decide)
      refine ⟨fun pending event hsome hevent => ?_, fun pending event hsome hevent => ?_⟩
      · cases hpending.symm.trans hsome
        cases hold : (emitterAfter os).pendingChains new.key with
        | none =>
          rw [hold] at hevent
          cases hevent
        | some old =>
          rw [hold] at hevent
          obtain ⟨i, o, ho, hlast, hsince⟩ := h.input new.key old event hold hevent
          exact ⟨i, o, ho, hlast.append hinput, hsince.append hhook⟩
      · cases hpending.symm.trans hsome
        cases hevent
        exact ⟨os.length, new, rfl, lastIn_new ⟨hname, rfl⟩, noneSince_new os new _⟩
    | popped hname | opened hname =>
      refine traced_of_none ?_
      rw [hafter]
      simp [Reaction.next]
    | uncorrelated hname | unbound hname | closed hname =>
      refine traced_stop h hname ?_
      rw [hafter]
      simp [Reaction.next]
    | other hinput hprompt hhook hstop =>
      refine traced_kept h (by rw [hafter]; rfl) fun name hmem his => ?_
      simp only [List.mem_cons, List.not_mem_nil, or_false] at hmem
      rcases hmem with rfl | rfl | rfl
      · exact hinput his.1
      · exact hprompt his.1
      · exact hhook his.1
  · -- another workspace
    refine traced_kept h ?_ fun name _ his => hkey his.2
    rw [hafter]
    cases hreacts with
    | prompt marker _ _ hnext =>
      rw [hnext]
      simp [Function.update_of_ne (Ne.symm hkey)]
    | input | popped | opened | uncorrelated | unbound | closed | other =>
      simp [Reaction.next, EmitterState.observeInput, Function.update_of_ne (Ne.symm hkey)]

theorem not_acceptsAt_new (h : ∀ r, emittedAt (os ++ [new]) os.length = some r →
    r.evidenceClass ≠ .harnessPromptAccepted) (r : Receipt) :
    ¬ AcceptsAt (os ++ [new]) os.length key session r :=
  fun hat => h r hat.2.1 hat.2.2

omit [Host] in
theorem not_ends_of_name (hname : new.event.eventName ≠ stop) : ¬ new.Ends key session :=
  fun hends => hname hends.1.1

/-- A place that is not the new one's keeps its open chain. -/
theorem active_kept (h : Traceable os)
    (hactive : (emitterAfter os).activeChains (key, session) = some chain)
    (haccepts : ∀ r, ¬ AcceptsAt (os ++ [new]) os.length key session r)
    (hends : ¬ new.Ends key session) : ∃ a, OpenSince (os ++ [new]) key session a chain := by
  obtain ⟨a, hopen⟩ := h.active key session chain hactive
  exact ⟨a, hopen.append haccepts hends⟩

theorem active_stopped {session' : String} (h : Traceable os)
    (hsession : new.session = some session')
    (hactive : Function.update (emitterAfter os).activeChains (new.key, session') none
      (key, session) = some chain)
    (haccepts : ∀ r, ¬ AcceptsAt (os ++ [new]) os.length key session r) :
    ∃ a, OpenSince (os ++ [new]) key session a chain := by
  by_cases hsame : (key, session) = (new.key, session')
  · rw [hsame, Function.update_self] at hactive
    cases hactive
  · rw [Function.update_of_ne hsame] at hactive
    refine active_kept h hactive haccepts fun hends => hsame ?_
    cases hsession.symm.trans hends.2
    rw [hends.1.2]

theorem openSince_new (hkey : new.key = key) (hsession : new.session = some session)
    (hemitted : emittedAt (os ++ [new]) os.length =
      some (acceptedReceipt new.config chain session new.observedAt new.event)) :
    OpenSince (os ++ [new]) key session os.length chain := by
  have hplace : (os ++ [new])[os.length]? = some new := by simp
  refine ⟨⟨new, hplace, ⟨new, hplace, hkey, hsession⟩, hemitted, rfl⟩, ?_, noneSince_new os new _⟩
  intro m r hlater hm
  have hlt := hm.lt
  rw [List.length_append, List.length_singleton] at hlt
  omega

theorem active_step (h : Traceable os) (new : EmitterCall)
    (hactive : (emitterAfter (os ++ [new])).activeChains (key, session) = some chain) :
    ∃ a, OpenSince (os ++ [new]) key session a chain := by
  have hemitted := emittedAt_new os new
  rw [emitterAfter_append] at hactive
  have hreacts := reaction_reacts new (emitterAfter os)
  generalize new.reaction (emitterAfter os) = reaction at hactive hemitted hreacts
  have hsilent (hnone : reaction.receipt = none) (r : Receipt) :
      ¬ AcceptsAt (os ++ [new]) os.length key session r := by
    refine not_acceptsAt_new (fun r hr => ?_) r
    rw [hemitted, hnone] at hr
    cases hr
  cases hreacts with
  | input hname =>
    exact active_kept h hactive (hsilent rfl) (not_ends_of_name (by rw [hname]; decide))
  | prompt marker hname hnone hnext =>
    rw [hnext] at hactive
    exact active_kept h hactive (hsilent hnone) (not_ends_of_name (by rw [hname]; decide))
  | popped hname =>
    exact active_kept h hactive (hsilent rfl) (not_ends_of_name (by rw [hname]; decide))
  | @opened session' chain' hname hsession hchain =>
    have hends : ¬ new.Ends key session := not_ends_of_name (by rw [hname]; decide)
    by_cases hsame : (key, session) = (new.key, session')
    · cases hsame
      have hnew : chain' = chain := by simpa [Reaction.next] using hactive
      rw [hnew] at hemitted
      exact ⟨os.length, openSince_new rfl hsession hemitted⟩
    · have hold : (emitterAfter os).activeChains (key, session) = some chain := by
        simpa [Reaction.next, Function.update_of_ne hsame] using hactive
      refine active_kept h hold (fun r hat => hsame ?_) hends
      obtain ⟨⟨o, hplace, hkey, hsome⟩, -⟩ := hat
      obtain rfl : new = o := by simpa using hplace
      cases hsession.symm.trans hsome
      rw [hkey]
  | uncorrelated hname hnone =>
    refine active_kept h hactive (hsilent rfl) fun hends => ?_
    rw [← hends.1.2] at hactive
    cases (hnone session hends.2).symm.trans hactive
  | unbound hname hsession =>
    exact active_stopped h hsession hactive (hsilent rfl)
  | closed hname hsession hchain =>
    rw [Reaction.next, ite_self] at hactive
    refine active_stopped h hsession hactive (not_acceptsAt_new fun r hr hclass => ?_)
    rw [hemitted] at hr
    cases hr
    cases hclass
  | other hinput hprompt hhook hstop =>
    exact active_kept h hactive (hsilent rfl) (not_ends_of_name hstop)

theorem traceable (os : List EmitterCall) : Traceable os := by
  induction os using List.reverseRecOn with
  | nil =>
    refine ⟨fun key => (traced_of_none rfl).1, fun key => (traced_of_none rfl).2, ?_⟩
    intro key session chain hactive
    cases hactive
  | append_singleton os new ih =>
    exact ⟨fun key => (pending_step ih new key).1, fun key => (pending_step ih new key).2,
      fun key session chain => active_step ih new⟩

end Run

/-- The receipt proves its session with these source events. -/
def Proves (r : Receipt) (session : String) (events : List SourceEventRef) : Prop :=
  ∃ marker, r.proof = some (.typed
    { sessionId := session, marker := .typed marker
      sourceEvents := .tuple (events.map .typed) })

section Linearity

variable [Host]

/-- The hook at the place turns the input and the prompt that its workspace waits with into an
accepted prompt. -/
structure AcceptsWith (os : List EmitterCall) (n i j : Nat) (r : Receipt) : Prop where
  emitted : emittedAt os n = some r
  accepted : r.evidenceClass = .harnessPromptAccepted
  parts : ∃ input prompt hook session, os[n]? = some hook ∧ hook.Is userPromptSubmit hook.key ∧
    hook.session = some session ∧ PendsWith (os.take n) hook.key i j input prompt ∧
      Proves r session [input.event, prompt.event, hook.event]

/-- The stop at the place turns the accepted prompt that its session waits with, the last one, into
a completed turn of the same delivery. -/
structure CompletesWith (os : List EmitterCall) (n a : Nat) (r : Receipt) : Prop where
  emitted : emittedAt os n = some r
  completed : r.evidenceClass = .harnessTurnCompleted
  parts : ∃ stopped accepted session events, os[n]? = some stopped ∧ a < n ∧
    stopped.Ends stopped.key session ∧ AcceptsAt os a stopped.key session accepted ∧
    (∀ m r, a < m → m < n → ¬ AcceptsAt os m stopped.key session r) ∧
    NoneSince (os.take n) a (·.Ends stopped.key session) ∧ Proves accepted session events ∧
    Proves r session (events ++ [stopped.event]) ∧
    r.eventId = accepted.eventId ∧ r.deliveryId = accepted.deliveryId ∧
    r.attemptId = accepted.attemptId ∧ r.bindingId = accepted.bindingId

/-- Every receipt is one of the two, and no evidence is used twice. -/
structure LinearIn (os : List EmitterCall) : Prop where
  receipt : ∀ n r, emittedAt os n = some r →
    (∃ i j, AcceptsWith os n i j r) ∨ ∃ a, CompletesWith os n a r
  accepted_once : ∀ {n i j r n' i' j' r'}, AcceptsWith os n i j r → AcceptsWith os n' i' j' r' →
    n ≠ n' → [i, j, n].Disjoint [i', j', n']
  completed_once : ∀ {n a r n' a' r'}, CompletesWith os n a r → CompletesWith os n' a' r' →
    (a = a' ↔ n = n')

variable {os : List EmitterCall} {n i j a n' i' j' a' : Nat} {r r' : Receipt}

theorem emittedAt_eq_some (h : emittedAt os n = some r) : ∃ o, os[n]? = some o ∧
    (o.reaction (emitterAfter (os.take n))).receipt = some r := Option.bind_eq_some_iff.mp h

/-- The prompt of a pending chain comes after its input. -/
theorem pendsWith_of_traceable {before : List EmitterCall} {key : String} {pending : PendingChain}
    {input prompt : SourceEventRef} (h : Traceable before)
    (hpending : (emitterAfter before).pendingChains key = some pending)
    (hinput : pending.inputEvent = some input) (hprompt : pending.promptEvent = some prompt) :
    ∃ i j o o', o.event = input ∧ o'.event = prompt ∧ PendsWith before key i j o o' := by
  obtain ⟨i, o, ho, hlast, hunspent⟩ := h.input key pending input hpending hinput
  obtain ⟨j, o', ho', hlast', hsince⟩ := h.prompt key pending prompt hpending hprompt
  refine ⟨i, j, o, o', ho, ho', hlast, hlast', ?_, hunspent⟩
  rcases Nat.lt_trichotomy i j with hlt | rfl | hgt
  · exact hlt
  · cases hlast.place.symm.trans hlast'.place
    exact absurd (hlast.such.1.symm.trans hlast'.such.1) (by decide)
  · exact absurd hlast.such (hsince i o hgt hlast.place)

theorem emitted_cases (h : emittedAt os n = some r) :
    (∃ i j, AcceptsWith os n i j r) ∨ ∃ a, CompletesWith os n a r := by
  obtain ⟨o, hplace, hreceipt⟩ := emittedAt_eq_some h
  have htraceable := traceable (os.take n)
  have hreacts := reaction_reacts o (emitterAfter (os.take n))
  generalize o.reaction (emitterAfter (os.take n)) = reaction at hreceipt hreacts
  cases hreacts with
  | input | popped | uncorrelated | unbound | other => cases hreceipt
  | prompt marker hname hnone =>
    rw [hnone] at hreceipt
    cases hreceipt
  | @opened session chain hname hsession hchain =>
    cases hreceipt
    obtain ⟨input, prompt, marker, hpending, -, -, hevents⟩ := correlate_eq_some hchain
    obtain ⟨i, j, first, second, rfl, rfl, hpends⟩ :=
      pendsWith_of_traceable htraceable hpending rfl rfl
    refine .inl ⟨i, j, h, rfl, first, second, o, session, hplace, ⟨hname, rfl⟩, hsession, hpends,
      chain.marker, ?_⟩
    rw [← hevents]
    rfl
  | @closed session chain hname hsession hactive =>
    cases hreceipt
    obtain ⟨a, hopen⟩ := htraceable.active o.key session chain hactive
    obtain ⟨opening, hopening, haccepts⟩ := hopen.accepts
    have hlt : a < n := by
      have hbefore := haccepts.lt
      rw [List.length_take] at hbefore
      omega
    refine .inr ⟨a, h, rfl, o, _, session, chain.events, hplace, hlt, ⟨⟨hname, rfl⟩, hsession⟩,
      (acceptsAt_take hlt).mp haccepts, fun m r hlater hbefore hm => ?_, hopen.unended,
      ⟨chain.marker, rfl⟩, ⟨chain.marker, rfl⟩, rfl, rfl, rfl, rfl⟩
    exact hopen.latest m r hlater ((acceptsAt_take hbefore).mpr hm)

/-- The places of an accepted prompt. -/
theorem AcceptsWith.places (h : AcceptsWith os n i j r) : ∃ input prompt hook key,
    os[i]? = some input ∧ input.Is inputSent key ∧ os[j]? = some prompt ∧
    prompt.Is promptSubmitted key ∧ os[n]? = some hook ∧ hook.Is userPromptSubmit key ∧ i < j ∧
    j < n ∧ NoneSince (os.take n) i (·.Is userPromptSubmit key) := by
  obtain ⟨input, prompt, hook, session, hplace, hhook, -, hpends, -⟩ := h.parts
  have hi := hpends.input.place
  have hj := hpends.prompt.place
  rw [List.getElem?_take] at hi hj
  split at hi
  · split at hj
    · rename_i hjn
      exact ⟨input, prompt, hook, hook.key, hi, hpends.input.such, hj, hpends.prompt.such, hplace,
        hhook, hpends.order, hjn, hpends.unspent⟩
    · cases hj
  · cases hi

/-- A later accepted prompt has another input and another prompt, for the hook has spent these. -/
theorem accepted_disjoint (h : AcceptsWith os n i j r) (h' : AcceptsWith os n' i' j' r')
    (hlt : n < n') : [i, j, n].Disjoint [i', j', n'] := by
  obtain ⟨input, prompt, hook, key, hi, hinput, hj, hprompt, hn, hhook, hij, hjn, -⟩ := h.places
  obtain ⟨input', prompt', hook', key', hi', hinput', hj', hprompt', hn', hhook', hij', -,
    hunspent⟩ := h'.places
  have hspent (hkey : key = key') : ¬ i' < n := by
    intro hin
    subst hkey
    have htaken : (os.take n')[n]? = some hook := by rw [List.getElem?_take, if_pos hlt, hn]
    exact hunspent n hook hin htaken hhook
  intro m hm hm'
  simp only [List.mem_cons, List.not_mem_nil, or_false] at hm hm'
  rcases hm with rfl | rfl | rfl
  · rcases hm' with rfl | rfl | rfl
    · cases hi.symm.trans hi'
      exact hspent (hinput.2.symm.trans hinput'.2) (by omega)
    · cases hi.symm.trans hj'
      exact absurd (hinput.1.symm.trans hprompt'.1) (by decide)
    · cases hi.symm.trans hn'
      exact absurd (hinput.1.symm.trans hhook'.1) (by decide)
  · rcases hm' with rfl | rfl | rfl
    · cases hj.symm.trans hi'
      exact absurd (hprompt.1.symm.trans hinput'.1) (by decide)
    · cases hj.symm.trans hj'
      exact hspent (hprompt.2.symm.trans hprompt'.2) (by omega)
    · cases hj.symm.trans hn'
      exact absurd (hprompt.1.symm.trans hhook'.1) (by decide)
  · rcases hm' with rfl | rfl | rfl
    · cases hn.symm.trans hi'
      exact absurd (hhook.1.symm.trans hinput'.1) (by decide)
    · cases hn.symm.trans hj'
      exact absurd (hhook.1.symm.trans hprompt'.1) (by decide)
    · omega

/-- A stop in between would have closed the chain. -/
theorem completed_distinct (h : CompletesWith os n a r) (h' : CompletesWith os n' a r') :
    ¬ n < n' := by
  intro hlt
  obtain ⟨stopped, accepted, session, events, hplace, hlater, hends, haccepts, -⟩ := h.parts
  obtain ⟨stopped', accepted', session', events', -, -, -, haccepts', -, hunended, -⟩ := h'.parts
  obtain ⟨⟨o, ho, hkey, hsession⟩, -⟩ := haccepts
  obtain ⟨⟨o', ho', hkey', hsession'⟩, -⟩ := haccepts'
  cases ho.symm.trans ho'
  have htaken : (os.take n')[n]? = some stopped := by
    rw [List.getElem?_take, if_pos hlt, hplace]
  refine hunended n stopped hlater htaken ?_
  rw [← hkey', hkey]
  cases hsession.symm.trans hsession'
  exact hends

/-- The chain that a stop closes is the last of its session. -/
theorem completed_latest (h : CompletesWith os n a r) (h' : CompletesWith os n a' r') :
    ¬ a < a' := by
  intro hlt
  obtain ⟨stopped, accepted, session, events, hplace, -, hends, -, hlatest, -⟩ := h.parts
  obtain ⟨stopped', accepted', session', events', hplace', hbefore, hends', haccepts', -⟩ :=
    h'.parts
  cases hplace.symm.trans hplace'
  cases hends.2.symm.trans hends'.2
  exact hlatest a' accepted' hlt hbefore haccepts'

/-- Evidence is used linearly. -/
theorem evidence_linear (os : List EmitterCall) : LinearIn os := by
  refine ⟨fun n r h => emitted_cases h, ?_, ?_⟩
  · intro n i j r n' i' j' r' h h' hne
    rcases Nat.lt_or_gt_of_ne hne with hlt | hgt
    · exact accepted_disjoint h h' hlt
    · exact (accepted_disjoint h' h hgt).symm
  · intro n a r n' a' r' h h'
    constructor
    · rintro rfl
      have hless := completed_distinct h h'
      have hmore := completed_distinct h' h
      omega
    · rintro rfl
      have hless := completed_latest h h'
      have hmore := completed_latest h' h
      omega

end Linearity

end Yatagarasu.Cmux
