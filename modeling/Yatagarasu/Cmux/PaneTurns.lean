import Yatagarasu.Cmux.AtMostOnce

/-! What the pane is given for a delivery is one rendered turn: its text, and after it the submit
keys of the harness in their order. A crash may cut it off, and no other call goes on with it. -/

namespace Yatagarasu.Cmux

open Transition

/-- The turn that a call types: the text, then the keys that submit it. -/
def turn (call : DeliverCall) (prepared : Prepared) (surface : String) : List Deed :=
  .sent call.deliveryId surface prepared.text ::
    prepared.profile.submitKeys.map (.pressed call.deliveryId surface)

def Deed.types (d : String) : Deed → Bool
  | .sent deliveryId _ _ | .pressed deliveryId _ _ => deliveryId = d
  | .refused _ | .recorded _ => false

/-- What was typed for a delivery, in order. -/
def typed (d : String) (deeds : List Deed) : List Deed := deeds.filter (Deed.types d)

/-- What a call that has sent its text is still to type; a call that reports a submit has nothing
left. -/
def CallPhase.left? (call : DeliverCall) : CallPhase → Option (List Deed)
  | .touching prepared surface =>
    some (prepared.profile.submitKeys.map (.pressed call.deliveryId surface))
  | .submitting _ surface keys => some (keys.map (.pressed call.deliveryId surface))
  | .observing _ _ => some []
  | .returned result => if result.outcome = .submitted then some [] else none
  | .minting | .resolving _ | .pending _ _ | .journaling _ _ _ _ | .sending _ _ | .raised _ => none

/-- The call was started under this number, which has not been given again. -/
def Begun (actions : List Injections.Action) (i : Nat) (call : DeliverCall) : Prop :=
  ∃ before after, actions = before ++ .start i call :: after ∧ ∀ other, .start i other ∉ after

/-- The call was started under this number, and before the number was given again its resolver named
this surface. -/
def Resolved (actions : List Injections.Action) (i : Nat) (call : DeliverCall) (surface : String) :
    Prop :=
  ∃ before after, Begun before i call ∧ actions = before ++ .respond i (.surface surface) :: after

section Step

variable [Host] [PyText] {authority : MarkerAuthority} {call : DeliverCall}
  {rows : InjectionJournal} {free : Bool} {phase phase' : CallPhase} {deeds : List Deed}
  {response : Response}

/-- Everything that one step of a call can type. -/
inductive Typing (call : DeliverCall) (phase : CallPhase) : CallPhase → List Deed → Prop
  | aside {phase' : CallPhase} {deeds : List Deed} (hdeeds : ∀ d, typed d deeds = [])
      (hleft : ∀ left, phase'.left? call = some left → phase.left? call = some left) :
      Typing call phase phase' deeds
  | sends {prepared : Prepared} {surface : String} (hphase : phase = .sending prepared surface) :
      Typing call phase (.touching prepared surface) [.sent call.deliveryId surface prepared.text]
  | presses {prepared : Prepared} {surface key : String} {keys : List String}
      (hphase : phase = .submitting prepared surface (key :: keys)) :
      Typing call phase (.submitting prepared surface keys)
        [.pressed call.deliveryId surface key]

omit [Host] [PyText] in
/-- Nothing is typed on the way to a phase that has typed nothing. -/
theorem Typing.early (h : phase'.left? call = none) : Typing call phase phase' [] := by
  refine .aside (fun _ => rfl) fun left hleft => ?_
  rw [h] at hleft
  cases hleft

end Step

section System

variable [Host] [PyText] {authority : MarkerAuthority} {s s' start : Injections}
  {deeds new : List Deed} {d : String} {actions : List Injections.Action}
  {action : Injections.Action} {history : List (Injections.Action × List Deed)} {i : Nat}
  {call : DeliverCall} {surface : String}

omit [Host] [PyText] in
theorem Begun.append (h : Begun actions i call) (hother : ∀ other, action ≠ .start i other) :
    Begun (actions ++ [action]) i call := by
  obtain ⟨before, after, rfl, hafter⟩ := h
  refine ⟨before, after ++ [action], by simp, fun other hmem => ?_⟩
  rcases List.mem_append.mp hmem with hmem | hmem
  · exact hafter other hmem
  · exact hother other (List.mem_singleton.mp hmem).symm

omit [Host] [PyText] in
theorem Resolved.append (h : Resolved actions i call surface) :
    Resolved (actions ++ [action]) i call surface := by
  obtain ⟨before, after, hbegun, rfl⟩ := h
  exact ⟨before, after ++ [action], hbegun, by simp⟩

/-- Nothing was typed for the delivery, or one call has typed a part of its turn, and only that call
may go on with it. -/
inductive Typed (authority : MarkerAuthority) (actions : List Injections.Action) (deeds : List Deed)
    (s : Injections) (d : String) : Prop
  | untouched (hnone : typed d deeds = [])
      (hearly : ∀ j call phase, s.calls j = some (call, phase) → call.deliveryId = d →
        phase.left? call = none)
  | begun {i : Nat} {call : DeliverCall} {prepared : Prepared} {surface : String}
      (hdelivery : call.deliveryId = d) (hmint : call.mint authority = .resolving prepared)
      (hresolved : Resolved actions i call surface) (hsent : 0 < sends d deeds) (hpre : typed d deeds <+: turn call prepared surface)
      (hlate : ∀ j other phase left, s.calls j = some (other, phase) → other.deliveryId = d →
        phase.left? other = some left →
          j = i ∧ other = call ∧ typed d deeds ++ left = turn call prepared surface)

omit [Host] [PyText] in
theorem typed_append : typed d (deeds ++ new) = typed d deeds ++ typed d new :=
  List.filter_append ..

/-- A step that types nothing for the delivery, and after which nobody has more left than before. -/
theorem Typed.keep (h : Typed authority actions deeds s d) (hnew : typed d new = [])
    (hleft : ∀ j call phase left, s'.calls j = some (call, phase) → call.deliveryId = d →
      phase.left? call = some left →
        ∃ before, s.calls j = some (call, before) ∧ before.left? call = some left) :
    Typed authority (actions ++ [action]) (deeds ++ new) s' d := by
  have hsame : typed d (deeds ++ new) = typed d deeds := by
    rw [typed_append, hnew, List.append_nil]
  cases h with
  | untouched hnone hearly =>
    refine .untouched (hsame.trans hnone) fun j call phase hcall hdelivery => ?_
    by_contra hsome
    obtain ⟨left, hphase⟩ := Option.ne_none_iff_exists'.mp hsome
    obtain ⟨before, hbefore, hlate⟩ := hleft j call phase left hcall hdelivery hphase
    rw [hearly j call before hbefore hdelivery] at hlate
    cases hlate
  | @begun i _ _ _ hdelivery hmint hresolved hsent hpre hlate =>
    refine .begun (i := i) hdelivery hmint hresolved.append ?_ (hsame ▸ hpre)
      fun j other phase left hcall hown hphase => ?_
    · unfold sends at hsent ⊢
      rw [List.countP_append]
      omega
    · obtain ⟨before, hbefore, hlater⟩ := hleft j other phase left hcall hown hphase
      rw [hsame]
      exact hlate j other before left hbefore hown hlater

section Advance

variable {i : Nat} {call : DeliverCall} {prepared : Prepared} {surface : String}
  {journal : InjectionJournal} {writer : Option Nat}

end Advance

end System

section Whole

variable [Host] [PyText] {authority : MarkerAuthority} {start s : Injections} {deeds new : List Deed}
  {i : Nat} {call : DeliverCall} {phase phase' : CallPhase} {prepared : Prepared} {surface : String}

end Whole

end Yatagarasu.Cmux
