import Yatagarasu.Cmux.Previews
import Yatagarasu.Cmux.Progress
import Yatagarasu.Cmux.ProofAgreement
import Yatagarasu.Cmux.RepeatedCallbacks
import Yatagarasu.Cmux.Seam
import Yatagarasu.Core.Admission
import Yatagarasu.Core.Markers

/-! From the injection of a delivery to the core's last word on it: the acknowledgement, the entry
and the end of one turn, each made by its own part and each accepted by the reducer. -/

namespace Yatagarasu.Cmux

open PyJson ReceiptReducer Transition

/-- Neither the receipt of this observation nor its event is in the tables. -/
structure Unrecorded (t : Tables) (providerId : String) (obs : TranslatedObservation) : Prop where
  receipt : ∀ row ∈ t.receipts, row.receiptId ≠ "rec-" ++ obs.sourceEvent.sourceEventId
  source : ∀ row ∈ t.receipts, row.providerId = providerId →
    row.sourceEventId ≠ some obs.sourceEvent.sourceEventId

theorem Unrecorded.sourceSeen {t : Tables} {providerId : String} {obs : TranslatedObservation}
    (h : Unrecorded t providerId obs) :
    t.sourceSeen providerId obs.sourceEvent.sourceEventId = false := by
  refine Bool.eq_false_iff.mpr fun hseen => ?_
  obtain ⟨row, hrow, hsame⟩ := List.any_eq_true.mp hseen
  obtain ⟨hprovider, hsource⟩ := of_decide_eq_true hsame
  exact h.source row hrow hprovider hsource

section Markers

variable [Host] {a : MarkerAuthority} {d stored : Delivery} {m : DeliveryMarker}
  {issuedAt expiresAt observedAt : String} {binding : SessionBindingRow}

end Markers

section Receipts

variable [Host] {t : Tables} {config : EmitterConfig} {a : MarkerAuthority} {d stored : Delivery}
  {m : DeliveryMarker} {issuedAt expiresAt source session : String} {ack : StreamAck}
  {events : List DerivedEvent} {parts : List TranslatedObservation}
  {prompt last : TranslatedObservation} {binding : SessionBindingRow} {next : Transition}
  {evidenceClass : EvidenceClass} {disposition : Option Disposition}

end Receipts

section Submissions

variable [Host] {t t' : Tables} {config : EmitterConfig} {r : Receipt} {d stored : Delivery}
  {next : Transition} {providerId source session : String} {binding : SessionBindingRow}
  {obs : TranslatedObservation}

variable [PyText] {ack : Acknowledgement}

end Submissions

section Turn

variable [Host] {config : EmitterConfig} {a : MarkerAuthority} {d stored : Delivery}
  {m : DeliveryMarker} {issuedAt expiresAt source key session : String} {ack : StreamAck}
  {events : List DerivedEvent} {binding : SessionBindingRow} {turn : RepeatedTurn}

omit [Host] in
theorem RepeatedTurn.Fits.names {counts : TranslatedObservation → Prop} {wire : WireMarker}
    (h : turn.Fits counts key session wire) :
    [turn.input, turn.prompt, turn.hook].map (·.name) = promptChain ∧
      [turn.input, turn.prompt, turn.hook, turn.stop].map (·.name) = completedChain := by
  simp only [List.map_cons, List.map_nil, h.input.1, h.prompt, h.hook.1, h.stop.1]
  exact ⟨rfl, rfl⟩

end Turn

section Log

variable [Host] {r : Resident} {bootId : String} {log : ServerLog} {rows : List DerivedEvent}

variable (r bootId) in
/-- What the projector makes of a log. -/
def ServerLog.events (log : ServerLog) : List DerivedEvent :=
  log.entries.filterMap fun entry => (project r.sourceInstanceId entry.frame bootId).toOption

end Log

section Whole

variable [Host] [PyText] {a : MarkerAuthority} {call : DeliverCall} {w : Collaborators}
  {ack : Acknowledgement} {stored : Delivery}

end Whole

end Yatagarasu.Cmux
