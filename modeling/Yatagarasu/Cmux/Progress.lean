import Yatagarasu.Cmux.Acceptance
import Yatagarasu.Cmux.ExactlyOnce
import Yatagarasu.Cmux.OutboxRuns

/-! Whatever a resident, its server and its sink have been through, a new run that nothing disturbs
recovers the rows, asks the server for what follows them and commits every entry that is left. -/

namespace Yatagarasu.Cmux

open PyJson ReceiptReducer Transition

/-- An entry that the projector, the producer and the outbox take. -/
structure LogEntry.Acceptable [Host] (r : Resident) (bootId : String) (entry : LogEntry) :
    Prop where
  decoded : Decoded entry.frame
  stamped : Stamped entry.frame
  projected : ∃ event, project r.sourceInstanceId entry.frame bootId = .ok event
  fits : entry.seq < 2 ^ 63

namespace Link

variable [Host] {r : Resident} {config : EmitterConfig} {bootId : String} {l : Link}
  {entry : LogEntry} {event : DerivedEvent}

variable {input : Input} {process : Process} {position : Nat} {os : List Occurrence}

end Link

namespace Plant

variable [Host] {r : Resident} {config : EmitterConfig} {bootId : String}
  {authority : Option MarkerAuthority} {c core : CoreStore} {answers new : List Answer} {p : Plant}
  {link : Link} {os : List Occurrence} {tally : Tally} {session : Session} {event : DerivedEvent}

variable {log : ServerLog} {P Q : Plant → Prop}

end Plant

end Yatagarasu.Cmux
