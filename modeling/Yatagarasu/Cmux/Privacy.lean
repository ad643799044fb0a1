import Yatagarasu.Cmux.Acceptance
import Yatagarasu.Library.Separation

/-! A resident cannot tell frames apart whose payloads differ in what the projector drops. -/

namespace Yatagarasu.Cmux

open PyJson ReceiptReducer Separation

/-- The marker that a preview shows; a value that is no text shows none. -/
def shownMarker : Option Json → Option WireMarker
  | some (.str preview) => extract preview
  | _ => none

/-- Payloads with the same values of a kind under the safe keys, and with the same marker in their
previews. -/
structure SamePayload (kind : Json → Bool) (payload payload' : Dict) : Prop where
  keys : (payload.map Prod.fst).Nodup
  keys' : (payload'.map Prod.fst).Nodup
  safe : ∀ key ∈ safePayloadKeys, ∀ value, kind value →
    (payload.lookup key = some value ↔ payload'.lookup key = some value)
  preview : shownMarker (payload.lookup "message_preview") =
    shownMarker (payload'.lookup "message_preview")

/-- Frames that are the same but for such payloads. -/
structure SameFrame (kind : Json → Bool) (frame frame' : Dict) : Prop where
  others : ∀ key, key ≠ "payload" → frame.lookup key = frame'.lookup key
  payload : ∃ payload payload', frame.lookup "payload" = some (.obj payload) ∧
    frame'.lookup "payload" = some (.obj payload') ∧ SamePayload kind payload payload'

/-- The same from the world, but for the payloads of its frames. -/
inductive Input.Alike (kind : Json → Bool) : Input → Input → Prop
  | same (input : Input) : Alike kind input input
  | frame {frame frame' : Dict} : SameFrame kind frame frame' →
      Alike kind (.frame (.ok (some frame))) (.frame (.ok (some frame')))

section Projection

variable {payload payload' frame frame' : Dict}

end Projection

section Runs

variable [Host] {r : Resident} {p : Process} {frame frame' : Dict} {input input' : Input}

end Runs

end Yatagarasu.Cmux
