import Yatagarasu.Core.Receipts
import Yatagarasu.Core.Reduction
import Yatagarasu.Core.Broadcasts
import Yatagarasu.Core.Runs
import Yatagarasu.Core.AuditReplay
import Yatagarasu.Core.EvidenceSoundness
import Yatagarasu.Core.Idempotence
import Yatagarasu.Core.Footprint
import Yatagarasu.Core.Later
import Yatagarasu.Core.Interleaving
import Yatagarasu.Core.Concurrent
import Yatagarasu.Cmux.Marker
import Yatagarasu.Cmux.StreamProtocol
import Yatagarasu.Cmux.ReceiptEmitter
import Yatagarasu.Cmux.ReceiptProducer
import Yatagarasu.Cmux.Observations
import Yatagarasu.Cmux.Turns
import Yatagarasu.Cmux.StrayStops
import Yatagarasu.Core.Effects
import Yatagarasu.Core.Revocation
import Yatagarasu.Core.Supersession
import Yatagarasu.Core.Snapshots
import Yatagarasu.Core.RollUp
import Yatagarasu.Core.Transactions
import Yatagarasu.Core.Verdicts
import Yatagarasu.Core.TurnEnds
import Yatagarasu.Cmux.Resident
import Yatagarasu.Cmux.Replication
import Yatagarasu.Cmux.Gaps
import Yatagarasu.Cmux.Duplicates
import Yatagarasu.Cmux.ProofAgreement
import Yatagarasu.Cmux.Injector
import Yatagarasu.Cmux.QueuedTurns
import Yatagarasu.Cmux.AtMostOnce
import Yatagarasu.Core.Resubmission
import Yatagarasu.Cmux.Reemission
import Yatagarasu.Cmux.ExactlyOnce
import Yatagarasu.Cmux.JournalRuns
import Yatagarasu.Cmux.RacingSettles
import Yatagarasu.Cmux.OutboxRuns
import Yatagarasu.Core.Migration
import Yatagarasu.Cmux.Notifications
import Yatagarasu.Cmux.Banners
import Yatagarasu.Library.Decoded
import Yatagarasu.Cmux.Acceptance
import Yatagarasu.Cmux.Deliver
import Yatagarasu.Cmux.Seam
import Yatagarasu.Core.Markers
import Yatagarasu.Cmux.Extraction
import Yatagarasu.Cmux.Previews
import Yatagarasu.Core.Isolation
import Yatagarasu.Cmux.Retirement
import Yatagarasu.Cmux.SeatCap
import Yatagarasu.Cmux.RepeatedCallbacks
import Yatagarasu.Cmux.Workspaces
import Yatagarasu.Cmux.LinearEvidence
import Yatagarasu.Cmux.Privacy
import Yatagarasu.Cmux.Framing
import Yatagarasu.Cmux.Commands
import Yatagarasu.Cmux.Connections
import Yatagarasu.Cmux.Dialogues
import Yatagarasu.Cmux.Wiring
import Yatagarasu.Cmux.MarkerKey
import Yatagarasu.Cmux.PaneTurns
import Yatagarasu.Cmux.Progress
import Yatagarasu.Core.Admission
import Yatagarasu.Cmux.WholeTurn
import Yatagarasu.Cmux.KeptMarkers
