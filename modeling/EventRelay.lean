import EventRelay.Decimal
import EventRelay.Session.Bus
import EventRelay.Session.ExecUnit
import EventRelay.Session.Handler
import EventRelay.Session.Relay
import EventRelay.Session.Ring
import EventRelay.Source.Script
import EventRelay.Proofs.Run
import EventRelay.Proofs.Frame
import EventRelay.Proofs.Act
import EventRelay.Proofs.Poller
import EventRelay.Proofs.Lifecycle
import EventRelay.Proofs.Facts
import EventRelay.Proofs.Lives
import EventRelay.Proofs.OnePoller
import EventRelay.Proofs.Session
import EventRelay.Proofs.Stop
import EventRelay.Proofs.Ring
import EventRelay.Proofs.Enrolment
import EventRelay.Proofs.Rolls
import EventRelay.Proofs.Waiting
import EventRelay.Proofs.Handing
import EventRelay.Proofs.Drain
import EventRelay.Proofs.Flow
import EventRelay.Proofs.Delivery
import EventRelay.Proofs.Laps
import EventRelay.Proofs.Serving
import EventRelay.Proofs.Queue
import EventRelay.Proofs.Line
import EventRelay.Proofs.Fetching
import EventRelay.Proofs.Window
import EventRelay.Proofs.Wakeup
import EventRelay.Proofs.Stride
import EventRelay.Proofs.Clock
import EventRelay.Proofs.Unheard
import EventRelay.Proofs.Removal
import EventRelay.Proofs.CutOff
import EventRelay.Proofs.Turns
import EventRelay.Proofs.Settling
import EventRelay.Proofs.Vantage
import EventRelay.Proofs.Likeness
import EventRelay.Proofs.Lockstep
import EventRelay.Proofs.Abreast
import EventRelay.Proofs.Unwinding
import EventRelay.Proofs.Isolation
import EventRelay.Proofs.Deaf
import EventRelay.Proofs.Heed
import EventRelay.Proofs.Stray
import EventRelay.Proofs.Gaps
import EventRelay.Proofs.Failures
import EventRelay.Proofs.Backoff
import EventRelay.Proofs.Provenance
import EventRelay.Proofs.Course
import EventRelay.Proofs.Refusal
import EventRelay.Proofs.Ledger
import EventRelay.Proofs.Balance
import EventRelay.Proofs.LastHandle
import EventRelay.Proofs.Rounding
import EventRelay.Proofs.Varying
import EventRelay.Proofs.Capping
import EventRelay.Proofs.Firing
import EventRelay.Proofs.Recovery
import EventRelay.Proofs.Shutdown
import EventRelay.Proofs.Joining
import EventRelay.Proofs.Interrupts
import EventRelay.Proofs.Receiving
