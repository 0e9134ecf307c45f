import Preconnect.Blocking
import Preconnect.Error.Outline
import Preconnect.Error.Source
import Preconnect.Request.Read
import Preconnect.Run.Scheduler
import Preconnect.Session
import Preconnect.Proofs.Conservation
import Preconnect.Proofs.Settling
import Preconnect.Proofs.Telling
import Preconnect.Proofs.Phase
import Preconnect.Proofs.AllOrNothing
import Preconnect.Proofs.EventProtocol
import Preconnect.Proofs.Schedule
import Preconnect.Proofs.Growth
import Preconnect.Proofs.KeptFailure
import Preconnect.Proofs.Guarantee
import Preconnect.Proofs.Deaths
import Preconnect.Proofs.Tolerance
import Preconnect.Proofs.Matching
import Preconnect.Proofs.Passive
import Preconnect.Proofs.Concurrency
import Preconnect.Proofs.Delivery
import Preconnect.Proofs.Aftermath
import Preconnect.Proofs.Labor
import Preconnect.Proofs.Cancellation
import Preconnect.Proofs.Unread
import Preconnect.Proofs.Policy
import Preconnect.Proofs.Veil
import Preconnect.Proofs.Independence
import Preconnect.Proofs.PanicErrors
import Preconnect.Proofs.Threads
import Preconnect.Proofs.Races
import Preconnect.Proofs.Blocking
import Preconnect.Proofs.Echo
import Preconnect.Proofs.Tracing
import Preconnect.Proofs.Grammar
import Preconnect.Proofs.Scanning
import Preconnect.Proofs.Rendering
import Preconnect.Proofs.Accumulation
import Preconnect.Proofs.Recovering
import Preconnect.Proofs.Shown
import Preconnect.Proofs.Judging
import Preconnect.Proofs.Contents
import Preconnect.Proofs.Forms
import Preconnect.Proofs.Inversion
import Preconnect.Proofs.Accepting
import Preconnect.Proofs.Channel
import Preconnect.Proofs.Commuting
import Preconnect.Proofs.Polling
import Preconnect.Proofs.Quiescence
import Preconnect.Proofs.Dispatch
import Preconnect.Proofs.Lifecycle
import Preconnect.Proofs.Progress
import Preconnect.Proofs.Wording
import Preconnect.Proofs.Histories
