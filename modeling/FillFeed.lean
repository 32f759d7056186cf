import FillFeed.Fill.Event
import FillFeed.Fill.Queue
import FillFeed.Main
import FillFeed.Rehearsal.KeyRequest
import FillFeed.Rehearsal.Performance
import FillFeed.Proofs.Task.Calls
import FillFeed.Proofs.Task.Shutdown
import FillFeed.Proofs.Task.Transports
import FillFeed.Proofs.Connect.Budget
import FillFeed.Proofs.Task.Ending
import FillFeed.Proofs.Connect.Handshake
import FillFeed.Proofs.Task.Sessions
import FillFeed.Proofs.Task.Contexts
import FillFeed.Proofs.Cipher.Exactness
import FillFeed.Proofs.Frame.Envelope
import FillFeed.Proofs.Fill.Notional
import FillFeed.Proofs.Task.Starting
import FillFeed.Proofs.Connect.Issuance
import FillFeed.Proofs.Task.States
import FillFeed.Proofs.Task.Pacing
import FillFeed.Proofs.Task.Agreement
import FillFeed.Proofs.Task.Ownership
import FillFeed.Proofs.Task.Counters
import FillFeed.Proofs.Handshake.Material
import FillFeed.Proofs.Fill.Wire
import FillFeed.Proofs.Handshake.Wire
import FillFeed.Proofs.Frame.Isolation
import FillFeed.Proofs.Frame.Keepalive
import FillFeed.Proofs.Frame.Payload
import FillFeed.Proofs.Handshake.Verdict
import FillFeed.Proofs.Approval.History
import FillFeed.Proofs.Listen.Silence
import FillFeed.Proofs.Frame.FillTime
import FillFeed.Proofs.Connect.ListedCodes
import FillFeed.Proofs.Retry.History
