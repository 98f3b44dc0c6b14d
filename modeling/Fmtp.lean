import Fmtp.Codec
import Fmtp.History
import Fmtp.Identification
import Fmtp.Iteration
import Fmtp.Delivery
import Fmtp.Dialling
import Fmtp.Commands
import Fmtp.Peers
import Fmtp.Pair
import Fmtp.Agreement
import Fmtp.Stream
import Fmtp.Hearing
import Fmtp.Daemon
import Fmtp.Registry
import Fmtp.Record
import Fmtp.Matching
import Fmtp.Recognition
import Fmtp.Acceptance
import Fmtp.Received
import Fmtp.Residue
import Fmtp.Transmission
import Fmtp.Relay
import Fmtp.Pipeline
import Fmtp.Framing
import Fmtp.Closing
import Fmtp.Timers
import Fmtp.Pending
import Fmtp.Writing
import Fmtp.Deadlines
import Fmtp.Queues
import Fmtp.Validation
import Fmtp.EndToEnd
import Fmtp.KeepAlive
import Fmtp.Tracking
import Fmtp.Standstill
import Fmtp.Transfer
import Fmtp.Accord
