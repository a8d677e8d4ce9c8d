import KaroX2.Terminal
import KaroX2.Handles
import KaroX2.Dispatch
import KaroX2.Spinning
import KaroX2.Classification
import KaroX2.Velocity
import KaroX2.Blame
import KaroX2.Pipeline
import KaroX2.Reporting
import KaroX2.Liveness
import KaroX2.Retrying
import KaroX2.Receiving
import KaroX2.Waking
import KaroX2.Balance
import KaroX2.HangUp
import KaroX2.SingleFlight
import KaroX2.Limit
import KaroX2.Requests
import KaroX2.Serial
import KaroX2.Causes
import KaroX2.Replies
import KaroX2.Latency
