import Kaleido.Proto.Reply
import Kaleido.State.Quota
import Kaleido.State.Reorder
import Kaleido.State.Truncation
import Kaleido.Transport.Limits
import Kaleido.Relay.Budget
import Kaleido.Relay.Silence
import Kaleido.Hostd.Boundary
import Kaleido.Hostd.Handles
import Kaleido.Hostd.Pump
import Kaleido.Hostd.Reachability
import Kaleido.Hostd.Readback
import Kaleido.Hostd.Revocation
import Kaleido.Hostd.Scopes
import Kaleido.Hostd.Subscriptions
import Kaleido.Hostd.Wake
import Kaleido.Core.LateReply
import Kaleido.Core.Product
import Kaleido.Core.Retry
import Kaleido.Core.Route
