import TendermintRpc.Foundation.HashMap
import TendermintRpc.Client.Sync
import TendermintRpc.Client.Subscription
import TendermintRpc.Client.Router
import TendermintRpc.Client.RouterSpec
import TendermintRpc.Client.RouterCalls
import TendermintRpc.Driver.Step
import TendermintRpc.Driver.History
import TendermintRpc.Driver.Delivery
import TendermintRpc.Driver.Replies
import TendermintRpc.Driver.Lifecycle
import TendermintRpc.Driver.Uniqueness
import TendermintRpc.Driver.TwoPhase
import TendermintRpc.Driver.Agreement
import TendermintRpc.Driver.ChannelSafety
import TendermintRpc.Driver.Interleaving
