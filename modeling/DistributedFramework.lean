import DistributedFramework.Go
import DistributedFramework.Go.Map
import DistributedFramework.Ringbuffer.Basic
import DistributedFramework.Ringbuffer.Refinement
import DistributedFramework.Actor.Inbox
import DistributedFramework.Actor.Process
import DistributedFramework.Actor.Supervision
import DistributedFramework.Actor.Invariant
import DistributedFramework.Actor.Restarts
import DistributedFramework.Actor.Middleware
import DistributedFramework.Actor.StartOrder
import DistributedFramework.Actor.Engine
import DistributedFramework.Remote.Wire
import DistributedFramework.Remote.RoundTrip
import DistributedFramework.Cluster.Agent
import DistributedFramework.Cluster.Membership
import DistributedFramework.Cluster.Activation
import DistributedFramework.Cluster.Network
import DistributedFramework.Cluster.Provider
import DistributedFramework.Cluster.Kinds
import DistributedFramework.Cluster.Sync
import DistributedFramework.Actor.Registry
import DistributedFramework.Actor.Drain
import DistributedFramework.Actor.PIDSet
import DistributedFramework.Remote.Router
import DistributedFramework.Remote.Delivery
import DistributedFramework.Remote.Lifecycle
import DistributedFramework.Trading.Strategy
import DistributedFramework.Trading.Risk
import DistributedFramework.Trading.Orders
import DistributedFramework.Trading.Settle
import DistributedFramework.Trading.Feed
import DistributedFramework.Trading.Subscribers
