import FoxgloveBridge.Lib.Lists
import FoxgloveBridge.Lib.TSys
import FoxgloveBridge.Lib.Histories
import FoxgloveBridge.Lib.StdMap
import FoxgloveBridge.Lib.UnorderedMap
import FoxgloveBridge.Lib.Keyed
import FoxgloveBridge.Lib.CallStacks
import FoxgloveBridge.Lib.Refcount
import FoxgloveBridge.Lib.LexicalPath
import FoxgloveBridge.Lib.Flags
import FoxgloveBridge.Lib.Teardown
import FoxgloveBridge.Utils
import FoxgloveBridge.Ros.XmlRpc
import FoxgloveBridge.Ros.Double
import FoxgloveBridge.Ros.Names
import FoxgloveBridge.Ros.ParamServer
import FoxgloveBridge.Param.Conversion
import FoxgloveBridge.Param.RoundTrip
import FoxgloveBridge.Param.WriteBack
import FoxgloveBridge.Param.FloatHints
import FoxgloveBridge.Param.Access
import FoxgloveBridge.Param.Subscription
import FoxgloveBridge.Param.Interest
import FoxgloveBridge.Param.Refcount
import FoxgloveBridge.Param.OpQueue
import FoxgloveBridge.Param.Store
import FoxgloveBridge.Param.Snapshot
import FoxgloveBridge.Bridge.Tables
import FoxgloveBridge.Bridge.Reconcile
import FoxgloveBridge.Bridge.MasterReplies
import FoxgloveBridge.Bridge.Topics
import FoxgloveBridge.Bridge.Registry
import FoxgloveBridge.Bridge.Lifetime
import FoxgloveBridge.Bridge.Retype
import FoxgloveBridge.Bridge.Forwarding
import FoxgloveBridge.Bridge.RemoteAccess
import FoxgloveBridge.Bridge.Latched
import FoxgloveBridge.Bridge.Staleness
import FoxgloveBridge.Bridge.Delivery
import FoxgloveBridge.Bridge.EndToEnd
import FoxgloveBridge.Bridge.ClientPublish
import FoxgloveBridge.Bridge.Locks
import FoxgloveBridge.Bridge.Sections
import FoxgloveBridge.Bridge.GraphCounter
import FoxgloveBridge.Bridge.Poll
import FoxgloveBridge.Bridge.Backoff
import FoxgloveBridge.Bridge.Assets
import FoxgloveBridge.Transport.Gateway
import FoxgloveBridge.Transport.Startup
import FoxgloveBridge.Transport.Capabilities
import FoxgloveBridge.Transport.Teardown
import FoxgloveBridge.Service.Calls
import FoxgloveBridge.Service.ExactlyOnce
import FoxgloveBridge.Service.Shutdown
import FoxgloveBridge.Service.Table
import FoxgloveBridge.Bridge.Mirror
import FoxgloveBridge.Service.Probe
