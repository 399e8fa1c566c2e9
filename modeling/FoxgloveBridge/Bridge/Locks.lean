import FoxgloveBridge.Bridge.Tables
import FoxgloveBridge.Lib.CallStacks
import FoxgloveBridge.Lib.TSys

/-!
# Who waits for whom

The threads of the bridge take its mutexes, call into the SDK, which has locks of its own,
and destroy channels and ROS subscriptions, which waits too: closing a channel takes the
gateway's subscription lock, and destroying a `ros::Subscriber` waits until its callbacks
that are in flight have returned. Here each function is cut at the points where it can wait
or where a destructor runs, and a thread is its call stack. Handles are destroyed where C++
destroys them; one that was moved from is empty, and its destructor does nothing.

The resources are ranked in the order in which they are taken: the gateway's subscription
lock, callbacks in flight, the bridge's tables, and the locks that are taken under them. A
thread waits only for what ranks above all it holds (`advance_keepsOrder`), so that no threads
wait for each other in a circle (`no_deadlock`). No two threads hold the same mutex
(`mutual_exclusion`).
-/

namespace FoxgloveBridge

/-- What a thread can hold and another wait for. -/
inductive Resource
  /-- The subscription lock of the gateway. -/
  | gatewaySubscriptions
  /-- A callback of this subscription is in flight. -/
  | callback (serial : Nat)
  | subscriptionsMutex
  | clientAdvertisementsMutex
  | descriptionProviderMutex
  /-- The lock of the SDK's channel registry. -/
  | channelRegistry
  /-- A QoS classifier is running. -/
  | qosClassifier
  | latchedChannelsMutex
  | pollMutex
  deriving DecidableEq

/-- The lock order. -/
def Resource.rank : Resource → Nat
  | .gatewaySubscriptions => 0
  | .callback _ => 1
  | .subscriptionsMutex | .clientAdvertisementsMutex => 2
  | .descriptionProviderMutex => 3
  | .channelRegistry => 4
  | .qosClassifier => 5
  | .latchedChannelsMutex | .pollMutex => 6

/-- What is left of a handle that was moved from. -/
def movedFrom {α : Type} : Option α := none

/-! ## Frames -/

/-- A subscription callback of the gateway. -/
inductive SubscriptionCall
  | onSubscribe (channelId : ChannelId) (clientId : ClientId) (sinkId : Option SinkId)
  | onUnsubscribe (channelId : ChannelId) (clientId : ClientId)

inductive OnSubscribePc
  | locking
  | finding
  /-- The cached messages that are still to be replayed. -/
  | replaying (remaining : Nat)
  | inserting
  | unlocking

inductive OnUnsubscribePc
  | locking
  | finding
  | latchLocking (releasedSubscription : Subscriber)
  | latchErasing (releasedSubscription : Subscriber)
  | unlocking (releasedSubscription : Option Subscriber)

inductive RosMessageHandlerPc
  | locking
  | finding
  | latchLocking
  | latchInserting
  | logging
  | unlocking

inductive UpdateAdvertisedTopicsPc
  | lockingForRemoval
  /-- The removal loop, with the channels it has still to visit. -/
  | removing (rest channelsToClose : List ChannelId) (subscriptionsToRelease : List Subscriber)
  | latchLocking (channelId : ChannelId) (rest channelsToClose : List ChannelId)
      (subscriptionsToRelease : List Subscriber)
  | latchErasing (channelId : ChannelId) (rest channelsToClose : List ChannelId)
      (subscriptionsToRelease : List Subscriber)
  | erasing (channelId : ChannelId) (rest channelsToClose : List ChannelId)
      (subscriptionsToRelease : List Subscriber)
  | closing (channelsToClose : List ChannelId) (subscriptionsToRelease : List Subscriber)
  | releasing (subscriptionsToRelease : List Subscriber)
  | lockingForAdvertising
  /-- The advertise loop, with the topics it has still to visit. -/
  | advertising (rest : List TopicAndDatatype)
  | creating (topic : TopicAndDatatype) (rest : List TopicAndDatatype)
  | inserting (topic : TopicAndDatatype) (rest : List TopicAndDatatype)
      (definition : Option (List UInt8))
  /-- `channelResult` goes out of scope. -/
  | droppingResult (rest : List TopicAndDatatype)
  | unlocking

inductive OnClientAdvertisePc
  | checking
  | locking
  | finding
  | advertising
  | unlocking

inductive ClassifyRemoteAccessQosPc
  | matching
  | locking
  | finding

/-- `log` in the SDK. -/
inductive ChannelLogPc
  | locking
  | holding
  | awaitingClassifier

/-- `close`, or the destructor, of a channel in the SDK. -/
inductive CloseChannelPc
  | locking
  /-- The clients of the gateway are told. -/
  | holding
  /-- The clients of the server are told. -/
  | notifying

/-- A function that is being executed, and where it is. -/
inductive Frame
  /-- A function that does no more than hold this lock for a while. -/
  | guarded (lock : Resource) (entered : Bool)
  /-- The gateway runs a callback under its subscription lock. -/
  | gatewaySession (call : SubscriptionCall) (entered : Bool)
  | onSubscribe (channelId : ChannelId) (clientId : ClientId) (isGateway : Bool)
      (sinkId : Option SinkId) (pc : OnSubscribePc)
  | onUnsubscribe (channelId : ChannelId) (clientId : ClientId) (isGateway : Bool)
      (pc : OnUnsubscribePc)
  /-- roscpp runs a callback of this subscription. -/
  | inFlight (serial : Nat)
  | rosMessageHandler (channelId : ChannelId) (event : MessageEvent) (timestamp : Nat)
      (pc : RosMessageHandlerPc)
  | updateAdvertisedTopics (latestTopics : List TopicAndDatatype) (pc : UpdateAdvertisedTopicsPc)
  | onClientAdvertise (pc : OnClientAdvertisePc)
  | classifyRemoteAccessQos (channelId : ChannelId) (pc : ClassifyRemoteAccessQosPc)
  | channelLog (pc : ChannelLogPc)
  | closeChannel (handle : Option ChannelId) (pc : CloseChannelPc)
  /-- The destructor of a `ros::Subscriber`. -/
  | dropSubscriber (handle : Option Subscriber)

/-- `getMessageDescription`. -/
def getMessageDescription : Frame := .guarded .descriptionProviderMutex false

/-- `RawChannel::create`, in the SDK. -/
def rawChannelCreate : Frame := .guarded .channelRegistry false

/-- `pokePoll`. -/
def pokePollCall : Frame := .guarded .pollMutex false

/-- `onClientUnadvertise`, in which nothing waits once it has the mutex. -/
def onClientUnadvertiseCall : Frame := .guarded .clientAdvertisementsMutex false

/-- `onClientMessage`, which publishes after it has released the mutex. -/
def onClientMessageCall : Frame := .guarded .clientAdvertisementsMutex false

namespace Frame

/-- What the frame holds, other than through its callees. -/
def held : Frame → List Resource
  | .guarded lock entered => if entered then [lock] else []
  | .gatewaySession _ entered => if entered then [.gatewaySubscriptions] else []
  | .onSubscribe _ _ _ _ pc =>
      match pc with
      | .locking => []
      | _ => [.subscriptionsMutex]
  | .onUnsubscribe _ _ _ pc =>
      match pc with
      | .locking => []
      | .latchErasing _ => [.subscriptionsMutex, .latchedChannelsMutex]
      | _ => [.subscriptionsMutex]
  | .inFlight serial => [.callback serial]
  | .rosMessageHandler _ _ _ pc =>
      match pc with
      | .locking => []
      | .latchInserting => [.subscriptionsMutex, .latchedChannelsMutex]
      | _ => [.subscriptionsMutex]
  | .updateAdvertisedTopics _ pc =>
      match pc with
      | .lockingForRemoval | .closing .. | .releasing _ | .lockingForAdvertising => []
      | .latchErasing .. => [.subscriptionsMutex, .latchedChannelsMutex]
      | _ => [.subscriptionsMutex]
  | .onClientAdvertise pc =>
      match pc with
      | .checking | .locking => []
      | _ => [.clientAdvertisementsMutex]
  | .classifyRemoteAccessQos _ pc =>
      match pc with
      | .finding => [.qosClassifier, .latchedChannelsMutex]
      | _ => [.qosClassifier]
  | .channelLog pc =>
      match pc with
      | .locking => []
      | _ => [.channelRegistry]
  | .closeChannel handle pc =>
      match handle, pc with
      | some _, .holding => [.gatewaySubscriptions]
      | _, _ => []
  | .dropSubscriber _ => []

/-- What the frame has to wait for before it goes on. -/
def waits : Frame → Option Resource
  | .guarded lock entered => if entered then none else some lock
  | .gatewaySession _ entered => if entered then none else some .gatewaySubscriptions
  | .onSubscribe _ _ _ _ pc =>
      match pc with
      | .locking => some .subscriptionsMutex
      | _ => none
  | .onUnsubscribe _ _ _ pc =>
      match pc with
      | .locking => some .subscriptionsMutex
      | .latchLocking _ => some .latchedChannelsMutex
      | _ => none
  | .inFlight _ => none
  | .rosMessageHandler _ _ _ pc =>
      match pc with
      | .locking => some .subscriptionsMutex
      | .latchLocking => some .latchedChannelsMutex
      | _ => none
  | .updateAdvertisedTopics _ pc =>
      match pc with
      | .lockingForRemoval | .lockingForAdvertising => some .subscriptionsMutex
      | .latchLocking .. => some .latchedChannelsMutex
      | _ => none
  | .onClientAdvertise pc =>
      match pc with
      | .locking => some .clientAdvertisementsMutex
      | _ => none
  | .classifyRemoteAccessQos _ pc =>
      match pc with
      | .locking => some .latchedChannelsMutex
      | _ => none
  | .channelLog pc =>
      match pc with
      | .locking => some .channelRegistry
      | .awaitingClassifier => some .qosClassifier
      | .holding => none
  | .closeChannel handle pc =>
      match handle, pc with
      | some _, .locking => some .gatewaySubscriptions
      | _, _ => none
  | .dropSubscriber handle => handle.map fun subscriber => .callback subscriber.serial

/-- The lowest rank the frame or what it calls may wait for. The destructor of an empty handle
waits for nothing. -/
def floor : Frame → Nat
  | .guarded lock _ => lock.rank
  | .gatewaySession _ _ => 0
  | .onSubscribe .. => 2
  | .onUnsubscribe .. => 1
  | .inFlight _ => 2
  | .rosMessageHandler .. => 2
  | .updateAdvertisedTopics .. => 0
  | .onClientAdvertise _ => 2
  | .classifyRemoteAccessQos .. => 6
  | .channelLog _ => 4
  | .closeChannel (some _) _ => 0
  | .dropSubscriber (some _) => 1
  | .closeChannel none _ | .dropSubscriber none => 7

theorem waits_above (frame : Frame) : ∀ r ∈ frame.waits,
    frame.floor ≤ r.rank ∧ ∀ h ∈ frame.held, h.rank < r.rank := by
  intro r hr
  cases frame with
  | guarded lock entered =>
      cases entered
      · obtain rfl := Option.some.inj hr
        exact ⟨Nat.le_refl _, nofun⟩
      · cases hr
  | gatewaySession call entered =>
      cases entered <;> cases hr
      exact of_decide_eq_true rfl
  | onSubscribe channelId clientId isGateway sinkId pc =>
      cases pc <;> cases hr
      exact of_decide_eq_true rfl
  | onUnsubscribe channelId clientId isGateway pc =>
      cases pc <;> cases hr <;> exact of_decide_eq_true rfl
  | inFlight serial => cases hr
  | rosMessageHandler channelId event timestamp pc =>
      cases pc <;> cases hr <;> exact of_decide_eq_true rfl
  | updateAdvertisedTopics latestTopics pc => cases pc <;> cases hr <;> exact of_decide_eq_true rfl
  | onClientAdvertise pc =>
      cases pc <;> cases hr
      exact of_decide_eq_true rfl
  | classifyRemoteAccessQos channelId pc =>
      cases pc <;> cases hr
      exact of_decide_eq_true rfl
  | channelLog pc => cases pc <;> cases hr <;> exact of_decide_eq_true rfl
  | closeChannel handle pc =>
      cases handle <;> cases pc <;> cases hr
      exact of_decide_eq_true rfl
  | dropSubscriber handle =>
      cases handle <;> cases hr
      exact of_decide_eq_true rfl

end Frame

/-- The frames of the bridge with the lock order. -/
def bridgeFrames : RankedFrames Frame Resource where
  rank := Resource.rank
  held := Frame.held
  waits := Frame.waits
  floor := Frame.floor
  waits_above := Frame.waits_above

/-! ## Steps -/

structure LockState where
  tables : Tables
  /-- The channels the SDK has created. -/
  created : List ChannelId
  /-- The number of ROS subscriptions that were made. -/
  serials : Nat
  /-- The call stack of each thread, its top frame first. -/
  threads : List (List Frame)

/-- What the outside answers at a step; each step looks at what concerns it. -/
structure Answer where
  /-- The call ends early: it is rejected, or its topic is known to be reliable. -/
  leaves : Bool := false
  /-- A classifier is running that `log` waits for. -/
  awaits : Bool := false
  /-- The client that is told of a channel that is closed. -/
  notifies : Option ClientId := none
  definition : Option (List UInt8) := none
  /-- The channel that `RawChannel::create` made. -/
  created : Option ChannelId := none

/-- `_subscriptions.emplace` under a new subscription, with what it does not take. -/
def Tables.emplaceSubscription (T : Tables) (channelId : ChannelId) (sub : ChannelSubscription) :
    Tables × Option Subscriber :=
  ({ T with subscriptions := UnorderedMap.emplace channelId sub T.subscriptions },
    if channelId ∈ T.subscriptions then some sub.rosSubscription else movedFrom)

/-- `_channels.insert`, with what it does not take. -/
def Tables.takeChannel (T : Tables) (channelId : ChannelId) (channel : RawChannel) :
    Tables × Option ChannelId :=
  (T.insertChannel channelId channel, if channelId ∈ T.channels then some channelId else movedFrom)

namespace LockState

variable (σ : LockState)

def withTables (tables : Tables) : LockState := { σ with tables := tables }

def withSubscriptions (subscriptions : UnorderedMap ChannelId ChannelSubscription) : LockState :=
  σ.withTables { σ.tables with subscriptions := subscriptions }

def withLatchedChannels (latchedChannels : Finset ChannelId) : LockState :=
  σ.withTables { σ.tables with latchedChannels := latchedChannels }

/-- Each function yields the frames that take the place of its own: none if it returns, the
callee and itself if it calls. -/
def onSubscribe (channelId : ChannelId) (clientId : ClientId) (isGateway : Bool)
    (sinkId : Option SinkId) (pc : OnSubscribePc) : LockState × List Frame :=
  let goto := Frame.onSubscribe channelId clientId isGateway sinkId
  match pc with
  | .locking => (σ, [goto .finding])
  | .finding =>
      match σ.tables.channels.lookup channelId with
      | none => (σ, [goto .unlocking])
      | some channel =>
          match σ.tables.subscriptions.lookup channelId with
          | none =>
              let channelSub := ChannelSubscription.empty ⟨σ.serials, channelId, channel.topic⟩
              let (tables, left) := σ.tables.emplaceSubscription channelId channelSub
              ({ σ with tables := tables, serials := σ.serials + 1 },
                [.dropSubscriber left, goto .inserting])
          | some sub =>
              (σ, [goto (.replaying (if sinkId.isSome then sub.latchedMessages.length else 0))])
  | .replaying 0 => (σ, [goto .inserting])
  | .replaying (remaining + 1) => (σ, [.channelLog .locking, goto (.replaying remaining)])
  | .inserting =>
      match σ.tables.subscriptions.lookup channelId with
      | none => (σ, [goto .unlocking])
      | some sub =>
          (σ.withSubscriptions
            (σ.tables.subscriptions.insert channelId (sub.insertClient clientId isGateway)),
            [goto .unlocking])
  | .unlocking => (σ, [])

def onUnsubscribe (channelId : ChannelId) (clientId : ClientId) (isGateway : Bool)
    (pc : OnUnsubscribePc) : LockState × List Frame :=
  let goto := Frame.onUnsubscribe channelId clientId isGateway
  match pc with
  | .locking => (σ, [goto .finding])
  | .finding =>
      match σ.tables.subscriptions.lookup channelId with
      | none => (σ, [goto (.unlocking none)])
      | some sub =>
          let sub := sub.eraseClient clientId isGateway
          if sub.wsClientIds = ∅ ∧ sub.gatewayClientIds = ∅ then
            -- the element is moved from, then erased
            (σ.withSubscriptions (σ.tables.subscriptions.erase channelId),
              [.dropSubscriber movedFrom, goto (.latchLocking sub.rosSubscription)])
          else
            (σ.withSubscriptions (σ.tables.subscriptions.insert channelId sub),
              [goto (.unlocking none)])
  | .latchLocking released => (σ, [goto (.latchErasing released)])
  | .latchErasing released =>
      (σ.withLatchedChannels (σ.tables.latchedChannels.erase channelId),
        [goto (.unlocking (some released))])
  -- `releasedSubscription` was declared before the lock
  | .unlocking released => (σ, [.dropSubscriber released])

def rosMessageHandler (channelId : ChannelId) (event : MessageEvent) (timestamp : Nat)
    (pc : RosMessageHandlerPc) : LockState × List Frame :=
  let goto := Frame.rosMessageHandler channelId event timestamp
  match pc with
  | .locking => (σ, [goto .finding])
  | .finding =>
      match σ.tables.channels.lookup channelId with
      | none => (σ, [goto .unlocking])
      | some _ =>
          if event.latching then
            match σ.tables.subscriptions.lookup channelId with
            | none => (σ, [goto .logging])
            | some sub =>
                (σ.withSubscriptions
                  (σ.tables.subscriptions.insert channelId (sub.cache event timestamp)),
                  [goto .latchLocking])
          else (σ, [goto .logging])
  | .latchLocking => (σ, [goto .latchInserting])
  | .latchInserting =>
      (σ.withLatchedChannels (insert channelId σ.tables.latchedChannels), [goto .logging])
  | .logging => (σ, [.channelLog .locking, goto .unlocking])
  | .unlocking => (σ, [])

def updateAdvertisedTopics (latestTopics : List TopicAndDatatype) (pc : UpdateAdvertisedTopicsPc)
    (answer : Answer) : LockState × List Frame :=
  let goto := Frame.updateAdvertisedTopics latestTopics
  match pc with
  | .lockingForRemoval => (σ, [goto (.removing σ.tables.channels.keys [] [])])
  | .removing [] channels subs => (σ, [goto (.closing channels subs)])
  | .removing (channelId :: rest) channels subs =>
      if σ.tables.removes latestTopics channelId then
        match σ.tables.subscriptions.lookup channelId with
        | none => (σ, [goto (.latchLocking channelId rest channels subs)])
        | some sub =>
            (σ.withSubscriptions (σ.tables.subscriptions.erase channelId),
              [.dropSubscriber movedFrom,
                goto (.latchLocking channelId rest channels (subs ++ [sub.rosSubscription]))])
      else (σ, [goto (.removing rest channels subs)])
  | .latchLocking channelId rest channels subs =>
      (σ, [goto (.latchErasing channelId rest channels subs)])
  | .latchErasing channelId rest channels subs =>
      (σ.withLatchedChannels (σ.tables.latchedChannels.erase channelId),
        [goto (.erasing channelId rest channels subs)])
  | .erasing channelId rest channels subs =>
      (σ.withTables { σ.tables with channels := σ.tables.channels.erase channelId },
        [.closeChannel movedFrom .locking, goto (.removing rest (channels ++ [channelId]) subs)])
  | .closing (channelId :: channels) subs =>
      (σ, [.closeChannel (some channelId) .locking, goto (.closing channels subs)])
  | .closing [] subs => (σ, [goto (.releasing subs)])
  | .releasing (subscriber :: subs) =>
      (σ, [.dropSubscriber (some subscriber), goto (.releasing subs)])
  | .releasing [] => (σ, [goto .lockingForAdvertising])
  | .lockingForAdvertising => (σ, [goto (.advertising latestTopics)])
  | .advertising (topic :: rest) =>
      if σ.tables.advertises topic then (σ, [goto (.advertising rest)])
      else (σ, [getMessageDescription, goto (.creating topic rest)])
  | .advertising [] => (σ, [goto .unlocking])
  | .creating topic rest =>
      (σ, [rawChannelCreate, goto (.inserting topic rest answer.definition)])
  | .inserting topic rest definition =>
      match answer.created with
      | none => (σ, [goto (.advertising rest)])
      | some channelId =>
          let answers : Answers := ⟨fun _ => definition, fun _ => answer.created⟩
          let (tables, left) := σ.tables.takeChannel channelId (answers.channel topic)
          ({ σ with tables := tables, created := σ.created ++ [channelId] },
            [.closeChannel left .locking, goto (.droppingResult rest)])
  | .droppingResult rest => (σ, [.closeChannel movedFrom .locking, goto (.advertising rest)])
  -- what is left in `channelsToClose` is closed already
  | .unlocking => (σ, [])

/-- `onClientAdvertise`; `leaves` is the exception it throws at one point or another. -/
def onClientAdvertise (pc : OnClientAdvertisePc) (answer : Answer) : LockState × List Frame :=
  let goto := Frame.onClientAdvertise
  match pc with
  | .checking => (σ, if answer.leaves then [] else [goto .locking])
  | .locking => (σ, [goto .finding])
  | .finding =>
      (σ, if answer.leaves then [goto .unlocking]
        else [getMessageDescription, goto .advertising])
  | .advertising =>
      (σ, if answer.leaves then [goto .unlocking] else [pokePollCall, goto .unlocking])
  | .unlocking => (σ, [])

def classifyRemoteAccessQos (channelId : ChannelId) (pc : ClassifyRemoteAccessQosPc)
    (answer : Answer) : LockState × List Frame :=
  let goto := Frame.classifyRemoteAccessQos channelId
  match pc with
  | .matching => (σ, if answer.leaves then [] else [goto .locking])
  | .locking => (σ, [goto .finding])
  | .finding => (σ, [])

/-- The SDK's `log`, which may wait for a classifier under the registry lock. -/
def channelLog (pc : ChannelLogPc) (answer : Answer) : LockState × List Frame :=
  match pc with
  | .locking => (σ, [.channelLog .holding])
  | .holding => (σ, if answer.awaits then [.channelLog .awaitingClassifier] else [])
  | .awaitingClassifier => (σ, [])

/-- The SDK closes a channel, and tells its clients from this thread. -/
def closeChannel (channelId : ChannelId) (pc : CloseChannelPc) (answer : Answer) :
    LockState × List Frame :=
  let goto := Frame.closeChannel (some channelId)
  match pc, answer.notifies with
  | .locking, _ => (σ, [goto .holding])
  | .holding, some clientId =>
      (σ, [.onUnsubscribe channelId clientId true .locking, goto .holding])
  | .holding, none => (σ, [goto .notifying])
  | .notifying, some clientId =>
      (σ, [.onUnsubscribe channelId clientId false .locking, goto .notifying])
  | .notifying, none => (σ, [])

/-- A frame that has what it waited for goes on. -/
def advance (frame : Frame) (answer : Answer) : LockState × List Frame :=
  match frame with
  | .guarded lock entered => (σ, if entered then [] else [.guarded lock true])
  | .gatewaySession call entered =>
      (σ, if entered then [] else
        match call with
        | .onSubscribe channelId clientId sinkId =>
            [.onSubscribe channelId clientId true sinkId .locking, .gatewaySession call true]
        | .onUnsubscribe channelId clientId =>
            [.onUnsubscribe channelId clientId true .locking, .gatewaySession call true])
  | .onSubscribe channelId clientId isGateway sinkId pc =>
      σ.onSubscribe channelId clientId isGateway sinkId pc
  | .onUnsubscribe channelId clientId isGateway pc =>
      σ.onUnsubscribe channelId clientId isGateway pc
  | .inFlight _ => (σ, [])
  | .rosMessageHandler channelId event timestamp pc =>
      σ.rosMessageHandler channelId event timestamp pc
  | .updateAdvertisedTopics latestTopics pc => σ.updateAdvertisedTopics latestTopics pc answer
  | .onClientAdvertise pc => σ.onClientAdvertise pc answer
  | .classifyRemoteAccessQos channelId pc => σ.classifyRemoteAccessQos channelId pc answer
  | .channelLog pc => σ.channelLog pc answer
  | .closeChannel (some channelId) pc => σ.closeChannel channelId pc answer
  | .closeChannel none _ | .dropSubscriber _ => (σ, [])

/-- No thread holds it. -/
def free (r : Resource) : Bool :=
  σ.threads.all fun stack => stack.all fun frame => decide (r ∉ frame.held)

end LockState

/-- The functions that threads are started in. -/
inductive ThreadEntry
  | gatewaySession (call : SubscriptionCall)
  | onSubscribe (channelId : ChannelId) (clientId : ClientId) (sinkId : Option SinkId)
  | onUnsubscribe (channelId : ChannelId) (clientId : ClientId)
  /-- roscpp delivers a message to this subscription. -/
  | rosMessageHandler (serial : Nat) (channelId : ChannelId) (event : MessageEvent)
      (timestamp : Nat)
  | updateAdvertisedTopics (latestTopics : List TopicAndDatatype)
  | onClientAdvertise
  | onClientUnadvertise
  | onClientMessage
  | classifyRemoteAccessQos (channelId : ChannelId)
  | pokePoll

def ThreadEntry.stack : ThreadEntry → List Frame
  | .gatewaySession call => [.gatewaySession call false]
  | .onSubscribe channelId clientId sinkId =>
      [.onSubscribe channelId clientId false sinkId .locking]
  | .onUnsubscribe channelId clientId => [.onUnsubscribe channelId clientId false .locking]
  | .rosMessageHandler serial channelId event timestamp =>
      [.rosMessageHandler channelId event timestamp .locking, .inFlight serial]
  | .updateAdvertisedTopics latestTopics =>
      [.updateAdvertisedTopics latestTopics .lockingForRemoval]
  | .onClientAdvertise => [.onClientAdvertise .checking]
  | .onClientUnadvertise => [onClientUnadvertiseCall]
  | .onClientMessage => [onClientMessageCall]
  | .classifyRemoteAccessQos channelId => [.classifyRemoteAccessQos channelId .matching]
  | .pokePoll => [pokePollCall]

/-- A thread begins, or one that need not wait goes on. -/
inductive LockAction
  | spawn (entry : ThreadEntry)
  | run (thread : Nat) (answer : Answer)

def LockState.initial : LockState where
  tables := .empty
  created := []
  serials := 0
  threads := []

def LockState.step (σ : LockState) : LockAction → Option LockState
  | .spawn entry => some { σ with threads := σ.threads ++ [entry.stack] }
  | .run thread answer =>
      match σ.threads[thread]? with
      | some (frame :: callers) =>
          if frame.waits.all σ.free then
            let (next, frames) := σ.advance frame answer
            some { next with threads := next.threads.set thread (frames ++ callers) }
          else none
      | _ => none

def lockSystem : TSys LockState LockAction where
  init σ := σ = .initial
  step := LockState.step

/-- The SDK gives each channel an id of its own. -/
def LockAction.FreshIds (σ : LockState) : LockAction → Prop
  | .spawn _ => True
  | .run _ answer => ∀ channelId ∈ answer.created, channelId ∉ σ.created

instance (σ : LockState) : (a : LockAction) → Decidable (a.FreshIds σ)
  | .spawn _ => .isTrue trivial
  | .run _ answer => inferInstanceAs (Decidable (∀ channelId ∈ answer.created, _))

/-! ## The lock order is kept -/

/-- Every open channel was created by the SDK. -/
def LockState.Created (σ : LockState) : Prop :=
  ∀ channelId ∈ σ.tables.channels, channelId ∈ σ.created

/-- A frame goes on: frames that keep the order take its place and hold only what it held or
took, no thread but its own is touched, and the tables change only under their mutex. -/
structure LockState.Advances (σ : LockState) (frame : Frame) (next : LockState × List Frame) :
    Prop where
  replaces : bridgeFrames.Replaces frame next.2
  takes : bridgeFrames.Takes frame next.2
  threads : next.1.threads = σ.threads
  created : σ.Created → next.1.Created
  guarded : .subscriptionsMutex ∈ frame.held ∨
    next.1.tables = σ.tables ∧ next.1.serials = σ.serials

namespace LockState

variable {σ : LockState} {frame : Frame} {frames : List Frame}

theorem Advances.stay
    (h : decide (bridgeFrames.Replaces frame frames ∧ bridgeFrames.Takes frame frames) = true) :
    σ.Advances frame (σ, frames) := by
  obtain ⟨hreplaces, htakes⟩ := of_decide_eq_true h
  exact ⟨hreplaces, htakes, rfl, id, .inr ⟨rfl, rfl⟩⟩

/-- A step under the tables' mutex. -/
theorem Advances.locked {τ : LockState}
    (h : decide (bridgeFrames.Replaces frame frames ∧ bridgeFrames.Takes frame frames ∧
      .subscriptionsMutex ∈ frame.held) = true)
    (hthreads : τ.threads = σ.threads) (hcreated : σ.Created → τ.Created) :
    σ.Advances frame (τ, frames) := by
  obtain ⟨hreplaces, htakes, hmutex⟩ := of_decide_eq_true h
  exact ⟨hreplaces, htakes, hthreads, hcreated, .inl hmutex⟩

/-- The channels stay as they are. -/
theorem Advances.tables
    (h : decide (bridgeFrames.Replaces frame frames ∧ bridgeFrames.Takes frame frames ∧
      .subscriptionsMutex ∈ frame.held) = true)
    {T : Tables} (hchannels : T.channels = σ.tables.channels) :
    σ.Advances frame (σ.withTables T, frames) := by
  refine .locked h rfl fun hcreated channelId hmem => hcreated channelId ?_
  exact hchannels ▸ hmem

theorem onSubscribe_advances (channelId : ChannelId) (clientId : ClientId) (isGateway : Bool)
    (sinkId : Option SinkId) (pc : OnSubscribePc) :
    σ.Advances (.onSubscribe channelId clientId isGateway sinkId pc)
      (σ.onSubscribe channelId clientId isGateway sinkId pc) := by
  cases pc with
  | finding =>
      simp only [LockState.onSubscribe]
      split
      · exact .stay rfl
      · split
        · rename_i hnone
          -- nothing is there, so `emplace` takes the subscription
          have hnot : channelId ∉ σ.tables.subscriptions := AList.lookup_eq_none.mp hnone
          simp only [Tables.emplaceSubscription, if_neg hnot]
          exact .locked rfl rfl id
        · exact .stay rfl
  | replaying remaining => cases remaining <;> exact .stay rfl
  | inserting =>
      simp only [LockState.onSubscribe]
      split
      · exact .stay rfl
      · exact .tables rfl rfl
  | _ => exact .stay rfl

theorem onUnsubscribe_advances (channelId : ChannelId) (clientId : ClientId) (isGateway : Bool)
    (pc : OnUnsubscribePc) :
    σ.Advances (.onUnsubscribe channelId clientId isGateway pc)
      (σ.onUnsubscribe channelId clientId isGateway pc) := by
  cases pc with
  | finding =>
      simp only [LockState.onUnsubscribe]
      split
      · exact .stay rfl
      · split <;> exact .tables rfl rfl
  | latchErasing released => exact .tables rfl rfl
  | unlocking released => cases released <;> exact .stay rfl
  | _ => exact .stay rfl

theorem rosMessageHandler_advances (channelId : ChannelId) (event : MessageEvent)
    (timestamp : Nat) (pc : RosMessageHandlerPc) :
    σ.Advances (.rosMessageHandler channelId event timestamp pc)
      (σ.rosMessageHandler channelId event timestamp pc) := by
  cases pc with
  | finding =>
      simp only [LockState.rosMessageHandler]
      split
      · exact .stay rfl
      · split
        · split
          · exact .stay rfl
          · exact .tables rfl rfl
        · exact .stay rfl
  | latchInserting => exact .tables rfl rfl
  | _ => exact .stay rfl

/-- Where the SDK's new channel is put there is none. -/
theorem inserting_advances (latestTopics : List TopicAndDatatype) (topic : TopicAndDatatype)
    (rest : List TopicAndDatatype) (definition : Option (List UInt8)) {answer : Answer}
    (hcreated : σ.Created) (hfresh : ∀ channelId ∈ answer.created, channelId ∉ σ.created) :
    σ.Advances (.updateAdvertisedTopics latestTopics (.inserting topic rest definition))
      (σ.updateAdvertisedTopics latestTopics (.inserting topic rest definition) answer) := by
  simp only [LockState.updateAdvertisedTopics]
  cases hanswer : answer.created with
  | none =>
      exact .stay rfl
  | some channelId =>
      have hnot : channelId ∉ σ.tables.channels :=
        fun hmem => hfresh channelId hanswer (hcreated channelId hmem)
      simp only [Tables.takeChannel, if_neg hnot]
      refine .locked rfl rfl fun _ other hother => ?_
      rcases UnorderedMap.mem_emplace.mp hother with rfl | hold
      · exact List.mem_append_right _ (List.mem_singleton_self _)
      · exact List.mem_append_left _ (hcreated other hold)

theorem updateAdvertisedTopics_advances (latestTopics : List TopicAndDatatype)
    (pc : UpdateAdvertisedTopicsPc) {answer : Answer} (hcreated : σ.Created)
    (hfresh : ∀ channelId ∈ answer.created, channelId ∉ σ.created) :
    σ.Advances (.updateAdvertisedTopics latestTopics pc)
      (σ.updateAdvertisedTopics latestTopics pc answer) := by
  cases pc with
  | removing rest channels subs =>
      cases rest with
      | nil => exact .stay rfl
      | cons channelId rest =>
          simp only [LockState.updateAdvertisedTopics]
          split
          · split
            · exact .stay rfl
            · exact .tables rfl rfl
          · exact .stay rfl
  | latchErasing channelId rest channels subs => exact .tables rfl rfl
  | erasing channelId rest channels subs =>
      refine .locked rfl rfl fun _ other hother => hcreated other ?_
      exact (AList.mem_erase.mp hother).2
  | closing channels subs => cases channels <;> exact .stay rfl
  | releasing subs => cases subs <;> exact .stay rfl
  | advertising rest =>
      cases rest with
      | nil => exact .stay rfl
      | cons topic rest =>
          simp only [LockState.updateAdvertisedTopics]
          split <;> exact .stay rfl
  | inserting topic rest definition =>
      exact inserting_advances latestTopics topic rest definition hcreated hfresh
  | _ => exact .stay rfl

theorem onClientAdvertise_advances (pc : OnClientAdvertisePc) (answer : Answer) :
    σ.Advances (.onClientAdvertise pc) (σ.onClientAdvertise pc answer) := by
  cases pc <;> cases hleaves : answer.leaves <;>
    simp only [LockState.onClientAdvertise, hleaves] <;> exact .stay rfl

theorem classifyRemoteAccessQos_advances (channelId : ChannelId) (pc : ClassifyRemoteAccessQosPc)
    (answer : Answer) :
    σ.Advances (.classifyRemoteAccessQos channelId pc)
      (σ.classifyRemoteAccessQos channelId pc answer) := by
  cases pc <;> cases hleaves : answer.leaves <;>
    simp only [LockState.classifyRemoteAccessQos, hleaves] <;> exact .stay rfl

theorem channelLog_advances (pc : ChannelLogPc) (answer : Answer) :
    σ.Advances (.channelLog pc) (σ.channelLog pc answer) := by
  cases pc <;> cases hawaits : answer.awaits <;>
    simp only [LockState.channelLog, hawaits] <;> exact .stay rfl

theorem closeChannel_advances (channelId : ChannelId) (pc : CloseChannelPc) (answer : Answer) :
    σ.Advances (.closeChannel (some channelId) pc) (σ.closeChannel channelId pc answer) := by
  cases pc <;> cases hnotifies : answer.notifies <;>
    simp only [LockState.closeChannel, hnotifies] <;> exact .stay rfl

/-- **The lock order.** Whatever a frame goes on to do keeps it. -/
theorem advance_keepsOrder (frame : Frame) {answer : Answer} (hcreated : σ.Created)
    (hfresh : ∀ channelId ∈ answer.created, channelId ∉ σ.created) :
    σ.Advances frame (σ.advance frame answer) := by
  cases frame with
  | guarded lock entered =>
      cases entered with
      | true => exact .stay rfl
      | false =>
          refine ⟨⟨⟨nofun, trivial⟩, fun new hnew => ?_⟩,
            ⟨List.pairwise_singleton .., fun new hnew r hr => .inr ?_⟩, rfl, id, .inr ⟨rfl, rfl⟩⟩
          · obtain rfl := List.mem_singleton.mp hnew
            exact Nat.le_refl _
          · obtain rfl := List.mem_singleton.mp hnew
            exact congrArg some (List.mem_singleton.mp hr).symm
  | gatewaySession call entered => cases entered <;> cases call <;> exact .stay rfl
  | onSubscribe => exact onSubscribe_advances ..
  | onUnsubscribe => exact onUnsubscribe_advances ..
  | inFlight serial => exact .stay rfl
  | rosMessageHandler => exact rosMessageHandler_advances ..
  | updateAdvertisedTopics => exact updateAdvertisedTopics_advances _ _ hcreated hfresh
  | onClientAdvertise => exact onClientAdvertise_advances ..
  | classifyRemoteAccessQos => exact classifyRemoteAccessQos_advances ..
  | channelLog => exact channelLog_advances ..
  | closeChannel handle pc =>
      cases handle with
      | none => exact .stay rfl
      | some channelId => exact closeChannel_advances ..
  | dropSubscriber handle =>
      exact ⟨⟨trivial, nofun⟩, ⟨.nil, nofun⟩, rfl, id, .inr ⟨rfl, rfl⟩⟩

/-- What every state of a run has. -/
structure KeepsOrder (σ : LockState) : Prop where
  created : σ.Created
  ordered : ∀ stack ∈ σ.threads, bridgeFrames.Ordered stack

theorem KeepsOrder.step {σ' : LockState} {a : LockAction} (h : σ.KeepsOrder) (hok : a.FreshIds σ)
    (hs : σ.step a = some σ') : σ'.KeepsOrder := by
  cases a with
  | spawn entry =>
      obtain rfl := Option.some.inj hs
      refine ⟨h.created, fun stack hstack => ?_⟩
      rcases List.mem_append.mp hstack with hold | hnew
      · exact h.ordered stack hold
      · obtain rfl := List.mem_singleton.mp hnew
        cases entry <;> exact of_decide_eq_true rfl
  | run thread answer =>
      simp only [LockState.step] at hs
      split at hs
      case h_2 => cases hs
      rename_i frame callers hthread
      split at hs
      case isFalse => cases hs
      obtain rfl := Option.some.inj hs
      have hadvances := advance_keepsOrder frame h.created hok
      refine ⟨hadvances.created h.created, fun stack hstack => ?_⟩
      rcases List.mem_or_eq_of_mem_set hstack with hold | rfl
      · exact h.ordered stack (hadvances.threads ▸ hold)
      · have hstack := h.ordered _ (List.mem_of_getElem? hthread)
        exact hstack.replace hadvances.replaces

theorem KeepsOrder.of_run (h : lockSystem.Run LockAction.FreshIds σ) : σ.KeepsOrder := by
  refine TSys.Run.invariant h ⟨?_, fun _ _ _ horder hok hs => horder.step hok hs⟩
  rintro _ rfl
  exact ⟨fun channelId hmem => absurd hmem (AList.notMem_empty channelId), nofun⟩

/-- The call stack of a thread. -/
def stackOf (σ : LockState) (thread : Nat) : List Frame := σ.threads.getD thread []

theorem stackOf_eq {thread : Nat} {stack : List Frame} (h : σ.threads[thread]? = some stack) :
    σ.stackOf thread = stack := by
  rw [stackOf, List.getD_eq_getElem?_getD, h, Option.getD_some]

/-- One thread waits for a lock or a completion that another holds up. -/
def WaitsOn (σ : LockState) : Nat → Nat → Prop := bridgeFrames.WaitsOn σ.stackOf

end LockState

theorem LockState.KeepsOrder.stackOf {σ : LockState} (h : σ.KeepsOrder) (thread : Nat) :
    bridgeFrames.Ordered (σ.stackOf thread) := by
  unfold LockState.stackOf
  rw [List.getD_eq_getElem?_getD]
  cases hthread : σ.threads[thread]? with
  | none => exact RankedFrames.Ordered.nil
  | some stack => exact h.ordered stack (List.mem_of_getElem? hthread)

/-- **Deadlock freedom.** In every state that any number of threads can reach in the functions
of the bridge, whatever the SDK and the clients do, as long as the SDK gives each channel an
id of its own: no threads wait for each other in a circle. -/
theorem no_deadlock {σ : LockState} (h : lockSystem.Run LockAction.FreshIds σ) (thread : Nat) :
    ¬ Relation.TransGen σ.WaitsOn thread thread :=
  RankedFrames.no_cycle (LockState.KeepsOrder.of_run h).stackOf thread

/-- A thread goes on for a number of steps, and nothing is answered. -/
def LockAction.runs (thread steps : Nat) : List LockAction := List.replicate steps (.run thread {})

/-- A topic is advertised and a gateway client subscribes to it (threads 0 and 1). It leaves
while a message is in flight (threads 4 and 2): the message waits, in `log`, for a
classifier (thread 3), and another subscriber waits for the gateway (thread 5). -/
def chainSchedule : List LockAction :=
  .spawn (.updateAdvertisedTopics [("/map", "nav_msgs/OccupancyGrid")]) ::
    LockAction.runs 0 11 ++ .run 0 { created := some 1 } :: LockAction.runs 0 5 ++
    .spawn (.gatewaySession (.onSubscribe 1 5 (some 9))) :: LockAction.runs 1 7 ++
    .spawn (.rosMessageHandler 0 1 ⟨[1], none⟩ 10) :: .spawn (.classifyRemoteAccessQos 1) ::
    .spawn (.gatewaySession (.onUnsubscribe 1 5)) :: LockAction.runs 4 7 ++
    LockAction.runs 2 4 ++ .run 2 { awaits := true } ::
    [.spawn (.gatewaySession (.onSubscribe 1 6 none))]

theorem chainSchedule_fresh :
    lockSystem.Guarded LockAction.FreshIds .initial chainSchedule := by
  decide

theorem no_deadlock_chain : ∃ σ, lockSystem.exec .initial chainSchedule = some σ ∧
    σ.WaitsOn 5 4 ∧ σ.WaitsOn 4 2 ∧ σ.WaitsOn 2 3 ∧
      ∀ thread, ¬ Relation.TransGen σ.WaitsOn thread thread := by
  obtain ⟨σ, hexec, hgateway, hcallback, hclassifier⟩ :
      ∃ σ, lockSystem.exec .initial chainSchedule = some σ ∧
        σ.WaitsOn 5 4 ∧ σ.WaitsOn 4 2 ∧ σ.WaitsOn 2 3 := by
    refine ⟨_, rfl, ⟨.gatewaySubscriptions, rfl, ?_⟩, ⟨.callback 0, rfl, ?_⟩,
      ⟨.qosClassifier, rfl, ?_⟩⟩
    · exact ⟨_, List.mem_cons_of_mem _ List.mem_cons_self, List.mem_singleton_self _⟩
    · exact ⟨_, List.mem_cons_of_mem _ (List.mem_cons_of_mem _ List.mem_cons_self),
        List.mem_singleton_self _⟩
    · exact ⟨_, List.mem_cons_self, List.mem_singleton_self _⟩
  refine ⟨σ, hexec, hgateway, hcallback, hclassifier, fun thread => ?_⟩
  exact no_deadlock (TSys.Run.exec (.init rfl) chainSchedule_fresh hexec) thread

/-- What no thread holds is free. -/
theorem LockState.free_of_not_held {σ : LockState} {r : Resource}
    (h : ∀ thread, ¬ bridgeFrames.holds (σ.stackOf thread) r) : σ.free r = true := by
  refine List.all_eq_true.mpr fun stack hstack => List.all_eq_true.mpr fun frame hframe => ?_
  obtain ⟨thread, hthread⟩ := List.getElem?_of_mem hstack
  refine decide_eq_true fun hheld => h thread ⟨frame, ?_, hheld⟩
  rw [LockState.stackOf, List.getD_eq_getElem?_getD, hthread]
  exact hframe

/-- **Progress.** As long as a thread is not done, one of them can go on, whatever the
outside answers. -/
theorem some_thread_runs {σ : LockState} (h : lockSystem.Run LockAction.FreshIds σ)
    (hbusy : ∃ stack ∈ σ.threads, stack ≠ []) (answer : Answer) :
    ∃ thread, (σ.step (.run thread answer)).isSome := by
  obtain ⟨stack, hstack, hne⟩ := hbusy
  obtain ⟨busy, hbusy⟩ := List.getElem?_of_mem hstack
  have hfinite : {thread | σ.stackOf thread ≠ []}.Finite := by
    apply (Set.finite_lt_nat σ.threads.length).subset
    intro thread hthread
    by_contra hge
    apply hthread
    rw [LockState.stackOf, List.getD_eq_getElem?_getD, List.getElem?_eq_none (not_lt.mp hge)]
    rfl
  obtain ⟨thread, hnonempty, hunblocked⟩ := RankedFrames.exists_unblocked
    (LockState.KeepsOrder.of_run h).stackOf hfinite (i := busy)
    (by rwa [LockState.stackOf_eq hbusy])
  cases hthread : σ.threads[thread]? with
  | none =>
      refine absurd ?_ hnonempty
      rw [LockState.stackOf, List.getD_eq_getElem?_getD, hthread]
      rfl
  | some stack =>
      rw [LockState.stackOf_eq hthread] at hnonempty hunblocked
      obtain ⟨frame, callers, rfl⟩ := List.exists_cons_of_ne_nil hnonempty
      have hfree : frame.waits.all σ.free = true := by
        cases hwaits : frame.waits with
        | none => rfl
        | some r => exact LockState.free_of_not_held (hunblocked r hwaits)
      refine ⟨thread, ?_⟩
      simp only [LockState.step, hthread, hfree, if_true]
      rfl

/-! ## The mutexes exclude -/

/-- One thread at a time holds it. A callback may be in flight several times, and so may a
classifier run. -/
def Resource.isMutex : Resource → Bool
  | .callback _ | .qosClassifier => false
  | _ => true

/-- A thread begins without a mutex. -/
theorem ThreadEntry.holds_no_mutex (entry : ThreadEntry) :
    (entry.stack.all fun frame => frame.held.all fun r => !r.isMutex) = true := by
  cases entry <;> rfl

namespace LockState

variable {σ τ : LockState} {thread : Nat}

theorem not_holds_of_free {r : Resource} (h : σ.free r = true) (thread : Nat) :
    ¬ bridgeFrames.holds (σ.stackOf thread) r := by
  rintro ⟨frame, hframe, hheld⟩
  rw [stackOf, List.getD_eq_getElem?_getD] at hframe
  cases hthread : σ.threads[thread]? with
  | none =>
      rw [hthread] at hframe
      cases hframe
  | some stack =>
      rw [hthread] at hframe
      have hstack := List.all_eq_true.mp h stack (List.mem_of_getElem? hthread)
      exact of_decide_eq_true (List.all_eq_true.mp hstack frame hframe) hheld

theorem stackOf_spawn (entry : ThreadEntry) :
    ({ σ with threads := σ.threads ++ [entry.stack] } : LockState).stackOf =
      Function.update σ.stackOf σ.threads.length entry.stack := by
  funext other
  simp only [stackOf, List.getD_eq_getElem?_getD]
  rcases Nat.lt_trichotomy other σ.threads.length with hlt | rfl | hgt
  · rw [List.getElem?_append_left hlt, Function.update_of_ne hlt.ne]
    rfl
  · rw [List.getElem?_concat_length, Function.update_self]
    rfl
  · rw [List.getElem?_eq_none (by simp; omega), Function.update_of_ne hgt.ne', stackOf,
      List.getD_eq_getElem?_getD, List.getElem?_eq_none hgt.le]

theorem stackOf_set (hthread : thread < σ.threads.length) (stack : List Frame)
    (hthreads : τ.threads = σ.threads.set thread stack) :
    τ.stackOf = Function.update σ.stackOf thread stack := by
  funext other
  rw [stackOf, hthreads, List.getD_eq_getElem?_getD]
  by_cases heq : other = thread
  · subst heq
    rw [List.getElem?_set_self hthread, Function.update_self, Option.getD_some]
  · rw [List.getElem?_set_ne (Ne.symm heq), Function.update_of_ne heq, stackOf,
      List.getD_eq_getElem?_getD]

/-- What a step of a thread does to all of them. -/
structure Runs (σ : LockState) (thread : Nat) (answer : Answer) (τ : LockState) (frame : Frame)
    (callers : List Frame) : Prop where
  stack : σ.stackOf thread = frame :: callers
  free : ∀ r, frame.waits = some r → ∀ other, ¬ bridgeFrames.holds (σ.stackOf other) r
  advances : σ.Advances frame (σ.advance frame answer)
  tables : τ.tables = (σ.advance frame answer).1.tables
  serials : τ.serials = (σ.advance frame answer).1.serials
  stackOf : τ.stackOf =
    Function.update σ.stackOf thread ((σ.advance frame answer).2 ++ callers)

theorem KeepsOrder.runs {answer : Answer} (h : σ.KeepsOrder)
    (hfresh : (LockAction.run thread answer).FreshIds σ)
    (hs : σ.step (.run thread answer) = some τ) :
    ∃ frame callers, σ.Runs thread answer τ frame callers := by
  simp only [LockState.step] at hs
  split at hs
  case h_2 => cases hs
  rename_i frame callers hthread
  split at hs
  case isFalse => cases hs
  rename_i hfree
  obtain rfl := Option.some.inj hs
  have hadvances := advance_keepsOrder frame h.created hfresh
  refine ⟨frame, callers, stackOf_eq hthread, ?_, hadvances, rfl, rfl, ?_⟩
  · intro r hr
    rw [hr] at hfree
    exact not_holds_of_free hfree
  · obtain ⟨hlt, -⟩ := List.getElem?_eq_some_iff.mp hthread
    exact stackOf_set hlt _ (congrArg (List.set · thread _) hadvances.threads)

/-- No two threads hold the same mutex. -/
def Excludes (σ : LockState) : Prop :=
  ∀ r : Resource, r.isMutex = true → bridgeFrames.Exclusive σ.stackOf r

theorem Excludes.step {a : LockAction} (h : σ.Excludes) (horder : σ.KeepsOrder)
    (hfresh : a.FreshIds σ) (hs : σ.step a = some τ) : τ.Excludes := by
  intro r hr
  cases a with
  | spawn entry =>
      obtain rfl := Option.some.inj hs
      rw [stackOf_spawn]
      apply (h r hr).begin
      rintro ⟨frame, hframe, hheld⟩
      have hframe := List.all_eq_true.mp entry.holds_no_mutex frame hframe
      have hnone := List.all_eq_true.mp hframe r hheld
      rw [hr] at hnone
      cases hnone
  | run thread answer =>
      obtain ⟨frame, callers, hruns⟩ := horder.runs hfresh hs
      rw [hruns.stackOf]
      exact (h r hr).replace hruns.stack hruns.advances.takes (hruns.free r)

theorem Excludes.of_run (h : lockSystem.Run LockAction.FreshIds σ) : σ.Excludes := by
  refine TSys.Run.invariant_of h (fun _ => KeepsOrder.of_run) ?_
    fun _ _ _ hexcludes horder hfresh hs => hexcludes.step horder hfresh hs
  rintro _ rfl r -
  exact ⟨fun _ => List.Pairwise.nil, fun _ _ ⟨_, hframe, _⟩ => absurd hframe List.not_mem_nil⟩

end LockState

/-- **Mutual exclusion.** In every run no two threads hold the same mutex, and no thread holds one
twice. -/
theorem mutual_exclusion {σ : LockState} (h : lockSystem.Run LockAction.FreshIds σ)
    {r : Resource} (hr : r.isMutex = true) : bridgeFrames.Exclusive σ.stackOf r :=
  LockState.Excludes.of_run h r hr

end FoxgloveBridge
