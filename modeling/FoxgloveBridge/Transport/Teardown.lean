import FoxgloveBridge.Lib.Teardown
import FoxgloveBridge.Transport.Startup

/-!
# The end of the bridge

What is destroyed when, and what still runs meanwhile: the end of `main` with the destructors
of `Ros1FoxgloveBridge`, `TransportManager` and `Ros1ParameterInterface`, and the unwinding of
a constructor that throws. Members are destroyed in the reverse of their declaration.

The code that runs beside it is listed by the callback or the loop that enters it, each with
its thread and the members it may touch, on any of its paths. Two things that end are no
members: the SDK's server and gateway serve until they are stopped, by `stop` or by their
destructors, which return when the callbacks that run have returned; after that nothing may be
published through them.

The destructor is ordered for every set of features (`teardown_safe`). The unwinding of the
constructors is not: the members of the parameter queue are declared after `_server`, so they
are destroyed while it still serves (`unwinding_safe_iff`).
-/

namespace FoxgloveBridge

/-- What ends during a teardown. -/
inductive Member
  -- of `Ros1FoxgloveBridge`, in the order of their declaration
  | nh
  | privateNh
  | paramInterface
  | transports
  | descriptionProvider
  | descriptionProviderMutex
  | subscriptionsMutex
  | latchedChannelsMutex
  | latchedChannels
  | channels
  | subscriptions
  | clientAdvertisedTopics
  | clientAdvertisementsMutex
  | advertisedServices
  | servicesMutex
  | serviceHandler
  | pendingServiceCalls
  | pendingServiceCallsMutex
  | topicWhitelistPatterns
  | serviceWhitelistPatterns
  | assetUriAllowlistPatterns
  | videoTranscodeTopicDenyPatterns
  | reliableTopicPatterns
  | pointCloudCompressionTopicDenyPatterns
  | pointCloudCompressionOptions
  | clockSubscription
  | graphSubscriptionCount
  | shuttingDown
  | pollThread
  | pollMutex
  | pollCv
  | pollPoke
  | maxUpdatePeriodMs
  | serviceTypeRetrievalTimeoutMs
  | serviceCallTimeoutMs
  | subscriptionQueueLength
  -- of `TransportManager`
  | log
  | delegate
  | paramBackend
  | context
  | capabilities
  | server
  | sysinfoPublisher
  | gateway
  | paramOpMutex
  | paramOpCv
  | paramOpQueue
  | paramOpShutdown
  | paramWorkerThread
  | paramSubscriberCount
  | stopped
  -- of `Ros1ParameterInterface`
  | paramNh
  | paramWhitelistPatterns
  | ownNamespacePrefix
  | xmlrpcServer
  | paramMutex
  | paramUpdateFunc
  | subscribedParams
  | paramShutdown
  -- what the SDK runs until it is stopped
  | runningServer
  | runningGateway
  deriving DecidableEq, Repr

/-- Where code of the bridge runs. -/
inductive BridgeThread
  /-- The pool of the `ros::AsyncSpinner`. -/
  | spinner
  | poll
  /-- The thread of the `ros::XMLRPCManager`. -/
  | xmlRpc
  | server
  | gateway
  | sysinfo
  | paramWorker
  /-- The detached threads of the service calls. -/
  | serviceCall
  deriving DecidableEq, Repr

/-- What enters the code of the bridge. -/
inductive Entry
  | rosMessageHandler
  | clock
  | pollCycle
  /-- `paramUpdate` is called, with the update callback set or not. -/
  | parameterUpdates (isSet : Bool)
  | transport (isGateway : Bool) (callback : TransportCallback)
  /-- One of the four parameter callbacks of a transport. -/
  | parameterRequest (isGateway : Bool)
  | parameterOp
  | publishSysinfo
  | serviceCall
  deriving DecidableEq, Repr

namespace Entry

def thread : Entry → BridgeThread
  | .rosMessageHandler | .clock => .spinner
  | .pollCycle => .poll
  | .parameterUpdates _ => .xmlRpc
  | .transport isGateway _ | .parameterRequest isGateway => bif isGateway then .gateway else .server
  | .parameterOp => .paramWorker
  | .publishSysinfo => .sysinfo
  | .serviceCall => .serviceCall

/-- `_transports->`, then the server and, if there is one, the gateway. -/
def onTransports : List Member :=
  [.transports, .server, .runningServer, .gateway, .runningGateway]

def pokePoll : List Member := [.pollMutex, .pollPoke, .pollCv]

def getDescription : List Member := [.descriptionProviderMutex, .descriptionProvider]

def onUnsubscribe : List Member :=
  [.subscriptionsMutex, .subscriptions, .latchedChannelsMutex, .latchedChannels]

/-- The members of the bridge that a callback of a transport may touch. -/
def delegateTouches : TransportCallback → List Member
  | .onConnectionGraphSubscribe | .onConnectionGraphUnsubscribe =>
      .graphSubscriptionCount :: pokePoll
  | .onSubscribe =>
      [.subscriptionsMutex, .channels, .subscriptions, .nh, .subscriptionQueueLength]
  | .onUnsubscribe => onUnsubscribe
  | .onClientAdvertise =>
      [.clientAdvertisementsMutex, .clientAdvertisedTopics, .nh, .subscriptionQueueLength] ++
        getDescription ++ pokePoll
  | .onClientUnadvertise | .onMessageData => [.clientAdvertisementsMutex, .clientAdvertisedTopics]
  | .fetchAsset => [.assetUriAllowlistPatterns]
  | .onConnectionStatusChanged => []
  | .qosClassifier => [.reliableTopicPatterns, .latchedChannelsMutex, .latchedChannels]
  | .suppressVideoTranscode => [.videoTranscodeTopicDenyPatterns]
  | .pointCloudCompression =>
      [.pointCloudCompressionTopicDenyPatterns, .pointCloudCompressionOptions]
  | .serviceRequest =>
      [.serviceHandler, .servicesMutex, .advertisedServices, .serviceCallTimeoutMs,
        .pendingServiceCallsMutex, .pendingServiceCalls]

def touches : Entry → List Member
  | .rosMessageHandler =>
      [.subscriptionsMutex, .channels, .subscriptions, .latchedChannelsMutex, .latchedChannels]
  | .clock => [.transports, .server, .runningServer]
  | .pollCycle =>
      [.shuttingDown, .transports, .capabilities, .graphSubscriptionCount,
        .topicWhitelistPatterns, .serviceWhitelistPatterns] ++
      -- `updateAdvertisedTopics`; closing a channel calls `onUnsubscribe`
      [.subscriptionsMutex, .channels, .latchedChannelsMutex, .latchedChannels, .context] ++
      getDescription ++ onUnsubscribe ++
      -- `updateAdvertisedServices` and the graph
      [.advertisedServices, .servicesMutex, .serviceHandler, .serviceTypeRetrievalTimeoutMs,
        .log] ++ onTransports ++
      -- `sweepExpiredServiceCalls` and the wait
      [.pendingServiceCallsMutex, .pendingServiceCalls, .serviceCallTimeoutMs,
        .maxUpdatePeriodMs, .pollMutex, .pollCv, .pollPoke]
  | .parameterUpdates isSet =>
      [.paramMutex, .paramUpdateFunc] ++ bif isSet then onTransports else []
  -- a service is called through the bridge's handler, not through the manager
  | .transport _ .serviceRequest => delegateTouches .serviceRequest
  -- the gateway asks for its sink id
  | .transport true .onSubscribe =>
      [.log, .delegate, .gateway, .runningGateway] ++ delegateTouches .onSubscribe
  -- the gateway's callbacks for client publishes log the exceptions
  | .transport true callback => .log :: .delegate :: delegateTouches callback
  | .transport false callback => .delegate :: delegateTouches callback
  | .parameterRequest _ => [.paramOpMutex, .paramOpShutdown, .paramOpQueue, .paramOpCv]
  | .parameterOp =>
      [.paramOpMutex, .paramOpCv, .paramOpShutdown, .paramOpQueue, .log, .paramBackend,
        .paramSubscriberCount] ++
      -- the backend
      [.paramNh, .paramWhitelistPatterns, .ownNamespacePrefix, .xmlrpcServer, .paramMutex,
        .subscribedParams, .paramShutdown]
  -- the SDK's own thread
  | .publishSysinfo => []
  -- "captures no `this`"
  | .serviceCall => []

end Entry

/-- What was started. -/
structure BridgeFeatures extends StartupOptions where
  /-- The system info publisher could be created. -/
  sysinfo : Bool
  deriving DecidableEq, Repr

namespace BridgeFeatures

variable (features : BridgeFeatures)

def sysinfoEntries : List Entry := if features.sysinfo then [.publishSysinfo] else []

/-- The callbacks of the WebSocket server. -/
def serverEntries : List Entry :=
  [.transport false .onConnectionGraphSubscribe, .transport false .onConnectionGraphUnsubscribe,
    .transport false .onSubscribe, .transport false .onUnsubscribe,
    .transport false .onClientAdvertise, .transport false .onClientUnadvertise,
    .transport false .onMessageData, .transport false .fetchAsset] ++
  if features.parameters then [.parameterRequest false] else []

def gatewayEntries : List Entry :=
  if features.remoteAccess then
    [.transport true .onConnectionGraphSubscribe, .transport true .onConnectionGraphUnsubscribe,
      .transport true .onSubscribe, .transport true .onUnsubscribe,
      .transport true .onClientAdvertise, .transport true .onClientUnadvertise,
      .transport true .onMessageData, .transport true .fetchAsset,
      .transport true .onConnectionStatusChanged, .transport true .qosClassifier,
      .transport true .suppressVideoTranscode, .transport true .pointCloudCompression] ++
    if features.parameters then [.parameterRequest true] else []
  else []

/-- Once the poll thread has added services. -/
def serviceEntries : List Entry :=
  [.transport false .serviceRequest, .serviceCall] ++
    if features.remoteAccess then [.transport true .serviceRequest] else []

/-- Everything that runs beside the end of `main`. -/
def entries : List Entry :=
  [.rosMessageHandler, .pollCycle] ++ (if features.useSimTime then [.clock] else []) ++
    (if features.parameters then [.parameterUpdates true, .parameterOp] else []) ++
    features.sysinfoEntries ++ features.serverEntries ++ features.gatewayEntries ++
    features.serviceEntries

end BridgeFeatures

/-! ## The statements -/

abbrev TeardownStatement := Teardown.Statement BridgeThread Member

/-- The SDK's server stops: its callbacks have returned, nothing is published through it. -/
def stopServer : List TeardownStatement := [.join .server, .retire .runningServer]

def stopGateway : List TeardownStatement := [.join .gateway, .retire .runningGateway]

/-- `TransportManager::stop` with `_stopped` as it is. -/
def transportsStop (features : BridgeFeatures) (isStopped : Bool) : List TeardownStatement :=
  if isStopped then [] else
    (if features.sysinfo then [.join .sysinfo] else []) ++
    (if features.remoteAccess then stopGateway else []) ++
    stopServer ++
    if features.parameters then [.join .paramWorker] else []

/-- `Ros1ParameterInterface::shutdown` with `_shutdown` as it is. -/
def paramInterfaceShutdown (isShutdown : Bool) : List TeardownStatement :=
  if isShutdown then [] else [.join .xmlRpc]

def retireAll (members : List Member) : List TeardownStatement := members.map .retire

/-- The members of a `TransportManager`. The SDK objects that were created and are not stopped
yet stop when they are destroyed. -/
def destroyTransportMembers (sysinfo gateway server : Bool) : List TeardownStatement :=
  retireAll [.stopped, .paramSubscriberCount, .paramWorkerThread, .paramOpShutdown,
    .paramOpQueue, .paramOpCv, .paramOpMutex, .gateway] ++
  (if gateway then stopGateway else []) ++
  retireAll [.sysinfoPublisher] ++ (if sysinfo then [.join .sysinfo] else []) ++
  retireAll [.server] ++ (if server then stopServer else []) ++
  retireAll [.capabilities, .context, .paramBackend, .delegate, .log]

/-- `~TransportManager`: everything is stopped when the members are destroyed. -/
def transportManagerDestructor (features : BridgeFeatures) (isStopped : Bool) :
    List TeardownStatement :=
  transportsStop features isStopped ++ destroyTransportMembers false false false

def paramInterfaceDestructor (isShutdown : Bool) : List TeardownStatement :=
  paramInterfaceShutdown isShutdown ++
    retireAll [.paramShutdown, .subscribedParams, .paramUpdateFunc, .paramMutex, .xmlrpcServer,
      .ownNamespacePrefix, .paramWhitelistPatterns, .paramNh]

/-- The members of a `Ros1FoxgloveBridge`, with what the destructors of the pointers do. -/
def destroyBridgeMembers (destroyTransports destroyParamInterface : List TeardownStatement) :
    List TeardownStatement :=
  retireAll [.subscriptionQueueLength, .serviceCallTimeoutMs, .serviceTypeRetrievalTimeoutMs,
    .maxUpdatePeriodMs, .pollPoke, .pollCv, .pollMutex, .pollThread, .shuttingDown,
    .graphSubscriptionCount, .clockSubscription, .pointCloudCompressionOptions,
    .pointCloudCompressionTopicDenyPatterns, .reliableTopicPatterns,
    .videoTranscodeTopicDenyPatterns, .assetUriAllowlistPatterns, .serviceWhitelistPatterns,
    .topicWhitelistPatterns, .pendingServiceCallsMutex, .pendingServiceCalls, .serviceHandler,
    .servicesMutex, .advertisedServices, .clientAdvertisementsMutex, .clientAdvertisedTopics,
    .subscriptions, .channels, .latchedChannels, .latchedChannelsMutex, .subscriptionsMutex,
    .descriptionProviderMutex, .descriptionProvider, .transports] ++
  destroyTransports ++ retireAll [.paramInterface] ++ destroyParamInterface ++
  retireAll [.privateNh, .nh]

/-- `~Ros1FoxgloveBridge` up to the members. The poll thread ends at the flag that is raised
before the join. -/
def bridgeShutdown (features : BridgeFeatures) : List TeardownStatement :=
  .join .poll :: (if features.parameters then paramInterfaceShutdown false else []) ++
    transportsStop features false

def bridgeDestructor (features : BridgeFeatures) : List TeardownStatement :=
  bridgeShutdown features ++
    destroyBridgeMembers (transportManagerDestructor features true)
      (if features.parameters then paramInterfaceDestructor true else [])

/-- The end of `main`, after `ros::waitForShutdown`: the spinner was declared last. -/
def endOfMain (features : BridgeFeatures) : List TeardownStatement :=
  .join .spinner :: bridgeDestructor features

def teardownProgram (features : BridgeFeatures) :
    Teardown.Program BridgeThread Entry Member where
  activities := features.entries
  source := Entry.thread
  touches := Entry.touches
  statements := endOfMain features

open Teardown Teardown.Program

/-- The first part, the spinner included, joins every thread of the bridge before what it
publishes through is stopped. -/
theorem shutdown_ordered (features : BridgeFeatures) :
    (teardownProgram features).OrderedFrom [.spinner] (bridgeShutdown features) ∧
      ∀ entry ∈ features.entries, entry.touches ≠ [] →
        entry.thread ∈ joinedBy [.spinner] (bridgeShutdown features) := by
  obtain ⟨⟨parameters, remoteAccess, useSimTime⟩, sysinfo⟩ := features
  cases parameters <;> cases remoteAccess <;> cases useSimTime <;> cases sysinfo <;>
    decide +kernel

/-- Only the detached threads are never joined. -/
theorem join_mem_endOfMain (features : BridgeFeatures) :
    ∀ entry ∈ features.entries, entry ≠ .serviceCall →
      .join entry.thread ∈ endOfMain features := by
  obtain ⟨⟨parameters, remoteAccess, useSimTime⟩, sysinfo⟩ := features
  cases parameters <;> cases remoteAccess <;> cases useSimTime <;> cases sysinfo <;>
    decide +kernel

theorem teardown_ordered (features : BridgeFeatures) : (teardownProgram features).Ordered := by
  obtain ⟨hshutdown, hjoined⟩ := shutdown_ordered features
  have hquiet : ∀ object, (teardownProgram features).Quiet
      (joinedBy [.spinner] (bridgeShutdown features)) object := by
    intro object entry hentry htouches
    exact hjoined entry hentry (List.ne_nil_of_mem htouches)
  exact orderedFrom_append.mpr ⟨hshutdown, orderedFrom_of_quiet hquiet _⟩

/-- **The end of the bridge.** Whatever callbacks and threads still run beside it, nothing
touches a member after its destruction or publishes through a stopped transport; the end can
be reached from every state, and there only detached service calls are left. -/
theorem teardown_safe {features : BridgeFeatures}
    {σ : Teardown.State BridgeThread Entry Member}
    (h : (teardownProgram features).system.Reachable σ) :
    σ.dangling = false ∧ (σ.rest = [] → ∀ entry ∈ σ.running, entry = .serviceCall) ∧
      ∃ actions τ, (teardownProgram features).system.exec σ actions = some τ ∧ τ.rest = [] := by
  have hordered := teardown_ordered features
  refine ⟨safe_iff_ordered.mpr hordered σ h, ?_, exec_done σ⟩
  intro hdone entry hentry
  by_contra hother
  exact hordered.not_joined_of_done h hdone entry hentry
    (join_mem_endOfMain features entry ((hordered.sound h).listed entry hentry) hother)

/-- A message and a service call come while the bridge ends; the call outlives it. -/
def endWithServiceCall : List (Action Entry Member) :=
  [.start .serviceCall, .start .rosMessageHandler, .touch .rosMessageHandler .channels,
    .finish .rosMessageHandler] ++
  List.replicate (endOfMain ⟨⟨true, true, true⟩, true⟩).length .next

theorem teardown_safe_with_service_call : ∃ σ,
    (teardownProgram ⟨⟨true, true, true⟩, true⟩).system.exec
      (teardownProgram ⟨⟨true, true, true⟩, true⟩).initial endWithServiceCall = some σ ∧
    σ.rest = [] ∧ σ.running = [.serviceCall] ∧ σ.dangling = false := by
  have hreach : (teardownProgram ⟨⟨true, true, true⟩, true⟩).system.Reachable _ :=
    TSys.Reachable.exec (.init rfl)
      (show TSys.exec _ (teardownProgram ⟨⟨true, true, true⟩, true⟩).initial
        endWithServiceCall = some _ from rfl)
  exact ⟨_, rfl, rfl, rfl, (teardown_safe hreach).1⟩

/-! ## A constructor that throws -/

/-- Where the start may throw. -/
inductive ConstructorThrow
  /-- An option is out of its range. -/
  | options
  /-- The certificate or the key cannot be read. -/
  | tls
  | createServer
  /-- There is no remote access in the build, no device token, or no gateway. -/
  | createGateway
  /-- The parameter worker's `std::thread`. -/
  | startParamWorker
  /-- The constructor of the `TransportManager` has returned. -/
  | afterTransports
  deriving DecidableEq, Repr

namespace ConstructorThrow

def entries (features : BridgeFeatures) : ConstructorThrow → List Entry
  | .options => []
  | .tls | .createServer => if features.parameters then [.parameterUpdates false] else []
  | .createGateway =>
      features.serverEntries ++ (if features.parameters then [.parameterUpdates false] else []) ++
        features.sysinfoEntries
  | .startParamWorker =>
      features.serverEntries ++ (if features.parameters then [.parameterUpdates false] else []) ++
        features.sysinfoEntries ++ features.gatewayEntries
  | .afterTransports =>
      features.serverEntries ++
        (if features.parameters then [.parameterUpdates true, .parameterOp] else []) ++
        features.sysinfoEntries ++ features.gatewayEntries

/-- The members are destroyed, with no body of a destructor where the constructor threw. -/
def unwinding (features : BridgeFeatures) (point : ConstructorThrow) : List TeardownStatement :=
  let destroyParamInterface :=
    if features.parameters then paramInterfaceDestructor false else []
  match point with
  | .options => destroyBridgeMembers [] []
  | .tls | .createServer =>
      destroyTransportMembers false false false ++ destroyBridgeMembers [] destroyParamInterface
  | .createGateway =>
      destroyTransportMembers features.sysinfo false true ++
        destroyBridgeMembers [] destroyParamInterface
  | .startParamWorker =>
      destroyTransportMembers features.sysinfo features.remoteAccess true ++
        destroyBridgeMembers [] destroyParamInterface
  | .afterTransports =>
      destroyBridgeMembers (transportManagerDestructor features false) destroyParamInterface

end ConstructorThrow

def unwindingProgram (features : BridgeFeatures) (point : ConstructorThrow) :
    Teardown.Program BridgeThread Entry Member where
  activities := point.entries features
  source := Entry.thread
  touches := Entry.touches
  statements := point.unwinding features

/-- The gateway is created if remote access is asked for, the worker if parameters are. -/
def ConstructorThrow.Possible (features : BridgeFeatures) : ConstructorThrow → Prop
  | .createGateway => features.remoteAccess = true
  | .startParamWorker => features.parameters = true
  | _ => True

/-- The server does not serve yet, or it serves without the parameter callbacks and what throws
is the gateway. -/
def ConstructorThrow.Contained (features : BridgeFeatures) (point : ConstructorThrow) : Prop :=
  point ∈ [.options, .tls, .createServer] ∨
    point = .createGateway ∧ features.parameters = false

/-- The members of the parameter queue go while the server still asks for parameters. -/
theorem not_ordered_of_parameters {features : BridgeFeatures} {point : ConstructorThrow}
    (hpoint : point = .createGateway ∨ point = .startParamWorker)
    (hparameters : features.parameters = true) : ¬ (unwindingProgram features point).Ordered := by
  have hserved : Entry.parameterRequest false ∈ features.serverEntries := by
    simp [BridgeFeatures.serverEntries, hparameters]
  intro hordered
  rcases hpoint with rfl | rfl
  · have hquiet := hordered.2.2.2.1 (.parameterRequest false)
      (List.mem_append_left _ (List.mem_append_left _ hserved))
      (show Member.paramOpShutdown ∈ (Entry.parameterRequest false).touches by decide)
    cases hquiet
  · have hquiet := hordered.2.2.2.1 (.parameterRequest false)
      (List.mem_append_left _ (List.mem_append_left _ (List.mem_append_left _ hserved)))
      (show Member.paramOpShutdown ∈ (Entry.parameterRequest false).touches by decide)
    cases hquiet

/-- The bridge's own members go while the server still calls back. -/
theorem not_ordered_afterTransports (features : BridgeFeatures) :
    ¬ (unwindingProgram features .afterTransports).Ordered := by
  intro hordered
  have hserved : Entry.transport false .onConnectionGraphSubscribe ∈ features.serverEntries :=
    List.mem_cons_self
  have hquiet := hordered.2.2.2.2.1 (.transport false .onConnectionGraphSubscribe)
    (List.mem_append_left _ (List.mem_append_left _ (List.mem_append_left _ hserved)))
    (show Member.pollPoke ∈ (Entry.transport false .onConnectionGraphSubscribe).touches by decide)
  cases hquiet

/-- Before the server serves, only parameter updates run, and those are joined before the
members they touch are destroyed. -/
theorem ordered_of_not_serving {point : ConstructorThrow}
    (hpoint : point ∈ [.options, .tls, .createServer]) (features : BridgeFeatures) :
    (unwindingProgram features point).Ordered := by
  obtain ⟨⟨parameters, remoteAccess, useSimTime⟩, sysinfo⟩ := features
  have hserver :
      (unwindingProgram ⟨⟨parameters, remoteAccess, useSimTime⟩, sysinfo⟩ .tls).Ordered := by
    cases parameters
    · exact orderedFrom_of_quiet (fun object entry hentry => absurd hentry List.not_mem_nil) _
    · show (unwindingProgram ⟨⟨true, false, false⟩, false⟩ .tls).Ordered
      decide +kernel
  simp only [List.mem_cons, List.not_mem_nil, or_false] at hpoint
  rcases hpoint with rfl | rfl | rfl
  · exact orderedFrom_of_quiet (fun object entry hentry => absurd hentry List.not_mem_nil) _
  · exact hserver
  · exact hserver

/-- Without parameters the callbacks touch nothing of the manager that is declared after the
server. -/
theorem ordered_of_no_parameters {features : BridgeFeatures}
    (hparameters : features.parameters = false) :
    (unwindingProgram features .createGateway).Ordered := by
  obtain ⟨⟨parameters, remoteAccess, useSimTime⟩, sysinfo⟩ := features
  obtain rfl : parameters = false := hparameters
  show (unwindingProgram ⟨⟨false, false, false⟩, sysinfo⟩ .createGateway).Ordered
  cases sysinfo <;> decide +kernel

/-- **The unwinding of the constructors.** A member is destroyed under a callback that still
uses it unless the server does not serve yet when the constructor throws, or it serves without
the parameter callbacks and only the gateway is missing. -/
theorem unwinding_safe_iff {features : BridgeFeatures} {point : ConstructorThrow}
    (hpossible : point.Possible features) :
    (∀ σ, (unwindingProgram features point).system.Reachable σ → σ.dangling = false) ↔
      point.Contained features := by
  rw [safe_iff_ordered]
  constructor
  · intro hordered
    cases point with
    | options => exact .inl (by decide)
    | tls => exact .inl (by decide)
    | createServer => exact .inl (by decide)
    | createGateway =>
        refine .inr ⟨rfl, Bool.eq_false_of_not_eq_true fun hparameters => ?_⟩
        exact not_ordered_of_parameters (.inl rfl) hparameters hordered
    | startParamWorker =>
        exact absurd hordered (not_ordered_of_parameters (.inr rfl) hpossible)
    | afterTransports => exact absurd hordered (not_ordered_afterTransports features)
  · intro hcontained
    rcases hcontained with hpoint | ⟨rfl, hparameters⟩
    · exact ordered_of_not_serving hpoint features
    · exact ordered_of_no_parameters hparameters

/-- No device token, with and without parameters. -/
theorem unwinding_safe_iff_no_token :
    (∃ σ, (unwindingProgram ⟨⟨true, true, false⟩, true⟩ .createGateway).system.Reachable σ ∧
      σ.dangling = true) ∧
    ∀ σ, (unwindingProgram ⟨⟨false, true, false⟩, true⟩ .createGateway).system.Reachable σ →
      σ.dangling = false := by
  constructor
  · have hcontained : ¬ ConstructorThrow.Contained ⟨⟨true, true, false⟩, true⟩ .createGateway := by
      rintro (hmem | ⟨-, hparameters⟩)
      · exact absurd hmem (by decide)
      · cases hparameters
    have hpossible : ConstructorThrow.Possible ⟨⟨true, true, false⟩, true⟩ .createGateway := rfl
    have hunsafe := mt (unwinding_safe_iff hpossible).mp hcontained
    obtain ⟨σ, hσ⟩ := not_forall.mp hunsafe
    obtain ⟨hreach, hdangling⟩ := Classical.not_imp.mp hσ
    exact ⟨σ, hreach, Bool.eq_true_of_not_eq_false hdangling⟩
  · have hpossible : ConstructorThrow.Possible ⟨⟨false, true, false⟩, true⟩ .createGateway := rfl
    exact (unwinding_safe_iff hpossible).mpr (.inr ⟨rfl, rfl⟩)

end FoxgloveBridge
