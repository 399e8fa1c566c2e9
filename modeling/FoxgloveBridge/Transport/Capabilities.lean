import FoxgloveBridge.Lib.Flags
import FoxgloveBridge.Transport.Startup

/-!
# Capabilities

What becomes of the list of capability names in the bridge's options: the flags that each
transport advertises to its clients, the callbacks that are registered with it, and the parts
of the bridge that serve a capability elsewhere (the parameter worker, the poll thread, the
subscription to the clock). The SDK's flags are parameters: any distinct bits.

What is advertised is what was asked for, and nothing is advertised that is not served
(`capabilities_served`). The one difference is the connection graph, whose callbacks the
WebSocket server has in any case.
-/

namespace FoxgloveBridge

/-- `foxglove::WebSocketServerCapabilities`. -/
inductive ServerCapability
  | clientPublish
  | connectionGraph
  | parameters
  | time
  | services
  | assets
  deriving DecidableEq, Repr

/-- `foxglove::RemoteAccessGatewayCapabilities`. -/
inductive GatewayCapability
  | clientPublish
  | parameters
  | services
  | assets
  | connectionGraph
  deriving DecidableEq, Repr

/-- `STRING_TO_CAPABILITY`. -/
def stringToCapability : List (String × ServerCapability) :=
  [("clientPublish", .clientPublish),
    ("parameters", .parameters),
    ("parametersSubscribe", .parameters),
    ("services", .services),
    ("connectionGraph", .connectionGraph),
    ("assets", .assets)]

/-- The options the capabilities depend on. -/
structure CapabilityOptions where
  capabilities : List String
  /-- `/use_sim_time`, which is `broadcastTimeCapability`. -/
  useSimTime : Bool
  notifyClientCount : Bool
  remoteAccess : Bool
  deriving DecidableEq, Repr

/-- A callback or handler that is registered with a transport. -/
inductive WiredCallback
  | callback (c : TransportCallback)
  | onClientConnect
  | onClientDisconnect
  | onParametersSubscribe
  | onParametersUnsubscribe
  /-- `parameter_handler.onGet`. -/
  | onGet
  | onSet
  deriving DecidableEq, Repr

/-- The options of a transport, when it is created. -/
structure TransportSetup (w : Nat) where
  capabilities : BitVec w
  callbacks : List WiredCallback

/-- The bridge as its constructor leaves it. -/
structure BridgeSetup (w v : Nat) where
  paramInterface : Bool
  server : TransportSetup w
  gateway : Option (TransportSetup v)
  /-- The worker of the parameter operations runs. -/
  paramWorker : Bool
  /-- What the poll thread finds in every cycle. -/
  servicesEnabled : Bool
  clockSubscription : Bool

variable {w v : Nat} (server : Flags ServerCapability w) (gateway : Flags GatewayCapability v)

/-! ## The flags -/

def processCapabilities (capabilities : List String) : BitVec w :=
  capabilities.foldl
    (fun out capability => server.add out (stringToCapability.lookup capability)) 0#w

def hasCapability (capabilities : BitVec w) (capability : ServerCapability) : Bool :=
  server.has capabilities capability

/-- One line of `toGatewayCapabilities`. -/
def addGatewayCapability (capabilities : BitVec w) (out : BitVec v)
    (flag : ServerCapability × GatewayCapability) : BitVec v :=
  gateway.add out (if hasCapability server capabilities flag.1 then some flag.2 else none)

def toGatewayCapabilities (capabilities : BitVec w) : BitVec v :=
  [(ServerCapability.clientPublish, GatewayCapability.clientPublish),
    (.parameters, .parameters),
    (.services, .services),
    (.assets, .assets),
    (.connectionGraph, .connectionGraph)].foldl
      (addGatewayCapability server gateway capabilities) 0#v

/-! ## The callbacks -/

def wireParameterCallbacks : List WiredCallback :=
  [.onParametersSubscribe, .onParametersUnsubscribe, .onGet, .onSet]

/-- Callbacks that are registered under a condition. -/
def wiredIf (condition : Bool) (callbacks : List WiredCallback) : List WiredCallback :=
  if condition then callbacks else []

def wireWebSocketCallbacks (capabilities : BitVec w) (paramBackend : Bool) :
    List WiredCallback :=
  [.callback .onConnectionGraphSubscribe, .callback .onConnectionGraphUnsubscribe,
      .callback .onSubscribe, .callback .onUnsubscribe] ++
    wiredIf (hasCapability server capabilities .clientPublish)
      [.callback .onClientAdvertise, .callback .onClientUnadvertise,
        .callback .onMessageData] ++
    wiredIf (hasCapability server capabilities .assets) [.callback .fetchAsset] ++
    wiredIf (paramBackend && hasCapability server capabilities .parameters)
      wireParameterCallbacks

/-- The callbacks that `createGateway` registers. -/
def wireGatewayCallbacks (capabilities : BitVec w) (paramBackend : Bool) :
    List WiredCallback :=
  [.callback .onConnectionStatusChanged, .callback .onSubscribe, .callback .onUnsubscribe,
      .callback .qosClassifier, .callback .suppressVideoTranscode,
      .callback .pointCloudCompression] ++
    wiredIf (hasCapability server capabilities .clientPublish)
      [.callback .onClientAdvertise, .callback .onClientUnadvertise,
        .callback .onMessageData] ++
    wiredIf (hasCapability server capabilities .assets) [.callback .fetchAsset] ++
    wiredIf (paramBackend && hasCapability server capabilities .parameters)
      wireParameterCallbacks ++
    wiredIf (hasCapability server capabilities .connectionGraph)
      [.callback .onConnectionGraphSubscribe, .callback .onConnectionGraphUnsubscribe]

/-! ## The constructors -/

/-- The server options in the constructor of `TransportManager`. -/
def serverSetup (options : CapabilityOptions) (paramBackend : Bool) : TransportSetup w :=
  let capabilities := processCapabilities server options.capabilities
  { capabilities :=
      if options.useSimTime then capabilities ||| server.value .time else capabilities
    callbacks :=
      wiredIf options.notifyClientCount [.onClientConnect, .onClientDisconnect] ++
        wireWebSocketCallbacks server capabilities paramBackend }

/-- The gateway options in `createGateway`. -/
def gatewaySetup (options : CapabilityOptions) (paramBackend : Bool) : TransportSetup v :=
  let capabilities := processCapabilities server options.capabilities
  { capabilities := toGatewayCapabilities server gateway capabilities
    callbacks := wireGatewayCallbacks server capabilities paramBackend }

/-- The constructors of `Ros1FoxgloveBridge` and `TransportManager`. -/
def bridgeSetup (options : CapabilityOptions) : BridgeSetup w v :=
  let capabilities := processCapabilities server options.capabilities
  let paramInterface := hasCapability server capabilities .parameters
  { paramInterface := paramInterface
    server := serverSetup server options paramInterface
    gateway :=
      if options.remoteAccess then some (gatewaySetup server gateway options paramInterface)
      else none
    paramWorker := paramInterface && hasCapability server capabilities .parameters
    servicesEnabled := hasCapability server capabilities .services
    clockSubscription := options.useSimTime }

/-! ## What is asked for, advertised and served -/

/-- The capability is asked for: one of its names is in the list, and for the time the
simulated one is used. -/
def CapabilityOptions.Requested (options : CapabilityOptions) :
    ServerCapability → Prop
  | .time => options.useSimTime = true
  | capability => ∃ name ∈ options.capabilities, stringToCapability.lookup name = some capability

/-- The gateway's flag, of which there is none for the time. -/
def ServerCapability.onGateway : ServerCapability → Option GatewayCapability
  | .clientPublish => some .clientPublish
  | .connectionGraph => some .connectionGraph
  | .parameters => some .parameters
  | .time => none
  | .services => some .services
  | .assets => some .assets

/-- The callbacks without which a transport cannot serve the capability. -/
def ServerCapability.callbacks : ServerCapability → List WiredCallback
  | .clientPublish =>
      [.callback .onClientAdvertise, .callback .onClientUnadvertise, .callback .onMessageData]
  | .connectionGraph =>
      [.callback .onConnectionGraphSubscribe, .callback .onConnectionGraphUnsubscribe]
  | .parameters => wireParameterCallbacks
  | .assets => [.callback .fetchAsset]
  | .time | .services => []

namespace BridgeSetup

variable (σ : BridgeSetup w v)

/-- Clients of the transport are told of the capability. -/
def Advertises (isGateway : Bool) (capability : ServerCapability) : Prop :=
  if isGateway then
    ∃ setup flag, σ.gateway = some setup ∧ capability.onGateway = some flag ∧
      gateway.has setup.capabilities flag = true
  else server.has σ.server.capabilities capability = true

/-- The callbacks of the transport, of which a gateway that is not there has none. -/
def callbacks (isGateway : Bool) : List WiredCallback :=
  if isGateway then (σ.gateway.map TransportSetup.callbacks).getD [] else σ.server.callbacks

/-- What serves the capability apart from the transports' callbacks. -/
def part : ServerCapability → Bool
  | .parameters => σ.paramInterface && σ.paramWorker
  | .services => σ.servicesEnabled
  | .time => σ.clockSubscription
  | .clientPublish | .connectionGraph | .assets => true

/-- Each transport advertises what was asked for, what is advertised is served, and what is
not advertised is not wired, but for the connection graph on the WebSocket server. -/
structure Served (options : CapabilityOptions) : Prop where
  advertised : ∀ isGateway capability,
    σ.Advertises server gateway isGateway capability ↔
      options.Requested capability ∧
        (isGateway = true → options.remoteAccess = true ∧ capability ≠ .time)
  wired : ∀ isGateway capability, σ.Advertises server gateway isGateway capability →
    capability.callbacks ⊆ σ.callbacks isGateway ∧ σ.part capability = true
  notWired : ∀ isGateway capability, ¬ σ.Advertises server gateway isGateway capability →
    isGateway = true ∨ capability ≠ .connectionGraph →
      ∀ callback ∈ capability.callbacks, callback ∉ σ.callbacks isGateway
  parts : ∀ capability ∈ [ServerCapability.parameters, .services, .time],
    σ.part capability = true ↔ options.Requested capability

end BridgeSetup

/-! ## The flags hold what was listed -/

section
variable {server gateway}

theorem hasCapability_processCapabilities {names : List String} {c : ServerCapability} :
    hasCapability server (processCapabilities server names) c = true ↔
      ∃ name ∈ names, stringToCapability.lookup name = some c := by
  have hfold := server.has_foldl_add (stringToCapability.lookup ·) 0#w names c
  simpa [hasCapability, processCapabilities] using hfold

/-- No name stands for the time. -/
theorem lookup_ne_time (name : String) : stringToCapability.lookup name ≠ some .time := by
  intro h
  obtain ⟨before, after, hsplit, -⟩ := List.lookup_eq_some_iff.mp h
  have hmem : (name, ServerCapability.time) ∈ stringToCapability := by
    rw [hsplit]
    exact List.mem_append_right before List.mem_cons_self
  simp [stringToCapability] at hmem

theorem not_hasCapability_time (names : List String) :
    hasCapability server (processCapabilities server names) .time = false := by
  apply Bool.eq_false_iff.mpr
  intro h
  obtain ⟨name, -, hlookup⟩ := hasCapability_processCapabilities.mp h
  exact lookup_ne_time name hlookup

/-- A flag crosses to the gateway if and only if the server has it. -/
theorem has_toGatewayCapabilities {capabilities : BitVec w} {c : ServerCapability}
    {flag : GatewayCapability} (h : c.onGateway = some flag) :
    gateway.has (toGatewayCapabilities server gateway capabilities) flag = true ↔
      hasCapability server capabilities c = true := by
  simp only [toGatewayCapabilities, List.foldl_cons, List.foldl_nil, addGatewayCapability,
    Flags.has_add, Flags.has_zero]
  cases c <;> cases h <;> simp

variable (server) in
theorem requested_iff {options : CapabilityOptions} {c : ServerCapability} (h : c ≠ .time) :
    options.Requested c ↔
      hasCapability server (processCapabilities server options.capabilities) c = true := by
  rw [hasCapability_processCapabilities]
  cases c with
  | time => exact absurd rfl h
  | clientPublish | connectionGraph | parameters | services | assets => rfl

@[simp] theorem mem_wiredIf {condition : Bool} {callbacks : List WiredCallback}
    {callback : WiredCallback} :
    callback ∈ wiredIf condition callbacks ↔ condition = true ∧ callback ∈ callbacks := by
  cases condition <;> simp [wiredIf]

end

/-! ## What the transports are told -/

section
variable {server gateway} {options : CapabilityOptions} {c : ServerCapability}

/-- The flags of the server are those that were listed, and the time if it is simulated. -/
theorem server_advertises_iff :
    (bridgeSetup server gateway options).Advertises server gateway false c ↔
      options.Requested c := by
  show server.has (serverSetup server options _).capabilities c = true ↔ options.Requested c
  have hlisted : server.has (serverSetup server options
      (hasCapability server (processCapabilities server options.capabilities) .parameters)
        ).capabilities c = true ↔
      hasCapability server (processCapabilities server options.capabilities) c = true ∨
        options.useSimTime = true ∧ c = .time := by
    unfold serverSetup
    cases options.useSimTime with
    | false => simp [hasCapability]
    | true => simpa [hasCapability] using server.has_or _ c .time
  rw [hlisted]
  by_cases hc : c = .time
  · subst hc
    rw [not_hasCapability_time]
    simp [CapabilityOptions.Requested]
  · rw [requested_iff server hc]
    simp [hc]

theorem gateway_advertises_iff :
    (bridgeSetup server gateway options).Advertises server gateway true c ↔
      options.Requested c ∧ options.remoteAccess = true ∧ c ≠ .time := by
  show (∃ setup flag, (bridgeSetup server gateway options).gateway = some setup ∧
    c.onGateway = some flag ∧ gateway.has setup.capabilities flag = true) ↔ _
  constructor
  · rintro ⟨setup, flag, hsetup, hflag, hhas⟩
    obtain ⟨hremote, hset⟩ := Option.ite_none_right_eq_some.mp hsetup
    obtain rfl := Option.some.inj hset
    have hc : c ≠ .time := by
      rintro rfl
      cases hflag
    have hlisted := (has_toGatewayCapabilities hflag).mp hhas
    exact ⟨(requested_iff server hc).mpr hlisted, hremote, hc⟩
  · rintro ⟨hrequested, hremote, hc⟩
    have hlisted := (requested_iff server hc).mp hrequested
    have hflag : ∃ flag, c.onGateway = some flag := by
      cases c with
      | time => exact absurd rfl hc
      | clientPublish | connectionGraph | parameters | services | assets => exact ⟨_, rfl⟩
    obtain ⟨flag, hflag⟩ := hflag
    exact ⟨_, flag, if_pos hremote, hflag, (has_toGatewayCapabilities hflag).mpr hlisted⟩

/-! ## What the transports are given -/

variable {callback : WiredCallback} {capabilities : BitVec w} {paramBackend : Bool}

theorem mem_wireWebSocketCallbacks (h : callback ∈ c.callbacks) :
    callback ∈ wireWebSocketCallbacks server capabilities paramBackend ↔
      c = .connectionGraph ∨
        (c = .parameters → paramBackend = true) ∧ hasCapability server capabilities c = true := by
  cases c with
  | time | services => cases h
  | clientPublish | connectionGraph | parameters | assets =>
      simp only [ServerCapability.callbacks, wireParameterCallbacks, List.mem_cons,
        List.not_mem_nil, or_false] at h
      obtain rfl | rfl | rfl | rfl := h <;>
        simp [wireWebSocketCallbacks, wireParameterCallbacks]

theorem mem_wireGatewayCallbacks (h : callback ∈ c.callbacks) :
    callback ∈ wireGatewayCallbacks server capabilities paramBackend ↔
      (c = .parameters → paramBackend = true) ∧ hasCapability server capabilities c = true := by
  cases c with
  | time | services => cases h
  | clientPublish | connectionGraph | parameters | assets =>
      simp only [ServerCapability.callbacks, wireParameterCallbacks, List.mem_cons,
        List.not_mem_nil, or_false] at h
      obtain rfl | rfl | rfl | rfl := h <;>
        simp [wireGatewayCallbacks, wireParameterCallbacks]

/-- The callbacks of a capability are wired if it was asked for, and those of the graph on the
server in any case. -/
theorem mem_server_callbacks (h : callback ∈ c.callbacks) :
    callback ∈ (bridgeSetup server gateway options).callbacks false ↔
      c = .connectionGraph ∨ options.Requested c := by
  have hc : c ≠ .time := by
    rintro rfl
    cases h
  have hclient : callback ∉ wiredIf options.notifyClientCount
      [WiredCallback.onClientConnect, .onClientDisconnect] := by
    intro hmem
    obtain ⟨-, hcount⟩ := mem_wiredIf.mp hmem
    simp only [List.mem_cons, List.not_mem_nil, or_false] at hcount
    obtain rfl | rfl := hcount <;> cases c <;>
      simp [ServerCapability.callbacks, wireParameterCallbacks] at h
  show callback ∈ wiredIf options.notifyClientCount _ ++ wireWebSocketCallbacks server _ _ ↔ _
  rw [List.mem_append, or_iff_right hclient, mem_wireWebSocketCallbacks h,
    requested_iff server hc]
  apply or_congr_right
  constructor
  · intro hmem
    exact hmem.2
  · intro hhas
    refine ⟨?_, hhas⟩
    rintro rfl
    exact hhas

theorem mem_gateway_callbacks (h : callback ∈ c.callbacks) :
    callback ∈ (bridgeSetup server gateway options).callbacks true ↔
      options.Requested c ∧ options.remoteAccess = true := by
  have hc : c ≠ .time := by
    rintro rfl
    cases h
  rw [requested_iff server hc]
  cases hremote : options.remoteAccess with
  | false => simp [BridgeSetup.callbacks, bridgeSetup, hremote]
  | true =>
      have hcallbacks : (bridgeSetup server gateway options).callbacks true =
          (gatewaySetup server gateway options
            (hasCapability server (processCapabilities server options.capabilities)
              .parameters)).callbacks := by
        simp [BridgeSetup.callbacks, bridgeSetup, hremote]
      rw [hcallbacks, gatewaySetup, mem_wireGatewayCallbacks h]
      constructor
      · intro hmem
        exact ⟨hmem.2, rfl⟩
      · rintro ⟨hhas, -⟩
        refine ⟨?_, hhas⟩
        rintro rfl
        exact hhas

/-- The worker, the poll thread and the clock serve what was asked for. -/
theorem part_iff (h : c ∈ [ServerCapability.parameters, .services, .time]) :
    (bridgeSetup server gateway options).part c = true ↔ options.Requested c := by
  simp only [List.mem_cons, List.not_mem_nil, or_false] at h
  obtain rfl | rfl | rfl := h
  · rw [requested_iff server (by decide)]
    simp [bridgeSetup, BridgeSetup.part]
  · rw [requested_iff server (by decide)]
    rfl
  · rfl

theorem part_of_requested (h : options.Requested c) :
    (bridgeSetup server gateway options).part c = true := by
  cases c with
  | parameters | services | time => exact (part_iff (by decide)).mpr h
  | clientPublish | connectionGraph | assets => rfl

end

/-- **Capabilities are served.** For every list of names, with repetitions and unknown ones:
the server advertises the capabilities that were listed, and the time if it is simulated; the
gateway, if there is one, those that were listed. What a transport advertises has its
callbacks there, and the worker, the poll thread or the clock behind it. What it does not
advertise has none of its callbacks there, but for the connection graph on the server. -/
theorem capabilities_served (options : CapabilityOptions) :
    (bridgeSetup server gateway options).Served server gateway options where
  advertised := by
    intro isGateway c
    cases isGateway with
    | false => simpa using server_advertises_iff
    | true => simpa using gateway_advertises_iff
  wired := by
    intro isGateway c h
    cases isGateway with
    | false =>
        have hrequested := server_advertises_iff.mp h
        exact ⟨fun callback hmem => (mem_server_callbacks hmem).mpr (.inr hrequested),
          part_of_requested hrequested⟩
    | true =>
        obtain ⟨hrequested, hremote, -⟩ := gateway_advertises_iff.mp h
        exact ⟨fun callback hmem => (mem_gateway_callbacks hmem).mpr ⟨hrequested, hremote⟩,
          part_of_requested hrequested⟩
  notWired := by
    intro isGateway c h hgraph callback hmem hwired
    cases isGateway with
    | false =>
        obtain hc | hrequested := (mem_server_callbacks hmem).mp hwired
        · exact hgraph.elim Bool.false_ne_true (· hc)
        · exact h (server_advertises_iff.mpr hrequested)
    | true =>
        have hc : c ≠ .time := by
          rintro rfl
          cases hmem
        obtain ⟨hrequested, hremote⟩ := (mem_gateway_callbacks hmem).mp hwired
        exact h (gateway_advertises_iff.mpr ⟨hrequested, hremote, hc⟩)
  parts := fun _ h => part_iff h

/-- Distinct bits are flags. -/
theorem capabilities_served_assets :
    ∃ (server : Flags ServerCapability 6) (gateway : Flags GatewayCapability 5),
      let options : CapabilityOptions := ⟨["assets", "unknown", "assets"], false, false, true⟩
      let σ := bridgeSetup server gateway options
      σ.Served server gateway options ∧
        σ.Advertises server gateway true .assets ∧
        ¬ σ.Advertises server gateway true .parameters ∧
        σ.callbacks true =
          [.callback .onConnectionStatusChanged, .callback .onSubscribe,
            .callback .onUnsubscribe, .callback .qosClassifier,
            .callback .suppressVideoTranscode, .callback .pointCloudCompression,
            .callback .fetchAsset] := by
  let server : Flags ServerCapability 6 :=
    ⟨fun c => BitVec.twoPow 6 c.ctorIdx, by intro i; cases i <;> decide,
      by intro i j; cases i <;> cases j <;> decide⟩
  let gateway : Flags GatewayCapability 5 :=
    ⟨fun c => BitVec.twoPow 5 c.ctorIdx, by intro i; cases i <;> decide,
      by intro i j; cases i <;> cases j <;> decide⟩
  let options : CapabilityOptions := ⟨["assets", "unknown", "assets"], false, false, true⟩
  have hserved := capabilities_served server gateway options
  refine ⟨server, gateway, hserved, (hserved.advertised true .assets).mpr ?_, ?_, by decide⟩
  · exact ⟨⟨"assets", by decide, by decide⟩, fun _ => ⟨rfl, by decide⟩⟩
  · intro hadvertised
    obtain ⟨⟨name, hname, hlookup⟩, -⟩ := (hserved.advertised true .parameters).mp hadvertised
    have hnone : ∀ name ∈ options.capabilities,
        stringToCapability.lookup name ≠ some .parameters := by decide
    exact hnone name hname hlookup

/-! ## The order of the constructors -/

/-- The options of the start, as the list of capabilities sets them. -/
def CapabilityOptions.startup (options : CapabilityOptions) : StartupOptions where
  parameters :=
    hasCapability server (processCapabilities server options.capabilities) .parameters
  remoteAccess := options.remoteAccess
  useSimTime := options.useSimTime

/-- The statements of the constructors leave what `bridgeSetup` says: the components are
assigned and the threads started that it has. -/
theorem constructorSteps_agree (options : CapabilityOptions) :
    let steps := constructorSteps (options.startup server)
    let σ := bridgeSetup server gateway options
    (.assignParamInterface ∈ steps ↔ σ.paramInterface = true) ∧
      (.assignGateway ∈ steps ↔ σ.gateway.isSome = true) ∧
      (.startParamWorker ∈ steps ↔ σ.paramWorker = true) ∧
      (.subscribeClock ∈ steps ↔ σ.clockSubscription = true) := by
  intro steps σ
  have hmem : ∀ step, step ∈ steps ↔ step ∈ constructorSteps
      ⟨hasCapability server (processCapabilities server options.capabilities) .parameters,
        options.remoteAccess, options.useSimTime⟩ := fun _ => Iff.rfl
  simp only [hmem, σ, bridgeSetup, constructorSteps]
  cases hasCapability server (processCapabilities server options.capabilities) .parameters <;>
    cases options.remoteAccess <;> cases options.useSimTime <;> simp

end FoxgloveBridge
