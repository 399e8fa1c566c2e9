import FoxgloveBridge.Lib.Lists
import FoxgloveBridge.Param.OpQueue

/-!
# The order of the start

The constructors of `Ros1FoxgloveBridge` and `TransportManager`, one statement after the
other, against the callbacks that may come on other threads once a component is started: the
SDK calls back from the moment its `create` is entered, which is before the component's
pointer is assigned. A constructor that throws is a run that ends early.

What a callback does to the bridge is left out but for the pointers to components it follows.
The operations that are queued meanwhile are those of the operation queue, of which a worker
that is not started yet is one that has not taken its first step.

One callback follows a pointer that may not be assigned: the gateway's `onSubscribe`
(`startup_safe_iff`).
-/

namespace FoxgloveBridge

/-- The pointers to components. -/
inductive Component
  | paramInterface
  | server
  | gateway
  | transports
  deriving DecidableEq, Repr

/-- What the two constructors do, as far as other threads can tell. -/
inductive ConstructorStep
  /-- In the constructor of `Ros1ParameterInterface`: `paramUpdate` is served. -/
  | startXmlRpcServer
  | assignParamInterface
  /-- `WebSocketServer::create` is entered. -/
  | createServer
  | assignServer
  /-- `RemoteAccessGateway::create` is entered. -/
  | createGateway
  | assignGateway
  | startParamWorker
  | assignTransports
  | setParamUpdateCallback
  /-- The port is logged. -/
  | logPort
  | subscribeClock
  | startPollThread
  deriving DecidableEq, Repr

structure StartupOptions where
  /-- The `Parameters` capability is requested. -/
  parameters : Bool
  remoteAccess : Bool
  useSimTime : Bool
  deriving DecidableEq, Repr

/-- The constructors in the order of their statements. -/
def constructorSteps (options : StartupOptions) : List ConstructorStep :=
  let parameters := fun steps => if options.parameters then steps else []
  let remoteAccess := fun steps => if options.remoteAccess then steps else []
  let useSimTime := fun steps => if options.useSimTime then steps else []
  List.flatten
    [parameters [.startXmlRpcServer, .assignParamInterface],
      [.createServer, .assignServer],
      remoteAccess [.createGateway, .assignGateway],
      parameters [.startParamWorker],
      [.assignTransports],
      parameters [.setParamUpdateCallback],
      [.logPort],
      useSimTime [.subscribeClock],
      [.startPollThread]]

/-- The statement that assigns the pointer. -/
def Component.assignment : Component → ConstructorStep
  | .paramInterface => .assignParamInterface
  | .server => .assignServer
  | .gateway => .assignGateway
  | .transports => .assignTransports

/-! ## What follows a pointer -/

/-- Code that runs with the constructors as far as they are; it ends at a null pointer that it
follows. -/
abbrev StartM := ReaderT (List ConstructorStep) (Except Component)

namespace StartM

/-- `if (_component)`. -/
def isSet (component : Component) : StartM Bool :=
  return (← read).contains component.assignment

/-- `_component->`. -/
def follow (component : Component) : StartM Unit := do
  unless ← isSet component do
    throw component

/-- What the `TransportManager` does on the server, and on the gateway if there is one. -/
def onTransports : StartM Unit := do
  follow .server
  if ← isSet .gateway then
    follow .gateway

def publishParameterValues : StartM Unit := onTransports

def publishConnectionGraph : StartM Unit := onTransports

def addService : StartM Unit := onTransports

def removeService : StartM Unit := onTransports

def broadcastTime : StartM Unit := follow .server

def port : StartM Unit := follow .server

/-- `parameterUpdates`, with the callback it finds set or not. -/
def parameterUpdates : StartM Unit := do
  if (← read).contains .setParamUpdateCallback then
    follow .transports
    publishParameterValues

end StartM

open StartM

/-- The constructors' own accesses. -/
def ConstructorStep.code : ConstructorStep → StartM Unit
  | .logPort => do
      follow .transports
      port
  | _ => return

/-- What a transport may call back about, the parameters apart. -/
inductive TransportCallback
  | onConnectionGraphSubscribe
  | onConnectionGraphUnsubscribe
  | onSubscribe
  | onUnsubscribe
  | onClientAdvertise
  | onClientUnadvertise
  | onMessageData
  | fetchAsset
  | onConnectionStatusChanged
  | qosClassifier
  | suppressVideoTranscode
  | pointCloudCompression
  | serviceRequest
  deriving DecidableEq, Repr

/-- What the poll thread calls in a cycle. -/
inductive PollCallback
  | hasCapability
  | publishConnectionGraph
  | context
  | addService
  | removeService
  deriving DecidableEq, Repr

inductive StartupCallback
  | transport (isGateway : Bool) (callback : TransportCallback)
  /-- The master calls `paramUpdate`. -/
  | paramUpdate
  | clock
  | poll (callback : PollCallback)
  deriving DecidableEq, Repr

namespace StartupCallback

/-- The statement from which on the callback may come. -/
def source : StartupCallback → ConstructorStep
  | .transport false _ => .createServer
  | .transport true _ => .createGateway
  | .paramUpdate => .startXmlRpcServer
  | .clock => .subscribeClock
  | .poll _ => .startPollThread

def code : StartupCallback → StartM Unit
  -- the sink id is asked of the gateway
  | .transport true .onSubscribe => follow .gateway
  -- the others reach the tables of the bridge
  | .transport _ _ => return
  | .paramUpdate => parameterUpdates
  | .clock => do
      follow .transports
      broadcastTime
  | .poll callback => do
      follow .transports
      match callback with
      | .hasCapability | .context => return
      | .publishConnectionGraph => StartM.publishConnectionGraph
      | .addService => StartM.addService
      | .removeService => StartM.removeService

end StartupCallback

/-- The statement from which on a step of the queue may come; there is no `stop` yet. -/
def OpQueueAction.source : OpQueueAction → Option ConstructorStep
  | .call _ | .enqueue _ | .notifyOne _ | .dropArgument _ => some .createServer
  | .lock | .check | .wake | .handle _ | .endIteration => some .startParamWorker
  | .beginStop | .drain | .notifyAll | .join | .destroyDrained | .returnStop => none

/-- The worker's calls go to `_paramBackend`, which was initialized with `_paramInterface`. -/
def OpQueueAction.code : OpQueueAction → StartM Unit
  | .handle _ => follow .paramInterface
  | _ => return

/-! ## The start -/

structure StartupState where
  /-- The statements executed so far. -/
  done : List ConstructorStep
  rest : List ConstructorStep
  queue : OpQueueState
  /-- The null pointers that were followed. -/
  nulls : List Component

inductive StartupAction
  /-- The next statement of the constructors. -/
  | construct
  | callback (c : StartupCallback)
  | queue (a : OpQueueAction)

/-- The null pointer that the code follows, if it does. -/
def StartM.null (m : StartM Unit) (done : List ConstructorStep) : List Component :=
  match m done with
  | .ok () => []
  | .error component => [component]

namespace StartupState

variable (σ : StartupState)

def initial (options : StartupOptions) : StartupState where
  done := []
  rest := constructorSteps options
  queue := .initial
  nulls := []

def step : StartupAction → Option StartupState
  | .construct =>
      match σ.rest with
      | [] => none
      | next :: rest =>
          some { σ with
            done := σ.done ++ [next]
            rest := rest
            nulls := σ.nulls ++ next.code.null σ.done }
  | .callback c =>
      if c.source ∈ σ.done then some { σ with nulls := σ.nulls ++ c.code.null σ.done }
      else none
  | .queue a =>
      match a.source with
      | none => none
      | some source =>
          -- the parameter callbacks are wired if there is a backend
          if source ∈ σ.done ∧ .assignParamInterface ∈ σ.done then
            (σ.queue.step a).map fun queue =>
              { σ with queue := queue, nulls := σ.nulls ++ a.code.null σ.done }
          else none

end StartupState

def startupSystem : TSys StartupState StartupAction where
  init σ := ∃ options, σ = .initial options
  step := StartupState.step

/-- No null pointer was followed. The operations the queue accepted are, in their order, those
the worker took and those that are still there; none was refused; and a worker that waits
while there is one is about to be notified. -/
structure StartupState.Safe (σ : StartupState) : Prop where
  assigned : σ.nulls = []
  kept : σ.queue.enqueued = σ.queue.started ++ σ.queue.paramOpQueue
  accepted : σ.queue.dropping = []
  awake : σ.queue.worker = .waiting → σ.queue.paramOpQueue ≠ [] → σ.queue.notifying ≠ []

/-- It is the subscribe callback of the gateway. -/
def StartupAction.asksGateway : StartupAction → Bool
  | .callback (.transport true .onSubscribe) => true
  | _ => false

/-- The subscribe callback of the gateway comes when the pointer is assigned. -/
def GatewayAssigned (σ : StartupState) (a : StartupAction) : Prop :=
  a.asksGateway = true → .assignGateway ∈ σ.done

instance (σ : StartupState) (a : StartupAction) : Decidable (GatewayAssigned σ a) :=
  inferInstanceAs (Decidable (a.asksGateway = true → .assignGateway ∈ σ.done))

/-! ## The queue before `stop` -/

namespace OpQueueState

theorem finish_rest (σ : OpQueueState) (op : QueuedOp) (answers : Bool) :
    (σ.finish op answers).stop = σ.stop ∧ (σ.finish op answers).dropping = σ.dropping := by
  cases answers <;> exact ⟨rfl, rfl⟩

theorem handle_rest (σ : OpQueueState) (op : QueuedOp) (returns : Bool) :
    (σ.handle op returns).stop = σ.stop ∧ (σ.handle op returns).dropping = σ.dropping := by
  unfold handle
  split
  · exact finish_rest _ op returns
  · split
    · exact finish_rest _ op true
    · cases returns <;> exact ⟨rfl, rfl⟩
  · exact finish_rest _ op false
  · exact finish_rest _ op false

theorem check_rest (σ : OpQueueState) :
    σ.check.stop = σ.stop ∧ σ.check.dropping = σ.dropping := by
  unfold check
  split <;> exact ⟨rfl, rfl⟩

/-- Until `stop` is called, no operation is refused. -/
theorem step_before_stop {σ σ' : OpQueueState} {a : OpQueueAction} {source : ConstructorStep}
    (ha : a.source = some source) (hup : σ.paramOpShutdown = false) (hnone : σ.dropping = [])
    (hs : σ.step a = some σ') : σ'.stop = σ.stop ∧ σ'.dropping = [] := by
  cases a with
  | call op =>
      obtain rfl := Option.some.inj hs
      exact ⟨rfl, hnone⟩
  | enqueue position =>
      simp only [step, hup, Bool.false_eq_true, if_false] at hs
      split at hs
      · obtain ⟨-, hσ'⟩ := Option.ite_none_left_eq_some.mp hs
        obtain rfl := Option.some.inj hσ'
        exact ⟨rfl, hnone⟩
      · cases hs
  | notifyOne position =>
      obtain ⟨worker, hnotified⟩ := σ.notified_eq
      simp only [step, hnotified] at hs
      split at hs
      · obtain rfl := Option.some.inj hs
        exact ⟨rfl, hnone⟩
      · cases hs
  | dropArgument position =>
      simp only [step, hnone, List.getElem?_nil] at hs
      cases hs
  | lock | wake | endIteration =>
      simp only [step] at hs
      split at hs
      all_goals first
        | cases hs; exact ⟨rfl, hnone⟩
        | cases hs
  | check =>
      simp only [step] at hs
      split at hs
      · obtain rfl := Option.some.inj hs
        exact ⟨σ.check_rest.1, σ.check_rest.2.trans hnone⟩
      · cases hs
  | handle returns =>
      simp only [step] at hs
      split at hs
      · obtain rfl := Option.some.inj hs
        exact ⟨(σ.handle_rest _ returns).1, (σ.handle_rest _ returns).2.trans hnone⟩
      · obtain rfl := Option.some.inj hs
        exact ⟨(σ.finish_rest _ returns).1, (σ.finish_rest _ returns).2.trans hnone⟩
      · cases hs
  | beginStop | drain | notifyAll | join | destroyDrained | returnStop => cases ha

end OpQueueState

/-! ## The constructors as far as they are -/

section Order

variable {options : StartupOptions} {done : List ConstructorStep}

/-- The order of two statements, whatever the options. -/
theorem mem_of_before {first second : ConstructorStep}
    (hbefore : ∀ options, first ∈ (constructorSteps options).takeWhile (· ≠ second))
    (hdone : done <+: constructorSteps options) (h : second ∈ done) : first ∈ done :=
  List.mem_of_mem_takeWhile_ne hdone h (hbefore options)

theorem assignServer_mem (hdone : done <+: constructorSteps options)
    (h : .assignTransports ∈ done) : .assignServer ∈ done :=
  mem_of_before (by rintro ⟨_ | _, _ | _, _ | _⟩ <;> decide) hdone h

theorem assignTransports_mem {later : ConstructorStep}
    (hlater : later = .logPort ∨ later = .subscribeClock ∨ later = .startPollThread ∨
      later = .setParamUpdateCallback)
    (hdone : done <+: constructorSteps options) (h : later ∈ done) :
    .assignTransports ∈ done := by
  rcases hlater with rfl | rfl | rfl | rfl <;>
    exact mem_of_before (by rintro ⟨_ | _, _ | _, _ | _⟩ <;> decide) hdone h

end Order

namespace StartM

variable {done : List ConstructorStep}

theorem null_eq_nil_iff {m : StartM Unit} : m.null done = [] ↔ m done = .ok () := by
  unfold null
  cases m done with
  | ok a => exact iff_of_true rfl rfl
  | error component => exact iff_of_false nofun nofun

theorem bind_ok {α β : Type} {m : StartM α} {f : α → StartM β} {a : α} (h : m done = .ok a) :
    (m >>= f) done = f a done := by
  show (m done >>= fun a => f a done) = _
  rw [h]
  rfl

theorem follow_eq_ok_iff {component : Component} :
    follow component done = .ok () ↔ component.assignment ∈ done := by
  have hset : isSet component done = .ok (done.contains component.assignment) := rfl
  unfold follow
  rw [bind_ok hset]
  cases hmem : done.contains component.assignment with
  | true => exact iff_of_true rfl (List.contains_iff_mem.mp hmem)
  | false =>
      refine iff_of_false nofun fun h => ?_
      rw [List.contains_iff_mem.mpr h] at hmem
      cases hmem

theorem onTransports_ok (h : .assignServer ∈ done) : onTransports done = .ok () := by
  have hset : isSet .gateway done = .ok (done.contains .assignGateway) := rfl
  unfold onTransports
  rw [bind_ok (follow_eq_ok_iff.mpr h), bind_ok hset]
  by_cases hgateway : .assignGateway ∈ done
  · rw [List.contains_iff_mem.mpr hgateway]
    exact follow_eq_ok_iff.mpr hgateway
  · rw [Bool.eq_false_iff.mpr fun hc => hgateway (List.contains_iff_mem.mp hc)]
    rfl

theorem serverCall_ok (h : .assignServer ∈ done) :
    broadcastTime done = .ok () ∧ port done = .ok () :=
  ⟨follow_eq_ok_iff.mpr h, follow_eq_ok_iff.mpr h⟩

/-- Once the transports are assigned, whatever is done on them follows no null pointer. -/
theorem transports_ok {options : StartupOptions} {m : StartM Unit}
    (hdone : done <+: constructorSteps options) (h : .assignTransports ∈ done)
    (hm : .assignServer ∈ done → m done = .ok ()) :
    (do follow .transports; m : StartM Unit) done = .ok () := by
  rw [bind_ok (follow_eq_ok_iff.mpr h)]
  exact hm (assignServer_mem hdone h)

end StartM

section Code

variable {options : StartupOptions} {done : List ConstructorStep}

theorem ConstructorStep.code_ok {next : ConstructorStep} {rest : List ConstructorStep}
    (horder : done ++ next :: rest = constructorSteps options) : next.code done = .ok () := by
  cases next with
  | logPort =>
      have hdone : done <+: constructorSteps options := ⟨_, horder⟩
      have hnext : done ++ [.logPort] <+: constructorSteps options :=
        ⟨rest, by rw [List.append_assoc]; exact horder⟩
      have hmem := assignTransports_mem (.inl rfl) hnext (List.mem_append_right _
        (List.mem_singleton_self _))
      have htransports : .assignTransports ∈ done :=
        (List.mem_append.mp hmem).resolve_right (by simp)
      exact StartM.transports_ok hdone htransports fun hserver => (StartM.serverCall_ok hserver).2
  | _ => rfl

/-- Each callback follows assigned pointers only, but for the gateway's own. -/
theorem StartupCallback.code_ok_iff {c : StartupCallback} {σ : StartupState}
    (hdone : σ.done <+: constructorSteps options) (hsource : c.source ∈ σ.done) :
    c.code σ.done = .ok () ↔ GatewayAssigned σ (.callback c) := by
  cases c with
  | transport isGateway callback =>
      cases isGateway with
      | true =>
          cases callback with
          | onSubscribe =>
              exact ⟨fun hok _ => StartM.follow_eq_ok_iff.mp hok,
                fun hassigned => StartM.follow_eq_ok_iff.mpr (hassigned rfl)⟩
          | _ => exact iff_of_true rfl nofun
      | false => exact iff_of_true rfl nofun
  | paramUpdate =>
      refine iff_of_true ?_ nofun
      show StartM.parameterUpdates σ.done = .ok ()
      have hread : (read : StartM (List ConstructorStep)) σ.done = .ok σ.done := rfl
      unfold StartM.parameterUpdates
      rw [StartM.bind_ok hread]
      by_cases hset : .setParamUpdateCallback ∈ σ.done
      · rw [if_pos (List.contains_iff_mem.mpr hset)]
        have htransports := assignTransports_mem (.inr (.inr (.inr rfl))) hdone hset
        exact StartM.transports_ok hdone htransports StartM.onTransports_ok
      · rw [if_neg fun hc => hset (List.contains_iff_mem.mp hc)]
        rfl
  | clock =>
      have htransports := assignTransports_mem (.inr (.inl rfl)) hdone hsource
      refine iff_of_true (StartM.transports_ok hdone htransports fun hserver => ?_) nofun
      exact (StartM.serverCall_ok hserver).1
  | poll callback =>
      have htransports := assignTransports_mem (.inr (.inr (.inl rfl))) hdone hsource
      refine iff_of_true (StartM.transports_ok hdone htransports fun hserver => ?_) nofun
      cases callback with
      | hasCapability | context => rfl
      | publishConnectionGraph | addService | removeService => exact StartM.onTransports_ok hserver

/-- The worker finds its backend. -/
theorem OpQueueAction.code_ok (a : OpQueueAction) (h : .assignParamInterface ∈ done) :
    a.code done = .ok () := by
  cases a with
  | handle returns => exact StartM.follow_eq_ok_iff.mpr h
  | _ => rfl

end Code

/-! ## Every interleaving -/

/-- The statements come in their order, and the queue is one that nobody stops. -/
structure StartupState.Underway (options : StartupOptions) (σ : StartupState) : Prop where
  order : σ.done ++ σ.rest = constructorSteps options
  queue : opQueueSystem.Reachable σ.queue
  stop : σ.queue.stop = .notStarted
  dropping : σ.queue.dropping = []

namespace StartupState

variable {options : StartupOptions} {σ σ' : StartupState}

theorem Underway.initial (options : StartupOptions) :
    (StartupState.initial options).Underway options :=
  ⟨rfl, .init rfl, rfl, rfl⟩

theorem Underway.flag (h : σ.Underway options) : σ.queue.paramOpShutdown = false := by
  rw [(OpQueueState.Sound.of_reachable h.queue).ordered.flag, h.stop]
  rfl

/-- What the operation queue promises holds of it from the first callback on. -/
theorem Underway.safe_iff (h : σ.Underway options) : σ.Safe ↔ σ.nulls = [] := by
  have hordered := (OpQueueState.Sound.of_reachable h.queue).ordered
  constructor
  · intro hsafe
    exact hsafe.assigned
  · intro hnulls
    refine ⟨hnulls, ?_, h.dropping, (OpQueueState.woken_of_reachable h.queue).queue⟩
    rw [hordered.enqueued, hordered.abandoned h.flag, List.append_nil]

theorem Underway.step {a : StartupAction} (h : σ.Underway options) (hs : σ.step a = some σ') :
    σ'.Underway options ∧ (σ.Safe → (σ'.Safe ↔ GatewayAssigned σ a)) := by
  have hdone : σ.done <+: constructorSteps options := ⟨σ.rest, h.order⟩
  have hsafe : ∀ {τ : StartupState} {m : StartM Unit}, τ.Underway options →
      τ.nulls = σ.nulls ++ m.null σ.done →
      σ.Safe → (τ.Safe ↔ m σ.done = .ok ()) := by
    intro τ m hτ hnulls hσ
    rw [hτ.safe_iff, hnulls, hσ.assigned, List.nil_append, StartM.null_eq_nil_iff]
  cases a with
  | construct =>
      simp only [StartupState.step] at hs
      split at hs
      · cases hs
      · rename_i next rest hrest
        obtain rfl := Option.some.inj hs
        have horder := h.order
        rw [hrest] at horder
        have hunder : Underway options { σ with
            done := σ.done ++ [next]
            rest := rest
            nulls := σ.nulls ++ next.code.null σ.done } :=
          ⟨by rw [← horder, List.append_assoc]; rfl, h.queue, h.stop, h.dropping⟩
        refine ⟨hunder, fun hσ => (hsafe hunder rfl hσ).trans ?_⟩
        exact iff_of_true (ConstructorStep.code_ok horder) nofun
  | callback c =>
      obtain ⟨hsource, hσ'⟩ := Option.ite_none_right_eq_some.mp hs
      obtain rfl := Option.some.inj hσ'
      have hunder : Underway options { σ with nulls := σ.nulls ++ c.code.null σ.done } :=
        ⟨h.order, h.queue, h.stop, h.dropping⟩
      refine ⟨hunder, fun hσ => (hsafe hunder rfl hσ).trans ?_⟩
      exact StartupCallback.code_ok_iff hdone hsource
  | queue a =>
      simp only [StartupState.step] at hs
      split at hs
      · cases hs
      · rename_i source hsource
        obtain ⟨⟨-, hbackend⟩, hmap⟩ := Option.ite_none_right_eq_some.mp hs
        obtain ⟨queue, hqueue, rfl⟩ := Option.map_eq_some_iff.mp hmap
        obtain ⟨hstop, hdropping⟩ :=
          OpQueueState.step_before_stop hsource h.flag h.dropping hqueue
        have hunder : Underway options { σ with
            queue := queue, nulls := σ.nulls ++ a.code.null σ.done } :=
          ⟨h.order, h.queue.step hqueue, hstop.trans h.stop, hdropping⟩
        refine ⟨hunder, fun hσ => (hsafe hunder rfl hσ).trans ?_⟩
        exact iff_of_true (a.code_ok hbackend) nofun

end StartupState

/-- **Start-up order.** In every interleaving of the constructors with callbacks, no null
pointer is ever followed and no accepted operation is lost, if and only if the gateway
delivers no subscribe callback before its pointer is assigned. -/
theorem startup_safe_iff {options : StartupOptions} {schedule : List StartupAction}
    {σ : StartupState} (h : startupSystem.exec (.initial options) schedule = some σ) :
    (∀ done, done <+: schedule → ∀ τ, startupSystem.exec (.initial options) done = some τ →
        τ.Safe) ↔
      startupSystem.Guarded GatewayAssigned (.initial options) schedule := by
  have hunder := StartupState.Underway.initial options
  exact TSys.forall_exec_iff_guarded hunder (hunder.safe_iff.mpr rfl) h
    fun τ hτ a _ τ' hs => hτ.step hs

/-- All of it: parameters, remote access and simulated time. -/
def everything : StartupOptions := ⟨true, true, true⟩

/-- Parameters are requested of the server before the gateway is created; the worker takes
the request when it is started. -/
def requestedEarly : List StartupAction :=
  [.construct, .construct, .construct, .queue (.call (.get ["/rate"])), .queue (.enqueue 0),
    .queue (.notifyOne 0), .construct, .construct, .callback (.transport true .qosClassifier),
    .construct, .callback (.transport true .onSubscribe), .construct, .queue .lock,
    .queue .check, .queue (.handle true), .callback .paramUpdate, .construct, .construct,
    .callback .paramUpdate, .construct, .construct, .construct, .callback .clock,
    .callback (.poll .addService)]

theorem startup_safe_requestedEarly :
    ∃ σ, startupSystem.exec (.initial everything) requestedEarly = some σ ∧ σ.Safe := by
  have hexec : startupSystem.exec (.initial everything) requestedEarly = some _ := rfl
  have hsafe := (startup_safe_iff hexec).mpr (by decide)
  exact ⟨_, hexec, hsafe requestedEarly List.prefix_rfl _ hexec⟩

/-- The gateway calls back about the first subscription while it is created. -/
def subscribedEarly : List StartupAction :=
  [.construct, .construct, .construct, .construct, .construct,
    .callback (.transport true .onSubscribe)]

theorem not_safe_subscribedEarly : ∃ σ,
    startupSystem.exec (.initial everything) subscribedEarly = some σ ∧
      σ.nulls = [.gateway] ∧ ¬ σ.Safe := by
  refine ⟨_, rfl, rfl, fun hsafe => ?_⟩
  have hassigned := hsafe.assigned
  cases hassigned

end FoxgloveBridge
