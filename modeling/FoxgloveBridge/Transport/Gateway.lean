import FoxgloveBridge.Bridge.ClientPublish

/-!
# The callbacks of the remote access gateway

The callbacks that `createGateway` registers, each a call of the bridge with something around
it: what the bridge does to its tables, and which exceptions of it leave the callback. Calls
of roscpp may throw, at the place where they stand in the bridge's code. Other threads may
change the tables between two callbacks in any way.

A call that throws leaves the tables as they were, wherever it throws, so a run is what it is
without the calls that threw (`exec_surviving`). The exceptions are caught in three of the
callbacks only; one that leaves another is the one of roscpp's `subscribe`
(`gateway_contained_iff`).
-/

namespace FoxgloveBridge

/-- What `subscribe` of roscpp comes to. -/
inductive SubscribeOutcome
  | created (serial : Nat)
  | threw (what : String)
  deriving DecidableEq, Repr

/-- `what()` of an exception. -/
def ClientCallError.what : ClientCallError → String
  | .clientChannelError text => text
  | .rosException what => what

/-- What the callbacks reach. -/
structure GatewayState where
  tables : Tables
  clients : ClientTables
  /-- `_graphSubscriptionCount`. -/
  graphSubscriptionCount : Int

/-- Code of the bridge that may throw. What it did to the tables before that stays done. -/
abbrev GatewayM := ExceptT ClientCallError (StateM GatewayState)

namespace GatewayM

variable {α β : Type}

def on (m : GatewayM α) (σ : GatewayState) : Except ClientCallError α × GatewayState :=
  StateT.run (ExceptT.run m) σ

/-- Code under `_clientAdvertisementsMutex`. -/
def ofClients (m : ClientM α) : GatewayM α :=
  ExceptT.mk do
    let σ ← get
    let (result, clients) := m.on σ.clients
    set { σ with clients := clients }
    return result

end GatewayM

/-! ## The bridge -/

namespace GatewayM

/-- `_subscriptions.emplace`, or the update of an entry. -/
def setSubscription (channelId : ChannelId) (sub : ChannelSubscription) : GatewayM Unit :=
  modify fun σ => { σ with
    tables := { σ.tables with
      subscriptions := σ.tables.subscriptions.insert channelId sub } }

/-- `onSubscribe`, with the messages it replays. -/
def onSubscribe (channelId : ChannelId) (clientId : ClientId) (isGateway : Bool)
    (sinkId : Option SinkId) (outcome : SubscribeOutcome) : GatewayM (List ChannelLog) := do
  let tables := (← get).tables
  match tables.channels.lookup channelId with
  | none => return []
  | some channel =>
      match tables.subscriptions.lookup channelId with
      | none =>
          match outcome with
          | .threw what => throw (.rosException what)
          | .created serial =>
              let channelSub := ChannelSubscription.empty ⟨serial, channelId, channel.topic⟩
              setSubscription channelId channelSub
              setSubscription channelId (channelSub.insertClient clientId isGateway)
              return []
      | some sub =>
          let replayed : List ChannelLog :=
            match sinkId with
            | none => []
            | some sink =>
                sub.latchedMessages.map fun (_, cached) =>
                  ⟨channelId, cached.data, cached.timestamp, some sink⟩
          setSubscription channelId (sub.insertClient clientId isGateway)
          return replayed

/-- `onUnsubscribe`, with the subscription it releases. -/
def onUnsubscribe (channelId : ChannelId) (clientId : ClientId) (isGateway : Bool) :
    GatewayM (Option ChannelSubscription) := do
  let σ ← get
  let (tables, released) := σ.tables.onUnsubscribe channelId clientId isGateway
  set { σ with tables := tables }
  return released

/-- `onClientMessage`: what is published, after the locked section, on the copied handle. -/
def onClientMessage (clientChannelId : ChannelId) (clientId : ClientId) (isGateway : Bool)
    (data : List UInt8) (publishThrows : Option String) : GatewayM (Option Publication) := do
  let (publisher, message) ←
    ofClients (FoxgloveBridge.onClientMessage clientChannelId clientId isGateway data)
  match publishThrows with
  | some what => throw (.rosException what)
  | none => return publisher.publish message

def onConnectionGraphSubscribe (subscribe : Bool) : GatewayM Unit := do
  let count := (← get).graphSubscriptionCount
  if subscribe then
    modify fun σ => { σ with graphSubscriptionCount := σ.graphSubscriptionCount + 1 }
    ofClients pokePoll
  else
    modify fun σ => { σ with graphSubscriptionCount := σ.graphSubscriptionCount - 1 }
    if count ≤ 0 then
      modify fun σ => { σ with graphSubscriptionCount := σ.graphSubscriptionCount + 1 }

end GatewayM

/-! ## The callbacks -/

/-- A callback that the gateway delivers, with what roscpp and the description provider
answer in it. -/
inductive GatewayCallback
  | onSubscribe (channelId : ChannelId) (topic : String) (clientId : ClientId)
      (sinkId : Option SinkId) (outcome : SubscribeOutcome)
  | onUnsubscribe (channelId : ChannelId) (clientId : ClientId)
  | onClientAdvertise (channel : ClientChannelInfo) (clientId : ClientId)
      (description : Option MessageDescription) (outcome : AdvertiseOutcome)
  | onClientUnadvertise (clientChannelId : ChannelId) (clientId : ClientId)
  | onMessageData (clientChannelId : ChannelId) (clientId : ClientId) (data : List UInt8)
      (publishThrows : Option String)
  | onConnectionGraphSubscribe
  | onConnectionGraphUnsubscribe

/-- What a callback comes to. The lines stay logged when an exception leaves it. -/
structure CallbackRun where
  lines : List String
  /-- What the gateway gets: a return, or the exception that leaves the callback. -/
  result : Except ClientCallError Unit
  after : GatewayState

/-- The lines, and behind them a call with nothing around it. -/
def GatewayM.bare (lines : List String) (m : GatewayM Unit) (σ : GatewayState) : CallbackRun :=
  ⟨lines, (m.on σ).1, (m.on σ).2⟩

/-- `try { ... } catch (const std::exception& ex)`, with the line that is logged. -/
def GatewayM.caught (failure : String) (m : GatewayM Unit) (σ : GatewayState) : CallbackRun :=
  match m.on σ with
  | (.ok _, after) => ⟨[], .ok (), after⟩
  | (.error ex, after) => ⟨["Gateway: " ++ failure ++ ": " ++ ex.what], .ok (), after⟩

namespace GatewayCallback

/-- The call of the bridge in the callback. -/
def delegate : GatewayCallback → GatewayM Unit
  | .onSubscribe channelId _ clientId sinkId outcome =>
      discard (GatewayM.onSubscribe channelId clientId true sinkId outcome)
  | .onUnsubscribe channelId clientId =>
      discard (GatewayM.onUnsubscribe channelId clientId true)
  | .onClientAdvertise channel clientId description outcome =>
      .ofClients (FoxgloveBridge.onClientAdvertise channel clientId true description outcome)
  | .onClientUnadvertise clientChannelId clientId =>
      .ofClients (FoxgloveBridge.onClientUnadvertise clientChannelId clientId true)
  | .onMessageData clientChannelId clientId data publishThrows =>
      discard (GatewayM.onClientMessage clientChannelId clientId true data publishThrows)
  | .onConnectionGraphSubscribe => GatewayM.onConnectionGraphSubscribe true
  | .onConnectionGraphUnsubscribe => GatewayM.onConnectionGraphSubscribe false

/-- The warning of the subscribe callback. -/
def noSinkId (channelId : ChannelId) (topic : String) (clientId : ClientId) : String :=
  "Gateway: subscribe request for channel " ++ toString channelId ++ " (\"" ++ topic ++
    "\") from client " ++ toString clientId ++
    " but gateway session has no sink ID (reconnecting?); " ++
    "cached transient_local messages will not be replayed"

/-- The callback as it is registered. -/
def registered (callback : GatewayCallback) : GatewayState → CallbackRun :=
  match callback with
  | .onSubscribe channelId topic clientId sinkId _ =>
      -- the warning is out before the bridge is called
      let lines := if sinkId.isNone then [noSinkId channelId topic clientId] else []
      GatewayM.bare lines callback.delegate
  | .onClientAdvertise .. => GatewayM.caught "client advertise failed" callback.delegate
  | .onClientUnadvertise .. => GatewayM.caught "client unadvertise failed" callback.delegate
  | .onMessageData .. => GatewayM.caught "client message failed" callback.delegate
  | .onUnsubscribe .. | .onConnectionGraphSubscribe | .onConnectionGraphUnsubscribe =>
      GatewayM.bare [] callback.delegate

/-- The call of the bridge throws. -/
def throws (callback : GatewayCallback) (σ : GatewayState) : Bool :=
  match (callback.delegate.on σ).1 with
  | .ok _ => false
  | .error _ => true

/-- No exception leaves the callback, and where the bridge threw one the tables are as they
were. -/
structure ContainedAt (callback : GatewayCallback) (σ : GatewayState) : Prop where
  contained : ∀ ex, (callback.registered σ).result ≠ .error ex
  atomic : callback.throws σ = true → (callback.registered σ).after = σ

/-- The first subscriber of an open channel comes while roscpp's `subscribe` throws. -/
def SubscribeThrows : GatewayCallback → GatewayState → Prop
  | .onSubscribe channelId _ _ _ (.threw _), σ =>
      (σ.tables.channels.lookup channelId).isSome = true ∧
        σ.tables.subscriptions.lookup channelId = none
  | _, _ => False

end GatewayCallback

inductive GatewayAction
  | callback (c : GatewayCallback)
  /-- Other threads change what the callbacks reach. -/
  | elsewhere (after : GatewayState)

/-- What an action does to what the callbacks reach. -/
def GatewayAction.next : GatewayAction → GatewayState → GatewayState
  | .callback c, σ => (c.registered σ).after
  | .elsewhere after, _ => after

/-- The gateway delivers its callbacks one after the other, to whatever tables there are. -/
def gatewaySystem : TSys GatewayState GatewayAction where
  init _ := True
  step σ a := some (a.next σ)

/-! ## What the calls come to -/

namespace GatewayM

variable {α β : Type} (σ : GatewayState)

@[simp] theorem on_pure (a : α) : GatewayM.on (pure a) σ = (.ok a, σ) := rfl

@[simp] theorem on_throw (ex : ClientCallError) :
    GatewayM.on (throw ex : GatewayM α) σ = (.error ex, σ) := rfl

theorem on_bind (m : GatewayM α) (f : α → GatewayM β) :
    GatewayM.on (m >>= f) σ =
      match GatewayM.on m σ with
      | (.ok a, σ) => GatewayM.on (f a) σ
      | (.error ex, σ) => (.error ex, σ) := by
  unfold GatewayM.on
  simp only [ExceptT.run_bind, StateT.run_bind]
  rcases StateT.run (ExceptT.run m) σ with ⟨_ | _, _⟩ <;> rfl

theorem on_discard (m : GatewayM α) :
    GatewayM.on (discard m) σ =
      ((GatewayM.on m σ).1.map fun _ => PUnit.unit, (GatewayM.on m σ).2) := by
  show GatewayM.on (m >>= fun _ => pure PUnit.unit) σ = _
  rw [on_bind]
  rcases GatewayM.on m σ with ⟨_ | _, _⟩ <;> rfl

@[simp] theorem on_get_bind (f : GatewayState → GatewayM α) :
    GatewayM.on (get >>= f) σ = GatewayM.on (f σ) σ := rfl

theorem on_ofClients (m : ClientM α) :
    (ofClients m).on σ = ((m.on σ.clients).1, { σ with clients := (m.on σ.clients).2 }) := rfl

/-- A catch clause lets nothing out, and undoes nothing. -/
theorem caught_result (failure : String) (m : GatewayM Unit) :
    (m.caught failure σ).result = .ok () := by
  unfold caught
  rcases m.on σ with ⟨_ | _, _⟩ <;> rfl

theorem caught_after (failure : String) (m : GatewayM Unit) :
    (m.caught failure σ).after = (m.on σ).2 := by
  unfold caught
  rcases m.on σ with ⟨_ | _, _⟩ <;> rfl

/-- Nothing is left behind by a call that throws. -/
def Atomic (m : GatewayM α) : Prop :=
  ∀ σ ex, (m.on σ).1 = .error ex → (m.on σ).2 = σ

variable {σ}

theorem Atomic.of_ok {m : GatewayM α} (h : ∀ σ, ∃ a, (m.on σ).1 = .ok a) : m.Atomic := by
  intro σ ex hex
  obtain ⟨a, ha⟩ := h σ
  rw [ha] at hex
  cases hex

theorem Atomic.discard {m : GatewayM α} (h : m.Atomic) :
    GatewayM.Atomic (Functor.discard m) := by
  intro σ ex hex
  rw [on_discard] at hex ⊢
  refine h σ ex ?_
  cases hresult : (m.on σ).1 with
  | ok a => rw [hresult] at hex; cases hex
  | error ex' =>
      rw [hresult] at hex
      exact congrArg Except.error (Except.error.inj hex)

/-- Each call of the client publishers is atomic by what it comes to. -/
theorem Atomic.ofClients {m : ClientM α}
    (h : ∀ tables error, (m.on tables).1 = .error error → (m.on tables).2 = tables) :
    (ofClients m).Atomic := by
  intro σ ex hex
  rw [on_ofClients] at hex ⊢
  rw [h σ.clients ex hex]

@[simp] theorem on_setSubscription_bind (channelId : ChannelId) (sub : ChannelSubscription)
    (f : Unit → GatewayM α) :
    GatewayM.on (setSubscription channelId sub >>= f) σ = GatewayM.on (f ()) { σ with
      tables := { σ.tables with
        subscriptions := σ.tables.subscriptions.insert channelId sub } } := rfl

/-- roscpp's `subscribe` stands before the first update of the tables. -/
theorem onSubscribe_threw {channelId : ChannelId} {channel : RawChannel}
    (hchannel : σ.tables.channels.lookup channelId = some channel)
    (hsub : σ.tables.subscriptions.lookup channelId = none) (clientId : ClientId)
    (isGateway : Bool) (sinkId : Option SinkId) (what : String) :
    (onSubscribe channelId clientId isGateway sinkId (.threw what)).on σ =
      (.error (.rosException what), σ) := by
  simp only [onSubscribe, on_get_bind, hchannel, hsub, on_throw]

/-- Where it does not throw, the tables become those of the locked section. -/
theorem onSubscribe_eq {channelId : ChannelId} {outcome : SubscribeOutcome} (serial : Nat)
    (h : σ.tables.channels.lookup channelId = none ∨
      (σ.tables.subscriptions.lookup channelId).isSome = true ∨ outcome = .created serial)
    (clientId : ClientId) (isGateway : Bool) (sinkId : Option SinkId) :
    (onSubscribe channelId clientId isGateway sinkId outcome).on σ =
      (.ok (σ.tables.onSubscribe channelId clientId isGateway sinkId serial).2,
        { σ with
          tables := (σ.tables.onSubscribe channelId clientId isGateway sinkId serial).1 }) := by
  cases hchannel : σ.tables.channels.lookup channelId with
  | none => simp only [onSubscribe, on_get_bind, hchannel, on_pure, Tables.onSubscribe]
  | some channel =>
      cases hsub : σ.tables.subscriptions.lookup channelId with
      | some sub =>
          -- with or without a sink to replay to
          cases sinkId <;>
            simp only [onSubscribe, on_get_bind, hchannel, hsub, on_setSubscription_bind, on_pure,
              Tables.onSubscribe]
      | none =>
          obtain rfl : outcome = .created serial := by
            rcases h with hnone | hsome | hcreated
            · rw [hchannel] at hnone; cases hnone
            · rw [hsub] at hsome; cases hsome
            · exact hcreated
          simp only [onSubscribe, on_get_bind, hchannel, hsub, on_setSubscription_bind, on_pure,
            Tables.onSubscribe, AList.insert_insert]

theorem onUnsubscribe_eq (channelId : ChannelId) (clientId : ClientId) (isGateway : Bool) :
    (onUnsubscribe channelId clientId isGateway).on σ =
      (.ok (σ.tables.onUnsubscribe channelId clientId isGateway).2,
        { σ with tables := (σ.tables.onUnsubscribe channelId clientId isGateway).1 }) := rfl

theorem onConnectionGraphSubscribe_ok (subscribe : Bool) :
    ∃ a, ((onConnectionGraphSubscribe subscribe).on σ).1 = .ok a := by
  cases subscribe with
  | true => exact ⟨_, rfl⟩
  | false =>
      unfold onConnectionGraphSubscribe
      rw [on_get_bind, if_neg Bool.false_ne_true]
      by_cases hcount : σ.graphSubscriptionCount ≤ 0
      · rw [if_pos hcount]
        exact ⟨_, rfl⟩
      · rw [if_neg hcount]
        exact ⟨_, rfl⟩

end GatewayM

/-! ## Where the bridge throws -/

theorem onClientAdvertise_atomic (channel : ClientChannelInfo) (clientId : ClientId)
    (isGateway : Bool) (description : Option MessageDescription) (outcome : AdvertiseOutcome)
    (tables : ClientTables) (error : ClientCallError)
    (h : ((onClientAdvertise channel clientId isGateway description outcome).on tables).1 =
      .error error) :
    ((onClientAdvertise channel clientId isGateway description outcome).on tables).2 =
      tables := by
  by_cases haccepts : tables.held ⟨channel.id, clientId, isGateway⟩ = none ∧
      (ClientCall.entry tables.subscriptionQueueLength
        (.advertise channel clientId isGateway description outcome)).isSome = true
  · obtain ⟨hfree, hsome⟩ := haccepts
    obtain ⟨ad, hentry⟩ := Option.isSome_iff_exists.mp hsome
    rw [onClientAdvertise_accepts hfree hentry] at h
    cases h
  · have hrejected : (tables.held ⟨channel.id, clientId, isGateway⟩).isSome = true ∨
        ClientCall.entry tables.subscriptionQueueLength
          (.advertise channel clientId isGateway description outcome) = none := by
      by_contra hnot
      rw [not_or, Option.not_isSome_iff_eq_none, ← ne_eq, ← Option.isSome_iff_ne_none] at hnot
      exact haccepts hnot
    obtain ⟨_, hrejects⟩ := onClientAdvertise_rejects channel clientId isGateway description
      outcome _ tables.subscriptionQueueLength hrejected
    rw [hrejects tables rfl]

theorem onClientUnadvertise_atomic (clientChannelId : ChannelId) (clientId : ClientId)
    (isGateway : Bool) (tables : ClientTables) (error : ClientCallError)
    (h : ((onClientUnadvertise clientChannelId clientId isGateway).on tables).1 =
      .error error) :
    ((onClientUnadvertise clientChannelId clientId isGateway).on tables).2 = tables := by
  cases hheld : tables.held ⟨clientChannelId, clientId, isGateway⟩ with
  | none =>
      obtain ⟨_, hrejects⟩ := onClientUnadvertise_rejects clientChannelId clientId isGateway
      rw [hrejects tables hheld]
  | some ad =>
      rw [onClientUnadvertise_accepts hheld] at h
      cases h

/-- A message changes no table, whether it is published or not. -/
theorem onClientMessage_tables (clientChannelId : ChannelId) (clientId : ClientId)
    (isGateway : Bool) (data : List UInt8) (tables : ClientTables) :
    ((onClientMessage clientChannelId clientId isGateway data).on tables).2 = tables := by
  cases hheld : tables.held ⟨clientChannelId, clientId, isGateway⟩ with
  | none =>
      obtain ⟨_, hrejects⟩ := onClientMessage_rejects clientChannelId clientId isGateway data
      rw [hrejects tables hheld]
  | some ad => rw [onClientMessage_accepts data hheld]

theorem GatewayM.onClientMessage_state (clientChannelId : ChannelId) (clientId : ClientId)
    (isGateway : Bool) (data : List UInt8) (publishThrows : Option String)
    (σ : GatewayState) :
    ((GatewayM.onClientMessage clientChannelId clientId isGateway data publishThrows).on σ).2 =
      σ := by
  unfold GatewayM.onClientMessage
  rw [GatewayM.on_bind, GatewayM.on_ofClients, onClientMessage_tables]
  rcases ((FoxgloveBridge.onClientMessage clientChannelId clientId isGateway data).on
    σ.clients).1 with _ | ⟨publisher, message⟩
  · rfl
  · cases publishThrows <;> rfl

namespace GatewayCallback

variable {callback : GatewayCallback} {σ : GatewayState}

theorem throws_eq_true_iff :
    callback.throws σ = true ↔ ∃ ex, (callback.delegate.on σ).1 = .error ex := by
  unfold throws
  cases (callback.delegate.on σ).1 with
  | ok a => exact iff_of_false Bool.false_ne_true (by rintro ⟨ex, hex⟩; cases hex)
  | error ex => exact iff_of_true rfl ⟨ex, rfl⟩

/-- The subscribe callback: roscpp throws and nothing has changed yet, or nothing throws. -/
theorem delegate_onSubscribe (channelId : ChannelId) (topic : String) (clientId : ClientId)
    (sinkId : Option SinkId) (outcome : SubscribeOutcome) (σ : GatewayState) :
    let callback := GatewayCallback.onSubscribe channelId topic clientId sinkId outcome
    (callback.SubscribeThrows σ ∧ ∃ ex, callback.delegate.on σ = (.error ex, σ)) ∨
      (¬ callback.SubscribeThrows σ ∧ ∃ a, (callback.delegate.on σ).1 = .ok a) := by
  intro callback
  have hok : ∀ serial, (σ.tables.channels.lookup channelId = none ∨
      (σ.tables.subscriptions.lookup channelId).isSome = true ∨ outcome = .created serial) →
      ∃ a, (callback.delegate.on σ).1 = .ok a := by
    intro serial h
    show ∃ a, (GatewayM.on (discard _) σ).1 = .ok a
    rw [GatewayM.on_discard, GatewayM.onSubscribe_eq serial h]
    exact ⟨_, rfl⟩
  cases outcome with
  | created serial => exact .inr ⟨id, hok serial (.inr (.inr rfl))⟩
  | threw what =>
      cases hchannel : σ.tables.channels.lookup channelId with
      | none =>
          refine .inr ⟨?_, hok 0 (.inl hchannel)⟩
          rintro ⟨hsome, -⟩
          rw [hchannel] at hsome
          cases hsome
      | some channel =>
          cases hsub : σ.tables.subscriptions.lookup channelId with
          | some sub =>
              refine .inr ⟨?_, hok 0 (.inr (.inl (by rw [hsub]; rfl)))⟩
              rintro ⟨-, hnone⟩
              rw [hsub] at hnone
              cases hnone
          | none =>
              refine .inl ⟨⟨by rw [hchannel]; rfl, hsub⟩, .rosException what, ?_⟩
              show GatewayM.on (discard _) σ = _
              rw [GatewayM.on_discard, GatewayM.onSubscribe_threw hchannel hsub]
              rfl

theorem delegate_onUnsubscribe (channelId : ChannelId) (clientId : ClientId)
    (σ : GatewayState) :
    ∃ a, ((GatewayCallback.onUnsubscribe channelId clientId).delegate.on σ).1 = .ok a := by
  show ∃ a, (GatewayM.on (discard _) σ).1 = .ok a
  rw [GatewayM.on_discard, GatewayM.onUnsubscribe_eq]
  exact ⟨_, rfl⟩

/-- Wherever a call of roscpp throws, the bridge has not changed anything yet. -/
theorem delegate_atomic (callback : GatewayCallback) : callback.delegate.Atomic := by
  cases callback with
  | onSubscribe channelId topic clientId sinkId outcome =>
      intro σ ex hex
      rcases delegate_onSubscribe channelId topic clientId sinkId outcome σ with
        ⟨-, ex', hthrew⟩ | ⟨-, a, hok⟩
      · rw [hthrew]
      · rw [hok] at hex
        cases hex
  | onUnsubscribe channelId clientId => exact .of_ok (delegate_onUnsubscribe channelId clientId)
  | onClientAdvertise channel clientId description outcome =>
      exact .ofClients (onClientAdvertise_atomic channel clientId true description outcome)
  | onClientUnadvertise clientChannelId clientId =>
      exact .ofClients (onClientUnadvertise_atomic clientChannelId clientId true)
  | onMessageData clientChannelId clientId data publishThrows =>
      exact .discard fun σ _ _ => GatewayM.onClientMessage_state _ _ _ _ _ σ
  | onConnectionGraphSubscribe =>
      exact .of_ok fun σ => GatewayM.onConnectionGraphSubscribe_ok true
  | onConnectionGraphUnsubscribe =>
      exact .of_ok fun σ => GatewayM.onConnectionGraphSubscribe_ok false

/-! ## What leaves a callback -/

/-- The callbacks that catch what the bridge throws. -/
def catches : GatewayCallback → Bool
  | .onClientAdvertise .. | .onClientUnadvertise .. | .onMessageData .. => true
  | .onSubscribe .. | .onUnsubscribe .. | .onConnectionGraphSubscribe
  | .onConnectionGraphUnsubscribe => false

/-- A callback leaves behind what the call of the bridge left behind. -/
theorem registered_after (callback : GatewayCallback) (σ : GatewayState) :
    (callback.registered σ).after = (callback.delegate.on σ).2 := by
  cases callback with
  | onSubscribe | onUnsubscribe | onConnectionGraphSubscribe | onConnectionGraphUnsubscribe =>
      rfl
  | onClientAdvertise | onClientUnadvertise | onMessageData =>
      exact GatewayM.caught_after σ _ _

/-- An exception leaves a callback that does not catch it. -/
theorem registered_error_iff (callback : GatewayCallback) (σ : GatewayState) :
    (∃ ex, (callback.registered σ).result = .error ex) ↔
      callback.catches = false ∧ callback.throws σ = true := by
  have hcaught : ∀ (failure : String) (m : GatewayM Unit),
      ¬ ∃ ex, (m.caught failure σ).result = .error ex := by
    rintro failure m ⟨ex, hex⟩
    rw [GatewayM.caught_result] at hex
    cases hex
  rw [throws_eq_true_iff]
  cases callback with
  | onSubscribe | onUnsubscribe | onConnectionGraphSubscribe | onConnectionGraphUnsubscribe =>
      exact (and_iff_right rfl).symm
  | onClientAdvertise | onClientUnadvertise | onMessageData =>
      exact iff_of_false (hcaught _ _) fun h => Bool.noConfusion h.1

/-- Of the callbacks that catch nothing, the first subscription of a channel is the one that
can throw. -/
theorem subscribeThrows_iff (callback : GatewayCallback) (σ : GatewayState) :
    callback.SubscribeThrows σ ↔ callback.catches = false ∧ callback.throws σ = true := by
  have hquiet : (∃ a, (callback.delegate.on σ).1 = .ok a) → ¬ callback.throws σ = true := by
    rintro ⟨a, ha⟩ hthrows
    rw [throws, ha] at hthrows
    cases hthrows
  cases callback with
  | onSubscribe channelId topic clientId sinkId outcome =>
      rcases delegate_onSubscribe channelId topic clientId sinkId outcome σ with
        ⟨hsubscribe, ex, hthrew⟩ | ⟨hnot, hok⟩
      · exact iff_of_true hsubscribe ⟨rfl, throws_eq_true_iff.mpr ⟨ex, by rw [hthrew]⟩⟩
      · exact iff_of_false hnot fun h => hquiet hok h.2
  | onUnsubscribe channelId clientId =>
      exact iff_of_false id fun h => hquiet (delegate_onUnsubscribe channelId clientId σ) h.2
  | onConnectionGraphSubscribe =>
      exact iff_of_false id fun h => hquiet (GatewayM.onConnectionGraphSubscribe_ok true) h.2
  | onConnectionGraphUnsubscribe =>
      exact iff_of_false id fun h => hquiet (GatewayM.onConnectionGraphSubscribe_ok false) h.2
  | onClientAdvertise | onClientUnadvertise | onMessageData =>
      exact iff_of_false id fun h => Bool.noConfusion h.1

/-- A callback contains what the bridge throws except where `subscribe` does. -/
theorem containedAt_iff (callback : GatewayCallback) (σ : GatewayState) :
    callback.ContainedAt σ ↔ ¬ callback.SubscribeThrows σ := by
  rw [subscribeThrows_iff, ← registered_error_iff, not_exists]
  constructor
  · intro h
    exact h.contained
  · intro h
    refine ⟨h, fun hthrows => ?_⟩
    obtain ⟨ex, hex⟩ := throws_eq_true_iff.mp hthrows
    rw [registered_after]
    exact callback.delegate_atomic σ ex hex

end GatewayCallback

/-! ## Runs -/

/-- The action is a callback in which the bridge throws. -/
def GatewayAction.throws : GatewayAction → GatewayState → Bool
  | .callback c, σ => c.throws σ
  | .elsewhere _, _ => false

/-- A run without the callbacks in which the bridge throws. -/
def surviving : GatewayState → List GatewayAction → List GatewayAction
  | _, [] => []
  | σ, a :: as =>
      if a.throws σ then surviving σ as else a :: surviving (a.next σ) as

/-- Calls that throw leave no trace: without them the run ends the same. -/
theorem exec_surviving (actions : List GatewayAction) (σ : GatewayState) :
    gatewaySystem.exec σ (surviving σ actions) = gatewaySystem.exec σ actions := by
  induction actions generalizing σ with
  | nil => rfl
  | cons a as ih =>
      have hexec : ∀ rest,
          gatewaySystem.exec σ (a :: rest) = gatewaySystem.exec (a.next σ) rest := fun _ => rfl
      by_cases hthrows : a.throws σ = true
      · have hnext : a.next σ = σ := by
          cases a with
          | callback c =>
              obtain ⟨ex, hex⟩ := GatewayCallback.throws_eq_true_iff.mp hthrows
              show (c.registered σ).after = σ
              rw [GatewayCallback.registered_after]
              exact c.delegate_atomic σ ex hex
          | elsewhere after => cases hthrows
        rw [surviving, if_pos hthrows, hexec, hnext]
        exact ih σ
      · rw [surviving, if_neg hthrows, hexec, hexec]
        exact ih _

/-- **Gateway callbacks are contained.** In every run, whatever roscpp throws, no exception
leaves a callback and a call that threw has left the tables as they were, if and only if
`subscribe` never throws for the first subscriber of an open channel. -/
theorem gateway_contained_iff (actions : List GatewayAction) (σ : GatewayState) :
    gatewaySystem.Guarded
        (fun τ a => ∀ c, a = .callback c → c.ContainedAt τ) σ actions ↔
      gatewaySystem.Guarded
        (fun τ a => ∀ c, a = .callback c → ¬ c.SubscribeThrows τ) σ actions :=
  TSys.guarded_congr (fun τ _ => forall₂_congr fun c _ => c.containedAt_iff τ) actions σ

/-- One open channel, and nobody subscribed to it. -/
def openChannel : GatewayState where
  tables := { Tables.empty with channels := AList.singleton 1 ⟨"/map", "ros1", none⟩ }
  clients := ⟨10, ∅, 0⟩
  graphSubscriptionCount := 0

/-- The exception of `subscribe` leaves the callback. -/
theorem not_contained_subscribe :
    (GatewayCallback.registered (.onSubscribe 1 "/map" 7 (some 3) (.threw "no"))
        openChannel).result = .error (.rosException "no") ∧
      ¬ gatewaySystem.Guarded
        (fun τ a => ∀ c, a = .callback c → c.ContainedAt τ) openChannel
        [.callback (.onSubscribe 1 "/map" 7 (some 3) (.threw "no"))] := by
  have hescapes : (GatewayCallback.registered (.onSubscribe 1 "/map" 7 (some 3) (.threw "no"))
      openChannel).result = .error (.rosException "no") := rfl
  refine ⟨hescapes, ?_⟩
  rintro ⟨hcontained, -⟩
  exact (hcontained _ rfl).contained _ hescapes

end FoxgloveBridge
