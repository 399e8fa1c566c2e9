import FoxgloveBridge.Bridge.Tables
import FoxgloveBridge.Lib.TSys

/-!
# Latched messages and late joiners

A latched ROS publisher sends its last message again to each new ROS subscription, but the
bridge has one for all clients of a channel. So `rosMessageHandler` caches the last
message of each latched publisher, and `onSubscribe` replays the cache to a client that
joins an existing subscription.

A locked section does its part on the tables, and then its messages go to the SDK one by
one while it still holds `_subscriptionsMutex`; the SDK accepts and drops clients at any
time. A message logged without a sink goes to all clients accepted for its channel at that
moment. The history of the channels, in the order of the locked sections, is kept to say
what the cache ought to hold and what ought to be broadcast: it has every message that came
for an open channel, whatever the handler makes of it.

The cache holds the last latched message of each publisher, a replay sends exactly these,
and a client that was accepted before its callback has been sent all of them once the
callback returns, and from then on (`late_joiners_served`).
-/

namespace FoxgloveBridge

/-- What happens to the ROS subscription of a channel. -/
inductive SubscriptionEvent
  /-- `onSubscribe` created it. -/
  | created (channelId : ChannelId)
  /-- `rosMessageHandler` was called with a message while the channel was open. -/
  | handled (channelId : ChannelId) (event : MessageEvent) (timestamp : Nat)
  deriving DecidableEq, Repr

/-- What becomes of the last latched message of a publisher. -/
def SubscriptionEvent.update (channelId : ChannelId) (callerid : String)
    (last : Option CachedLatchedMessage) : SubscriptionEvent → Option CachedLatchedMessage
  | .created id => if id = channelId then none else last
  | .handled id event timestamp =>
      if id = channelId ∧ event.latching = true ∧ event.callerid = callerid then
        some ⟨event.data, timestamp⟩
      else last

/-- The last latched message handled from a publisher since the ROS subscription of the
channel was created. -/
def lastLatched (channelId : ChannelId) (callerid : String) (history : List SubscriptionEvent) :
    Option CachedLatchedMessage :=
  history.foldl (SubscriptionEvent.update channelId callerid) none

/-- The broadcast owed for a message that was handled. -/
def SubscriptionEvent.broadcast : SubscriptionEvent → Option ChannelLog
  | .created _ => none
  | .handled channelId event timestamp => some ⟨channelId, event.data, timestamp, none⟩

/-- A subscribe callback that carries a sink and finds its channel open. -/
structure SubscribeCallback where
  channelId : ChannelId
  sink : SinkId
  /-- The SDK had accepted the client before, and has not dropped it since. -/
  accepted : Bool
  /-- What it has logged. -/
  logged : List ChannelLog
  /-- The history it found, with the creation of the ROS subscription if it created it. -/
  history : List SubscriptionEvent
  deriving DecidableEq, Repr

/-- A section that holds `_subscriptionsMutex`, with the messages it has still to log. -/
structure LockedSection where
  rest : List ChannelLog
  callback : Option SubscribeCallback
  deriving DecidableEq, Repr

structure LatchState where
  tables : Tables
  /-- Who holds `_subscriptionsMutex`. -/
  locked : Option LockedSection
  /-- The clients the SDK has accepted, by channel and sink. -/
  accepted : List (ChannelId × SinkId)
  /-- What each sink has been sent, in this order. -/
  sent : List (SinkId × ChannelLog)
  broadcasts : List ChannelLog
  history : List SubscriptionEvent
  /-- The subscribe callbacks that have returned. -/
  callbacks : List SubscribeCallback
  /-- The clients accepted before a callback that has returned, and not dropped since. -/
  caughtUp : List (ChannelId × SinkId)
  deriving DecidableEq

inductive LatchAction
  | accept (channelId : ChannelId) (sink : SinkId)
  | drop (channelId : ChannelId) (sink : SinkId)
  | onSubscribe (channelId : ChannelId) (clientId : ClientId) (isGateway : Bool)
      (sinkId : Option SinkId) (serial : Nat)
  | onUnsubscribe (channelId : ChannelId) (clientId : ClientId) (isGateway : Bool)
  | rosMessageHandler (channelId : ChannelId) (event : MessageEvent) (timestamp : Nat)
  /-- The two locked sections of `updateAdvertisedTopics`. -/
  | removeStale (latestTopics : List TopicAndDatatype)
  | advertise (latestTopics : List TopicAndDatatype) (answers : Answers)
  /-- The section that holds the mutex logs its next message. -/
  | log
  | unlock

/-- The SDK drops a client while its callback runs. -/
def SubscribeCallback.drop (channelId : ChannelId) (sink : SinkId) (callback : SubscribeCallback) :
    SubscribeCallback :=
  if callback.channelId = channelId ∧ callback.sink = sink then { callback with accepted := false }
  else callback

namespace LatchState

variable (σ : LatchState)

def initial : LatchState where
  tables := .empty
  locked := none
  accepted := []
  sent := []
  broadcasts := []
  history := []
  callbacks := []
  caughtUp := []

/-- A section that takes the mutex. -/
def lock (tables : Tables) (history : List SubscriptionEvent) (rest : List ChannelLog)
    (callback : Option SubscribeCallback) : Option LatchState :=
  if σ.locked.isSome then none
  else
    some { σ with
      tables := tables
      locked := some ⟨rest, callback⟩
      history := history }

/-- The history after `onSubscribe`, which creates the ROS subscription of an open channel
that has none. -/
def subscribed (channelId : ChannelId) : List SubscriptionEvent :=
  if channelId ∈ σ.tables.channels ∧ channelId ∉ σ.tables.subscriptions then
    σ.history ++ [.created channelId]
  else σ.history

/-- The history after a message came for the channel: it counts if the channel is open, whatever
the handler makes of it. -/
def received (channelId : ChannelId) (event : MessageEvent) (timestamp : Nat) :
    List SubscriptionEvent :=
  if channelId ∈ σ.tables.channels then σ.history ++ [.handled channelId event timestamp]
  else σ.history

/-- The callback on an open channel, before it logs anything. -/
def callback (channelId : ChannelId) (sink : SinkId) : Option SubscribeCallback :=
  if channelId ∈ σ.tables.channels then
    some ⟨channelId, sink, decide ((channelId, sink) ∈ σ.accepted), [], σ.subscribed channelId⟩
  else none

/-- Who gets a logged message. -/
def recipients (log : ChannelLog) : List SinkId :=
  match log.sink with
  | some sink => [sink]
  | none => (σ.accepted.filter fun client => client.1 == log.channel).map Prod.snd

def step : LatchAction → Option LatchState
  | .accept channelId sink => some { σ with accepted := (channelId, sink) :: σ.accepted }
  | .drop channelId sink =>
      some { σ with
        accepted := σ.accepted.filter (· ≠ (channelId, sink))
        locked := σ.locked.map fun s => { s with callback := s.callback.map (.drop channelId sink) }
        caughtUp := σ.caughtUp.filter (· ≠ (channelId, sink)) }
  | .onSubscribe channelId clientId isGateway sinkId serial =>
      let result := σ.tables.onSubscribe channelId clientId isGateway sinkId serial
      σ.lock result.1 (σ.subscribed channelId) result.2 (sinkId.bind (σ.callback channelId))
  | .onUnsubscribe channelId clientId isGateway =>
      σ.lock (σ.tables.onUnsubscribe channelId clientId isGateway).1 σ.history [] none
  | .rosMessageHandler channelId event timestamp =>
      let result := σ.tables.rosMessageHandler channelId event timestamp
      σ.lock result.1 (σ.received channelId event timestamp) result.2.toList none
  | .removeStale latestTopics => σ.lock (σ.tables.removeStale latestTopics) σ.history [] none
  | .advertise latestTopics answers =>
      σ.lock (σ.tables.advertise answers latestTopics).1 σ.history [] none
  | .log =>
      match σ.locked with
      | some ⟨log :: rest, callback⟩ =>
          some { σ with
            locked := some ⟨rest, callback.map fun c => { c with logged := c.logged ++ [log] }⟩
            sent := σ.sent ++ (σ.recipients log).map fun sink => (sink, log)
            broadcasts := if log.sink = none then σ.broadcasts ++ [log] else σ.broadcasts }
      | _ => none
  | .unlock =>
      match σ.locked with
      | some ⟨[], callback⟩ =>
          some { σ with
            locked := none
            callbacks := σ.callbacks ++ callback.toList
            caughtUp := σ.caughtUp ++ (callback.toList.filter SubscribeCallback.accepted).map
              fun c => (c.channelId, c.sink) }
      | _ => none

end LatchState

def latchSystem : TSys LatchState LatchAction where
  init σ := σ = .initial
  step := LatchState.step

/-! ## The cache -/

theorem lastLatched_append_singleton (channelId : ChannelId) (callerid : String)
    (history : List SubscriptionEvent) (e : SubscriptionEvent) :
    lastLatched channelId callerid (history ++ [e]) =
      e.update channelId callerid (lastLatched channelId callerid history) := by
  rw [lastLatched, List.foldl_append]
  rfl

/-- The cache of a channel that has a ROS subscription. -/
def Tables.cacheOf (T : Tables) (channelId : ChannelId) :
    Option (List (String × CachedLatchedMessage)) :=
  (T.subscriptions.lookup channelId).map ChannelSubscription.latchedMessages

section Cache

variable (T : Tables) (channelId : ChannelId) {other : ChannelId}

theorem cacheOf_eq_none_iff : T.cacheOf channelId = none ↔ channelId ∉ T.subscriptions := by
  rw [Tables.cacheOf, Option.map_eq_none_iff, AList.lookup_eq_none]

/-- A new client changes no cache; a new ROS subscription has an empty one. -/
theorem cacheOf_onSubscribe (clientId : ClientId) (isGateway : Bool) (sinkId : Option SinkId)
    (serial : Nat) :
    (T.onSubscribe channelId clientId isGateway sinkId serial).1.cacheOf other =
      if other = channelId ∧ channelId ∈ T.channels then some ((T.cacheOf other).getD [])
      else T.cacheOf other := by
  by_cases heq : other = channelId
  · subst heq
    cases hchannel : T.channels.lookup other with
    | none =>
        have hclosed : other ∉ T.channels := AList.lookup_eq_none.mp hchannel
        rw [onSubscribe_of_lookup_none _ _ _ _ _ _ hchannel, if_neg fun h => hclosed h.2]
    | some channel =>
        have hopen : other ∈ T.channels := UnorderedMap.mem_iff_lookup.mpr ⟨channel, hchannel⟩
        rw [if_pos ⟨rfl, hopen⟩, Tables.cacheOf, lookup_onSubscribe_self _ _ _ _ _ _ hchannel,
          Tables.cacheOf]
        cases T.subscriptions.lookup other with
        | none => simp [ChannelSubscription.empty]
        | some sub => simp
  · rw [if_neg fun h => heq h.1, Tables.cacheOf, lookup_onSubscribe_of_ne _ _ _ _ _ _ heq,
      Tables.cacheOf]

/-- A cache after a subscribe is the empty one of a new ROS subscription, or was there
before. -/
theorem cacheOf_onSubscribe_cases {clientId : ClientId} {isGateway : Bool}
    {sinkId : Option SinkId} {serial : Nat} {cache : List (String × CachedLatchedMessage)}
    (h : (T.onSubscribe channelId clientId isGateway sinkId serial).1.cacheOf other =
      some cache) :
    ((other = channelId ∧ channelId ∈ T.channels ∧ channelId ∉ T.subscriptions) ∧ cache = []) ∨
      (¬ (other = channelId ∧ channelId ∈ T.channels ∧ channelId ∉ T.subscriptions) ∧
        T.cacheOf other = some cache) := by
  rw [cacheOf_onSubscribe] at h
  split at h
  · rename_i hself
    obtain ⟨rfl, hopen⟩ := hself
    cases hold : T.cacheOf other with
    | none =>
        rw [hold] at h
        exact .inl ⟨⟨rfl, hopen, (cacheOf_eq_none_iff T other).mp hold⟩,
          (Option.some.inj h).symm⟩
    | some old =>
        rw [hold] at h
        refine .inr ⟨fun hcreates => ?_, h⟩
        rw [(cacheOf_eq_none_iff T other).mpr hcreates.2.2] at hold
        cases hold
  · rename_i hother
    exact .inr ⟨fun hcreates => hother ⟨hcreates.1, hcreates.2.1⟩, h⟩

/-- A client that leaves changes no cache that stays. -/
theorem cacheOf_onUnsubscribe (clientId : ClientId) (isGateway : Bool)
    {cache : List (String × CachedLatchedMessage)}
    (h : (T.onUnsubscribe channelId clientId isGateway).1.cacheOf other = some cache) :
    T.cacheOf other = some cache := by
  by_cases heq : other = channelId
  · subst heq
    cases hsub : T.subscriptions.lookup other with
    | none => rwa [onUnsubscribe_of_lookup_none _ _ _ _ hsub] at h
    | some sub =>
        by_cases hlast : (sub.eraseClient clientId isGateway).wsClientIds = ∅ ∧
            (sub.eraseClient clientId isGateway).gatewayClientIds = ∅
        · rw [onUnsubscribe_last _ _ _ _ hsub hlast] at h
          simp [Tables.cacheOf] at h
        · rw [onUnsubscribe_not_last _ _ _ _ hsub hlast] at h
          simpa [Tables.cacheOf, hsub] using h
  · rwa [Tables.cacheOf, lookup_onUnsubscribe_of_ne _ _ _ _ heq, ← Tables.cacheOf] at h

theorem cacheOf_removeStale {latestTopics : List TopicAndDatatype}
    {cache : List (String × CachedLatchedMessage)}
    (h : (T.removeStale latestTopics).cacheOf other = some cache) :
    T.cacheOf other = some cache := by
  obtain ⟨sub, hsub, rfl⟩ := Option.map_eq_some_iff.mp h
  rw [Tables.cacheOf, (lookup_removeStale_subscriptions.mp hsub).1]
  rfl

theorem cacheOf_advertise (latestTopics : List TopicAndDatatype) (answers : Answers) :
    (T.advertise answers latestTopics).1.cacheOf other = T.cacheOf other := by
  rw [Tables.cacheOf, advertise_subscriptions, Tables.cacheOf]

/-- A latched message goes into the cache of its channel, under its publisher. -/
theorem cacheOf_rosMessageHandler (event : MessageEvent) (timestamp : Nat)
    (hopen : channelId ∈ T.channels) :
    (T.rosMessageHandler channelId event timestamp).1.cacheOf other =
      if other = channelId ∧ event.latching = true then
        (T.cacheOf other).map (StdMap.insert event.callerid ⟨event.data, timestamp⟩)
      else T.cacheOf other := by
  obtain ⟨channel, hchannel⟩ := UnorderedMap.mem_iff_lookup.mp hopen
  by_cases heq : other = channelId
  · subst heq
    cases hlatching : event.latching with
    | false => simp [Tables.rosMessageHandler, hchannel, hlatching]
    | true =>
        cases hsub : T.subscriptions.lookup other with
        | none => simp [Tables.rosMessageHandler, hchannel, hlatching, hsub, Tables.cacheOf]
        | some sub =>
            simp [Tables.rosMessageHandler, hchannel, hlatching, hsub, Tables.cacheOf,
              ChannelSubscription.cache]
  · rw [if_neg fun h => heq h.1, Tables.cacheOf, lookup_rosMessageHandler_of_ne _ _ _ _ heq,
      Tables.cacheOf]

end Cache

/-- Every cache holds the last latched message of each publisher. -/
def CacheExact (T : Tables) (history : List SubscriptionEvent) : Prop :=
  ∀ channelId cache, T.cacheOf channelId = some cache →
    StdMap.Ordered cache ∧
      ∀ callerid, cache.lookup callerid = lastLatched channelId callerid history

namespace CacheExact

variable {T T' : Tables} {history : List SubscriptionEvent}

theorem mono (h : CacheExact T history)
    (hle : ∀ channelId cache, T'.cacheOf channelId = some cache →
      T.cacheOf channelId = some cache) : CacheExact T' history :=
  fun channelId cache hcache => h channelId cache (hle channelId cache hcache)

/-- A new ROS subscription has heard nothing yet. -/
theorem onSubscribe (h : CacheExact T history) (channelId : ChannelId) (clientId : ClientId)
    (isGateway : Bool) (sinkId : Option SinkId) (serial : Nat) :
    CacheExact (T.onSubscribe channelId clientId isGateway sinkId serial).1
      (if channelId ∈ T.channels ∧ channelId ∉ T.subscriptions then
        history ++ [.created channelId] else history) := by
  intro other cache hcache
  rcases cacheOf_onSubscribe_cases T channelId hcache with
    ⟨⟨rfl, hcreates⟩, rfl⟩ | ⟨hnew, hold⟩
  · rw [if_pos hcreates]
    refine ⟨List.Pairwise.nil, fun callerid => ?_⟩
    rw [lastLatched_append_singleton]
    exact (if_pos rfl).symm
  · obtain ⟨hordered, hlast⟩ := h other cache hold
    split
    · rename_i hcreates
      refine ⟨hordered, fun callerid => ?_⟩
      rw [hlast, lastLatched_append_singleton]
      exact (if_neg fun hself => hnew ⟨hself.symm, hcreates⟩).symm
    · exact ⟨hordered, hlast⟩

/-- A message is cached if it is latched. -/
theorem rosMessageHandler (h : CacheExact T history) {channelId : ChannelId}
    (hopen : channelId ∈ T.channels) (event : MessageEvent) (timestamp : Nat) :
    CacheExact (T.rosMessageHandler channelId event timestamp).1
      (history ++ [.handled channelId event timestamp]) := by
  intro other cache hcache
  rw [cacheOf_rosMessageHandler _ _ _ _ hopen] at hcache
  split at hcache
  · rename_i hself
    obtain ⟨rfl, hlatching⟩ := hself
    obtain ⟨old, hold, rfl⟩ := Option.map_eq_some_iff.mp hcache
    obtain ⟨hordered, hlast⟩ := h other old hold
    refine ⟨StdMap.ordered_insert hordered _ _, fun callerid => ?_⟩
    rw [lastLatched_append_singleton, ← hlast]
    by_cases hcallerid : event.callerid = callerid
    · subst hcallerid
      rw [StdMap.lookup_insert_self]
      exact (if_pos ⟨rfl, hlatching, rfl⟩).symm
    · rw [StdMap.lookup_insert_of_ne fun heq => hcallerid heq.symm]
      exact (if_neg fun hself => hcallerid hself.2.2).symm
  · rename_i hself
    obtain ⟨hordered, hlast⟩ := h other cache hcache
    refine ⟨hordered, fun callerid => ?_⟩
    rw [hlast, lastLatched_append_singleton]
    exact (if_neg fun hhit => hself ⟨hhit.1.symm, hhit.2.1⟩).symm

end CacheExact

/-! ## What is logged -/

/-- The message carries a cached one. -/
def ChannelLog.Carries (log : ChannelLog) (channelId : ChannelId) (cached : CachedLatchedMessage) :
    Prop :=
  log.channel = channelId ∧ log.data = cached.data ∧ log.timestamp = cached.timestamp

/-- The messages are the last latched ones of the publishers the callback found heard of,
one for each, all for the sink of the callback. -/
def SubscribeCallback.Replays (c : SubscribeCallback) (logs : List ChannelLog) : Prop :=
  ∃ cache : List (String × CachedLatchedMessage), StdMap.Ordered cache ∧
    (∀ callerid, cache.lookup callerid = lastLatched c.channelId callerid c.history) ∧
    logs = cache.map fun (_, cached) =>
      ⟨c.channelId, cached.data, cached.timestamp, some c.sink⟩

/-- What `onSubscribe` replays, on an open channel. -/
theorem onSubscribe_replayed {T : Tables} {channelId : ChannelId}
    (hopen : channelId ∈ T.channels) (clientId : ClientId) (isGateway : Bool) (sink : SinkId)
    (serial : Nat) :
    (T.onSubscribe channelId clientId isGateway (some sink) serial).2 =
      ((T.cacheOf channelId).getD []).map fun (_, cached) =>
        ⟨channelId, cached.data, cached.timestamp, some sink⟩ := by
  obtain ⟨channel, hchannel⟩ := UnorderedMap.mem_iff_lookup.mp hopen
  cases hsub : T.subscriptions.lookup channelId <;>
    simp [Tables.onSubscribe, Tables.cacheOf, hchannel, hsub]

/-- Whatever `onSubscribe` logs is for one sink. -/
theorem onSubscribe_logs_sink {T : Tables} {channelId : ChannelId} {clientId : ClientId}
    {isGateway : Bool} {sinkId : Option SinkId} {serial : Nat} :
    ∀ log ∈ (T.onSubscribe channelId clientId isGateway sinkId serial).2,
      ∃ sink, sinkId = some sink ∧ log.sink = some sink := by
  intro log hlog
  unfold Tables.onSubscribe at hlog
  split at hlog
  · cases hlog
  · split at hlog
    · cases hlog
    · cases sinkId with
      | none => cases hlog
      | some sink =>
          obtain ⟨entry, -, rfl⟩ := List.mem_map.mp hlog
          exact ⟨sink, rfl, rfl⟩

namespace LatchState

/-- The messages the section that holds the mutex has still to log. -/
def pending (σ : LatchState) : List ChannelLog :=
  match σ.locked with
  | none => []
  | some s => s.rest

/-- The clients whose callback has returned, or is in its locked section, and that were
accepted before. -/
def served (σ : LatchState) : List (ChannelId × SinkId) :=
  σ.caughtUp ++ (((σ.locked.bind LockedSection.callback).toList.filter
    SubscribeCallback.accepted).map fun c => (c.channelId, c.sink))

/-- The cache, the messages logged and the history agree. -/
structure Exact (σ : LatchState) : Prop where
  cache : CacheExact σ.tables σ.history
  broadcasts : σ.broadcasts ++ σ.pending.filter (fun log => log.sink = none) =
    σ.history.filterMap SubscriptionEvent.broadcast
  inProgress : ∀ s ∈ σ.locked, ∀ c ∈ s.callback, c.Replays (c.logged ++ s.rest)
  returned : ∀ c ∈ σ.callbacks, c.Replays c.logged
  /-- A message for a sink is sent to no other. -/
  sent : ∀ entry ∈ σ.sent, entry.2.sink = none ∨ entry.2.sink = some entry.1

variable {σ : LatchState}

theorem pending_of_free (hfree : σ.locked = none) : σ.pending = [] := by
  rw [pending, hfree]

/-- A section takes the mutex. -/
theorem Exact.lock (h : σ.Exact) {tables : Tables} {history : List SubscriptionEvent}
    {rest : List ChannelLog} {callback : Option SubscribeCallback} {σ' : LatchState}
    (hs : σ.lock tables history rest callback = some σ') (hcache : CacheExact tables history)
    (hbroadcasts : σ.history.filterMap SubscriptionEvent.broadcast ++
      rest.filter (fun log => log.sink = none) = history.filterMap SubscriptionEvent.broadcast)
    (hcallback : ∀ c ∈ callback, c.logged = [] ∧ c.Replays rest) : σ'.Exact := by
  simp only [LatchState.lock, Option.ite_none_left_eq_some, Option.some.injEq] at hs
  obtain ⟨hfree, rfl⟩ := hs
  have hbefore := h.broadcasts
  rw [pending_of_free (by simpa using hfree), List.filter_nil, List.append_nil] at hbefore
  refine ⟨hcache, ?_, ?_, h.returned, h.sent⟩
  · show σ.broadcasts ++ _ = _
    rw [hbefore]
    exact hbroadcasts
  · intro s hs c hc
    obtain rfl := Option.some.inj hs
    obtain ⟨hlogged, hreplays⟩ := hcallback c hc
    rw [hlogged]
    exact hreplays

/-- `onSubscribe` broadcasts nothing, and replays the cache if it carries a sink. -/
theorem Exact.onSubscribe (h : σ.Exact) {σ' : LatchState} {channelId : ChannelId}
    {clientId : ClientId} {isGateway : Bool} {sinkId : Option SinkId} {serial : Nat}
    (hs : σ.step (.onSubscribe channelId clientId isGateway sinkId serial) = some σ') :
    σ'.Exact := by
  have hcache := h.cache.onSubscribe channelId clientId isGateway sinkId serial
  refine h.lock hs hcache ?_ ?_
  · have hnone : (σ.tables.onSubscribe channelId clientId isGateway sinkId serial).2.filter
        (fun log => log.sink = none) = [] := by
      apply List.filter_eq_nil_iff.mpr
      intro log hlog
      obtain ⟨sink, -, hsink⟩ := onSubscribe_logs_sink log hlog
      simp [hsink]
    have hcreated : (σ.subscribed channelId).filterMap SubscriptionEvent.broadcast =
        σ.history.filterMap SubscriptionEvent.broadcast := by
      unfold LatchState.subscribed
      split
      · rw [List.filterMap_append]
        exact List.append_nil _
      · rfl
    rw [hnone, hcreated, List.append_nil]
  · intro c hc
    obtain ⟨sink, rfl, hfound⟩ := Option.bind_eq_some_iff.mp hc
    simp only [LatchState.callback, Option.ite_none_right_eq_some, Option.some.injEq] at hfound
    obtain ⟨hopen, rfl⟩ := hfound
    -- what the subscription holds after the section is what is replayed
    have hafter : Tables.cacheOf _ channelId = _ :=
      cacheOf_onSubscribe σ.tables channelId clientId isGateway (some sink) serial
    rw [if_pos ⟨rfl, hopen⟩] at hafter
    obtain ⟨hordered, hlast⟩ := hcache channelId _ hafter
    exact ⟨rfl, _, hordered, hlast, onSubscribe_replayed hopen clientId isGateway sink serial⟩

theorem rosMessageHandler_closed {T : Tables} {channelId : ChannelId} {event : MessageEvent}
    {timestamp : Nat} (hclosed : channelId ∉ T.channels) :
    T.rosMessageHandler channelId event timestamp = (T, none) := by
  simp [Tables.rosMessageHandler, AList.lookup_eq_none.mpr hclosed]

/-- A message is logged as it came. -/
theorem rosMessageHandler_open {T : Tables} {channelId : ChannelId} {event : MessageEvent}
    {timestamp : Nat} (hopen : channelId ∈ T.channels) :
    T.rosMessageHandler channelId event timestamp =
      ((T.rosMessageHandler channelId event timestamp).1,
        some ⟨channelId, event.data, timestamp, none⟩) := by
  obtain ⟨channel, hchannel⟩ := UnorderedMap.mem_iff_lookup.mp hopen
  refine Prod.ext rfl ?_
  simp only [Tables.rosMessageHandler, hchannel]
  split
  · split <;> rfl
  · rfl

/-- A message on an open channel is recorded and about to be broadcast. -/
theorem step_rosMessageHandler_open {channelId : ChannelId} {event : MessageEvent}
    {timestamp : Nat} (hopen : channelId ∈ σ.tables.channels) :
    σ.step (.rosMessageHandler channelId event timestamp) =
      σ.lock (σ.tables.rosMessageHandler channelId event timestamp).1
        (σ.history ++ [.handled channelId event timestamp])
        [⟨channelId, event.data, timestamp, none⟩] none := by
  rw [step, received, if_pos hopen, rosMessageHandler_open hopen]
  rfl

/-- On a channel that is closed it is neither. -/
theorem step_rosMessageHandler_closed {channelId : ChannelId} {event : MessageEvent}
    {timestamp : Nat} (hclosed : channelId ∉ σ.tables.channels) :
    σ.step (.rosMessageHandler channelId event timestamp) =
      σ.lock σ.tables σ.history [] none := by
  rw [step, received, if_neg hclosed, rosMessageHandler_closed hclosed]
  rfl

theorem Exact.rosMessageHandler (h : σ.Exact) {σ' : LatchState} {channelId : ChannelId}
    {event : MessageEvent} {timestamp : Nat}
    (hs : σ.step (.rosMessageHandler channelId event timestamp) = some σ') : σ'.Exact := by
  by_cases hopen : channelId ∈ σ.tables.channels
  · have hcache := h.cache.rosMessageHandler hopen event timestamp
    rw [step_rosMessageHandler_open hopen] at hs
    refine h.lock hs hcache ?_ nofun
    rw [List.filterMap_append]
    rfl
  · rw [step_rosMessageHandler_closed hopen] at hs
    exact h.lock hs h.cache (List.append_nil _) nofun

/-- One message of the section goes out. -/
theorem Exact.log (h : σ.Exact) {log : ChannelLog} {rest : List ChannelLog}
    {callback : Option SubscribeCallback}
    (hlocked : σ.locked = some ⟨log :: rest, callback⟩) :
    Exact { σ with
      locked := some ⟨rest, callback.map fun c => { c with logged := c.logged ++ [log] }⟩
      sent := σ.sent ++ (σ.recipients log).map fun sink => (sink, log)
      broadcasts := if log.sink = none then σ.broadcasts ++ [log] else σ.broadcasts } := by
  have hbroadcasts := h.broadcasts
  rw [show σ.pending = log :: rest by rw [pending, hlocked]] at hbroadcasts
  refine ⟨h.cache, ?_, ?_, h.returned, ?_⟩
  · show (if log.sink = none then σ.broadcasts ++ [log] else σ.broadcasts) ++
      rest.filter (fun log => log.sink = none) = _
    rw [← hbroadcasts, List.filter_cons]
    by_cases hsink : log.sink = none
    · simp [hsink]
    · simp [hsink]
  · intro s hs c hc
    obtain rfl := Option.some.inj hs
    obtain ⟨before, hbefore, rfl⟩ := Option.map_eq_some_iff.mp hc
    have hreplays := h.inProgress _ hlocked before hbefore
    show before.Replays (before.logged ++ [log] ++ rest)
    rw [List.append_assoc]
    exact hreplays
  · intro entry hentry
    rcases List.mem_append.mp hentry with hold | hnew
    · exact h.sent entry hold
    · obtain ⟨sink, hsink, rfl⟩ := List.mem_map.mp hnew
      unfold LatchState.recipients at hsink
      split at hsink
      · obtain rfl := List.mem_singleton.mp hsink
        exact .inr ‹_›
      · exact .inl ‹_›

theorem Exact.step {σ' : LatchState} {a : LatchAction} (h : σ.Exact) (hs : σ.step a = some σ') :
    σ'.Exact := by
  cases a with
  | accept channelId sink =>
      obtain rfl := Option.some.inj hs
      exact ⟨h.cache, h.broadcasts, h.inProgress, h.returned, h.sent⟩
  | drop channelId sink =>
      obtain rfl := Option.some.inj hs
      refine ⟨h.cache, ?_, ?_, h.returned, h.sent⟩
      · have hbroadcasts := h.broadcasts
        unfold LatchState.pending at hbroadcasts ⊢
        cases hlocked : σ.locked <;> simpa [hlocked] using hbroadcasts
      · intro s hs c hc
        obtain ⟨before, hbefore, rfl⟩ := Option.map_eq_some_iff.mp hs
        obtain ⟨callback, hcallback, rfl⟩ := Option.map_eq_some_iff.mp hc
        have hreplays := h.inProgress before hbefore callback hcallback
        unfold SubscribeCallback.drop
        split <;> exact hreplays
  | onSubscribe => exact h.onSubscribe hs
  | onUnsubscribe =>
      exact h.lock hs (h.cache.mono fun _ _ hcache => cacheOf_onUnsubscribe _ _ _ _ hcache)
        (List.append_nil _) nofun
  | rosMessageHandler => exact h.rosMessageHandler hs
  | removeStale =>
      exact h.lock hs (h.cache.mono fun _ _ => cacheOf_removeStale _) (List.append_nil _) nofun
  | advertise latestTopics answers =>
      refine h.lock hs (h.cache.mono fun _ _ hcache => ?_) (List.append_nil _) nofun
      rwa [cacheOf_advertise] at hcache
  | log =>
      simp only [LatchState.step] at hs
      split at hs
      · obtain rfl := Option.some.inj hs
        exact h.log ‹_›
      · cases hs
  | unlock =>
      simp only [LatchState.step] at hs
      split at hs
      · rename_i callback hlocked
        obtain rfl := Option.some.inj hs
        refine ⟨h.cache, ?_, nofun, ?_, h.sent⟩
        · have hbroadcasts := h.broadcasts
          rwa [show σ.pending = [] by rw [pending, hlocked]] at hbroadcasts
        · intro c hc
          rcases List.mem_append.mp hc with hold | hlast
          · exact h.returned c hold
          · have hreplays := h.inProgress _ hlocked c (Option.mem_toList.mp hlast)
            rwa [List.append_nil] at hreplays
      · cases hs

/-- Each cached message of the channel has been sent to the client, or is about to be. -/
def Covered (σ : LatchState) (client : ChannelId × SinkId) : Prop :=
  ∀ cache, σ.tables.cacheOf client.1 = some cache →
    ∀ callerid cached, cache.lookup callerid = some cached →
      ∃ log : ChannelLog, log.Carries client.1 cached ∧
        ((client.2, log) ∈ σ.sent ∨
          (log ∈ σ.pending ∧ (log.sink = none ∨ log.sink = some client.2)))

structure Serves (σ : LatchState) : Prop where
  accepted : ∀ client ∈ σ.served, client ∈ σ.accepted
  covered : ∀ client ∈ σ.served, σ.Covered client

/-- The clients served after a section has taken the mutex. -/
theorem mem_served_iff {client : ChannelId × SinkId} : client ∈ σ.served ↔
    client ∈ σ.caughtUp ∨ ∃ s c, σ.locked = some s ∧ s.callback = some c ∧ c.accepted = true ∧
      client = (c.channelId, c.sink) := by
  simp only [served, List.mem_append, List.mem_map, List.mem_filter, Option.mem_toList,
    Option.bind_eq_some_iff]
  refine or_congr_right ⟨?_, ?_⟩
  · rintro ⟨c, ⟨⟨s, hs, hc⟩, haccepted⟩, rfl⟩
    exact ⟨s, c, hs, hc, haccepted, rfl⟩
  · rintro ⟨s, c, hs, hc, haccepted, rfl⟩
    exact ⟨c, ⟨⟨s, hs, hc⟩, haccepted⟩, rfl⟩

/-- A section takes the mutex: what is in a cache was there before or is about to be
broadcast, and the callback is about to replay the cache. -/
theorem Serves.lock (h : σ.Serves) {tables : Tables} {history : List SubscriptionEvent}
    {rest : List ChannelLog} {callback : Option SubscribeCallback} {σ' : LatchState}
    (hs : σ.lock tables history rest callback = some σ')
    (hcached : ∀ channelId cache', tables.cacheOf channelId = some cache' →
      ∀ callerid cached, cache'.lookup callerid = some cached →
        (∃ cache, σ.tables.cacheOf channelId = some cache ∧
          cache.lookup callerid = some cached) ∨
        ∃ log ∈ rest, log.sink = none ∧ log.Carries channelId cached)
    (hcallback : ∀ c ∈ callback, c.accepted = true → (c.channelId, c.sink) ∈ σ.accepted ∧
      ∀ cache, tables.cacheOf c.channelId = some cache →
        ∀ callerid cached, cache.lookup callerid = some cached →
          ∃ log ∈ rest, log.sink = some c.sink ∧ log.Carries c.channelId cached) :
    σ'.Serves := by
  simp only [LatchState.lock, Option.ite_none_left_eq_some, Option.some.injEq] at hs
  obtain ⟨hfree, rfl⟩ := hs
  have hfree : σ.locked = none := by simpa using hfree
  have hbefore : ∀ client ∈ σ.caughtUp, client ∈ σ.served :=
    fun client hclient => mem_served_iff.mpr (.inl hclient)
  refine ⟨?_, ?_⟩
  · intro client hclient
    rcases mem_served_iff.mp hclient with hold | ⟨s, c, hs, hc, haccepted, rfl⟩
    · exact h.accepted client (hbefore client hold)
    · obtain rfl := Option.some.inj hs
      exact (hcallback c hc haccepted).1
  · intro client hclient cache hcache callerid cached hlookup
    rcases mem_served_iff.mp hclient with hold | ⟨s, c, hs, hc, haccepted, rfl⟩
    · rcases hcached client.1 cache hcache callerid cached hlookup with
        ⟨before, hbeforeCache, hbeforeLookup⟩ | ⟨log, hlog, hsink, hcarries⟩
      · obtain ⟨log, hcarries, hsent | ⟨hpending, -⟩⟩ :=
          h.covered client (hbefore client hold) before hbeforeCache callerid cached hbeforeLookup
        · exact ⟨log, hcarries, .inl hsent⟩
        · rw [pending_of_free hfree] at hpending
          cases hpending
      · exact ⟨log, hcarries, .inr ⟨hlog, .inl hsink⟩⟩
    · obtain rfl := Option.some.inj hs
      obtain ⟨log, hlog, hsink, hcarries⟩ :=
        (hcallback c hc haccepted).2 cache hcache callerid cached hlookup
      exact ⟨log, hcarries, .inr ⟨hlog, .inr hsink⟩⟩

theorem Serves.onSubscribe (h : σ.Serves) {σ' : LatchState} {channelId : ChannelId}
    {clientId : ClientId} {isGateway : Bool} {sinkId : Option SinkId} {serial : Nat}
    (hs : σ.step (.onSubscribe channelId clientId isGateway sinkId serial) = some σ') :
    σ'.Serves := by
  refine h.lock hs (fun other cache' hcache callerid cached hlookup => .inl ?_)
    fun c hc haccepted => ?_
  · rcases cacheOf_onSubscribe_cases σ.tables channelId hcache with ⟨-, rfl⟩ | ⟨-, hold⟩
    · cases hlookup
    · exact ⟨cache', hold, hlookup⟩
  · obtain ⟨sink, rfl, hfound⟩ := Option.bind_eq_some_iff.mp hc
    simp only [LatchState.callback, Option.ite_none_right_eq_some, Option.some.injEq] at hfound
    obtain ⟨hopen, rfl⟩ := hfound
    refine ⟨of_decide_eq_true haccepted, fun cache hcache callerid cached hlookup => ?_⟩
    rw [cacheOf_onSubscribe, if_pos ⟨rfl, hopen⟩] at hcache
    obtain rfl := Option.some.inj hcache
    rw [onSubscribe_replayed hopen]
    exact ⟨_, List.mem_map_of_mem (StdMap.mem_of_lookup hlookup), rfl, rfl, rfl, rfl⟩

theorem Serves.rosMessageHandler (h : σ.Serves) {σ' : LatchState} {channelId : ChannelId}
    {event : MessageEvent} {timestamp : Nat}
    (hs : σ.step (.rosMessageHandler channelId event timestamp) = some σ') : σ'.Serves := by
  by_cases hopen : channelId ∈ σ.tables.channels
  · have hcacheOf : ∀ other, Tables.cacheOf _ other = _ := fun _ =>
      cacheOf_rosMessageHandler σ.tables channelId event timestamp hopen
    rw [step_rosMessageHandler_open hopen] at hs
    refine h.lock hs (fun other cache' hcache callerid cached hlookup => ?_) nofun
    rw [hcacheOf] at hcache
    split at hcache
    · rename_i hself
      obtain ⟨cache, hbefore, rfl⟩ := Option.map_eq_some_iff.mp hcache
      by_cases hcallerid : callerid = event.callerid
      · subst hcallerid
        rw [StdMap.lookup_insert_self] at hlookup
        obtain rfl := Option.some.inj hlookup
        exact .inr ⟨_, List.mem_singleton_self _, rfl, hself.1.symm, rfl, rfl⟩
      · rw [StdMap.lookup_insert_of_ne hcallerid] at hlookup
        exact .inl ⟨cache, hbefore, hlookup⟩
    · exact .inl ⟨cache', hcache, hlookup⟩
  · rw [step_rosMessageHandler_closed hopen] at hs
    exact h.lock hs (fun _ cache hcache _ _ hlookup => .inl ⟨cache, hcache, hlookup⟩) nofun

/-- A broadcast reaches every accepted client of the channel, a replay its sink. -/
theorem Serves.log (h : σ.Serves) {log : ChannelLog} {rest : List ChannelLog}
    {callback : Option SubscribeCallback} (hlocked : σ.locked = some ⟨log :: rest, callback⟩)
    {broadcasts : List ChannelLog} :
    Serves { σ with
      locked := some ⟨rest, callback.map fun c => { c with logged := c.logged ++ [log] }⟩
      sent := σ.sent ++ (σ.recipients log).map fun sink => (sink, log)
      broadcasts := broadcasts } := by
  have hserved : ∀ client, client ∈ LatchState.served { σ with
      locked := some ⟨rest, callback.map fun c => { c with logged := c.logged ++ [log] }⟩
      sent := σ.sent ++ (σ.recipients log).map fun sink => (sink, log)
      broadcasts := broadcasts } → client ∈ σ.served := by
    intro client hclient
    rcases mem_served_iff.mp hclient with hold | ⟨s, c, hs, hc, haccepted, rfl⟩
    · exact mem_served_iff.mpr (.inl hold)
    · obtain rfl := Option.some.inj hs
      obtain ⟨before, hbefore, rfl⟩ := Option.map_eq_some_iff.mp hc
      exact mem_served_iff.mpr (.inr ⟨_, before, hlocked, hbefore, haccepted, rfl⟩)
  refine ⟨fun client hclient => h.accepted client (hserved client hclient), ?_⟩
  intro client hclient cache hcache callerid cached hlookup
  have hmem := hserved client hclient
  obtain ⟨found, hcarries, hsent | ⟨hpending, hsink⟩⟩ :=
    h.covered client hmem cache hcache callerid cached hlookup
  · exact ⟨found, hcarries, .inl (List.mem_append_left _ hsent)⟩
  · rw [show σ.pending = log :: rest by rw [LatchState.pending, hlocked]] at hpending
    rcases List.mem_cons.mp hpending with rfl | hrest
    · -- it is the message that goes out now
      refine ⟨found, hcarries, .inl (List.mem_append_right _ ?_)⟩
      refine List.mem_map.mpr ⟨client.2, ?_, rfl⟩
      rcases hsink with hnone | hsome
      · simp only [LatchState.recipients, hnone]
        refine List.mem_map.mpr ⟨client, List.mem_filter.mpr ⟨h.accepted client hmem, ?_⟩, rfl⟩
        simp [hcarries.1]
      · simp [LatchState.recipients, hsome]
    · exact ⟨found, hcarries, .inr ⟨hrest, hsink⟩⟩

/-- The SDK drops a client: it is not served any more, the others are. -/
theorem Serves.drop (h : σ.Serves) (channelId : ChannelId) (sink : SinkId) :
    Serves { σ with
      accepted := σ.accepted.filter (· ≠ (channelId, sink))
      locked := σ.locked.map fun s => { s with callback := s.callback.map (.drop channelId sink) }
      caughtUp := σ.caughtUp.filter (· ≠ (channelId, sink)) } := by
  have hserved : ∀ client, client ∈ LatchState.served { σ with
      accepted := σ.accepted.filter (· ≠ (channelId, sink))
      locked := σ.locked.map fun s => { s with callback := s.callback.map (.drop channelId sink) }
      caughtUp := σ.caughtUp.filter (· ≠ (channelId, sink)) } →
      client ∈ σ.served ∧ client ≠ (channelId, sink) := by
    intro client hclient
    rcases mem_served_iff.mp hclient with hold | ⟨s, c, hs, hc, haccepted, rfl⟩
    · obtain ⟨hold, hne⟩ := List.mem_filter.mp hold
      exact ⟨mem_served_iff.mpr (.inl hold), of_decide_eq_true hne⟩
    · obtain ⟨before, hlocked, rfl⟩ := Option.map_eq_some_iff.mp hs
      obtain ⟨callback, hcallback, rfl⟩ := Option.map_eq_some_iff.mp hc
      unfold SubscribeCallback.drop at haccepted ⊢
      split at haccepted
      · cases haccepted
      · rename_i hother
        rw [if_neg hother]
        refine ⟨mem_served_iff.mpr (.inr ⟨before, callback, hlocked, hcallback, haccepted, rfl⟩),
          fun heq => hother ?_⟩
        exact Prod.mk.injEq .. ▸ heq
  have hpending : LatchState.pending { σ with
      accepted := σ.accepted.filter (· ≠ (channelId, sink))
      locked := σ.locked.map fun s => { s with callback := s.callback.map (.drop channelId sink) }
      caughtUp := σ.caughtUp.filter (· ≠ (channelId, sink)) } = σ.pending := by
    unfold LatchState.pending
    cases hlocked : σ.locked <;> simp
  refine ⟨?_, ?_⟩
  · intro client hclient
    obtain ⟨hmem, hne⟩ := hserved client hclient
    exact List.mem_filter.mpr ⟨h.accepted client hmem, decide_eq_true hne⟩
  · intro client hclient cache hcache callerid cached hlookup
    rw [hpending]
    exact h.covered client (hserved client hclient).1 cache hcache callerid cached hlookup

theorem Serves.step {σ' : LatchState} {a : LatchAction} (h : σ.Serves) (hs : σ.step a = some σ') :
    σ'.Serves := by
  have hsame : ∀ tables : Tables,
      (∀ channelId cache, tables.cacheOf channelId = some cache →
        σ.tables.cacheOf channelId = some cache) →
      σ.lock tables σ.history [] none = some σ' → σ'.Serves := by
    intro tables hle hlock
    exact h.lock hlock (fun channelId cache hcache _ _ hlookup =>
      .inl ⟨cache, hle channelId cache hcache, hlookup⟩) nofun
  cases a with
  | accept channelId sink =>
      obtain rfl := Option.some.inj hs
      exact ⟨fun client hclient => List.mem_cons_of_mem _ (h.accepted client hclient), h.covered⟩
  | drop channelId sink =>
      obtain rfl := Option.some.inj hs
      exact h.drop channelId sink
  | onSubscribe => exact h.onSubscribe hs
  | onUnsubscribe => exact hsame _ (fun _ _ hcache => cacheOf_onUnsubscribe _ _ _ _ hcache) hs
  | rosMessageHandler => exact h.rosMessageHandler hs
  | removeStale => exact hsame _ (fun _ _ => cacheOf_removeStale _) hs
  | advertise =>
      refine hsame _ (fun _ _ hcache => ?_) hs
      rwa [cacheOf_advertise] at hcache
  | log =>
      simp only [LatchState.step] at hs
      split at hs
      · obtain rfl := Option.some.inj hs
        exact h.log ‹_›
      · cases hs
  | unlock =>
      simp only [LatchState.step] at hs
      split at hs
      · rename_i callback hlocked
        obtain rfl := Option.some.inj hs
        -- the callback leaves its section, and its client is caught up
        have hserved : LatchState.served { σ with
            locked := none
            callbacks := σ.callbacks ++ callback.toList
            caughtUp := σ.caughtUp ++ (callback.toList.filter SubscribeCallback.accepted).map
              fun c => (c.channelId, c.sink) } = σ.served := by
          simp [LatchState.served, hlocked]
        have hpending : σ.pending = [] := by rw [LatchState.pending, hlocked]
        refine ⟨fun client hclient => h.accepted client (hserved ▸ hclient), ?_⟩
        intro client hclient cache hcache callerid cached hlookup
        obtain ⟨log, hcarries, hsent | ⟨hlog, -⟩⟩ :=
          h.covered client (hserved ▸ hclient) cache hcache callerid cached hlookup
        · exact ⟨log, hcarries, .inl hsent⟩
        · rw [hpending] at hlog
          cases hlog
      · cases hs

end LatchState

/-! ## Runs -/

variable {σ : LatchState}

theorem LatchState.Exact.of_reachable (h : latchSystem.Reachable σ) : σ.Exact := by
  refine TSys.Run.invariant h ⟨?_, fun _ _ _ hexact _ hs => hexact.step hs⟩
  rintro _ rfl
  exact ⟨nofun, rfl, nofun, nofun, nofun⟩

theorem LatchState.Serves.of_reachable (h : latchSystem.Reachable σ) : σ.Serves := by
  refine TSys.Run.invariant h ⟨?_, fun _ _ _ hserves _ hs => hserves.step hs⟩
  rintro _ rfl
  exact ⟨nofun, nofun⟩

/-- Whenever the mutex is free, a client that has caught up has been sent the last latched
message of every publisher that the ROS subscription of its channel has heard of. -/
def LatchState.Served (σ : LatchState) : Prop :=
  ∀ client ∈ σ.caughtUp, client.1 ∈ σ.tables.subscriptions →
    ∀ callerid cached, lastLatched client.1 callerid σ.history = some cached →
      ∃ log, (client.2, log) ∈ σ.sent ∧ log.Carries client.1 cached

/-- **Late joiners miss no latched state.** In every run: a cache maps each callerid to
the last latched message handled from it since the ROS subscription was created; a
subscribe callback logs exactly these messages, to its own sink only; a client that was
accepted before its callback is served once the callback has returned; and every message
handled while its channel is open is broadcast as it came. -/
theorem late_joiners_served (h : latchSystem.Reachable σ) :
    (∀ channelId sub, σ.tables.subscriptions.lookup channelId = some sub →
      ∀ callerid, sub.latchedMessages.lookup callerid =
        lastLatched channelId callerid σ.history) ∧
      (∀ c ∈ σ.callbacks, c.Replays c.logged) ∧
      (∀ entry ∈ σ.sent, entry.2.sink = none ∨ entry.2.sink = some entry.1) ∧
      (σ.locked = none →
        σ.Served ∧ σ.broadcasts = σ.history.filterMap SubscriptionEvent.broadcast) := by
  have hexact := LatchState.Exact.of_reachable h
  have hserves := LatchState.Serves.of_reachable h
  refine ⟨fun channelId sub hsub => ?_, hexact.returned, hexact.sent,
    fun hfree => ⟨fun client hclient hsubscribed callerid cached hlast => ?_, ?_⟩⟩
  · exact (hexact.cache channelId sub.latchedMessages (by rw [Tables.cacheOf, hsub]; rfl)).2
  · obtain ⟨sub, hsub⟩ := UnorderedMap.mem_iff_lookup.mp hsubscribed
    have hcache : σ.tables.cacheOf client.1 = some sub.latchedMessages := by
      rw [Tables.cacheOf, hsub]
      rfl
    rw [← (hexact.cache client.1 _ hcache).2 callerid] at hlast
    obtain ⟨log, hcarries, hsent | ⟨hlog, -⟩⟩ :=
      hserves.covered client (LatchState.mem_served_iff.mpr (.inl hclient)) _ hcache callerid
        cached hlast
    · exact ⟨log, hsent, hcarries⟩
    · rw [LatchState.pending_of_free hfree] at hlog
      cases hlog
  · have hbroadcasts := hexact.broadcasts
    rwa [LatchState.pending_of_free hfree, List.filter_nil, List.append_nil] at hbroadcasts

/-- A message of a latched publisher. -/
def latchedMessage (callerid : String) (data : List UInt8) : MessageEvent :=
  ⟨data, some [("latching", "1"), ("callerid", callerid)]⟩

/-- Two latched publishers and one that is not; one sends again while the late joiner is already
accepted, but its callback has not run. -/
def lateJoiner : List LatchAction :=
  [.advertise [("/map", "T")] ⟨fun _ => some [], fun _ => some 1⟩, .unlock, .accept 1 10,
    .onSubscribe 1 7 false (some 10) 0, .unlock,
    .rosMessageHandler 1 (latchedMessage "/a" [1]) 100, .log, .unlock,
    .rosMessageHandler 1 (latchedMessage "/b" [2]) 101, .log, .unlock, .accept 1 20,
    .rosMessageHandler 1 (latchedMessage "/a" [3]) 102, .log, .unlock,
    .onSubscribe 1 8 false (some 20) 1, .log, .log, .unlock,
    .rosMessageHandler 1 ⟨[4], some [("callerid", "/c")]⟩ 103, .log, .unlock]

theorem late_joiners_served_two : ∃ σ, latchSystem.exec .initial lateJoiner = some σ ∧
    (1, 20) ∈ σ.caughtUp ∧ lastLatched 1 "/b" σ.history = some ⟨[2], 101⟩ ∧
      (∃ log, (20, log) ∈ σ.sent ∧ log.Carries 1 ⟨[2], 101⟩) ∧
      σ.broadcasts.map ChannelLog.data = [[1], [2], [3], [4]] ∧
      σ.broadcasts = σ.history.filterMap SubscriptionEvent.broadcast := by
  have hrun : ∃ σ, latchSystem.exec .initial lateJoiner = some σ ∧ σ.locked = none ∧
      (1, 20) ∈ σ.caughtUp ∧ 1 ∈ σ.tables.subscriptions ∧
      lastLatched 1 "/b" σ.history = some ⟨[2], 101⟩ ∧
      σ.broadcasts.map ChannelLog.data = [[1], [2], [3], [4]] :=
    ⟨_, rfl, rfl, by decide, by decide, rfl, rfl⟩
  obtain ⟨σ, hexec, hfree, hcaughtUp, hsubscribed, hlast, hdata⟩ := hrun
  have hreach : latchSystem.Reachable σ := TSys.Reachable.exec (.init rfl) hexec
  obtain ⟨hserved, hbroadcasts⟩ := (late_joiners_served hreach).2.2.2 hfree
  exact ⟨σ, hexec, hcaughtUp, hlast, hserved (1, 20) hcaughtUp hsubscribed "/b" _ hlast, hdata,
    hbroadcasts⟩

end FoxgloveBridge
