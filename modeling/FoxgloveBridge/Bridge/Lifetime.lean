import FoxgloveBridge.Lib.Lists
import FoxgloveBridge.Bridge.Registry
import Mathlib.Data.Finset.Union

/-!
# Subscriber lifetimes

The bridge with what happens between its locked sections. A subscription that
leaves the tables is moved into a local variable and its `ros::Subscriber` is
destroyed only after the lock is released: by the poll thread for a removed
channel (`subscriptionsToRelease`), by a client thread after the last unsubscribe
(`releasedSubscription`). Until then roscpp keeps it alive and runs its callbacks.

A step is one locked section, one channel close, one destruction of a subscriber,
or one message. The tables move as in `registrySystem` (`registry_reachable`),
and every live subscriber is owned by the tables, by the poll thread or by a
client thread (`owned_of_reachable`).

roscpp delivers to each live subscriber the messages of its topic, per publisher
in the order they were sent and each at most once; a full queue may drop some. A
latched message that a publisher sends again to a new subscriber counts as sent
again.
-/

namespace FoxgloveBridge

/-- A `ros::Publisher`: the node and the topic it publishes on. -/
structure Publisher where
  node : String
  topic : String
  deriving DecidableEq, Repr

/-- Where `updateAdvertisedTopics` is. -/
inductive PollPhase
  | idle
  /-- Between the two locked sections, with the channels still to close and the
  subscriptions still to release. -/
  | tearingDown (channelsToClose : List ChannelId)
      (subscriptionsToRelease : List ChannelSubscription) (latestTopics : List TopicAndDatatype)
  deriving DecidableEq

/-- The subscriptions the poll thread still holds. -/
def PollPhase.subscriptionsToRelease : PollPhase → List ChannelSubscription
  | .idle => []
  | .tearingDown _ subs _ => subs

/-- A message `rosMessageHandler` logged to all subscribers of the channel, by its
publisher and its number among the messages of that publisher. -/
structure Broadcast where
  channel : ChannelId
  publisher : Publisher
  sequence : Nat
  deriving DecidableEq, Repr

/-- A channel that `updateAdvertisedTopics` created: whether the previous channel
of its topic was removed for its type, and the subscribers of the topic that were
alive at that moment. -/
structure Creation where
  topic : String
  retyped : Bool
  alive : Finset Subscriber

structure BridgeState where
  registry : Registry
  poll : PollPhase
  /-- The `releasedSubscription` of each client thread that has one. -/
  released : List ChannelSubscription
  nextSerial : Nat
  /-- The subscribers roscpp has not shut down. -/
  live : Finset Subscriber
  /-- What each publisher has sent. -/
  sent : Publisher → List MessageEvent
  /-- How many messages of a publisher a subscriber is past. -/
  cursor : Subscriber → Publisher → Nat
  broadcasts : List Broadcast
  /-- The topics whose last channel was removed for its type. -/
  retyped : Finset String
  creations : List Creation

inductive BridgeAction
  | updateTopics (latestTopics : List TopicAndDatatype)
  | closeChannel
  | releaseSubscription
  | advertise (answers : Answers)
  | onSubscribe (channelId : ChannelId) (client : TransportClient) (sinkId : Option SinkId)
  | onUnsubscribe (channelId : ChannelId) (client : TransportClient)
  /-- The client thread holding this released subscription destroys it. -/
  | destroyReleased (position : Nat)
  | publish (publisher : Publisher) (event : MessageEvent)
  /-- The callback of a subscriber for one message of a publisher. -/
  | deliver (subscriber : Subscriber) (publisher : Publisher) (sequence : Nat) (timestamp : Nat)

/-- The subscriber `onSubscribe` creates, if it does. -/
def Tables.newSubscriber (T : Tables) (channelId : ChannelId) (serial : Nat) : Option Subscriber :=
  match T.channels.lookup channelId, T.subscriptions.lookup channelId with
  | some channel, none => some ⟨serial, channelId, channel.topic⟩
  | _, _ => none

/-- The topics of removed channels that are still listed, under another type. -/
def Tables.retypedTopics (T : Tables) (latestTopics : List TopicAndDatatype) : List String :=
  ((T.channels.entries.filter fun e => e.2.isStale latestTopics).map fun e => e.2.topic).filter
    fun topic => latestTopics.any fun latest => latest.1 == topic

namespace BridgeState

variable (σ : BridgeState)

abbrev tables : Tables := σ.registry.tables

def initial : BridgeState where
  registry := .initial
  poll := .idle
  released := []
  nextSerial := 0
  live := ∅
  sent := fun _ => []
  cursor := fun _ _ => 0
  broadcasts := []
  retyped := ∅
  creations := []

/-- The removal phase of `updateAdvertisedTopics`. -/
def updateTopics (latestTopics : List TopicAndDatatype) : BridgeState :=
  { σ with
    registry := σ.registry.removeStale latestTopics
    poll := .tearingDown (σ.tables.channelsToClose latestTopics)
      (σ.tables.subscriptionsToRelease latestTopics) latestTopics
    retyped := σ.retyped ∪ (σ.tables.retypedTopics latestTopics).toFinset }

/-- The advertise phase. -/
def advertise (latestTopics : List TopicAndDatatype) (answers : Answers) : BridgeState :=
  let created := (σ.tables.advertise answers latestTopics).2.map fun entry => entry.2.topic
  { σ with
    registry := σ.registry.advertise latestTopics answers
    poll := .idle
    retyped := σ.retyped \ created.toFinset
    creations := σ.creations ++ created.map fun topic =>
      { topic := topic
        retyped := decide (topic ∈ σ.retyped)
        alive := σ.live.filter fun subscriber => subscriber.topic = topic } }

/-- `onSubscribe`. A subscriber starts behind everything sent so far. -/
def onSubscribe (channelId : ChannelId) (client : TransportClient) (sinkId : Option SinkId) :
    BridgeState :=
  match σ.tables.newSubscriber channelId σ.nextSerial with
  | none => { σ with registry := σ.registry.onSubscribe channelId client sinkId σ.nextSerial }
  | some subscriber =>
      { σ with
        registry := σ.registry.onSubscribe channelId client sinkId σ.nextSerial
        nextSerial := σ.nextSerial + 1
        live := insert subscriber σ.live
        cursor := fun s p => if s = subscriber then (σ.sent p).length else σ.cursor s p }

/-- The locked section of `onUnsubscribe`. -/
def onUnsubscribe (channelId : ChannelId) (client : TransportClient) : BridgeState :=
  { σ with
    registry := σ.registry.onUnsubscribe channelId client
    released := σ.released ++
      (σ.tables.onUnsubscribe channelId client.clientId client.isGateway).2.toList }

def publish (publisher : Publisher) (event : MessageEvent) : BridgeState :=
  { σ with
    sent := fun p => if p = publisher then σ.sent p ++ [event] else σ.sent p }

/-- The locked section of `rosMessageHandler`, in the callback of a subscriber. -/
def deliver (subscriber : Subscriber) (publisher : Publisher) (sequence : Nat)
    (event : MessageEvent) (timestamp : Nat) : BridgeState :=
  { σ with
    registry := σ.registry.rosMessageHandler subscriber.channel event timestamp
    cursor := fun s p =>
      if s = subscriber ∧ p = publisher then sequence + 1 else σ.cursor s p
    broadcasts :=
      match (σ.tables.rosMessageHandler subscriber.channel event timestamp).2 with
      | none => σ.broadcasts
      | some _ => σ.broadcasts ++ [⟨subscriber.channel, publisher, sequence⟩] }

/-- roscpp may call back a subscriber for this message: it is alive, and not past
the message. -/
def Deliverable (subscriber : Subscriber) (publisher : Publisher) (sequence : Nat) : Prop :=
  subscriber ∈ σ.live ∧ subscriber.topic = publisher.topic ∧
    σ.cursor subscriber publisher ≤ sequence

instance (subscriber : Subscriber) (publisher : Publisher) (sequence : Nat) :
    Decidable (σ.Deliverable subscriber publisher sequence) :=
  inferInstanceAs (Decidable (_ ∧ _ ∧ _))

def step : BridgeAction → Option BridgeState
  | .updateTopics latestTopics =>
      if σ.poll = .idle then some (σ.updateTopics latestTopics) else none
  | .closeChannel =>
      match σ.poll with
      | .tearingDown (_ :: rest) subs latestTopics =>
          some { σ with poll := .tearingDown rest subs latestTopics }
      | _ => none
  | .releaseSubscription =>
      match σ.poll with
      | .tearingDown [] (sub :: rest) latestTopics =>
          some { σ with
            poll := .tearingDown [] rest latestTopics
            live := σ.live.erase sub.rosSubscription }
      | _ => none
  | .advertise answers =>
      match σ.poll with
      | .tearingDown [] [] latestTopics =>
          -- the latest topics are a set, and the SDK creates channels under new ids
          if latestTopics.Nodup ∧ FreshIds (· ∈ σ.registry.issued) latestTopics answers then
            some (σ.advertise latestTopics answers)
          else none
      | _ => none
  | .onSubscribe channelId client sinkId => some (σ.onSubscribe channelId client sinkId)
  | .onUnsubscribe channelId client => some (σ.onUnsubscribe channelId client)
  | .destroyReleased position =>
      match σ.released[position]? with
      | none => none
      | some sub =>
          some { σ with
            released := σ.released.eraseIdx position
            live := σ.live.erase sub.rosSubscription }
  | .publish publisher event => some (σ.publish publisher event)
  | .deliver subscriber publisher sequence timestamp =>
      if σ.Deliverable subscriber publisher sequence then
        match (σ.sent publisher)[sequence]? with
        | none => none
        | some event => some (σ.deliver subscriber publisher sequence event timestamp)
      else none

end BridgeState

def lifetimeSystem : TSys BridgeState BridgeAction where
  init σ := σ = .initial
  step := BridgeState.step

/-! ## The steps as rules -/

/-- One rule for each way a step can go. -/
inductive BridgeState.Step (σ : BridgeState) : BridgeAction → BridgeState → Prop
  | updateTopics {latestTopics} : σ.poll = .idle →
      Step σ (.updateTopics latestTopics) (σ.updateTopics latestTopics)
  | closeChannel {channelId rest subs latestTopics} :
      σ.poll = .tearingDown (channelId :: rest) subs latestTopics →
      Step σ .closeChannel { σ with poll := .tearingDown rest subs latestTopics }
  | releaseSubscription {sub rest latestTopics} :
      σ.poll = .tearingDown [] (sub :: rest) latestTopics →
      Step σ .releaseSubscription
        { σ with
          poll := .tearingDown [] rest latestTopics
          live := σ.live.erase sub.rosSubscription }
  | advertise {latestTopics answers} : σ.poll = .tearingDown [] [] latestTopics →
      latestTopics.Nodup → FreshIds (· ∈ σ.registry.issued) latestTopics answers →
      Step σ (.advertise answers) (σ.advertise latestTopics answers)
  | joinSubscription {channelId client sinkId} :
      σ.tables.newSubscriber channelId σ.nextSerial = none →
      Step σ (.onSubscribe channelId client sinkId)
        { σ with registry := σ.registry.onSubscribe channelId client sinkId σ.nextSerial }
  | createSubscription {channelId client sinkId subscriber} :
      σ.tables.newSubscriber channelId σ.nextSerial = some subscriber →
      Step σ (.onSubscribe channelId client sinkId)
        { σ with
          registry := σ.registry.onSubscribe channelId client sinkId σ.nextSerial
          nextSerial := σ.nextSerial + 1
          live := insert subscriber σ.live
          cursor := fun s p => if s = subscriber then (σ.sent p).length else σ.cursor s p }
  | onUnsubscribe {channelId client} :
      Step σ (.onUnsubscribe channelId client) (σ.onUnsubscribe channelId client)
  | destroyReleased {position sub} : σ.released[position]? = some sub →
      Step σ (.destroyReleased position)
        { σ with
          released := σ.released.eraseIdx position
          live := σ.live.erase sub.rosSubscription }
  | publish {publisher event} : Step σ (.publish publisher event) (σ.publish publisher event)
  | deliver {subscriber publisher sequence event timestamp} :
      σ.Deliverable subscriber publisher sequence →
      (σ.sent publisher)[sequence]? = some event →
      Step σ (.deliver subscriber publisher sequence timestamp)
        (σ.deliver subscriber publisher sequence event timestamp)

theorem BridgeState.step_rule {σ σ' : BridgeState} {a : BridgeAction}
    (hs : σ.step a = some σ') : σ.Step a σ' := by
  cases a with
  | updateTopics latestTopics =>
      simp only [step, Option.ite_none_right_eq_some, Option.some.injEq] at hs
      obtain ⟨hidle, rfl⟩ := hs
      exact .updateTopics hidle
  | closeChannel =>
      simp only [step] at hs
      split at hs
      · obtain rfl := Option.some.inj hs
        exact .closeChannel ‹_›
      · cases hs
  | releaseSubscription =>
      simp only [step] at hs
      split at hs
      · obtain rfl := Option.some.inj hs
        exact .releaseSubscription ‹_›
      · cases hs
  | advertise answers =>
      simp only [step] at hs
      split at hs
      · simp only [Option.ite_none_right_eq_some, Option.some.injEq] at hs
        obtain ⟨⟨hnodup, hfresh⟩, rfl⟩ := hs
        exact .advertise ‹_› hnodup hfresh
      · cases hs
  | onSubscribe channelId client sinkId =>
      obtain rfl := Option.some.inj hs
      unfold onSubscribe
      split
      · exact .joinSubscription ‹_›
      · exact .createSubscription ‹_›
  | onUnsubscribe channelId client =>
      obtain rfl := Option.some.inj hs
      exact .onUnsubscribe
  | destroyReleased position =>
      simp only [step] at hs
      split at hs
      · cases hs
      · obtain rfl := Option.some.inj hs
        exact .destroyReleased ‹_›
  | publish publisher event =>
      obtain rfl := Option.some.inj hs
      exact .publish
  | deliver subscriber publisher sequence timestamp =>
      simp only [step, Option.ite_none_right_eq_some] at hs
      obtain ⟨hdeliverable, hs⟩ := hs
      split at hs
      · cases hs
      · obtain rfl := Option.some.inj hs
        exact .deliver hdeliverable ‹_›

/-! ## The handles in the tables -/

/-- The subscriber a channel has in the table. -/
def Tables.handle (T : Tables) (channelId : ChannelId) : Option Subscriber :=
  (T.subscriptions.lookup channelId).map ChannelSubscription.rosSubscription

section Handles

variable (T : Tables)

theorem newSubscriber_eq_some_iff {channelId : ChannelId} {serial : Nat} {s : Subscriber} :
    T.newSubscriber channelId serial = some s ↔
      ∃ channel, T.channels.lookup channelId = some channel ∧ T.handle channelId = none ∧
        s = ⟨serial, channelId, channel.topic⟩ := by
  unfold Tables.newSubscriber Tables.handle
  cases T.channels.lookup channelId <;> cases T.subscriptions.lookup channelId <;>
    simp [eq_comm]

/-- `onSubscribe` keeps a handle that is there, and makes one where there is
none. -/
theorem handle_onSubscribe (channelId : ChannelId) (clientId : ClientId) (isGateway : Bool)
    (sinkId : Option SinkId) (serial : Nat) (id : ChannelId) :
    (T.onSubscribe channelId clientId isGateway sinkId serial).1.handle id =
      if id = channelId then (T.handle id).or (T.newSubscriber channelId serial)
      else T.handle id := by
  split
  · rename_i hid
    subst hid
    cases hchannel : T.channels.lookup id with
    | none =>
        rw [onSubscribe_of_lookup_none _ _ _ _ _ _ hchannel]
        simp [Tables.newSubscriber, hchannel]
    | some channel =>
        rw [Tables.handle, lookup_onSubscribe_self _ _ _ _ _ _ hchannel, Tables.handle]
        cases hsub : T.subscriptions.lookup id with
        | none => simp [Tables.newSubscriber, hchannel, hsub, ChannelSubscription.empty]
        | some sub => simp
  · rename_i hne
    rw [Tables.handle, lookup_onSubscribe_of_ne _ _ _ _ _ _ hne, Tables.handle]

/-- `onUnsubscribe` releases the channel's handle or leaves all handles alone. -/
theorem handle_onUnsubscribe (channelId : ChannelId) (clientId : ClientId) (isGateway : Bool) :
    ((T.onUnsubscribe channelId clientId isGateway).2 = none ∧
      ∀ id, (T.onUnsubscribe channelId clientId isGateway).1.handle id = T.handle id) ∨
    ∃ released, (T.onUnsubscribe channelId clientId isGateway).2 = some released ∧
      T.handle channelId = some released.rosSubscription ∧
      ∀ id, (T.onUnsubscribe channelId clientId isGateway).1.handle id =
        if id = channelId then none else T.handle id := by
  cases hsub : T.subscriptions.lookup channelId with
  | none =>
      rw [onUnsubscribe_of_lookup_none _ _ _ _ hsub]
      exact .inl ⟨rfl, fun _ => rfl⟩
  | some sub =>
      by_cases hlast : (sub.eraseClient clientId isGateway).wsClientIds = ∅ ∧
          (sub.eraseClient clientId isGateway).gatewayClientIds = ∅
      · rw [onUnsubscribe_last _ _ _ _ hsub hlast]
        refine .inr ⟨_, rfl, by simp [Tables.handle, hsub], fun id => ?_⟩
        by_cases hid : id = channelId
        · subst hid
          simp [Tables.handle]
        · simp [Tables.handle, hid, AList.lookup_erase_ne hid]
      · rw [onUnsubscribe_not_last _ _ _ _ hsub hlast]
        refine .inl ⟨rfl, fun id => ?_⟩
        by_cases hid : id = channelId
        · subst hid
          simp [Tables.handle, hsub]
        · simp [Tables.handle, AList.lookup_insert_ne hid]

theorem handle_rosMessageHandler (channelId : ChannelId) (event : MessageEvent) (timestamp : Nat)
    (id : ChannelId) :
    (T.rosMessageHandler channelId event timestamp).1.handle id = T.handle id := by
  rcases rosMessageHandler_cases T channelId event timestamp with heq | ⟨sub, hsub, heq⟩
  · rw [heq]
  · rw [heq]
    by_cases hid : id = channelId
    · subst hid
      simp [Tables.handle, hsub, ChannelSubscription.cache]
    · simp [Tables.handle, AList.lookup_insert_ne hid]

theorem handle_removeStale (latestTopics : List TopicAndDatatype) (id : ChannelId) :
    (T.removeStale latestTopics).handle id =
      if T.removes latestTopics id then none else T.handle id := by
  have hlookup : (T.removeStale latestTopics).subscriptions.lookup id =
      if T.removes latestTopics id then none else T.subscriptions.lookup id := by
    apply Option.ext
    intro sub
    rw [lookup_removeStale_subscriptions]
    cases T.removes latestTopics id <;> simp
  rw [Tables.handle, hlookup, Tables.handle]
  split <;> rfl

/-- A removed channel's subscription is released by the poll thread. -/
theorem mem_subscriptionsToRelease {latestTopics : List TopicAndDatatype} {id : ChannelId}
    {s : Subscriber} (hremoves : T.removes latestTopics id = true) (h : T.handle id = some s) :
    ∃ sub ∈ T.subscriptionsToRelease latestTopics, sub.rosSubscription = s := by
  obtain ⟨sub, hsub, hs⟩ := Option.map_eq_some_iff.mp h
  obtain ⟨channel, hchannel, hstale⟩ := removes_iff.mp hremoves
  refine ⟨sub, List.mem_filterMap.mpr ⟨id, ?_, hsub⟩, hs⟩
  exact List.mem_map.mpr ⟨⟨id, channel⟩,
    List.mem_filter.mpr ⟨UnorderedMap.lookup_eq_some_iff.mp hchannel, hstale⟩, rfl⟩

@[simp] theorem handle_advertise (answers : Answers) (latestTopics : List TopicAndDatatype)
    (id : ChannelId) : (T.advertise answers latestTopics).1.handle id = T.handle id := by
  simp [Tables.handle]

end Handles

/-! ## Every live subscriber has an owner -/

/-- The subscriber is in the tables, held by the poll thread, or held by a client
thread. -/
def BridgeState.Owns (σ : BridgeState) (s : Subscriber) : Prop :=
  σ.tables.handle s.channel = some s ∨
    (∃ sub ∈ σ.poll.subscriptionsToRelease, sub.rosSubscription = s) ∨
    ∃ sub ∈ σ.released, sub.rosSubscription = s

/-- The subscriber is one for this channel of the table, and its topic is the
channel's. -/
def Tables.Attached (T : Tables) (id : ChannelId) (s : Subscriber) : Prop :=
  s.channel = id ∧ ∃ channel, T.channels.lookup id = some channel ∧ channel.topic = s.topic

theorem Tables.Attached.of_channels_eq {T T' : Tables} {id : ChannelId} {s : Subscriber}
    (h : T.Attached id s) (heq : T'.channels = T.channels) : T'.Attached id s := by
  rw [Tables.Attached, heq]
  exact h

/-- The bookkeeping of subscribers. -/
structure Accounted (σ : BridgeState) : Prop where
  owned : ∀ s ∈ σ.live, σ.Owns s
  attached : ∀ id s, σ.tables.handle id = some s → σ.tables.Attached id s

/-- The removal phase moves the subscribers of removed channels from the tables to
the poll thread. -/
theorem Accounted.updateTopics {σ : BridgeState} (h : Accounted σ) (hidle : σ.poll = .idle)
    (latestTopics : List TopicAndDatatype) : Accounted (σ.updateTopics latestTopics) := by
  refine ⟨?_, ?_⟩
  · intro s hs
    rcases h.owned s hs with htable | hpoll | hclient
    · cases hremoves : σ.tables.removes latestTopics s.channel with
      | true => exact .inr (.inl (mem_subscriptionsToRelease _ hremoves htable))
      | false =>
          left
          rw [BridgeState.tables, BridgeState.updateTopics, Registry.removeStale,
            handle_removeStale, hremoves]
          exact htable
    · simp [hidle, PollPhase.subscriptionsToRelease] at hpoll
    · exact .inr (.inr hclient)
  · intro id s hid
    rw [BridgeState.tables, BridgeState.updateTopics, Registry.removeStale,
      handle_removeStale] at hid
    split at hid
    · cases hid
    · rename_i hkept
      obtain ⟨hchannel, channel, hlookup, htopic⟩ := h.attached id s hid
      refine ⟨hchannel, channel, lookup_removeStale_channels.mpr ⟨hlookup, ?_⟩, htopic⟩
      simpa [Tables.removes, hlookup] using hkept

/-- The first subscriber of a channel is entered in the table as it is created. -/
theorem Accounted.createSubscription {σ σ' : BridgeState} (h : Accounted σ)
    {channelId : ChannelId} {client : TransportClient} {sinkId : Option SinkId}
    {subscriber : Subscriber}
    (hnew : σ.tables.newSubscriber channelId σ.nextSerial = some subscriber)
    (htables : σ'.registry = σ.registry.onSubscribe channelId client sinkId σ.nextSerial)
    (hlive : σ'.live = insert subscriber σ.live) (hpoll : σ'.poll = σ.poll)
    (hreleased : σ'.released = σ.released) : Accounted σ' := by
  obtain ⟨channel, hchannel, hnone, rfl⟩ := (newSubscriber_eq_some_iff _).mp hnew
  have htables' : σ'.tables = (σ.tables.onSubscribe channelId client.clientId client.isGateway
      sinkId σ.nextSerial).1 := congrArg Registry.tables htables
  have hhandle : ∀ id, σ'.tables.handle id =
      if id = channelId then some ⟨σ.nextSerial, channelId, channel.topic⟩
      else σ.tables.handle id := by
    intro id
    rw [htables', handle_onSubscribe, hnew]
    split
    · rename_i hid
      rw [hid, hnone, Option.none_or]
    · rfl
  refine ⟨?_, ?_⟩
  · intro s hs
    rw [hlive] at hs
    rcases Finset.mem_insert.mp hs with rfl | hs
    · exact .inl ((hhandle channelId).trans (if_pos rfl))
    · rw [BridgeState.Owns, hpoll, hreleased]
      refine (h.owned s hs).imp_left fun htable => (hhandle _).trans ?_
      rw [if_neg, htable]
      rintro rfl
      rw [hnone] at htable
      cases htable
  · intro id s hid
    rw [hhandle] at hid
    have hattached : σ.tables.Attached id s := by
      split at hid
      · rename_i heq
        obtain rfl := Option.some.inj hid
        exact ⟨heq.symm, channel, heq ▸ hchannel, rfl⟩
      · exact h.attached id s hid
    exact hattached.of_channels_eq (htables' ▸ onSubscribe_channels _ _ _ _ _ _)

/-- The last unsubscribe hands the channel's subscriber from the table to the
client's thread. -/
theorem Accounted.onUnsubscribe {σ : BridgeState} (h : Accounted σ) (channelId : ChannelId)
    (client : TransportClient) : Accounted (σ.onUnsubscribe channelId client) := by
  rcases handle_onUnsubscribe σ.tables channelId client.clientId client.isGateway with
    ⟨hnone, hsame⟩ | ⟨released, hsome, hheld, hhandle⟩
  · refine ⟨?_, ?_⟩
    · intro s hs
      rcases h.owned s hs with htable | hpoll | ⟨sub, hsub, heq⟩
      · exact .inl ((hsame _).trans htable)
      · exact .inr (.inl hpoll)
      · exact .inr (.inr ⟨sub, List.mem_append_left _ hsub, heq⟩)
    · intro id s hid
      exact (h.attached id s ((hsame id).symm.trans hid)).of_channels_eq
        (onUnsubscribe_channels _ _ _ _)
  · refine ⟨?_, ?_⟩
    · intro s hs
      rcases h.owned s hs with htable | hpoll | ⟨sub, hsub, heq⟩
      · by_cases hid : s.channel = channelId
        · rw [hid, hheld] at htable
          refine .inr (.inr ⟨released, ?_, Option.some.inj htable⟩)
          simp [BridgeState.onUnsubscribe, hsome]
        · exact .inl ((hhandle _).trans ((if_neg hid).trans htable))
      · exact .inr (.inl hpoll)
      · exact .inr (.inr ⟨sub, List.mem_append_left _ hsub, heq⟩)
    · intro id s hid
      have hid := (hhandle id).symm.trans hid
      split at hid
      · cases hid
      · exact (h.attached id s hid).of_channels_eq (onUnsubscribe_channels _ _ _ _)

theorem Accounted.step {σ σ' : BridgeState} {a : BridgeAction} (h : Accounted σ)
    (hs : σ.Step a σ') : Accounted σ' := by
  cases hs with
  | updateTopics hidle => exact h.updateTopics hidle _
  | closeChannel hphase =>
      refine ⟨fun s hs => ?_, h.attached⟩
      have howns := h.owned s hs
      simpa only [BridgeState.Owns, hphase, PollPhase.subscriptionsToRelease] using howns
  | @releaseSubscription sub rest latestTopics hphase =>
      refine ⟨fun s hs => ?_, h.attached⟩
      obtain ⟨hne, hs⟩ := Finset.mem_erase.mp hs
      rcases h.owned s hs with htable | ⟨held, hheld, heq⟩ | hclient
      · exact .inl htable
      · rw [hphase] at hheld
        rcases List.mem_cons.mp hheld with rfl | hrest
        · exact absurd heq.symm hne
        · exact .inr (.inl ⟨held, hrest, heq⟩)
      · exact .inr (.inr hclient)
  | @advertise latestTopics answers hphase _ hfresh =>
      refine ⟨?_, ?_⟩
      · intro s hs
        rcases h.owned s hs with htable | hpoll | hclient
        · exact .inl ((handle_advertise _ _ _ _).trans htable)
        · simp [hphase, PollPhase.subscriptionsToRelease] at hpoll
        · exact .inr (.inr hclient)
      · intro id s hid
        have hid := (handle_advertise _ _ _ _).symm.trans hid
        obtain ⟨hchannel, channel, hlookup, htopic⟩ := h.attached id s hid
        exact ⟨hchannel, channel, lookup_advertise_of_lookup latestTopics hlookup, htopic⟩
  | @joinSubscription channelId client sinkId hnone =>
      have hsame : ∀ id, (σ.tables.onSubscribe channelId client.clientId client.isGateway sinkId
          σ.nextSerial).1.handle id = σ.tables.handle id := by
        intro id
        rw [handle_onSubscribe, hnone]
        simp
      refine ⟨?_, ?_⟩
      · intro s hs
        exact (h.owned s hs).imp_left fun htable => (hsame _).trans htable
      · intro id s hid
        exact (h.attached id s ((hsame id).symm.trans hid)).of_channels_eq
          (onSubscribe_channels _ _ _ _ _ _)
  | createSubscription hnew => exact h.createSubscription hnew rfl rfl rfl rfl
  | onUnsubscribe => exact h.onUnsubscribe _ _
  | @destroyReleased position sub hsub =>
      refine ⟨fun s hs => ?_, h.attached⟩
      obtain ⟨hne, hs⟩ := Finset.mem_erase.mp hs
      rcases h.owned s hs with htable | hpoll | ⟨held, hheld, heq⟩
      · exact .inl htable
      · exact .inr (.inl hpoll)
      · have hother : held ≠ sub := fun hsame => hne (hsame ▸ heq.symm)
        exact .inr (.inr ⟨held, List.mem_eraseIdx_of_ne hheld hsub hother, heq⟩)
  | publish => exact ⟨h.owned, h.attached⟩
  | @deliver subscriber publisher sequence event timestamp =>
      have hsame := handle_rosMessageHandler σ.tables subscriber.channel event timestamp
      refine ⟨?_, ?_⟩
      · intro s hs
        exact (h.owned s hs).imp_left fun htable => (hsame _).trans htable
      · intro id s hid
        exact (h.attached id s ((hsame id).symm.trans hid)).of_channels_eq
          (rosMessageHandler_channels _ _ _ _)

/-- The tables of the bridge move by the locked sections only. -/
theorem registry_reachable {ok : BridgeState → BridgeAction → Prop} {σ : BridgeState}
    (h : lifetimeSystem.Run ok σ) : registrySystem.Reachable σ.registry := by
  apply h.simulates BridgeState.registry (by rintro _ rfl; rfl)
  intro τ a τ' _ _ hs
  cases BridgeState.step_rule hs with
  | updateTopics => exact .inr ⟨.removeStale _, rfl⟩
  | advertise _ hnodup hfresh => exact .inr ⟨.advertise _ _, if_pos ⟨hnodup, hfresh⟩⟩
  | joinSubscription => exact .inr ⟨.onSubscribe _ _ _ _, rfl⟩
  | createSubscription => exact .inr ⟨.onSubscribe _ _ _ _, rfl⟩
  | onUnsubscribe => exact .inr ⟨.onUnsubscribe _ _, rfl⟩
  | deliver => exact .inr ⟨.rosMessageHandler _ _ _, rfl⟩
  | _ => exact .inl rfl

theorem accounted_of_run {ok : BridgeState → BridgeAction → Prop} {σ : BridgeState}
    (h : lifetimeSystem.Run ok σ) : Accounted σ :=
  h.invariant
    { init := by
        rintro τ rfl
        refine ⟨fun s hs => absurd hs (Finset.notMem_empty s), fun id s hid => ?_⟩
        cases hid
      step := fun _ _ _ hI _ hs => hI.step (BridgeState.step_rule hs) }

/-- **No subscriber without an owner.** A subscriber that is alive is in the
tables under its channel, or somebody is about to destroy it. -/
theorem owned_of_reachable {σ : BridgeState} (h : lifetimeSystem.Reachable σ) :
    ∀ s ∈ σ.live, σ.Owns s :=
  (accounted_of_run h).owned

/-- The last client of a channel leaves; the thread of the callback has still to destroy the
subscriber when the topic disappears. -/
def lastClientLeaves : List BridgeAction :=
  [.updateTopics [("/t", "a/A")], .advertise ⟨fun _ => some [115], fun _ => some 1⟩,
    .onSubscribe 1 ⟨false, 7⟩ none, .onUnsubscribe 1 ⟨false, 7⟩, .updateTopics []]

theorem owned_of_reachable_released : ∃ σ, lifetimeSystem.exec .initial lastClientLeaves = some σ ∧
    ⟨0, 1, "/t"⟩ ∈ σ.live ∧ σ.Owns ⟨0, 1, "/t"⟩ := by
  obtain ⟨σ, hexec, hlive⟩ : ∃ σ, lifetimeSystem.exec .initial lastClientLeaves = some σ ∧
      ⟨0, 1, "/t"⟩ ∈ σ.live :=
    ⟨_, rfl, by decide⟩
  have hreach : lifetimeSystem.Reachable σ := TSys.Reachable.exec (.init rfl) hexec
  exact ⟨σ, hexec, hlive, owned_of_reachable hreach _ hlive⟩

end FoxgloveBridge
