import FoxgloveBridge.Lib.StdMap
import FoxgloveBridge.Lib.UnorderedMap
import Mathlib.Data.Finset.Basic
import Mathlib.Data.String.Basic

/-!
# The channel tables

The bridge's three tables `_channels`, `_subscriptions` and `_latchedChannels`,
and the locked sections that update them, each as a pure function: `onSubscribe`,
`onUnsubscribe`, `rosMessageHandler`, and the two phases of
`updateAdvertisedTopics`. What a section does outside the tables (messages it
logs, a subscription it releases, channels it closes) is part of its result.

The lemmas say what each section does to one table at one channel id; later
modules use these and not the definitions.
-/

namespace FoxgloveBridge

abbrev ChannelId := Nat

abbrev ClientId := Nat

abbrev SinkId := Nat

/-- A topic and its datatype, as `getPublishedTopics` lists them. -/
abbrev TopicAndDatatype := String × String

/-- `foxglove::Schema`. -/
structure Schema where
  name : String
  encoding : String
  data : List UInt8
  deriving DecidableEq, Repr

/-- `foxglove::RawChannel`: what it was created with. Its id is the key it is
held under in `_channels`. -/
structure RawChannel where
  topic : String
  encoding : String
  schema : Option Schema
  deriving DecidableEq, Repr

/-- A `ros::Subscriber`: the handle of the subscription the bridge made on
`topic` for `channel`. -/
structure Subscriber where
  serial : Nat
  channel : ChannelId
  topic : String
  deriving DecidableEq, Repr

structure CachedLatchedMessage where
  data : List UInt8
  timestamp : Nat
  deriving DecidableEq, Repr

structure ChannelSubscription where
  rosSubscription : Subscriber
  wsClientIds : Finset ClientId
  gatewayClientIds : Finset ClientId
  /-- The last message of each latched publisher, by callerid. -/
  latchedMessages : List (String × CachedLatchedMessage)
  deriving DecidableEq

/-- A ROS message with its connection header. -/
structure MessageEvent where
  data : List UInt8
  connectionHeader : Option (List (String × String))
  deriving DecidableEq, Repr

/-- A message handed to `channel.log`, for one sink or for all. -/
structure ChannelLog where
  channel : ChannelId
  data : List UInt8
  timestamp : Nat
  sink : Option SinkId
  deriving DecidableEq, Repr

structure Tables where
  /-- `_channels`. -/
  channels : UnorderedMap ChannelId RawChannel
  /-- `_subscriptions`. -/
  subscriptions : UnorderedMap ChannelId ChannelSubscription
  /-- `_latchedChannels`. -/
  latchedChannels : Finset ChannelId
  deriving DecidableEq

/-- The bridge before its first update. -/
def Tables.empty : Tables where
  channels := ∅
  subscriptions := ∅
  latchedChannels := ∅

/-! ## Clients -/

/-- A subscription no client has joined yet. -/
def ChannelSubscription.empty (rosSubscription : Subscriber) : ChannelSubscription where
  rosSubscription := rosSubscription
  wsClientIds := ∅
  gatewayClientIds := ∅
  latchedMessages := []

/-- The clients of one transport. -/
def ChannelSubscription.clientIds (sub : ChannelSubscription) (isGateway : Bool) :
    Finset ClientId :=
  if isGateway then sub.gatewayClientIds else sub.wsClientIds

def ChannelSubscription.insertClient (sub : ChannelSubscription) (clientId : ClientId)
    (isGateway : Bool) : ChannelSubscription :=
  if isGateway then { sub with gatewayClientIds := insert clientId sub.gatewayClientIds }
  else { sub with wsClientIds := insert clientId sub.wsClientIds }

def ChannelSubscription.eraseClient (sub : ChannelSubscription) (clientId : ClientId)
    (isGateway : Bool) : ChannelSubscription :=
  if isGateway then { sub with gatewayClientIds := sub.gatewayClientIds.erase clientId }
  else { sub with wsClientIds := sub.wsClientIds.erase clientId }

/-- `onSubscribe`. The first subscriber of a channel creates the ROS subscription,
`serial` being the handle roscpp gives it; a later one has the latched messages
replayed to its sink. -/
def Tables.onSubscribe (T : Tables) (channelId : ChannelId) (clientId : ClientId)
    (isGateway : Bool) (sinkId : Option SinkId) (serial : Nat) : Tables × List ChannelLog :=
  match T.channels.lookup channelId with
  | none => (T, [])
  | some channel =>
      match T.subscriptions.lookup channelId with
      | none =>
          let channelSub := ChannelSubscription.empty ⟨serial, channelId, channel.topic⟩
          ({ T with
              subscriptions :=
                T.subscriptions.insert channelId (channelSub.insertClient clientId isGateway) }, [])
      | some sub =>
          let replayed : List ChannelLog :=
            match sinkId with
            | none => []
            | some sink =>
                sub.latchedMessages.map fun (_, cached) =>
                  ⟨channelId, cached.data, cached.timestamp, some sink⟩
          ({ T with
              subscriptions :=
                T.subscriptions.insert channelId (sub.insertClient clientId isGateway) }, replayed)

/-- `onUnsubscribe`, with the subscription it moves out of the table for
destruction after the lock. -/
def Tables.onUnsubscribe (T : Tables) (channelId : ChannelId) (clientId : ClientId)
    (isGateway : Bool) : Tables × Option ChannelSubscription :=
  match T.subscriptions.lookup channelId with
  | none => (T, none)
  | some sub =>
      let sub := sub.eraseClient clientId isGateway
      if sub.wsClientIds = ∅ ∧ sub.gatewayClientIds = ∅ then
        ({ T with
            subscriptions := T.subscriptions.erase channelId
            latchedChannels := T.latchedChannels.erase channelId }, some sub)
      else ({ T with subscriptions := T.subscriptions.insert channelId sub }, none)

/-! ## Messages -/

/-- The connection header says that the publisher latches. -/
def MessageEvent.latching (event : MessageEvent) : Bool :=
  match event.connectionHeader with
  | none => false
  | some header => header.lookup "latching" == some "1"

/-- The publisher's callerid, empty when the header has none. -/
def MessageEvent.callerid (event : MessageEvent) : String :=
  match event.connectionHeader with
  | none => ""
  | some header => (header.lookup "callerid").getD ""

/-- Cache a latched message under its publisher. -/
def ChannelSubscription.cache (sub : ChannelSubscription) (event : MessageEvent)
    (timestamp : Nat) : ChannelSubscription :=
  { sub with
    latchedMessages :=
      StdMap.insert event.callerid ⟨event.data, timestamp⟩ sub.latchedMessages }

/-- `rosMessageHandler`, with the message it logs to the channel. -/
def Tables.rosMessageHandler (T : Tables) (channelId : ChannelId) (event : MessageEvent)
    (timestamp : Nat) : Tables × Option ChannelLog :=
  match T.channels.lookup channelId with
  | none => (T, none)
  | some _ =>
      let logged : ChannelLog := ⟨channelId, event.data, timestamp, none⟩
      if event.latching then
        match T.subscriptions.lookup channelId with
        | none => (T, some logged)
        | some sub =>
            ({ T with
                subscriptions := T.subscriptions.insert channelId (sub.cache event timestamp)
                latchedChannels := insert channelId T.latchedChannels }, some logged)
      else (T, some logged)

/-! ## Topic updates -/

/-- The name of the schema, empty for a channel without one. -/
def RawChannel.schemaName (channel : RawChannel) : String :=
  match channel.schema with
  | none => ""
  | some schema => schema.name

/-- The removal phase finds no entry for the channel in the latest topics. -/
def RawChannel.isStale (latestTopics : List TopicAndDatatype) (channel : RawChannel) : Bool :=
  !latestTopics.contains (channel.topic, channel.schemaName)

/-- The channel under this id is about to be removed. -/
def Tables.removes (T : Tables) (latestTopics : List TopicAndDatatype) (channelId : ChannelId) :
    Bool :=
  (T.channels.lookup channelId).any (RawChannel.isStale latestTopics)

/-- The first locked section of `updateAdvertisedTopics`: the tables without the
stale channels. -/
def Tables.removeStale (T : Tables) (latestTopics : List TopicAndDatatype) : Tables where
  channels := UnorderedMap.filter (fun _ channel => !channel.isStale latestTopics) T.channels
  subscriptions :=
    UnorderedMap.filter (fun channelId _ => !T.removes latestTopics channelId) T.subscriptions
  latchedChannels := T.latchedChannels.filter fun channelId => !T.removes latestTopics channelId

/-- `channelsToClose`, in iteration order. -/
def Tables.channelsToClose (T : Tables) (latestTopics : List TopicAndDatatype) : List ChannelId :=
  (T.channels.entries.filter fun e => e.2.isStale latestTopics).map Sigma.fst

/-- `subscriptionsToRelease`, in the same order. -/
def Tables.subscriptionsToRelease (T : Tables) (latestTopics : List TopicAndDatatype) :
    List ChannelSubscription :=
  (T.channelsToClose latestTopics).filterMap T.subscriptions.lookup

/-- What one update learns from outside: the message definitions the provider
finds, and the id of each channel the SDK creates (`none` if it fails to). -/
structure Answers where
  getMessageDescription : String → Option (List UInt8)
  create : TopicAndDatatype → Option ChannelId

/-- The channel that is created for a topic: without a definition it has no
schema. -/
def Answers.channel (answers : Answers) (topic : TopicAndDatatype) : RawChannel where
  topic := topic.1
  encoding := "ros1"
  schema := (answers.getMessageDescription topic.2).map fun definition =>
    { name := topic.2, encoding := "ros1msg", data := definition }

/-- The test of the advertise phase: the channel has a schema of that name. -/
def RawChannel.serves (channel : RawChannel) (topic : TopicAndDatatype) : Bool :=
  channel.topic == topic.1 && channel.schema.any fun schema => schema.name == topic.2

/-- Some channel serves the topic already. -/
def Tables.advertises (T : Tables) (topic : TopicAndDatatype) : Bool :=
  T.channels.entries.any fun e => e.2.serves topic

/-- `_channels.insert`, which keeps a channel that is there already. -/
def Tables.insertChannel (T : Tables) (channelId : ChannelId) (channel : RawChannel) : Tables :=
  { T with channels := UnorderedMap.emplace channelId channel T.channels }

/-- The second locked section of `updateAdvertisedTopics`, over the latest topics
in the order they are iterated, with the channels it creates. -/
def Tables.advertise (answers : Answers) :
    List TopicAndDatatype → Tables → Tables × List (ChannelId × RawChannel)
  | [], T => (T, [])
  | topic :: rest, T =>
      if T.advertises topic then advertise answers rest T
      else
        match answers.create topic with
        | none => advertise answers rest T
        | some channelId =>
            let channel := answers.channel topic
            let result := advertise answers rest (T.insertChannel channelId channel)
            (result.1, (channelId, channel) :: result.2)

/-- The ids the SDK hands out are new, and no id is handed out twice. -/
structure FreshIds (used : ChannelId → Prop) (latestTopics : List TopicAndDatatype)
    (answers : Answers) : Prop where
  unused : ∀ topic ∈ latestTopics, ∀ channelId ∈ answers.create topic, ¬ used channelId
  distinct : ∀ topic ∈ latestTopics, ∀ other ∈ latestTopics,
    ∀ channelId ∈ answers.create topic, channelId ∈ answers.create other → topic = other

instance (used : ChannelId → Prop) [DecidablePred used] (latestTopics : List TopicAndDatatype)
    (answers : Answers) : Decidable (FreshIds used latestTopics answers) :=
  decidable_of_iff
    ((∀ topic ∈ latestTopics, ∀ channelId ∈ answers.create topic, ¬ used channelId) ∧
      ∀ topic ∈ latestTopics, ∀ other ∈ latestTopics, ∀ channelId ∈ answers.create topic,
        channelId ∈ answers.create other → topic = other)
    ⟨fun h => ⟨h.1, h.2⟩, fun h => ⟨h.unused, h.distinct⟩⟩

/-! ## What the client sections do -/

section Subscription

variable (sub : ChannelSubscription) (clientId other : ClientId) (isGateway isGateway' : Bool)

theorem mem_clientIds_insertClient :
    other ∈ (sub.insertClient clientId isGateway).clientIds isGateway' ↔
      (isGateway' = isGateway ∧ other = clientId) ∨ other ∈ sub.clientIds isGateway' := by
  cases isGateway <;> cases isGateway' <;>
    simp [ChannelSubscription.insertClient, ChannelSubscription.clientIds]

theorem mem_clientIds_eraseClient :
    other ∈ (sub.eraseClient clientId isGateway).clientIds isGateway' ↔
      ¬ (isGateway' = isGateway ∧ other = clientId) ∧ other ∈ sub.clientIds isGateway' := by
  cases isGateway <;> cases isGateway' <;>
    simp [ChannelSubscription.eraseClient, ChannelSubscription.clientIds]

@[simp] theorem insertClient_latchedMessages :
    (sub.insertClient clientId isGateway).latchedMessages = sub.latchedMessages := by
  cases isGateway <;> rfl

@[simp] theorem insertClient_rosSubscription :
    (sub.insertClient clientId isGateway).rosSubscription = sub.rosSubscription := by
  cases isGateway <;> rfl

@[simp] theorem eraseClient_latchedMessages :
    (sub.eraseClient clientId isGateway).latchedMessages = sub.latchedMessages := by
  cases isGateway <;> rfl

@[simp] theorem eraseClient_rosSubscription :
    (sub.eraseClient clientId isGateway).rosSubscription = sub.rosSubscription := by
  cases isGateway <;> rfl

@[simp] theorem clientIds_empty (rosSubscription : Subscriber) :
    (ChannelSubscription.empty rosSubscription).clientIds isGateway = ∅ := by
  cases isGateway <;> rfl

/-- No client is left, on either transport. -/
theorem clientIds_eq_empty_iff :
    (sub.wsClientIds = ∅ ∧ sub.gatewayClientIds = ∅) ↔
      ∀ isGateway clientId, clientId ∉ sub.clientIds isGateway := by
  simp [ChannelSubscription.clientIds, Finset.eq_empty_iff_forall_notMem]

end Subscription

section Clients

variable (T : Tables) (channelId : ChannelId) (clientId : ClientId) (isGateway : Bool)
  (sinkId : Option SinkId) (serial : Nat)

@[simp] theorem onSubscribe_channels :
    (T.onSubscribe channelId clientId isGateway sinkId serial).1.channels = T.channels := by
  unfold Tables.onSubscribe
  split
  · rfl
  · split <;> rfl

@[simp] theorem onSubscribe_latchedChannels :
    (T.onSubscribe channelId clientId isGateway sinkId serial).1.latchedChannels =
      T.latchedChannels := by
  unfold Tables.onSubscribe
  split
  · rfl
  · split <;> rfl

theorem onSubscribe_of_lookup_none (h : T.channels.lookup channelId = none) :
    (T.onSubscribe channelId clientId isGateway sinkId serial).1 = T := by
  simp [Tables.onSubscribe, h]

theorem lookup_onSubscribe_self {channel : RawChannel}
    (h : T.channels.lookup channelId = some channel) :
    (T.onSubscribe channelId clientId isGateway sinkId serial).1.subscriptions.lookup channelId =
      some (((T.subscriptions.lookup channelId).getD
        (.empty ⟨serial, channelId, channel.topic⟩)).insertClient clientId isGateway) := by
  unfold Tables.onSubscribe
  rw [h]
  cases T.subscriptions.lookup channelId <;> simp

theorem lookup_onSubscribe_of_ne {other : ChannelId} (h : other ≠ channelId) :
    (T.onSubscribe channelId clientId isGateway sinkId serial).1.subscriptions.lookup other =
      T.subscriptions.lookup other := by
  unfold Tables.onSubscribe
  split
  · rfl
  · split <;> simp [AList.lookup_insert_ne h]

@[simp] theorem onUnsubscribe_channels :
    (T.onUnsubscribe channelId clientId isGateway).1.channels = T.channels := by
  unfold Tables.onUnsubscribe
  split
  · rfl
  · dsimp only
    split <;> rfl

theorem onUnsubscribe_of_lookup_none (h : T.subscriptions.lookup channelId = none) :
    T.onUnsubscribe channelId clientId isGateway = (T, none) := by
  simp [Tables.onUnsubscribe, h]

theorem lookup_onUnsubscribe_of_ne {other : ChannelId} (h : other ≠ channelId) :
    (T.onUnsubscribe channelId clientId isGateway).1.subscriptions.lookup other =
      T.subscriptions.lookup other := by
  unfold Tables.onUnsubscribe
  split
  · rfl
  · dsimp only
    split
    · exact AList.lookup_erase_ne h
    · exact AList.lookup_insert_ne h

theorem mem_latchedChannels_onUnsubscribe_of_ne {other : ChannelId} (h : other ≠ channelId) :
    other ∈ (T.onUnsubscribe channelId clientId isGateway).1.latchedChannels ↔
      other ∈ T.latchedChannels := by
  unfold Tables.onUnsubscribe
  split
  · rfl
  · dsimp only
    split
    · simp [h]
    · rfl

/-- The last client is gone: the subscription is moved out. -/
theorem onUnsubscribe_last {sub : ChannelSubscription}
    (h : T.subscriptions.lookup channelId = some sub)
    (hlast : (sub.eraseClient clientId isGateway).wsClientIds = ∅ ∧
      (sub.eraseClient clientId isGateway).gatewayClientIds = ∅) :
    T.onUnsubscribe channelId clientId isGateway =
      ({ T with
          subscriptions := T.subscriptions.erase channelId
          latchedChannels := T.latchedChannels.erase channelId },
        some (sub.eraseClient clientId isGateway)) := by
  simp [Tables.onUnsubscribe, h, hlast]

/-- Some client is left: the subscription stays. -/
theorem onUnsubscribe_not_last {sub : ChannelSubscription}
    (h : T.subscriptions.lookup channelId = some sub)
    (hlast : ¬ ((sub.eraseClient clientId isGateway).wsClientIds = ∅ ∧
      (sub.eraseClient clientId isGateway).gatewayClientIds = ∅)) :
    T.onUnsubscribe channelId clientId isGateway =
      ({ T with
          subscriptions :=
            T.subscriptions.insert channelId (sub.eraseClient clientId isGateway) }, none) := by
  simp [Tables.onUnsubscribe, h, hlast]

end Clients

/-! ## What the message handler does -/

section Messages

variable (T : Tables) (channelId : ChannelId) (event : MessageEvent) (timestamp : Nat)

@[simp] theorem rosMessageHandler_channels :
    (T.rosMessageHandler channelId event timestamp).1.channels = T.channels := by
  unfold Tables.rosMessageHandler
  split
  · rfl
  · dsimp only
    split
    · split <;> rfl
    · rfl

theorem lookup_rosMessageHandler_of_ne {other : ChannelId} (h : other ≠ channelId) :
    (T.rosMessageHandler channelId event timestamp).1.subscriptions.lookup other =
      T.subscriptions.lookup other := by
  unfold Tables.rosMessageHandler
  split
  · rfl
  · dsimp only
    split
    · split
      · rfl
      · exact AList.lookup_insert_ne h
    · rfl

theorem mem_latchedChannels_rosMessageHandler_of_ne {other : ChannelId} (h : other ≠ channelId) :
    other ∈ (T.rosMessageHandler channelId event timestamp).1.latchedChannels ↔
      other ∈ T.latchedChannels := by
  unfold Tables.rosMessageHandler
  split
  · rfl
  · dsimp only
    split
    · split
      · rfl
      · simp [h]
    · rfl

/-- Either the tables stay, or the message of a latched publisher is cached. -/
theorem rosMessageHandler_cases :
    (T.rosMessageHandler channelId event timestamp).1 = T ∨
      ∃ sub, T.subscriptions.lookup channelId = some sub ∧
        (T.rosMessageHandler channelId event timestamp).1 =
          { T with
            subscriptions := T.subscriptions.insert channelId (sub.cache event timestamp)
            latchedChannels := insert channelId T.latchedChannels } := by
  unfold Tables.rosMessageHandler
  split
  · exact .inl rfl
  · dsimp only
    split
    · split
      · exact .inl rfl
      · exact .inr ⟨_, ‹_›, rfl⟩
    · exact .inl rfl

end Messages

/-! ## What the topic update does -/

section Topics

variable {T : Tables} {latestTopics : List TopicAndDatatype}

theorem removes_iff {channelId : ChannelId} : T.removes latestTopics channelId = true ↔
    ∃ channel, T.channels.lookup channelId = some channel ∧
      channel.isStale latestTopics = true := by
  simp [Tables.removes, Option.any_eq_true]

theorem lookup_removeStale_channels {channelId : ChannelId} {channel : RawChannel} :
    (T.removeStale latestTopics).channels.lookup channelId = some channel ↔
      T.channels.lookup channelId = some channel ∧ channel.isStale latestTopics = false := by
  rw [Tables.removeStale, UnorderedMap.lookup_filter_eq_some_iff, Bool.not_eq_true']

theorem lookup_removeStale_subscriptions {channelId : ChannelId} {sub : ChannelSubscription} :
    (T.removeStale latestTopics).subscriptions.lookup channelId = some sub ↔
      T.subscriptions.lookup channelId = some sub ∧
        T.removes latestTopics channelId = false := by
  rw [Tables.removeStale, UnorderedMap.lookup_filter_eq_some_iff, Bool.not_eq_true']

theorem mem_removeStale_latchedChannels {channelId : ChannelId} :
    channelId ∈ (T.removeStale latestTopics).latchedChannels ↔
      channelId ∈ T.latchedChannels ∧ T.removes latestTopics channelId = false := by
  rw [Tables.removeStale, Finset.mem_filter, Bool.not_eq_true']

/-- A channel stays unless it is removed. -/
theorem mem_removeStale_channels {channelId : ChannelId} :
    channelId ∈ (T.removeStale latestTopics).channels ↔
      channelId ∈ T.channels ∧ T.removes latestTopics channelId = false := by
  simp only [UnorderedMap.mem_iff_lookup, lookup_removeStale_channels, Tables.removes]
  constructor
  · rintro ⟨channel, hlookup, hfresh⟩
    exact ⟨⟨channel, hlookup⟩, by simp [hlookup, hfresh]⟩
  · rintro ⟨⟨channel, hlookup⟩, hnot⟩
    exact ⟨channel, hlookup, by simpa [hlookup] using hnot⟩

theorem advertises_iff {topic : TopicAndDatatype} : T.advertises topic = true ↔
    ∃ channelId channel, T.channels.lookup channelId = some channel ∧
      channel.serves topic = true := by
  simp only [Tables.advertises, List.any_eq_true, UnorderedMap.lookup_eq_some_iff]
  exact ⟨fun ⟨e, he, hs⟩ => ⟨e.1, e.2, he, hs⟩, fun ⟨i, c, he, hs⟩ => ⟨⟨i, c⟩, he, hs⟩⟩

theorem serves_iff {channel : RawChannel} {topic : TopicAndDatatype} :
    channel.serves topic = true ↔
      channel.topic = topic.1 ∧ ∃ schema, channel.schema = some schema ∧ schema.name = topic.2 := by
  simp [RawChannel.serves, Option.any_eq_true]

/-- A created channel serves at most the topic it is created for. -/
theorem eq_of_channel_serves {answers : Answers} {topic other : TopicAndDatatype}
    (h : (answers.channel topic).serves other = true) : other = topic := by
  obtain ⟨htopic, schema, hschema, hname⟩ := serves_iff.mp h
  obtain ⟨definition, -, rfl⟩ := Option.map_eq_some_iff.mp hschema
  exact Prod.ext htopic.symm hname.symm

/-- It does serve that topic if the definition was found. -/
theorem channel_serves_iff {answers : Answers} {topic : TopicAndDatatype} :
    (answers.channel topic).serves topic = true ↔
      (answers.getMessageDescription topic.2).isSome := by
  cases h : answers.getMessageDescription topic.2 <;> simp [RawChannel.serves, Answers.channel, h]

theorem advertises_insertChannel {channelId : ChannelId} {channel : RawChannel}
    {topic : TopicAndDatatype}
    (h : (T.insertChannel channelId channel).advertises topic = true) :
    T.advertises topic = true ∨ channel.serves topic = true := by
  obtain ⟨other, c, hlookup, hserves⟩ := advertises_iff.mp h
  by_cases heq : other = channelId ∧ channelId ∉ T.channels
  · obtain ⟨rfl, hnew⟩ := heq
    rw [Tables.insertChannel, UnorderedMap.emplace_of_notMem hnew, AList.lookup_insert] at hlookup
    obtain rfl := Option.some.inj hlookup
    exact .inr hserves
  · refine .inl (advertises_iff.mpr ⟨other, c, ?_, hserves⟩)
    by_cases hmem : channelId ∈ T.channels
    · rwa [Tables.insertChannel, UnorderedMap.emplace, if_pos hmem] at hlookup
    · have hne : other ≠ channelId := fun hother => heq ⟨hother, hmem⟩
      rwa [Tables.insertChannel, UnorderedMap.lookup_emplace_of_ne hne] at hlookup

theorem advertises_of_lookup_le {T' : Tables}
    (h : ∀ channelId channel, T.channels.lookup channelId = some channel →
      T'.channels.lookup channelId = some channel)
    {topic : TopicAndDatatype} (ht : T.advertises topic = true) : T'.advertises topic = true := by
  obtain ⟨channelId, channel, hlookup, hserves⟩ := advertises_iff.mp ht
  exact advertises_iff.mpr ⟨channelId, channel, h _ _ hlookup, hserves⟩

variable {answers : Answers}

/-- The three ways one topic of the advertise phase can go. -/
theorem advertise_cons_cases (answers : Answers) (topic : TopicAndDatatype)
    (rest : List TopicAndDatatype) (T : Tables) :
    ((T.advertises topic = true ∨ answers.create topic = none) ∧
      T.advertise answers (topic :: rest) = T.advertise answers rest) ∨
    (T.advertises topic = false ∧ ∃ channelId, answers.create topic = some channelId ∧
      T.advertise answers (topic :: rest) =
        (((T.insertChannel channelId (answers.channel topic)).advertise answers rest).1,
          (channelId, answers.channel topic) ::
            ((T.insertChannel channelId (answers.channel topic)).advertise answers rest).2)) := by
  rw [Tables.advertise]
  by_cases ht : T.advertises topic = true
  · exact .inl ⟨.inl ht, by rw [if_pos ht]⟩
  · rw [if_neg ht]
    cases hcreate : answers.create topic with
    | none => exact .inl ⟨.inr rfl, rfl⟩
    | some channelId => exact .inr ⟨by simpa using ht, channelId, rfl, rfl⟩

@[simp] theorem advertise_subscriptions (latestTopics : List TopicAndDatatype) (T : Tables) :
    (T.advertise answers latestTopics).1.subscriptions = T.subscriptions := by
  induction latestTopics generalizing T with
  | nil => rfl
  | cons topic rest ih =>
      rcases advertise_cons_cases answers topic rest T with
        ⟨-, heq⟩ | ⟨-, channelId, -, heq⟩
      · rw [heq, ih]
      · rw [heq, ih]
        rfl

@[simp] theorem advertise_latchedChannels (latestTopics : List TopicAndDatatype) (T : Tables) :
    (T.advertise answers latestTopics).1.latchedChannels = T.latchedChannels := by
  induction latestTopics generalizing T with
  | nil => rfl
  | cons topic rest ih =>
      rcases advertise_cons_cases answers topic rest T with
        ⟨-, heq⟩ | ⟨-, channelId, -, heq⟩
      · rw [heq, ih]
      · rw [heq, ih]
        rfl

/-- Channels that are there stay. -/
theorem lookup_advertise_of_lookup {channelId : ChannelId} {channel : RawChannel}
    (latestTopics : List TopicAndDatatype) (h : T.channels.lookup channelId = some channel) :
    (T.advertise answers latestTopics).1.channels.lookup channelId = some channel := by
  induction latestTopics generalizing T with
  | nil => exact h
  | cons topic rest ih =>
      rcases advertise_cons_cases answers topic rest T with
        ⟨-, heq⟩ | ⟨-, newId, -, heq⟩
      · rw [heq]
        exact ih h
      · rw [heq]
        exact ih (UnorderedMap.lookup_emplace_of_lookup h)

/-- A channel that is there afterwards was there before or was created. -/
theorem of_lookup_advertise {channelId : ChannelId} {channel : RawChannel}
    {latestTopics : List TopicAndDatatype}
    (h : (T.advertise answers latestTopics).1.channels.lookup channelId = some channel) :
    T.channels.lookup channelId = some channel ∨
      (channelId, channel) ∈ (T.advertise answers latestTopics).2 := by
  induction latestTopics generalizing T with
  | nil => exact .inl h
  | cons topic rest ih =>
      rcases advertise_cons_cases answers topic rest T with
        ⟨-, heq⟩ | ⟨-, newId, -, heq⟩
      · rw [heq] at h ⊢
        exact ih h
      · rw [heq] at h ⊢
        rcases ih h with hbefore | hcreated
        · by_cases hmem : newId ∈ T.channels
          · left
            rwa [Tables.insertChannel, UnorderedMap.emplace, if_pos hmem] at hbefore
          · by_cases hne : channelId = newId
            · subst hne
              rw [Tables.insertChannel, UnorderedMap.emplace_of_notMem hmem,
                AList.lookup_insert] at hbefore
              obtain rfl := Option.some.inj hbefore
              exact .inr List.mem_cons_self
            · left
              rwa [Tables.insertChannel, UnorderedMap.lookup_emplace_of_ne hne] at hbefore
        · exact .inr (List.mem_cons_of_mem _ hcreated)

/-- Where a created channel comes from. -/
theorem of_mem_created {channelId : ChannelId} {channel : RawChannel}
    {latestTopics : List TopicAndDatatype}
    (h : (channelId, channel) ∈ (T.advertise answers latestTopics).2) :
    ∃ topic ∈ latestTopics, T.advertises topic = false ∧
      answers.create topic = some channelId ∧ channel = answers.channel topic := by
  induction latestTopics generalizing T with
  | nil => simp [Tables.advertise] at h
  | cons topic rest ih =>
      rcases advertise_cons_cases answers topic rest T with
        ⟨-, heq⟩ | ⟨hnew, newId, hcreate, heq⟩
      · rw [heq] at h
        obtain ⟨t, ht, hrest⟩ := ih h
        exact ⟨t, List.mem_cons_of_mem _ ht, hrest⟩
      · rw [heq] at h
        rcases List.mem_cons.mp h with hhead | htail
        · obtain ⟨rfl, rfl⟩ := Prod.mk.inj hhead
          exact ⟨topic, List.mem_cons_self, hnew, hcreate, rfl⟩
        · obtain ⟨t, ht, hadv, hrest⟩ := ih htail
          refine ⟨t, List.mem_cons_of_mem _ ht, ?_, hrest⟩
          rw [Bool.eq_false_iff] at hadv ⊢
          exact fun htrue => hadv (advertises_of_lookup_le
            (fun _ _ hl => UnorderedMap.lookup_emplace_of_lookup hl) htrue)

/-- A topic nothing serves gets a channel, if the SDK creates it. -/
theorem mem_created {latestTopics : List TopicAndDatatype} (hnodup : latestTopics.Nodup)
    {topic : TopicAndDatatype} (ht : topic ∈ latestTopics) (hadv : T.advertises topic = false)
    {channelId : ChannelId} (hcreate : answers.create topic = some channelId) :
    (channelId, answers.channel topic) ∈ (T.advertise answers latestTopics).2 := by
  induction latestTopics generalizing T with
  | nil => simp at ht
  | cons head rest ih =>
      obtain ⟨hhead, hrest⟩ := List.nodup_cons.mp hnodup
      rcases advertise_cons_cases answers head rest T with
        ⟨hskip, heq⟩ | ⟨-, newId, hnew, heq⟩
      · rw [heq]
        rcases List.mem_cons.mp ht with rfl | ht
        · simp [hadv, hcreate] at hskip
        · exact ih hrest ht hadv
      · rw [heq]
        rcases List.mem_cons.mp ht with rfl | ht
        · obtain rfl := Option.some.inj (hcreate.symm.trans hnew)
          exact List.mem_cons_self
        · refine List.mem_cons_of_mem _ (ih hrest ht ?_)
          rw [Bool.eq_false_iff] at hadv ⊢
          intro htrue
          rcases advertises_insertChannel htrue with h | h
          · exact hadv h
          · exact hhead (eq_of_channel_serves h ▸ ht)

theorem FreshIds.tail {used : ChannelId → Prop} {topic : TopicAndDatatype}
    {rest : List TopicAndDatatype} (h : FreshIds used (topic :: rest) answers) :
    FreshIds used rest answers where
  unused t ht := h.unused t (List.mem_cons_of_mem _ ht)
  distinct t ht t' ht' :=
    h.distinct t (List.mem_cons_of_mem _ ht) t' (List.mem_cons_of_mem _ ht')

/-- The ids of the topics that follow stay new when one channel is inserted. -/
theorem FreshIds.insertChannel {topic : TopicAndDatatype} {rest : List TopicAndDatatype}
    {channelId : ChannelId} {channel : RawChannel}
    (h : FreshIds (· ∈ T.channels) (topic :: rest) answers) (hhead : topic ∉ rest)
    (hcreate : answers.create topic = some channelId) :
    FreshIds (· ∈ (T.insertChannel channelId channel).channels) rest answers := by
  refine ⟨fun t ht i hi hused => ?_, h.tail.distinct⟩
  rcases UnorderedMap.mem_emplace.mp hused with rfl | hused
  · have hsame : topic = t :=
      h.distinct topic List.mem_cons_self t (List.mem_cons_of_mem _ ht) i hcreate hi
    exact hhead (hsame ▸ ht)
  · exact h.tail.unused t ht i hi hused

/-- With new ids, a created channel is found under its id. -/
theorem lookup_advertise_of_mem_created {latestTopics : List TopicAndDatatype}
    (hnodup : latestTopics.Nodup) (hfresh : FreshIds (· ∈ T.channels) latestTopics answers)
    {channelId : ChannelId} {channel : RawChannel}
    (h : (channelId, channel) ∈ (T.advertise answers latestTopics).2) :
    (T.advertise answers latestTopics).1.channels.lookup channelId = some channel := by
  induction latestTopics generalizing T with
  | nil => simp [Tables.advertise] at h
  | cons topic rest ih =>
      obtain ⟨hhead, hrest⟩ := List.nodup_cons.mp hnodup
      rcases advertise_cons_cases answers topic rest T with
        ⟨-, heq⟩ | ⟨-, newId, hcreate, heq⟩
      · rw [heq] at h ⊢
        exact ih hrest hfresh.tail h
      · rw [heq] at h ⊢
        have hnew : newId ∉ T.channels := hfresh.unused topic List.mem_cons_self newId hcreate
        rcases List.mem_cons.mp h with hfirst | htail
        · obtain ⟨rfl, rfl⟩ := Prod.mk.inj hfirst
          apply lookup_advertise_of_lookup _
          rw [Tables.insertChannel, UnorderedMap.emplace_of_notMem hnew, AList.lookup_insert]
        · exact ih hrest (hfresh.insertChannel hhead hcreate) htail

/-- The advertise phase creates nothing exactly when every topic is served or
cannot get a channel; the tables then stay as they are. -/
theorem created_eq_nil_iff {latestTopics : List TopicAndDatatype} :
    (T.advertise answers latestTopics).2 = [] ↔
      ∀ topic ∈ latestTopics, T.advertises topic = true ∨ answers.create topic = none := by
  induction latestTopics with
  | nil => simp [Tables.advertise]
  | cons topic rest ih =>
      rw [List.forall_mem_cons]
      rcases advertise_cons_cases answers topic rest T with
        ⟨hskip, heq⟩ | ⟨hnew, newId, hcreate, heq⟩
      · rw [heq, ih]
        exact ⟨fun h => ⟨hskip, h⟩, And.right⟩
      · rw [heq]
        simp [hnew, hcreate]

theorem advertise_of_created_eq_nil {latestTopics : List TopicAndDatatype}
    (h : (T.advertise answers latestTopics).2 = []) :
    (T.advertise answers latestTopics).1 = T := by
  induction latestTopics with
  | nil => rfl
  | cons topic rest ih =>
      rcases advertise_cons_cases answers topic rest T with
        ⟨-, heq⟩ | ⟨-, newId, -, heq⟩
      · rw [heq] at h ⊢
        exact ih h
      · rw [heq] at h
        cases h

end Topics

end FoxgloveBridge
