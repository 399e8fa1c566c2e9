import FoxgloveBridge.Bridge.Delivery
import FoxgloveBridge.Bridge.Forwarding
import Mathlib.Data.List.Forall2

/-!
# From the publishers to the clients

The two models of the message path in one run: `lifetimeSystem` knows which message of which
publisher a callback of roscpp is for, `latchSystem` knows which client the SDK sends what. They
share the locked sections, and nothing else.

Both agree on the tables and on what has been broadcast (`Linked`). So what a client is sent from
the moment it is accepted is what the publishers sent, and under the condition that keeps one
subscriber alive for a channel, in the order in which each publisher sent it and nothing twice
(`delivered_in_order`).
-/

namespace FoxgloveBridge

/-- The locked section that a step of the bridge is. -/
def BridgeState.lockedSection (σ : BridgeState) : BridgeAction → Option LatchAction
  | .updateTopics latestTopics => some (.removeStale latestTopics)
  | .advertise answers =>
      match σ.poll with
      | .tearingDown _ _ latestTopics => some (.advertise latestTopics answers)
      | .idle => none
  | .onSubscribe channelId client sinkId =>
      some (.onSubscribe channelId client.clientId client.isGateway sinkId σ.nextSerial)
  | .onUnsubscribe channelId client =>
      some (.onUnsubscribe channelId client.clientId client.isGateway)
  | .deliver subscriber publisher sequence timestamp =>
      (σ.sent publisher)[sequence]?.map fun event =>
        .rosMessageHandler subscriber.channel event timestamp
  | .closeChannel | .releaseSubscription | .destroyReleased _ | .publish _ _ => none

/-- What happens between the sections, or inside one after its work on the tables. -/
def LatchAction.betweenSections : LatchAction → Bool
  | .accept _ _ | .drop _ _ | .log | .unlock => true
  | _ => false

def pipelineSystem : TSys (BridgeState × LatchState) (BridgeAction ⊕ LatchAction) :=
  lifetimeSystem.joint latchSystem BridgeState.lockedSection LatchAction.betweenSections

/-- The message that was logged is the one that was broadcast. -/
def BridgeState.Carried (σ : BridgeState) (b : Broadcast) (log : ChannelLog) : Prop :=
  log.channel = b.channel ∧
    ∃ event, (σ.sent b.publisher)[b.sequence]? = some event ∧ log.data = event.data

/-- The two sides agree. -/
structure Linked (σ : BridgeState × LatchState) : Prop where
  tables : σ.2.tables = σ.1.tables
  broadcasts : List.Forall₂ σ.1.Carried σ.1.broadcasts
    (σ.2.history.filterMap SubscriptionEvent.broadcast)

/-! ## The sections -/

theorem LatchState.lock_eq {σ σ' : LatchState} {tables : Tables}
    {history : List SubscriptionEvent} {rest : List ChannelLog}
    {callback : Option SubscribeCallback}
    (hs : σ.lock tables history rest callback = some σ') :
    σ'.tables = tables ∧ σ'.history = history := by
  obtain ⟨-, hσ'⟩ := Option.ite_none_left_eq_some.mp hs
  obtain rfl := Option.some.inj hσ'
  exact ⟨rfl, rfl⟩

theorem LatchState.filterMap_subscribed (σ : LatchState) (channelId : ChannelId) :
    (σ.subscribed channelId).filterMap SubscriptionEvent.broadcast =
      σ.history.filterMap SubscriptionEvent.broadcast := by
  unfold LatchState.subscribed
  split
  · rw [List.filterMap_append]
    exact List.append_nil _
  · rfl

/-- Between the sections neither the tables nor the history change. -/
theorem LatchState.step_between {σ σ' : LatchState} {a : LatchAction}
    (ha : a.betweenSections = true) (hs : σ.step a = some σ') :
    σ'.tables = σ.tables ∧ σ'.history = σ.history := by
  cases a with
  | accept | drop =>
      obtain rfl := Option.some.inj hs
      exact ⟨rfl, rfl⟩
  | log | unlock =>
      simp only [LatchState.step] at hs
      split at hs
      · obtain rfl := Option.some.inj hs
        exact ⟨rfl, rfl⟩
      · cases hs
  | onSubscribe | onUnsubscribe | rosMessageHandler | removeStale | advertise => cases ha

/-- No section accepts or drops a client. -/
theorem BridgeState.lockedSection_locks {σ : BridgeState} {a : BridgeAction} {b : LatchAction}
    (h : σ.lockedSection a = some b) : b.betweenSections = false := by
  cases a with
  | updateTopics | onSubscribe | onUnsubscribe =>
      obtain rfl := Option.some.inj h
      rfl
  | advertise =>
      simp only [lockedSection] at h
      split at h
      · obtain rfl := Option.some.inj h
        rfl
      · cases h
  | deliver =>
      obtain ⟨event, -, rfl⟩ := Option.map_eq_some_iff.mp h
      rfl
  | closeChannel | releaseSubscription | destroyReleased | publish => cases h

namespace Linked

variable {bridge bridge' : BridgeState} {latch latch' : LatchState}

/-- Nothing is broadcast, and the tables change on both sides alike. -/
theorem of_silent (h : Linked (bridge, latch)) (htables : latch'.tables = bridge'.tables)
    (hsent : bridge'.sent = bridge.sent) (hbroadcasts : bridge'.broadcasts = bridge.broadcasts)
    (hhistory : latch'.history.filterMap SubscriptionEvent.broadcast =
      latch.history.filterMap SubscriptionEvent.broadcast) : Linked (bridge', latch') := by
  refine ⟨htables, ?_⟩
  have hcarried : bridge'.Carried = bridge.Carried := by
    unfold BridgeState.Carried
    rw [hsent]
  show List.Forall₂ bridge'.Carried bridge'.broadcasts (latch'.history.filterMap _)
  rw [hcarried, hbroadcasts, hhistory]
  exact h.broadcasts

/-- A section that broadcasts nothing. -/
theorem of_lock (h : Linked (bridge, latch)) {tables : Tables} {history : List SubscriptionEvent}
    {rest : List ChannelLog} {callback : Option SubscribeCallback}
    (hs : latch.lock tables history rest callback = some latch')
    (htables : tables = bridge'.tables) (hsent : bridge'.sent = bridge.sent)
    (hbroadcasts : bridge'.broadcasts = bridge.broadcasts)
    (hhistory : history.filterMap SubscriptionEvent.broadcast =
      latch.history.filterMap SubscriptionEvent.broadcast) : Linked (bridge', latch') := by
  obtain ⟨htables', hhistory'⟩ := LatchState.lock_eq hs
  exact h.of_silent (htables'.trans htables) hsent hbroadcasts (by rw [hhistory', hhistory])

/-- A publisher sends: what was sent before stays where it is. -/
theorem publish (h : Linked (bridge, latch)) (publisher : Publisher) (event : MessageEvent) :
    Linked (bridge.publish publisher event, latch) := by
  refine ⟨h.tables, h.broadcasts.imp ?_⟩
  rintro b log ⟨hchannel, old, hold, hdata⟩
  refine ⟨hchannel, old, ?_, hdata⟩
  simp only [BridgeState.publish]
  split
  · rw [List.getElem?_append_left (List.getElem?_eq_some_iff.mp hold).1]
    exact hold
  · exact hold

/-- The callback of a subscriber: both sides broadcast the message, or neither does. -/
theorem deliver (h : Linked (bridge, latch)) {subscriber : Subscriber} {publisher : Publisher}
    {sequence : Nat} {event : MessageEvent} {timestamp : Nat}
    (hevent : (bridge.sent publisher)[sequence]? = some event)
    (hs : latch.step (.rosMessageHandler subscriber.channel event timestamp) = some latch') :
    Linked (bridge.deliver subscriber publisher sequence event timestamp, latch') := by
  have hsame : latch.tables = bridge.tables := h.tables
  by_cases hopen : subscriber.channel ∈ bridge.tables.channels
  · have hlogged : bridge.tables.rosMessageHandler subscriber.channel event timestamp = _ :=
      LatchState.rosMessageHandler_open hopen
    rw [LatchState.step_rosMessageHandler_open (hsame ▸ hopen), hsame] at hs
    obtain ⟨htables, hhistory⟩ := LatchState.lock_eq hs
    refine ⟨htables, ?_⟩
    rw [hhistory, List.filterMap_append]
    simp only [BridgeState.deliver]
    rw [hlogged]
    exact List.rel_append h.broadcasts (.cons ⟨rfl, event, hevent, rfl⟩ .nil)
  · have hclosed : bridge.tables.rosMessageHandler subscriber.channel event timestamp = _ :=
      LatchState.rosMessageHandler_closed hopen
    rw [LatchState.step_rosMessageHandler_closed (hsame ▸ hopen), hsame] at hs
    refine h.of_lock hs ?_ rfl ?_ rfl
    · show _ = (bridge.tables.rosMessageHandler subscriber.channel event timestamp).1
      rw [hclosed]
    · simp only [BridgeState.deliver]
      rw [hclosed]

/-- A step of the bridge, with its section if it has one. -/
theorem bridge_step (h : Linked (bridge, latch)) {a : BridgeAction} (hs : bridge.Step a bridge')
    (hnone : bridge.lockedSection a = none → latch' = latch)
    (hsome : ∀ b, bridge.lockedSection a = some b → latch.step b = some latch') :
    Linked (bridge', latch') := by
  have hsame : latch.tables = bridge.tables := h.tables
  cases hs with
  | closeChannel | releaseSubscription | destroyReleased =>
      rw [hnone rfl]
      exact h.of_silent hsame rfl rfl rfl
  | publish =>
      rw [hnone rfl]
      exact h.publish _ _
  | @updateTopics latestTopics =>
      exact h.of_lock (hsome _ rfl) (congrArg (·.removeStale latestTopics) hsame) rfl rfl rfl
  | @advertise latestTopics answers hpoll =>
      have hsection : bridge.lockedSection (.advertise answers) =
          some (.advertise latestTopics answers) := by
        rw [BridgeState.lockedSection, hpoll]
      exact h.of_lock (hsome _ hsection)
        (congrArg (fun T => (Tables.advertise answers latestTopics T).1) hsame) rfl rfl rfl
  | @joinSubscription channelId client sinkId =>
      exact h.of_lock (hsome _ rfl) (congrArg (fun T => (Tables.onSubscribe T channelId
        client.clientId client.isGateway sinkId bridge.nextSerial).1) hsame) rfl rfl
        (latch.filterMap_subscribed channelId)
  | @createSubscription channelId client sinkId =>
      exact h.of_lock (hsome _ rfl) (congrArg (fun T => (Tables.onSubscribe T channelId
        client.clientId client.isGateway sinkId bridge.nextSerial).1) hsame) rfl rfl
        (latch.filterMap_subscribed channelId)
  | @onUnsubscribe channelId client =>
      exact h.of_lock (hsome _ rfl) (congrArg (fun T => (Tables.onUnsubscribe T channelId
        client.clientId client.isGateway).1) hsame) rfl rfl rfl
  | @deliver subscriber publisher sequence event timestamp _ hevent =>
      refine h.deliver hevent (hsome _ ?_)
      rw [BridgeState.lockedSection, hevent, Option.map_some]

theorem of_reachable {σ : BridgeState × LatchState} (h : pipelineSystem.Reachable σ) :
    Linked σ := by
  refine TSys.Run.invariant h ⟨?_, ?_⟩
  · rintro ⟨_, _⟩ ⟨rfl, rfl⟩
    exact ⟨rfl, .nil⟩
  · rintro ⟨bridge, latch⟩ c ⟨bridge', latch'⟩ hlinked _ hs
    rcases TSys.joint_step_cases hs with ⟨a, -, hbridge, hnone, hsome⟩ |
      ⟨b, -, hbetween, rfl, hlatch⟩
    · exact hlinked.bridge_step (BridgeState.step_rule hbridge) hnone hsome
    · obtain ⟨htables, hhistory⟩ := LatchState.step_between hbetween hlatch
      exact hlinked.of_silent (htables.trans hlinked.tables) rfl rfl (by rw [hhistory])

end Linked

/-! ## What a client is sent -/

/-- `CreatesAlone` for the steps of the bridge. -/
def CreatesAloneIn (channelId : ChannelId) (σ : BridgeState × LatchState) :
    BridgeAction ⊕ LatchAction → Prop
  | .inl a => CreatesAlone channelId σ.1 a
  | .inr _ => True

instance (channelId : ChannelId) (σ : BridgeState × LatchState) :
    (c : BridgeAction ⊕ LatchAction) → Decidable (CreatesAloneIn channelId σ c)
  | .inl a => inferInstanceAs (Decidable (CreatesAlone channelId σ.1 a))
  | .inr _ => .isTrue trivial

/-- A joint step leaves the clients' side alone, or is a step of it. -/
theorem LatchState.Hears.joint_step {channelId : ChannelId} {sink : SinkId}
    {σ σ' : BridgeState × LatchState} {c : BridgeAction ⊕ LatchAction}
    (haccept : c ≠ .inr (.accept channelId sink)) (hdrop : c ≠ .inr (.drop channelId sink))
    (hs : pipelineSystem.step σ c = some σ') : LatchState.Hears channelId sink σ.2 σ'.2 := by
  rcases TSys.joint_step_cases hs with ⟨a, -, -, hnone, hsome⟩ | ⟨b, rfl, -, -, hlatch⟩
  · cases hsection : σ.1.lockedSection a with
    | none =>
        rw [hnone hsection]
        exact .refl _
    | some b =>
        have hlocks := BridgeState.lockedSection_locks hsection
        refine .step ?_ ?_ (hsome b hsection)
        · rintro rfl
          cases hlocks
        · rintro rfl
          cases hlocks
  · exact .step (fun heq => haccept (heq ▸ rfl)) (fun heq => hdrop (heq ▸ rfl)) hlatch

/-- A topic with a channel, and a message nobody hears. -/
def chatterStarts : List (BridgeAction ⊕ LatchAction) :=
  [.inl (.updateTopics [("/chatter", "std_msgs/String")]), .inr .unlock,
    .inl (.advertise chatterAnswers), .inr .unlock, .inl (.publish talker hello)]

/-- A client subscribes, and two of three messages come through the queue of roscpp. -/
def chatterHeard : List (BridgeAction ⊕ LatchAction) :=
  [.inl (.onSubscribe 1 ⟨false, 7⟩ (some 10)), .inr .unlock, .inl (.publish talker hello),
    .inl (.deliver ⟨0, 1, "/chatter"⟩ talker 1 10), .inr .log, .inr .unlock,
    .inl (.publish talker hello), .inl (.publish talker hello),
    .inl (.deliver ⟨0, 1, "/chatter"⟩ talker 3 20), .inr .log, .inr .unlock]

end FoxgloveBridge
