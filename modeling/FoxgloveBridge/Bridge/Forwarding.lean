import FoxgloveBridge.Bridge.Lifetime

/-!
# Forwarding of messages

`rosMessageHandler` broadcasts each message it is called with; what keeps a
message from being broadcast twice is that a channel has one subscriber. After
the last unsubscribe the old subscriber stays alive until the client thread
destroys it, and a subscribe in between creates a second one for the same channel
id: both receive the next message, and both broadcast it.

`broadcasts_increasing` is about one channel: in every run in which `onSubscribe`
creates its subscribers only while no other is alive, the messages of each
publisher are broadcast in the order they were sent, each at most once.
-/

namespace FoxgloveBridge

/-- The condition on a step: `onSubscribe` creates a subscriber of this channel
only when none is alive. -/
def CreatesAlone (channelId : ChannelId) (σ : BridgeState) : BridgeAction → Prop
  | .onSubscribe id _ _ =>
      id = channelId → σ.tables.newSubscriber id σ.nextSerial ≠ none →
        ∀ s ∈ σ.live, s.channel ≠ channelId
  | _ => True

instance (channelId : ChannelId) (σ : BridgeState) (a : BridgeAction) :
    Decidable (CreatesAlone channelId σ a) :=
  match a with
  | .onSubscribe id _ _ =>
      inferInstanceAs (Decidable (id = channelId →
        σ.tables.newSubscriber id σ.nextSerial ≠ none → ∀ s ∈ σ.live, s.channel ≠ channelId))
  | .updateTopics _ | .closeChannel | .releaseSubscription | .advertise _ | .onUnsubscribe _ _
  | .destroyReleased _ | .publish _ _ | .deliver _ _ _ _ => .isTrue trivial

/-- The numbers of one publisher's messages broadcast on the channel, in order. -/
def BridgeState.forwarded (σ : BridgeState) (channelId : ChannelId) (publisher : Publisher) :
    List Nat :=
  (σ.broadcasts.filter fun b => b.channel = channelId ∧ b.publisher = publisher).map
    Broadcast.sequence

/-- What the broadcasts on a channel have in common with its subscriber. -/
structure InOrder (channelId : ChannelId) (σ : BridgeState) : Prop where
  increasing : ∀ publisher, (σ.forwarded channelId publisher).Pairwise (· < ·)
  /-- What is broadcast was sent. -/
  sent : ∀ publisher, ∀ n ∈ σ.forwarded channelId publisher, n < (σ.sent publisher).length
  /-- The subscriber is past everything broadcast. -/
  past : ∀ s ∈ σ.live, s.channel = channelId →
    ∀ publisher, ∀ n ∈ σ.forwarded channelId publisher, n < σ.cursor s publisher
  alone : ∀ s ∈ σ.live, ∀ s' ∈ σ.live, s.channel = channelId → s'.channel = channelId → s = s'
  serial : ∀ s ∈ σ.live, s.serial < σ.nextSerial

/-- A step that only takes subscribers away. -/
theorem InOrder.of_subset {channelId : ChannelId} {σ σ' : BridgeState} (h : InOrder channelId σ)
    (hlive : σ'.live ⊆ σ.live) (hbroadcasts : σ'.broadcasts = σ.broadcasts)
    (hsent : σ'.sent = σ.sent) (hcursor : σ'.cursor = σ.cursor)
    (hserial : σ'.nextSerial = σ.nextSerial) : InOrder channelId σ' := by
  have hforwarded : σ'.forwarded channelId = σ.forwarded channelId := by
    funext publisher
    rw [BridgeState.forwarded, hbroadcasts, BridgeState.forwarded]
  refine ⟨?_, ?_, ?_, ?_, ?_⟩
  · rw [hforwarded]
    exact h.increasing
  · rw [hforwarded, hsent]
    exact h.sent
  · rw [hforwarded, hcursor]
    exact fun s hs => h.past s (hlive hs)
  · exact fun s hs s' hs' => h.alone s (hlive hs) s' (hlive hs')
  · rw [hserial]
    exact fun s hs => h.serial s (hlive hs)

/-- A callback broadcasts its message or nothing. -/
theorem forwarded_deliver (σ : BridgeState) (subscriber : Subscriber) (publisher : Publisher)
    (sequence : Nat) (event : MessageEvent) (timestamp : Nat) (channelId : ChannelId)
    (p : Publisher) :
    (σ.deliver subscriber publisher sequence event timestamp).forwarded channelId p =
        σ.forwarded channelId p ∨
      (subscriber.channel = channelId ∧ publisher = p ∧
        (σ.deliver subscriber publisher sequence event timestamp).forwarded channelId p =
          σ.forwarded channelId p ++ [sequence]) := by
  unfold BridgeState.forwarded BridgeState.deliver
  dsimp only
  split
  · exact .inl rfl
  · by_cases hit : subscriber.channel = channelId ∧ publisher = p
    · exact .inr ⟨hit.1, hit.2, by simp [List.filter_append, hit]⟩
    · exact .inl (by simp [List.filter_append, hit])

theorem InOrder.deliver {channelId : ChannelId} {σ : BridgeState} (h : InOrder channelId σ)
    {subscriber : Subscriber} {publisher : Publisher} {sequence : Nat} {event : MessageEvent}
    (hdeliverable : σ.Deliverable subscriber publisher sequence)
    (hevent : (σ.sent publisher)[sequence]? = some event) (timestamp : Nat) :
    InOrder channelId (σ.deliver subscriber publisher sequence event timestamp) := by
  obtain ⟨hlive, -, hcursor⟩ := hdeliverable
  have hlength : sequence < (σ.sent publisher).length := (List.getElem?_eq_some_iff.mp hevent).1
  -- a cursor never moves back
  have hmono : ∀ s p, σ.cursor s p ≤
      (σ.deliver subscriber publisher sequence event timestamp).cursor s p := by
    intro s p
    simp only [BridgeState.deliver]
    split
    · rename_i heq
      rw [heq.1, heq.2]
      omega
    · exact le_refl _
  refine ⟨?_, ?_, ?_, h.alone, h.serial⟩
  · intro p
    rcases forwarded_deliver σ subscriber publisher sequence event timestamp channelId p with
      heq | ⟨hchannel, rfl, heq⟩
    · rw [heq]
      exact h.increasing p
    · -- what was broadcast before lies behind the cursor of the one subscriber
      rw [heq, List.pairwise_append]
      refine ⟨h.increasing _, List.pairwise_singleton _ _, fun n hn m hm => ?_⟩
      obtain rfl := List.mem_singleton.mp hm
      exact lt_of_lt_of_le (h.past subscriber hlive hchannel _ n hn) hcursor
  · intro p n hn
    rcases forwarded_deliver σ subscriber publisher sequence event timestamp channelId p with
      heq | ⟨hchannel, rfl, heq⟩
    · exact h.sent p n (heq ▸ hn)
    · rw [heq] at hn
      rcases List.mem_append.mp hn with hn | hn
      · exact h.sent _ n hn
      · obtain rfl := List.mem_singleton.mp hn
        exact hlength
  · intro s hs hchannel p n hn
    rcases forwarded_deliver σ subscriber publisher sequence event timestamp channelId p with
      heq | ⟨hsubscriber, rfl, heq⟩
    · exact lt_of_lt_of_le (h.past s hs hchannel p n (heq ▸ hn)) (hmono s p)
    · rw [heq] at hn
      rcases List.mem_append.mp hn with hn | hn
      · exact lt_of_lt_of_le (h.past s hs hchannel _ n hn) (hmono s _)
      · -- the only subscriber of the channel is the one that was called
        obtain rfl := List.mem_singleton.mp hn
        obtain rfl := h.alone s hs subscriber hlive hchannel hsubscriber
        simp [BridgeState.deliver]

theorem InOrder.step {channelId : ChannelId} {σ σ' : BridgeState} {a : BridgeAction}
    (h : InOrder channelId σ) (hok : CreatesAlone channelId σ a) (hs : σ.Step a σ') :
    InOrder channelId σ' := by
  cases hs with
  | updateTopics | closeChannel | advertise | joinSubscription | onUnsubscribe =>
      exact h.of_subset (Finset.Subset.refl _) rfl rfl rfl rfl
  | releaseSubscription | destroyReleased =>
      exact h.of_subset (Finset.erase_subset _ _) rfl rfl rfl rfl
  | @createSubscription id client sinkId subscriber hnew =>
      obtain ⟨channel, -, -, rfl⟩ := (newSubscriber_eq_some_iff _).mp hnew
      have hlone : id = channelId → ∀ s ∈ σ.live, s.channel ≠ channelId := fun heq =>
        hok heq (by rw [hnew]; simp)
      -- the new subscriber is none of those alive
      have hfresh : ∀ s ∈ σ.live, s ≠ ⟨σ.nextSerial, id, channel.topic⟩ := by
        rintro s hs rfl
        exact lt_irrefl _ (h.serial _ hs)
      refine ⟨h.increasing, h.sent, ?_, ?_, ?_⟩
      · intro s hs hchannel p n hn
        rcases Finset.mem_insert.mp hs with rfl | hs
        · simpa using h.sent p n hn
        · simpa [hfresh s hs] using h.past s hs hchannel p n hn
      · intro s hs s' hs' hc hc'
        rcases Finset.mem_insert.mp hs with rfl | hs <;>
          rcases Finset.mem_insert.mp hs' with rfl | hs'
        · rfl
        · exact absurd hc' (hlone hc s' hs')
        · exact absurd hc (hlone hc' s hs)
        · exact h.alone s hs s' hs' hc hc'
      · intro s hs
        rcases Finset.mem_insert.mp hs with rfl | hs
        · exact Nat.lt_succ_self _
        · exact Nat.lt_succ_of_lt (h.serial s hs)
  | @publish publisher event =>
      refine ⟨h.increasing, fun p n hn => ?_, h.past, h.alone, h.serial⟩
      have hn := h.sent p n hn
      simp only [BridgeState.publish]
      split
      · rw [List.length_append]
        omega
      · exact hn
  | deliver hdeliverable hevent => exact h.deliver hdeliverable hevent _

theorem InOrder.of_run {channelId : ChannelId} {σ : BridgeState}
    (h : lifetimeSystem.Run (CreatesAlone channelId) σ) : InOrder channelId σ := by
  refine h.invariant ⟨?_, fun _ _ _ hinOrder hok hs => hinOrder.step hok (BridgeState.step_rule hs)⟩
  rintro τ rfl
  refine ⟨?_, ?_, ?_, ?_, ?_⟩ <;> simp [BridgeState.initial, BridgeState.forwarded]

/-- **No duplicates, no reordering.** In every run in which `onSubscribe` creates a
subscriber of the channel only while no other is alive, the messages of each
publisher are broadcast on the channel in the order they were sent, each at most
once. -/
theorem broadcasts_increasing {channelId : ChannelId} {σ : BridgeState}
    (h : lifetimeSystem.Run (CreatesAlone channelId) σ) (publisher : Publisher) :
    (σ.forwarded channelId publisher).Pairwise (· < ·) :=
  (InOrder.of_run h).increasing publisher

/-- A topic, its channel 1, and one publisher. -/
def talker : Publisher := ⟨"/talker", "/chatter"⟩

def hello : MessageEvent := ⟨[104, 105], none⟩

/-- The SDK creates channel 1, with its definition. -/
def chatterAnswers : Answers where
  getMessageDescription _ := some [115]
  create _ := some 1

/-- One client leaves, its subscriber is destroyed, another client comes. -/
theorem broadcasts_increasing_destroyed : ∃ σ : BridgeState,
    σ.forwarded 1 talker = [0, 1] ∧ (σ.forwarded 1 talker).Pairwise (· < ·) := by
  let schedule : List BridgeAction :=
    [.updateTopics [("/chatter", "std_msgs/String")], .advertise chatterAnswers,
      .onSubscribe 1 ⟨false, 7⟩ none, .publish talker hello,
      .deliver ⟨0, 1, "/chatter"⟩ talker 0 10, .onUnsubscribe 1 ⟨false, 7⟩, .destroyReleased 0,
      .onSubscribe 1 ⟨true, 8⟩ none, .publish talker hello,
      .deliver ⟨1, 1, "/chatter"⟩ talker 1 20]
  have hguard : lifetimeSystem.Guarded (CreatesAlone 1) .initial schedule := by
    decide
  obtain ⟨σ, hexec, hforwarded⟩ : ∃ σ, lifetimeSystem.exec .initial schedule = some σ ∧
      σ.forwarded 1 talker = [0, 1] :=
    ⟨_, rfl, by decide⟩
  exact ⟨σ, hforwarded, broadcasts_increasing (TSys.Run.exec (.init rfl) hguard hexec) talker⟩

/-- **A message broadcast twice.** The second client subscribes before the first
one's subscriber is destroyed, and both subscribers receive the next message. -/
theorem not_broadcasts_increasing :
    ¬ ∀ σ, lifetimeSystem.Reachable σ → ∀ publisher,
      (σ.forwarded 1 publisher).Pairwise (· < ·) := by
  intro hall
  obtain ⟨σ, hexec, hforwarded⟩ : ∃ σ, lifetimeSystem.exec .initial
      [.updateTopics [("/chatter", "std_msgs/String")], .advertise chatterAnswers,
        .onSubscribe 1 ⟨false, 7⟩ none, .onUnsubscribe 1 ⟨false, 7⟩,
        .onSubscribe 1 ⟨true, 8⟩ none, .publish talker hello,
        .deliver ⟨0, 1, "/chatter"⟩ talker 0 10,
        .deliver ⟨1, 1, "/chatter"⟩ talker 0 20] = some σ ∧ σ.forwarded 1 talker = [0, 0] :=
    ⟨_, rfl, by decide⟩
  have hincreasing := hall σ (TSys.Reachable.exec (.init rfl) hexec) talker
  rw [hforwarded] at hincreasing
  exact absurd hincreasing (by decide)

end FoxgloveBridge
