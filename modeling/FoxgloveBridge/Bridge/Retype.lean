import FoxgloveBridge.Bridge.Lifetime

/-!
# Retyped topics

When a topic changes its type, `updateAdvertisedTopics` removes its channel and
creates another one. A `ros::Subscriber` of the old channel that is still alive
then would lock the new one to the old type's md5sum. The poll thread destroys
the subscribers of the channels it removes before it advertises; a subscriber that
a client's last unsubscribe has moved out of the table is destroyed by the client
thread, which nothing orders before the advertise phase.

`alive_eq_empty` says that this is the only way: in every run in which no client
thread still holds a subscriber of a retyped topic when the advertise phase
starts, and the listed topics have one type each, no old subscriber is alive.
-/

namespace FoxgloveBridge

/-- Each topic is listed with one datatype, which is not empty. -/
structure UniquelyTyped (latestTopics : List TopicAndDatatype) : Prop where
  datatype_ne : ∀ latest ∈ latestTopics, latest.2 ≠ ""
  unique : ∀ latest ∈ latestTopics, ∀ other ∈ latestTopics, latest.1 = other.1 → latest = other

instance (latestTopics : List TopicAndDatatype) : Decidable (UniquelyTyped latestTopics) :=
  decidable_of_iff
    ((∀ latest ∈ latestTopics, latest.2 ≠ "") ∧
      ∀ latest ∈ latestTopics, ∀ other ∈ latestTopics, latest.1 = other.1 → latest = other)
    ⟨fun h => ⟨h.1, h.2⟩, fun h => ⟨h.datatype_ne, h.unique⟩⟩

/-- The condition on a step: listed topics have one type each, and the advertise
phase starts when no client thread holds a subscriber of a retyped topic. -/
def ReleasedBeforeAdvertise (σ : BridgeState) : BridgeAction → Prop
  | .updateTopics latestTopics => UniquelyTyped latestTopics
  | .advertise _ => ∀ sub ∈ σ.released, sub.rosSubscription.topic ∉ σ.retyped
  | _ => True

instance (σ : BridgeState) (a : BridgeAction) : Decidable (ReleasedBeforeAdvertise σ a) :=
  match a with
  | .updateTopics latestTopics => inferInstanceAs (Decidable (UniquelyTyped latestTopics))
  | .advertise _ =>
      inferInstanceAs (Decidable (∀ sub ∈ σ.released, sub.rosSubscription.topic ∉ σ.retyped))
  | .closeChannel | .releaseSubscription | .onSubscribe _ _ _ | .onUnsubscribe _ _
  | .destroyReleased _ | .publish _ _ | .deliver _ _ _ _ => .isTrue trivial

/-- Between the two phases the table holds channels of listed topics only. -/
structure CleanlyRetyped (σ : BridgeState) : Prop where
  creations : ∀ creation ∈ σ.creations, creation.retyped = true → creation.alive = ∅
  phase : ∀ channelsToClose subs latestTopics,
    σ.poll = .tearingDown channelsToClose subs latestTopics → UniquelyTyped latestTopics ∧
      ∀ id channel, σ.tables.channels.lookup id = some channel →
        channel.isStale latestTopics = false

/-- A channel the removal phase kept serves the topic it is listed for. -/
theorem serves_of_not_stale {channel : RawChannel} {latestTopics : List TopicAndDatatype}
    (htyped : UniquelyTyped latestTopics) (hkept : channel.isStale latestTopics = false)
    {latest : TopicAndDatatype} (hlatest : latest ∈ latestTopics)
    (htopic : channel.topic = latest.1) : channel.serves latest = true := by
  have hlisted : (channel.topic, channel.schemaName) ∈ latestTopics := by
    simpa [RawChannel.isStale] using hkept
  have heq : (channel.topic, channel.schemaName) = latest :=
    htyped.unique _ hlisted _ hlatest htopic
  have hname : channel.schemaName ≠ "" := htyped.datatype_ne _ hlisted
  cases hschema : channel.schema with
  | none => simp [RawChannel.schemaName, hschema] at hname
  | some schema =>
      refine serves_iff.mpr ⟨htopic, schema, hschema, ?_⟩
      rw [← heq]
      simp [RawChannel.schemaName, hschema]

/-- No subscriber of a topic is alive when a channel is created for it, unless a
client thread holds it. -/
theorem not_live_of_created {σ : BridgeState} (haccounted : Accounted σ)
    (hclean : CleanlyRetyped σ) {latestTopics : List TopicAndDatatype} {answers : Answers}
    (hphase : σ.poll = .tearingDown [] [] latestTopics) {id : ChannelId} {channel : RawChannel}
    (hcreated : (id, channel) ∈ (σ.tables.advertise answers latestTopics).2) {s : Subscriber}
    (hlive : s ∈ σ.live) (htopic : s.topic = channel.topic) :
    ∃ sub ∈ σ.released, sub.rosSubscription = s := by
  obtain ⟨latest, hlatest, hnew, -, rfl⟩ := of_mem_created hcreated
  obtain ⟨htyped, hkept⟩ := hclean.phase _ _ _ hphase
  rcases haccounted.owned s hlive with htable | hpoll | hclient
  · -- its channel is still there, and serves the topic
    obtain ⟨-, old, hlookup, hold⟩ := haccounted.attached _ _ htable
    have hserves : old.serves latest = true :=
      serves_of_not_stale htyped (hkept _ _ hlookup) hlatest (hold.trans htopic)
    have hadvertised := advertises_iff.mpr ⟨_, _, hlookup, hserves⟩
    rw [hnew] at hadvertised
    cases hadvertised
  · simp [hphase, PollPhase.subscriptionsToRelease] at hpoll
  · exact hclient

/-- Steps that neither create channels nor remove any. -/
theorem CleanlyRetyped.of_channels {σ σ' : BridgeState} (h : CleanlyRetyped σ)
    (hcreations : σ'.creations = σ.creations) (hpoll : σ'.poll = σ.poll)
    (hchannels : σ'.tables.channels = σ.tables.channels) : CleanlyRetyped σ' := by
  refine ⟨?_, ?_⟩
  · rw [hcreations]
    exact h.creations
  · rw [hpoll, hchannels]
    exact h.phase

theorem CleanlyRetyped.step {σ σ' : BridgeState} {a : BridgeAction} (h : CleanlyRetyped σ)
    (haccounted : Accounted σ) (hok : ReleasedBeforeAdvertise σ a) (hs : σ.Step a σ') :
    CleanlyRetyped σ' := by
  cases hs with
  | updateTopics =>
      refine ⟨h.creations, ?_⟩
      rintro channelsToClose subs latestTopics ⟨rfl, rfl, rfl⟩
      exact ⟨hok, fun id channel hlookup => (lookup_removeStale_channels.mp hlookup).2⟩
  | closeChannel hphase | releaseSubscription hphase =>
      refine ⟨h.creations, ?_⟩
      rintro channelsToClose subs latestTopics ⟨rfl, rfl, rfl⟩
      exact h.phase _ _ _ hphase
  | @advertise latestTopics answers hphase =>
      refine ⟨fun creation hmem hretyped => ?_, fun _ _ _ hidle => by cases hidle⟩
      rcases List.mem_append.mp hmem with hmem | hmem
      · exact h.creations creation hmem hretyped
      · obtain ⟨topic, htopic, rfl⟩ := List.mem_map.mp hmem
        obtain ⟨⟨id, channel⟩, hcreated, rfl⟩ := List.mem_map.mp htopic
        apply Finset.filter_eq_empty_iff.mpr
        intro s hlive hstopic
        -- a live subscriber of the topic could only be with a client thread
        obtain ⟨sub, hsub, rfl⟩ :=
          not_live_of_created haccounted h hphase hcreated hlive hstopic
        apply hok sub hsub
        rw [hstopic]
        exact of_decide_eq_true hretyped
  | joinSubscription | createSubscription =>
      exact h.of_channels rfl rfl (onSubscribe_channels _ _ _ _ _ _)
  | onUnsubscribe => exact h.of_channels rfl rfl (onUnsubscribe_channels _ _ _ _)
  | destroyReleased | publish => exact h.of_channels rfl rfl rfl
  | deliver => exact h.of_channels rfl rfl (rosMessageHandler_channels _ _ _ _)

/-- **Retyped topics.** In every run whose steps meet the condition, whenever a
channel is created for a topic whose previous channel was removed for its type,
no subscriber of an earlier channel of the topic is alive. -/
theorem alive_eq_empty {σ : BridgeState} (h : lifetimeSystem.Run ReleasedBeforeAdvertise σ) :
    ∀ creation ∈ σ.creations, creation.retyped = true → creation.alive = ∅ := by
  have hclean : CleanlyRetyped σ := h.invariant_of (J := Accounted)
    (fun _ hτ => accounted_of_run hτ)
    (by
      rintro τ rfl
      exact ⟨by simp [BridgeState.initial], by simp [BridgeState.initial]⟩)
    fun _ _ _ hI hJ hok hs => hI.step hJ hok (BridgeState.step_rule hs)
  exact hclean.creations

/-- The SDK and the provider for one update: every definition is found. -/
def answersFor (channelId : ChannelId) : Answers where
  getMessageDescription _ := some [115]
  create _ := some channelId

/-- A client's last unsubscribe, with the destruction of the subscriber before the
topic changes its type. -/
theorem alive_eq_empty_destroyed : ∃ σ : BridgeState,
    σ.creations.map Creation.retyped = [false, true] ∧
      ∀ creation ∈ σ.creations, creation.retyped = true → creation.alive = ∅ := by
  let schedule : List BridgeAction :=
    [.updateTopics [("/t", "a/A")], .advertise (answersFor 1), .onSubscribe 1 ⟨false, 7⟩ none,
      .onUnsubscribe 1 ⟨false, 7⟩, .updateTopics [("/t", "b/B")], .closeChannel,
      .destroyReleased 0, .advertise (answersFor 2)]
  have hguard : lifetimeSystem.Guarded ReleasedBeforeAdvertise .initial schedule := by
    decide
  obtain ⟨σ, hexec, hcreations⟩ : ∃ σ, lifetimeSystem.exec .initial schedule = some σ ∧
      σ.creations.map Creation.retyped = [false, true] :=
    ⟨_, rfl, by decide⟩
  exact ⟨σ, hcreations, alive_eq_empty (TSys.Run.exec (.init rfl) hguard hexec)⟩

/-- **An old subscriber alive.** The client thread is between the lock and the
destruction when the topic changes its type: the new channel is created while the
subscriber of the old one is alive. -/
theorem not_alive_eq_empty :
    ¬ ∀ σ, lifetimeSystem.Reachable σ →
      ∀ creation ∈ σ.creations, creation.retyped = true → creation.alive = ∅ := by
  intro hall
  obtain ⟨σ, hexec, halive⟩ : ∃ σ, lifetimeSystem.exec .initial
      [.updateTopics [("/t", "a/A")], .advertise (answersFor 1), .onSubscribe 1 ⟨false, 7⟩ none,
        .onUnsubscribe 1 ⟨false, 7⟩, .updateTopics [("/t", "b/B")], .closeChannel,
        .advertise (answersFor 2)] = some σ ∧
      ∃ creation ∈ σ.creations, creation.retyped = true ∧ creation.alive = {⟨0, 1, "/t"⟩} :=
    ⟨_, rfl, _, List.mem_cons_of_mem _ List.mem_cons_self, by decide, by decide⟩
  obtain ⟨creation, hmem, hretyped, hone⟩ := halive
  have hnone := hall σ (TSys.Reachable.exec (.init rfl) hexec) creation hmem hretyped
  rw [hnone] at hone
  exact absurd hone (by decide)

end FoxgloveBridge
