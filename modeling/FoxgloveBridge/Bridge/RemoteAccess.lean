import FoxgloveBridge.Lib.Lists
import FoxgloveBridge.Bridge.Latched
import FoxgloveBridge.Utils
import Mathlib.Data.List.Induction

/-!
# Reliability on remote access

What the bridge answers when the gateway asks whether to deliver a channel reliably. The SDK
asks once for each channel and session, when it advertises the channel, and keeps the answer.

ROS tells that a topic is latched only with its messages, so the answer depends on the
moment. The bridge asks nothing but its set `_latchedChannels`, under a mutex of its own; the
set says exactly which channels have been sent a latched message on the ROS subscription they
have now (`latched_iff`). So a session gets a channel reliably if the topic is listed, in any
case, and otherwise if such a message came before it was asked about (`qos_classified`).
-/

namespace FoxgloveBridge

/-- `foxglove::Reliability`; a `QosProfile` is lossy by default. -/
inductive Reliability
  | lossy
  | reliable
  deriving DecidableEq, Repr

/-- `foxglove::ChannelDescriptor`, as far as it is read. -/
structure ChannelDescriptor where
  id : ChannelId
  topic : String
  deriving DecidableEq, Repr

def classifyRemoteAccessQos (reliableTopicPatterns : Whitelist)
    (latchedChannels : Finset ChannelId) (channel : ChannelDescriptor) : Reliability :=
  if matchesRegex channel.topic reliableTopicPatterns then .reliable
  else if channel.id ∈ latchedChannels then .reliable
  else .lossy

/-! ## What the set of latched channels says -/

/-- A latched message of the channel was handled, and its ROS subscription is still the same. -/
def LatchedSince (channelId : ChannelId) (history : List SubscriptionEvent) : Prop :=
  ∃ before event timestamp after,
    history = before ++ .handled channelId event timestamp :: after ∧ event.latching = true ∧
      .created channelId ∉ after

theorem not_latchedSince_nil (channelId : ChannelId) : ¬ LatchedSince channelId [] := by
  rintro ⟨before, event, timestamp, after, heq, -⟩
  cases List.append_eq_nil_iff.mp heq.symm |>.2

/-- The last event decides, unless it is about something else. -/
theorem latchedSince_append_singleton (channelId : ChannelId) (history : List SubscriptionEvent)
    (e : SubscriptionEvent) : LatchedSince channelId (history ++ [e]) ↔
      (∃ event timestamp, e = .handled channelId event timestamp ∧ event.latching = true) ∨
        e ≠ .created channelId ∧ LatchedSince channelId history := by
  constructor
  · rintro ⟨before, event, timestamp, after, heq, hlatching, hcreated⟩
    cases after using List.reverseRecOn with
    | nil =>
        obtain ⟨rfl, hlast⟩ := List.append_inj' heq rfl
        exact .inl ⟨event, timestamp, List.cons.inj hlast |>.1, hlatching⟩
    | append_singleton after last =>
        rw [← List.cons_append, ← List.append_assoc] at heq
        obtain ⟨rfl, hlast⟩ := List.append_inj' heq rfl
        obtain rfl := (List.cons.inj hlast).1
        refine .inr ⟨?_, before, event, timestamp, after, rfl, hlatching, ?_⟩
        · rintro rfl
          exact hcreated (List.mem_append_right _ (List.mem_singleton_self _))
        · exact fun hmem => hcreated (List.mem_append_left _ hmem)
  · rintro (⟨event, timestamp, rfl, hlatching⟩ |
      ⟨hother, before, event, timestamp, after, rfl, hlatching, hcreated⟩)
    · exact ⟨history, event, timestamp, [], rfl, hlatching, List.not_mem_nil⟩
    · refine ⟨before, event, timestamp, after ++ [e], by simp, hlatching, ?_⟩
      intro hmem
      rcases List.mem_append.mp hmem with hafter | hlast
      · exact hcreated hafter
      · exact hother (List.mem_singleton.mp hlast).symm

/-- Some publisher has a last latched message exactly if one was handled. -/
theorem exists_lastLatched_iff (channelId : ChannelId) (history : List SubscriptionEvent) :
    (∃ callerid, lastLatched channelId callerid history ≠ none) ↔
      LatchedSince channelId history := by
  induction history using List.reverseRecOn with
  | nil =>
      refine iff_of_false ?_ (not_latchedSince_nil channelId)
      rintro ⟨callerid, hlast⟩
      exact hlast rfl
  | append_singleton history e ih =>
      simp only [latchedSince_append_singleton, ← ih, lastLatched_append_singleton]
      cases e with
      | created id =>
          by_cases hid : id = channelId
          · simp [SubscriptionEvent.update, hid]
          · simp [SubscriptionEvent.update, hid]
      | handled id event timestamp =>
          by_cases hhit : id = channelId ∧ event.latching = true
          · obtain ⟨rfl, hlatching⟩ := hhit
            refine iff_of_true ⟨event.callerid, ?_⟩ (.inl ⟨event, timestamp, rfl, hlatching⟩)
            simp [SubscriptionEvent.update, hlatching]
          · have hkeeps : ∀ callerid last,
                SubscriptionEvent.update channelId callerid last (.handled id event timestamp) =
                  last := by
              intro callerid last
              exact if_neg fun h => hhit ⟨h.1, h.2.1⟩
            simp only [hkeeps]
            refine ⟨fun h => .inr ⟨nofun, h⟩, ?_⟩
            rintro (⟨other, stamp, heq, hlatching⟩ | ⟨-, h⟩)
            · cases heq
              exact absurd ⟨rfl, hlatching⟩ hhit
            · exact h

/-- The channels in `_latchedChannels` are those whose cache is not empty. -/
def LatchedExact (T : Tables) : Prop :=
  ∀ channelId, channelId ∈ T.latchedChannels ↔ ∃ cache, T.cacheOf channelId = some cache ∧
    cache ≠ []

namespace LatchedExact

variable {T : Tables}

theorem onSubscribe (h : LatchedExact T) (channelId : ChannelId) (clientId : ClientId)
    (isGateway : Bool) (sinkId : Option SinkId) (serial : Nat) :
    LatchedExact (T.onSubscribe channelId clientId isGateway sinkId serial).1 := by
  intro other
  rw [onSubscribe_latchedChannels, h other, cacheOf_onSubscribe]
  split
  · cases hcache : T.cacheOf other with
    | none => simp
    | some cache => simp
  · exact Iff.rfl

theorem onUnsubscribe (h : LatchedExact T) (channelId : ChannelId) (clientId : ClientId)
    (isGateway : Bool) : LatchedExact (T.onUnsubscribe channelId clientId isGateway).1 := by
  intro other
  by_cases hne : other = channelId
  · subst hne
    cases hsub : T.subscriptions.lookup other with
    | none => rw [onUnsubscribe_of_lookup_none _ _ _ _ hsub]; exact h other
    | some sub =>
        by_cases hlast : (sub.eraseClient clientId isGateway).wsClientIds = ∅ ∧
            (sub.eraseClient clientId isGateway).gatewayClientIds = ∅
        · rw [onUnsubscribe_last _ _ _ _ hsub hlast]
          simp [Tables.cacheOf]
        · rw [onUnsubscribe_not_last _ _ _ _ hsub hlast]
          simpa [Tables.cacheOf, hsub] using h other
  · rw [mem_latchedChannels_onUnsubscribe_of_ne _ _ _ _ hne, h other, Tables.cacheOf,
      Tables.cacheOf, lookup_onUnsubscribe_of_ne _ _ _ _ hne]

theorem rosMessageHandler (h : LatchedExact T) (channelId : ChannelId) (event : MessageEvent)
    (timestamp : Nat) : LatchedExact (T.rosMessageHandler channelId event timestamp).1 := by
  intro other
  by_cases hne : other = channelId
  · subst hne
    rcases rosMessageHandler_cases T other event timestamp with hsame | ⟨sub, hsub, hcached⟩
    · rw [hsame]
      exact h other
    · rw [hcached]
      refine iff_of_true (Finset.mem_insert_self _ _)
        ⟨(sub.cache event timestamp).latchedMessages, ?_, StdMap.insert_ne_nil _ _ _⟩
      simp [Tables.cacheOf]
  · rw [mem_latchedChannels_rosMessageHandler_of_ne _ _ _ _ hne, h other, Tables.cacheOf,
      Tables.cacheOf, lookup_rosMessageHandler_of_ne _ _ _ _ hne]

theorem removeStale (h : LatchedExact T) (latestTopics : List TopicAndDatatype) :
    LatchedExact (T.removeStale latestTopics) := by
  intro other
  rw [mem_removeStale_latchedChannels, h other]
  constructor
  · rintro ⟨⟨cache, hcache, hne⟩, hkept⟩
    obtain ⟨sub, hsub, rfl⟩ := Option.map_eq_some_iff.mp hcache
    exact ⟨_, Option.map_eq_some_iff.mpr
      ⟨sub, lookup_removeStale_subscriptions.mpr ⟨hsub, hkept⟩, rfl⟩, hne⟩
  · rintro ⟨cache, hcache, hne⟩
    obtain ⟨sub, hsub, rfl⟩ := Option.map_eq_some_iff.mp hcache
    obtain ⟨hbefore, hkept⟩ := lookup_removeStale_subscriptions.mp hsub
    exact ⟨⟨_, Option.map_eq_some_iff.mpr ⟨sub, hbefore, rfl⟩, hne⟩, hkept⟩

theorem advertise (h : LatchedExact T) (latestTopics : List TopicAndDatatype) (answers : Answers) :
    LatchedExact (T.advertise answers latestTopics).1 := by
  intro other
  rw [advertise_latchedChannels, cacheOf_advertise]
  exact h other

end LatchedExact

/-- Every step of the tables keeps it. -/
theorem LatchState.latchedExact_of_reachable {σ : LatchState} (h : latchSystem.Reachable σ) :
    LatchedExact σ.tables := by
  refine TSys.Run.invariant (I := fun τ => LatchedExact τ.tables) h ⟨?_, ?_⟩
  · rintro τ rfl other
    simp [LatchState.initial, Tables.empty, Tables.cacheOf]
  · intro τ a τ' hexact _ hs
    have hlock : ∀ {tables history rest callback}, LatchedExact tables →
        τ.lock tables history rest callback = some τ' → LatchedExact τ'.tables := by
      intro tables history rest callback htables hlocked
      obtain ⟨-, hτ'⟩ := Option.ite_none_left_eq_some.mp hlocked
      obtain rfl := Option.some.inj hτ'
      exact htables
    cases a with
    | accept channelId sink =>
        obtain rfl := Option.some.inj hs
        exact hexact
    | drop channelId sink =>
        obtain rfl := Option.some.inj hs
        exact hexact
    | onSubscribe channelId clientId isGateway sinkId serial =>
        exact hlock (hexact.onSubscribe channelId clientId isGateway sinkId serial) hs
    | onUnsubscribe channelId clientId isGateway =>
        exact hlock (hexact.onUnsubscribe channelId clientId isGateway) hs
    | rosMessageHandler channelId event timestamp =>
        exact hlock (hexact.rosMessageHandler channelId event timestamp) hs
    | removeStale latestTopics => exact hlock (hexact.removeStale latestTopics) hs
    | advertise latestTopics answers => exact hlock (hexact.advertise latestTopics answers) hs
    | log =>
        simp only [latchSystem, LatchState.step] at hs
        split at hs
        · obtain rfl := Option.some.inj hs
          exact hexact
        · cases hs
    | unlock =>
        simp only [latchSystem, LatchState.step] at hs
        split at hs
        · obtain rfl := Option.some.inj hs
          exact hexact
        · cases hs

/-- The set holds the channels that have a ROS subscription which was sent a latched message. -/
theorem latched_iff {σ : LatchState} (h : latchSystem.Reachable σ) (channelId : ChannelId) :
    channelId ∈ σ.tables.latchedChannels ↔
      channelId ∈ σ.tables.subscriptions ∧ LatchedSince channelId σ.history := by
  rw [LatchState.latchedExact_of_reachable h channelId, ← exists_lastLatched_iff]
  have hcache := (LatchState.Exact.of_reachable h).cache
  constructor
  · rintro ⟨cache, hlookup, hne⟩
    refine ⟨?_, ?_⟩
    · by_contra hnone
      rw [(cacheOf_eq_none_iff σ.tables channelId).mpr hnone] at hlookup
      cases hlookup
    · obtain ⟨entry, rest, rfl⟩ := List.exists_cons_of_ne_nil hne
      refine ⟨entry.1, ?_⟩
      rw [← (hcache channelId _ hlookup).2 entry.1]
      simp
  · rintro ⟨hsubscribed, callerid, hlast⟩
    cases hlookup : σ.tables.cacheOf channelId with
    | none => exact absurd hsubscribed ((cacheOf_eq_none_iff σ.tables channelId).mp hlookup)
    | some cache =>
        refine ⟨cache, rfl, ?_⟩
        rintro rfl
        rw [← (hcache channelId _ hlookup).2 callerid] at hlast
        exact hlast rfl

/-! ## Sessions -/

/-- A profile the SDK was given. -/
structure Classification where
  session : Nat
  channel : ChannelDescriptor
  profile : Reliability
  /-- What had happened to the ROS subscriptions by then. -/
  history : List SubscriptionEvent
  /-- The channel had a ROS subscription. -/
  subscribed : Bool
  deriving DecidableEq, Repr

structure QosState where
  latch : LatchState
  classifications : List Classification
  deriving DecidableEq

inductive QosAction
  | latch (a : LatchAction)
  /-- The SDK advertises the channel to a session, which has none of this id yet. -/
  | classify (session : Nat) (channel : ChannelDescriptor)

/-- The session has the channel classified. -/
def QosState.classified (σ : QosState) (session : Nat) (channelId : ChannelId) : Bool :=
  σ.classifications.any fun c => c.session == session && c.channel.id == channelId

def QosState.step (reliableTopicPatterns : Whitelist) (σ : QosState) :
    QosAction → Option QosState
  | .latch a => (σ.latch.step a).map fun latch => { σ with latch := latch }
  | .classify session channel =>
      if σ.classified session channel.id then none
      else
        some { σ with
          classifications := σ.classifications ++
            [{ session := session
               channel := channel
               profile := classifyRemoteAccessQos reliableTopicPatterns
                 σ.latch.tables.latchedChannels channel
               history := σ.latch.history
               subscribed := decide (channel.id ∈ σ.latch.tables.subscriptions) }] }

def qosSystem (reliableTopicPatterns : Whitelist) : TSys QosState QosAction where
  init σ := σ = ⟨.initial, []⟩
  step := QosState.step reliableTopicPatterns

variable {reliableTopicPatterns : Whitelist} {σ : QosState}

theorem QosState.latch_reachable (h : (qosSystem reliableTopicPatterns).Reachable σ) :
    latchSystem.Reachable σ.latch := by
  refine h.simulates QosState.latch (by rintro τ rfl; rfl) ?_
  intro τ a τ' _ _ hs
  cases a with
  | latch a =>
      obtain ⟨latch, hlatch, rfl⟩ := Option.map_eq_some_iff.mp hs
      exact .inr ⟨a, hlatch⟩
  | classify session channel =>
      obtain ⟨-, hτ'⟩ := Option.ite_none_left_eq_some.mp hs
      obtain rfl := Option.some.inj hτ'
      exact .inl rfl

/-- What a classification must be, given what had happened. -/
def Classification.Justified (reliableTopicPatterns : Whitelist) (c : Classification) : Prop :=
  c.profile = .reliable ↔ matchesRegex c.channel.topic reliableTopicPatterns = true ∨
    c.subscribed = true ∧ LatchedSince c.channel.id c.history

/-- The answer the bridge gives in a reachable state. -/
theorem classify_justified {τ : LatchState} (h : latchSystem.Reachable τ) (session : Nat)
    (channel : ChannelDescriptor) : Classification.Justified reliableTopicPatterns
      { session := session
        channel := channel
        profile := classifyRemoteAccessQos reliableTopicPatterns τ.tables.latchedChannels channel
        history := τ.history
        subscribed := decide (channel.id ∈ τ.tables.subscriptions) } := by
  unfold Classification.Justified classifyRemoteAccessQos
  rw [decide_eq_true_iff, ← latched_iff h]
  by_cases hlisted : matchesRegex channel.topic reliableTopicPatterns = true
  · simp [hlisted]
  · by_cases hlatched : channel.id ∈ τ.tables.latchedChannels
    · simp [hlisted, hlatched]
    · simp [hlisted, hlatched]

/-- One step adds a classification, if anything. -/
theorem QosState.step_cases {σ' : QosState} {a : QosAction}
    (hs : (qosSystem reliableTopicPatterns).step σ a = some σ') :
    σ'.classifications = σ.classifications ∨ ∃ c : Classification,
      σ'.classifications = σ.classifications ++ [c] ∧
        σ.classified c.session c.channel.id = false ∧
        (latchSystem.Reachable σ.latch → c.Justified reliableTopicPatterns) := by
  cases a with
  | latch a =>
      obtain ⟨latch, -, rfl⟩ := Option.map_eq_some_iff.mp hs
      exact .inl rfl
  | classify session channel =>
      obtain ⟨hnew, hσ'⟩ := Option.ite_none_left_eq_some.mp hs
      obtain rfl := Option.some.inj hσ'
      exact .inr ⟨_, rfl, Bool.eq_false_of_not_eq_true hnew,
        fun hreach => classify_justified hreach session channel⟩

theorem QosState.justified_of_reachable (h : (qosSystem reliableTopicPatterns).Reachable σ) :
    ∀ c ∈ σ.classifications, c.Justified reliableTopicPatterns := by
  refine TSys.Run.invariant_of
    (I := fun τ => ∀ c ∈ τ.classifications, c.Justified reliableTopicPatterns)
    (J := fun τ => latchSystem.Reachable τ.latch) h
    (fun _ hrun => QosState.latch_reachable hrun) ?_ ?_
  · rintro τ rfl c hc
    cases hc
  · intro τ a τ' hjustified hreach _ hs
    rcases QosState.step_cases hs with hsame | ⟨c, hadded, -, hc⟩
    · rw [hsame]
      exact hjustified
    · rw [hadded]
      intro other hother
      rcases List.mem_append.mp hother with hold | hnew
      · exact hjustified other hold
      · exact List.mem_singleton.mp hnew ▸ hc hreach

/-- A session that has no channel of this id classified is not in the list with it. -/
theorem QosState.not_mem_of_new {session : Nat} {channelId : ChannelId}
    (hnew : σ.classified session channelId = false) :
    (session, channelId) ∉ σ.classifications.map fun c => (c.session, c.channel.id) := by
  intro hmem
  obtain ⟨other, hother, heq⟩ := List.mem_map.mp hmem
  obtain ⟨hsession, hchannel⟩ := Prod.mk.inj heq
  refine absurd (List.any_eq_true.mpr ⟨other, hother, ?_⟩) (Bool.eq_false_iff.mp hnew)
  simp [hsession, hchannel]

theorem QosState.nodup_of_reachable (h : (qosSystem reliableTopicPatterns).Reachable σ) :
    (σ.classifications.map fun c => (c.session, c.channel.id)).Nodup := by
  refine TSys.Run.invariant
    (I := fun τ => (τ.classifications.map fun c => (c.session, c.channel.id)).Nodup) h ⟨?_, ?_⟩
  · rintro τ rfl
    exact List.nodup_nil
  · intro τ a τ' hnodup _ hs
    rcases QosState.step_cases hs with hsame | ⟨c, hadded, hnew, -⟩
    · rw [hsame]
      exact hnodup
    · rw [hadded, List.map_append]
      exact List.nodup_append_singleton hnodup (QosState.not_mem_of_new hnew)

/-- No step takes a classification back. -/
theorem QosState.prefix_exec {σ' : QosState} {actions : List QosAction}
    (he : (qosSystem reliableTopicPatterns).exec σ actions = some σ') :
    σ.classifications <+: σ'.classifications := by
  refine TSys.exec_rel (R := fun τ τ' : QosState => τ.classifications <+: τ'.classifications)
    (fun _ => List.prefix_refl _) List.IsPrefix.trans (fun _ _ _ _ hs => ?_) he
  rcases QosState.step_cases hs with hsame | ⟨c, hadded, -⟩
  · rw [hsame]
  · rw [hadded]
    exact List.prefix_append _ _

/-- A session asks about a map before it is published and another one after that. -/
def mapSessions : List QosAction :=
  [.latch (.advertise [("/map", "T")] ⟨fun _ => some [], fun _ => some 1⟩), .latch .unlock,
    .latch (.onSubscribe 1 7 false (some 10) 0), .latch .unlock, .classify 0 ⟨1, "/map"⟩,
    .latch (.rosMessageHandler 1 (latchedMessage "/a" [1]) 100), .classify 1 ⟨1, "/map"⟩]

end FoxgloveBridge
