import FoxgloveBridge.Bridge.Latched

/-!
# Stale replays

A cached message is current as long as its publisher has not been heard again. A later
latched message of the publisher takes its place, but a message that is not latched leaves
the cache as it is: after a publisher has come back under its callerid without latching,
late joiners are still sent what it latched before.

Replays are never stale exactly as long as no unlatched message is handled from a
publisher that has a message in the cache of the channel (`never_stale_iff`).
-/

namespace FoxgloveBridge

/-- What becomes of the last message heard from a publisher. -/
def SubscriptionEvent.hear (channelId : ChannelId) (callerid : String)
    (last : Option (MessageEvent × Nat)) : SubscriptionEvent → Option (MessageEvent × Nat)
  | .created id => if id = channelId then none else last
  | .handled id event timestamp =>
      if id = channelId ∧ event.callerid = callerid then some (event, timestamp) else last

/-- The last message handled from a publisher, latched or not, since the ROS subscription
of the channel was created. -/
def lastHeard (channelId : ChannelId) (callerid : String) (history : List SubscriptionEvent) :
    Option (MessageEvent × Nat) :=
  history.foldl (SubscriptionEvent.hear channelId callerid) none

/-- The cached message is the last one heard from the publisher, which latched it. -/
def Current (history : List SubscriptionEvent) (channelId : ChannelId) (callerid : String)
    (cached : CachedLatchedMessage) : Prop :=
  ∃ event, lastHeard channelId callerid history = some (event, cached.timestamp) ∧
    event.latching = true ∧ event.data = cached.data

/-- Every cached message is current. -/
def CacheCurrent (T : Tables) (history : List SubscriptionEvent) : Prop :=
  ∀ channelId cache, T.cacheOf channelId = some cache →
    ∀ callerid cached, cache.lookup callerid = some cached →
      Current history channelId callerid cached

/-- Each of the messages was the last one of its publisher when the callback ran, one for
each publisher, all for the sink of the callback. -/
def SubscribeCallback.ReplaysCurrent (c : SubscribeCallback) (logs : List ChannelLog) : Prop :=
  ∃ cache : List (String × CachedLatchedMessage), StdMap.Ordered cache ∧
    (∀ callerid cached, cache.lookup callerid = some cached →
      Current c.history c.channelId callerid cached) ∧
    logs = cache.map fun (_, cached) =>
      ⟨c.channelId, cached.data, cached.timestamp, some c.sink⟩

namespace LatchState

/-- Nothing stale is cached or replayed. -/
structure NeverStale (σ : LatchState) : Prop where
  cache : CacheCurrent σ.tables σ.history
  /-- A replay goes out before any other message is handled. -/
  inProgress : ∀ s ∈ σ.locked, ∀ c ∈ s.callback,
    c.history = σ.history ∧ c.ReplaysCurrent (c.logged ++ s.rest)
  returned : ∀ c ∈ σ.callbacks, c.ReplaysCurrent c.logged

/-- A message that is not latched comes from a publisher that has nothing in the cache. -/
def NoDowngrade (σ : LatchState) : LatchAction → Prop
  | .rosMessageHandler channelId event _ =>
      channelId ∈ σ.tables.channels → event.latching = false →
        ∀ cache ∈ σ.tables.cacheOf channelId, cache.lookup event.callerid = none
  | _ => True

instance (σ : LatchState) : (a : LatchAction) → Decidable (σ.NoDowngrade a)
  | .rosMessageHandler channelId event _ =>
      inferInstanceAs (Decidable (channelId ∈ σ.tables.channels → event.latching = false →
        ∀ cache ∈ σ.tables.cacheOf channelId, cache.lookup event.callerid = none))
  | .accept .. | .drop .. | .onSubscribe .. | .onUnsubscribe .. | .removeStale .. | .advertise ..
  | .log | .unlock => .isTrue trivial

end LatchState

/-! ## The cache -/

theorem lastHeard_append_singleton (channelId : ChannelId) (callerid : String)
    (history : List SubscriptionEvent) (e : SubscriptionEvent) :
    lastHeard channelId callerid (history ++ [e]) =
      e.hear channelId callerid (lastHeard channelId callerid history) := by
  rw [lastHeard, List.foldl_append]
  rfl

theorem current_append_iff_of_hear_eq {channelId : ChannelId} {callerid : String}
    {history : List SubscriptionEvent} {e : SubscriptionEvent} {cached : CachedLatchedMessage}
    (h : ∀ last, e.hear channelId callerid last = last) :
    Current (history ++ [e]) channelId callerid cached ↔
      Current history channelId callerid cached := by
  rw [Current, lastHeard_append_singleton, h, ← Current]

/-- Right after a message of the publisher: it is the only current one, if it is latched. -/
theorem current_append_handled_iff {channelId : ChannelId} {event : MessageEvent}
    {timestamp : Nat} {history : List SubscriptionEvent} {cached : CachedLatchedMessage} :
    Current (history ++ [.handled channelId event timestamp]) channelId event.callerid cached ↔
      event.latching = true ∧ cached = ⟨event.data, timestamp⟩ := by
  rw [Current, lastHeard_append_singleton]
  simp only [SubscriptionEvent.hear, and_self, if_true, Option.some.injEq, Prod.mk.injEq]
  constructor
  · rintro ⟨_, ⟨rfl, htimestamp⟩, hlatching, hdata⟩
    obtain ⟨data, stamp⟩ := cached
    exact ⟨hlatching, by rw [CachedLatchedMessage.mk.injEq]; exact ⟨hdata.symm, htimestamp.symm⟩⟩
  · rintro ⟨hlatching, rfl⟩
    exact ⟨event, ⟨rfl, rfl⟩, hlatching, rfl⟩

namespace CacheCurrent

variable {T T' : Tables} {history : List SubscriptionEvent}

theorem mono (h : CacheCurrent T history)
    (hle : ∀ channelId cache, T'.cacheOf channelId = some cache →
      T.cacheOf channelId = some cache) : CacheCurrent T' history := by
  intro channelId cache hcache
  exact h channelId cache (hle channelId cache hcache)

/-- A new ROS subscription has nothing cached; the others hear nothing of it. -/
theorem onSubscribe (h : CacheCurrent T history) (channelId : ChannelId) (clientId : ClientId)
    (isGateway : Bool) (sinkId : Option SinkId) (serial : Nat) :
    CacheCurrent (T.onSubscribe channelId clientId isGateway sinkId serial).1
      (if channelId ∈ T.channels ∧ channelId ∉ T.subscriptions then
        history ++ [.created channelId] else history) := by
  intro other cache hcache callerid cached hlookup
  rcases cacheOf_onSubscribe_cases T channelId hcache with ⟨-, rfl⟩ | ⟨hnew, hold⟩
  · cases hlookup
  · have hcurrent := h other cache hold callerid cached hlookup
    split
    · rename_i hcreates
      refine (current_append_iff_of_hear_eq fun last => ?_).mpr hcurrent
      exact if_neg fun hself => hnew ⟨hself.symm, hcreates⟩
    · exact hcurrent

/-- A message keeps the cache current exactly if it is latched, or its publisher has
nothing cached. -/
theorem rosMessageHandler_iff (h : CacheCurrent T history) {channelId : ChannelId}
    (hopen : channelId ∈ T.channels) (event : MessageEvent) (timestamp : Nat) :
    CacheCurrent (T.rosMessageHandler channelId event timestamp).1
        (history ++ [.handled channelId event timestamp]) ↔
      (event.latching = false →
        ∀ cache ∈ T.cacheOf channelId, cache.lookup event.callerid = none) := by
  have hcacheOf : ∀ other, Tables.cacheOf _ other = _ := fun _ =>
    cacheOf_rosMessageHandler T channelId event timestamp hopen
  constructor
  · intro hafter hunlatched cache hcache
    by_contra hcached
    obtain ⟨cached, hlookup⟩ := Option.ne_none_iff_exists'.mp hcached
    have hsame : (T.rosMessageHandler channelId event timestamp).1.cacheOf channelId =
        some cache := by
      rw [hcacheOf, if_neg fun hself => by simp [hunlatched] at hself]
      exact hcache
    have hcurrent := hafter channelId cache hsame event.callerid cached hlookup
    rw [current_append_handled_iff, hunlatched] at hcurrent
    exact Bool.false_ne_true hcurrent.1
  · intro hcond other cache hcache callerid cached hlookup
    rw [hcacheOf] at hcache
    by_cases hself : other = channelId ∧ callerid = event.callerid
    · obtain ⟨rfl, rfl⟩ := hself
      rw [current_append_handled_iff]
      cases hlatching : event.latching with
      | false =>
          rw [hlatching, if_neg fun hpos => Bool.false_ne_true hpos.2] at hcache
          rw [hcond hlatching cache hcache] at hlookup
          cases hlookup
      | true =>
          rw [hlatching, if_pos ⟨rfl, rfl⟩] at hcache
          obtain ⟨old, -, rfl⟩ := Option.map_eq_some_iff.mp hcache
          rw [StdMap.lookup_insert_self] at hlookup
          exact ⟨rfl, (Option.some.inj hlookup).symm⟩
    · -- another channel, or another publisher: its entry is where it was
      have hother : ∃ old, T.cacheOf other = some old ∧ old.lookup callerid = some cached := by
        split at hcache
        · rename_i hlatched
          obtain ⟨old, hold, rfl⟩ := Option.map_eq_some_iff.mp hcache
          rw [StdMap.lookup_insert_of_ne fun heq => hself ⟨hlatched.1, heq⟩] at hlookup
          exact ⟨old, hold, hlookup⟩
        · exact ⟨cache, hcache, hlookup⟩
      obtain ⟨old, hold, hbefore⟩ := hother
      refine (current_append_iff_of_hear_eq fun last => ?_).mpr
        (h other old hold callerid cached hbefore)
      exact if_neg fun hhit => hself ⟨hhit.1.symm, hhit.2.symm⟩

end CacheCurrent

/-! ## One step -/

namespace LatchState

variable {σ σ' : LatchState}

/-- A section takes the mutex: it leaves nothing stale exactly if it leaves the cache
current, for what it replays comes from there. -/
theorem NeverStale.lock_iff (h : σ.NeverStale) {tables : Tables}
    {history : List SubscriptionEvent} {rest : List ChannelLog}
    {callback : Option SubscribeCallback}
    (hs : σ.lock tables history rest callback = some σ')
    (hcallback : CacheCurrent tables history → ∀ c ∈ callback,
      c.history = history ∧ c.logged = [] ∧ c.ReplaysCurrent rest) :
    σ'.NeverStale ↔ CacheCurrent tables history := by
  simp only [LatchState.lock, Option.ite_none_left_eq_some, Option.some.injEq] at hs
  obtain ⟨-, rfl⟩ := hs
  refine ⟨fun hafter => hafter.cache, fun hcache => ⟨hcache, fun s hs c hc => ?_, h.returned⟩⟩
  obtain rfl := Option.some.inj hs
  obtain ⟨hhistory, hlogged, hreplays⟩ := hcallback hcache c hc
  refine ⟨hhistory, ?_⟩
  rw [hlogged]
  exact hreplays

/-- A section that only takes entries out of the tables. -/
theorem NeverStale.lock_of_le (h : σ.NeverStale) {tables : Tables}
    (hs : σ.lock tables σ.history [] none = some σ')
    (hle : ∀ channelId cache, tables.cacheOf channelId = some cache →
      σ.tables.cacheOf channelId = some cache) : σ'.NeverStale :=
  (h.lock_iff hs fun _ => nofun).mpr (h.cache.mono hle)

theorem NeverStale.onSubscribe (hexact : σ.Exact) (h : σ.NeverStale) {channelId : ChannelId}
    {clientId : ClientId} {isGateway : Bool} {sinkId : Option SinkId} {serial : Nat}
    (hs : σ.step (.onSubscribe channelId clientId isGateway sinkId serial) = some σ') :
    σ'.NeverStale := by
  have hordered := hexact.cache.onSubscribe channelId clientId isGateway sinkId serial
  have hcurrent := h.cache.onSubscribe channelId clientId isGateway sinkId serial
  refine (h.lock_iff hs fun hcache c hc => ?_).mpr hcurrent
  obtain ⟨sink, rfl, hfound⟩ := Option.bind_eq_some_iff.mp hc
  simp only [LatchState.callback, Option.ite_none_right_eq_some, Option.some.injEq] at hfound
  obtain ⟨hopen, rfl⟩ := hfound
  -- what the subscription holds after the section is what is replayed
  have hafter : Tables.cacheOf _ channelId = _ :=
    cacheOf_onSubscribe σ.tables channelId clientId isGateway (some sink) serial
  rw [if_pos ⟨rfl, hopen⟩] at hafter
  exact ⟨rfl, rfl, _, (hordered channelId _ hafter).1, hcache channelId _ hafter,
    onSubscribe_replayed hopen clientId isGateway sink serial⟩

theorem NeverStale.rosMessageHandler_iff (h : σ.NeverStale) {channelId : ChannelId}
    {event : MessageEvent} {timestamp : Nat}
    (hs : σ.step (.rosMessageHandler channelId event timestamp) = some σ') :
    σ'.NeverStale ↔ σ.NoDowngrade (.rosMessageHandler channelId event timestamp) := by
  by_cases hopen : channelId ∈ σ.tables.channels
  · rw [step_rosMessageHandler_open hopen] at hs
    have hlock := h.lock_iff hs fun _ _ hnone => by cases hnone
    rw [hlock, h.cache.rosMessageHandler_iff hopen]
    exact ⟨fun hcond _ => hcond, fun hcond => hcond hopen⟩
  · rw [step_rosMessageHandler_closed hopen] at hs
    exact iff_of_true (h.lock_of_le hs fun _ _ hcache => hcache) fun hmem => absurd hmem hopen

/-- One message of the section goes out. -/
theorem NeverStale.log (h : σ.NeverStale) {log : ChannelLog} {rest : List ChannelLog}
    {callback : Option SubscribeCallback} {sent : List (SinkId × ChannelLog)}
    {broadcasts : List ChannelLog} (hlocked : σ.locked = some ⟨log :: rest, callback⟩) :
    NeverStale { σ with
      locked := some ⟨rest, callback.map fun c => { c with logged := c.logged ++ [log] }⟩
      sent := sent
      broadcasts := broadcasts } := by
  refine ⟨h.cache, fun s hs c hc => ?_, h.returned⟩
  obtain rfl := Option.some.inj hs
  obtain ⟨before, hbefore, rfl⟩ := Option.map_eq_some_iff.mp hc
  obtain ⟨hhistory, hreplays⟩ := h.inProgress _ hlocked before hbefore
  refine ⟨hhistory, ?_⟩
  show before.ReplaysCurrent (before.logged ++ [log] ++ rest)
  rw [List.append_assoc]
  exact hreplays

/-- A step leaves nothing stale exactly if it is not the unlatched message of a publisher
with a message in the cache. -/
theorem NeverStale.step_iff {a : LatchAction} (hexact : σ.Exact) (h : σ.NeverStale)
    (hs : σ.step a = some σ') : σ'.NeverStale ↔ σ.NoDowngrade a := by
  cases a with
  | accept channelId sink =>
      obtain rfl := Option.some.inj hs
      exact iff_of_true ⟨h.cache, h.inProgress, h.returned⟩ trivial
  | drop channelId sink =>
      obtain rfl := Option.some.inj hs
      refine iff_of_true ⟨h.cache, fun s hs c hc => ?_, h.returned⟩ trivial
      obtain ⟨before, hbefore, rfl⟩ := Option.map_eq_some_iff.mp hs
      obtain ⟨callback, hcallback, rfl⟩ := Option.map_eq_some_iff.mp hc
      have hreplays := h.inProgress before hbefore callback hcallback
      unfold SubscribeCallback.drop
      split <;> exact hreplays
  | onSubscribe => exact iff_of_true (h.onSubscribe hexact hs) trivial
  | onUnsubscribe =>
      exact iff_of_true (h.lock_of_le hs fun _ _ => cacheOf_onUnsubscribe _ _ _ _) trivial
  | rosMessageHandler => exact h.rosMessageHandler_iff hs
  | removeStale =>
      exact iff_of_true (h.lock_of_le hs fun _ _ => cacheOf_removeStale _) trivial
  | advertise =>
      refine iff_of_true (h.lock_of_le hs fun _ _ hcache => ?_) trivial
      rwa [cacheOf_advertise] at hcache
  | log =>
      simp only [LatchState.step] at hs
      split at hs
      · obtain rfl := Option.some.inj hs
        exact iff_of_true (h.log ‹_›) trivial
      · cases hs
  | unlock =>
      simp only [LatchState.step] at hs
      split at hs
      · rename_i callback hlocked
        obtain rfl := Option.some.inj hs
        refine iff_of_true ⟨h.cache, ?_, ?_⟩ trivial
        · intro s hnone
          cases hnone
        · intro c hc
          rcases List.mem_append.mp hc with hold | hlast
          · exact h.returned c hold
          · have hreplays := (h.inProgress _ hlocked c (Option.mem_toList.mp hlast)).2
            rwa [List.append_nil] at hreplays
      · cases hs

end LatchState

/-! ## Runs -/

/-- **Replays are not stale.** In every run of messages and of clients that come and go,
nothing stale is ever cached or replayed if and only if no step handles an unlatched
message of a publisher that has a message in the cache of the channel. -/
theorem never_stale_iff {schedule : List LatchAction} {σ : LatchState}
    (h : latchSystem.exec .initial schedule = some σ) :
    (∀ done, done <+: schedule → ∀ τ, latchSystem.exec .initial done = some τ →
        τ.NeverStale) ↔
      latchSystem.Guarded LatchState.NoDowngrade .initial schedule := by
  refine TSys.forall_exec_iff_guarded (J := LatchState.Exact) ?_ ?_ h ?_
  · exact .of_reachable (.init rfl)
  · exact ⟨nofun, nofun, nofun⟩
  · intro τ hexact a _ τ' hs
    exact ⟨hexact.step hs, fun hτ => hτ.step_iff hexact hs⟩

/-- A message of a publisher that does not latch. -/
def unlatchedMessage (callerid : String) (data : List UInt8) : MessageEvent :=
  ⟨data, some [("callerid", callerid)]⟩

/-- A publisher latches a message and sends it again as another. -/
def latchedTwice : List LatchAction :=
  [.advertise [("/map", "T")] ⟨fun _ => some [], fun _ => some 1⟩, .unlock,
    .onSubscribe 1 7 false (some 10) 0, .unlock,
    .rosMessageHandler 1 (latchedMessage "/a" [1]) 100, .log, .unlock,
    .rosMessageHandler 1 (latchedMessage "/a" [2]) 101, .log, .unlock,
    .onSubscribe 1 8 true (some 20) 1, .log, .unlock]

theorem never_stale_latchedTwice :
    ∃ σ, latchSystem.exec .initial latchedTwice = some σ ∧ σ.NeverStale := by
  have hexec : latchSystem.exec .initial latchedTwice = some _ := rfl
  have hnever := (never_stale_iff hexec).mpr (by decide)
  exact ⟨_, hexec, hnever latchedTwice List.prefix_rfl _ hexec⟩

/-- The publisher comes back without latching before the last client joins. -/
def downgraded : List LatchAction :=
  [.advertise [("/map", "T")] ⟨fun _ => some [], fun _ => some 1⟩, .unlock,
    .onSubscribe 1 7 false (some 10) 0, .unlock,
    .rosMessageHandler 1 (latchedMessage "/a" [1]) 100, .log, .unlock,
    .rosMessageHandler 1 (unlatchedMessage "/a" [2]) 101, .log, .unlock,
    .onSubscribe 1 8 true (some 20) 1, .log, .unlock]

/-- The second client is sent the older message, after the newer one was broadcast. -/
theorem stale_after_downgrade : ∃ σ, latchSystem.exec .initial downgraded = some σ ∧
    σ.broadcasts = [⟨1, [1], 100, none⟩, ⟨1, [2], 101, none⟩] ∧
    (20, ⟨1, [1], 100, some 20⟩) ∈ σ.sent ∧
    lastHeard 1 "/a" σ.history = some (unlatchedMessage "/a" [2], 101) ∧ ¬ σ.NeverStale := by
  refine ⟨_, rfl, rfl, by decide, rfl, fun h => ?_⟩
  have hcurrent := h.cache 1 _ rfl "/a" ⟨[1], 100⟩ rfl
  obtain ⟨event, hheard, hlatching, -⟩ := hcurrent
  obtain ⟨rfl, -⟩ : unlatchedMessage "/a" [2] = event ∧ 101 = 100 := by
    simpa using (show some (unlatchedMessage "/a" [2], 101) = some (event, 100) from hheard)
  cases hlatching

end FoxgloveBridge
