import FoxgloveBridge.Bridge.Tables
import FoxgloveBridge.Lib.TSys

/-!
# Reference counting

The locked sections of the bridge as a transition system: clients of both
transports subscribe and unsubscribe, messages arrive, topics are removed and
advertised, in any order. Beside the tables the state keeps the history of what
happened to each channel, from which `interested` reads who wants it: the clients
whose most recent event on the channel, since it entered the table, is a
subscribe.

The tables agree with that history in every reachable state
(`subscriptions_counted`): a channel has a subscription exactly when some client
is interested in it, its two client sets are the interested clients of the two
transports, and it is in `_latchedChannels` exactly when a latched message is
cached for it.
-/

namespace FoxgloveBridge

/-- A client of one of the two transports. Client ids are only unique within a
transport. -/
structure TransportClient where
  isGateway : Bool
  clientId : ClientId
  deriving DecidableEq, Repr

/-- What happens to a channel. -/
inductive ChannelEvent
  | entered (channelId : ChannelId)
  | subscribed (channelId : ChannelId) (client : TransportClient)
  | unsubscribed (channelId : ChannelId) (client : TransportClient)
  deriving DecidableEq, Repr

/-- The most recent event of the client on the channel, since the channel entered
the table, is a subscribe. The history starts with the newest event. -/
def interested (channelId : ChannelId) (client : TransportClient) : List ChannelEvent → Bool
  | [] => false
  | .entered id :: history => if id = channelId then false else interested channelId client history
  | .subscribed id who :: history =>
      if id = channelId ∧ who = client then true else interested channelId client history
  | .unsubscribed id who :: history =>
      if id = channelId ∧ who = client then false else interested channelId client history

structure Registry where
  tables : Tables
  history : List ChannelEvent
  /-- Every id a channel was created under. -/
  issued : Finset ChannelId

namespace Registry

def initial : Registry where
  tables := .empty
  history := []
  issued := ∅

variable (ρ : Registry)

def onSubscribe (channelId : ChannelId) (client : TransportClient) (sinkId : Option SinkId)
    (serial : Nat) : Registry :=
  { ρ with
    tables := (ρ.tables.onSubscribe channelId client.clientId client.isGateway sinkId serial).1
    history := .subscribed channelId client :: ρ.history }

def onUnsubscribe (channelId : ChannelId) (client : TransportClient) : Registry :=
  { ρ with
    tables := (ρ.tables.onUnsubscribe channelId client.clientId client.isGateway).1
    history := .unsubscribed channelId client :: ρ.history }

def rosMessageHandler (channelId : ChannelId) (event : MessageEvent) (timestamp : Nat) : Registry :=
  { ρ with tables := (ρ.tables.rosMessageHandler channelId event timestamp).1 }

def removeStale (latestTopics : List TopicAndDatatype) : Registry :=
  { ρ with tables := ρ.tables.removeStale latestTopics }

def advertise (latestTopics : List TopicAndDatatype) (answers : Answers) : Registry :=
  let result := ρ.tables.advertise answers latestTopics
  { tables := result.1
    history := ((result.2.map Prod.fst).map ChannelEvent.entered).reverse ++ ρ.history
    issued := ρ.issued ∪ (result.2.map Prod.fst).toFinset }

end Registry

/-- One locked section. -/
inductive RegistryAction
  | onSubscribe (channelId : ChannelId) (client : TransportClient) (sinkId : Option SinkId)
      (serial : Nat)
  | onUnsubscribe (channelId : ChannelId) (client : TransportClient)
  | rosMessageHandler (channelId : ChannelId) (event : MessageEvent) (timestamp : Nat)
  | removeStale (latestTopics : List TopicAndDatatype)
  | advertise (latestTopics : List TopicAndDatatype) (answers : Answers)

/-- The latest topics are a set, and the SDK creates channels under new ids. -/
def Registry.step (ρ : Registry) : RegistryAction → Option Registry
  | .onSubscribe channelId client sinkId serial =>
      some (ρ.onSubscribe channelId client sinkId serial)
  | .onUnsubscribe channelId client => some (ρ.onUnsubscribe channelId client)
  | .rosMessageHandler channelId event timestamp =>
      some (ρ.rosMessageHandler channelId event timestamp)
  | .removeStale latestTopics => some (ρ.removeStale latestTopics)
  | .advertise latestTopics answers =>
      if latestTopics.Nodup ∧ FreshIds (· ∈ ρ.issued) latestTopics answers then
        some (ρ.advertise latestTopics answers)
      else none

def registrySystem : TSys Registry RegistryAction where
  init ρ := ρ = .initial
  step := Registry.step

/-! ## The invariant -/

/-- The tables agree with the history at one channel id. -/
structure CountedAt (T : Tables) (history : List ChannelEvent) (channelId : ChannelId) : Prop where
  subscribed : (∃ sub, T.subscriptions.lookup channelId = some sub) ↔
    channelId ∈ T.channels ∧ ∃ client, interested channelId client history = true
  clients : ∀ sub, T.subscriptions.lookup channelId = some sub → ∀ client : TransportClient,
    client.clientId ∈ sub.clientIds client.isGateway ↔
      interested channelId client history = true
  latched : channelId ∈ T.latchedChannels ↔
    ∃ sub, T.subscriptions.lookup channelId = some sub ∧ sub.latchedMessages ≠ []

/-- The tables agree with the history, and every channel was issued. -/
structure Counted (ρ : Registry) : Prop where
  counted : ∀ channelId, CountedAt ρ.tables ρ.history channelId
  issued : ∀ channelId ∈ ρ.tables.channels, channelId ∈ ρ.issued

/-- Nothing about this channel changed. -/
theorem CountedAt.congr {T T' : Tables} {history history' : List ChannelEvent}
    {channelId : ChannelId} (h : CountedAt T history channelId)
    (hchannel : channelId ∈ T'.channels ↔ channelId ∈ T.channels)
    (hsub : T'.subscriptions.lookup channelId = T.subscriptions.lookup channelId)
    (hlatched : channelId ∈ T'.latchedChannels ↔ channelId ∈ T.latchedChannels)
    (hinterested : ∀ client, interested channelId client history' =
      interested channelId client history) : CountedAt T' history' channelId where
  subscribed := by simpa only [hchannel, hsub, hinterested] using h.subscribed
  clients := by simpa only [hsub, hinterested] using h.clients
  latched := by simpa only [hlatched, hsub] using h.latched

/-- A channel without a subscription: nobody is interested, nothing is latched. -/
theorem CountedAt.of_lookup_none {T : Tables} {history : List ChannelEvent} {channelId : ChannelId}
    (hsub : T.subscriptions.lookup channelId = none)
    (hlatched : channelId ∉ T.latchedChannels)
    (hinterested : channelId ∈ T.channels → ∀ client, interested channelId client history = false) :
    CountedAt T history channelId where
  subscribed := by
    constructor
    · rintro ⟨sub, hsome⟩
      rw [hsub] at hsome
      cases hsome
    · rintro ⟨hmem, client, hclient⟩
      rw [hinterested hmem client] at hclient
      cases hclient
  clients sub hsome := by
    rw [hsub] at hsome
    cases hsome
  latched := by simp [hsub, hlatched]

/-- A channel with a subscription that holds the interested clients. -/
theorem CountedAt.of_lookup_some {T : Tables} {history : List ChannelEvent} {channelId : ChannelId}
    {sub : ChannelSubscription} (hmem : channelId ∈ T.channels)
    (hsub : T.subscriptions.lookup channelId = some sub)
    (hlatched : channelId ∈ T.latchedChannels ↔ sub.latchedMessages ≠ [])
    (hclients : ∀ client : TransportClient, client.clientId ∈ sub.clientIds client.isGateway ↔
      interested channelId client history = true)
    (hsome : ∃ client, interested channelId client history = true) :
    CountedAt T history channelId where
  subscribed := by simp [hsub, hmem, hsome]
  clients sub' hsub' := by
    obtain rfl := Option.some.inj (hsub.symm.trans hsub')
    exact hclients
  latched := by simp [hsub, hlatched]

/-- Without a subscription nobody is interested in a channel of the table. -/
theorem CountedAt.not_interested {T : Tables} {history : List ChannelEvent} {channelId : ChannelId}
    (h : CountedAt T history channelId) (hsub : T.subscriptions.lookup channelId = none)
    (hmem : channelId ∈ T.channels) (client : TransportClient) :
    interested channelId client history = false := by
  rw [Bool.eq_false_iff]
  intro hclient
  obtain ⟨sub, hsome⟩ := h.subscribed.mpr ⟨hmem, client, hclient⟩
  rw [hsub] at hsome
  cases hsome

theorem CountedAt.not_latched {T : Tables} {history : List ChannelEvent} {channelId : ChannelId}
    (h : CountedAt T history channelId) (hsub : T.subscriptions.lookup channelId = none) :
    channelId ∉ T.latchedChannels := by
  simp [h.latched, hsub]

/-- A subscription is for a channel of the table. -/
theorem CountedAt.mem_channels {T : Tables} {history : List ChannelEvent} {channelId : ChannelId}
    (h : CountedAt T history channelId) {sub : ChannelSubscription}
    (hsub : T.subscriptions.lookup channelId = some sub) : channelId ∈ T.channels :=
  (h.subscribed.mp ⟨sub, hsub⟩).1

/-- The subscription `onSubscribe` finds or starts with: it counts the interested
clients, and the channel is latched if it caches something. -/
theorem CountedAt.getD {T : Tables} {history : List ChannelEvent} {channelId : ChannelId}
    (h : CountedAt T history channelId) (hmem : channelId ∈ T.channels) (s : Subscriber) :
    (∀ client : TransportClient,
      client.clientId ∈ ((T.subscriptions.lookup channelId).getD (.empty s)).clientIds
        client.isGateway ↔ interested channelId client history = true) ∧
    (channelId ∈ T.latchedChannels ↔
      ((T.subscriptions.lookup channelId).getD (.empty s)).latchedMessages ≠ []) := by
  cases hsub : T.subscriptions.lookup channelId with
  | none =>
      refine ⟨?_, ?_⟩
      · intro client
        simp [h.not_interested hsub hmem]
      · simp [h.not_latched hsub, ChannelSubscription.empty]
  | some sub =>
      refine ⟨h.clients sub hsub, ?_⟩
      simp [h.latched, hsub]

/-! ## Each section keeps it -/

theorem interested_subscribed (channelId id : ChannelId) (client who : TransportClient)
    (history : List ChannelEvent) :
    interested channelId client (.subscribed id who :: history) = true ↔
      (id = channelId ∧ who = client) ∨ interested channelId client history = true := by
  rw [interested]
  split <;> simp_all

theorem interested_unsubscribed (channelId id : ChannelId) (client who : TransportClient)
    (history : List ChannelEvent) :
    interested channelId client (.unsubscribed id who :: history) = true ↔
      ¬ (id = channelId ∧ who = client) ∧ interested channelId client history = true := by
  rw [interested]
  split <;> simp_all

/-- Entering the table resets the interest in a channel. -/
theorem interested_entered (channelId : ChannelId) (client : TransportClient)
    (ids : List ChannelId) (history : List ChannelEvent) :
    interested channelId client (ids.map ChannelEvent.entered ++ history) =
      if channelId ∈ ids then false else interested channelId client history := by
  induction ids with
  | nil => simp
  | cons id ids ih =>
      rw [List.map_cons, List.cons_append, interested, ih]
      by_cases hid : id = channelId
      · simp [hid]
      · simp [hid, Ne.symm hid]

/-- A client is known by its transport and its number there. -/
theorem same_client_iff (who client : TransportClient) :
    (who.isGateway = client.isGateway ∧ who.clientId = client.clientId) ↔ client = who := by
  cases who
  cases client
  simp only [TransportClient.mk.injEq]
  tauto

theorem Counted.onSubscribe {ρ : Registry} (h : Counted ρ) (channelId : ChannelId)
    (client : TransportClient) (sinkId : Option SinkId) (serial : Nat) :
    Counted (ρ.onSubscribe channelId client sinkId serial) := by
  refine ⟨fun id => ?_, by simpa [Registry.onSubscribe] using h.issued⟩
  have hid := h.counted id
  by_cases hne : id = channelId
  · subst hne
    cases hchannel : ρ.tables.channels.lookup id with
    | none =>
        have hnot : id ∉ ρ.tables.channels := AList.lookup_eq_none.mp hchannel
        have hsub : ρ.tables.subscriptions.lookup id = none := by
          rw [Option.eq_none_iff_forall_ne_some]
          exact fun sub hsome => hnot (hid.mem_channels hsome)
        rw [Registry.onSubscribe, onSubscribe_of_lookup_none _ _ _ _ _ _ hchannel]
        exact .of_lookup_none hsub (hid.not_latched hsub) fun hmem => absurd hmem hnot
    | some channel =>
        have hmem : id ∈ ρ.tables.channels := UnorderedMap.mem_iff_lookup.mpr ⟨channel, hchannel⟩
        have hself := lookup_onSubscribe_self ρ.tables id client.clientId client.isGateway sinkId
          serial hchannel
        obtain ⟨hclients, hlatched⟩ := hid.getD hmem ⟨serial, id, channel.topic⟩
        refine .of_lookup_some (by simpa [Registry.onSubscribe] using hmem) hself
          (by simpa [Registry.onSubscribe] using hlatched) (fun who => ?_) ⟨client, ?_⟩
        · rw [mem_clientIds_insertClient, hclients, Registry.onSubscribe, interested_subscribed,
            same_client_iff]
          simp
        · rw [Registry.onSubscribe, interested_subscribed]
          exact .inl ⟨rfl, rfl⟩
  · refine hid.congr (by simp [Registry.onSubscribe]) ?_ (by simp [Registry.onSubscribe])
      fun who => ?_
    · exact lookup_onSubscribe_of_ne _ _ _ _ _ _ hne
    · rw [Registry.onSubscribe, interested, if_neg fun heq => hne heq.1.symm]

theorem Counted.onUnsubscribe {ρ : Registry} (h : Counted ρ) (channelId : ChannelId)
    (client : TransportClient) : Counted (ρ.onUnsubscribe channelId client) := by
  refine ⟨fun id => ?_, by simpa [Registry.onUnsubscribe] using h.issued⟩
  have hid := h.counted id
  by_cases hne : id = channelId
  · subst hne
    cases hsub : ρ.tables.subscriptions.lookup id with
    | none =>
        rw [Registry.onUnsubscribe, onUnsubscribe_of_lookup_none _ _ _ _ hsub]
        refine .of_lookup_none hsub (hid.not_latched hsub) fun hmem who => ?_
        rw [Bool.eq_false_iff, ne_eq, interested_unsubscribed, hid.not_interested hsub hmem]
        simp
    | some sub =>
        have hclients : ∀ who : TransportClient,
            who.clientId ∈ (sub.eraseClient client.clientId client.isGateway).clientIds
              who.isGateway ↔
            interested id who (.unsubscribed id client :: ρ.history) = true := by
          intro who
          rw [mem_clientIds_eraseClient, interested_unsubscribed, hid.clients sub hsub,
            same_client_iff]
          simp
        by_cases hlast : (sub.eraseClient client.clientId client.isGateway).wsClientIds = ∅ ∧
            (sub.eraseClient client.clientId client.isGateway).gatewayClientIds = ∅
        · rw [Registry.onUnsubscribe, onUnsubscribe_last _ _ _ _ hsub hlast]
          refine .of_lookup_none (AList.lookup_erase _ _) (by simp) fun _ who => ?_
          rw [Bool.eq_false_iff, ne_eq, ← hclients]
          exact (clientIds_eq_empty_iff _).mp hlast _ _
        · rw [Registry.onUnsubscribe, onUnsubscribe_not_last _ _ _ _ hsub hlast]
          refine .of_lookup_some (hid.mem_channels hsub) (AList.lookup_insert _) ?_ hclients ?_
          · simp [hid.latched, hsub]
          · -- somebody is left
            rw [clientIds_eq_empty_iff] at hlast
            push Not at hlast
            obtain ⟨isGateway, clientId, hleft⟩ := hlast
            exact ⟨⟨isGateway, clientId⟩, (hclients ⟨isGateway, clientId⟩).mp hleft⟩
  · refine hid.congr (by simp [Registry.onUnsubscribe]) ?_ ?_ fun who => ?_
    · exact lookup_onUnsubscribe_of_ne _ _ _ _ hne
    · exact mem_latchedChannels_onUnsubscribe_of_ne _ _ _ _ hne
    · rw [Registry.onUnsubscribe, interested, if_neg fun heq => hne heq.1.symm]

theorem Counted.rosMessageHandler {ρ : Registry} (h : Counted ρ) (channelId : ChannelId)
    (event : MessageEvent) (timestamp : Nat) :
    Counted (ρ.rosMessageHandler channelId event timestamp) := by
  refine ⟨fun id => ?_, by simpa [Registry.rosMessageHandler] using h.issued⟩
  have hid := h.counted id
  by_cases hne : id = channelId
  · subst hne
    rcases rosMessageHandler_cases ρ.tables id event timestamp with heq | ⟨sub, hsub, heq⟩
    · rw [Registry.rosMessageHandler, heq]
      exact hid
    · rw [Registry.rosMessageHandler, heq]
      refine .of_lookup_some (hid.mem_channels hsub) (AList.lookup_insert _) ?_
        (fun who => hid.clients sub hsub who) (hid.subscribed.mp ⟨sub, hsub⟩).2
      simp [ChannelSubscription.cache]
  · refine hid.congr (by simp [Registry.rosMessageHandler]) ?_ ?_ fun _ => rfl
    · exact lookup_rosMessageHandler_of_ne _ _ _ _ hne
    · exact mem_latchedChannels_rosMessageHandler_of_ne _ _ _ _ hne

theorem Counted.removeStale {ρ : Registry} (h : Counted ρ) (latestTopics : List TopicAndDatatype) :
    Counted (ρ.removeStale latestTopics) := by
  refine ⟨fun id => ?_, fun id hmem => h.issued id (mem_removeStale_channels.mp hmem).1⟩
  cases hremoves : ρ.tables.removes latestTopics id with
  | true =>
      have hsub : (ρ.tables.removeStale latestTopics).subscriptions.lookup id = none := by
        rw [Option.eq_none_iff_forall_ne_some]
        intro sub hsome
        have hkept := (lookup_removeStale_subscriptions.mp hsome).2
        rw [hremoves] at hkept
        cases hkept
      refine .of_lookup_none hsub ?_ fun hmem => ?_
      · simp [Registry.removeStale, mem_removeStale_latchedChannels, hremoves]
      · simp [Registry.removeStale, mem_removeStale_channels, hremoves] at hmem
  | false =>
      refine (h.counted id).congr ?_ ?_ ?_ fun _ => rfl
      · simp [Registry.removeStale, mem_removeStale_channels, hremoves]
      · apply Option.ext
        intro sub
        simp [Registry.removeStale, lookup_removeStale_subscriptions, hremoves]
      · simp [Registry.removeStale, mem_removeStale_latchedChannels, hremoves]

theorem Counted.advertise {ρ : Registry} (h : Counted ρ) {latestTopics : List TopicAndDatatype}
    {answers : Answers} (hfresh : FreshIds (· ∈ ρ.issued) latestTopics answers) :
    Counted (ρ.advertise latestTopics answers) := by
  have hcreated : ∀ id channel, (id, channel) ∈ (ρ.tables.advertise answers latestTopics).2 →
      id ∉ ρ.tables.channels := by
    intro id channel hmem hin
    obtain ⟨topic, ht, -, hcreate, -⟩ := of_mem_created hmem
    exact hfresh.unused topic ht id hcreate (h.issued id hin)
  have hin : ∀ id, id ∈ (ρ.tables.advertise answers latestTopics).1.channels →
      id ∈ ρ.tables.channels ∨ id ∈ (ρ.tables.advertise answers latestTopics).2.map Prod.fst := by
    intro id hmem
    obtain ⟨channel, hlookup⟩ := UnorderedMap.mem_iff_lookup.mp hmem
    rcases of_lookup_advertise hlookup with hbefore | hnew
    · exact .inl (UnorderedMap.mem_iff_lookup.mpr ⟨channel, hbefore⟩)
    · exact .inr (List.mem_map_of_mem hnew)
  have hhistory : ∀ id who, interested id who (ρ.advertise latestTopics answers).history =
      if id ∈ (ρ.tables.advertise answers latestTopics).2.map Prod.fst then false
      else interested id who ρ.history := by
    intro id who
    rw [Registry.advertise, ← List.map_reverse, interested_entered]
    simp only [List.mem_reverse]
  refine ⟨?_, ?_⟩
  · intro id
    have hid := h.counted id
    by_cases hnew : id ∈ (ρ.tables.advertise answers latestTopics).2.map Prod.fst
    · obtain ⟨⟨created, channel⟩, hmem, heq⟩ := List.mem_map.mp hnew
      obtain rfl : created = id := heq
      have hsub : ρ.tables.subscriptions.lookup created = none := by
        rw [Option.eq_none_iff_forall_ne_some]
        exact fun sub hsome => hcreated created channel hmem (hid.mem_channels hsome)
      refine .of_lookup_none (by simpa [Registry.advertise] using hsub)
        (by simpa [Registry.advertise] using hid.not_latched hsub) fun _ who => ?_
      rw [hhistory, if_pos hnew]
    · refine hid.congr ?_ (by simp [Registry.advertise]) (by simp [Registry.advertise])
        fun who => by rw [hhistory, if_neg hnew]
      constructor
      · exact fun hmem => (hin id hmem).resolve_right hnew
      · intro hmem
        obtain ⟨channel, hlookup⟩ := UnorderedMap.mem_iff_lookup.mp hmem
        exact UnorderedMap.mem_iff_lookup.mpr
          ⟨channel, lookup_advertise_of_lookup latestTopics hlookup⟩
  · intro id hmem
    rw [Registry.advertise, Finset.mem_union, List.mem_toFinset]
    exact (hin id hmem).imp_left (h.issued id)

theorem counted_initial : Counted .initial := by
  refine ⟨fun id => .of_lookup_none rfl (Finset.notMem_empty id) fun hmem => ?_, fun id hmem => ?_⟩
  · exact absurd hmem (AList.notMem_empty id)
  · exact absurd hmem (AList.notMem_empty id)

theorem Counted.step {ρ ρ' : Registry} {a : RegistryAction} (h : Counted ρ)
    (hs : ρ.step a = some ρ') : Counted ρ' := by
  cases a with
  | onSubscribe channelId client sinkId serial =>
      obtain rfl := Option.some.inj hs
      exact h.onSubscribe channelId client sinkId serial
  | onUnsubscribe channelId client =>
      obtain rfl := Option.some.inj hs
      exact h.onUnsubscribe channelId client
  | rosMessageHandler channelId event timestamp =>
      obtain rfl := Option.some.inj hs
      exact h.rosMessageHandler channelId event timestamp
  | removeStale latestTopics =>
      obtain rfl := Option.some.inj hs
      exact h.removeStale latestTopics
  | advertise latestTopics answers =>
      simp only [Registry.step, Option.ite_none_right_eq_some, Option.some.injEq] at hs
      obtain ⟨⟨-, hfresh⟩, rfl⟩ := hs
      exact h.advertise hfresh

theorem counted_of_reachable {ρ : Registry} (h : registrySystem.Reachable ρ) : Counted ρ :=
  h.invariant
    { init := by
        rintro τ rfl
        exact counted_initial
      step := fun _ _ _ hI _ hs => hI.step hs }

/-- **Reference counting.** In every reachable state and for every channel id:
there is a subscription if and only if the channel is in the table and some
client is interested in it; the two client sets are the interested clients of
the two transports; and the channel counts as latched if and only if its
subscription has a latched message cached. -/
theorem subscriptions_counted {ρ : Registry} (h : registrySystem.Reachable ρ)
    (channelId : ChannelId) :
    ((∃ sub, ρ.tables.subscriptions.lookup channelId = some sub) ↔
      channelId ∈ ρ.tables.channels ∧
        ∃ client, interested channelId client ρ.history = true) ∧
    (∀ sub, ρ.tables.subscriptions.lookup channelId = some sub →
      (∀ clientId, clientId ∈ sub.wsClientIds ↔
        interested channelId ⟨false, clientId⟩ ρ.history = true) ∧
      (∀ clientId, clientId ∈ sub.gatewayClientIds ↔
        interested channelId ⟨true, clientId⟩ ρ.history = true)) ∧
    (channelId ∈ ρ.tables.latchedChannels ↔
      ∃ sub, ρ.tables.subscriptions.lookup channelId = some sub ∧ sub.latchedMessages ≠ []) := by
  have hid := (counted_of_reachable h).counted channelId
  refine ⟨hid.subscribed, fun sub hsub => ⟨fun clientId => ?_, fun clientId => ?_⟩, hid.latched⟩
  · exact hid.clients sub hsub ⟨false, clientId⟩
  · exact hid.clients sub hsub ⟨true, clientId⟩

/-- Clients of the two transports with the same number share a channel, and the
WebSocket one leaves. -/
theorem subscriptions_counted_two_transports : ∃ ρ : Registry,
    ∃ sub, ρ.tables.subscriptions.lookup 1 = some sub ∧ 7 ∉ sub.wsClientIds ∧
      7 ∈ sub.gatewayClientIds := by
  obtain ⟨ρ, hexec, hmem, hws, hgateway⟩ : ∃ ρ, registrySystem.exec .initial
      [.removeStale [("/chatter", "std_msgs/String")],
        .advertise [("/chatter", "std_msgs/String")]
          { getMessageDescription := fun _ => some [115], create := fun _ => some 1 },
        .onSubscribe 1 ⟨false, 7⟩ none 0, .onSubscribe 1 ⟨true, 7⟩ (some 3) 1,
        .onUnsubscribe 1 ⟨false, 7⟩] = some ρ ∧ 1 ∈ ρ.tables.channels ∧
      interested 1 ⟨false, 7⟩ ρ.history = false ∧ interested 1 ⟨true, 7⟩ ρ.history = true :=
    ⟨_, rfl, by decide, rfl, rfl⟩
  have hcounted := subscriptions_counted (TSys.Reachable.exec (.init rfl) hexec) 1
  obtain ⟨sub, hsub⟩ := hcounted.1.mpr ⟨hmem, _, hgateway⟩
  refine ⟨ρ, sub, hsub, ?_, ((hcounted.2.1 sub hsub).2 7).mpr hgateway⟩
  rw [(hcounted.2.1 sub hsub).1, hws]
  decide

end FoxgloveBridge
