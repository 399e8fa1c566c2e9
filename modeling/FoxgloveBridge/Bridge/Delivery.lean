import FoxgloveBridge.Bridge.Latched

/-!
# What a subscribed client receives

All broadcasts of the bridge are made with `_subscriptionsMutex` held, so they happen one after
another and each goes to whoever the SDK has accepted by then. From the moment it is accepted
until it is dropped a client is therefore sent every message of its channel that the bridge
handles, once, and in the order in which they were handled; besides that it is sent what its
own subscribe callbacks replay, and nothing else (`accepted_hear_all`).

`Hears` says what a schedule does for one client; it holds of each step that neither accepts
nor drops the client, and it composes.
-/

namespace FoxgloveBridge

namespace LatchState

/-- What was broadcast to a sink on a channel. -/
def heard (σ : LatchState) (channelId : ChannelId) (sink : SinkId) : List ChannelLog :=
  (σ.sent.filter fun entry =>
    entry.1 = sink ∧ entry.2.channel = channelId ∧ entry.2.sink = none).map Prod.snd

/-- What was sent to a sink alone. -/
def replayed (σ : LatchState) (sink : SinkId) : List ChannelLog :=
  (σ.sent.filter fun entry => entry.2.sink = some sink).map Prod.snd

/-- The broadcasts on a channel that the section that holds the mutex has still to make. -/
def owed (σ : LatchState) (channelId : ChannelId) : List ChannelLog :=
  (σ.pending.filter fun log => log.sink = none).filter fun log => log.channel = channelId

/-- The subscribe callbacks on open channels, in the order of their locked sections. -/
def entered (σ : LatchState) : List SubscribeCallback :=
  σ.callbacks ++ (σ.locked.bind LockedSection.callback).toList

/-! ## Broadcasts -/

/-- From `σ` to `σ'`, the client is sent what is broadcast on its channel. -/
structure Hears (channelId : ChannelId) (sink : SinkId) (σ σ' : LatchState) : Prop where
  accepted : σ'.accepted.count (channelId, sink) = σ.accepted.count (channelId, sink)
  history : σ.history <+: σ'.history
  heard : σ.accepted.count (channelId, sink) = 1 → ∃ new,
    σ'.broadcasts = σ.broadcasts ++ new ∧
      σ'.heard channelId sink =
        σ.heard channelId sink ++ new.filter fun log => log.channel = channelId

variable {channelId : ChannelId} {sink : SinkId} {σ σ' : LatchState}

/-- Nothing is sent. -/
theorem Hears.of_silent
    (haccepted : σ'.accepted.count (channelId, sink) = σ.accepted.count (channelId, sink))
    (hhistory : σ.history <+: σ'.history) (hbroadcasts : σ'.broadcasts = σ.broadcasts)
    (hsent : σ'.sent = σ.sent) : Hears channelId sink σ σ' := by
  refine ⟨haccepted, hhistory, fun _ => ⟨[], ?_, ?_⟩⟩
  · rw [hbroadcasts, List.append_nil]
  · rw [LatchState.heard, hsent, List.filter_nil, List.append_nil, LatchState.heard]

theorem Hears.refl (σ : LatchState) : Hears channelId sink σ σ :=
  .of_silent rfl (List.prefix_refl _) rfl rfl

theorem Hears.trans {σ'' : LatchState} (h : Hears channelId sink σ σ')
    (h' : Hears channelId sink σ' σ'') : Hears channelId sink σ σ'' := by
  refine ⟨h'.accepted.trans h.accepted, h.history.trans h'.history, fun honce => ?_⟩
  obtain ⟨new, hbroadcasts, hheard⟩ := h.heard honce
  obtain ⟨more, hbroadcasts', hheard'⟩ := h'.heard (h.accepted.trans honce)
  refine ⟨new ++ more, ?_, ?_⟩
  · rw [hbroadcasts', hbroadcasts, List.append_assoc]
  · rw [hheard', hheard, List.filter_append, List.append_assoc]

/-- A section that takes the mutex sends nothing yet. -/
theorem Hears.lock {tables : Tables} {history : List SubscriptionEvent} {rest : List ChannelLog}
    {callback : Option SubscribeCallback} (hhistory : σ.history <+: history)
    (hs : σ.lock tables history rest callback = some σ') : Hears channelId sink σ σ' := by
  obtain ⟨-, hσ'⟩ := Option.ite_none_left_eq_some.mp hs
  obtain rfl := Option.some.inj hσ'
  exact .of_silent rfl hhistory rfl rfl

theorem prefix_subscribed (σ : LatchState) (channelId : ChannelId) :
    σ.history <+: σ.subscribed channelId := by
  unfold LatchState.subscribed
  split
  · exact List.prefix_append _ _
  · exact List.prefix_refl _

theorem prefix_received (σ : LatchState) (channelId : ChannelId) (event : MessageEvent)
    (timestamp : Nat) : σ.history <+: σ.received channelId event timestamp := by
  unfold LatchState.received
  split
  · exact List.prefix_append _ _
  · exact List.prefix_refl _

/-- A client that was accepted once is a recipient of the broadcasts on its channel, once. -/
theorem filter_recipients (honce : σ.accepted.count (channelId, sink) = 1) {log : ChannelLog}
    (hsink : log.sink = none) (hchannel : log.channel = channelId) :
    (σ.recipients log).filter (· = sink) = [sink] := by
  have hcount : (σ.recipients log).count sink = 1 := by
    rw [recipients, hsink, hchannel, ← honce]
    induction σ.accepted with
    | nil => rfl
    | cons client rest ih =>
        obtain ⟨c, k⟩ := client
        by_cases hc : c = channelId
        · subst hc
          by_cases hk : k = sink
          · subst hk
            simpa using ih
          · simpa [List.count_cons, hk] using ih
        · simpa [List.count_cons, hc] using ih
  rw [List.filter_eq, hcount]
  rfl

/-- One message of the section goes out. -/
theorem Hears.log {log : ChannelLog} {locked : Option LockedSection} :
    Hears channelId sink σ { σ with
      locked := locked
      sent := σ.sent ++ (σ.recipients log).map fun sink => (sink, log)
      broadcasts := if log.sink = none then σ.broadcasts ++ [log] else σ.broadcasts } := by
  refine ⟨rfl, List.prefix_refl _, fun honce => ?_⟩
  have hsent : ∀ τ : LatchState, τ.sent = σ.sent ++ (σ.recipients log).map (fun k => (k, log)) →
      τ.heard channelId sink = σ.heard channelId sink ++
        if log.channel = channelId ∧ log.sink = none then
          ((σ.recipients log).filter (· = sink)).map fun _ => log
        else [] := by
    intro τ hτ
    rw [LatchState.heard, hτ, List.filter_append, List.map_append, List.filter_map,
      List.map_map]
    congr 1
    by_cases hlog : log.channel = channelId ∧ log.sink = none
    · rw [if_pos hlog]
      simp [Function.comp_def, hlog]
    · rw [if_neg hlog]
      simp [Function.comp_def, hlog]
  by_cases hsink : log.sink = none
  · refine ⟨[log], if_pos hsink, ?_⟩
    rw [hsent _ rfl]
    by_cases hchannel : log.channel = channelId
    · rw [if_pos ⟨hchannel, hsink⟩, filter_recipients honce hsink hchannel]
      simp [hchannel]
    · rw [if_neg fun h => hchannel h.1]
      simp [hchannel]
  · refine ⟨[], by simp [hsink], ?_⟩
    rw [hsent _ rfl, if_neg fun h => hsink h.2, List.filter_nil]

/-- Every step but those that accept or drop the client itself. -/
theorem Hears.step {a : LatchAction} (haccept : a ≠ .accept channelId sink)
    (hdrop : a ≠ .drop channelId sink) (hs : σ.step a = some σ') :
    Hears channelId sink σ σ' := by
  cases a with
  | accept c k =>
      obtain rfl := Option.some.inj hs
      refine .of_silent (List.count_cons_of_ne ?_) (List.prefix_refl _) rfl rfl
      rintro ⟨⟩
      exact haccept rfl
  | drop c k =>
      obtain rfl := Option.some.inj hs
      refine .of_silent (List.count_filter ?_) (List.prefix_refl _) rfl rfl
      rw [decide_eq_true_iff]
      rintro ⟨⟩
      exact hdrop rfl
  | onSubscribe c clientId isGateway sinkId serial => exact .lock (σ.prefix_subscribed c) hs
  | onUnsubscribe => exact .lock (List.prefix_refl _) hs
  | rosMessageHandler c event timestamp => exact .lock (σ.prefix_received c event timestamp) hs
  | removeStale => exact .lock (List.prefix_refl _) hs
  | advertise => exact .lock (List.prefix_refl _) hs
  | log =>
      simp only [LatchState.step] at hs
      split at hs
      · obtain rfl := Option.some.inj hs
        exact .log
      · cases hs
  | unlock =>
      simp only [LatchState.step] at hs
      split at hs
      · obtain rfl := Option.some.inj hs
        exact .of_silent rfl (List.prefix_refl _) rfl rfl
      · cases hs

/-! ## Replays -/

/-- What is sent to a sink alone is what its callbacks have logged, and while no callback runs
only broadcasts are pending. -/
structure Replayed (σ : LatchState) : Prop where
  pending : ∀ rest, σ.locked = some ⟨rest, none⟩ → ∀ log ∈ rest, log.sink = none
  replayed : ∀ sink, σ.replayed sink =
    (σ.entered.filter fun c => c.sink = sink).flatMap SubscribeCallback.logged

/-- A section takes the mutex; its callback, if any, has logged nothing yet. -/
theorem Replayed.lock (h : σ.Replayed) {tables : Tables} {history : List SubscriptionEvent}
    {rest : List ChannelLog} {callback : Option SubscribeCallback}
    (hs : σ.lock tables history rest callback = some σ')
    (hpending : callback = none → ∀ log ∈ rest, log.sink = none)
    (hcallback : ∀ c ∈ callback, c.logged = []) : σ'.Replayed := by
  obtain ⟨hfree, hσ'⟩ := Option.ite_none_left_eq_some.mp hs
  obtain rfl := Option.some.inj hσ'
  have hnone : σ.locked = none := by simpa using hfree
  refine ⟨?_, fun k => ?_⟩
  · intro rest' hlocked
    obtain ⟨rfl, hcb⟩ := LockedSection.mk.inj (Option.some.inj hlocked)
    exact hpending hcb
  · have hbefore := h.replayed k
    simp only [entered, hnone, Option.bind_none, Option.toList_none, List.append_nil] at hbefore
    show σ.replayed k = _
    rw [hbefore, entered, List.filter_append, List.flatMap_append]
    cases callback with
    | none => simp
    | some c =>
        have hlogged := hcallback c rfl
        by_cases hk : c.sink = k
        · simp [hk, hlogged]
        · simp [hk]

/-- A section that has nothing to log. -/
theorem Replayed.lockSilent (h : σ.Replayed) {tables : Tables} {history : List SubscriptionEvent}
    (hs : σ.lock tables history [] none = some σ') : σ'.Replayed :=
  h.lock hs (fun _ _ hlog => absurd hlog List.not_mem_nil)
    fun c hc => absurd hc (Option.not_mem_none c)

theorem replays_sink {c : SubscribeCallback} {logs : List ChannelLog} (h : c.Replays logs) :
    ∀ log ∈ logs, log.sink = some c.sink := by
  obtain ⟨cache, -, -, rfl⟩ := h
  intro log hlog
  obtain ⟨entry, -, rfl⟩ := List.mem_map.mp hlog
  rfl

/-- One message goes out: a broadcast is no replay, and a replay is logged by the callback. -/
theorem Replayed.log (hexact : σ.Exact) (h : σ.Replayed) {log : ChannelLog}
    {rest : List ChannelLog} {callback : Option SubscribeCallback}
    (hlocked : σ.locked = some ⟨log :: rest, callback⟩) :
    Replayed { σ with
      locked := some ⟨rest, callback.map fun c => { c with logged := c.logged ++ [log] }⟩
      sent := σ.sent ++ (σ.recipients log).map fun sink => (sink, log)
      broadcasts := if log.sink = none then σ.broadcasts ++ [log] else σ.broadcasts } := by
  have hbefore := h.replayed
  cases callback with
  | none =>
      have hsink : log.sink = none := h.pending _ hlocked log List.mem_cons_self
      refine ⟨?_, fun k => ?_⟩
      · intro rest' heq
        obtain ⟨rfl, -⟩ := LockedSection.mk.inj (Option.some.inj heq)
        exact fun other hother => h.pending _ hlocked other (List.mem_cons_of_mem _ hother)
      · have hbefore := hbefore k
        simp only [entered, hlocked, Option.bind_some, LatchState.replayed] at hbefore
        simp [entered, LatchState.replayed, hbefore, hsink]
  | some c =>
      have hsink : log.sink = some c.sink :=
        replays_sink (hexact.inProgress _ hlocked c rfl) log (by simp)
      refine ⟨nofun, fun k => ?_⟩
      have hbefore := hbefore k
      simp only [entered, hlocked, Option.bind_some, LatchState.replayed] at hbefore
      by_cases hk : c.sink = k
      · have hlogged := congrArg (· ++ [log]) hbefore
        simpa [entered, LatchState.replayed, recipients, hsink, hk] using hlogged
      · simpa [entered, LatchState.replayed, recipients, hsink, hk] using hbefore

/-- The SDK drops a client; a callback that loses its client has logged what it has. -/
theorem Replayed.drop (h : σ.Replayed) (channelId : ChannelId) (sink : SinkId)
    (accepted caughtUp : List (ChannelId × SinkId)) :
    Replayed { σ with
      accepted := accepted
      locked := σ.locked.map fun s =>
        { s with callback := s.callback.map (SubscribeCallback.drop channelId sink) }
      caughtUp := caughtUp } := by
  refine ⟨?_, fun k => ?_⟩
  · intro rest hlocked
    obtain ⟨s, hbefore, heq⟩ := Option.map_eq_some_iff.mp hlocked
    obtain ⟨rfl, hnone⟩ := LockedSection.mk.inj heq
    refine h.pending s.rest ?_
    rw [hbefore, ← Option.map_eq_none_iff.mp hnone]
  · have hbefore := h.replayed k
    have hsame : ∀ callback : SubscribeCallback,
        (callback.drop channelId sink).sink = callback.sink ∧
          (callback.drop channelId sink).logged = callback.logged := by
      intro callback
      unfold SubscribeCallback.drop
      split <;> exact ⟨rfl, rfl⟩
    show σ.replayed k = _
    rw [hbefore]
    unfold entered
    dsimp only
    cases hlocked : σ.locked with
    | none => rfl
    | some s =>
        cases hcallback : s.callback with
        | none => simp [hcallback]
        | some callback => by_cases hk : callback.sink = k <;> simp [hcallback, hsame, hk]

/-- The section ends; its callback is one of those that have returned. -/
theorem Replayed.unlock (h : σ.Replayed) {callback : Option SubscribeCallback}
    (hlocked : σ.locked = some ⟨[], callback⟩) (caughtUp : List (ChannelId × SinkId)) :
    Replayed { σ with
      locked := none
      callbacks := σ.callbacks ++ callback.toList
      caughtUp := caughtUp } := by
  refine ⟨fun _ hnone => absurd hnone (Option.some_ne_none _).symm, fun k => ?_⟩
  have hbefore := h.replayed k
  simpa [entered, LatchState.replayed, hlocked] using hbefore

theorem Replayed.step {a : LatchAction} (hexact : σ.Exact) (h : σ.Replayed)
    (hs : σ.step a = some σ') : σ'.Replayed := by
  cases a with
  | accept c k =>
      obtain rfl := Option.some.inj hs
      exact ⟨h.pending, h.replayed⟩
  | drop c k =>
      obtain rfl := Option.some.inj hs
      exact h.drop c k _ _
  | onSubscribe c clientId isGateway sinkId serial =>
      refine h.lock hs (fun hnone log hlog => ?_) (fun callback hcallback => ?_)
      · obtain ⟨k, rfl, -⟩ := onSubscribe_logs_sink log hlog
        have hclosed : c ∉ σ.tables.channels := by
          intro hopen
          simp [LatchState.callback, hopen] at hnone
        simp [Tables.onSubscribe, AList.lookup_eq_none.mpr hclosed] at hlog
      · obtain ⟨k, -, hfound⟩ := Option.bind_eq_some_iff.mp hcallback
        simp only [LatchState.callback, Option.ite_none_right_eq_some, Option.some.injEq] at hfound
        rw [← hfound.2]
  | onUnsubscribe => exact h.lockSilent hs
  | rosMessageHandler c event timestamp =>
      by_cases hopen : c ∈ σ.tables.channels
      · rw [step_rosMessageHandler_open hopen] at hs
        refine h.lock hs (fun _ log hlog => ?_) fun c hc => absurd hc (Option.not_mem_none c)
        rw [List.mem_singleton.mp hlog]
      · rw [step_rosMessageHandler_closed hopen] at hs
        exact h.lockSilent hs
  | removeStale => exact h.lockSilent hs
  | advertise => exact h.lockSilent hs
  | log =>
      simp only [LatchState.step] at hs
      split at hs
      · obtain rfl := Option.some.inj hs
        exact h.log hexact ‹_›
      · cases hs
  | unlock =>
      simp only [LatchState.step] at hs
      split at hs
      · rename_i callback hlocked
        obtain rfl := Option.some.inj hs
        exact h.unlock hlocked _
      · cases hs

theorem Replayed.of_reachable (h : latchSystem.Reachable σ) : σ.Replayed := by
  refine TSys.Run.invariant_of (I := Replayed) h (fun τ hτ => Exact.of_reachable hτ) ?_ ?_
  · rintro τ rfl
    exact ⟨nofun, fun _ => rfl⟩
  · intro τ a τ' hreplayed hexact _ hs
    exact hreplayed.step hexact hs

/-! ## From acceptance on -/

/-- What is handled on a channel is broadcast on it, or about to be. -/
theorem broadcasts_split (h : latchSystem.Reachable σ) (h' : latchSystem.Reachable σ')
    {handled : List SubscriptionEvent} (hhistory : σ'.history = σ.history ++ handled)
    {new : List ChannelLog} (hnew : σ'.broadcasts = σ.broadcasts ++ new) (channelId : ChannelId) :
    (new.filter fun log => log.channel = channelId) ++ σ'.owed channelId = σ.owed channelId ++
      (handled.filterMap SubscriptionEvent.broadcast).filter fun log =>
        log.channel = channelId := by
  have hbefore := (Exact.of_reachable h).broadcasts
  have hafter := (Exact.of_reachable h').broadcasts
  rw [hhistory, hnew, List.filterMap_append, ← hbefore, List.append_assoc,
    List.append_assoc] at hafter
  have hrest := List.append_cancel_left hafter
  rw [owed, owed, ← List.filter_append, ← List.filter_append, hrest]

/-- A message for one sink is sent to no other. -/
theorem sent_alone (h : σ.Exact) (sink : SinkId) :
    σ.sent.filter (fun entry => entry.1 = sink ∧ entry.2.sink ≠ none) =
      (σ.replayed sink).map (Prod.mk sink) := by
  have hsame : ∀ entry ∈ σ.sent,
      decide (entry.1 = sink ∧ entry.2.sink ≠ none) = decide (entry.2.sink = some sink) := by
    intro entry hentry
    rcases h.sent entry hentry with hnone | hsome
    · simp [hnone]
    · simp [hsome]
  rw [List.filter_congr hsame, LatchState.replayed, List.map_map]
  refine (List.map_id _).symm.trans (List.map_congr_left fun entry hentry => ?_)
  obtain ⟨hmem, hsink⟩ := List.mem_filter.mp hentry
  rcases h.sent entry hmem with hnone | hsome
  · simp [hnone] at hsink
  · rw [decide_eq_true_iff, hsome, Option.some.injEq] at hsink
    exact Prod.ext hsink rfl

end LatchState

open LatchState

/-- **A client hears everything once.** Let the SDK accept a client for a channel and not drop it
again, whatever else happens in between. What is broadcast to it on the channel from then on, with
what the bridge is about to broadcast, are the messages that were about to be broadcast when it was
accepted and all that were handled since, each once and in the order in which they were handled.
What it is sent besides are the messages its own subscribe callbacks have logged, in their order. -/
theorem accepted_hear_all {σ σ' : LatchState} {channelId : ChannelId} {sink : SinkId}
    {actions : List LatchAction} (h : latchSystem.Reachable σ)
    (hnew : (channelId, sink) ∉ σ.accepted)
    (hstays : ∀ a ∈ actions, a ≠ .accept channelId sink ∧ a ≠ .drop channelId sink)
    (he : latchSystem.exec σ (.accept channelId sink :: actions) = some σ') :
    (∃ handled, σ'.history = σ.history ++ handled ∧
      σ'.heard channelId sink ++ σ'.owed channelId =
        σ.heard channelId sink ++ (σ.owed channelId ++
          (handled.filterMap SubscriptionEvent.broadcast).filter fun log =>
            log.channel = channelId)) ∧
      σ'.sent.filter (fun entry => entry.1 = sink ∧ entry.2.sink ≠ none) =
        ((σ'.entered.filter fun c => c.sink = sink).flatMap SubscribeCallback.logged).map
          (Prod.mk sink) := by
  have h' : latchSystem.Reachable σ' := h.exec he
  obtain ⟨τ, haccept, hrest⟩ := TSys.exec_cons_eq_some_iff.mp he
  obtain rfl := Option.some.inj haccept
  have hhears : Hears channelId sink _ σ' :=
    TSys.exec_rel Hears.refl Hears.trans
      (fun a ha _ _ hs => Hears.step (hstays a ha).1 (hstays a ha).2 hs) hrest
  have honce : ((channelId, sink) :: σ.accepted).count (channelId, sink) = 1 := by
    rw [List.count_cons_self, List.count_eq_zero.mpr hnew]
  constructor
  · obtain ⟨handled, hhandled⟩ := hhears.history
    obtain ⟨new, hbroadcasts, hheard⟩ := hhears.heard honce
    refine ⟨handled, hhandled.symm, ?_⟩
    rw [hheard, List.append_assoc, broadcasts_split h h' hhandled.symm hbroadcasts]
    rfl
  · rw [← (Replayed.of_reachable h').replayed sink]
    exact sent_alone (Exact.of_reachable h') sink

/-- A channel with a latched publisher, on which one client is subscribed. -/
def oneSubscriber : List LatchAction :=
  [.advertise [("/map", "T")] ⟨fun _ => some [], fun _ => some 1⟩, .unlock, .accept 1 10,
    .onSubscribe 1 7 false (some 10) 0, .unlock,
    .rosMessageHandler 1 (latchedMessage "/a" [1]) 100, .log]

/-- A second client is accepted while the mutex is still held, hears a latched message and one
that is not, and is replayed the cache. -/
def secondSubscriber : List LatchAction :=
  [.unlock, .rosMessageHandler 1 (latchedMessage "/a" [2]) 101, .log, .unlock,
    .rosMessageHandler 1 ⟨[3], some [("callerid", "/b")]⟩ 102, .log, .unlock,
    .onSubscribe 1 8 false (some 20) 1, .log]

theorem accepted_hear_all_second : ∃ σ σ',
    latchSystem.exec .initial oneSubscriber = some σ ∧
      latchSystem.exec σ (.accept 1 20 :: secondSubscriber) = some σ' ∧
      σ'.heard 1 20 = [⟨1, [2], 101, none⟩, ⟨1, [3], 102, none⟩] ∧
      σ'.sent.filter (fun entry => entry.1 = 20 ∧ entry.2.sink ≠ none) =
        [(20, ⟨1, [2], 101, some 20⟩)] := by
  refine ⟨_, _, rfl, rfl, rfl, ?_⟩
  have hreach : latchSystem.Reachable _ :=
    TSys.Reachable.exec (.init rfl) (show latchSystem.exec _ oneSubscriber = some _ from rfl)
  have hstays : ∀ a ∈ secondSubscriber, a ≠ .accept 1 20 ∧ a ≠ .drop 1 20 := by
    simp [secondSubscriber]
  exact (accepted_hear_all hreach (by decide) hstays rfl).2

end FoxgloveBridge
