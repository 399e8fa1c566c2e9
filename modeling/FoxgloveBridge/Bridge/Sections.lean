import FoxgloveBridge.Bridge.Locks
import FoxgloveBridge.Bridge.Topics

/-!
# A locked section is one step

The other models of the bridge take a section under the tables' mutex in one step. Here that
is proved of the frames: wherever a thread is in such a section, the tables that the section
will have made, and the frame it will end in, are determined (`Frame.outcome`); at the point
where the thread waits for the mutex they are those that the functions on the tables
compute. Nothing that a thread does changes the outcome of a section that is entered
(`InSection.step`), so that when it ends the tables are what one function makes of those it
began with, whatever other threads did in between (`sections_atomic`).
-/

namespace FoxgloveBridge

/-! ## Outcomes -/

/-- The removal loop visits a channel. It has the tables, the channels to close and the
subscriptions to release. -/
def Tables.visit (latestTopics : List TopicAndDatatype)
    (s : Tables × List ChannelId × List Subscriber) (channelId : ChannelId) :
    Tables × List ChannelId × List Subscriber :=
  if s.1.removes latestTopics channelId then
    (s.1.removeChannel channelId, s.2.1 ++ [channelId],
      s.2.2 ++ ((s.1.subscriptions.lookup channelId).map
        ChannelSubscription.rosSubscription).toList)
  else s

/-- A new topic is advertised, and those that follow. -/
def Tables.advertiseNew (answers : Answers) (topic : TopicAndDatatype)
    (rest : List TopicAndDatatype) (definition : Option (List UInt8)) (T : Tables) : Tables :=
  match answers.create topic with
  | none => (T.advertise answers rest).1
  | some channelId =>
      ((T.insertChannel channelId
        (Answers.channel ⟨fun _ => definition, answers.create⟩ topic)).advertise answers rest).1

/-- The last frame of the removal, which releases the mutex. -/
def removalEnd (latestTopics : List TopicAndDatatype)
    (s : Tables × List ChannelId × List Subscriber) : Tables × Frame :=
  (s.1, .updateAdvertisedTopics latestTopics (.removing [] s.2.1 s.2.2))

/-- The tables that the section will have made and the frame it will end in, where the section
is at this frame, or begins there. -/
def Frame.outcome (answers : Answers) (T : Tables) (serials : Nat) : Frame → Tables × Frame
  | .onSubscribe channelId clientId isGateway sinkId pc =>
      let last := Frame.onSubscribe channelId clientId isGateway sinkId .unlocking
      match pc with
      | .locking | .finding => ((T.onSubscribe channelId clientId isGateway sinkId serials).1, last)
      | .replaying _ | .inserting =>
          match T.subscriptions.lookup channelId with
          | none => (T, last)
          | some sub =>
              ({ T with subscriptions :=
                  T.subscriptions.insert channelId (sub.insertClient clientId isGateway) }, last)
      | .unlocking => (T, last)
  | .onUnsubscribe channelId clientId isGateway pc =>
      let last := fun released =>
        Frame.onUnsubscribe channelId clientId isGateway (.unlocking released)
      match pc with
      | .locking | .finding =>
          let result := T.onUnsubscribe channelId clientId isGateway
          (result.1, last (result.2.map ChannelSubscription.rosSubscription))
      | .latchLocking released | .latchErasing released =>
          ({ T with latchedChannels := T.latchedChannels.erase channelId }, last (some released))
      | .unlocking released => (T, last released)
  | .rosMessageHandler channelId event timestamp pc =>
      let last := Frame.rosMessageHandler channelId event timestamp .unlocking
      match pc with
      | .locking | .finding => ((T.rosMessageHandler channelId event timestamp).1, last)
      | .latchLocking | .latchInserting =>
          ({ T with latchedChannels := insert channelId T.latchedChannels }, last)
      | .logging | .unlocking => (T, last)
  | .updateAdvertisedTopics latestTopics pc =>
      let last := Frame.updateAdvertisedTopics latestTopics .unlocking
      match pc with
      | .lockingForRemoval =>
          removalEnd latestTopics (T.removeStale latestTopics, T.channelsToClose latestTopics,
            (T.subscriptionsToRelease latestTopics).map ChannelSubscription.rosSubscription)
      | .removing rest channels subs =>
          removalEnd latestTopics (rest.foldl (Tables.visit latestTopics) (T, channels, subs))
      | .latchLocking channelId rest channels subs | .latchErasing channelId rest channels subs =>
          let T : Tables :=
            { T with
              channels := T.channels.erase channelId
              latchedChannels := T.latchedChannels.erase channelId }
          removalEnd latestTopics
            (rest.foldl (Tables.visit latestTopics) (T, channels ++ [channelId], subs))
      | .erasing channelId rest channels subs =>
          let T : Tables := { T with channels := T.channels.erase channelId }
          removalEnd latestTopics
            (rest.foldl (Tables.visit latestTopics) (T, channels ++ [channelId], subs))
      | .lockingForAdvertising => ((T.advertise answers latestTopics).1, last)
      | .advertising rest | .droppingResult rest => ((T.advertise answers rest).1, last)
      | .creating topic rest =>
          (T.advertiseNew answers topic rest (answers.getMessageDescription topic.2), last)
      | .inserting topic rest definition => (T.advertiseNew answers topic rest definition, last)
      | .closing channels subs => (T, .updateAdvertisedTopics latestTopics (.closing channels subs))
      | .releasing subs => (T, .updateAdvertisedTopics latestTopics (.releasing subs))
      | .unlocking => (T, last)
  | .guarded lock _ => (T, .guarded lock true)
  | frame => (T, frame)

/-- The frame is in a section under the tables' mutex, or waits for it. -/
def Frame.entered (frame : Frame) : Bool :=
  decide (.subscriptionsMutex ∈ frame.held ∨ frame.waits = some .subscriptionsMutex)

/-- What the message definition provider and the SDK answer this frame. -/
def Frame.AnsweredBy (answers : Answers) (frame : Frame) (answer : Answer) : Prop :=
  match frame with
  | .updateAdvertisedTopics _ (.creating topic _) =>
      answer.definition = answers.getMessageDescription topic.2
  | .updateAdvertisedTopics _ (.inserting topic _ _) => answer.created = answers.create topic
  | _ => True

instance (answers : Answers) (answer : Answer) :
    (frame : Frame) → Decidable (frame.AnsweredBy answers answer)
  | .updateAdvertisedTopics _ pc =>
      match pc with
      | .creating _ _ | .inserting _ _ _ => inferInstanceAs (Decidable (_ = _))
      | .lockingForRemoval | .removing _ _ _ | .latchLocking _ _ _ _ | .latchErasing _ _ _ _
      | .erasing _ _ _ _ | .closing _ _ | .releasing _ | .lockingForAdvertising | .advertising _
      | .droppingResult _ | .unlocking => .isTrue trivial
  | .guarded _ _ | .gatewaySession _ _ | .onSubscribe _ _ _ _ _ | .onUnsubscribe _ _ _ _
  | .inFlight _ | .rosMessageHandler _ _ _ _ | .onClientAdvertise _ | .classifyRemoteAccessQos _ _
  | .channelLog _ | .closeChannel _ _ | .dropSubscriber _ => .isTrue trivial

/-! ## The outcome stays -/

/-- The section goes on in another frame, with the same outcome. -/
def LockState.Continues (σ : LockState) (answers : Answers) (frame : Frame)
    (next : LockState × List Frame) : Prop :=
  ∃ callees frame', next.2 = callees ++ [frame'] ∧ .subscriptionsMutex ∈ frame'.held ∧
    frame'.outcome answers next.1.tables next.1.serials =
      frame.outcome answers σ.tables σ.serials

/-- The section goes on, or has come to its end. -/
def LockState.Proceeds (σ : LockState) (answers : Answers) (frame : Frame)
    (next : LockState × List Frame) : Prop :=
  σ.Continues answers frame next ∨ frame.outcome answers σ.tables σ.serials = (σ.tables, frame)

namespace LockState

variable {σ τ : LockState} {answers : Answers} {frame next : Frame}

theorem Proceeds.goto (hheld : decide (.subscriptionsMutex ∈ next.held) = true)
    (houtcome : next.outcome answers τ.tables τ.serials =
      frame.outcome answers σ.tables σ.serials) :
    σ.Proceeds answers frame (τ, [next]) :=
  .inl ⟨[], next, rfl, of_decide_eq_true hheld, houtcome⟩

theorem Proceeds.call {callee : Frame} (hheld : decide (.subscriptionsMutex ∈ next.held) = true)
    (houtcome : next.outcome answers τ.tables τ.serials =
      frame.outcome answers σ.tables σ.serials) :
    σ.Proceeds answers frame (τ, [callee, next]) :=
  .inl ⟨[callee], next, rfl, of_decide_eq_true hheld, houtcome⟩

section Callbacks

variable (channelId : ChannelId) (clientId : ClientId) (isGateway : Bool)

theorem onSubscribe_proceeds (sinkId : Option SinkId) (pc : OnSubscribePc) :
    σ.Proceeds answers (.onSubscribe channelId clientId isGateway sinkId pc)
      (σ.onSubscribe channelId clientId isGateway sinkId pc) := by
  cases pc with
  | locking => exact .goto rfl rfl
  | finding =>
      cases hchannel : σ.tables.channels.lookup channelId with
      | none =>
          simp only [LockState.onSubscribe, hchannel]
          refine .goto rfl ?_
          simp only [Frame.outcome, Tables.onSubscribe, hchannel]
      | some channel =>
          cases hsub : σ.tables.subscriptions.lookup channelId with
          | none =>
              have hnot : channelId ∉ σ.tables.subscriptions := AList.lookup_eq_none.mp hsub
              simp only [LockState.onSubscribe, hchannel, hsub]
              refine .call rfl ?_
              simp only [Frame.outcome, Tables.onSubscribe, hchannel, hsub,
                Tables.emplaceSubscription, UnorderedMap.emplace_of_notMem hnot,
                AList.lookup_insert, AList.insert_insert]
          | some sub =>
              simp only [LockState.onSubscribe, hchannel, hsub]
              refine .goto rfl ?_
              simp only [Frame.outcome, Tables.onSubscribe, hchannel, hsub]
  | replaying remaining =>
      cases remaining with
      | zero => exact .goto rfl rfl
      | succ remaining => exact .call rfl rfl
  | inserting =>
      cases hsub : σ.tables.subscriptions.lookup channelId with
      | none =>
          simp only [LockState.onSubscribe, hsub]
          refine .goto rfl ?_
          simp only [Frame.outcome, hsub]
      | some sub =>
          simp only [LockState.onSubscribe, hsub]
          refine .goto rfl ?_
          simp only [Frame.outcome, hsub]
          rfl
  | unlocking => exact .inr rfl

theorem onUnsubscribe_proceeds (pc : OnUnsubscribePc) :
    σ.Proceeds answers (.onUnsubscribe channelId clientId isGateway pc)
      (σ.onUnsubscribe channelId clientId isGateway pc) := by
  cases pc with
  | locking => exact .goto rfl rfl
  | finding =>
      cases hsub : σ.tables.subscriptions.lookup channelId with
      | none =>
          simp only [LockState.onUnsubscribe, hsub]
          refine .goto rfl ?_
          simp only [Frame.outcome, Tables.onUnsubscribe, hsub]
          rfl
      | some sub =>
          by_cases hlast : (sub.eraseClient clientId isGateway).wsClientIds = ∅ ∧
              (sub.eraseClient clientId isGateway).gatewayClientIds = ∅
          · simp only [LockState.onUnsubscribe, hsub, if_pos hlast]
            refine .call rfl ?_
            simp only [Frame.outcome, Tables.onUnsubscribe, hsub, if_pos hlast]
            rfl
          · simp only [LockState.onUnsubscribe, hsub, if_neg hlast]
            refine .goto rfl ?_
            simp only [Frame.outcome, Tables.onUnsubscribe, hsub, if_neg hlast]
            rfl
  | latchLocking released => exact .goto rfl rfl
  | latchErasing released => exact .goto rfl rfl
  | unlocking released => exact .inr rfl

end Callbacks

theorem rosMessageHandler_proceeds (channelId : ChannelId) (event : MessageEvent)
    (timestamp : Nat) (pc : RosMessageHandlerPc) :
    σ.Proceeds answers (.rosMessageHandler channelId event timestamp pc)
      (σ.rosMessageHandler channelId event timestamp pc) := by
  cases pc with
  | locking => exact .goto rfl rfl
  | finding =>
      cases hchannel : σ.tables.channels.lookup channelId with
      | none =>
          simp only [LockState.rosMessageHandler, hchannel]
          refine .goto rfl ?_
          simp only [Frame.outcome, Tables.rosMessageHandler, hchannel]
      | some channel =>
          cases hlatching : event.latching with
          | false =>
              simp only [LockState.rosMessageHandler, hchannel, hlatching, Bool.false_eq_true,
                if_false]
              refine .goto rfl ?_
              simp only [Frame.outcome, Tables.rosMessageHandler, hchannel, hlatching,
                Bool.false_eq_true, if_false]
          | true =>
              cases hsub : σ.tables.subscriptions.lookup channelId with
              | none =>
                  simp only [LockState.rosMessageHandler, hchannel, hlatching, if_true, hsub]
                  refine .goto rfl ?_
                  simp only [Frame.outcome, Tables.rosMessageHandler, hchannel, hlatching, if_true,
                    hsub]
              | some sub =>
                  simp only [LockState.rosMessageHandler, hchannel, hlatching, if_true, hsub]
                  refine .goto rfl ?_
                  simp only [Frame.outcome, Tables.rosMessageHandler, hchannel, hlatching, if_true,
                    hsub]
                  rfl
  | latchLocking => exact .goto rfl rfl
  | latchInserting => exact .goto rfl rfl
  | logging => exact .call rfl rfl
  | unlocking => exact .inr rfl

end LockState

section Update

variable {latestTopics : List TopicAndDatatype}

/-- The removal loop, from any point of it to its end. -/
theorem Tables.foldl_visit {rest : List ChannelId} (hnodup : rest.Nodup) (T : Tables)
    (channels : List ChannelId) (subs : List Subscriber) :
    rest.foldl (Tables.visit latestTopics) (T, channels, subs) =
      ((rest.filter (T.removes latestTopics)).foldl Tables.removeChannel T,
        channels ++ rest.filter (T.removes latestTopics),
        subs ++ ((rest.filter (T.removes latestTopics)).filterMap T.subscriptions.lookup).map
          ChannelSubscription.rosSubscription) := by
  induction rest generalizing T channels subs with
  | nil => simp
  | cons channelId rest ih =>
      obtain ⟨hnot, hrest⟩ := List.nodup_cons.mp hnodup
      rw [List.foldl_cons, Tables.visit]
      cases hremoves : T.removes latestTopics channelId with
      | false =>
          rw [if_neg Bool.false_ne_true, ih hrest, List.filter_cons_of_neg (by simp [hremoves])]
      | true =>
          have hlookup := filterMap_lookup_removeChannel (T := T)
            (fun hmem => hnot (List.mem_filter.mp hmem).1 :
              channelId ∉ rest.filter (T.removes latestTopics))
          rw [if_pos rfl, ih hrest, List.filter_cons_of_pos hremoves,
            filter_removes_removeChannel hnot, hlookup]
          cases hsub : T.subscriptions.lookup channelId <;> simp [hsub]

theorem Tables.foldl_visit_keys (T : Tables) :
    T.channels.keys.foldl (Tables.visit latestTopics) (T, [], []) =
      (T.removeStale latestTopics, T.channelsToClose latestTopics,
        (T.subscriptionsToRelease latestTopics).map ChannelSubscription.rosSubscription) := by
  rw [Tables.foldl_visit T.channels.keys_nodup, Tables.channelsToClose_eq_filter_keys,
    Tables.foldl_removeChannel_channelsToClose]
  rfl

theorem Tables.advertise_cons_of_not_advertises {T : Tables} {answers : Answers}
    {topic : TopicAndDatatype} (rest : List TopicAndDatatype)
    (hadvertises : T.advertises topic = false) :
    (T.advertise answers (topic :: rest)).1 =
      T.advertiseNew answers topic rest (answers.getMessageDescription topic.2) := by
  rw [Tables.advertise, hadvertises, if_neg Bool.false_ne_true, Tables.advertiseNew]
  cases hcreate : answers.create topic <;> rfl

namespace LockState

variable {σ : LockState} {answers : Answers}

/-- The removal loop at its next channel. -/
theorem removing_proceeds (channelId : ChannelId) (rest channels : List ChannelId)
    (subs : List Subscriber) (answer : Answer) :
    σ.Proceeds answers
      (.updateAdvertisedTopics latestTopics (.removing (channelId :: rest) channels subs))
      (σ.updateAdvertisedTopics latestTopics (.removing (channelId :: rest) channels subs)
        answer) := by
  cases hremoves : σ.tables.removes latestTopics channelId with
  | false =>
      simp only [LockState.updateAdvertisedTopics, hremoves, Bool.false_eq_true, if_false]
      refine .goto rfl ?_
      simp only [Frame.outcome, List.foldl_cons, Tables.visit, hremoves, Bool.false_eq_true,
        if_false]
  | true =>
      cases hsub : σ.tables.subscriptions.lookup channelId with
      | none =>
          have hsame : σ.tables.subscriptions.erase channelId = σ.tables.subscriptions :=
            AList.ext (List.kerase_of_notMem_keys (AList.lookup_eq_none.mp hsub))
          simp only [LockState.updateAdvertisedTopics, hremoves, if_true, hsub]
          refine .goto rfl ?_
          simp only [Frame.outcome, List.foldl_cons, Tables.visit, hremoves, if_true, hsub,
            Tables.removeChannel, hsame, Option.map_none, Option.toList_none, List.append_nil]
      | some sub =>
          simp only [LockState.updateAdvertisedTopics, hremoves, if_true, hsub]
          refine .call rfl ?_
          simp only [Frame.outcome, List.foldl_cons, Tables.visit, hremoves, if_true, hsub,
            Tables.removeChannel, Option.map_some, Option.toList_some]
          rfl

theorem updateAdvertisedTopics_proceeds {pc : UpdateAdvertisedTopicsPc} {answer : Answer}
    (hin : Frame.entered (.updateAdvertisedTopics latestTopics pc) = true)
    (hanswer : (Frame.updateAdvertisedTopics latestTopics pc).AnsweredBy answers answer) :
    σ.Proceeds answers (.updateAdvertisedTopics latestTopics pc)
      (σ.updateAdvertisedTopics latestTopics pc answer) := by
  cases pc with
  | lockingForRemoval =>
      refine .goto rfl ?_
      simp only [Frame.outcome, Tables.foldl_visit_keys]
  | removing rest channels subs =>
      cases rest with
      | nil => exact .inr rfl
      | cons channelId rest => exact removing_proceeds channelId rest channels subs answer
  | latchLocking channelId rest channels subs => exact .goto rfl rfl
  | latchErasing channelId rest channels subs => exact .goto rfl rfl
  | erasing channelId rest channels subs => exact .call rfl rfl
  | closing channels subs => cases hin
  | releasing subs => cases hin
  | lockingForAdvertising => exact .goto rfl rfl
  | advertising rest =>
      cases rest with
      | nil => exact .goto rfl rfl
      | cons topic rest =>
          cases hadvertises : σ.tables.advertises topic with
          | true =>
              simp only [LockState.updateAdvertisedTopics, hadvertises, if_true]
              refine .goto rfl ?_
              simp only [Frame.outcome, Tables.advertise, hadvertises, if_true]
          | false =>
              simp only [LockState.updateAdvertisedTopics, hadvertises, Bool.false_eq_true,
                if_false]
              refine .call rfl ?_
              simp only [Frame.outcome, Tables.advertise_cons_of_not_advertises rest hadvertises]
  | creating topic rest =>
      have hdefinition : answer.definition = answers.getMessageDescription topic.2 := hanswer
      refine .call rfl ?_
      simp only [Frame.outcome, hdefinition]
  | inserting topic rest definition =>
      have hcreated : answer.created = answers.create topic := hanswer
      cases hcreate : answers.create topic with
      | none =>
          simp only [LockState.updateAdvertisedTopics, hcreated, hcreate]
          refine .goto rfl ?_
          simp only [Frame.outcome, Tables.advertiseNew, hcreate]
      | some channelId =>
          simp only [LockState.updateAdvertisedTopics, hcreated, hcreate]
          refine .call rfl ?_
          simp only [Frame.outcome, Tables.advertiseNew, hcreate]
          rfl
  | droppingResult rest => exact .call rfl rfl
  | unlocking => exact .inr rfl

end LockState

end Update

/-! ## Atomicity -/

namespace LockState

variable {σ τ : LockState} {answers : Answers} {frame : Frame}

/-- Wherever a section is, and where it begins, it proceeds to its outcome. -/
theorem advance_proceeds {answer : Answer} (hin : frame.entered = true)
    (hanswer : frame.AnsweredBy answers answer) :
    σ.Proceeds answers frame (σ.advance frame answer) := by
  cases frame with
  | onSubscribe => exact onSubscribe_proceeds ..
  | onUnsubscribe => exact onUnsubscribe_proceeds ..
  | rosMessageHandler => exact rosMessageHandler_proceeds ..
  | updateAdvertisedTopics => exact updateAdvertisedTopics_proceeds hin hanswer
  | guarded lock entered =>
      cases entered with
      | true => exact .inr rfl
      | false =>
          have hlock : lock = .subscriptionsMutex := by
            simpa [Frame.entered, Frame.held, Frame.waits] using hin
          subst hlock
          exact .goto rfl rfl
  | _ => exact .inr rfl

/-- The frame a section ends in holds the mutex. -/
theorem outcome_held (hin : frame.entered = true) (answers : Answers) (T : Tables)
    (serials : Nat) :
    .subscriptionsMutex ∈ (frame.outcome answers T serials).2.held := by
  cases frame with
  | onSubscribe channelId clientId isGateway sinkId pc =>
      cases pc with
      | replaying | inserting =>
          simp only [Frame.outcome]
          split <;> exact List.mem_singleton_self _
      | _ => exact List.mem_singleton_self _
  | onUnsubscribe channelId clientId isGateway pc => cases pc <;> exact List.mem_singleton_self _
  | rosMessageHandler channelId event timestamp pc =>
      cases pc <;> exact List.mem_singleton_self _
  | updateAdvertisedTopics latestTopics pc =>
      cases pc <;> first | exact List.mem_singleton_self _ | cases hin
  | guarded lock entered =>
      have hlock : lock = .subscriptionsMutex := by
        cases entered <;> simpa [Frame.entered, Frame.held, Frame.waits, eq_comm] using hin
      exact hlock ▸ List.mem_singleton_self _
  | gatewaySession call entered => cases entered <;> cases hin
  | inFlight serial => cases hin
  | onClientAdvertise pc => cases pc <;> cases hin
  | classifyRemoteAccessQos channelId pc => cases pc <;> cases hin
  | channelLog pc => cases pc <;> cases hin
  | closeChannel handle pc => cases handle <;> cases pc <;> cases hin
  | dropSubscriber handle => cases handle <;> cases hin

/-- A thread that takes the mutex is in its section. -/
theorem advance_begins {answer : Answer} (hwaits : frame.waits = some .subscriptionsMutex)
    (hanswer : frame.AnsweredBy answers answer) :
    σ.Continues answers frame (σ.advance frame answer) := by
  have hin : frame.entered = true := decide_eq_true (.inr hwaits)
  rcases advance_proceeds (σ := σ) hin hanswer with hcontinues | hend
  · exact hcontinues
  · have hheld := outcome_held hin answers σ.tables σ.serials
    rw [hend] at hheld
    exact absurd ((frame.waits_above _ hwaits).2 _ hheld) (Nat.lt_irrefl _)

/-- The thread is in a section that was begun over these callers and has this outcome. -/
def InSection (σ : LockState) (answers : Answers) (thread : Nat) (callers : List Frame)
    (outcome : Tables × Frame) : Prop :=
  ∃ callees frame, σ.stackOf thread = callees ++ frame :: callers ∧
    .subscriptionsMutex ∈ frame.held ∧ frame.outcome answers σ.tables σ.serials = outcome

end LockState

/-- What this thread is answered. -/
def LockAction.AnsweredBy (thread : Nat) (answers : Answers) (σ : LockState) : LockAction → Prop
  | .spawn _ => True
  | .run other answer => other = thread →
      ∀ frame ∈ (σ.stackOf thread).head?, frame.AnsweredBy answers answer

instance (thread : Nat) (answers : Answers) (σ : LockState) :
    (a : LockAction) → Decidable (a.AnsweredBy thread answers σ)
  | .spawn _ => .isTrue trivial
  | .run other _ => inferInstanceAs (Decidable (other = thread → _))

namespace LockState

variable {σ τ : LockState} {answers : Answers} {frame : Frame} {thread : Nat}
  {callers : List Frame} {outcome : Tables × Frame}

theorem Continues.inSection {next : LockState × List Frame}
    (h : σ.Continues answers frame next) (hstack : τ.stackOf thread = next.2 ++ callers)
    (htables : τ.tables = next.1.tables) (hserials : τ.serials = next.1.serials) :
    τ.InSection answers thread callers (frame.outcome answers σ.tables σ.serials) := by
  obtain ⟨callees, frame', hframes, hheld, houtcome⟩ := h
  refine ⟨callees, frame', ?_, hheld, ?_⟩
  · rw [hstack, hframes, List.append_assoc, List.singleton_append]
  · rw [htables, hserials, houtcome]

/-- **One step.** A section keeps its outcome whichever thread runs; it ends with that. -/
theorem InSection.step {a : LockAction} (h : σ.InSection answers thread callers outcome)
    (hrun : lockSystem.Run LockAction.FreshIds σ) (hfresh : a.FreshIds σ)
    (hanswer : a.AnsweredBy thread answers σ) (hs : σ.step a = some τ) :
    τ.InSection answers thread callers outcome ∨
      σ.tables = outcome.1 ∧ σ.stackOf thread = outcome.2 :: callers := by
  obtain ⟨callees, frame, hstack, hheld, houtcome⟩ := h
  cases a with
  | spawn entry =>
      obtain rfl := Option.some.inj hs
      have hne : thread ≠ σ.threads.length := by
        rintro rfl
        rw [stackOf, List.getD_eq_getElem?_getD, List.getElem?_eq_none (Nat.le_refl _)] at hstack
        simp at hstack
      refine .inl ⟨callees, frame, ?_, hheld, houtcome⟩
      rw [stackOf_spawn, Function.update_of_ne hne, hstack]
  | run other answer =>
      obtain ⟨top, below, hruns⟩ := (KeepsOrder.of_run hrun).runs hfresh hs
      by_cases hown : other = thread ∧ callees = []
      · -- the section's own frame goes on
        obtain ⟨rfl, rfl⟩ := hown
        obtain ⟨rfl, rfl⟩ := List.cons.inj (hruns.stack.symm.trans hstack)
        have hin : top.entered = true := decide_eq_true (.inl hheld)
        have htop : top.AnsweredBy answers answer := by
          apply hanswer rfl
          rw [hruns.stack]
          rfl
        rcases advance_proceeds (σ := σ) hin htop with hcontinues | hend
        · left
          rw [← houtcome]
          refine hcontinues.inSection ?_ hruns.tables hruns.serials
          rw [hruns.stackOf, Function.update_self]
        · right
          rw [← houtcome, hend]
          exact ⟨rfl, hstack⟩
      · -- any other frame leaves the tables as they are
        left
        have hnot : .subscriptionsMutex ∉ top.held := by
          apply (mutual_exclusion hrun rfl).not_held hstack hheld hruns.stack
          exact fun heq hnil => hown ⟨heq, hnil⟩
        obtain ⟨htables, hserials⟩ := hruns.advances.guarded.resolve_left hnot
        have hsame : frame.outcome answers τ.tables τ.serials = outcome := by
          rw [hruns.tables, hruns.serials, htables, hserials, houtcome]
        by_cases heq : other = thread
        · subst heq
          cases callees with
          | nil => exact absurd ⟨rfl, rfl⟩ hown
          | cons callee callees =>
              obtain ⟨rfl, rfl⟩ := List.cons.inj (hruns.stack.symm.trans hstack)
              refine ⟨(σ.advance top answer).2 ++ callees, frame, ?_, hheld, hsame⟩
              rw [hruns.stackOf, Function.update_self, List.append_assoc]
              rfl
        · refine ⟨callees, frame, ?_, hheld, hsame⟩
          rw [hruns.stackOf, Function.update_of_ne (Ne.symm heq), hstack]

/-- The whole way to the end of the section. -/
theorem InSection.exec {actions : List LockAction}
    (h : σ.InSection answers thread callers outcome)
    (hrun : lockSystem.Run LockAction.FreshIds σ)
    (hguarded : lockSystem.Guarded
      (fun σ a => a.FreshIds σ ∧ a.AnsweredBy thread answers σ) σ actions)
    (hexec : lockSystem.exec σ actions = some τ) :
    τ.InSection answers thread callers outcome ∨
      ∃ before ω, before <+: actions ∧ lockSystem.exec σ before = some ω ∧
        ω.tables = outcome.1 ∧ ω.stackOf thread = outcome.2 :: callers := by
  induction actions generalizing σ with
  | nil =>
      obtain rfl : σ = τ := by simpa [TSys.exec] using hexec
      exact .inl h
  | cons a actions ih =>
      obtain ⟨next, hs, hrest⟩ : ∃ next, lockSystem.step σ a = some next ∧
          lockSystem.exec next actions = some τ := by
        simpa [TSys.exec, Option.bind_eq_some_iff] using hexec
      obtain ⟨⟨hfresh, hanswer⟩, hguarded⟩ := hguarded
      rcases h.step hrun hfresh hanswer hs with hin | ⟨htables, hstack⟩
      · rcases ih hin (.step hrun hfresh hs) (hguarded next hs) hrest with
          hstill | ⟨before, ω, hbefore, hexec, hend⟩
        · exact .inl hstill
        · refine .inr ⟨a :: before, ω, List.cons_prefix_cons.mpr ⟨rfl, hbefore⟩, ?_, hend⟩
          rw [TSys.exec, hs, Option.bind_some, hexec]
      · exact .inr ⟨[], σ, List.nil_prefix, rfl, htables, hstack⟩

end LockState

/-- **Atomicity.** A thread waits for the tables' mutex and takes it. However the threads go on
from there, it is still in its section, or it came to the end of it, and there the tables
were what the function makes of those at its beginning. -/
theorem sections_atomic {σ τ : LockState} {answers : Answers} {thread : Nat} {frame : Frame}
    {callers : List Frame} {answer : Answer} {actions : List LockAction}
    (h : lockSystem.Run LockAction.FreshIds σ) (hstack : σ.stackOf thread = frame :: callers)
    (hwaits : frame.waits = some .subscriptionsMutex)
    (hguarded : lockSystem.Guarded (fun σ a => a.FreshIds σ ∧ a.AnsweredBy thread answers σ) σ
      (.run thread answer :: actions))
    (hexec : lockSystem.exec σ (.run thread answer :: actions) = some τ) :
    τ.InSection answers thread callers (frame.outcome answers σ.tables σ.serials) ∨
      ∃ before ω, before <+: actions ∧
        lockSystem.exec σ (.run thread answer :: before) = some ω ∧
        ω.tables = (frame.outcome answers σ.tables σ.serials).1 ∧
        ω.stackOf thread = (frame.outcome answers σ.tables σ.serials).2 :: callers := by
  obtain ⟨next, hs, hrest⟩ : ∃ next, lockSystem.step σ (.run thread answer) = some next ∧
      lockSystem.exec next actions = some τ := by
    simpa [TSys.exec, Option.bind_eq_some_iff] using hexec
  obtain ⟨⟨hfresh, hanswer⟩, hguarded⟩ := hguarded
  obtain ⟨top, below, hruns⟩ := (LockState.KeepsOrder.of_run h).runs hfresh hs
  obtain ⟨rfl, rfl⟩ := List.cons.inj (hruns.stack.symm.trans hstack)
  have htop : top.AnsweredBy answers answer := by
    apply hanswer rfl
    rw [hruns.stack]
    rfl
  have hbegun : next.InSection answers thread below
      (top.outcome answers σ.tables σ.serials) := by
    refine (LockState.advance_begins hwaits htop).inSection ?_ hruns.tables hruns.serials
    rw [hruns.stackOf, Function.update_self]
  rcases hbegun.exec (.step h hfresh hs) (hguarded next hs) hrest with
    hstill | ⟨before, ω, hbefore, hexec, hend⟩
  · exact .inl hstill
  · refine .inr ⟨before, ω, hbefore, ?_, hend⟩
    rw [TSys.exec, hs, Option.bind_some, hexec]

/-- The poll thread waits for the mutex, to advertise a topic. -/
def advertiseBegins : List LockAction :=
  .spawn (.updateAdvertisedTopics [("/map", "T")]) :: LockAction.runs 0 4

/-- It takes the mutex, and a classifier runs before it has advertised the topic. -/
def advertiseInterrupted : List LockAction :=
  LockAction.runs 0 3 ++ .spawn (.classifyRemoteAccessQos 1) :: LockAction.runs 1 2 ++
    LockAction.runs 0 3 ++ .run 0 { created := some 1 } :: LockAction.runs 1 1 ++
    LockAction.runs 0 1

def mapAnswers : Answers := ⟨fun _ => none, fun _ => some 1⟩

theorem sections_atomic_advertise : ∃ σ τ, lockSystem.exec .initial advertiseBegins = some σ ∧
    lockSystem.exec σ (.run 0 {} :: advertiseInterrupted) = some τ ∧
    τ.tables.channels.keys = [1] ∧
    (τ.InSection mapAnswers 0 [] (Frame.outcome mapAnswers σ.tables σ.serials
        (.updateAdvertisedTopics [("/map", "T")] .lockingForAdvertising)) ∨
      ∃ before ω, before <+: advertiseInterrupted ∧
        lockSystem.exec σ (.run 0 {} :: before) = some ω ∧
        ω.tables = (σ.tables.advertise mapAnswers [("/map", "T")]).1 ∧
        ω.stackOf 0 = [.updateAdvertisedTopics [("/map", "T")] .unlocking]) := by
  have hbegins : lockSystem.Guarded LockAction.FreshIds .initial advertiseBegins := by decide
  obtain ⟨σ, hexec, hstack, hguarded, τ, hrest, hkeys⟩ :
      ∃ σ, lockSystem.exec .initial advertiseBegins = some σ ∧
        σ.stackOf 0 = [.updateAdvertisedTopics [("/map", "T")] .lockingForAdvertising] ∧
        lockSystem.Guarded (fun σ a => a.FreshIds σ ∧ a.AnsweredBy 0 mapAnswers σ) σ
          (.run 0 {} :: advertiseInterrupted) ∧
        ∃ τ, lockSystem.exec σ (.run 0 {} :: advertiseInterrupted) = some τ ∧
          τ.tables.channels.keys = [1] :=
    ⟨_, rfl, rfl, by decide, _, rfl, rfl⟩
  exact ⟨σ, τ, hexec, hrest, hkeys,
    sections_atomic (TSys.Run.exec (.init rfl) hbegins hexec) hstack rfl hguarded hrest⟩

end FoxgloveBridge
