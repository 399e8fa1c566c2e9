import FoxgloveBridge.Bridge.Reconcile
import FoxgloveBridge.Lib.TSys

/-!
# Topic updates over runs

`updateAdvertisedTopics` again, now step by step and over a whole run of the poll thread:
the removal loop visits the channels one by one and erases while it iterates, the channels
are closed one by one between the two locked sections, and the topics are advertised one
by one. The callbacks of the clients and of roscpp run whenever `_subscriptionsMutex` is
free. Each topic has its own outcome of the definition lookup and of the creation of its
channel.

Run to its end, each loop computes what the pure function for its locked section says
(`removal_refines`, `advertising_refines`). After each call the channels that are open are
those of the listed topics, one each, less the topics whose creation failed; and a channel
that is not open any more has been closed, once, while the mutex was free (`reconciled`).
-/

namespace FoxgloveBridge

/-- Where `updateAdvertisedTopics` is. -/
inductive UpdatePhase
  | idle
  | locking (latestTopics : List TopicAndDatatype)
  /-- The removal loop, with the channels it has still to visit. -/
  | removing (latestTopics : List TopicAndDatatype) (rest channelsToClose : List ChannelId)
      (subscriptionsToRelease : List ChannelSubscription)
  | closing (latestTopics : List TopicAndDatatype) (channelsToClose : List ChannelId)
      (subscriptionsToRelease : List ChannelSubscription)
  | relocking (latestTopics : List TopicAndDatatype)
  /-- The advertise loop, with the topics it has still to visit. -/
  | advertising (latestTopics rest : List TopicAndDatatype)
  deriving DecidableEq

namespace UpdatePhase

/-- The poll thread holds `_subscriptionsMutex`. -/
def holdsMutex : UpdatePhase → Bool
  | .removing .. | .advertising .. => true
  | _ => false

/-- The channels that have left the table and have still to be closed. -/
def channelsToClose : UpdatePhase → List ChannelId
  | .removing _ _ channels _ | .closing _ channels _ => channels
  | _ => []

end UpdatePhase

/-- What one call was given and what it did. -/
structure UpdateCall where
  topics : List TopicAndDatatype
  /-- The channels open when it began to remove. -/
  before : List ChannelId
  created : List (ChannelId × TopicAndDatatype)
  /-- The topics whose channel could not be created. -/
  failed : List TopicAndDatatype
  deriving DecidableEq

structure TopicsState where
  tables : Tables
  phase : UpdatePhase
  /-- The call in progress, or the last one. -/
  call : UpdateCall
  /-- The channels ever created, each with the topic it was created for. -/
  created : List (ChannelId × TopicAndDatatype)
  /-- The channels `close` was called on, in this order. -/
  closed : List ChannelId
  deriving DecidableEq

/-- One step of the poll thread, or one callback. -/
inductive TopicsAction (whitelist : Whitelist)
  | call (topics : List TopicAndDatatype) (latest : LatestTopics whitelist topics)
  | lockForRemoval
  | visit
  | unlockAfterRemoval
  | close
  | releaseSubscriptions
  | lockForAdvertising
  /-- The definition found for the next topic, and the id of the channel created for it. -/
  | advertise (definition : Option (List UInt8)) (created : Option ChannelId)
  | unlockAfterAdvertising
  | onSubscribe (channelId : ChannelId) (clientId : ClientId) (isGateway : Bool)
      (sinkId : Option SinkId) (serial : Nat)
  | onUnsubscribe (channelId : ChannelId) (clientId : ClientId) (isGateway : Bool)
  | rosMessageHandler (channelId : ChannelId) (event : MessageEvent) (timestamp : Nat)

/-- The body of the removal loop for a stale channel: every table forgets it. -/
def Tables.removeChannel (T : Tables) (channelId : ChannelId) : Tables where
  channels := T.channels.erase channelId
  subscriptions := T.subscriptions.erase channelId
  latchedChannels := T.latchedChannels.erase channelId

/-- The body of the advertise loop, with the topic that the SDK is asked to create a channel for. -/
def Tables.advertiseTopic (T : Tables) (topic : TopicAndDatatype)
    (definition : Option (List UInt8)) (created : Option ChannelId) :
    Tables × Option TopicAndDatatype :=
  if T.advertises topic then (T, none)
  else
    match created with
    | none => (T, some topic)
    | some channelId =>
        let answers : Answers := ⟨fun _ => definition, fun _ => created⟩
        (T.insertChannel channelId (answers.channel topic), some topic)

namespace TopicsState

variable {whitelist : Whitelist} (σ : TopicsState)

def initial : TopicsState where
  tables := .empty
  phase := .idle
  call := ⟨[], [], [], []⟩
  created := []
  closed := []

/-- The removal loop visits one channel. -/
def visit (latestTopics : List TopicAndDatatype) (channelId : ChannelId)
    (rest channelsToClose : List ChannelId) (subscriptionsToRelease : List ChannelSubscription) :
    TopicsState :=
  if σ.tables.removes latestTopics channelId then
    { σ with
      tables := σ.tables.removeChannel channelId
      phase := .removing latestTopics rest (channelsToClose ++ [channelId])
        (subscriptionsToRelease ++ (σ.tables.subscriptions.lookup channelId).toList) }
  else
    { σ with phase := .removing latestTopics rest channelsToClose subscriptionsToRelease }

/-- The SDK answers a request for a channel: it creates one, or it does not. -/
def answered (request : Option TopicAndDatatype) (created : Option ChannelId) : TopicsState :=
  match request, created with
  | none, _ => σ
  | some topic, none => { σ with call := { σ.call with failed := σ.call.failed ++ [topic] } }
  | some topic, some channelId =>
      { σ with
        call := { σ.call with created := σ.call.created ++ [(channelId, topic)] }
        created := σ.created ++ [(channelId, topic)] }

/-- A callback needs the mutex. -/
def callback (tables : Tables) : Option TopicsState :=
  if σ.phase.holdsMutex then none else some { σ with tables := tables }

def step : TopicsAction whitelist → Option TopicsState
  | .call topics latest =>
      if σ.phase = .idle then
        some { σ with
          phase := .locking latest.elems
          call := ⟨topics, σ.tables.channels.keys, [], []⟩ }
      else none
  | .lockForRemoval =>
      match σ.phase with
      | .locking latestTopics =>
          some { σ with phase := .removing latestTopics σ.tables.channels.keys [] [] }
      | _ => none
  | .visit =>
      match σ.phase with
      | .removing latestTopics (channelId :: rest) channelsToClose subscriptionsToRelease =>
          some (σ.visit latestTopics channelId rest channelsToClose subscriptionsToRelease)
      | _ => none
  | .unlockAfterRemoval =>
      match σ.phase with
      | .removing latestTopics [] channelsToClose subscriptionsToRelease =>
          some { σ with phase := .closing latestTopics channelsToClose subscriptionsToRelease }
      | _ => none
  | .close =>
      match σ.phase with
      | .closing latestTopics (channelId :: channelsToClose) subscriptionsToRelease =>
          some { σ with
            phase := .closing latestTopics channelsToClose subscriptionsToRelease
            closed := σ.closed ++ [channelId] }
      | _ => none
  | .releaseSubscriptions =>
      match σ.phase with
      | .closing latestTopics [] _ => some { σ with phase := .relocking latestTopics }
      | _ => none
  | .lockForAdvertising =>
      match σ.phase with
      | .relocking latestTopics =>
          some { σ with phase := .advertising latestTopics latestTopics }
      | _ => none
  | .advertise definition created =>
      match σ.phase with
      | .advertising latestTopics (topic :: rest) =>
          let visited := σ.tables.advertiseTopic topic definition created
          some ({ σ with
            tables := visited.1, phase := .advertising latestTopics rest }.answered visited.2
              created)
      | _ => none
  | .unlockAfterAdvertising =>
      match σ.phase with
      | .advertising _ [] => some { σ with phase := .idle }
      | _ => none
  | .onSubscribe channelId clientId isGateway sinkId serial =>
      σ.callback (σ.tables.onSubscribe channelId clientId isGateway sinkId serial).1
  | .onUnsubscribe channelId clientId isGateway =>
      σ.callback (σ.tables.onUnsubscribe channelId clientId isGateway).1
  | .rosMessageHandler channelId event timestamp =>
      σ.callback (σ.tables.rosMessageHandler channelId event timestamp).1

end TopicsState

def topicsSystem (whitelist : Whitelist) : TSys TopicsState (TopicsAction whitelist) where
  init σ := σ = .initial
  step := TopicsState.step

/-- What is assumed of the outside: the master reports a datatype with each topic, and the
SDK gives each channel an id of its own. -/
def TopicsAction.Assumed {whitelist : Whitelist} (σ : TopicsState) : TopicsAction whitelist → Prop
  | .call topics _ => ∀ topic ∈ topics, topic.2 ≠ ""
  | .advertise _ (some channelId) => channelId ∉ σ.created.map Prod.fst
  | _ => True

variable {whitelist : Whitelist}

instance (σ : TopicsState) : (a : TopicsAction whitelist) → Decidable (a.Assumed σ)
  | .call topics _ => inferInstanceAs (Decidable (∀ topic ∈ topics, topic.2 ≠ ""))
  | .advertise _ (some channelId) =>
      inferInstanceAs (Decidable (channelId ∉ σ.created.map Prod.fst))
  | .advertise _ none | .lockForRemoval | .visit | .unlockAfterRemoval | .close
  | .releaseSubscriptions | .lockForAdvertising | .unlockAfterAdvertising | .onSubscribe ..
  | .onUnsubscribe .. | .rosMessageHandler .. => .isTrue trivial

/-! ## The steps as rules -/

/-- One rule for each way a step can go. A callback is known by what it leaves alone. -/
inductive TopicsState.Step (σ : TopicsState) : TopicsAction whitelist → TopicsState → Prop
  | call {topics : List TopicAndDatatype} (latest : LatestTopics whitelist topics) :
      σ.phase = .idle →
      Step σ (.call topics latest)
        { σ with
          phase := .locking latest.elems
          call := ⟨topics, σ.tables.channels.keys, [], []⟩ }
  | lockForRemoval {latestTopics : List TopicAndDatatype} : σ.phase = .locking latestTopics →
      Step σ .lockForRemoval
        { σ with phase := .removing latestTopics σ.tables.channels.keys [] [] }
  | remove {latestTopics : List TopicAndDatatype} {channelId : ChannelId}
      {rest channelsToClose : List ChannelId} {subs : List ChannelSubscription} :
      σ.phase = .removing latestTopics (channelId :: rest) channelsToClose subs →
      σ.tables.removes latestTopics channelId = true →
      Step σ .visit
        { σ with
          tables := σ.tables.removeChannel channelId
          phase := .removing latestTopics rest (channelsToClose ++ [channelId])
            (subs ++ (σ.tables.subscriptions.lookup channelId).toList) }
  | keep {latestTopics : List TopicAndDatatype} {channelId : ChannelId}
      {rest channelsToClose : List ChannelId} {subs : List ChannelSubscription} :
      σ.phase = .removing latestTopics (channelId :: rest) channelsToClose subs →
      σ.tables.removes latestTopics channelId = false →
      Step σ .visit { σ with phase := .removing latestTopics rest channelsToClose subs }
  | unlockAfterRemoval {latestTopics : List TopicAndDatatype} {channelsToClose : List ChannelId}
      {subs : List ChannelSubscription} :
      σ.phase = .removing latestTopics [] channelsToClose subs →
      Step σ .unlockAfterRemoval { σ with phase := .closing latestTopics channelsToClose subs }
  | close {latestTopics : List TopicAndDatatype} {channelId : ChannelId}
      {channelsToClose : List ChannelId} {subs : List ChannelSubscription} :
      σ.phase = .closing latestTopics (channelId :: channelsToClose) subs →
      Step σ .close
        { σ with
          phase := .closing latestTopics channelsToClose subs
          closed := σ.closed ++ [channelId] }
  | release {latestTopics : List TopicAndDatatype} {subs : List ChannelSubscription} :
      σ.phase = .closing latestTopics [] subs →
      Step σ .releaseSubscriptions { σ with phase := .relocking latestTopics }
  | lockForAdvertising {latestTopics : List TopicAndDatatype} :
      σ.phase = .relocking latestTopics →
      Step σ .lockForAdvertising { σ with phase := .advertising latestTopics latestTopics }
  | skip {latestTopics rest : List TopicAndDatatype} {topic : TopicAndDatatype}
      {definition : Option (List UInt8)} {created : Option ChannelId} :
      σ.phase = .advertising latestTopics (topic :: rest) → σ.tables.advertises topic = true →
      Step σ (.advertise definition created) { σ with phase := .advertising latestTopics rest }
  | fail {latestTopics rest : List TopicAndDatatype} {topic : TopicAndDatatype}
      {definition : Option (List UInt8)} :
      σ.phase = .advertising latestTopics (topic :: rest) → σ.tables.advertises topic = false →
      Step σ (.advertise definition none)
        { σ with
          phase := .advertising latestTopics rest
          call := { σ.call with failed := σ.call.failed ++ [topic] } }
  | create {latestTopics rest : List TopicAndDatatype} {topic : TopicAndDatatype}
      {definition : Option (List UInt8)} {channelId : ChannelId} (answers : Answers) :
      σ.phase = .advertising latestTopics (topic :: rest) → σ.tables.advertises topic = false →
      Step σ (.advertise definition (some channelId))
        { σ with
          tables := σ.tables.insertChannel channelId (answers.channel topic)
          phase := .advertising latestTopics rest
          call := { σ.call with created := σ.call.created ++ [(channelId, topic)] }
          created := σ.created ++ [(channelId, topic)] }
  | unlockAfterAdvertising {latestTopics : List TopicAndDatatype} :
      σ.phase = .advertising latestTopics [] →
      Step σ .unlockAfterAdvertising { σ with phase := .idle }
  | callback {a : TopicsAction whitelist} {tables : Tables} :
      tables.channels = σ.tables.channels → Step σ a { σ with tables := tables }

theorem TopicsState.step_rule {σ σ' : TopicsState} {a : TopicsAction whitelist}
    (hs : σ.step a = some σ') : σ.Step a σ' := by
  have hcallback : ∀ tables : Tables, tables.channels = σ.tables.channels →
      σ.callback tables = some σ' → σ.Step a σ' := by
    intro tables hchannels h
    unfold callback at h
    split at h
    · cases h
    · obtain rfl := Option.some.inj h
      exact .callback hchannels
  cases a with
  | call topics latest =>
      simp only [step, Option.ite_none_right_eq_some, Option.some.injEq] at hs
      obtain ⟨hphase, rfl⟩ := hs
      exact .call latest hphase
  | visit =>
      simp only [step] at hs
      split at hs
      · rename_i hphase
        obtain rfl := Option.some.inj hs
        unfold TopicsState.visit
        split
        · exact .remove hphase ‹_›
        · exact .keep hphase (Bool.eq_false_iff.mpr ‹_›)
      · cases hs
  | advertise definition created =>
      simp only [step] at hs
      split at hs
      · rename_i hphase
        obtain rfl := Option.some.inj hs
        unfold Tables.advertiseTopic
        split
        · exact .skip hphase ‹_›
        · cases created with
          | none => exact .fail hphase (Bool.eq_false_iff.mpr ‹_›)
          | some channelId => exact .create _ hphase (Bool.eq_false_iff.mpr ‹_›)
      · cases hs
  | onSubscribe => exact hcallback _ (onSubscribe_channels ..) hs
  | onUnsubscribe => exact hcallback _ (onUnsubscribe_channels ..) hs
  | rosMessageHandler => exact hcallback _ (rosMessageHandler_channels ..) hs
  | _ =>
      simp only [step] at hs
      split at hs
      · rename_i hphase
        obtain rfl := Option.some.inj hs
        constructor
        exact hphase
      · cases hs

/-! ## The locked sections as wholes -/

/-- Removing channels one after another. -/
theorem Tables.foldl_removeChannel (channelIds : List ChannelId) (T : Tables) :
    channelIds.foldl Tables.removeChannel T =
      { channels := UnorderedMap.filter (fun channelId _ => !channelIds.contains channelId)
          T.channels
        subscriptions := UnorderedMap.filter (fun channelId _ => !channelIds.contains channelId)
          T.subscriptions
        latchedChannels := T.latchedChannels.filter fun channelId =>
          !channelIds.contains channelId } := by
  induction channelIds generalizing T with
  | nil =>
      rw [List.foldl_nil, UnorderedMap.filter_eq_self, UnorderedMap.filter_eq_self,
        Finset.filter_true_of_mem] <;> simp
  | cons channelId rest ih =>
      have hkeep : ∀ other : ChannelId, (!rest.contains other && decide (other ≠ channelId)) =
          !(channelId :: rest).contains other := by
        intro other
        by_cases heq : other = channelId <;> simp [heq]
      rw [List.foldl_cons, ih]
      simp only [Tables.removeChannel, UnorderedMap.filter_erase, hkeep]
      congr 1
      ext other
      simp only [Finset.mem_filter, Finset.mem_erase, ← hkeep, Bool.and_eq_true, decide_eq_true_eq]
      tauto

theorem removes_of_mem_entries {T : Tables} {latestTopics : List TopicAndDatatype}
    {e : (_ : ChannelId) × RawChannel} (he : e ∈ T.channels.entries) :
    T.removes latestTopics e.1 = e.2.isStale latestTopics := by
  rw [Tables.removes, UnorderedMap.lookup_eq_some_iff.mpr he, Option.any_some]

/-- What the removal loop takes out is what `channelsToClose` lists. -/
theorem Tables.foldl_removeChannel_channelsToClose (T : Tables)
    (latestTopics : List TopicAndDatatype) :
    (T.channelsToClose latestTopics).foldl Tables.removeChannel T = T.removeStale latestTopics := by
  have hcontains : ∀ channelId, (T.channelsToClose latestTopics).contains channelId =
      T.removes latestTopics channelId := by
    intro channelId
    rw [Bool.eq_iff_iff, List.contains_iff_mem, mem_channelsToClose]
  have hchannels : UnorderedMap.filter (fun channelId _ => !T.removes latestTopics channelId)
      T.channels = UnorderedMap.filter (fun _ channel => !channel.isStale latestTopics)
        T.channels := by
    refine AList.ext (List.filter_congr fun e he => ?_)
    show (!T.removes latestTopics e.1) = !e.2.isStale latestTopics
    rw [removes_of_mem_entries he]
  simp only [Tables.foldl_removeChannel, hcontains, hchannels, Tables.removeStale]

theorem Tables.channelsToClose_eq_filter_keys (T : Tables) (latestTopics : List TopicAndDatatype) :
    T.channels.keys.filter (T.removes latestTopics) = T.channelsToClose latestTopics := by
  show (T.channels.entries.map Sigma.fst).filter _ = (T.channels.entries.filter _).map Sigma.fst
  rw [List.filter_map]
  refine congrArg (List.map Sigma.fst) (List.filter_congr fun e he => ?_)
  exact removes_of_mem_entries he

theorem removes_removeChannel {T : Tables} {latestTopics : List TopicAndDatatype}
    {channelId other : ChannelId} (hne : other ≠ channelId) :
    (T.removeChannel channelId).removes latestTopics other = T.removes latestTopics other := by
  rw [Tables.removes, Tables.removes, Tables.removeChannel, AList.lookup_erase_ne hne]

/-- What is removed of the other channels stays the same. -/
theorem filter_removes_removeChannel {T : Tables} {latestTopics : List TopicAndDatatype}
    {channelId : ChannelId} {rest : List ChannelId} (hnot : channelId ∉ rest) :
    rest.filter ((T.removeChannel channelId).removes latestTopics) =
      rest.filter (T.removes latestTopics) := by
  apply List.filter_congr
  intro other hother
  exact removes_removeChannel (ne_of_mem_of_not_mem hother hnot)

theorem filterMap_lookup_removeChannel {T : Tables} {channelId : ChannelId}
    {rest : List ChannelId} (hnot : channelId ∉ rest) :
    rest.filterMap (T.removeChannel channelId).subscriptions.lookup =
      rest.filterMap T.subscriptions.lookup := by
  apply List.filterMap_congr
  intro other hother
  exact AList.lookup_erase_ne (ne_of_mem_of_not_mem hother hnot)

/-- The removal loop, from any point of it to its end. -/
theorem exec_visits {latestTopics : List TopicAndDatatype} {rest channels : List ChannelId}
    {subs : List ChannelSubscription} (hnodup : rest.Nodup) {σ : TopicsState}
    (hphase : σ.phase = .removing latestTopics rest channels subs) :
    (topicsSystem whitelist).exec σ (List.replicate rest.length .visit) = some
      { σ with
        tables := (rest.filter (σ.tables.removes latestTopics)).foldl Tables.removeChannel σ.tables
        phase := .removing latestTopics []
          (channels ++ rest.filter (σ.tables.removes latestTopics))
          (subs ++ (rest.filter (σ.tables.removes latestTopics)).filterMap
            σ.tables.subscriptions.lookup) } := by
  induction rest generalizing σ channels subs with
  | nil =>
      obtain ⟨tables, phase, call, created, closed⟩ := σ
      obtain rfl := hphase
      simp [TSys.exec]
  | cons channelId rest ih =>
      obtain ⟨hnot, hrest⟩ := List.nodup_cons.mp hnodup
      have hstep : (topicsSystem whitelist).step σ .visit =
          some (σ.visit latestTopics channelId rest channels subs) := by
        show σ.step (.visit : TopicsAction whitelist) = _
        simp only [TopicsState.step, hphase]
      rw [List.length_cons, List.replicate_succ, TSys.exec, hstep, Option.bind_some]
      cases hremoves : σ.tables.removes latestTopics channelId with
      | false =>
          rw [TopicsState.visit, hremoves, if_neg Bool.false_ne_true, ih hrest rfl,
            List.filter_cons_of_neg (by simp [hremoves])]
      | true =>
          rw [TopicsState.visit, hremoves, if_pos rfl, ih hrest rfl,
            List.filter_cons_of_pos hremoves]
          have hlookup := filterMap_lookup_removeChannel (T := σ.tables)
            (fun hmem => hnot (List.mem_filter.mp hmem).1 :
              channelId ∉ rest.filter (σ.tables.removes latestTopics))
          simp only [filter_removes_removeChannel hnot, hlookup, List.foldl_cons,
            List.append_assoc, List.singleton_append]
          cases hsub : σ.tables.subscriptions.lookup channelId with
          | none => simp [hsub]
          | some sub => simp [hsub]

/-- **The removal loop** computes the removal as one function. -/
theorem removal_refines {latestTopics : List TopicAndDatatype} {σ : TopicsState}
    (hphase : σ.phase = .removing latestTopics σ.tables.channels.keys [] []) :
    (topicsSystem whitelist).exec σ (List.replicate σ.tables.channels.keys.length .visit) = some
      { σ with
        tables := σ.tables.removeStale latestTopics
        phase := .removing latestTopics [] (σ.tables.channelsToClose latestTopics)
          (σ.tables.subscriptionsToRelease latestTopics) } := by
  rw [exec_visits σ.tables.channels.keys_nodup hphase, Tables.channelsToClose_eq_filter_keys,
    Tables.foldl_removeChannel_channelsToClose]
  rfl

/-- The removal loop is about to visit two channels with a subscriber each, of which one is to
go. -/
def twoChannels : TopicsState :=
  let T := (Tables.empty.insertChannel 1 ⟨"/a", "ros1", some ⟨"T", "ros1msg", [1]⟩⟩).insertChannel 2
    ⟨"/b", "ros1", none⟩
  let T := ((T.onSubscribe 1 7 false none 0).1.onSubscribe 2 7 false none 1).1
  { TopicsState.initial with
    tables := T
    phase := .removing [("/a", "T")] T.channels.keys [] [] }

theorem removal_refines_two : ∃ τ,
    (topicsSystem [fun _ => true]).exec twoChannels [.visit, .visit] = some τ ∧
      τ.tables = twoChannels.tables.removeStale [("/a", "T")] ∧
      τ.tables.channels.keys = [1] ∧ τ.tables.subscriptions.keys = [1] :=
  ⟨_, removal_refines (show twoChannels.phase =
    .removing [("/a", "T")] twoChannels.tables.channels.keys [] [] from rfl), rfl, rfl, rfl⟩

/-- **The advertise loop** computes the advertising as one function. -/
theorem advertising_refines (answers : Answers) {latestTopics rest : List TopicAndDatatype}
    {σ : TopicsState} (hphase : σ.phase = .advertising latestTopics rest) :
    ∃ τ, (topicsSystem whitelist).exec σ (rest.map fun topic =>
        .advertise (answers.getMessageDescription topic.2) (answers.create topic)) = some τ ∧
      τ.phase = .advertising latestTopics [] ∧
      τ.tables = (Tables.advertise answers rest σ.tables).1 ∧
      τ.created.map Prod.fst =
        σ.created.map Prod.fst ++ (Tables.advertise answers rest σ.tables).2.map Prod.fst := by
  induction rest generalizing σ with
  | nil => exact ⟨σ, rfl, hphase, rfl, (List.append_nil _).symm⟩
  | cons topic rest ih =>
      have hstep : (topicsSystem whitelist).step σ
            (.advertise (answers.getMessageDescription topic.2) (answers.create topic)) =
          some ({ σ with
            tables := (σ.tables.advertiseTopic topic (answers.getMessageDescription topic.2)
              (answers.create topic)).1
            phase := .advertising latestTopics rest }.answered
              (σ.tables.advertiseTopic topic (answers.getMessageDescription topic.2)
                (answers.create topic)).2 (answers.create topic)) := by
        show σ.step (.advertise _ _ : TopicsAction whitelist) = _
        simp only [TopicsState.step, hphase]
      rw [List.map_cons, TSys.exec, hstep, Option.bind_some, Tables.advertise]
      cases hadvertises : σ.tables.advertises topic with
      | true =>
          simp only [Tables.advertiseTopic, hadvertises, if_true]
          exact ih rfl
      | false =>
          simp only [Tables.advertiseTopic, hadvertises, Bool.false_eq_true, if_false]
          cases hcreate : answers.create topic with
          | none => exact ih rfl
          | some channelId =>
              obtain ⟨τ, hexec, hdone, htables, hcreated⟩ := ih (σ :=
                { σ with
                  tables := σ.tables.insertChannel channelId (answers.channel topic)
                  phase := .advertising latestTopics rest
                  call := { σ.call with created := σ.call.created ++ [(channelId, topic)] }
                  created := σ.created ++ [(channelId, topic)] }) rfl
              refine ⟨τ, hexec, hdone, htables, ?_⟩
              rw [hcreated, List.map_append, List.append_assoc]
              rfl

/-- The definition of the second topic is unknown. -/
def twoAnswers : Answers where
  getMessageDescription datatype := if datatype = "T" then some [1] else none
  create topic := if topic.1 = "/a" then some 1 else some 2

/-- The advertise loop is about to visit both. -/
def twoTopics : TopicsState :=
  { TopicsState.initial with phase := .advertising [("/a", "T")] [("/a", "T"), ("/b", "U")] }

theorem advertising_refines_two : ∃ τ,
    (topicsSystem [fun _ => true]).exec twoTopics
      [.advertise (some [1]) (some 1), .advertise none (some 2)] = some τ ∧
    τ.phase = .advertising [("/a", "T")] [] ∧
    τ.tables = (Tables.advertise twoAnswers [("/a", "T"), ("/b", "U")] .empty).1 := by
  have hphase : twoTopics.phase = .advertising [("/a", "T")] [("/a", "T"), ("/b", "U")] := rfl
  obtain ⟨τ, hexec, hdone, htables, -⟩ := advertising_refines twoAnswers hphase
  exact ⟨τ, hexec, hdone, htables⟩

/-! ## Every channel has one place -/

/-- A channel that was created is open, about to be closed, or closed. -/
structure TopicsState.Conserved (σ : TopicsState) : Prop where
  places : (σ.tables.channels.keys ++ σ.phase.channelsToClose ++ σ.closed).Perm
    (σ.created.map Prod.fst)
  nodup : (σ.created.map Prod.fst).Nodup

namespace TopicsState.Conserved

variable {σ : TopicsState}

/-- The phase changes, and no channel changes its place. -/
theorem move (h : σ.Conserved) {tables : Tables} {phase : UpdatePhase} {call : UpdateCall}
    (hchannels : tables.channels = σ.tables.channels)
    (hphase : phase.channelsToClose = σ.phase.channelsToClose) :
    Conserved { σ with tables := tables, phase := phase, call := call } := by
  refine ⟨?_, h.nodup⟩
  show (tables.channels.keys ++ phase.channelsToClose ++ σ.closed).Perm _
  rw [hchannels, hphase]
  exact h.places

/-- A channel leaves the table for the list of those to close. -/
theorem remove (h : σ.Conserved) {latestTopics : List TopicAndDatatype} {channelId : ChannelId}
    {rest rest' channelsToClose : List ChannelId} {subs subs' : List ChannelSubscription}
    (hphase : σ.phase = .removing latestTopics rest channelsToClose subs)
    (hmem : channelId ∈ σ.tables.channels) :
    Conserved { σ with
      tables := σ.tables.removeChannel channelId
      phase := .removing latestTopics rest' (channelsToClose ++ [channelId]) subs' } := by
  refine ⟨?_, h.nodup⟩
  have hplaces := h.places
  rw [hphase] at hplaces
  show ((σ.tables.channels.erase channelId).keys ++ (channelsToClose ++ [channelId]) ++
    σ.closed).Perm _
  rw [AList.keys_erase]
  have hkeys : (channelId :: σ.tables.channels.keys.erase channelId).Perm σ.tables.channels.keys :=
    (List.perm_cons_erase hmem).symm
  have hleft : (σ.tables.channels.keys.erase channelId ++ (channelsToClose ++ [channelId])).Perm
      (σ.tables.channels.keys ++ channelsToClose) := by
    rw [← List.append_assoc]
    exact List.perm_append_comm.trans (hkeys.append_right channelsToClose)
  exact (hleft.append_right σ.closed).trans hplaces

theorem step {σ' : TopicsState} {a : TopicsAction whitelist} (h : σ.Conserved)
    (hs : σ.Step a σ') (hassumed : a.Assumed σ) : σ'.Conserved := by
  cases hs with
  | call latest hphase => exact h.move rfl (by rw [hphase]; rfl)
  | lockForRemoval hphase | lockForAdvertising hphase => exact h.move rfl (by rw [hphase]; rfl)
  | remove hphase hremoves =>
      obtain ⟨channel, hlookup, -⟩ := removes_iff.mp hremoves
      exact h.remove hphase (UnorderedMap.mem_iff_lookup.mpr ⟨channel, hlookup⟩)
  | keep hphase | unlockAfterRemoval hphase | release hphase | unlockAfterAdvertising hphase =>
      exact h.move rfl (by rw [hphase]; rfl)
  | skip hphase | fail hphase => exact h.move rfl (by rw [hphase]; rfl)
  | callback hchannels => exact h.move hchannels rfl
  | @close latestTopics channelId channelsToClose subs hphase =>
      refine ⟨?_, h.nodup⟩
      have hplaces := h.places
      rw [hphase] at hplaces
      show (σ.tables.channels.keys ++ channelsToClose ++ (σ.closed ++ [channelId])).Perm _
      have hclose : (σ.tables.channels.keys ++ channelsToClose ++ (σ.closed ++ [channelId])).Perm
          (σ.tables.channels.keys ++ channelId :: channelsToClose ++ σ.closed) := by
        rw [List.append_assoc, List.append_assoc, ← List.append_assoc channelsToClose]
        exact List.perm_append_comm.append_left _
      exact hclose.trans hplaces
  | @create latestTopics rest topic definition channelId answers hphase =>
      have hnew : channelId ∉ σ.created.map Prod.fst := hassumed
      have hclosed : channelId ∉ σ.tables.channels := by
        intro hmem
        refine hnew (h.places.subset ?_)
        exact List.mem_append_left _ (List.mem_append_left _ hmem)
      have hplaces := h.places
      rw [hphase] at hplaces
      refine ⟨?_, ?_⟩
      · show ((UnorderedMap.emplace channelId _ σ.tables.channels).keys ++ [] ++ σ.closed).Perm
          ((σ.created ++ [(channelId, topic)]).map Prod.fst)
        rw [UnorderedMap.emplace_of_notMem hclosed, AList.keys_insert,
          List.erase_of_not_mem hclosed, List.map_append]
        exact (hplaces.cons channelId).trans (List.perm_append_singleton channelId _).symm
      · show ((σ.created ++ [(channelId, topic)]).map Prod.fst).Nodup
        rw [List.map_append]
        exact List.nodup_append_comm.mp (List.nodup_cons.mpr ⟨hnew, h.nodup⟩)

/-- A channel is created for one topic. -/
theorem topic_unique (h : σ.Conserved) {channelId : ChannelId} {topic topic' : TopicAndDatatype}
    (htopic : (channelId, topic) ∈ σ.created) (htopic' : (channelId, topic') ∈ σ.created) :
    topic = topic' :=
  congrArg Prod.snd (List.inj_on_of_nodup_map h.nodup htopic htopic' rfl)

/-- The place of a channel, between two calls. -/
theorem closed_iff (h : σ.Conserved) (hidle : σ.phase = .idle) {channelId : ChannelId}
    (hcreated : channelId ∈ σ.created.map Prod.fst) :
    (channelId ∈ σ.tables.channels ∧ σ.closed.count channelId = 0) ∨
      (channelId ∉ σ.tables.channels ∧ σ.closed.count channelId = 1) := by
  have hcount := h.places.count_eq channelId
  rw [List.count_eq_one_of_mem h.nodup hcreated, hidle, List.count_append, List.count_append]
    at hcount
  have hclose : UpdatePhase.idle.channelsToClose.count channelId = 0 := rfl
  by_cases hmem : channelId ∈ σ.tables.channels
  · have hkeys : 0 < σ.tables.channels.keys.count channelId := List.count_pos_iff.mpr hmem
    exact .inl ⟨hmem, by omega⟩
  · have hkeys : σ.tables.channels.keys.count channelId = 0 := List.count_eq_zero.mpr hmem
    exact .inr ⟨hmem, by omega⟩

end TopicsState.Conserved

/-! ## Every topic has one channel -/

/-- The channel is what a topic is given: a schema it has names the datatype. -/
def RawChannel.For (channel : RawChannel) (topic : TopicAndDatatype) : Prop :=
  channel.topic = topic.1 ∧ ∀ schema, channel.schema = some schema → schema.name = topic.2

/-- A topic of the list that the whitelist lets through. -/
def UpdateCall.Wanted (whitelist : Whitelist) (call : UpdateCall) (topic : TopicAndDatatype) :
    Prop :=
  topic ∈ call.topics ∧ matchesRegex topic.1 whitelist = true

section Progress

variable (whitelist : Whitelist) (channels : UnorderedMap ChannelId RawChannel)
  (created : List (ChannelId × TopicAndDatatype)) (call : UpdateCall)

/-- A channel that was created for the topic is open. -/
def TopicOpen (topic : TopicAndDatatype) : Prop :=
  ∃ channelId ∈ channels, (channelId, topic) ∈ created

/-- The call has done nothing yet but remove channels. -/
structure RemovalPhase (latestTopics : List TopicAndDatatype) : Prop where
  nodup : latestTopics.Nodup
  mem_iff : ∀ topic, topic ∈ latestTopics ↔ call.Wanted whitelist topic
  created : call.created = []
  failed : call.failed = []

/-- The advertise loop has dealt with the topics in `done`. A channel without a schema was
created by it, for one of these. -/
structure AdvertisePhase (latestTopics done rest : List TopicAndDatatype) : Prop where
  nodup : latestTopics.Nodup
  mem_iff : ∀ topic, topic ∈ latestTopics ↔ call.Wanted whitelist topic
  split : latestTopics = done ++ rest
  wanted : ∀ channelId channel topic, channels.lookup channelId = some channel →
    (channelId, topic) ∈ created →
    topic ∈ latestTopics ∧ (topic ∈ rest → channel.schema.isSome = true)
  open_iff : ∀ topic ∈ done, TopicOpen channels created topic ↔ topic ∉ call.failed
  failed : ∀ topic ∈ call.failed, topic ∈ done

/-- What the call has achieved so far. -/
def UpdateProgress : UpdatePhase → Prop
  | .idle => (∀ channelId channel topic, channels.lookup channelId = some channel →
      (channelId, topic) ∈ created → call.Wanted whitelist topic) ∧
      ∀ topic, call.Wanted whitelist topic →
        (TopicOpen channels created topic ↔ topic ∉ call.failed)
  | .locking latestTopics => RemovalPhase whitelist call latestTopics
  | .removing latestTopics rest _ _ => RemovalPhase whitelist call latestTopics ∧
      ∀ channelId channel, channels.lookup channelId = some channel →
        channelId ∈ rest ∨ channel.isStale latestTopics = false
  | .closing latestTopics _ _ | .relocking latestTopics =>
      RemovalPhase whitelist call latestTopics ∧
        ∀ channelId channel, channels.lookup channelId = some channel →
          channel.isStale latestTopics = false
  | .advertising latestTopics rest =>
      ∃ done, AdvertisePhase whitelist channels created call latestTopics done rest

end Progress

section NewChannel

variable {channels : UnorderedMap ChannelId RawChannel} {channel : RawChannel}
  {created : List (ChannelId × TopicAndDatatype)} {channelId : ChannelId}
  {topic other : TopicAndDatatype}

theorem mem_created_append {id : ChannelId} : (id, other) ∈ created ++ [(channelId, topic)] ↔
    (id, other) ∈ created ∨ (id = channelId ∧ other = topic) := by
  rw [List.mem_append, List.mem_singleton, Prod.mk.injEq]

/-- Of the channels created before, none is open that was not. -/
theorem mem_of_mem_emplace (hnew : channelId ∉ created.map Prod.fst) {id : ChannelId}
    (hold : (id, other) ∈ created) (hin : id ∈ UnorderedMap.emplace channelId channel channels) :
    id ∈ channels := by
  apply (UnorderedMap.mem_emplace.mp hin).resolve_left
  rintro rfl
  exact hnew (List.mem_map_of_mem hold)

theorem topicOpen_new : TopicOpen (UnorderedMap.emplace channelId channel channels)
    (created ++ [(channelId, topic)]) topic :=
  ⟨channelId, UnorderedMap.mem_emplace.mpr (.inl rfl), mem_created_append.mpr (.inr ⟨rfl, rfl⟩)⟩

theorem topicOpen_of_ne (hnew : channelId ∉ created.map Prod.fst) (hne : other ≠ topic) :
    TopicOpen (UnorderedMap.emplace channelId channel channels)
      (created ++ [(channelId, topic)]) other ↔ TopicOpen channels created other := by
  constructor
  · rintro ⟨id, hin, hid⟩
    have hold := (mem_created_append.mp hid).resolve_right fun hlast => hne hlast.2
    exact ⟨id, mem_of_mem_emplace hnew hold hin, hold⟩
  · rintro ⟨id, hin, hid⟩
    exact ⟨id, UnorderedMap.mem_emplace.mpr (.inr hin), mem_created_append.mpr (.inl hid)⟩

end NewChannel

section AdvertisePhase

variable {channels channels' : UnorderedMap ChannelId RawChannel}
  {created created' : List (ChannelId × TopicAndDatatype)} {call call' : UpdateCall}
  {latestTopics done rest : List TopicAndDatatype} {topic : TopicAndDatatype}

/-- The next topic is not among those dealt with, nor does it come again. -/
theorem AdvertisePhase.next_new
    (h : AdvertisePhase whitelist channels created call latestTopics done (topic :: rest)) :
    topic ∉ done ∧ topic ∉ rest := by
  have hnodup := h.nodup
  rw [h.split] at hnodup
  obtain ⟨-, hrest, hdisjoint⟩ := List.nodup_append.mp hnodup
  exact ⟨fun hdone => hdisjoint topic hdone topic List.mem_cons_self rfl,
    (List.nodup_cons.mp hrest).1⟩

theorem AdvertisePhase.next_mem
    (h : AdvertisePhase whitelist channels created call latestTopics done (topic :: rest)) :
    topic ∈ latestTopics := by
  rw [h.split]
  exact List.mem_append_right _ List.mem_cons_self

/-- The loop deals with the next topic, and leaves the others as they are. -/
theorem AdvertisePhase.advance
    (h : AdvertisePhase whitelist channels created call latestTopics done (topic :: rest))
    (htopics : call'.topics = call.topics)
    (hentries : ∀ id channel other, channels'.lookup id = some channel → (id, other) ∈ created' →
      other = topic ∨ (channels.lookup id = some channel ∧ (id, other) ∈ created))
    (hothers : ∀ other, other ≠ topic →
      (TopicOpen channels' created' other ↔ TopicOpen channels created other) ∧
        (other ∈ call'.failed ↔ other ∈ call.failed))
    (hopen : TopicOpen channels' created' topic ↔ topic ∉ call'.failed) :
    AdvertisePhase whitelist channels' created' call' latestTopics (done ++ [topic]) rest := by
  obtain ⟨hdone, hrest⟩ := h.next_new
  refine ⟨h.nodup, ?_, by simp [h.split], ?_, ?_, ?_⟩
  · intro other
    rw [UpdateCall.Wanted, htopics]
    exact h.mem_iff other
  · intro id channel other hlookup hcreated
    rcases hentries id channel other hlookup hcreated with rfl | ⟨hlookup, hcreated⟩
    · exact ⟨h.next_mem, fun hagain => absurd hagain hrest⟩
    · obtain ⟨hmem, hschema⟩ := h.wanted id channel other hlookup hcreated
      exact ⟨hmem, fun hlater => hschema (List.mem_cons_of_mem _ hlater)⟩
  · intro other hother
    rcases List.mem_append.mp hother with hold | hlast
    · have hne : other ≠ topic := fun heq => hdone (heq ▸ hold)
      rw [(hothers other hne).1, (hothers other hne).2]
      exact h.open_iff other hold
    · obtain rfl := List.mem_singleton.mp hlast
      exact hopen
  · intro other hfailed
    by_cases heq : other = topic
    · exact List.mem_append_right _ (List.mem_singleton.mpr heq)
    · exact List.mem_append_left _ (h.failed other (((hothers other heq).2).mp hfailed))

end AdvertisePhase

/-- The tables, the channels created and the call agree. -/
structure TopicsState.Matched (whitelist : Whitelist) (σ : TopicsState) : Prop where
  channel : ∀ channelId channel, σ.tables.channels.lookup channelId = some channel →
    ∃ topic, (channelId, topic) ∈ σ.created ∧ topic.2 ≠ "" ∧ channel.For topic
  unique : ∀ topic channelId channelId', (channelId, topic) ∈ σ.created →
    (channelId', topic) ∈ σ.created → channelId ∈ σ.tables.channels →
    channelId' ∈ σ.tables.channels → channelId = channelId'
  datatype : ∀ topic ∈ σ.call.topics, topic.2 ≠ ""
  origin : ∀ channelId ∈ σ.tables.channels,
    channelId ∈ σ.call.before ∨ channelId ∈ σ.call.created.map Prod.fst
  opened : ∀ entry ∈ σ.call.created, entry ∈ σ.created ∧ entry.1 ∈ σ.tables.channels
  progress : UpdateProgress whitelist σ.tables.channels σ.created σ.call σ.phase

namespace TopicsState.Matched

variable {σ : TopicsState}

/-- The poll thread goes on with the same channels. -/
theorem move (h : σ.Matched whitelist) {phase : UpdatePhase}
    (hphase : UpdateProgress whitelist σ.tables.channels σ.created σ.call phase) :
    Matched whitelist { σ with phase := phase } :=
  ⟨h.channel, h.unique, h.datatype, h.origin, h.opened, hphase⟩

/-- Nothing that the tables hold besides the channels matters. -/
theorem callback (h : σ.Matched whitelist) {tables : Tables}
    (hchannels : tables.channels = σ.tables.channels) :
    Matched whitelist { σ with tables := tables } := by
  obtain ⟨channels, subscriptions, latchedChannels⟩ := tables
  obtain rfl : channels = σ.tables.channels := hchannels
  exact ⟨h.channel, h.unique, h.datatype, h.origin, h.opened, h.progress⟩

/-- A new call finds the channels of the last one. -/
theorem call (h : σ.Matched whitelist) {topics : List TopicAndDatatype}
    (latest : LatestTopics whitelist topics) (hdatatype : ∀ topic ∈ topics, topic.2 ≠ "") :
    Matched whitelist { σ with
      phase := .locking latest.elems
      call := ⟨topics, σ.tables.channels.keys, [], []⟩ } :=
  ⟨h.channel, h.unique, hdatatype, fun _ hmem => .inl hmem, nofun,
    ⟨latest.nodup, latest.mem_iff, rfl, rfl⟩⟩

/-- The removal loop erases a channel; what it has kept so far is still there. -/
theorem remove (h : σ.Matched whitelist) {latestTopics : List TopicAndDatatype}
    {channelId : ChannelId} {rest toClose toClose' : List ChannelId}
    {subs subs' : List ChannelSubscription}
    (hphase : σ.phase = .removing latestTopics (channelId :: rest) toClose subs) :
    Matched whitelist { σ with
      tables := σ.tables.removeChannel channelId
      phase := .removing latestTopics rest toClose' subs' } := by
  have hprogress := h.progress
  rw [hphase] at hprogress
  obtain ⟨hremoving, hkept⟩ := hprogress
  have hmem : ∀ other, other ∈ σ.tables.channels.erase channelId →
      other ≠ channelId ∧ other ∈ σ.tables.channels := fun other => (AList.mem_erase ..).mp
  have hlookup : ∀ other channel, (σ.tables.channels.erase channelId).lookup other = some channel →
      other ≠ channelId ∧ σ.tables.channels.lookup other = some channel := by
    intro other channel hother
    have hne := (hmem other (UnorderedMap.mem_iff_lookup.mpr ⟨channel, hother⟩)).1
    rw [AList.lookup_erase_ne hne] at hother
    exact ⟨hne, hother⟩
  refine ⟨fun other channel hother => h.channel other channel (hlookup other channel hother).2,
    fun topic id id' hid hid' hopen hopen' =>
      h.unique topic id id' hid hid' (hmem id hopen).2 (hmem id' hopen').2,
    h.datatype, fun other hother => h.origin other (hmem other hother).2, ?_, hremoving, ?_⟩
  · intro entry hentry
    rw [show σ.call.created = [] from hremoving.created] at hentry
    cases hentry
  · intro other channel hother
    obtain ⟨hne, hother⟩ := hlookup other channel hother
    rcases hkept other channel hother with hrest | hfresh
    · exact .inl ((List.mem_cons.mp hrest).resolve_left hne)
    · exact .inr hfresh

/-- A channel that the removal loop kept is the one of a wanted topic, and has a schema:
no listed topic is without a datatype. -/
theorem kept (h : σ.Matched whitelist) {latestTopics : List TopicAndDatatype}
    (hremoving : RemovalPhase whitelist σ.call latestTopics) {channel : RawChannel}
    {topic : TopicAndDatatype} (htopic : channel.For topic)
    (hfresh : channel.isStale latestTopics = false) :
    topic ∈ latestTopics ∧ channel.schema.isSome = true := by
  have hmem : (channel.topic, channel.schemaName) ∈ latestTopics := by
    simpa [RawChannel.isStale] using hfresh
  have hname := h.datatype _ ((hremoving.mem_iff _).mp hmem).1
  cases hschema : channel.schema with
  | none => simp [RawChannel.schemaName, hschema] at hname
  | some schema =>
      have heq : (channel.topic, channel.schemaName) = topic := by
        simp [RawChannel.schemaName, hschema, htopic.1, htopic.2 schema hschema]
      exact ⟨heq ▸ hmem, rfl⟩

/-- The advertise loop begins. -/
theorem lockForAdvertising (h : σ.Matched whitelist) (hconserved : σ.Conserved)
    {latestTopics : List TopicAndDatatype} (hphase : σ.phase = .relocking latestTopics) :
    Matched whitelist { σ with phase := .advertising latestTopics latestTopics } := by
  have hprogress := h.progress
  rw [hphase] at hprogress
  obtain ⟨hremoving, hfresh⟩ := hprogress
  refine h.move ⟨[], hremoving.nodup, hremoving.mem_iff, rfl, ?_, nofun, ?_⟩
  · intro channelId channel topic hlookup hcreated
    obtain ⟨topic', hcreated', -, htopic⟩ := h.channel channelId channel hlookup
    obtain rfl := hconserved.topic_unique hcreated hcreated'
    obtain ⟨hmem, hschema⟩ := h.kept hremoving htopic (hfresh channelId channel hlookup)
    exact ⟨hmem, fun _ => hschema⟩
  · rw [hremoving.failed]
    nofun

section Advertise

variable {latestTopics done rest : List TopicAndDatatype} {topic : TopicAndDatatype}

/-- The loop finds a channel for the next topic exactly if its channel is open. -/
theorem advertises_iff_open (h : σ.Matched whitelist) (hconserved : σ.Conserved)
    (hadv : AdvertisePhase whitelist σ.tables.channels σ.created σ.call latestTopics done
      (topic :: rest)) :
    σ.tables.advertises topic = true ↔ TopicOpen σ.tables.channels σ.created topic := by
  rw [advertises_iff]
  constructor
  · rintro ⟨channelId, channel, hlookup, hserves⟩
    obtain ⟨topic', hcreated, -, hfor⟩ := h.channel channelId channel hlookup
    obtain ⟨htopic, schema, hschema, hname⟩ := serves_iff.mp hserves
    obtain rfl : topic' = topic :=
      Prod.ext (hfor.1.symm.trans htopic) ((hfor.2 schema hschema).symm.trans hname)
    exact ⟨channelId, UnorderedMap.mem_iff_lookup.mpr ⟨channel, hlookup⟩, hcreated⟩
  · rintro ⟨channelId, hmem, hcreated⟩
    obtain ⟨channel, hlookup⟩ := UnorderedMap.mem_iff_lookup.mp hmem
    obtain ⟨topic', hcreated', -, hfor⟩ := h.channel channelId channel hlookup
    obtain rfl := hconserved.topic_unique hcreated hcreated'
    obtain ⟨-, hschema⟩ := hadv.wanted channelId channel topic hlookup hcreated
    obtain ⟨schema, hschema⟩ := Option.isSome_iff_exists.mp (hschema List.mem_cons_self)
    exact ⟨channelId, channel, hlookup, serves_iff.mpr ⟨hfor.1, schema, hschema,
      hfor.2 schema hschema⟩⟩

/-- The loop stands before the next topic, behind those that are done. -/
theorem advertising (h : σ.Matched whitelist)
    (hphase : σ.phase = .advertising latestTopics (topic :: rest)) :
    ∃ done, AdvertisePhase whitelist σ.tables.channels σ.created σ.call latestTopics done
      (topic :: rest) := by
  have hprogress := h.progress
  rw [hphase] at hprogress
  exact hprogress

/-- A topic that no channel serves has no open channel. -/
theorem not_open (h : σ.Matched whitelist) (hconserved : σ.Conserved)
    (hadv : AdvertisePhase whitelist σ.tables.channels σ.created σ.call latestTopics done
      (topic :: rest))
    (hserved : σ.tables.advertises topic = false) :
    ¬ TopicOpen σ.tables.channels σ.created topic := by
  rw [← h.advertises_iff_open hconserved hadv, hserved]
  nofun

theorem skip (h : σ.Matched whitelist) (hconserved : σ.Conserved)
    (hphase : σ.phase = .advertising latestTopics (topic :: rest))
    (hserved : σ.tables.advertises topic = true) :
    Matched whitelist { σ with phase := .advertising latestTopics rest } := by
  obtain ⟨done, hadv⟩ := h.advertising hphase
  have hopen := (h.advertises_iff_open hconserved hadv).mp hserved
  refine h.move ⟨_, hadv.advance rfl (fun _ _ _ hlookup hcreated => .inr ⟨hlookup, hcreated⟩)
    (fun _ _ => ⟨.rfl, .rfl⟩) (iff_of_true hopen fun hfailed => ?_)⟩
  exact hadv.next_new.1 (hadv.failed topic hfailed)

theorem fail (h : σ.Matched whitelist) (hconserved : σ.Conserved)
    (hphase : σ.phase = .advertising latestTopics (topic :: rest))
    (hserved : σ.tables.advertises topic = false) :
    Matched whitelist { σ with
      phase := .advertising latestTopics rest
      call := { σ.call with failed := σ.call.failed ++ [topic] } } := by
  obtain ⟨done, hadv⟩ := h.advertising hphase
  have hopen := h.not_open hconserved hadv hserved
  refine ⟨h.channel, h.unique, h.datatype, h.origin, h.opened, _, hadv.advance rfl
    (fun _ _ _ hlookup hcreated => .inr ⟨hlookup, hcreated⟩) (fun other hne => ⟨.rfl, ?_⟩) ?_⟩
  · show other ∈ σ.call.failed ++ [topic] ↔ other ∈ σ.call.failed
    rw [List.mem_append, List.mem_singleton, or_iff_left hne]
  · refine iff_of_false hopen fun hnot => hnot ?_
    exact List.mem_append_right _ (List.mem_singleton_self topic)

theorem create (h : σ.Matched whitelist) (hconserved : σ.Conserved)
    (hphase : σ.phase = .advertising latestTopics (topic :: rest))
    (hserved : σ.tables.advertises topic = false) {channelId : ChannelId}
    (hnew : channelId ∉ σ.created.map Prod.fst) (answers : Answers) :
    Matched whitelist { σ with
      tables := σ.tables.insertChannel channelId (answers.channel topic)
      phase := .advertising latestTopics rest
      call := { σ.call with created := σ.call.created ++ [(channelId, topic)] }
      created := σ.created ++ [(channelId, topic)] } := by
  obtain ⟨done, hadv⟩ := h.advertising hphase
  have hopen := h.not_open hconserved hadv hserved
  have hclosed : channelId ∉ σ.tables.channels := by
    intro hmem
    obtain ⟨channel, hlookup⟩ := UnorderedMap.mem_iff_lookup.mp hmem
    obtain ⟨other, hcreated, -⟩ := h.channel channelId channel hlookup
    exact hnew (List.mem_map_of_mem hcreated)
  refine ⟨?_, ?_, h.datatype, ?_, ?_, _, hadv.advance rfl ?_ (fun other hne =>
    ⟨topicOpen_of_ne hnew hne, .rfl⟩) (iff_of_true topicOpen_new fun hfailed =>
      hadv.next_new.1 (hadv.failed topic hfailed))⟩
  · intro id channel hid
    rcases UnorderedMap.lookup_emplace_cases hclosed hid with ⟨rfl, rfl⟩ | ⟨-, hold⟩
    · refine ⟨topic, mem_created_append.mpr (.inr ⟨rfl, rfl⟩), ?_, rfl, ?_⟩
      · exact h.datatype topic ((hadv.mem_iff topic).mp hadv.next_mem).1
      · intro schema hschema
        obtain ⟨definition, -, rfl⟩ := Option.map_eq_some_iff.mp hschema
        rfl
    · obtain ⟨other, hmem, hfor⟩ := h.channel id channel hold
      exact ⟨other, mem_created_append.mpr (.inl hmem), hfor⟩
  · intro other id id' hid hid' hin hin'
    rcases mem_created_append.mp hid with hold | ⟨rfl, rfl⟩ <;>
      rcases mem_created_append.mp hid' with hold' | ⟨rfl, htopic⟩
    · exact h.unique other id id' hold hold' (mem_of_mem_emplace hnew hold hin)
        (mem_of_mem_emplace hnew hold' hin')
    · exact absurd ⟨id, mem_of_mem_emplace hnew hold hin, htopic ▸ hold⟩ hopen
    · exact absurd ⟨id', mem_of_mem_emplace hnew hold' hin', hold'⟩ hopen
    · rfl
  · intro id hin
    show id ∈ σ.call.before ∨ id ∈ (σ.call.created ++ [(channelId, topic)]).map Prod.fst
    rcases UnorderedMap.mem_emplace.mp hin with rfl | hold
    · exact .inr (by simp)
    · exact (h.origin id hold).imp_right fun hnow => by
        rw [List.map_append]
        exact List.mem_append_left _ hnow
  · intro entry hentry
    rcases List.mem_append.mp hentry with hold | hlast
    · obtain ⟨hin, hold⟩ := h.opened entry hold
      exact ⟨List.mem_append_left _ hin, UnorderedMap.mem_emplace.mpr (.inr hold)⟩
    · obtain rfl := List.mem_singleton.mp hlast
      exact ⟨List.mem_append_right _ List.mem_cons_self, UnorderedMap.mem_emplace.mpr (.inl rfl)⟩
  · intro id channel other hid hcreated
    rcases UnorderedMap.lookup_emplace_cases hclosed hid with ⟨rfl, -⟩ | ⟨hne, hold⟩
    · -- the new channel may have no schema, but its topic does not come again
      refine .inl ((mem_created_append.mp hcreated).elim (fun hold => ?_) And.right)
      exact absurd (List.mem_map_of_mem hold) hnew
    · exact .inr ⟨hold, (mem_created_append.mp hcreated).resolve_right fun hlast => hne hlast.1⟩

end Advertise

theorem step {σ' : TopicsState} {a : TopicsAction whitelist} (h : σ.Matched whitelist)
    (hconserved : σ.Conserved) (hs : σ.Step a σ') (hassumed : a.Assumed σ) :
    σ'.Matched whitelist := by
  have hprogress := h.progress
  cases hs with
  | call latest => exact h.call latest hassumed
  | lockForRemoval hphase =>
      rw [hphase] at hprogress
      exact h.move ⟨hprogress, fun id _ hlookup =>
        .inl (UnorderedMap.mem_iff_lookup.mpr ⟨_, hlookup⟩)⟩
  | remove hphase => exact h.remove hphase
  | @keep _ channelId _ _ _ hphase hfresh =>
      rw [hphase] at hprogress
      refine h.move ⟨hprogress.1, fun id channel hlookup => ?_⟩
      rcases hprogress.2 id channel hlookup with hrest | hkept
      · rcases List.mem_cons.mp hrest with rfl | hrest
        · refine .inr (Bool.eq_false_iff.mpr fun hstale => ?_)
          rw [removes_iff.mpr ⟨channel, hlookup, hstale⟩] at hfresh
          cases hfresh
        · exact .inl hrest
      · exact .inr hkept
  | unlockAfterRemoval hphase =>
      rw [hphase] at hprogress
      exact h.move ⟨hprogress.1, fun id channel hlookup =>
        (hprogress.2 id channel hlookup).resolve_left (List.not_mem_nil)⟩
  | close hphase =>
      rw [hphase] at hprogress
      exact ⟨h.channel, h.unique, h.datatype, h.origin, h.opened, hprogress⟩
  | release hphase =>
      rw [hphase] at hprogress
      exact h.move hprogress
  | lockForAdvertising hphase => exact h.lockForAdvertising hconserved hphase
  | skip hphase hserved => exact h.skip hconserved hphase hserved
  | fail hphase hserved => exact h.fail hconserved hphase hserved
  | create answers hphase hserved => exact h.create hconserved hphase hserved hassumed answers
  | unlockAfterAdvertising hphase =>
      rw [hphase] at hprogress
      obtain ⟨done, hadv⟩ := hprogress
      have hdone : ∀ topic, σ.call.Wanted whitelist topic → topic ∈ done := by
        intro topic hwanted
        simpa [hadv.split] using (hadv.mem_iff topic).mpr hwanted
      exact h.move ⟨fun id channel topic hlookup hcreated =>
        (hadv.mem_iff topic).mp (hadv.wanted id channel topic hlookup hcreated).1,
        fun topic hwanted => hadv.open_iff topic (hdone topic hwanted)⟩
  | callback hchannels => exact h.callback hchannels

end TopicsState.Matched

/-! ## Runs -/

/-- The open channels are those of the wanted topics, one each, less the topics whose
creation failed in this call; each was open before the call or was created by it. -/
structure TopicsState.Exact (whitelist : Whitelist) (σ : TopicsState) : Prop where
  nodup : (σ.created.map Prod.fst).Nodup
  wanted : ∀ channelId channel, σ.tables.channels.lookup channelId = some channel →
    ∃ topic, (channelId, topic) ∈ σ.created ∧ channel.For topic ∧ σ.call.Wanted whitelist topic
  unique : ∀ topic channelId channelId', (channelId, topic) ∈ σ.created →
    (channelId', topic) ∈ σ.created → channelId ∈ σ.tables.channels →
    channelId' ∈ σ.tables.channels → channelId = channelId'
  open_iff : ∀ topic, σ.call.Wanted whitelist topic →
    (TopicOpen σ.tables.channels σ.created topic ↔ topic ∉ σ.call.failed)
  origin : ∀ channelId ∈ σ.tables.channels,
    channelId ∈ σ.call.before ∨ channelId ∈ σ.call.created.map Prod.fst
  opened : ∀ entry ∈ σ.call.created, entry ∈ σ.created ∧ entry.1 ∈ σ.tables.channels

/-- Each created channel is either open and not closed, or not open and closed once. -/
def TopicsState.ClosedOnce (σ : TopicsState) : Prop :=
  ∀ channelId ∈ σ.created.map Prod.fst,
    (channelId ∈ σ.tables.channels ∧ σ.closed.count channelId = 0) ∨
      (channelId ∉ σ.tables.channels ∧ σ.closed.count channelId = 1)

variable {σ : TopicsState}

theorem TopicsState.Conserved.of_run (h : (topicsSystem whitelist).Run TopicsAction.Assumed σ) :
    σ.Conserved := by
  refine TSys.Run.invariant h ⟨?_, fun _ _ _ hconserved hassumed hs =>
    hconserved.step (TopicsState.step_rule hs) hassumed⟩
  rintro _ rfl
  exact ⟨.refl _, List.nodup_nil⟩

theorem TopicsState.Matched.of_run (h : (topicsSystem whitelist).Run TopicsAction.Assumed σ) :
    σ.Matched whitelist := by
  refine TSys.Run.invariant_of h (fun _ => Conserved.of_run) ?_
    fun _ _ _ hmatched hconserved hassumed hs =>
      hmatched.step hconserved (TopicsState.step_rule hs) hassumed
  rintro _ rfl
  exact ⟨nofun, nofun, nofun, nofun, nofun, nofun, fun _ h => absurd h.1 List.not_mem_nil⟩

/-- A channel is closed while `_subscriptionsMutex` is free. -/
theorem TopicsState.Step.closed {σ' : TopicsState} {a : TopicsAction whitelist} (hs : σ.Step a σ')
    (hclosed : σ'.closed ≠ σ.closed) : σ.phase.holdsMutex = false := by
  cases hs with
  | close hphase =>
      rw [hphase]
      rfl
  | _ => exact absurd rfl hclosed

/-- **Topic updates are exact.** In every run, whatever the callbacks in between, the
lookups and the creations do: between two calls the open channels are those of the listed
and whitelisted topics, one each, less those whose creation failed; every channel ever
created is open or has been closed once; and channels are closed only while
`_subscriptionsMutex` is free. -/
theorem reconciled (h : (topicsSystem whitelist).Run TopicsAction.Assumed σ) :
    (σ.phase = .idle → σ.Exact whitelist ∧ σ.ClosedOnce) ∧
      ∀ a σ', (topicsSystem whitelist).step σ a = some σ' → σ'.closed ≠ σ.closed →
        σ.phase.holdsMutex = false := by
  have hconserved := TopicsState.Conserved.of_run h
  have hmatched := TopicsState.Matched.of_run h
  refine ⟨fun hidle => ⟨?_, fun channelId => hconserved.closed_iff hidle⟩,
    fun a σ' hs => (TopicsState.step_rule hs).closed⟩
  have hprogress := hmatched.progress
  rw [hidle] at hprogress
  refine ⟨hconserved.nodup, fun channelId channel hlookup => ?_, hmatched.unique, hprogress.2,
    hmatched.origin, hmatched.opened⟩
  obtain ⟨topic, hcreated, -, hfor⟩ := hmatched.channel channelId channel hlookup
  exact ⟨topic, hcreated, hfor, hprogress.1 channelId channel topic hlookup hcreated⟩

/-- Two updates with a client in between: a topic is listed twice, the definition of the
other one is unknown at first, and then it is gone. -/
def chatterSchedule : List (TopicsAction [fun _ => true]) :=
  [.call [("/a", "T"), ("/b", "U"), ("/a", "T")]
      ⟨[("/b", "U"), ("/a", "T")], by decide, fun topic => by simp [matchesRegex]; tauto⟩,
    .lockForRemoval, .unlockAfterRemoval, .releaseSubscriptions, .lockForAdvertising,
    .advertise none (some 1), .advertise (some []) (some 2), .unlockAfterAdvertising,
    .onSubscribe 1 7 false none 0,
    .call [("/a", "T")] ⟨[("/a", "T")], by decide, fun topic => by simp [matchesRegex]⟩,
    .lockForRemoval, .visit, .visit, .unlockAfterRemoval, .onUnsubscribe 1 7 false, .close,
    .releaseSubscriptions, .lockForAdvertising, .advertise (some []) (some 3),
    .unlockAfterAdvertising]

theorem reconciled_chatter : ∃ σ, (topicsSystem [fun _ => true]).exec .initial chatterSchedule =
    some σ ∧ σ.tables.channels.keys = [2] ∧ σ.closed = [1] ∧ σ.Exact [fun _ => true] := by
  refine ⟨_, rfl, rfl, rfl, ?_⟩
  have hrun : (topicsSystem [fun _ => true]).Run TopicsAction.Assumed _ :=
    TSys.Run.exec (.init rfl) (show TSys.Guarded _ _ _ chatterSchedule by decide) rfl
  exact ((reconciled hrun).1 rfl).1

end FoxgloveBridge
