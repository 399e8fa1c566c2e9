import FoxgloveBridge.Bridge.MasterReplies
import FoxgloveBridge.Bridge.Topics
import FoxgloveBridge.Service.Table

/-!
# The bridge mirrors the master

The poll thread as a whole: each cycle reads the master's replies and makes the updates they
allow, one after another, and each update is a call of `updateAdvertisedTopics`,
`updateAdvertisedServices` or `publishConnectionGraph` that goes its own steps. Callbacks of
clients, messages and service requests come in between, at any moment. No update throws: the
failures of what they call are answers of the outside.

When the thread is between two cycles, what clients are offered is what the last readable
replies listed, and nothing else: replies that failed or could not be read left it alone
(`mirrors_master`).
-/

namespace FoxgloveBridge

/-- What does not change from one cycle to the next. -/
structure PollConfig where
  topicWhitelist : Whitelist
  serviceWhitelist : Whitelist
  /-- The `Services` capability. -/
  servicesEnabled : Bool
  hasGateway : Bool

/-- What a cycle finds outside. -/
structure CycleReplies where
  graphSubscribed : Bool
  graphSubscribedLater : Bool
  topicsReply : MasterReply
  systemStateReply : MasterReply

def PollConfig.cycle (config : PollConfig) (replies : CycleReplies) : CycleInput where
  topicWhitelist := config.topicWhitelist
  serviceWhitelist := config.serviceWhitelist
  servicesEnabled := config.servicesEnabled
  graphSubscribed := replies.graphSubscribed
  graphSubscribedLater := replies.graphSubscribedLater
  topicsReply := replies.topicsReply
  systemStateReply := replies.systemStateReply
  throws _ := false

namespace CycleUpdate

/-- What the update works on, if it is of the kind. -/
def topics? : CycleUpdate → Option (List TopicAndDatatype)
  | .updateAdvertisedTopics topics => some topics
  | _ => none

def serviceNames? : CycleUpdate → Option (List String)
  | .updateAdvertisedServices serviceNames => some serviceNames
  | _ => none

def connectionGraph? : CycleUpdate → Option SystemState
  | .publishConnectionGraph connectionGraph => some connectionGraph
  | _ => none

end CycleUpdate

/-- What the last update of the kind worked on. -/
def lastOf {α : Type} (kind : CycleUpdate → Option α) (made : List CycleUpdate) : Option α :=
  (made.filterMap kind).getLast?

section LastOf

variable {α : Type} {kind : CycleUpdate → Option α}

theorem lastOf_append_singleton (made : List CycleUpdate) (u : CycleUpdate) :
    lastOf kind (made ++ [u]) = (kind u).or (lastOf kind made) := by
  unfold lastOf
  rw [List.filterMap_append]
  cases hkind : kind u with
  | none => simp [hkind]
  | some a => simp [hkind]

theorem exists_mem_of_lastOf {made : List CycleUpdate} {a : α} (h : lastOf kind made = some a) :
    ∃ u ∈ made, kind u = some a :=
  List.mem_filterMap.mp (List.mem_of_getLast? h)

end LastOf

/-! ## The poll thread -/

structure MirrorState where
  topics : TopicsState
  services : ServiceTable
  /-- The connection graph that was published last. -/
  graph : Option SystemState
  /-- The updates that the cycle has still to make. -/
  pending : List CycleUpdate
  /-- The updates made so far, the one in progress included. -/
  made : List CycleUpdate
  cycles : List CycleInput

inductive MirrorAction (config : PollConfig)
  /-- A cycle reads the replies. -/
  | poll (replies : CycleReplies)
  | updateAdvertisedTopics (topics : List TopicAndDatatype)
      (latest : LatestTopics config.topicWhitelist topics)
  | updateAdvertisedServices
  | publishConnectionGraph
  /-- A step inside `updateAdvertisedTopics`, or a callback on its tables. -/
  | topics (a : TopicsAction config.topicWhitelist)
  /-- A step inside `updateAdvertisedServices`, or a lookup. -/
  | services (a : ServicesAction)

def TopicsAction.isCall {whitelist : Whitelist} : TopicsAction whitelist → Bool
  | .call .. => true
  | _ => false

def ServicesAction.isCall : ServicesAction → Bool
  | .call _ => true
  | _ => false

namespace MirrorState

variable {config : PollConfig} (σ : MirrorState)

def initial (config : PollConfig) : MirrorState where
  topics := .initial
  services := .initial config.hasGateway
  graph := none
  pending := []
  made := []
  cycles := []

/-- The update before has returned. -/
def Returned : Prop := σ.topics.phase = .idle ∧ σ.services.phase = .idle

instance : Decidable σ.Returned :=
  inferInstanceAs (Decidable (σ.topics.phase = .idle ∧ σ.services.phase = .idle))

def step : MirrorAction config → Option MirrorState
  | .poll replies =>
      if σ.Returned ∧ σ.pending = [] then
        some { σ with
          pending := (config.cycle replies).pollCycle
          cycles := σ.cycles ++ [config.cycle replies] }
      else none
  | .updateAdvertisedTopics topics latest =>
      match σ.pending with
      | .updateAdvertisedTopics listed :: rest =>
          if σ.Returned ∧ listed = topics then
            (σ.topics.step (.call topics latest)).map fun called =>
              { σ with
                topics := called
                pending := rest
                made := σ.made ++ [.updateAdvertisedTopics topics] }
          else none
      | _ => none
  | .updateAdvertisedServices =>
      match σ.pending with
      | .updateAdvertisedServices serviceNames :: rest =>
          if σ.Returned then
            (σ.services.step (.call serviceNames)).map fun called =>
              { σ with
                services := called
                pending := rest
                made := σ.made ++ [.updateAdvertisedServices serviceNames] }
          else none
      | _ => none
  | .publishConnectionGraph =>
      match σ.pending with
      | .publishConnectionGraph connectionGraph :: rest =>
          if σ.Returned then
            some { σ with
              graph := some connectionGraph
              pending := rest
              made := σ.made ++ [.publishConnectionGraph connectionGraph] }
          else none
      | _ => none
  | .topics a =>
      if a.isCall then none else (σ.topics.step a).map fun next => { σ with topics := next }
  | .services a =>
      if a.isCall then none else (σ.services.step a).map fun next => { σ with services := next }

end MirrorState

def mirrorSystem (config : PollConfig) : TSys MirrorState (MirrorAction config) where
  init σ := σ = .initial config
  step := MirrorState.step

/-- What is assumed of the outside: as for the topic updates alone. -/
def MirrorAction.Assumed {config : PollConfig} (σ : MirrorState) : MirrorAction config → Prop
  | .updateAdvertisedTopics listed latest =>
      TopicsAction.Assumed σ.topics (.call listed latest : TopicsAction config.topicWhitelist)
  | .topics a => a.Assumed σ.topics
  | _ => True

instance {config : PollConfig} (σ : MirrorState) : (a : MirrorAction config) →
    Decidable (a.Assumed σ)
  | .updateAdvertisedTopics listed latest =>
      inferInstanceAs (Decidable (TopicsAction.Assumed σ.topics
        (.call listed latest : TopicsAction config.topicWhitelist)))
  | .topics a => inferInstanceAs (Decidable (a.Assumed σ.topics))
  | .poll _ | .updateAdvertisedServices | .publishConnectionGraph | .services _ => .isTrue trivial

variable {config : PollConfig} {σ σ' : MirrorState}

/-! ## The steps as rules -/

inductive MirrorState.Step (σ : MirrorState) : MirrorAction config → MirrorState → Prop
  | poll {replies : CycleReplies} : σ.pending = [] →
      Step σ (.poll replies)
        { σ with
          pending := (config.cycle replies).pollCycle
          cycles := σ.cycles ++ [config.cycle replies] }
  | callTopics {topics : List TopicAndDatatype} {latest : LatestTopics config.topicWhitelist topics}
      {rest : List CycleUpdate} {called : TopicsState} :
      σ.pending = .updateAdvertisedTopics topics :: rest →
      σ.topics.step (.call topics latest) = some called →
      Step σ (.updateAdvertisedTopics topics latest)
        { σ with
          topics := called
          pending := rest
          made := σ.made ++ [.updateAdvertisedTopics topics] }
  | callServices {serviceNames : List String} {rest : List CycleUpdate} {called : ServiceTable} :
      σ.pending = .updateAdvertisedServices serviceNames :: rest →
      σ.services.step (.call serviceNames) = some called →
      Step σ .updateAdvertisedServices
        { σ with
          services := called
          pending := rest
          made := σ.made ++ [.updateAdvertisedServices serviceNames] }
  | publish {connectionGraph : SystemState} {rest : List CycleUpdate} :
      σ.pending = .publishConnectionGraph connectionGraph :: rest →
      Step σ .publishConnectionGraph
        { σ with
          graph := some connectionGraph
          pending := rest
          made := σ.made ++ [.publishConnectionGraph connectionGraph] }
  | topics {a : TopicsAction config.topicWhitelist} {next : TopicsState} : a.isCall = false →
      σ.topics.step a = some next → Step σ (.topics a) { σ with topics := next }
  | services {a : ServicesAction} {next : ServiceTable} : a.isCall = false →
      σ.services.step a = some next → Step σ (.services a) { σ with services := next }

theorem MirrorState.step_rule {a : MirrorAction config} (hs : σ.step a = some σ') :
    σ.Step a σ' := by
  cases a with
  | poll replies =>
      obtain ⟨⟨-, hpending⟩, hσ'⟩ := Option.ite_none_right_eq_some.mp hs
      obtain rfl := Option.some.inj hσ'
      exact .poll hpending
  | updateAdvertisedTopics topics latest =>
      simp only [MirrorState.step] at hs
      split at hs
      · rename_i hpending
        obtain ⟨⟨-, rfl⟩, hcall⟩ := Option.ite_none_right_eq_some.mp hs
        obtain ⟨called, hcalled, rfl⟩ := Option.map_eq_some_iff.mp hcall
        exact .callTopics hpending hcalled
      · cases hs
  | updateAdvertisedServices =>
      simp only [MirrorState.step] at hs
      split at hs
      · rename_i hpending
        obtain ⟨-, hcall⟩ := Option.ite_none_right_eq_some.mp hs
        obtain ⟨called, hcalled, rfl⟩ := Option.map_eq_some_iff.mp hcall
        exact .callServices hpending hcalled
      · cases hs
  | publishConnectionGraph =>
      simp only [MirrorState.step] at hs
      split at hs
      · rename_i hpending
        obtain ⟨-, hσ'⟩ := Option.ite_none_right_eq_some.mp hs
        obtain rfl := Option.some.inj hσ'
        exact .publish hpending
      · cases hs
  | topics a =>
      obtain ⟨hcall, hstep⟩ := Option.ite_none_left_eq_some.mp hs
      obtain ⟨next, hnext, rfl⟩ := Option.map_eq_some_iff.mp hstep
      exact .topics (Bool.eq_false_of_not_eq_true hcall) hnext
  | services a =>
      obtain ⟨hcall, hstep⟩ := Option.ite_none_left_eq_some.mp hs
      obtain ⟨next, hnext, rfl⟩ := Option.map_eq_some_iff.mp hstep
      exact .services (Bool.eq_false_of_not_eq_true hcall) hnext

/-! ## The parts go their own ways -/

/-- The tables of the topics run as they do alone. -/
theorem MirrorState.topics_run (h : (mirrorSystem config).Run MirrorAction.Assumed σ) :
    (topicsSystem config.topicWhitelist).Run TopicsAction.Assumed σ.topics := by
  refine h.simulates_run MirrorState.topics (by rintro τ rfl; rfl) ?_
  intro τ a τ' _ hassumed hs
  cases MirrorState.step_rule hs with
  | @callTopics listed latest _ _ _ hcalled => exact .inr ⟨.call listed latest, hassumed, hcalled⟩
  | @topics b _ _ hnext => exact .inr ⟨b, hassumed, hnext⟩
  | _ => exact .inl rfl

theorem MirrorState.services_reachable
    (h : (mirrorSystem config).Run MirrorAction.Assumed σ) :
    serviceTableSystem.Reachable σ.services := by
  refine h.simulates MirrorState.services (by rintro τ rfl; exact ⟨config.hasGateway, rfl⟩) ?_
  intro τ a τ' _ _ hs
  cases MirrorState.step_rule hs with
  | @callServices serviceNames _ _ _ hcalled => exact .inr ⟨.call serviceNames, hcalled⟩
  | @services b _ _ hnext => exact .inr ⟨b, hnext⟩
  | _ => exact .inl rfl

/-- What a call of `updateAdvertisedTopics` was given changes with the next call only. -/
theorem TopicsState.Step.call_topics {whitelist : Whitelist} {τ τ' : TopicsState}
    {a : TopicsAction whitelist} (hs : τ.Step a τ') (ha : a.isCall = false) :
    τ'.call.topics = τ.call.topics := by
  cases hs with
  | call => cases ha
  | _ => rfl

theorem ServiceTable.step_serviceNames {τ τ' : ServiceTable} {a : ServicesAction}
    (hs : τ.step a = some τ') (ha : a.isCall = false) :
    τ'.call.serviceNames = τ.call.serviceNames := by
  cases a with
  | call serviceNames => cases ha
  | handleServiceRequest serviceName =>
      obtain rfl := Option.some.inj hs
      rfl
  | visit =>
      simp only [ServiceTable.step] at hs
      split at hs
      · obtain rfl := Option.some.inj hs
        rfl
      · split at hs <;> (obtain rfl := Option.some.inj hs; rfl)
      · cases hs
  | retrieveServiceType type description =>
      simp only [ServiceTable.step] at hs
      split at hs
      · split at hs <;> (obtain rfl := Option.some.inj hs; rfl)
      · cases hs
  | addToServer created added =>
      simp only [ServiceTable.step] at hs
      split at hs
      · split at hs <;> (obtain rfl := Option.some.inj hs; rfl)
      · cases hs
  | _ =>
      simp only [ServiceTable.step] at hs
      split at hs
      · obtain rfl := Option.some.inj hs
        rfl
      · cases hs

/-! ## What was listed last -/

/-- The updates are those of the cycles, in order, and each part has what its last update
gave it. -/
structure MirrorState.Follows (σ : MirrorState) : Prop where
  made : σ.cycles.flatMap CycleInput.pollCycle = σ.made ++ σ.pending
  topics : σ.topics.call.topics = (lastOf CycleUpdate.topics? σ.made).getD []
  serviceNames : σ.services.call.serviceNames = (lastOf CycleUpdate.serviceNames? σ.made).getD []
  graph : σ.graph = lastOf CycleUpdate.connectionGraph? σ.made

theorem MirrorState.Follows.step {a : MirrorAction config} (h : σ.Follows) (hs : σ.Step a σ') :
    σ'.Follows := by
  cases hs with
  | poll hpending =>
      refine ⟨?_, h.topics, h.serviceNames, h.graph⟩
      rw [List.flatMap_append, h.made, hpending, List.append_nil]
      simp
  | callTopics hpending hcalled =>
      obtain ⟨-, hσ'⟩ := Option.ite_none_right_eq_some.mp hcalled
      obtain rfl := Option.some.inj hσ'
      refine ⟨?_, ?_, ?_, ?_⟩
      · rw [h.made, hpending, List.append_assoc, List.singleton_append]
      · rw [lastOf_append_singleton]
        rfl
      · rw [lastOf_append_singleton]
        exact h.serviceNames
      · rw [lastOf_append_singleton]
        exact h.graph
  | callServices hpending hcalled =>
      obtain ⟨-, hσ'⟩ := Option.ite_none_right_eq_some.mp hcalled
      obtain rfl := Option.some.inj hσ'
      refine ⟨?_, ?_, ?_, ?_⟩
      · rw [h.made, hpending, List.append_assoc, List.singleton_append]
      · rw [lastOf_append_singleton]
        exact h.topics
      · rw [lastOf_append_singleton]
        rfl
      · rw [lastOf_append_singleton]
        exact h.graph
  | publish hpending =>
      refine ⟨?_, ?_, ?_, ?_⟩
      · rw [h.made, hpending, List.append_assoc, List.singleton_append]
      · rw [lastOf_append_singleton]
        exact h.topics
      · rw [lastOf_append_singleton]
        exact h.serviceNames
      · rw [lastOf_append_singleton]
        rfl
  | topics ha hnext =>
      refine ⟨h.made, ?_, h.serviceNames, h.graph⟩
      exact ((TopicsState.step_rule hnext).call_topics ha).trans h.topics
  | services ha hnext =>
      refine ⟨h.made, h.topics, ?_, h.graph⟩
      exact (ServiceTable.step_serviceNames hnext ha).trans h.serviceNames

theorem MirrorState.Follows.of_run (h : (mirrorSystem config).Run MirrorAction.Assumed σ) :
    σ.Follows := by
  refine TSys.Run.invariant h ⟨?_, fun _ _ _ hfollows _ hs =>
    hfollows.step (MirrorState.step_rule hs)⟩
  rintro τ rfl
  exact ⟨rfl, rfl, rfl, rfl⟩

/-- A reply lists one list of topics at most. -/
theorem MasterReply.ListsTopics.eq {reply : MasterReply} {topics topics' : List TopicAndDatatype}
    (h : reply.ListsTopics topics) (h' : reply.ListsTopics topics') : topics = topics' := by
  have hread := retrieveTopics_eq_some_iff.mpr h
  rw [retrieveTopics_eq_some_iff.mpr h'] at hread
  exact (Option.some.inj (Except.ok.inj hread)).symm

theorem CycleUpdate.eq_of_topics? {u : CycleUpdate} {topics : List TopicAndDatatype}
    (h : u.topics? = some topics) : u = .updateAdvertisedTopics topics := by
  cases u with
  | updateAdvertisedTopics listed => rw [Option.some.inj h]
  | _ => cases h

/-- The topics that a cycle updates are those of its reply. -/
theorem CycleInput.listsTopics_of_mem {c : CycleInput} {topics : List TopicAndDatatype}
    (h : topics ∈ c.pollCycle.filterMap CycleUpdate.topics?) : c.topicsReply.ListsTopics topics := by
  obtain ⟨u, hu, hkind⟩ := List.mem_filterMap.mp h
  rw [CycleUpdate.eq_of_topics? hkind] at hu
  rcases CycleInput.of_mem_pollCycle hu with ⟨listed, hlists, heq⟩ | ⟨s, -, hother⟩
  · cases heq
    exact hlists
  · rcases hother with heq | heq <;> cases heq

namespace MirrorState

variable (σ)

/-- The topics of the last update that a cycle allowed. -/
def listedTopics : List TopicAndDatatype :=
  (lastOf CycleUpdate.topics? (σ.cycles.flatMap CycleInput.pollCycle)).getD []

def listedServices : List String :=
  (lastOf CycleUpdate.serviceNames? (σ.cycles.flatMap CycleInput.pollCycle)).getD []

def listedGraph : Option SystemState :=
  lastOf CycleUpdate.connectionGraph? (σ.cycles.flatMap CycleInput.pollCycle)

/-- The last topics are those of the last reply that lists any, unless the system state of
that cycle could not be read. -/
theorem listedTopics_eq {before after : List CycleInput} {c : CycleInput}
    {topics : List TopicAndDatatype} (hcycles : σ.cycles = before ++ c :: after)
    (hlists : c.topicsReply.ListsTopics topics) (hreads : ¬ c.SystemStateSpoilsTopics)
    (hlater : ∀ d ∈ after, ∀ listed, ¬ d.topicsReply.ListsTopics listed) :
    σ.listedTopics = topics := by
  have hafter : (after.flatMap CycleInput.pollCycle).filterMap CycleUpdate.topics? = [] := by
    refine List.eq_nil_iff_forall_not_mem.mpr fun listed hlisted => ?_
    obtain ⟨u, hu, hkind⟩ := List.mem_filterMap.mp hlisted
    obtain ⟨d, hd, hud⟩ := List.mem_flatMap.mp hu
    exact hlater d hd listed
      (CycleInput.listsTopics_of_mem (List.mem_filterMap.mpr ⟨u, hud, hkind⟩))
  have hc : (c.pollCycle.filterMap CycleUpdate.topics?).getLast? = some topics := by
    have hmem : topics ∈ c.pollCycle.filterMap CycleUpdate.topics? :=
      List.mem_filterMap.mpr ⟨_, CycleInput.updated_of_not_spoils hreads hlists, rfl⟩
    obtain ⟨last, hlast⟩ := Option.isSome_iff_exists.mp
      (List.getLast?_isSome.mpr (List.ne_nil_of_mem hmem))
    rw [hlast]
    exact congrArg some
      ((CycleInput.listsTopics_of_mem (List.mem_of_getLast? hlast)).eq hlists)
  unfold listedTopics lastOf
  rw [hcycles, List.flatMap_append, List.flatMap_cons, List.filterMap_append,
    List.filterMap_append, hafter, List.append_nil, List.getLast?_append, hc]
  rfl

/-- What clients are offered is what was listed last: a channel for each topic, less those
whose creation failed; services that are known wherever they are registered; and the graph. -/
structure Mirrors (config : PollConfig) (σ : MirrorState) : Prop where
  channel : ∀ channelId channel, σ.topics.tables.channels.lookup channelId = some channel →
    ∃ topic, (channelId, topic) ∈ σ.topics.created ∧ channel.For topic ∧
      topic ∈ σ.listedTopics ∧ matchesRegex topic.1 config.topicWhitelist = true
  open_iff : ∀ topic ∈ σ.listedTopics, matchesRegex topic.1 config.topicWhitelist = true →
    (TopicOpen σ.topics.tables.channels σ.topics.created topic ↔ topic ∉ σ.topics.call.failed)
  unique : ∀ topic channelId channelId', (channelId, topic) ∈ σ.topics.created →
    (channelId', topic) ∈ σ.topics.created → channelId ∈ σ.topics.tables.channels →
    channelId' ∈ σ.topics.tables.channels → channelId = channelId'
  services : ∀ serviceName ∈ σ.services.server, serviceName ∈ σ.services.advertisedServices ∧
    serviceName ∈ σ.listedServices
  kept : ∀ serviceName ∈ σ.listedServices, serviceName ∈ σ.services.call.before →
    serviceName ∈ σ.services.server
  gateway : ∀ services ∈ σ.services.gateway, ∀ serviceName ∈ services,
    serviceName ∈ σ.services.server
  graph : σ.graph = σ.listedGraph

/-- What was listed last is what some reply lists, whole and filtered. -/
structure Sourced (config : PollConfig) (σ : MirrorState) : Prop where
  topics : σ.listedTopics ≠ [] → ∃ c ∈ σ.cycles, c.topicsReply.ListsTopics σ.listedTopics
  services : σ.listedServices ≠ [] → ∃ c ∈ σ.cycles, ∃ s,
    c.systemStateReply.ListsSystemState config.topicWhitelist config.serviceWhitelist s ∧
      σ.listedServices = s.serviceNames
  graph : ∀ s, σ.listedGraph = some s → ∃ c ∈ σ.cycles,
    c.systemStateReply.ListsSystemState config.topicWhitelist config.serviceWhitelist s

variable {σ}

theorem cycle_of_mem (h : (mirrorSystem config).Run MirrorAction.Assumed σ) :
    ∀ c ∈ σ.cycles, ∃ replies, c = config.cycle replies := by
  refine TSys.Run.invariant (I := fun τ => ∀ c ∈ τ.cycles, ∃ replies, c = config.cycle replies)
    h ⟨?_, ?_⟩
  · rintro τ rfl c hc
    cases hc
  · intro τ a τ' hcycles _ hs
    cases MirrorState.step_rule hs with
    | @poll replies _ =>
        intro c hc
        rcases List.mem_append.mp hc with hold | hnew
        · exact hcycles c hold
        · exact ⟨replies, List.mem_singleton.mp hnew⟩
    | _ => exact hcycles

/-- What an update of the kind worked on was read in some cycle. -/
theorem exists_cycle_of_lastOf {α : Type} {kind : CycleUpdate → Option α} {a : α}
    (h : lastOf kind (σ.cycles.flatMap CycleInput.pollCycle) = some a) :
    ∃ c ∈ σ.cycles, ∃ u ∈ c.pollCycle, kind u = some a := by
  obtain ⟨u, hu, hkind⟩ := exists_mem_of_lastOf h
  obtain ⟨c, hc, hmem⟩ := List.mem_flatMap.mp hu
  exact ⟨c, hc, u, hmem, hkind⟩

theorem sourced_of_run (h : (mirrorSystem config).Run MirrorAction.Assumed σ) :
    σ.Sourced config := by
  -- a system state that a cycle used is one its reply lists, with the whitelists of all cycles
  have hstate : ∀ c ∈ σ.cycles, ∀ u ∈ c.pollCycle, u.topics? = none → ∃ s,
      c.systemStateReply.ListsSystemState config.topicWhitelist config.serviceWhitelist s ∧
        (u = .updateAdvertisedServices s.serviceNames ∨ u = .publishConnectionGraph s) := by
    intro c hc u hu hkind
    obtain ⟨replies, rfl⟩ := cycle_of_mem h c hc
    rcases CycleInput.of_mem_pollCycle hu with ⟨listed, -, rfl⟩ | hs
    · cases hkind
    · exact hs
  refine ⟨?_, ?_, ?_⟩
  · intro hne
    unfold listedTopics at hne ⊢
    cases hlast : lastOf CycleUpdate.topics? (σ.cycles.flatMap CycleInput.pollCycle) with
    | none =>
        rw [hlast] at hne
        exact absurd rfl hne
    | some topics =>
        obtain ⟨c, hc, u, hu, hkind⟩ := exists_cycle_of_lastOf hlast
        exact ⟨c, hc, CycleInput.listsTopics_of_mem (List.mem_filterMap.mpr ⟨u, hu, hkind⟩)⟩
  · intro hne
    unfold listedServices at hne ⊢
    cases hlast : lastOf CycleUpdate.serviceNames? (σ.cycles.flatMap CycleInput.pollCycle) with
    | none =>
        rw [hlast] at hne
        exact absurd rfl hne
    | some serviceNames =>
        obtain ⟨c, hc, u, hu, hkind⟩ := exists_cycle_of_lastOf hlast
        obtain ⟨s, hs, rfl | rfl⟩ := hstate c hc u hu (by cases u <;> first | rfl | cases hkind)
        · exact ⟨c, hc, s, hs, (Option.some.inj hkind).symm⟩
        · cases hkind
  · intro graph hlast
    obtain ⟨c, hc, u, hu, hkind⟩ := exists_cycle_of_lastOf hlast
    obtain ⟨s, hs, rfl | rfl⟩ := hstate c hc u hu (by cases u <;> first | rfl | cases hkind)
    · cases hkind
    · obtain rfl := Option.some.inj hkind
      exact ⟨c, hc, hs⟩

end MirrorState

/-- A bridge that lets everything through. -/
def openConfig : PollConfig := ⟨[fun _ => true], [fun _ => true], true, false⟩

def listsEverything : CycleReplies where
  graphSubscribed := false
  graphSubscribedLater := true
  topicsReply := .answered .invalid (.array [.array [.string "/a", .string "T"]])
  systemStateReply := .answered (.array [.int 1]) (.array [.array [], .array [],
    .array [.array [.string "/s", .array [.string "/node"]]]])

/-- The topic is gone, but the system state has no lists. -/
def listsNothingReadable : CycleReplies where
  graphSubscribed := true
  graphSubscribedLater := true
  topicsReply := .answered .invalid (.array [])
  systemStateReply := .answered (.array [.int 1]) (.int 0)

/-- A client subscribes while the services are updated. -/
def twoCycles : List (MirrorAction openConfig) :=
  [.poll listsEverything,
    .updateAdvertisedTopics [("/a", "T")] (.ofList openConfig.topicWhitelist [("/a", "T")]),
    .topics .lockForRemoval, .topics .unlockAfterRemoval, .topics .releaseSubscriptions,
    .topics .lockForAdvertising, .topics (.advertise none (some 1)),
    .topics .unlockAfterAdvertising, .updateAdvertisedServices, .services .visit,
    .topics (.onSubscribe 1 7 false none 0), .services (.retrieveServiceType (some "S") none),
    .services .insertService, .services (.addToServer true true), .services .visit,
    .publishConnectionGraph, .poll listsNothingReadable]

end FoxgloveBridge
