import FoxgloveBridge.Bridge.Tables
import FoxgloveBridge.Utils

/-!
# Topic reconciliation

`updateAdvertisedTopics` as a whole: a stale channel is removed, a topic nothing
serves gets a channel. The two phases decide "same channel" with different tests
on the optional schema. They agree on a channel that has a schema; a channel
without one is never found by the advertise phase, and the removal phase looks it
up under the empty datatype. So a second update with the same topics changes
nothing precisely when no topic ends up with a channel without schema
(`stable_iff`).
-/

namespace FoxgloveBridge

/-- `latestTopics`: the whitelisted topics as a set, in its iteration order. -/
structure LatestTopics (whitelist : Whitelist) (topics : List TopicAndDatatype) where
  elems : List TopicAndDatatype
  nodup : elems.Nodup
  mem_iff : ∀ topic, topic ∈ elems ↔ topic ∈ topics ∧ matchesRegex topic.1 whitelist = true

/-- The order in which the topics were listed. -/
def LatestTopics.ofList (whitelist : Whitelist) (topics : List TopicAndDatatype) :
    LatestTopics whitelist topics where
  elems := (topics.filter fun topic => matchesRegex topic.1 whitelist).dedup
  nodup := List.nodup_dedup _
  mem_iff topic := by simp [List.mem_filter]

/-- The result of one update: the tables, the channels closed and those created. -/
structure Update where
  tables : Tables
  closed : List ChannelId
  created : List (ChannelId × RawChannel)

variable {whitelist : Whitelist} {topics topics' : List TopicAndDatatype}

/-- `updateAdvertisedTopics`, both phases. -/
def Tables.updateAdvertisedTopics (T : Tables) (latest : LatestTopics whitelist topics)
    (answers : Answers) : Update :=
  let result := (T.removeStale latest.elems).advertise answers latest.elems
  { tables := result.1
    closed := T.channelsToClose latest.elems
    created := result.2 }

/-! ## Removing -/

theorem mem_channelsToClose {T : Tables} {latestTopics : List TopicAndDatatype}
    {channelId : ChannelId} : channelId ∈ T.channelsToClose latestTopics ↔
      T.removes latestTopics channelId = true := by
  simp only [Tables.channelsToClose, List.mem_map, List.mem_filter, removes_iff,
    UnorderedMap.lookup_eq_some_iff]
  constructor
  · rintro ⟨e, ⟨hmem, hstale⟩, rfl⟩
    exact ⟨e.2, hmem, hstale⟩
  · rintro ⟨channel, hmem, hstale⟩
    exact ⟨⟨channelId, channel⟩, ⟨hmem, hstale⟩, rfl⟩

/-- Nothing to close, nothing removed. -/
theorem removeStale_of_channelsToClose_eq_nil {T : Tables} {latestTopics : List TopicAndDatatype}
    (h : T.channelsToClose latestTopics = []) : T.removeStale latestTopics = T := by
  have hnone : ∀ channelId, T.removes latestTopics channelId = false := by
    intro channelId
    rw [Bool.eq_false_iff]
    intro hremoves
    have hmem := mem_channelsToClose.mpr hremoves
    simp [h] at hmem
  have hchannels : UnorderedMap.filter (fun _ channel => !RawChannel.isStale latestTopics channel)
      T.channels = T.channels := by
    apply UnorderedMap.filter_eq_self
    intro e he
    have hkeep := hnone e.1
    rw [Tables.removes, UnorderedMap.lookup_eq_some_iff.mpr he] at hkeep
    simpa using hkeep
  have hsubscriptions : UnorderedMap.filter (fun channelId _ => !T.removes latestTopics channelId)
      T.subscriptions = T.subscriptions :=
    UnorderedMap.filter_eq_self fun e _ => by simp [hnone]
  have hlatched : (T.latchedChannels.filter fun channelId =>
      !T.removes latestTopics channelId) = T.latchedChannels := by
    ext channelId
    simp [hnone]
  rw [Tables.removeStale, hchannels, hsubscriptions, hlatched]

theorem channelsToClose_eq_nil_iff {T : Tables} {latestTopics : List TopicAndDatatype} :
    T.channelsToClose latestTopics = [] ↔
      ∀ channelId channel, T.channels.lookup channelId = some channel →
        channel.isStale latestTopics = false := by
  simp only [List.eq_nil_iff_forall_not_mem, mem_channelsToClose, removes_iff]
  constructor
  · intro h channelId channel hlookup
    rw [Bool.eq_false_iff]
    exact fun hstale => h channelId ⟨channel, hlookup, hstale⟩
  · rintro h channelId ⟨channel, hlookup, hstale⟩
    rw [h channelId channel hlookup] at hstale
    cases hstale

/-- Only the set of latest topics matters. -/
theorem isStale_congr {latestTopics latestTopics' : List TopicAndDatatype}
    (h : ∀ topic, topic ∈ latestTopics' ↔ topic ∈ latestTopics) (channel : RawChannel) :
    channel.isStale latestTopics' = channel.isStale latestTopics := by
  simp only [RawChannel.isStale, List.contains_eq_mem, h]

/-- The removal phase keeps a channel that serves one of the topics. -/
theorem isStale_of_serves {channel : RawChannel} {topic : TopicAndDatatype}
    {latestTopics : List TopicAndDatatype} (hserves : channel.serves topic = true)
    (ht : topic ∈ latestTopics) : channel.isStale latestTopics = false := by
  obtain ⟨htopic, schema, hschema, hname⟩ := serves_iff.mp hserves
  have heq : (channel.topic, channel.schemaName) = topic := by
    simp [RawChannel.schemaName, hschema, htopic, hname]
  simpa [RawChannel.isStale, heq] using ht

theorem advertises_removeStale_iff {T : Tables} {topic : TopicAndDatatype}
    {latestTopics : List TopicAndDatatype} (ht : topic ∈ latestTopics) :
    (T.removeStale latestTopics).advertises topic = true ↔ T.advertises topic = true := by
  rw [advertises_iff, advertises_iff]
  constructor
  · rintro ⟨channelId, channel, hlookup, hserves⟩
    exact ⟨channelId, channel, (lookup_removeStale_channels.mp hlookup).1, hserves⟩
  · rintro ⟨channelId, channel, hlookup, hserves⟩
    exact ⟨channelId, channel,
      lookup_removeStale_channels.mpr ⟨hlookup, isStale_of_serves hserves ht⟩, hserves⟩

/-- A channel created for a topic survives the removal phase, unless it has no
schema and the topic is not listed without a datatype. -/
theorem isStale_channel_iff {answers : Answers} {topic : TopicAndDatatype}
    {latestTopics : List TopicAndDatatype} (ht : topic ∈ latestTopics) :
    (answers.channel topic).isStale latestTopics = false ↔
      (answers.getMessageDescription topic.2).isSome ∨ (topic.1, "") ∈ latestTopics := by
  cases h : answers.getMessageDescription topic.2 with
  | none => simp [RawChannel.isStale, RawChannel.schemaName, Answers.channel, h]
  | some definition =>
      have hserves : (answers.channel topic).serves topic = true :=
        channel_serves_iff.mpr (by rw [h]; rfl)
      have hstale := isStale_of_serves hserves ht
      simp [hstale]

/-! ## Updating twice -/

/-- The second update closes nothing, creates nothing and leaves every table as
the first one left it. -/
def Stable (first second : Update) : Prop :=
  second.closed = [] ∧ second.created = [] ∧ second.tables = first.tables

/-- What the two updates have to meet for one topic: a channel with a schema, or
no channel at all. -/
def Settled (T : Tables) (latestTopics : List TopicAndDatatype) (answers answers' : Answers)
    (topic : TopicAndDatatype) : Prop :=
  T.advertises topic = true ∨
    match answers.create topic with
    | none => answers'.create topic = none
    | some _ =>
        (answers.getMessageDescription topic.2).isSome ∨
          ((topic.1, "") ∈ latestTopics ∧ answers'.create topic = none)

/-- Ids that are new to the tables are new to what the removal phase leaves. -/
theorem freshIds_removeStale {T : Tables} {latestTopics : List TopicAndDatatype}
    {answers : Answers} (h : FreshIds (· ∈ T.channels) latestTopics answers) :
    FreshIds (· ∈ (T.removeStale latestTopics).channels) latestTopics answers where
  unused topic ht channelId hcreate hused :=
    h.unused topic ht channelId hcreate (mem_removeStale_channels.mp hused).1
  distinct := h.distinct

/-- What serves a topic after an update: a channel from before, or one created
for the topic with its definition. -/
theorem advertises_update_iff {T : Tables} (latest : LatestTopics whitelist topics)
    {answers : Answers} (hfresh : FreshIds (· ∈ T.channels) latest.elems answers)
    {topic : TopicAndDatatype} (ht : topic ∈ latest.elems) :
    (T.updateAdvertisedTopics latest answers).tables.advertises topic = true ↔
      T.advertises topic = true ∨
        ((answers.create topic).isSome ∧ (answers.getMessageDescription topic.2).isSome) := by
  constructor
  · intro hadv
    obtain ⟨channelId, channel, hlookup, hserves⟩ := advertises_iff.mp hadv
    rcases of_lookup_advertise hlookup with hbefore | hcreated
    · exact .inl (advertises_iff.mpr
        ⟨channelId, channel, (lookup_removeStale_channels.mp hbefore).1, hserves⟩)
    · -- a channel created for another topic does not serve this one
      obtain ⟨other, -, -, hcreate, rfl⟩ := of_mem_created hcreated
      obtain rfl := eq_of_channel_serves hserves
      exact .inr ⟨by rw [hcreate]; rfl, channel_serves_iff.mp hserves⟩
  · rintro (hadv | ⟨hcreate, hdefinition⟩)
    · exact advertises_of_lookup_le (fun _ _ h => lookup_advertise_of_lookup _ h)
        ((advertises_removeStale_iff ht).mpr hadv)
    · by_cases hadv : (T.removeStale latest.elems).advertises topic = true
      · exact advertises_of_lookup_le (fun _ _ h => lookup_advertise_of_lookup _ h) hadv
      · obtain ⟨channelId, hcreate⟩ := Option.isSome_iff_exists.mp hcreate
        have hmem := mem_created latest.nodup ht (Bool.eq_false_iff.mpr hadv) hcreate
        have hlookup :=
          lookup_advertise_of_mem_created latest.nodup (freshIds_removeStale hfresh) hmem
        exact advertises_iff.mpr ⟨channelId, _, hlookup, channel_serves_iff.mpr hdefinition⟩

/-- What is stale after an update: channels it created without a schema. -/
theorem channelsToClose_update_eq_nil_iff {T : Tables} (latest : LatestTopics whitelist topics)
    {answers : Answers} (hfresh : FreshIds (· ∈ T.channels) latest.elems answers) :
    (T.updateAdvertisedTopics latest answers).tables.channelsToClose latest.elems = [] ↔
      ∀ topic ∈ latest.elems, T.advertises topic = true ∨ answers.create topic = none ∨
        (answers.getMessageDescription topic.2).isSome ∨ (topic.1, "") ∈ latest.elems := by
  rw [channelsToClose_eq_nil_iff]
  constructor
  · intro h topic ht
    by_cases hadv : (T.removeStale latest.elems).advertises topic = true
    · exact .inl ((advertises_removeStale_iff ht).mp hadv)
    · cases hcreate : answers.create topic with
      | none => exact .inr (.inl rfl)
      | some channelId =>
          have hmem := mem_created latest.nodup ht (Bool.eq_false_iff.mpr hadv) hcreate
          have hlookup :=
            lookup_advertise_of_mem_created latest.nodup (freshIds_removeStale hfresh) hmem
          exact .inr (.inr ((isStale_channel_iff ht).mp (h channelId _ hlookup)))
  · intro h channelId channel hlookup
    rcases of_lookup_advertise hlookup with hbefore | hcreated
    · -- it survived the removal phase of the first update
      exact (lookup_removeStale_channels.mp hbefore).2
    · obtain ⟨topic, ht, hadv, hcreate, rfl⟩ := of_mem_created hcreated
      have hnot : ¬ T.advertises topic = true := fun htrue =>
        Bool.eq_false_iff.mp hadv ((advertises_removeStale_iff ht).mpr htrue)
      have hclosed := ((h topic ht).resolve_left hnot).resolve_left (by simp [hcreate])
      exact (isStale_channel_iff ht).mpr hclosed

/-- Being stable, phase by phase. -/
theorem stable_iff_phases {T : Tables} (latest : LatestTopics whitelist topics)
    {answers' : Answers} {first : Update} (hfirst : first.tables = T) :
    Stable first (T.updateAdvertisedTopics latest answers') ↔
      T.channelsToClose latest.elems = [] ∧
        ∀ topic ∈ latest.elems, T.advertises topic = true ∨ answers'.create topic = none := by
  constructor
  · rintro ⟨hclosed, hcreated, -⟩
    refine ⟨hclosed, ?_⟩
    rw [← created_eq_nil_iff]
    simpa [Tables.updateAdvertisedTopics, removeStale_of_channelsToClose_eq_nil hclosed]
      using hcreated
  · rintro ⟨hclosed, hserved⟩
    -- both phases are the identity, so the tables are
    have hcreated := created_eq_nil_iff.mpr hserved
    refine ⟨hclosed, ?_, ?_⟩
    · simpa [Tables.updateAdvertisedTopics, removeStale_of_channelsToClose_eq_nil hclosed]
        using hcreated
    · simp [Tables.updateAdvertisedTopics, removeStale_of_channelsToClose_eq_nil hclosed,
        advertise_of_created_eq_nil hcreated, hfirst]

/-- A topic is settled if no phase of the second update touches it. -/
theorem settled_iff {T : Tables} {latestTopics : List TopicAndDatatype}
    {answers answers' : Answers} {topic : TopicAndDatatype} :
    Settled T latestTopics answers answers' topic ↔
      (T.advertises topic = true ∨ answers.create topic = none ∨
        (answers.getMessageDescription topic.2).isSome ∨ (topic.1, "") ∈ latestTopics) ∧
      ((T.advertises topic = true ∨
        ((answers.create topic).isSome ∧ (answers.getMessageDescription topic.2).isSome)) ∨
          answers'.create topic = none) := by
  unfold Settled
  cases answers.create topic with
  | none => simp
  | some channelId =>
      simp only [reduceCtorEq, false_or, Option.isSome_some, true_and]
      tauto

/-- **Stability of topic reconciliation.** A second update with the same topics
is the identity if and only if every whitelisted topic is settled: served before,
or created with its definition, or left without a channel by both updates. -/
theorem stable_iff (T : Tables) (latest : LatestTopics whitelist topics)
    (latest' : LatestTopics whitelist topics') (hsame : ∀ topic, topic ∈ topics ↔ topic ∈ topics')
    (answers answers' : Answers) (hfresh : FreshIds (· ∈ T.channels) latest.elems answers) :
    Stable (T.updateAdvertisedTopics latest answers)
        ((T.updateAdvertisedTopics latest answers).tables.updateAdvertisedTopics latest' answers') ↔
      ∀ topic ∈ latest.elems, Settled T latest.elems answers answers' topic := by
  have helems : ∀ topic, topic ∈ latest'.elems ↔ topic ∈ latest.elems := fun topic => by
    rw [latest'.mem_iff, latest.mem_iff, hsame]
  have hclose :
      (T.updateAdvertisedTopics latest answers).tables.channelsToClose latest'.elems = [] ↔
        (T.updateAdvertisedTopics latest answers).tables.channelsToClose latest.elems = [] := by
    simp only [channelsToClose_eq_nil_iff, isStale_congr helems]
  rw [stable_iff_phases latest' rfl, hclose, channelsToClose_update_eq_nil_iff latest hfresh]
  constructor
  · rintro ⟨hclosed, hcreated⟩ topic ht
    have hserved := hcreated topic ((helems topic).mpr ht)
    rw [advertises_update_iff latest hfresh ht] at hserved
    exact settled_iff.mpr ⟨hclosed topic ht, hserved⟩
  · intro h
    refine ⟨fun topic ht => (settled_iff.mp (h topic ht)).1, fun topic ht => ?_⟩
    have ht := (helems topic).mp ht
    rw [advertises_update_iff latest hfresh ht]
    exact (settled_iff.mp (h topic ht)).2

/-- With its definition at hand, a topic is advertised once and for all. -/
theorem stable_with_definition :
    let answers (channelId : ChannelId) : Answers :=
      { getMessageDescription := fun _ => some [115], create := fun _ => some channelId }
    let latest := LatestTopics.ofList [fun _ => true] [("/chatter", "std_msgs/String")]
    Stable (Tables.empty.updateAdvertisedTopics latest (answers 1))
      ((Tables.empty.updateAdvertisedTopics latest (answers 1)).tables.updateAdvertisedTopics
        latest (answers 2)) := by
  intro answers latest
  have hfresh : FreshIds (· ∈ Tables.empty.channels) latest.elems (answers 1) := by
    constructor
    · intro topic _ channelId _ hused
      exact absurd hused (AList.notMem_empty channelId)
    · intro topic ht other hother _ _ _
      simp [latest, LatestTopics.ofList, matchesRegex] at ht hother
      rw [ht, hother]
  refine (stable_iff Tables.empty latest latest (fun _ => Iff.rfl) (answers 1) (answers 2)
    hfresh).mpr ?_
  exact fun topic _ => .inr (.inl rfl)

/-- **A channel that does not stay.** Without a definition for its type, the topic's
channel is closed by the second update and created again under another id. -/
theorem not_stable_without_definition :
    let answers (channelId : ChannelId) : Answers :=
      { getMessageDescription := fun _ => none, create := fun _ => some channelId }
    let latest := LatestTopics.ofList [fun _ => true] [("/chatter", "my_msgs/Custom")]
    ¬ Stable (Tables.empty.updateAdvertisedTopics latest (answers 1))
      ((Tables.empty.updateAdvertisedTopics latest (answers 1)).tables.updateAdvertisedTopics
        latest (answers 2)) := by
  rintro answers latest ⟨hclosed, -, -⟩
  have hfirst : ((Tables.empty.updateAdvertisedTopics latest
      (answers 1)).tables.updateAdvertisedTopics latest (answers 2)).closed = [1] := by
    decide
  rw [hfirst] at hclosed
  cases hclosed

end FoxgloveBridge
