import FoxgloveBridge.Bridge.Reconcile
import FoxgloveBridge.Ros.XmlRpc
import Mathlib.Data.Finset.Dedup
import Mathlib.Data.List.Forall2
import Mathlib.Data.List.Induction

/-!
# The replies of the master

A cycle of `pollThread` reads the reply to `getPublishedTopics`, then the reply to
`getSystemState` if the services or the connection graph need it, and then makes its
updates. An accessor throws on a malformed reply; the exception leaves the whole `try`
block, and the updates are all behind both replies.

So an update only ever gets a complete list. But a malformed system state also takes the
topics with it, whose reply was fine (`applied_iff`).
-/

namespace FoxgloveBridge

/-- What comes back from `ros::master::execute`, if it succeeds. -/
inductive MasterReply
  | failed
  | answered (result payload : XmlRpcValue)

/-! ## Reading a reply -/

/-- A loop that appends what it reads at each index. -/
def readEach {α : Type} (read : Nat → Except String α) : Nat → Except String (List α)
  | 0 => .ok []
  | n + 1 => do
      let done ← readEach read n
      let value ← read n
      return done ++ [value]

/-- A loop over the items of a value, up to its size. -/
def readItems {α : Type} (isConst : Bool) (read : XmlRpcValue → Except String α)
    (v : XmlRpcValue) : Except String (List α) := do
  let n ← v.size
  readEach (fun i => do read (← v.subscript isConst i)) n

/-- `std::string(payload[i][0])` and `std::string(payload[i][1])`. -/
def readTopic (item : XmlRpcValue) : Except String TopicAndDatatype := do
  let name ← (← item.subscript false 0).toText false
  let datatype ← (← item.subscript false 1).toText false
  return (name, datatype)

/-- `rpcValueToStringSet`. -/
def rpcValueToStringSet (v : XmlRpcValue) : Except String (Finset String) := do
  let names ← readItems true (XmlRpcValue.toText true) v
  return names.toFinset

/-- One entry of the system state: a name with its nodes, unless the name is filtered. -/
def readEntry (whitelist : Whitelist) (item : XmlRpcValue) :
    Except String (Option (String × Finset String)) := do
  let name ← (← item.subscript true 0).toText true
  if matchesRegex name whitelist then
    let nodes ← rpcValueToStringSet (← item.subscript true 1)
    return some (name, nodes)
  else return none

/-- One of the three lists of the system state. -/
def readEntries (whitelist : Whitelist) (v : XmlRpcValue) :
    Except String (List (String × Finset String)) := do
  let entries ← readItems true (readEntry whitelist) v
  return entries.reduceOption

/-- What the cycle keeps of the system state: the lists that go into the connection graph,
the last of which also has the service names. -/
structure SystemState where
  publishedTopics : List (String × Finset String)
  subscribedTopics : List (String × Finset String)
  advertisedServices : List (String × Finset String)
  deriving DecidableEq

def SystemState.serviceNames (s : SystemState) : List String :=
  s.advertisedServices.map Prod.fst

section Replies

variable (topicWhitelist serviceWhitelist : Whitelist)

/-- The topics of `getPublishedTopics`; none if the query failed. -/
def retrieveTopics : MasterReply → Except String (Option (List TopicAndDatatype))
  | .failed => .ok none
  | .answered _ payload => do
      let topics ← readItems false readTopic payload
      return some topics

/-- The three lists of `getSystemState`. A payload with fewer lists grows, by lists that have no
size, and the first of them throws when it is read. That is so of the model only: in the source
the payload grows under the references to its first lists, which is undefined behaviour. -/
def readSystemState (payload : XmlRpcValue) : Except String SystemState := do
  let publishers ← payload.subscript false 0
  let subscribers ← payload.subscript false 1
  let services ← payload.subscript false 2
  let publishedTopics ← readEntries topicWhitelist publishers
  let subscribedTopics ← readEntries topicWhitelist subscribers
  let advertisedServices ← readEntries serviceWhitelist services
  return ⟨publishedTopics, subscribedTopics, advertisedServices⟩

/-- The state of `getSystemState`; none if the query failed. -/
def retrieveSystemState : MasterReply → Except String (Option SystemState)
  | .failed => .ok none
  | .answered result payload => do
      let status ← (← result.subscript false 0).toInt
      if status = 1 then
        let state ← readSystemState topicWhitelist serviceWhitelist payload
        return some state
      else return none

end Replies

/-! ## The cycle -/

inductive CycleUpdate
  | updateAdvertisedTopics (topics : List TopicAndDatatype)
  | updateAdvertisedServices (serviceNames : List String)
  | publishConnectionGraph (connectionGraph : SystemState)
  deriving DecidableEq

/-- What one cycle meets. -/
structure CycleInput where
  topicWhitelist : Whitelist
  serviceWhitelist : Whitelist
  servicesEnabled : Bool
  /-- There is a graph subscriber when the cycle decides what to query. -/
  graphSubscribed : Bool
  /-- There is one when the graph would be published. -/
  graphSubscribedLater : Bool
  topicsReply : MasterReply
  systemStateReply : MasterReply
  /-- The updates that throw. -/
  throws : CycleUpdate → Bool

/-- The updates one after another, until one throws. -/
def performed (throws : CycleUpdate → Bool) : List CycleUpdate → List CycleUpdate
  | [] => []
  | u :: rest => if throws u then [u] else u :: performed throws rest

namespace CycleInput

variable (c : CycleInput)

def querySystemState : Bool := c.servicesEnabled || c.graphSubscribed

/-- The updates behind the three flags, in their order. -/
def updates (topics : Option (List TopicAndDatatype)) (state : Option SystemState) :
    List CycleUpdate :=
  (topics.map .updateAdvertisedTopics).toList ++
    (if c.servicesEnabled then
      (state.map fun s => .updateAdvertisedServices s.serviceNames).toList else []) ++
    (if c.graphSubscribedLater then (state.map .publishConnectionGraph).toList else [])

/-- The updates the `try` block makes; whatever it throws is caught behind it. -/
def pollCycle : List CycleUpdate :=
  let state := if c.querySystemState then
    retrieveSystemState c.topicWhitelist c.serviceWhitelist c.systemStateReply else .ok none
  match retrieveTopics c.topicsReply, state with
  | .ok topics, .ok state => performed c.throws (c.updates topics state)
  | _, _ => []

end CycleInput

/-! ## What the loops accept -/

theorem bind_eq_ok_iff {ε α β : Type*} {x : Except ε α} {f : α → Except ε β} {b : β} :
    x.bind f = .ok b ↔ ∃ a, x = .ok a ∧ f a = .ok b := by
  cases x with
  | error e => simp [Except.bind]
  | ok a => simp [Except.bind]

section Loops

variable {α : Type}

theorem readEach_succ_eq_ok_iff {read : Nat → Except String α} {n : Nat} {xs : List α} :
    readEach read (n + 1) = .ok xs ↔
      ∃ done value, readEach read n = .ok done ∧ read n = .ok value ∧ xs = done ++ [value] := by
  show (readEach read n).bind (fun done => (read n).bind fun value => .ok (done ++ [value])) =
    .ok xs ↔ _
  simp only [bind_eq_ok_iff, Except.ok.injEq]
  constructor
  · rintro ⟨done, hdone, value, hvalue, rfl⟩
    exact ⟨done, value, hdone, hvalue, rfl⟩
  · rintro ⟨done, value, hdone, hvalue, rfl⟩
    exact ⟨done, hdone, value, hvalue, rfl⟩

theorem readEach_congr {read read' : Nat → Except String α} {n : Nat}
    (h : ∀ i, i < n → read i = read' i) : readEach read n = readEach read' n := by
  induction n with
  | zero => rfl
  | succ n ih =>
      have hbefore : ∀ i, i < n → read i = read' i := fun i hi => h i (by omega)
      rw [readEach, readEach, ih hbefore, h n (by omega)]

theorem forall₂_append_singleton_left_iff {β γ : Type*} {R : β → γ → Prop} {vs : List β} {v : β}
    {xs : List γ} : List.Forall₂ R (vs ++ [v]) xs ↔
      ∃ done value, List.Forall₂ R vs done ∧ R v value ∧ xs = done ++ [value] := by
  constructor
  · intro h
    rw [← List.forall₂_reverse_iff, List.reverse_append, List.reverse_singleton,
      List.singleton_append, List.forall₂_cons_left_iff] at h
    obtain ⟨value, done, hvalue, hdone, hxs⟩ := h
    refine ⟨done.reverse, value, ?_, hvalue, ?_⟩
    · rw [← List.forall₂_reverse_iff, List.reverse_reverse]
      exact hdone
    · rw [← List.reverse_reverse xs, hxs, List.reverse_cons]
  · rintro ⟨done, value, hdone, hvalue, rfl⟩
    exact List.rel_append hdone (.cons hvalue .nil)

/-- The loop over an array reads each item, in order. -/
theorem readEach_array_eq_ok_iff (isConst : Bool) (read : XmlRpcValue → Except String α)
    (vs : List XmlRpcValue) {xs : List α} :
    readEach (fun i => ((XmlRpcValue.array vs).subscript isConst i).bind read) vs.length = .ok xs ↔
      List.Forall₂ (fun item x => read item = .ok x) vs xs := by
  induction vs using List.reverseRecOn generalizing xs with
  | nil =>
      show Except.ok [] = Except.ok xs ↔ _
      rw [List.forall₂_nil_left_iff, Except.ok.injEq, eq_comm]
  | append_singleton vs v ih =>
      have hbefore : readEach (fun i =>
          ((XmlRpcValue.array (vs ++ [v])).subscript isConst i).bind read) vs.length =
          readEach (fun i => ((XmlRpcValue.array vs).subscript isConst i).bind read) vs.length := by
        refine readEach_congr fun i hi => ?_
        simp only [XmlRpcValue.subscript, List.getElem?_append_left hi]
      have hlast : (XmlRpcValue.array (vs ++ [v])).subscript isConst vs.length = .ok v := by
        simp [XmlRpcValue.subscript]
      rw [List.length_append, List.length_singleton, readEach_succ_eq_ok_iff, hbefore, hlast,
        forall₂_append_singleton_left_iff]
      simp only [ih]
      rfl

/-- A loop over a value that is no array throws at its first index, if it has one. -/
theorem readEach_eq_ok_iff_of_error {read : Nat → Except String α}
    (h : ∀ i xs, read i ≠ .ok xs) {n : Nat} {xs : List α} :
    readEach read n = .ok xs ↔ n = 0 ∧ xs = [] := by
  cases n with
  | zero =>
      show Except.ok [] = Except.ok xs ↔ _
      simp [eq_comm]
  | succ n =>
      rw [readEach_succ_eq_ok_iff]
      constructor
      · rintro ⟨done, value, -, hvalue, -⟩
        exact absurd hvalue (h n value)
      · rintro ⟨hzero, -⟩
        cases hzero

/-- A loop over the items of a value reads all of them, or throws. -/
theorem readItems_eq_ok_iff {isConst : Bool} {read : XmlRpcValue → Except String α}
    {v : XmlRpcValue} {xs : List α} : readItems isConst read v = .ok xs ↔
      ∃ vs, v.items = some vs ∧ List.Forall₂ (fun item x => read item = .ok x) vs xs := by
  have hloop : readItems isConst read v = .ok xs ↔ ∃ n, v.size = .ok n ∧
      readEach (fun i => (v.subscript isConst i).bind read) n = .ok xs := bind_eq_ok_iff
  rw [hloop]
  -- a value with a size that is no array only goes through if it is empty
  have hempty : ∀ n, v.size = .ok n → (∀ i w, v.subscript isConst i ≠ .ok w) →
      (v.items = if n = 0 then some [] else none) →
      ((∃ n, v.size = .ok n ∧
          readEach (fun i => (v.subscript isConst i).bind read) n = .ok xs) ↔
        ∃ vs, v.items = some vs ∧ List.Forall₂ (fun item x => read item = .ok x) vs xs) := by
    intro n hsize hthrows hitems
    have hnone : ∀ i x, (v.subscript isConst i).bind read ≠ .ok x := by
      intro i x heq
      obtain ⟨w, hw, -⟩ := bind_eq_ok_iff.mp heq
      exact hthrows i w hw
    simp only [hsize, Except.ok.injEq, exists_eq_left', readEach_eq_ok_iff_of_error hnone, hitems]
    by_cases hn : n = 0 <;> simp [hn, List.forall₂_nil_left_iff]
  cases v with
  | array vs =>
      simp only [XmlRpcValue.size, XmlRpcValue.items, Except.ok.injEq, Option.some.injEq,
        exists_eq_left', readEach_array_eq_ok_iff]
  | string s =>
      refine hempty s.utf8ByteSize rfl (fun _ _ => nofun) ?_
      simp only [XmlRpcValue.items, String.utf8ByteSize_eq_zero_iff]
  | base64 data =>
      refine hempty data.length rfl (fun _ _ => nofun) ?_
      simp only [XmlRpcValue.items, List.length_eq_zero_iff]
  | struct ms =>
      refine hempty ms.length rfl (fun _ _ => nofun) ?_
      simp only [XmlRpcValue.items, List.isEmpty_iff, List.length_eq_zero_iff]
  | invalid | boolean | int | double | dateTime => simp [XmlRpcValue.size, XmlRpcValue.items]

end Loops

/-! ## Well-formed replies -/

/-- The reply lists these topics, one for each item of the payload. -/
def MasterReply.ListsTopics (reply : MasterReply) (topics : List TopicAndDatatype) : Prop :=
  ∃ result payload items, reply = .answered result payload ∧ payload.items = some items ∧
    List.Forall₂ (fun item topic => readTopic item = .ok topic) items topics

/-- The item names something, with the strings of its second element as its nodes if the
name is not filtered. -/
def ListsEntry (whitelist : Whitelist) (item : XmlRpcValue)
    (entry : Option (String × Finset String)) : Prop :=
  ∃ name rest, item = .array (.string name :: rest) ∧
    if matchesRegex name whitelist then
      ∃ nodes more, ∃ names : List String, rest = nodes :: more ∧
        nodes.items = some (names.map XmlRpcValue.string) ∧
        entry = some (name, names.toFinset)
    else entry = none

/-- The entries that are not filtered, out of all items of the list. -/
def ListsEntries (whitelist : Whitelist) (v : XmlRpcValue)
    (entries : List (String × Finset String)) : Prop :=
  ∃ items all, v.items = some items ∧ List.Forall₂ (ListsEntry whitelist) items all ∧
    entries = all.reduceOption

/-- The status code of a response. -/
def statusCode : XmlRpcValue → Option Int32
  | .array (.int code :: _) => some code
  | .array (.invalid :: _) | .array [] | .invalid => some 0
  | _ => none

/-- The three lists of the reply, complete and filtered. -/
def MasterReply.ListsSystemState (topicWhitelist serviceWhitelist : Whitelist)
    (reply : MasterReply) (s : SystemState) : Prop :=
  ∃ result publishers subscribers services rest,
    reply = .answered result (.array (publishers :: subscribers :: services :: rest)) ∧
    statusCode result = some 1 ∧ ListsEntries topicWhitelist publishers s.publishedTopics ∧
    ListsEntries topicWhitelist subscribers s.subscribedTopics ∧
    ListsEntries serviceWhitelist services s.advertisedServices

/-- The query failed, or the reply says so. -/
def MasterReply.Failed (reply : MasterReply) : Prop :=
  reply = .failed ∨ ∃ result payload code, reply = .answered result payload ∧
    statusCode result = some code ∧ code ≠ 1

theorem retrieveTopics_eq_some_iff {reply : MasterReply} {topics : List TopicAndDatatype} :
    retrieveTopics reply = .ok (some topics) ↔ reply.ListsTopics topics := by
  cases reply with
  | failed => simp [retrieveTopics, MasterReply.ListsTopics]
  | answered result payload =>
      have hread : retrieveTopics (.answered result payload) = .ok (some topics) ↔
          readItems false readTopic payload = .ok topics := by
        show (readItems false readTopic payload).bind (fun topics => .ok (some topics)) = _ ↔ _
        simp [bind_eq_ok_iff]
      rw [hread, readItems_eq_ok_iff]
      constructor
      · rintro ⟨items, hitems, hall⟩
        exact ⟨result, payload, items, rfl, hitems, hall⟩
      · rintro ⟨_, _, items, heq, hitems, hall⟩
        cases heq
        exact ⟨items, hitems, hall⟩

theorem retrieveTopics_eq_none_iff {reply : MasterReply} :
    retrieveTopics reply = .ok none ↔ reply = .failed := by
  cases reply with
  | failed => simp [retrieveTopics]
  | answered result payload =>
      show (readItems false readTopic payload).bind (fun topics => .ok (some topics)) = _ ↔ _
      simp [bind_eq_ok_iff]

theorem toText_const_eq_ok_iff {v : XmlRpcValue} {s : String} :
    v.toText true = .ok s ↔ v = .string s := by
  cases v <;> simp [XmlRpcValue.toText]

/-- A const value only has elements if it is an array that is long enough. -/
theorem subscript_const_eq_ok_iff {v w : XmlRpcValue} {i : Nat} :
    v.subscript true i = .ok w ↔ ∃ vs, v = .array vs ∧ vs[i]? = some w := by
  cases v with
  | array vs => cases h : vs[i]? <;> simp [XmlRpcValue.subscript, h]
  | _ => simp [XmlRpcValue.subscript]

theorem rpcValueToStringSet_eq_ok_iff {v : XmlRpcValue} {nodes : Finset String} :
    rpcValueToStringSet v = .ok nodes ↔
      ∃ names : List String, v.items = some (names.map XmlRpcValue.string) ∧
        nodes = names.toFinset := by
  have hread : rpcValueToStringSet v = .ok nodes ↔
      ∃ names, readItems true (XmlRpcValue.toText true) v = .ok names ∧
        Except.ok names.toFinset = (Except.ok nodes : Except String _) := bind_eq_ok_iff
  rw [hread]
  refine exists_congr fun names => and_congr ?_ (by rw [Except.ok.injEq, eq_comm])
  have hstrings : ∀ vs : List XmlRpcValue,
      List.Forall₂ (fun item x => XmlRpcValue.toText true item = .ok x) vs names ↔
        vs = names.map XmlRpcValue.string := by
    intro vs
    simp only [toText_const_eq_ok_iff]
    rw [← List.forall₂_map_right_iff (R := Eq), List.forall₂_eq_eq_eq]
  simp only [readItems_eq_ok_iff, hstrings]
  exact ⟨fun ⟨vs, hitems, hvs⟩ => hvs ▸ hitems, fun hitems => ⟨_, hitems, rfl⟩⟩

theorem readEntry_eq_ok_iff {whitelist : Whitelist} {item : XmlRpcValue}
    {entry : Option (String × Finset String)} :
    readEntry whitelist item = .ok entry ↔ ListsEntry whitelist item entry := by
  have hread : readEntry whitelist item = .ok entry ↔
      ∃ first, item.subscript true 0 = .ok first ∧ ∃ name, first.toText true = .ok name ∧
        (if matchesRegex name whitelist then
            (item.subscript true 1).bind fun second =>
              (rpcValueToStringSet second).bind fun nodes => .ok (some (name, nodes))
          else .ok none) = Except.ok entry := by
    unfold readEntry
    refine bind_eq_ok_iff.trans (exists_congr fun first => and_congr_right fun _ => ?_)
    exact bind_eq_ok_iff
  rw [hread]
  constructor
  · rintro ⟨first, hfirst, name, hname, hentry⟩
    obtain ⟨vs, rfl, hhead⟩ := subscript_const_eq_ok_iff.mp hfirst
    obtain rfl := toText_const_eq_ok_iff.mp hname
    cases vs with
    | nil => cases hhead
    | cons v rest =>
        obtain rfl := Option.some.inj hhead
        refine ⟨name, rest, rfl, ?_⟩
        by_cases hmatches : matchesRegex name whitelist = true
        · rw [if_pos hmatches] at hentry ⊢
          obtain ⟨nodesV, hsecond, hnodes⟩ := bind_eq_ok_iff.mp hentry
          obtain ⟨nodes, hset, hsome⟩ := bind_eq_ok_iff.mp hnodes
          obtain ⟨names, hitems, rfl⟩ := rpcValueToStringSet_eq_ok_iff.mp hset
          obtain ⟨_, heq, hnext⟩ := subscript_const_eq_ok_iff.mp hsecond
          cases heq
          cases rest with
          | nil => cases hnext
          | cons w more =>
              obtain rfl := Option.some.inj hnext
              exact ⟨w, more, names, rfl, hitems, (Except.ok.inj hsome).symm⟩
        · rw [if_neg hmatches] at hentry ⊢
          exact (Except.ok.inj hentry).symm
  · rintro ⟨name, rest, rfl, hentry⟩
    refine ⟨.string name, rfl, name, rfl, ?_⟩
    by_cases hmatches : matchesRegex name whitelist = true
    · rw [if_pos hmatches] at hentry ⊢
      obtain ⟨nodesV, more, names, rfl, hitems, rfl⟩ := hentry
      have hset := rpcValueToStringSet_eq_ok_iff.mpr ⟨names, hitems, rfl⟩
      show (rpcValueToStringSet nodesV).bind _ = _
      rw [hset]
      rfl
    · rw [if_neg hmatches] at hentry ⊢
      rw [hentry]

theorem readEntries_eq_ok_iff {whitelist : Whitelist} {v : XmlRpcValue}
    {entries : List (String × Finset String)} :
    readEntries whitelist v = .ok entries ↔ ListsEntries whitelist v entries := by
  have hread : readEntries whitelist v = .ok entries ↔
      ∃ all, readItems true (readEntry whitelist) v = .ok all ∧
        Except.ok all.reduceOption = (Except.ok entries : Except String _) := bind_eq_ok_iff
  rw [hread]
  simp only [readItems_eq_ok_iff, readEntry_eq_ok_iff, Except.ok.injEq]
  constructor
  · rintro ⟨all, ⟨items, hitems, hall⟩, rfl⟩
    exact ⟨items, all, hitems, hall, rfl⟩
  · rintro ⟨items, all, hitems, hall, rfl⟩
    exact ⟨all, ⟨items, hitems, hall⟩, rfl⟩

/-- An invalid list has no size. -/
theorem not_listsEntries_invalid {whitelist : Whitelist}
    {entries : List (String × Finset String)} : ¬ ListsEntries whitelist .invalid entries := by
  rintro ⟨items, all, hitems, -, -⟩
  cases hitems

/-- What a value that may grow has at an index was there before, unless it is invalid. -/
theorem subscript_eq_ok_of_ne_invalid {v w : XmlRpcValue} {i : Nat}
    (h : v.subscript false i = .ok w) (hw : w ≠ .invalid) :
    ∃ vs, v = .array vs ∧ vs[i]? = some w := by
  cases v with
  | invalid => exact absurd (Except.ok.inj h).symm hw
  | array vs =>
      refine ⟨vs, rfl, ?_⟩
      simp only [XmlRpcValue.subscript] at h
      split at h
      · rename_i found hfound
        rw [hfound, Except.ok.inj h]
      · exact absurd (Except.ok.inj h).symm hw
  | _ => cases h

section Replies

variable {topicWhitelist serviceWhitelist : Whitelist}

theorem readSystemState_eq_ok_iff {payload : XmlRpcValue} {s : SystemState} :
    readSystemState topicWhitelist serviceWhitelist payload = .ok s ↔
      ∃ publishers subscribers services rest,
        payload = .array (publishers :: subscribers :: services :: rest) ∧
        ListsEntries topicWhitelist publishers s.publishedTopics ∧
        ListsEntries topicWhitelist subscribers s.subscribedTopics ∧
        ListsEntries serviceWhitelist services s.advertisedServices := by
  constructor
  · intro h
    obtain ⟨p, hp, h⟩ := bind_eq_ok_iff.mp h
    obtain ⟨q, hq, h⟩ := bind_eq_ok_iff.mp h
    obtain ⟨r, hr, h⟩ := bind_eq_ok_iff.mp h
    obtain ⟨published, hpublished, h⟩ := bind_eq_ok_iff.mp h
    obtain ⟨subscribed, hsubscribed, h⟩ := bind_eq_ok_iff.mp h
    obtain ⟨advertised, hadvertised, h⟩ := bind_eq_ok_iff.mp h
    obtain rfl := Except.ok.inj h
    rw [readEntries_eq_ok_iff] at hpublished hsubscribed hadvertised
    -- each list was there, since it has a size
    have hvalid : ∀ {v whitelist entries}, ListsEntries whitelist v entries → v ≠ .invalid := by
      rintro _ _ _ hlists rfl
      exact not_listsEntries_invalid hlists
    obtain ⟨vs, rfl, h0⟩ := subscript_eq_ok_of_ne_invalid hp (hvalid hpublished)
    obtain ⟨_, heq, h1⟩ := subscript_eq_ok_of_ne_invalid hq (hvalid hsubscribed)
    cases heq
    obtain ⟨_, heq, h2⟩ := subscript_eq_ok_of_ne_invalid hr (hvalid hadvertised)
    cases heq
    match vs, h0, h1, h2 with
    | a :: b :: c :: rest, h0, h1, h2 =>
        obtain rfl := Option.some.inj h0
        obtain rfl := Option.some.inj h1
        obtain rfl := Option.some.inj h2
        exact ⟨a, b, c, rest, rfl, hpublished, hsubscribed, hadvertised⟩
  · rintro ⟨publishers, subscribers, services, rest, rfl, hpublished, hsubscribed, hadvertised⟩
    show (readEntries topicWhitelist publishers).bind (fun publishedTopics =>
      (readEntries topicWhitelist subscribers).bind fun subscribedTopics =>
        (readEntries serviceWhitelist services).bind fun advertisedServices =>
          .ok (SystemState.mk publishedTopics subscribedTopics advertisedServices)) = .ok s
    rw [readEntries_eq_ok_iff.mpr hpublished, readEntries_eq_ok_iff.mpr hsubscribed,
      readEntries_eq_ok_iff.mpr hadvertised]
    rfl

theorem status_eq_ok_iff {result : XmlRpcValue} {code : Int32} :
    (result.subscript false 0).bind XmlRpcValue.toInt = .ok code ↔
      statusCode result = some code := by
  cases result with
  | invalid => simp [XmlRpcValue.subscript, XmlRpcValue.toInt, Except.bind, statusCode]
  | array vs =>
      cases vs with
      | nil => simp [XmlRpcValue.subscript, XmlRpcValue.toInt, Except.bind, statusCode]
      | cons v rest =>
          cases v <;> simp [XmlRpcValue.subscript, XmlRpcValue.toInt, Except.bind, statusCode]
  | _ => simp [XmlRpcValue.subscript, Except.bind, statusCode]

/-- The state is read once the status is. -/
theorem retrieveSystemState_answered {result payload : XmlRpcValue} {s : Option SystemState} :
    retrieveSystemState topicWhitelist serviceWhitelist (.answered result payload) = .ok s ↔
      ∃ code, statusCode result = some code ∧
        if code = 1 then
          ∃ state, readSystemState topicWhitelist serviceWhitelist payload = .ok state ∧
            s = some state
        else s = none := by
  have hread : retrieveSystemState topicWhitelist serviceWhitelist (.answered result payload) =
      ((result.subscript false 0).bind XmlRpcValue.toInt).bind fun status =>
        if status = 1 then
          (readSystemState topicWhitelist serviceWhitelist payload).bind fun state =>
            .ok (some state)
        else .ok none := by
    show (result.subscript false 0).bind (fun v => v.toInt.bind fun status =>
      if status = 1 then
        (readSystemState topicWhitelist serviceWhitelist payload).bind fun state =>
          .ok (some state)
      else .ok none) = _
    cases result.subscript false 0 <;> rfl
  rw [hread, bind_eq_ok_iff]
  refine exists_congr fun code => and_congr status_eq_ok_iff ?_
  split
  · rw [bind_eq_ok_iff]
    refine exists_congr fun state => and_congr_right fun _ => ?_
    rw [Except.ok.injEq, eq_comm]
  · rw [Except.ok.injEq, eq_comm]

theorem retrieveSystemState_eq_some_iff {reply : MasterReply} {s : SystemState} :
    retrieveSystemState topicWhitelist serviceWhitelist reply = .ok (some s) ↔
      reply.ListsSystemState topicWhitelist serviceWhitelist s := by
  cases reply with
  | failed => simp [retrieveSystemState, MasterReply.ListsSystemState]
  | answered result payload =>
      rw [retrieveSystemState_answered]
      constructor
      · rintro ⟨code, hcode, hstate⟩
        split at hstate
        · rename_i hone
          subst hone
          obtain ⟨state, hread, hsome⟩ := hstate
          obtain rfl := Option.some.inj hsome
          obtain ⟨publishers, subscribers, services, rest, rfl, hlists⟩ :=
            readSystemState_eq_ok_iff.mp hread
          exact ⟨result, publishers, subscribers, services, rest, rfl, hcode, hlists⟩
        · cases hstate
      · rintro ⟨_, publishers, subscribers, services, rest, heq, hcode, hlists⟩
        cases heq
        refine ⟨1, hcode, ?_⟩
        rw [if_pos rfl]
        exact ⟨s, readSystemState_eq_ok_iff.mpr
          ⟨publishers, subscribers, services, rest, rfl, hlists⟩, rfl⟩

theorem retrieveSystemState_eq_none_iff {reply : MasterReply} :
    retrieveSystemState topicWhitelist serviceWhitelist reply = .ok none ↔ reply.Failed := by
  cases reply with
  | failed => exact iff_of_true rfl (.inl rfl)
  | answered result payload =>
      rw [retrieveSystemState_answered]
      constructor
      · rintro ⟨code, hcode, hstate⟩
        split at hstate
        · obtain ⟨state, -, hsome⟩ := hstate
          cases hsome
        · rename_i hne
          exact .inr ⟨result, payload, code, rfl, hcode, hne⟩
      · rintro (hfailed | ⟨_, _, code, heq, hcode, hne⟩)
        · cases hfailed
        · cases heq
          refine ⟨code, hcode, ?_⟩
          rw [if_neg hne]

end Replies

/-! ## What a cycle applies -/

theorem mem_of_mem_performed {throws : CycleUpdate → Bool} {u : CycleUpdate}
    {updates : List CycleUpdate} (h : u ∈ performed throws updates) : u ∈ updates := by
  induction updates with
  | nil => exact h
  | cons first rest ih =>
      unfold performed at h
      split at h
      · exact List.mem_singleton.mp h ▸ List.mem_cons_self
      · rcases List.mem_cons.mp h with rfl | hrest
        · exact List.mem_cons_self
        · exact List.mem_cons_of_mem _ (ih hrest)

/-- The first update is made in any case. -/
theorem mem_performed_cons (throws : CycleUpdate → Bool) (u : CycleUpdate)
    (rest : List CycleUpdate) : u ∈ performed throws (u :: rest) := by
  unfold performed
  split <;> exact List.mem_cons_self

namespace CycleInput

variable {c : CycleInput}

/-- Each update only gets the complete list of its own reply, filtered by its own
whitelist; `updateAdvertisedTopics` filters the topics itself, as `latestTopics`. So a
reply that lists nothing changes nothing. And the topics are updated whenever their reply
lists them. -/
structure Applied (c : CycleInput) : Prop where
  topics : ∀ topics, .updateAdvertisedTopics topics ∈ c.pollCycle →
    c.topicsReply.ListsTopics topics
  services : ∀ serviceNames, .updateAdvertisedServices serviceNames ∈ c.pollCycle →
    ∃ s, c.systemStateReply.ListsSystemState c.topicWhitelist c.serviceWhitelist s ∧
      serviceNames = s.serviceNames
  graph : ∀ s, .publishConnectionGraph s ∈ c.pollCycle →
    c.systemStateReply.ListsSystemState c.topicWhitelist c.serviceWhitelist s
  updated : ∀ topics, c.topicsReply.ListsTopics topics →
    .updateAdvertisedTopics topics ∈ c.pollCycle

/-- The topics are listed, but the system state, which is asked for, is malformed: it is
neither a failure nor a list of entries. -/
def SystemStateSpoilsTopics (c : CycleInput) : Prop :=
  (∃ topics, c.topicsReply.ListsTopics topics) ∧ c.querySystemState = true ∧
    ¬ c.systemStateReply.Failed ∧
    ∀ s, ¬ c.systemStateReply.ListsSystemState c.topicWhitelist c.serviceWhitelist s

/-- A cycle makes no update, or it has read both replies. -/
theorem pollCycle_cases (c : CycleInput) : c.pollCycle = [] ∨ ∃ topics state,
    retrieveTopics c.topicsReply = .ok topics ∧
    (∀ s ∈ state,
      retrieveSystemState c.topicWhitelist c.serviceWhitelist c.systemStateReply = .ok (some s)) ∧
    c.pollCycle = performed c.throws (c.updates topics state) := by
  unfold pollCycle
  cases htopics : retrieveTopics c.topicsReply with
  | error e => exact .inl rfl
  | ok topics =>
      by_cases hquery : c.querySystemState = true
      · rw [if_pos hquery]
        cases hstate : retrieveSystemState c.topicWhitelist c.serviceWhitelist
            c.systemStateReply with
        | error e => exact .inl rfl
        | ok state =>
            refine .inr ⟨topics, state, rfl, fun s hs => ?_, rfl⟩
            rw [Option.mem_def.mp hs]
      · rw [if_neg hquery]
        exact .inr ⟨topics, none, rfl, nofun, rfl⟩

/-- An update behind a flag has what was read for it. -/
theorem of_mem_updates {topics : Option (List TopicAndDatatype)} {state : Option SystemState}
    {u : CycleUpdate} (h : u ∈ c.updates topics state) :
    (∃ list ∈ topics, u = .updateAdvertisedTopics list) ∨
      ∃ s ∈ state,
        u = .updateAdvertisedServices s.serviceNames ∨ u = .publishConnectionGraph s := by
  simp only [updates, List.mem_append, Option.mem_toList, Option.map_eq_some_iff,
    List.mem_ite_nil_right] at h
  rcases h with (⟨list, hlist, rfl⟩ | ⟨-, s, hs, rfl⟩) | ⟨-, s, hs, rfl⟩
  · exact .inl ⟨list, hlist, rfl⟩
  · exact .inr ⟨s, hs, .inl rfl⟩
  · exact .inr ⟨s, hs, .inr rfl⟩

/-- What an update of the cycle works on was read from its own reply. -/
theorem of_mem_pollCycle {u : CycleUpdate} (h : u ∈ c.pollCycle) :
    (∃ topics, c.topicsReply.ListsTopics topics ∧ u = .updateAdvertisedTopics topics) ∨
      ∃ s, c.systemStateReply.ListsSystemState c.topicWhitelist c.serviceWhitelist s ∧
        (u = .updateAdvertisedServices s.serviceNames ∨ u = .publishConnectionGraph s) := by
  rcases c.pollCycle_cases with hnil | ⟨topics, state, htopics, hstate, heq⟩
  · rw [hnil] at h
    cases h
  · rw [heq] at h
    rcases of_mem_updates (mem_of_mem_performed h) with ⟨list, hlist, rfl⟩ | ⟨s, hs, hu⟩
    · obtain rfl := Option.mem_def.mp hlist
      exact .inl ⟨list, retrieveTopics_eq_some_iff.mp htopics, rfl⟩
    · exact .inr ⟨s, retrieveSystemState_eq_some_iff.mp (hstate s hs), hu⟩

/-- A malformed system state leaves the `try` block before any update. -/
theorem pollCycle_eq_nil_of_spoils (h : c.SystemStateSpoilsTopics) : c.pollCycle = [] := by
  obtain ⟨⟨topics, hlists⟩, hquery, hanswered, hmalformed⟩ := h
  unfold pollCycle
  rw [if_pos hquery, retrieveTopics_eq_some_iff.mpr hlists]
  cases hstate : retrieveSystemState c.topicWhitelist c.serviceWhitelist c.systemStateReply with
  | error e => rfl
  | ok state =>
      cases state with
      | none => exact absurd (retrieveSystemState_eq_none_iff.mp hstate) hanswered
      | some s => exact absurd (retrieveSystemState_eq_some_iff.mp hstate) (hmalformed s)

/-- Otherwise the topics that are listed are the first update. -/
theorem updated_of_not_spoils (h : ¬ c.SystemStateSpoilsTopics) {topics : List TopicAndDatatype}
    (hlists : c.topicsReply.ListsTopics topics) :
    .updateAdvertisedTopics topics ∈ c.pollCycle := by
  have hread : ∃ state, (if c.querySystemState then
      retrieveSystemState c.topicWhitelist c.serviceWhitelist c.systemStateReply
      else .ok none) = .ok state := by
    by_cases hquery : c.querySystemState = true
    · rw [if_pos hquery]
      by_cases hfailed : c.systemStateReply.Failed
      · exact ⟨none, retrieveSystemState_eq_none_iff.mpr hfailed⟩
      · by_contra hnone
        refine h ⟨⟨topics, hlists⟩, hquery, hfailed, fun s hs => hnone ?_⟩
        exact ⟨some s, retrieveSystemState_eq_some_iff.mpr hs⟩
    · exact ⟨none, if_neg hquery⟩
  obtain ⟨state, hstate⟩ := hread
  have hcycle : c.pollCycle = performed c.throws (c.updates (some topics) state) := by
    unfold pollCycle
    rw [hstate, retrieveTopics_eq_some_iff.mpr hlists]
  rw [hcycle]
  exact mem_performed_cons _ _ _

/-- **The replies of the master are applied independently** exactly if a malformed system
state does not spoil a good list of topics. -/
theorem applied_iff (c : CycleInput) : c.Applied ↔ ¬ c.SystemStateSpoilsTopics := by
  constructor
  · intro happlied hspoils
    obtain ⟨topics, hlists⟩ := hspoils.1
    have hmem := happlied.updated topics hlists
    rw [pollCycle_eq_nil_of_spoils hspoils] at hmem
    cases hmem
  · intro hfine
    refine ⟨?_, ?_, ?_, fun topics hlists => updated_of_not_spoils hfine hlists⟩
    · intro topics hmem
      rcases of_mem_pollCycle hmem with ⟨list, hlists, heq⟩ | ⟨s, -, heq | heq⟩
      · cases heq
        exact hlists
      · cases heq
      · cases heq
    · intro serviceNames hmem
      rcases of_mem_pollCycle hmem with ⟨list, -, heq⟩ | ⟨s, hlists, heq | heq⟩
      · cases heq
      · cases heq
        exact ⟨s, hlists, rfl⟩
      · cases heq
    · intro s hmem
      rcases of_mem_pollCycle hmem with ⟨list, -, heq⟩ | ⟨s, hlists, heq | heq⟩
      · cases heq
      · cases heq
      · cases heq
        exact hlists

/-- The other way round, malformed topics take the system state with them, which is not
even asked for. -/
theorem pollCycle_eq_nil_of_topics_malformed (hanswered : c.topicsReply ≠ .failed)
    (hmalformed : ∀ topics, ¬ c.topicsReply.ListsTopics topics) : c.pollCycle = [] := by
  unfold pollCycle
  cases htopics : retrieveTopics c.topicsReply with
  | error e => rfl
  | ok topics =>
      cases topics with
      | none => exact absurd (retrieveTopics_eq_none_iff.mp htopics) hanswered
      | some list => exact absurd (retrieveTopics_eq_some_iff.mp htopics) (hmalformed list)

end CycleInput

/-- One topic is published, and the first publisher of the system state has no name. -/
def malformedSystemState : CycleInput where
  topicWhitelist := [fun _ => true]
  serviceWhitelist := [fun _ => true]
  servicesEnabled := true
  graphSubscribed := false
  graphSubscribedLater := false
  topicsReply := .answered (.array [.int 1, .string "", .array []])
    (.array [.array [.string "/chatter", .string "std_msgs/String"]])
  systemStateReply := .answered (.array [.int 1, .string "", .array []])
    (.array [.array [.array [.int 7, .array []]], .array [], .array []])
  throws _ := false

theorem not_applied_malformedSystemState :
    malformedSystemState.topicsReply.ListsTopics [("/chatter", "std_msgs/String")] ∧
      malformedSystemState.pollCycle = [] ∧ ¬ malformedSystemState.Applied := by
  have hlists : malformedSystemState.topicsReply.ListsTopics [("/chatter", "std_msgs/String")] :=
    retrieveTopics_eq_some_iff.mp rfl
  refine ⟨hlists, rfl, fun happlied => ?_⟩
  have hmem := happlied.updated _ hlists
  rw [show malformedSystemState.pollCycle = [] from rfl] at hmem
  cases hmem

end FoxgloveBridge
