import FoxgloveBridge.Lib.Refcount
import FoxgloveBridge.Param.Interest

/-!
# The aggregated parameter counts

`handleSubscribeParams` and `handleUnsubscribeParams` go through the names of an operation
one by one, and pass on to the backend the names whose count left or reached zero. Here the
backend is any: whatever it does with the names it is passed, and however its exceptions
end that, the counts do not depend on it.

So `_paramSubscriberCount` is a reference count for each name, over all operations of
both transports, and the backend is told of its edges (`counts_aggregated`). What it is told
is read off the backend itself: one that keeps a record of its calls behaves like one that
keeps none (`forget_run`).
-/

namespace FoxgloveBridge

/-- An operation of the worker, and what the backend makes of either call this time; an
exception of it is logged and changes nothing further. -/
structure CountedOperation (B : Type*) where
  op : SubscriptionOp
  names : List String
  outcome : SubscriptionOp → List String → B → B

/-- `_paramSubscriberCount` beside a backend. -/
structure CountedBackend (B : Type*) where
  paramSubscriberCount : UnorderedMap String Int
  backend : B

/-- The counting loop of an operation, with the names to forward. -/
def countEach : SubscriptionOp → List String → UnorderedMap String Int →
    UnorderedMap String Int × List String
  | .subscribeParam => countSubscribed
  | .unsubscribeParam => countUnsubscribed

namespace CountedBackend

variable {B : Type*}

/-- `handleSubscribeParams` and `handleUnsubscribeParams`. -/
def handle (σ : CountedBackend B) (o : CountedOperation B) : CountedBackend B :=
  let counted := countEach o.op o.names σ.paramSubscriberCount
  { paramSubscriberCount := counted.1
    backend := if counted.2 = [] then σ.backend else o.outcome o.op counted.2 σ.backend }

def initial (backend : B) : CountedBackend B where
  paramSubscriberCount := ∅
  backend := backend

/-- The operations one after another, as the worker runs them. -/
def run (σ : CountedBackend B) (operations : List (CountedOperation B)) : CountedBackend B :=
  operations.foldl handle σ

end CountedBackend

/-- The operation on a name, as often as it lists the name. -/
def occurrencesIn (name : String) (op : SubscriptionOp) (names : List String) :
    List SubscriptionOp :=
  List.replicate (names.count name) op

/-- The subscribe and unsubscribe occurrences of a name, in order. -/
def occurrences {B : Type*} (name : String) (operations : List (CountedOperation B)) :
    List SubscriptionOp :=
  operations.flatMap fun o => occurrencesIn name o.op o.names

/-- A backend with a record of the calls it received, in order. -/
structure RecordingBackend (B : Type*) where
  backend : B
  received : List (SubscriptionOp × List String)

namespace RecordingBackend

variable {B : Type*}

/-- A call is recorded, and goes as it goes without the record. -/
def outcome (outcome : SubscriptionOp → List String → B → B) (op : SubscriptionOp)
    (names : List String) (β : RecordingBackend B) : RecordingBackend B where
  backend := outcome op names β.backend
  received := β.received ++ [(op, names)]

/-- What the backend was told about a name, in order. -/
def told (β : RecordingBackend B) (name : String) : List SubscriptionOp :=
  β.received.flatMap fun call => occurrencesIn name call.1 call.2

end RecordingBackend

/-- The same operation, with a backend that keeps a record. -/
def CountedOperation.recorded {B : Type*} (o : CountedOperation B) :
    CountedOperation (RecordingBackend B) where
  op := o.op
  names := o.names
  outcome := RecordingBackend.outcome o.outcome

/-- The state without the record. -/
def CountedBackend.forget {B : Type*} (ρ : CountedBackend (RecordingBackend B)) :
    CountedBackend B where
  paramSubscriberCount := ρ.paramSubscriberCount
  backend := ρ.backend.backend

/-- An operation that adds to the count. -/
def SubscriptionOp.subscribes (op : SubscriptionOp) : Bool := op == .subscribeParam

/-! ## One operation -/

/-- The stored count, which is never negative. -/
def uses (counts : UnorderedMap String Int) (name : String) : Nat :=
  (subscriberCount counts name).toNat

theorem occurrencesIn_cons_self (name : String) (op : SubscriptionOp) (rest : List String) :
    occurrencesIn name op (name :: rest) = op :: occurrencesIn name op rest := by
  rw [occurrencesIn, List.count_cons_self, List.replicate_succ, ← occurrencesIn]

theorem occurrencesIn_cons_of_ne {name head : String} (h : name ≠ head) (op : SubscriptionOp)
    (rest : List String) :
    occurrencesIn name op (head :: rest) = occurrencesIn name op rest := by
  rw [occurrencesIn, List.count_cons_of_ne (Ne.symm h), ← occurrencesIn]

/-- What an operation does to a name: the count follows the occurrences of the name in its
list, and the occurrences that are edges of the count are forwarded. -/
structure CountsFollow (op : SubscriptionOp) (names : List String)
    (counts counts' : UnorderedMap String Int) (toForward : List String) (name : String) :
    Prop where
  uses_eq : uses counts' name =
    Refcount.count SubscriptionOp.subscribes (uses counts name) (occurrencesIn name op names)
  forwarded_eq : occurrencesIn name op toForward =
    Refcount.edges SubscriptionOp.subscribes (uses counts name) (occurrencesIn name op names)

/-- One name of the list, and then the others. -/
theorem CountsFollow.cons {op : SubscriptionOp} {rest : List String}
    {counts₁ counts' : UnorderedMap String Int} {toForward : List String} {name : String}
    (hrest : CountsFollow op rest counts₁ counts' toForward name)
    (head : String) (counts : UnorderedMap String Int)
    (hhead : uses counts₁ head =
      Refcount.next SubscriptionOp.subscribes (uses counts head) op)
    (hother : name ≠ head → uses counts₁ name = uses counts name) :
    CountsFollow op (head :: rest) counts counts'
      (if 0 < uses counts head ↔ 0 < uses counts₁ head then toForward else head :: toForward)
      name := by
  by_cases hne : name = head
  · subst hne
    refine ⟨?_, ?_⟩
    · rw [hrest.uses_eq, hhead, occurrencesIn_cons_self]
      rfl
    · rw [occurrencesIn_cons_self, Refcount.edges, ← hhead, ← hrest.forwarded_eq]
      split
      · rfl
      · exact occurrencesIn_cons_self name op toForward
  · refine ⟨?_, ?_⟩
    · rw [hrest.uses_eq, hother hne, occurrencesIn_cons_of_ne hne]
    · rw [occurrencesIn_cons_of_ne hne, ← hother hne, ← hrest.forwarded_eq]
      split
      · rfl
      · exact occurrencesIn_cons_of_ne hne op toForward

theorem countsFollow_countSubscribed {counts : UnorderedMap String Int} (h : CountsPositive counts)
    (names : List String) (name : String) :
    CountsFollow .subscribeParam names counts (countSubscribed names counts).1
      (countSubscribed names counts).2 name := by
  induction names generalizing counts with
  | nil => exact ⟨rfl, rfl⟩
  | cons head rest ih =>
      have hnonneg := h.nonneg head
      have hrest := ih (h.insert head (by omega : 0 < subscriberCount counts head + 1))
      have hself : uses (counts.insert head (subscriberCount counts head + 1)) head =
          uses counts head + 1 := by
        rw [uses, subscriberCount_insert_self, uses]
        omega
      have hother : name ≠ head →
          uses (counts.insert head (subscriberCount counts head + 1)) name = uses counts name := by
        intro hne
        rw [uses, subscriberCount_insert_of_ne _ hne, uses]
      have hcons := hrest.cons head counts hself hother
      -- a first use is an edge, any other is not
      rw [countSubscribed]
      by_cases hfirst : subscriberCount counts head + 1 = 1
      · have hzero : uses counts head = 0 := by rw [uses]; omega
        rw [if_neg (by rw [hself]; omega)] at hcons
        simpa only [hfirst, if_true] using hcons
      · have hpos : 0 < uses counts head := by rw [uses]; omega
        rw [if_pos (by rw [hself]; omega)] at hcons
        simpa only [hfirst, if_false] using hcons

theorem countsFollow_countUnsubscribed {counts : UnorderedMap String Int}
    (h : CountsPositive counts) (names : List String) (name : String) :
    CountsFollow .unsubscribeParam names counts (countUnsubscribed names counts).1
      (countUnsubscribed names counts).2 name := by
  induction names generalizing counts with
  | nil => exact ⟨rfl, rfl⟩
  | cons head rest ih =>
      have hnonneg := h.nonneg head
      obtain ⟨counts', hpos, hself, hother, heq⟩ := countUnsubscribed_cons h head rest
      have hnext : uses counts' head = uses counts head - 1 := by
        rw [uses, hself, uses]
        omega
      have hcons := (ih hpos).cons head counts hnext fun hne => by rw [uses, hother name hne, uses]
      rw [heq]
      -- a last use is an edge, any other is not
      by_cases hlast : subscriberCount counts head = 1
      · have hone : uses counts head = 1 := by rw [uses, hlast]; rfl
        rw [if_neg (by omega)] at hcons
        rwa [if_pos hlast]
      · have hmany : uses counts head ≠ 1 := by rw [uses]; omega
        rw [if_pos (by omega)] at hcons
        rwa [if_neg hlast]

theorem countsFollow_countEach {counts : UnorderedMap String Int} (h : CountsPositive counts)
    (op : SubscriptionOp) (names : List String) (name : String) :
    CountsFollow op names counts (countEach op names counts).1 (countEach op names counts).2
      name := by
  cases op with
  | subscribeParam => exact countsFollow_countSubscribed h names name
  | unsubscribeParam => exact countsFollow_countUnsubscribed h names name

theorem CountsPositive.countEach {counts : UnorderedMap String Int} (h : CountsPositive counts)
    (op : SubscriptionOp) (names : List String) :
    CountsPositive (countEach op names counts).1 := by
  cases op with
  | subscribeParam => exact h.countSubscribed names
  | unsubscribeParam => exact h.countUnsubscribed names

/-! ## All operations -/

namespace CountedBackend

variable {B : Type*} {ρ : CountedBackend (RecordingBackend B)}

theorem forget_handle (ρ : CountedBackend (RecordingBackend B)) (o : CountedOperation B) :
    (ρ.handle o.recorded).forget = ρ.forget.handle o := by
  unfold handle
  dsimp only [forget, CountedOperation.recorded]
  split <;> rfl

/-- The record changes nothing. -/
theorem forget_run (ρ : CountedBackend (RecordingBackend B))
    (operations : List (CountedOperation B)) :
    (ρ.run (operations.map CountedOperation.recorded)).forget = ρ.forget.run operations := by
  induction operations generalizing ρ with
  | nil => rfl
  | cons o rest ih =>
      have hrest := ih (ρ.handle o.recorded)
      rw [forget_handle] at hrest
      exact hrest

theorem handle_told (ρ : CountedBackend (RecordingBackend B)) (o : CountedOperation B)
    (name : String) : (ρ.handle o.recorded).backend.told name = ρ.backend.told name ++
      occurrencesIn name o.op (countEach o.op o.names ρ.paramSubscriberCount).2 := by
  unfold handle
  dsimp only [CountedOperation.recorded]
  split
  · rename_i hnil
    rw [hnil]
    exact (List.append_nil _).symm
  · rw [RecordingBackend.outcome, RecordingBackend.told, List.flatMap_append,
      List.flatMap_singleton, ← RecordingBackend.told]

/-- The state after some operations: no entry at zero, the count of the name is that of its
occurrences, and the backend has been told of its edges. -/
structure Aggregates (ρ : CountedBackend (RecordingBackend B)) (name : String)
    (occurred : List SubscriptionOp) : Prop where
  positive : CountsPositive ρ.paramSubscriberCount
  uses_eq : uses ρ.paramSubscriberCount name =
    Refcount.count SubscriptionOp.subscribes 0 occurred
  told_eq : ρ.backend.told name = Refcount.edges SubscriptionOp.subscribes 0 occurred

theorem Aggregates.handle {name : String} {occurred : List SubscriptionOp}
    (h : ρ.Aggregates name occurred) (o : CountedOperation B) :
    (ρ.handle o.recorded).Aggregates name (occurred ++ occurrencesIn name o.op o.names) := by
  have hfollow := countsFollow_countEach h.positive o.op o.names name
  refine ⟨h.positive.countEach o.op o.names, ?_, ?_⟩
  · rw [Refcount.count_append, ← h.uses_eq]
    exact hfollow.uses_eq
  · rw [handle_told, hfollow.forwarded_eq, h.told_eq, h.uses_eq, Refcount.edges_append]

theorem Aggregates.run {name : String} {occurred : List SubscriptionOp}
    (h : ρ.Aggregates name occurred) (operations : List (CountedOperation B)) :
    (ρ.run (operations.map CountedOperation.recorded)).Aggregates name
      (occurred ++ occurrences name operations) := by
  induction operations generalizing ρ occurred with
  | nil =>
      rw [occurrences, List.flatMap_nil, List.append_nil]
      exact h
  | cons o rest ih =>
      have hrest := ih (h.handle o)
      rw [occurrences, List.flatMap_cons, ← List.append_assoc]
      exact hrest

theorem aggregates_run_initial (backend : B) (operations : List (CountedOperation B))
    (name : String) :
    ((initial ⟨backend, []⟩).run (operations.map CountedOperation.recorded)).Aggregates name
      (occurrences name operations) := by
  have hinitial : (initial (⟨backend, []⟩ : RecordingBackend B)).Aggregates name [] := by
    refine ⟨fun other count hlookup => ?_, rfl, rfl⟩
    rw [initial, AList.lookup_empty] at hlookup
    cases hlookup
  exact hinitial.run operations

end CountedBackend

theorem uses_eq_subscriberCount {counts : UnorderedMap String Int} (h : CountsPositive counts)
    (name : String) : subscriberCount counts name = uses counts name :=
  (Int.toNat_of_nonneg (h.nonneg name)).symm

@[simp] theorem subscribes_eq_true_iff {op : SubscriptionOp} :
    op.subscribes = true ↔ op = .subscribeParam :=
  beq_iff_eq

theorem ne_of_subscribes_ne {a b : SubscriptionOp} (h : a.subscribes ≠ b.subscribes) : a ≠ b := by
  rintro rfl
  exact h rfl

/-- A count is at most the number of subscribe occurrences. -/
theorem count_le_occurrences {occurred : List SubscriptionOp} :
    Refcount.count SubscriptionOp.subscribes 0 occurred ≤ occurred.count .subscribeParam := by
  have hle : Refcount.count SubscriptionOp.subscribes 0 occurred ≤
      0 + occurred.countP SubscriptionOp.subscribes := Refcount.count_le
  rwa [Nat.zero_add] at hle

/-- **The counts aggregate both transports.** After any operations, with any outcomes of the
backend, and whether the backend keeps a record of its calls or not: the count stored for a
name is the number of its subscribe occurrences less its unsubscribe occurrences, truncated at
zero at each step; no entry is stored at zero; the count is at most the number of subscribe
occurrences, so the `int` of the map is large enough for the first 2^31 - 1 of them; and the
calls that the backend received subscribe and unsubscribe the name in turn, subscribe first,
and last subscribe exactly when the count is positive. -/
theorem counts_aggregated {B : Type*} (backend : B) (operations : List (CountedOperation B))
    (name : String) :
    let σ := (CountedBackend.initial backend).run operations
    let ρ := (CountedBackend.initial ⟨backend, []⟩).run
      (operations.map CountedOperation.recorded)
    ρ.forget = σ ∧
      subscriberCount σ.paramSubscriberCount name =
        Refcount.count SubscriptionOp.subscribes 0 (occurrences name operations) ∧
      (∀ count, σ.paramSubscriberCount.lookup name = some count → 0 < count) ∧
      subscriberCount σ.paramSubscriberCount name ≤
        (occurrences name operations).count .subscribeParam ∧
      (ρ.backend.told name).IsChain (· ≠ ·) ∧
      (∀ op ∈ (ρ.backend.told name).head?, op = .subscribeParam) ∧
      ((ρ.backend.told name).getLast? = some .subscribeParam ↔
        0 < subscriberCount σ.paramSubscriberCount name) := by
  intro σ ρ
  have h : ρ.Aggregates name (occurrences name operations) :=
    CountedBackend.aggregates_run_initial backend operations name
  have hforget : ρ.forget = σ := CountedBackend.forget_run _ operations
  have hcounts : σ.paramSubscriberCount = ρ.paramSubscriberCount := by
    rw [← hforget]
    rfl
  have hcount := uses_eq_subscriberCount h.positive name
  rw [h.uses_eq] at hcount
  rw [hcounts]
  refine ⟨hforget, hcount, h.positive name, ?_, ?_, ?_, ?_⟩
  · rw [hcount]
    exact_mod_cast count_le_occurrences
  · rw [h.told_eq]
    exact Refcount.isChain_edges.imp fun _ _ => ne_of_subscribes_ne
  · intro op hop
    rw [h.told_eq] at hop
    exact subscribes_eq_true_iff.mp ((Refcount.head_edges op hop).mpr rfl)
  · rw [hcount, h.told_eq]
    cases hlast : (Refcount.edges SubscriptionOp.subscribes 0
        (occurrences name operations)).getLast? with
    | none =>
        -- nothing was forwarded, so nothing was ever counted
        have hnone := Refcount.pos_count_iff_of_edges_nil (List.getLast?_eq_none_iff.mp hlast)
        simp only [reduceCtorEq, false_iff]
        omega
    | some last =>
        rw [Option.some.injEq, ← subscribes_eq_true_iff, Refcount.getLast_edges last hlast]
        omega

/-- Two transports with a name in common and an untracked one; the backend fails to
unsubscribe. -/
def sharedName : List (CountedOperation (List String)) :=
  let outcome : SubscriptionOp → List String → List String → List String
    | .subscribeParam, names, told => told ++ names
    | .unsubscribeParam, _, told => told
  [⟨.subscribeParam, ["/a", "/b", "/a"], outcome⟩, ⟨.unsubscribeParam, ["/a", "/c"], outcome⟩,
    ⟨.unsubscribeParam, ["/b", "/a"], outcome⟩, ⟨.subscribeParam, ["/b"], outcome⟩]

theorem counts_aggregated_shared :
    let ρ := (CountedBackend.initial ⟨[], []⟩).run (sharedName.map CountedOperation.recorded)
    ρ.backend.received = [(.subscribeParam, ["/a", "/b"]), (.unsubscribeParam, ["/b", "/a"]),
        (.subscribeParam, ["/b"])] ∧
      ρ.backend.backend = ["/a", "/b", "/b"] ∧
      (ρ.backend.told "/b").IsChain (· ≠ ·) ∧
      0 < subscriberCount ((CountedBackend.initial []).run sharedName).paramSubscriberCount
        "/b" := by
  obtain ⟨-, -, -, -, hchain, -, hlast⟩ := counts_aggregated [] sharedName "/b"
  exact ⟨by decide, by decide, hchain, hlast.mp (by decide)⟩

/-! ## The bridge's backend -/

/-- What `Ros1ParameterInterface` makes of the names it is passed. -/
def ParamBackend.outcome (R : Roscpp) (whitelist : Whitelist) (succeeds : String → Bool)
    (op : SubscriptionOp) (toForward : List String) (β : ParamBackend) : ParamBackend :=
  match op with
  | .subscribeParam => (β.subscribeParams R whitelist succeeds toForward).1
  | .unsubscribeParam => (β.unsubscribeParams R succeeds toForward).1

/-- What the transport manager has of it. -/
def CountedBackend.manager (σ : CountedBackend ParamBackend) : ParamManager where
  paramSubscriberCount := σ.paramSubscriberCount
  backend := σ.backend

/-- The worker's operations are counted operations, with the backend of the bridge. -/
theorem handle_eq_manager_handle (R : Roscpp) (whitelist : Whitelist)
    (σ : CountedBackend ParamBackend) (op : SubscriptionOp) (names : List String)
    (succeeds : String → Bool) :
    (σ.manager.handle R whitelist names succeeds op).1 =
      (σ.handle ⟨op, names, ParamBackend.outcome R whitelist succeeds⟩).manager := by
  cases op with
  | subscribeParam =>
      by_cases hnil : (countSubscribed names σ.paramSubscriberCount).2 = [] <;>
        simp [ParamManager.handle, ParamManager.handleSubscribeParams, CountedBackend.handle,
          CountedBackend.manager, countEach, ParamBackend.outcome, hnil]
  | unsubscribeParam =>
      by_cases hnil : (countUnsubscribed names σ.paramSubscriberCount).2 = [] <;>
        simp [ParamManager.handle, ParamManager.handleUnsubscribeParams, CountedBackend.handle,
          CountedBackend.manager, countEach, ParamBackend.outcome, hnil]

end FoxgloveBridge
