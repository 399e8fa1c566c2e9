import FoxgloveBridge.Lib.Lists
import FoxgloveBridge.Lib.UnorderedMap
import FoxgloveBridge.Param.Subscription
import Mathlib.Algebra.Group.Int.Defs

/-!
# Interest in parameters

`TransportManager` counts, for each name as a client spells it, how often the two
transports subscribed to it (`_paramSubscriberCount`); the names whose count
leaves or reaches zero are forwarded to `Ros1ParameterInterface`, which registers
their resolved keys with the master. The worker runs these operations one after
another.

Two spellings of one key are counted apart and registered once. So registrations
agree with the interest throughout a run exactly if no operation ends the interest
in one spelling while another permitted spelling of the key is still wanted
(`registrations_agree_iff`). And the forwarded names go through one loop that an
invalid name leaves by an exception: every forwarded name gets its call exactly if
no invalid one stands before another (`calls_isolated_iff`).
-/

namespace FoxgloveBridge

/-- The part of `Ros1ParameterInterface` that subscriptions change. -/
structure ParamBackend where
  /-- `_subscribedParams`. -/
  subscribedParams : Finset String
  /-- `_shutdown`. -/
  shutdownFlag : Bool
  /-- The keys the master has registered for the bridge. -/
  registered : Finset Key
  deriving DecidableEq

structure ParamManager where
  /-- `_paramSubscriberCount`. -/
  paramSubscriberCount : UnorderedMap String Int
  /-- `_paramBackend`. -/
  backend : ParamBackend

variable (R : Roscpp) (whitelist : Whitelist)

/-! ## The backend -/

/-- The locked update after a successful master call. -/
def ParamBackend.record (β : ParamBackend) : SubscriptionOp → String → ParamBackend
  | .subscribeParam, name => { β with subscribedParams := insert name β.subscribedParams }
  | .unsubscribeParam, name => { β with subscribedParams := β.subscribedParams.erase name }

/-- The loop of `subscribeParams` and of `unsubscribeParams`, with the names it
calls `executeParamSubscription` for. -/
def ParamBackend.callEach (op : SubscriptionOp) (permitted : String → Bool)
    (succeeds : String → Bool) : List String → ParamBackend → ParamBackend × List String
  | [], β => (β, [])
  | name :: rest, β =>
      if permitted name then
        match executeParamSubscription R op name (succeeds name) β.registered with
        -- the exception ends the loop; the caller logs it
        | .error _ => (β, [name])
        | .ok (called, registered) =>
            let β := { β with registered := registered }
            let result :=
              callEach op permitted succeeds rest (if called then β.record op name else β)
            (result.1, name :: result.2)
      else callEach op permitted succeeds rest β

/-- `subscribeParams`: own and unlisted names are skipped. -/
def ParamBackend.subscribeParams (β : ParamBackend) (succeeds : String → Bool)
    (paramNames : List String) : ParamBackend × List String :=
  if β.shutdownFlag then (β, [])
  else ParamBackend.callEach R .subscribeParam (accepts R whitelist) succeeds paramNames β

/-- `unsubscribeParams`. -/
def ParamBackend.unsubscribeParams (β : ParamBackend) (succeeds : String → Bool)
    (paramNames : List String) : ParamBackend × List String :=
  ParamBackend.callEach R .unsubscribeParam (fun _ => true) succeeds paramNames β

/-- The registrations after the loop of `shutdown` over the set, in its order. -/
def unregisterEach (succeeds : String → Bool) : List String → Finset Key → Finset Key
  | [], registered => registered
  | name :: rest, registered =>
      match executeParamSubscription R .unsubscribeParam name (succeeds name) registered with
      | .error _ => registered
      | .ok (_, registered) => unregisterEach succeeds rest registered

def ParamBackend.shutdown (β : ParamBackend) (succeeds : String → Bool) (order : List String) :
    ParamBackend :=
  if β.shutdownFlag then β
  else
    { subscribedParams := ∅
      shutdownFlag := true
      registered := unregisterEach R succeeds order β.registered }

/-! ## The counts -/

/-- How often a name is subscribed, 0 without an entry. The entries are `int`s, which
`count_exec_le` keeps from overflowing. -/
def subscriberCount (counts : UnorderedMap String Int) (name : String) : Int :=
  (counts.lookup name).getD 0

/-- The loop of `handleSubscribeParams`, with the names to forward. -/
def countSubscribed : List String → UnorderedMap String Int → UnorderedMap String Int × List String
  | [], counts => (counts, [])
  | name :: rest, counts =>
      let count := subscriberCount counts name + 1
      let result := countSubscribed rest (counts.insert name count)
      if count = 1 then (result.1, name :: result.2) else result

/-- The loop of `handleUnsubscribeParams`, with the names to forward. -/
def countUnsubscribed :
    List String → UnorderedMap String Int → UnorderedMap String Int × List String
  | [], counts => (counts, [])
  | name :: rest, counts =>
      match counts.lookup name with
      -- an untracked parameter
      | none => countUnsubscribed rest counts
      | some count =>
          if count - 1 = 0 then
            let result := countUnsubscribed rest (counts.erase name)
            (result.1, name :: result.2)
          else countUnsubscribed rest (counts.insert name (count - 1))

/-! ## The operations -/

variable (σ : ParamManager) (names : List String) (succeeds : String → Bool)

/-- `handleSubscribeParams`, with the names that got a master call. -/
def ParamManager.handleSubscribeParams : ParamManager × List String :=
  let counted := countSubscribed names σ.paramSubscriberCount
  if counted.2 = [] then ({ σ with paramSubscriberCount := counted.1 }, [])
  else
    let called := σ.backend.subscribeParams R whitelist succeeds counted.2
    ({ paramSubscriberCount := counted.1, backend := called.1 }, called.2)

/-- `handleUnsubscribeParams`, with the names that got a master call. -/
def ParamManager.handleUnsubscribeParams : ParamManager × List String :=
  let counted := countUnsubscribed names σ.paramSubscriberCount
  if counted.2 = [] then ({ σ with paramSubscriberCount := counted.1 }, [])
  else
    let called := σ.backend.unsubscribeParams R succeeds counted.2
    ({ paramSubscriberCount := counted.1, backend := called.1 }, called.2)

/-- An operation of the worker on the names of a client, of either transport. -/
def ParamManager.handle : SubscriptionOp → ParamManager × List String
  | .subscribeParam => σ.handleSubscribeParams R whitelist names succeeds
  | .unsubscribeParam => σ.handleUnsubscribeParams R names succeeds

inductive InterestAction
  | handle (op : SubscriptionOp) (names : List String) (succeeds : String → Bool)
  /-- `shutdown` goes through `_subscribedParams` in this order. -/
  | shutdown (succeeds : String → Bool) (order : List String)

def ParamManager.step (σ : ParamManager) : InterestAction → Option ParamManager
  | .handle op names succeeds => some (σ.handle R whitelist names succeeds op).1
  | .shutdown succeeds order =>
      if order.Nodup ∧ order.toFinset = σ.backend.subscribedParams then
        some { σ with backend := σ.backend.shutdown R succeeds order }
      else none

def ParamManager.initial : ParamManager where
  paramSubscriberCount := ∅
  backend := { subscribedParams := ∅, shutdownFlag := false, registered := ∅ }

def interestSystem : TSys ParamManager InterestAction where
  init σ := σ = .initial
  step := ParamManager.step R whitelist

/-- The number of subscriptions to a name, over both transports. -/
abbrev ParamManager.count (σ : ParamManager) (name : String) : Int :=
  subscriberCount σ.paramSubscriberCount name

/-! ## What the counting loops do -/

@[simp] theorem subscriberCount_insert_self (counts : UnorderedMap String Int) (name : String)
    (count : Int) : subscriberCount (counts.insert name count) name = count := by
  simp [subscriberCount]

theorem subscriberCount_insert_of_ne (counts : UnorderedMap String Int) {name other : String}
    (h : other ≠ name) (count : Int) :
    subscriberCount (counts.insert name count) other = subscriberCount counts other := by
  rw [subscriberCount, AList.lookup_insert_ne h, subscriberCount]

@[simp] theorem subscriberCount_erase_self (counts : UnorderedMap String Int) (name : String) :
    subscriberCount (counts.erase name) name = 0 := by
  simp [subscriberCount]

theorem subscriberCount_erase_of_ne (counts : UnorderedMap String Int) {name other : String}
    (h : other ≠ name) :
    subscriberCount (counts.erase name) other = subscriberCount counts other := by
  rw [subscriberCount, AList.lookup_erase_ne h, subscriberCount]

/-- Entries count at least one subscription. -/
def CountsPositive (counts : UnorderedMap String Int) : Prop :=
  ∀ name count, counts.lookup name = some count → 0 < count

theorem CountsPositive.nonneg {counts : UnorderedMap String Int} (h : CountsPositive counts)
    (name : String) : 0 ≤ subscriberCount counts name := by
  unfold subscriberCount
  cases hlookup : counts.lookup name with
  | none => simp
  | some count => exact (h name count hlookup).le

theorem CountsPositive.insert {counts : UnorderedMap String Int} (h : CountsPositive counts)
    (name : String) {count : Int} (hcount : 0 < count) :
    CountsPositive (counts.insert name count) := by
  intro other c hlookup
  by_cases hne : other = name
  · subst hne
    obtain rfl : count = c := by simpa using hlookup
    exact hcount
  · rw [AList.lookup_insert_ne hne] at hlookup
    exact h other c hlookup

theorem CountsPositive.erase {counts : UnorderedMap String Int} (h : CountsPositive counts)
    (name : String) : CountsPositive (counts.erase name) := by
  intro other c hlookup
  by_cases hne : other = name
  · subst hne
    simp at hlookup
  · rw [AList.lookup_erase_ne hne] at hlookup
    exact h other c hlookup

/-- This occurrence of the name, the given ones standing before it, brings the count
of the name from 0 to 1 or from 1 to 0. -/
def turns (op : SubscriptionOp) (count : String → Int) (before : List String) (name : String) :
    Bool :=
  match op with
  | .subscribeParam => decide (count name + before.count name = 0)
  | .unsubscribeParam => decide (count name - before.count name = 1)

theorem countSubscribed_count (counts : UnorderedMap String Int) (name : String) :
    subscriberCount (countSubscribed names counts).1 name =
      subscriberCount counts name + names.count name := by
  induction names generalizing counts with
  | nil => simp [countSubscribed]
  | cons head rest ih =>
      have hrest : subscriberCount (countSubscribed (head :: rest) counts).1 name =
          subscriberCount (counts.insert head (subscriberCount counts head + 1)) name +
            rest.count name := by
        rw [← ih, countSubscribed]
        split <;> rfl
      rw [hrest]
      by_cases hne : name = head
      · subst hne
        rw [subscriberCount_insert_self, List.count_cons_self]
        push_cast
        omega
      · rw [subscriberCount_insert_of_ne _ hne, List.count_cons_of_ne (Ne.symm hne)]

/-- The loop picks the occurrences at which a count goes from 0 to 1. -/
theorem countSubscribed_forward (counts : UnorderedMap String Int) :
    (countSubscribed names counts).2 =
      List.pick (turns .subscribeParam (subscriberCount counts)) [] names := by
  induction names generalizing counts with
  | nil => rfl
  | cons head rest ih =>
      have hrest : List.pick (turns .subscribeParam (subscriberCount
          (counts.insert head (subscriberCount counts head + 1)))) [] rest =
          List.pick (turns .subscribeParam (subscriberCount counts)) [head] rest := by
        refine List.pick_congr fun before name => decide_eq_decide.mpr ?_
        by_cases hne : name = head
        · subst hne
          simp only [List.nil_append, List.cons_append, subscriberCount_insert_self,
            List.count_cons_self]
          push_cast
          omega
        · simp [subscriberCount_insert_of_ne _ hne, List.count_cons_of_ne (Ne.symm hne)]
      have hhead : turns .subscribeParam (subscriberCount counts) [] head =
          decide (subscriberCount counts head + 1 = 1) := by
        simp [turns]
      rw [List.pick, hhead, countSubscribed, List.nil_append, ← hrest, ← ih]
      by_cases h : subscriberCount counts head + 1 = 1 <;> simp [h]

theorem CountsPositive.countSubscribed {counts : UnorderedMap String Int}
    (h : CountsPositive counts) : CountsPositive (countSubscribed names counts).1 := by
  induction names generalizing counts with
  | nil => exact h
  | cons head rest ih =>
      have hnonneg := h.nonneg head
      have hinsert := ih (h.insert head (by omega : 0 < subscriberCount counts head + 1))
      rw [FoxgloveBridge.countSubscribed]
      split <;> exact hinsert

/-- One name of the unsubscribe loop: its count is one less, if there is one, and the name
is passed on if that was the last. -/
theorem countUnsubscribed_cons {counts : UnorderedMap String Int} (h : CountsPositive counts)
    (head : String) (rest : List String) : ∃ counts' : UnorderedMap String Int,
      CountsPositive counts' ∧
      subscriberCount counts' head = max 0 (subscriberCount counts head - 1) ∧
      (∀ name, name ≠ head → subscriberCount counts' name = subscriberCount counts name) ∧
      countUnsubscribed (head :: rest) counts =
        ((countUnsubscribed rest counts').1,
          if subscriberCount counts head = 1 then head :: (countUnsubscribed rest counts').2
          else (countUnsubscribed rest counts').2) := by
  rw [countUnsubscribed]
  cases hlookup : counts.lookup head with
  | none =>
      have hzero : subscriberCount counts head = 0 := by simp [subscriberCount, hlookup]
      exact ⟨counts, h, by omega, fun _ _ => rfl, by rw [hzero]; rfl⟩
  | some count =>
      have hpos := h head count hlookup
      have hcount : subscriberCount counts head = count := by simp [subscriberCount, hlookup]
      by_cases hone : count = 1
      · refine ⟨counts.erase head, h.erase head, ?_, ?_, by simp [hcount, hone]⟩
        · rw [subscriberCount_erase_self]
          omega
        · intro name hne
          exact subscriberCount_erase_of_ne counts hne
      · refine ⟨counts.insert head (count - 1), h.insert head (by omega), ?_, ?_, ?_⟩
        · rw [subscriberCount_insert_self]
          omega
        · intro name hne
          exact subscriberCount_insert_of_ne counts hne _
        · have hleft : count - 1 ≠ 0 := by omega
          simp [hcount, hone, hleft]

/-- The entry of a name once it is unsubscribed: the count is one less, if there is
one. -/
theorem countUnsubscribed_count {counts : UnorderedMap String Int} (h : CountsPositive counts)
    (name : String) : subscriberCount (countUnsubscribed names counts).1 name =
      max 0 (subscriberCount counts name - names.count name) := by
  induction names generalizing counts with
  | nil => simp [countUnsubscribed, h.nonneg name]
  | cons head rest ih =>
      have hnonneg := h.nonneg name
      obtain ⟨counts', hpos, hself, hother, heq⟩ := countUnsubscribed_cons h head rest
      rw [heq, ih hpos]
      by_cases hne : name = head
      · subst hne
        rw [hself, List.count_cons_self]
        push_cast
        omega
      · rw [hother name hne, List.count_cons_of_ne (Ne.symm hne)]

/-- The loop picks the occurrences at which a count goes from 1 to 0. -/
theorem countUnsubscribed_forward {counts : UnorderedMap String Int} (h : CountsPositive counts) :
    (countUnsubscribed names counts).2 =
      List.pick (turns .unsubscribeParam (subscriberCount counts)) [] names := by
  induction names generalizing counts with
  | nil => rfl
  | cons head rest ih =>
      have hhead : turns .unsubscribeParam (subscriberCount counts) [] head =
          decide (subscriberCount counts head = 1) := by
        simp [turns]
      obtain ⟨counts', hpos, hself, hother, heq⟩ := countUnsubscribed_cons h head rest
      -- the rest sees the occurrence of the head in the count that is left of it
      have hrest : List.pick (turns .unsubscribeParam (subscriberCount counts')) [] rest =
          List.pick (turns .unsubscribeParam (subscriberCount counts)) [head] rest := by
        refine List.pick_congr fun before name => decide_eq_decide.mpr ?_
        by_cases hne : name = head
        · subst hne
          simp only [List.nil_append, List.cons_append, hself, List.count_cons_self]
          push_cast
          omega
        · simp [hother _ hne, List.count_cons_of_ne (Ne.symm hne)]
      rw [List.pick, hhead, List.nil_append, heq, ← hrest, ← ih hpos]
      by_cases hone : subscriberCount counts head = 1 <;> simp [hone]

theorem CountsPositive.countUnsubscribed {counts : UnorderedMap String Int}
    (h : CountsPositive counts) : CountsPositive (countUnsubscribed names counts).1 := by
  induction names generalizing counts with
  | nil => exact h
  | cons head rest ih =>
      obtain ⟨counts', hpos, -, -, heq⟩ := countUnsubscribed_cons h head rest
      rw [heq]
      exact ih hpos

/-! ## What an operation does -/

/-- The names an operation passes on to the backend: those whose count it turns. -/
def ParamManager.forwarded (σ : ParamManager) (op : SubscriptionOp) (names : List String) :
    List String :=
  List.pick (turns op σ.count) [] names

/-- The names the backend makes a call for. -/
def permitted : SubscriptionOp → String → Bool
  | .subscribeParam => accepts R whitelist
  | .unsubscribeParam => fun _ => true

variable {R whitelist names succeeds} {op : SubscriptionOp}

/-- The counts after an operation. -/
theorem handle_count {σ : ParamManager} (h : CountsPositive σ.paramSubscriberCount)
    (name : String) : (σ.handle R whitelist names succeeds op).1.count name =
      match op with
      | .subscribeParam => σ.count name + names.count name
      | .unsubscribeParam => max 0 (σ.count name - names.count name) := by
  cases op with
  | subscribeParam =>
      have hcounts : (σ.handleSubscribeParams R whitelist names succeeds).1.paramSubscriberCount =
          (countSubscribed names σ.paramSubscriberCount).1 := by
        unfold ParamManager.handleSubscribeParams
        dsimp only
        split <;> rfl
      simp only [ParamManager.handle, ParamManager.count, hcounts, countSubscribed_count]
  | unsubscribeParam =>
      have hcounts : (σ.handleUnsubscribeParams R names succeeds).1.paramSubscriberCount =
          (countUnsubscribed names σ.paramSubscriberCount).1 := by
        unfold ParamManager.handleUnsubscribeParams
        dsimp only
        split <;> rfl
      simp only [ParamManager.handle, ParamManager.count, hcounts, countUnsubscribed_count names h]

/-- What a successful call makes of the registrations. -/
def registeredAfter (op : SubscriptionOp) (key : Key) (registered : Finset Key) : Finset Key :=
  match op with
  | .subscribeParam => insert key registered
  | .unsubscribeParam => registered.erase key

/-- The three ways one name of the backend's loop can go. -/
theorem callEach_cons_cases (op : SubscriptionOp) (permits : String → Bool)
    (succeeds : String → Bool) (name : String) (rest : List String) (β : ParamBackend) :
    (permits name = false ∧ ParamBackend.callEach R op permits succeeds (name :: rest) β =
      ParamBackend.callEach R op permits succeeds rest β) ∨
    (permits name = true ∧ R.resolve name = none ∧
      ParamBackend.callEach R op permits succeeds (name :: rest) β = (β, [name])) ∨
    (permits name = true ∧ ∃ key β', R.resolve name = some key ∧
      β'.registered = (if succeeds name then registeredAfter op key β.registered
        else β.registered) ∧ β'.shutdownFlag = β.shutdownFlag ∧
      ParamBackend.callEach R op permits succeeds (name :: rest) β =
        ((ParamBackend.callEach R op permits succeeds rest β').1,
          name :: (ParamBackend.callEach R op permits succeeds rest β').2)) := by
  rw [ParamBackend.callEach]
  cases hp : permits name with
  | false => exact .inl ⟨rfl, by simp⟩
  | true =>
      cases hr : R.resolve name with
      | none => exact .inr (.inl ⟨rfl, rfl, by simp [executeParamSubscription, hr]⟩)
      | some key =>
          refine .inr (.inr ⟨rfl, key, ?_⟩)
          cases hs : succeeds name with
          | false =>
              exact ⟨β, rfl, by simp, rfl, by simp [executeParamSubscription, hr]⟩
          | true =>
              refine ⟨{ β with registered := registeredAfter op key β.registered }.record op name,
                rfl, ?_, ?_, ?_⟩
              · cases op <;> rfl
              · cases op <;> rfl
              · cases op <;> simp [executeParamSubscription, hr, registeredAfter]

/-- The calls are made in order, up to the first name that does not resolve. -/
theorem callEach_calls (R : Roscpp) (op : SubscriptionOp) (permits succeeds : String → Bool)
    (names : List String) (β : ParamBackend) :
    (ParamBackend.callEach R op permits succeeds names β).2 <+: names.filter permits ∧
      ((ParamBackend.callEach R op permits succeeds names β).2 = names.filter permits ↔
        (names.filter permits).Pairwise fun name _ => (R.resolve name).isSome) := by
  induction names generalizing β with
  | nil => simp [ParamBackend.callEach]
  | cons name rest ih =>
      rcases callEach_cons_cases op permits succeeds name rest β with
        ⟨hp, heq⟩ | ⟨hp, hr, heq⟩ | ⟨hp, key, β', hr, -, -, heq⟩
      · rw [heq, List.filter_cons_of_neg (by simp [hp])]
        exact ih β
      · rw [heq, List.filter_cons_of_pos hp, List.pairwise_cons]
        refine ⟨List.cons_prefix_cons.mpr ⟨rfl, List.nil_prefix⟩, ?_⟩
        constructor
        · intro hall
          have hnil : rest.filter permits = [] := (List.cons.inj hall).2.symm
          rw [hnil]
          exact ⟨fun _ h => absurd h List.not_mem_nil, .nil⟩
        · rintro ⟨hfirst, -⟩
          cases hrest : rest.filter permits with
          | nil => rfl
          | cons other others => simpa [hr] using hfirst other (hrest ▸ List.mem_cons_self)
      · obtain ⟨hinitial, hall⟩ := ih β'
        rw [heq, List.filter_cons_of_pos hp, List.pairwise_cons, List.cons_prefix_cons,
          List.cons.injEq, hall]
        refine ⟨⟨rfl, hinitial⟩, ⟨fun h => ⟨fun _ _ => by simp [hr], h.2⟩, fun h => ⟨rfl, h.2⟩⟩⟩

/-- The loop registers, or drops, one key after another: what it has done to a key
stays. -/
theorem callEach_registered_stays (permits : String → Bool) (names : List String)
    {β : ParamBackend} {key : Key} (h : key ∈ β.registered ↔ op = .subscribeParam) :
    key ∈ (ParamBackend.callEach R op permits succeeds names β).1.registered ↔
      op = .subscribeParam := by
  induction names generalizing β with
  | nil => exact h
  | cons name rest ih =>
      rcases callEach_cons_cases op permits succeeds name rest β with
        ⟨-, heq⟩ | ⟨-, -, heq⟩ | ⟨-, other, β', -, hreg, -, heq⟩
      · rw [heq]
        exact ih h
      · rw [heq]
        exact h
      · rw [heq]
        apply ih
        rw [hreg]
        split
        · cases op with
          | subscribeParam => simp [registeredAfter, h.mpr rfl]
          | unsubscribeParam => simp [registeredAfter, h]
        · exact h

/-- A name that got its call, and whose call succeeded, is registered or dropped. -/
theorem callEach_effective (permits : String → Bool) {names : List String} {β : ParamBackend}
    {name : String} (hcalled : name ∈ (ParamBackend.callEach R op permits succeeds names β).2)
    {key : Key} (hr : R.resolve name = some key) (hs : succeeds name = true) :
    key ∈ (ParamBackend.callEach R op permits succeeds names β).1.registered ↔
      op = .subscribeParam := by
  induction names generalizing β with
  | nil => simp [ParamBackend.callEach] at hcalled
  | cons head rest ih =>
      rcases callEach_cons_cases op permits succeeds head rest β with
        ⟨-, heq⟩ | ⟨-, hnone, heq⟩ | ⟨-, other, β', hother, hreg, -, heq⟩
      · rw [heq] at hcalled ⊢
        exact ih hcalled
      · rw [heq] at hcalled
        obtain rfl := List.mem_singleton.mp hcalled
        simp [hr] at hnone
      · rw [heq] at hcalled ⊢
        rcases List.mem_cons.mp hcalled with rfl | hrest
        · obtain rfl : key = other := Option.some.inj (hr.symm.trans hother)
          apply callEach_registered_stays permits rest
          rw [hreg, if_pos hs]
          cases op <;> simp [registeredAfter]
        · exact ih hrest

theorem callEach_shutdownFlag (permits : String → Bool) (names : List String) (β : ParamBackend) :
    (ParamBackend.callEach R op permits succeeds names β).1.shutdownFlag = β.shutdownFlag := by
  induction names generalizing β with
  | nil => rfl
  | cons name rest ih =>
      rcases callEach_cons_cases op permits succeeds name rest β with
        ⟨-, heq⟩ | ⟨-, -, heq⟩ | ⟨-, key, β', -, -, hflag, heq⟩
      · rw [heq, ih]
      · rw [heq]
      · rw [heq, ih, hflag]

/-- If every name resolves and every call succeeds, exactly the keys of the permitted
names are registered, or dropped. -/
theorem mem_callEach_registered (permits : String → Bool) {names : List String} {β : ParamBackend}
    (hvalid : ∀ name ∈ names, (R.resolve name).isSome) (hs : ∀ name, succeeds name = true)
    (key : Key) :
    key ∈ (ParamBackend.callEach R op permits succeeds names β).1.registered ↔
      match op with
      | .subscribeParam =>
          key ∈ β.registered ∨ ∃ name ∈ names, permits name = true ∧ R.resolve name = some key
      | .unsubscribeParam =>
          key ∈ β.registered ∧ ∀ name ∈ names, permits name = true → R.resolve name ≠ some key := by
  induction names generalizing β with
  | nil => cases op <;> simp [ParamBackend.callEach]
  | cons head rest ih =>
      have hrest := fun β' : ParamBackend =>
        ih (β := β') fun name hn => hvalid name (List.mem_cons_of_mem _ hn)
      rcases callEach_cons_cases op permits succeeds head rest β with
        ⟨hp, heq⟩ | ⟨-, hnone, -⟩ | ⟨hp, other, β', hr, hreg, -, heq⟩
      · rw [heq, hrest]
        cases op <;> simp [hp]
      · simpa [hnone] using hvalid head List.mem_cons_self
      · rw [heq, hrest, hreg, if_pos (hs head)]
        cases op with
        | subscribeParam =>
            simp only [registeredAfter, Finset.mem_insert, List.exists_mem_cons_iff, hp, hr,
              Option.some.injEq, true_and]
            tauto
        | unsubscribeParam =>
            simp only [registeredAfter, Finset.mem_erase, List.forall_mem_cons, hp, hr, ne_eq,
              Option.some.injEq, true_imp_iff]
            tauto

/-- `subscribeParams` after `shutdown` makes no call at all. -/
theorem handle_backend_shutdown (R : Roscpp) (whitelist : Whitelist) (names : List String)
    (succeeds : String → Bool) {σ : ParamManager} (hop : op = .subscribeParam)
    (hflag : σ.backend.shutdownFlag = true) :
    (σ.handle R whitelist names succeeds op).1.backend = σ.backend ∧
      (σ.handle R whitelist names succeeds op).2 = [] := by
  subst hop
  simp only [ParamManager.handle, ParamManager.handleSubscribeParams]
  split <;> simp [ParamBackend.subscribeParams, hflag]

/-- Otherwise the backend's loop runs over the forwarded names. -/
theorem handle_backend (R : Roscpp) (whitelist : Whitelist) (names : List String)
    (succeeds : String → Bool) (op : SubscriptionOp) {σ : ParamManager}
    (h : CountsPositive σ.paramSubscriberCount)
    (hflag : op = .subscribeParam → σ.backend.shutdownFlag = false) :
    ((σ.handle R whitelist names succeeds op).1.backend,
      (σ.handle R whitelist names succeeds op).2) =
    ParamBackend.callEach R op (permitted R whitelist op) succeeds (σ.forwarded op names)
      σ.backend := by
  cases op with
  | subscribeParam =>
      have hforward : σ.forwarded .subscribeParam names =
          (countSubscribed names σ.paramSubscriberCount).2 :=
        (countSubscribed_forward names σ.paramSubscriberCount).symm
      simp only [ParamManager.handle, ParamManager.handleSubscribeParams, hforward]
      split
      · rename_i hnil
        rw [hnil, ParamBackend.callEach]
      · simp [ParamBackend.subscribeParams, hflag rfl, permitted]
  | unsubscribeParam =>
      have hforward : σ.forwarded .unsubscribeParam names =
          (countUnsubscribed names σ.paramSubscriberCount).2 :=
        (countUnsubscribed_forward names h).symm
      simp only [ParamManager.handle, ParamManager.handleUnsubscribeParams, hforward]
      split
      · rename_i hnil
        rw [hnil, ParamBackend.callEach]
      · simp [ParamBackend.unsubscribeParams, permitted]

/-- A name is forwarded when its count turns, however often it is listed. -/
theorem mem_forwarded {σ : ParamManager} (h : CountsPositive σ.paramSubscriberCount)
    {name : String} : name ∈ σ.forwarded op names ↔
      match op with
      | .subscribeParam => name ∈ names ∧ σ.count name = 0
      | .unsubscribeParam => 0 < σ.count name ∧ σ.count name ≤ names.count name := by
  have hnonneg : 0 ≤ σ.count name := h.nonneg name
  rw [ParamManager.forwarded, List.mem_pick]
  cases op with
  | subscribeParam =>
      constructor
      · rintro ⟨before, after, rfl, hturn⟩
        have hturn : σ.count name + before.count name = 0 := of_decide_eq_true hturn
        exact ⟨by simp, by omega⟩
      · rintro ⟨hmem, hzero⟩
        obtain ⟨before, after, rfl, hfirst⟩ := List.eq_append_cons_of_mem hmem
        exact ⟨before, after, rfl, decide_eq_true (by
          simp [hzero, List.count_eq_zero.mpr hfirst])⟩
  | unsubscribeParam =>
      constructor
      · rintro ⟨before, after, rfl, hturn⟩
        have hturn : σ.count name - before.count name = 1 := of_decide_eq_true hturn
        rw [List.count_append, List.count_cons_self]
        push_cast
        omega
      · rintro ⟨hpos, hle⟩
        obtain ⟨before, after, rfl, hcount⟩ :=
          List.exists_count_eq_iff.mpr (by omega : (σ.count name - 1).toNat < names.count name)
        exact ⟨before, after, rfl, decide_eq_true (by simp only [List.nil_append]; omega)⟩

/-- A count turns only once in an operation. -/
theorem nodup_forwarded (σ : ParamManager) (op : SubscriptionOp) (names : List String) :
    (σ.forwarded op names).Nodup := by
  apply List.pairwise_pick.mpr
  intro before name between other after _ hname hother heq
  subst heq
  cases op with
  | subscribeParam =>
      have h₁ : σ.count name + before.count name = 0 := of_decide_eq_true hname
      have h₂ : σ.count name + (before ++ name :: between).count name = 0 :=
        of_decide_eq_true hother
      rw [List.count_append, List.count_cons_self] at h₂
      push_cast at h₂
      omega
  | unsubscribeParam =>
      have h₁ : σ.count name - before.count name = 1 := of_decide_eq_true hname
      have h₂ : σ.count name - (before ++ name :: between).count name = 1 :=
        of_decide_eq_true hother
      rw [List.count_append, List.count_cons_self] at h₂
      push_cast at h₂
      omega

theorem CountsPositive.handle {σ : ParamManager} (h : CountsPositive σ.paramSubscriberCount) :
    CountsPositive (σ.handle R whitelist names succeeds op).1.paramSubscriberCount := by
  cases op with
  | subscribeParam =>
      simp only [ParamManager.handle, ParamManager.handleSubscribeParams]
      split <;> exact h.countSubscribed names
  | unsubscribeParam =>
      simp only [ParamManager.handle, ParamManager.handleUnsubscribeParams]
      split <;> exact h.countUnsubscribed names

theorem countsPositive_initial : CountsPositive ParamManager.initial.paramSubscriberCount := by
  intro name count hlookup
  simp [ParamManager.initial] at hlookup

theorem CountsPositive.step {σ σ' : ParamManager} (h : CountsPositive σ.paramSubscriberCount)
    {a : InterestAction} (hs : (interestSystem R whitelist).step σ a = some σ') :
    CountsPositive σ'.paramSubscriberCount := by
  cases a with
  | handle op names succeeds =>
      obtain rfl := Option.some.inj hs
      exact h.handle
  | shutdown succeeds order =>
      simp only [interestSystem, ParamManager.step, Option.ite_none_right_eq_some,
        Option.some.injEq] at hs
      obtain ⟨-, rfl⟩ := hs
      exact h

theorem countsPositive_of_reachable {σ : ParamManager}
    (h : (interestSystem R whitelist).Reachable σ) : CountsPositive σ.paramSubscriberCount :=
  h.invariant (I := fun τ => CountsPositive τ.paramSubscriberCount)
    { init := by
        rintro τ rfl
        exact countsPositive_initial
      step := fun _ _ _ hτ _ hs => hτ.step hs }

/-- How often an operation subscribes to a name. -/
def InterestAction.subscribes (name : String) : InterestAction → Nat
  | .handle .subscribeParam names _ => names.count name
  | .handle .unsubscribeParam _ _ | .shutdown .. => 0

def subscribedIn (name : String) : List InterestAction → Nat
  | [] => 0
  | a :: rest => a.subscribes name + subscribedIn name rest

theorem count_step_le {σ σ' : ParamManager} (h : CountsPositive σ.paramSubscriberCount)
    {a : InterestAction} (hs : (interestSystem R whitelist).step σ a = some σ')
    (name : String) : σ'.count name ≤ σ.count name + a.subscribes name := by
  have hnonneg : 0 ≤ σ.count name := h.nonneg name
  cases a with
  | handle op names succeeds =>
      obtain rfl := Option.some.inj hs
      rw [handle_count h]
      cases op with
      | subscribeParam => exact Int.le_refl _
      | unsubscribeParam =>
          show max 0 (σ.count name - names.count name) ≤ σ.count name + (0 : Nat)
          omega
  | shutdown succeeds order =>
      simp only [interestSystem, ParamManager.step, Option.ite_none_right_eq_some,
        Option.some.injEq] at hs
      obtain ⟨-, rfl⟩ := hs
      show σ.count name ≤ σ.count name + (0 : Nat)
      omega

/-- **The counts fit their `int`.** A count is at most the number of times that the name was
subscribed to, so the integer of the model is the `int` of the map for the first 2^31 - 1 of
them. -/
theorem count_exec_le {σ σ' : ParamManager} (h : CountsPositive σ.paramSubscriberCount)
    {operations : List InterestAction}
    (he : (interestSystem R whitelist).exec σ operations = some σ') (name : String) :
    σ'.count name ≤ σ.count name + subscribedIn name operations := by
  induction operations generalizing σ with
  | nil =>
      obtain rfl : σ = σ' := by simpa [TSys.exec] using he
      show σ.count name ≤ σ.count name + (0 : Nat)
      omega
  | cons a rest ih =>
      obtain ⟨τ, hs, hrest⟩ := TSys.exec_cons_eq_some_iff.mp he
      have hone := count_step_le h hs name
      have hmore := ih (h.step hs) hrest
      rw [subscribedIn]
      omega

/-! ## One call for each forwarded name -/

variable (R whitelist names succeeds op)

/-- The operation turns the count of the name: from 0, or to 0. -/
def ParamManager.Turned (σ : ParamManager) (name : String) : Prop :=
  match op with
  | .subscribeParam =>
      σ.count name = 0 ∧ 0 < (σ.handle R whitelist names succeeds op).1.count name
  | .unsubscribeParam =>
      0 < σ.count name ∧ (σ.handle R whitelist names succeeds op).1.count name = 0

/-- Every permitted name whose count turns gets its master call; if the call succeeds,
its key is then registered, or no longer registered. -/
def ParamManager.CallsIsolated (σ : ParamManager) : Prop :=
  ∀ name, permitted R whitelist op name = true → σ.Turned R whitelist names succeeds op name →
    name ∈ (σ.handle R whitelist names succeeds op).2 ∧
      ∀ key, R.resolve name = some key → succeeds name = true →
        (key ∈ (σ.handle R whitelist names succeeds op).1.backend.registered ↔
          op = .subscribeParam)

/-- No permitted name that turns and does not resolve stands before another permitted
name that turns; after `shutdown` there is none at all to subscribe. -/
def ParamManager.NoneCutOff (σ : ParamManager) : Prop :=
  if op = .subscribeParam ∧ σ.backend.shutdownFlag = true then
    ∀ name ∈ names, permitted R whitelist op name = true → σ.count name ≠ 0
  else
    ∀ before name between other after, names = before ++ name :: (between ++ other :: after) →
      turns op σ.count before name = true →
      turns op σ.count (before ++ name :: between) other = true →
      permitted R whitelist op name = true → permitted R whitelist op other = true →
      (R.resolve name).isSome

variable {R whitelist names succeeds op}

/-- Turning a count is being forwarded. -/
theorem turned_iff {σ : ParamManager} (h : CountsPositive σ.paramSubscriberCount) {name : String} :
    σ.Turned R whitelist names succeeds op name ↔ name ∈ σ.forwarded op names := by
  have hnonneg : 0 ≤ σ.count name := h.nonneg name
  unfold ParamManager.Turned
  rw [mem_forwarded h, handle_count h]
  cases op with
  | subscribeParam =>
      rw [← List.count_pos_iff]
      dsimp only
      omega
  | unsubscribeParam =>
      dsimp only
      omega

/-- A duplicate-free list is exhausted by a part of it only if the part is the list. -/
theorem forall_mem_called_iff {called forwarded : List String} (hinitial : called <+: forwarded)
    (hnodup : forwarded.Nodup) : (∀ name ∈ forwarded, name ∈ called) ↔ called = forwarded := by
  constructor
  · intro hall
    obtain ⟨rest, rfl⟩ := hinitial
    cases rest with
    | nil => simp
    | cons name rest =>
        have hcalled : name ∈ called := hall name (by simp)
        exact absurd rfl ((List.nodup_append.mp hnodup).2.2 name hcalled name List.mem_cons_self)
  · rintro rfl name hname
    exact hname

/-- While the backend is up, a name whose count turns gets its call exactly if the loop
is not left before it. -/
theorem callsIsolated_iff_pairwise {σ : ParamManager}
    (h : CountsPositive σ.paramSubscriberCount)
    (hflag : op = .subscribeParam → σ.backend.shutdownFlag = false) :
    σ.CallsIsolated R whitelist names succeeds op ↔
      (σ.forwarded op names).Pairwise fun name other =>
        permitted R whitelist op name = true → permitted R whitelist op other = true →
          (R.resolve name).isSome := by
  obtain ⟨hbackend, hcalled⟩ := Prod.mk.inj
    (handle_backend R whitelist names succeeds op h hflag)
  obtain ⟨hinitial, hall⟩ := callEach_calls R op (permitted R whitelist op) succeeds
    (σ.forwarded op names) σ.backend
  have hnodup := (nodup_forwarded σ op names).filter (permitted R whitelist op)
  have hcalls : σ.CallsIsolated R whitelist names succeeds op ↔
      ∀ name ∈ (σ.forwarded op names).filter (permitted R whitelist op),
        name ∈ (σ.handle R whitelist names succeeds op).2 := by
    unfold ParamManager.CallsIsolated
    simp only [turned_iff h, List.mem_filter]
    constructor
    · exact fun hiso name hname => (hiso name hname.2 hname.1).1
    · intro hmem name hp hname
      refine ⟨hmem name ⟨hname, hp⟩, fun key hr hs => ?_⟩
      rw [hbackend]
      exact callEach_effective _ (hcalled ▸ hmem name ⟨hname, hp⟩) hr hs
  rw [hcalls, hcalled, forall_mem_called_iff hinitial hnodup, hall, List.pairwise_filter]

/-- **Isolation in a batch.** In every reachable state, every permitted name that an
operation turns gets its master call, whatever the other names do, if and only if no
such name that does not resolve stands before another. -/
theorem calls_isolated_iff {σ : ParamManager} (h : (interestSystem R whitelist).Reachable σ)
    (op : SubscriptionOp) (names : List String) (succeeds : String → Bool) :
    σ.CallsIsolated R whitelist names succeeds op ↔ σ.NoneCutOff R whitelist names op := by
  have hpos := countsPositive_of_reachable h
  unfold ParamManager.NoneCutOff
  split
  · -- after `shutdown` no subscribe call is made at all
    rename_i hdown
    obtain ⟨rfl, hflag⟩ := hdown
    obtain ⟨-, hnone⟩ := handle_backend_shutdown R whitelist names succeeds rfl hflag
    unfold ParamManager.CallsIsolated
    simp only [turned_iff hpos, hnone, List.not_mem_nil, false_and, imp_false, mem_forwarded hpos]
    constructor
    · exact fun hall name hname hp hzero => hall name hp ⟨hname, hzero⟩
    · exact fun hall name hp hturned => hall name hturned.1 hp hturned.2
  · rename_i hup
    have hflag : op = .subscribeParam → σ.backend.shutdownFlag = false := by
      intro hop
      rw [Bool.eq_false_iff]
      exact fun hflag => hup ⟨hop, hflag⟩
    rw [callsIsolated_iff_pairwise hpos hflag, ParamManager.forwarded, List.pairwise_pick]
    simp only [List.nil_append]

theorem calls_isolated_two_names :
    (.initial : ParamManager).CallsIsolated bridgeNode [fun _ => true] ["/camera", "0"]
      (fun _ => true) .subscribeParam := by
  apply (calls_isolated_iff (.init rfl) _ _ _).mpr
  rw [ParamManager.NoneCutOff, if_neg (by decide)]
  intro before name between other after heq _ _ _ _
  -- the invalid name is the last of the two
  cases before with
  | nil =>
      obtain ⟨rfl, -⟩ := List.cons.inj heq
      decide
  | cons first before =>
      have hlength := congrArg List.length heq
      simp only [List.length_cons, List.length_append, List.length_nil] at hlength
      omega

/-- **A batch cut off.** The invalid name comes first: the other one is counted and
never registered. -/
theorem not_calls_isolated :
    (∃ σ, (interestSystem bridgeNode [fun _ => true]).Reachable σ ∧ 0 < σ.count "/camera" ∧
      bridgeNode.resolve "/camera" = some ["camera"] ∧ ["camera"] ∉ σ.backend.registered) ∧
    ¬ ∀ σ, (interestSystem bridgeNode [fun _ => true]).Reachable σ → ∀ op names succeeds,
      σ.CallsIsolated bridgeNode [fun _ => true] names succeeds op := by
  have hstep : (interestSystem bridgeNode [fun _ => true]).step .initial
      (.handle .subscribeParam ["0", "/camera"] fun _ => true) =
      some (ParamManager.initial.handle bridgeNode [fun _ => true] ["0", "/camera"]
        (fun _ => true) .subscribeParam).1 := rfl
  constructor
  · exact ⟨_, TSys.Reachable.step (.init rfl) hstep, by decide, rfl, by decide⟩
  · intro hall
    have hcalled := (hall .initial (.init rfl) .subscribeParam ["0", "/camera"] (fun _ => true)
      "/camera" (by decide) ⟨by decide, by decide⟩).1
    exact absurd hcalled (by decide)

/-! ## Registrations and interest -/

variable (R whitelist)

/-- The keys registered with the master are those of the permitted names that somebody
subscribed to. -/
def ParamManager.RegistrationsAgree (σ : ParamManager) : Prop :=
  ∀ key, key ∈ σ.backend.registered ↔
    ∃ name, accepts R whitelist name = true ∧ 0 < σ.count name ∧ R.resolve name = some key

/-- The condition on an operation: where it ends the interest in a name, no permitted
other spelling of the same key keeps a subscription. -/
def KeepsOtherSpellings (σ : ParamManager) : InterestAction → Prop
  | .handle .unsubscribeParam names _ =>
      ∀ ended, 0 < σ.count ended → σ.count ended ≤ names.count ended →
        ∀ other, accepts R whitelist other = true → names.count other < σ.count other →
          R.resolve other ≠ R.resolve ended
  | _ => True

/-- An operation on valid names, with a master that answers. -/
def InterestAction.Ordinary : InterestAction → Prop
  | .handle _ names succeeds =>
      (∀ name ∈ names, (R.resolve name).isSome) ∧ ∀ name, succeeds name = true
  | .shutdown _ _ => False

variable {R whitelist}

/-- The registrations after an operation on valid names. -/
theorem mem_handle_registered {σ : ParamManager} (h : CountsPositive σ.paramSubscriberCount)
    (hflag : σ.backend.shutdownFlag = false) (hvalid : ∀ name ∈ names, (R.resolve name).isSome)
    (hs : ∀ name, succeeds name = true) (key : Key) :
    key ∈ (σ.handle R whitelist names succeeds op).1.backend.registered ↔
      match op with
      | .subscribeParam => key ∈ σ.backend.registered ∨
          ∃ name ∈ names, σ.count name = 0 ∧ accepts R whitelist name = true ∧
            R.resolve name = some key
      | .unsubscribeParam => key ∈ σ.backend.registered ∧
          ∀ name, 0 < σ.count name → σ.count name ≤ names.count name →
            R.resolve name ≠ some key := by
  obtain ⟨hbackend, -⟩ := Prod.mk.inj
    (handle_backend R whitelist names succeeds op h fun _ => hflag)
  have hmem : ∀ name ∈ σ.forwarded op names, name ∈ names := by
    intro name hname
    obtain ⟨before, after, rfl, -⟩ := List.mem_pick.mp hname
    simp
  rw [hbackend, mem_callEach_registered _ (fun name hn => hvalid name (hmem name hn)) hs]
  cases op with
  | subscribeParam =>
      simp only [mem_forwarded h, permitted]
      refine or_congr_right (exists_congr fun name => ?_)
      tauto
  | unsubscribeParam =>
      simp only [mem_forwarded h, permitted]
      refine and_congr_right fun _ => forall_congr' fun name => ?_
      tauto

/-- A subscribe operation never upsets the agreement. -/
theorem ParamManager.RegistrationsAgree.subscribe {σ : ParamManager}
    (hagree : σ.RegistrationsAgree R whitelist) (h : CountsPositive σ.paramSubscriberCount)
    (hflag : σ.backend.shutdownFlag = false) (hvalid : ∀ name ∈ names, (R.resolve name).isSome)
    (hs : ∀ name, succeeds name = true) :
    (σ.handle R whitelist names succeeds .subscribeParam).1.RegistrationsAgree R whitelist := by
  intro key
  rw [mem_handle_registered h hflag hvalid hs, hagree key]
  simp only [handle_count h]
  constructor
  · rintro (⟨name, ha, hc, hr⟩ | ⟨name, hmem, hzero, ha, hr⟩)
    · exact ⟨name, ha, by omega, hr⟩
    · have hcount : 0 < names.count name := List.count_pos_iff.mpr hmem
      exact ⟨name, ha, by omega, hr⟩
  · rintro ⟨name, ha, hc, hr⟩
    have hnonneg : 0 ≤ σ.count name := h.nonneg name
    by_cases hzero : σ.count name = 0
    · have hmem : name ∈ names := List.count_pos_iff.mp (by omega)
      exact .inr ⟨name, hmem, hzero, ha, hr⟩
    · exact .inl ⟨name, ha, by omega, hr⟩

/-- An unsubscribe operation keeps it exactly if no other spelling is still wanted. -/
theorem ParamManager.RegistrationsAgree.unsubscribe_iff {σ : ParamManager}
    (hagree : σ.RegistrationsAgree R whitelist) (h : CountsPositive σ.paramSubscriberCount)
    (hflag : σ.backend.shutdownFlag = false) (hvalid : ∀ name ∈ names, (R.resolve name).isSome)
    (hs : ∀ name, succeeds name = true) :
    (σ.handle R whitelist names succeeds .unsubscribeParam).1.RegistrationsAgree R whitelist ↔
      KeepsOtherSpellings R whitelist σ (.handle .unsubscribeParam names succeeds) := by
  unfold ParamManager.RegistrationsAgree
  simp only [mem_handle_registered h hflag hvalid hs, handle_count h, hagree _]
  constructor
  · intro hafter ended hpos hends other ha hleft heq
    have hmem : ended ∈ names := List.count_pos_iff.mp (by omega)
    obtain ⟨key, hr⟩ := Option.isSome_iff_exists.mp (hvalid ended hmem)
    -- the other spelling wants the key that the ended one took away
    obtain ⟨-, hkept⟩ := (hafter key).mpr ⟨other, ha, by omega, heq.trans hr⟩
    exact hkept ended hpos hends hr
  · intro hkeeps key
    constructor
    · rintro ⟨⟨name, ha, hc, hr⟩, hkept⟩
      have hstill : ¬ σ.count name ≤ names.count name := fun hends => hkept name hc hends hr
      exact ⟨name, ha, by omega, hr⟩
    · rintro ⟨name, ha, hc, hr⟩
      refine ⟨⟨name, ha, by omega, hr⟩, fun ended hpos hends hrended => ?_⟩
      exact hkeeps ended hpos hends name ha (by omega) (hr.trans hrended.symm)

/-- **Registrations follow interest.** In a run of operations on valid names, the
registered keys are those of the permitted names with a positive count after every
operation, if and only if no operation ends the interest in one spelling of a key while
a permitted other spelling is still wanted. The counts stay below 2^31 as long as no name is
subscribed to that often (`count_exec_le`). -/
theorem registrations_agree_iff (R : Roscpp) (whitelist : Whitelist)
    (operations : List InterestAction) (hordinary : ∀ a ∈ operations, a.Ordinary R) :
    (∀ done, done <+: operations → ∀ σ,
        (interestSystem R whitelist).exec .initial done = some σ →
          σ.RegistrationsAgree R whitelist) ↔
      (interestSystem R whitelist).Guarded (KeepsOtherSpellings R whitelist) .initial
        operations := by
  refine TSys.guarded_iff_forall_exec
    (J := fun σ => CountsPositive σ.paramSubscriberCount ∧ σ.backend.shutdownFlag = false)
    ⟨countsPositive_initial, rfl⟩ ?_ ?_
  · intro key
    simp [ParamManager.initial, subscriberCount]
  · rintro σ ⟨hpos, hflag⟩ a ha
    cases a with
    | shutdown => exact (hordinary _ ha).elim
    | handle op names succeeds =>
        obtain ⟨hvalid, hs⟩ := hordinary _ ha
        obtain ⟨hbackend, -⟩ := Prod.mk.inj
          (handle_backend R whitelist names succeeds op hpos fun _ => hflag)
        refine ⟨_, rfl, ⟨hpos.handle, ?_⟩, fun hagree => ?_⟩
        · rw [hbackend, callEach_shutdownFlag, hflag]
        cases op with
        | subscribeParam =>
            exact iff_of_true (hagree.subscribe hpos hflag hvalid hs) trivial
        | unsubscribeParam => exact hagree.unsubscribe_iff hpos hflag hvalid hs

/-- Two clients subscribe, and the second one leaves. -/
def subscribeTwice (name other : String) : List InterestAction :=
  [.handle .subscribeParam [name] fun _ => true, .handle .subscribeParam [other] fun _ => true,
    .handle .unsubscribeParam [other] fun _ => true]

theorem subscribeTwice_ordinary {name other : String} (h : (R.resolve name).isSome)
    (h' : (R.resolve other).isSome) : ∀ a ∈ subscribeTwice name other, a.Ordinary R := by
  simp [subscribeTwice, InterestAction.Ordinary, h, h']

/-- Both transports subscribe to a parameter, and one of them leaves. -/
theorem registrations_agree_two_transports :
    ∃ σ, (interestSystem bridgeNode [fun _ => true]).exec .initial
        (subscribeTwice "/camera" "/camera") = some σ ∧
      σ.RegistrationsAgree bridgeNode [fun _ => true] := by
  refine ⟨_, rfl, (registrations_agree_iff bridgeNode [fun _ => true]
    (subscribeTwice "/camera" "/camera") (subscribeTwice_ordinary rfl rfl)).mpr ?_ _
    (List.prefix_refl _) _ rfl⟩
  refine ⟨trivial, ?_⟩
  rintro σ ⟨⟩
  refine ⟨trivial, ?_⟩
  rintro τ ⟨⟩
  refine ⟨?_, fun _ _ => trivial⟩
  -- one of two subscriptions is left, and no other name has any
  intro ended hpos hends
  rw [handle_count countsPositive_initial.handle, handle_count countsPositive_initial] at hpos hends
  have hzero : ParamManager.initial.count ended = 0 := by
    simp [ParamManager.initial, subscriberCount]
  dsimp only at hpos hends
  omega

/-- **A cut-off spelling.** Two clients subscribe to one parameter under two names, and
the one that leaves unregisters it for both. -/
theorem not_registrations_agree :
    ¬ ∀ operations : List InterestAction, (∀ a ∈ operations, a.Ordinary bridgeNode) →
      ∀ done, done <+: operations → ∀ σ,
        (interestSystem bridgeNode [fun _ => true]).exec .initial done = some σ →
          σ.RegistrationsAgree bridgeNode [fun _ => true] := by
  intro hall
  have hagree := hall (subscribeTwice "/camera" "camera") (subscribeTwice_ordinary rfl rfl) _
    (List.prefix_refl _) _ rfl
  have hregistered := (hagree ["camera"]).mpr ⟨"/camera", by decide, by decide, by decide⟩
  exact absurd hregistered (by decide)

end FoxgloveBridge
