import FoxgloveBridge.Lib.TSys
import FoxgloveBridge.Param.Access
import Mathlib.Data.Finset.Basic

/-!
# Parameter subscriptions

The push path of `Ros1ParameterInterface` as a transition system. Three threads
take part: the parameter worker, which runs `subscribeParams` and
`unsubscribeParams` one call at a time; the thread that runs `shutdown`; and the
XML-RPC thread, which runs `parameterUpdates` for each notification of the
master. A step is one locked section or one master call, and the master's answer
is part of the action.

Two properties of whole runs are settled here. What reaches the update callback
passes the read filter as long as every registered subscription covers accepted
keys only (`delivered_accepted`): the filter looks at the requested name, while
the master pushes every key below it. And `shutdown` leaves no registration
behind as long as no `subscribeParams` is about to register one when it takes the
lock (`registered_eq_empty`): the flag is read once for a whole batch.
-/

namespace FoxgloveBridge

/-- The two operations of `executeParamSubscription`. -/
inductive SubscriptionOp
  | subscribeParam
  | unsubscribeParam
  deriving DecidableEq, Repr

/-- Where the parameter worker is. -/
inductive WorkerPhase
  | idle
  /-- Past the shutdown check of `subscribeParams`, these names to go. -/
  | subscribing (rest : List String)
  /-- The master registered `name`; the locked insertion is next. -/
  | recording (name : String) (rest : List String)
  | unsubscribing (rest : List String)
  /-- The master dropped `name`; the locked erasure is next. -/
  | erasing (name : String) (rest : List String)
  deriving DecidableEq, Repr

/-- Where `shutdown` is. -/
inductive ShutdownPhase
  | notStarted
  /-- The loop over the set taken under the lock, these names to go. -/
  | unregistering (subscribed : Finset String)
  | returned
  /-- A name did not resolve and the exception left `shutdown`. -/
  | threw
  deriving DecidableEq

/-- The names the loop of `shutdown` still has to unregister. -/
def ShutdownPhase.pending : ShutdownPhase → Finset String
  | .unregistering subscribed => subscribed
  | _ => ∅

structure ParamState where
  /-- `_subscribedParams`. -/
  subscribedParams : Finset String
  /-- `_shutdown`. -/
  shutdownFlag : Bool
  /-- Whether `_paramUpdateFunc` is set. -/
  paramUpdateFunc : Bool
  worker : WorkerPhase
  shutdown : ShutdownPhase
  /-- The keys the master has registered for the bridge's XML-RPC server. -/
  registered : Finset Key
  /-- Notifications the master has sent: the name as it is spelled, the value. -/
  inFlight : List (String × XmlRpcValue)
  /-- The parameters handed to the update callback so far. -/
  delivered : List Parameter

/-- One locked section, one master call with its answer, or one notification. -/
inductive ParamAction
  | subscribeParams (names : List String)
  | subscribeNext (succeeds : Bool)
  | recordSubscribed
  | unsubscribeParams (names : List String)
  | unsubscribeNext (succeeds : Bool)
  | eraseSubscribed
  /-- The worker's call runs out of names and returns. -/
  | workerReturns
  | setParamUpdateCallback (set : Bool)
  | shutdown
  | unregister (name : String) (succeeds : Bool)
  | stopServer
  /-- The master sends a change of `key`, spelled `text`. -/
  | notify (text : String) (key : Key) (value : XmlRpcValue)
  /-- `parameterUpdates` runs for the notification at this position. -/
  | parameterUpdates (position : Nat)

variable (R : Roscpp) (whitelist : Whitelist)

/-- `executeParamSubscription`: resolve the name, which may throw, and ask the
master. Yields the result and the registrations afterwards. -/
def executeParamSubscription (op : SubscriptionOp) (paramName : String) (succeeds : Bool)
    (registered : Finset Key) : Except String (Bool × Finset Key) :=
  match R.resolve paramName with
  | none => .error "Invalid name"
  | some key =>
      if succeeds then
        match op with
        | .subscribeParam => .ok (true, insert key registered)
        | .unsubscribeParam => .ok (true, registered.erase key)
      else .ok (false, registered)

/-- The body of the loop in `subscribeParams`, up to the locked insertion. -/
def ParamState.subscribeNext (σ : ParamState) (name : String) (rest : List String)
    (succeeds : Bool) : ParamState :=
  if isOwnParameter R name then { σ with worker := .subscribing rest }
  else if !matchesRegex name whitelist then { σ with worker := .subscribing rest }
  else
    match executeParamSubscription R .subscribeParam name succeeds σ.registered with
    -- the exception ends the whole call
    | .error _ => { σ with worker := .idle }
    | .ok (true, registered) =>
        { σ with worker := .recording name rest, registered := registered }
    | .ok (false, registered) => { σ with worker := .subscribing rest, registered := registered }

/-- The body of the loop in `unsubscribeParams`, up to the locked erasure. -/
def ParamState.unsubscribeNext (σ : ParamState) (name : String) (rest : List String)
    (succeeds : Bool) : ParamState :=
  match executeParamSubscription R .unsubscribeParam name succeeds σ.registered with
  | .error _ => { σ with worker := .idle }
  | .ok (true, registered) => { σ with worker := .erasing name rest, registered := registered }
  | .ok (false, registered) => { σ with worker := .unsubscribing rest, registered := registered }

/-- The locked section of `shutdown`. A second call finds the flag set and
returns. -/
def ParamState.beginShutdown (σ : ParamState) : ParamState :=
  if σ.shutdownFlag then σ
  else
    { σ with
      shutdownFlag := true
      shutdown := .unregistering σ.subscribedParams
      subscribedParams := ∅ }

/-- The body of the loop in `shutdown`, for a name of the set. -/
def ParamState.unregister (σ : ParamState) (subscribed : Finset String) (name : String)
    (succeeds : Bool) : ParamState :=
  match executeParamSubscription R .unsubscribeParam name succeeds σ.registered with
  | .error _ => { σ with shutdown := .threw }
  | .ok (_, registered) =>
      { σ with shutdown := .unregistering (subscribed.erase name), registered := registered }

/-- `parameterUpdates` for one notification. The name a client sees is the
cleaned spelling of the notified key. -/
def ParamState.deliver (σ : ParamState) (text : String) (value : XmlRpcValue) : ParamState :=
  match fromRosParam (R.clean text) value with
  | .error _ => σ
  | .ok param =>
      if σ.paramUpdateFunc then { σ with delivered := σ.delivered ++ [param] } else σ

/-- The master notifies of a registered key and of every key below it. -/
def ParamState.Notifies (σ : ParamState) (text : String) (key : Key) : Prop :=
  ValidKey key ∧ R.clean text = canonical key ∧ ∃ k ∈ σ.registered, k <+: key

instance (σ : ParamState) (text : String) (key : Key) : Decidable (σ.Notifies R text key) :=
  inferInstanceAs (Decidable (_ ∧ _ ∧ _))

def ParamState.step (σ : ParamState) : ParamAction → Option ParamState
  | .subscribeParams names =>
      if σ.worker = .idle then
        some (if σ.shutdownFlag then σ else { σ with worker := .subscribing names })
      else none
  | .subscribeNext succeeds =>
      match σ.worker with
      | .subscribing (name :: rest) => some (σ.subscribeNext R whitelist name rest succeeds)
      | _ => none
  | .recordSubscribed =>
      match σ.worker with
      | .recording name rest =>
          some { σ with
            worker := .subscribing rest
            subscribedParams := insert name σ.subscribedParams }
      | _ => none
  | .unsubscribeParams names =>
      if σ.worker = .idle then some { σ with worker := .unsubscribing names } else none
  | .unsubscribeNext succeeds =>
      match σ.worker with
      | .unsubscribing (name :: rest) => some (σ.unsubscribeNext R name rest succeeds)
      | _ => none
  | .eraseSubscribed =>
      match σ.worker with
      | .erasing name rest =>
          some { σ with
            worker := .unsubscribing rest
            subscribedParams := σ.subscribedParams.erase name }
      | _ => none
  | .workerReturns =>
      match σ.worker with
      | .subscribing [] | .unsubscribing [] => some { σ with worker := .idle }
      | _ => none
  | .setParamUpdateCallback set => some { σ with paramUpdateFunc := set }
  | .shutdown => some σ.beginShutdown
  | .unregister name succeeds =>
      match σ.shutdown with
      | .unregistering subscribed =>
          if name ∈ subscribed then some (σ.unregister R subscribed name succeeds) else none
      | _ => none
  | .stopServer =>
      -- joins the XML-RPC thread: what is still in flight is never delivered
      if σ.shutdown = .unregistering ∅ then some { σ with shutdown := .returned } else none
  | .notify text key value =>
      if σ.Notifies R text key then some { σ with inFlight := σ.inFlight ++ [(text, value)] }
      else none
  | .parameterUpdates position =>
      if σ.shutdown = .returned then none
      else
        match σ.inFlight[position]? with
        | none => none
        | some (text, value) =>
            some ({ σ with inFlight := σ.inFlight.eraseIdx position }.deliver R text value)

/-- The interface as it is constructed. -/
def ParamState.initial : ParamState where
  subscribedParams := ∅
  shutdownFlag := false
  paramUpdateFunc := false
  worker := .idle
  shutdown := .notStarted
  registered := ∅
  inFlight := []
  delivered := []

def paramSystem : TSys ParamState ParamAction where
  init σ := σ = .initial
  step := ParamState.step R whitelist

/-! ## What the steps can do -/

/-- The steps as rules, one for each way a step can go. -/
inductive ParamState.Step (σ : ParamState) : ParamAction → ParamState → Prop
  | subscribeRefused {names} : σ.worker = .idle → σ.shutdownFlag = true →
      Step σ (.subscribeParams names) σ
  | subscribeStarts {names} : σ.worker = .idle → σ.shutdownFlag = false →
      Step σ (.subscribeParams names) { σ with worker := .subscribing names }
  | nameRejected {name rest succeeds} : σ.worker = .subscribing (name :: rest) →
      accepts R whitelist name = false →
      Step σ (.subscribeNext succeeds) { σ with worker := .subscribing rest }
  | subscribeThrows {name rest succeeds} : σ.worker = .subscribing (name :: rest) →
      accepts R whitelist name = true → R.resolve name = none →
      Step σ (.subscribeNext succeeds) { σ with worker := .idle }
  | subscribeFails {name rest key} : σ.worker = .subscribing (name :: rest) →
      accepts R whitelist name = true → R.resolve name = some key →
      Step σ (.subscribeNext false) { σ with worker := .subscribing rest }
  | subscribed {name rest key} : σ.worker = .subscribing (name :: rest) →
      accepts R whitelist name = true → R.resolve name = some key →
      Step σ (.subscribeNext true)
        { σ with worker := .recording name rest, registered := insert key σ.registered }
  | recorded {name rest} : σ.worker = .recording name rest →
      Step σ .recordSubscribed
        { σ with
          worker := .subscribing rest
          subscribedParams := insert name σ.subscribedParams }
  | unsubscribeStarts {names} : σ.worker = .idle →
      Step σ (.unsubscribeParams names) { σ with worker := .unsubscribing names }
  | unsubscribeThrows {name rest succeeds} : σ.worker = .unsubscribing (name :: rest) →
      R.resolve name = none → Step σ (.unsubscribeNext succeeds) { σ with worker := .idle }
  | unsubscribeFails {name rest key} : σ.worker = .unsubscribing (name :: rest) →
      R.resolve name = some key →
      Step σ (.unsubscribeNext false) { σ with worker := .unsubscribing rest }
  | unsubscribed {name rest key} : σ.worker = .unsubscribing (name :: rest) →
      R.resolve name = some key →
      Step σ (.unsubscribeNext true)
        { σ with worker := .erasing name rest, registered := σ.registered.erase key }
  | erased {name rest} : σ.worker = .erasing name rest →
      Step σ .eraseSubscribed
        { σ with
          worker := .unsubscribing rest
          subscribedParams := σ.subscribedParams.erase name }
  | returns : σ.worker = .subscribing [] ∨ σ.worker = .unsubscribing [] →
      Step σ .workerReturns { σ with worker := .idle }
  | callbackSet {set} : Step σ (.setParamUpdateCallback set) { σ with paramUpdateFunc := set }
  | shutdownAgain : σ.shutdownFlag = true → Step σ .shutdown σ
  | shutdownStarts : σ.shutdownFlag = false →
      Step σ .shutdown
        { σ with
          shutdownFlag := true
          shutdown := .unregistering σ.subscribedParams
          subscribedParams := ∅ }
  | unregisterThrows {name succeeds subscribed} : σ.shutdown = .unregistering subscribed →
      name ∈ subscribed → R.resolve name = none →
      Step σ (.unregister name succeeds) { σ with shutdown := .threw }
  | unregistered {name succeeds subscribed key} : σ.shutdown = .unregistering subscribed →
      name ∈ subscribed → R.resolve name = some key →
      Step σ (.unregister name succeeds)
        { σ with
          shutdown := .unregistering (subscribed.erase name)
          registered := if succeeds then σ.registered.erase key else σ.registered }
  | serverStopped : σ.shutdown = .unregistering ∅ →
      Step σ .stopServer { σ with shutdown := .returned }
  | notified {text key value k} : ValidKey key → R.clean text = canonical key →
      k ∈ σ.registered → k <+: key →
      Step σ (.notify text key value) { σ with inFlight := σ.inFlight ++ [(text, value)] }
  | dropped {position} :
      Step σ (.parameterUpdates position) { σ with inFlight := σ.inFlight.eraseIdx position }
  | delivered {position} {text : String} {value : XmlRpcValue} {param : Parameter} :
      (text, value) ∈ σ.inFlight → param.name = R.clean text →
      Step σ (.parameterUpdates position)
        { σ with
          inFlight := σ.inFlight.eraseIdx position
          delivered := σ.delivered ++ [param] }

variable {R whitelist}

theorem ParamState.subscribeNext_rule (σ : ParamState) {name : String} {rest : List String}
    (h : σ.worker = .subscribing (name :: rest)) (succeeds : Bool) :
    σ.Step R whitelist (.subscribeNext succeeds)
      (σ.subscribeNext R whitelist name rest succeeds) := by
  unfold subscribeNext executeParamSubscription
  cases hown : isOwnParameter R name with
  | true => exact .nameRejected h (by simp [accepts, hown])
  | false =>
      cases hmatch : matchesRegex name whitelist with
      | false => exact .nameRejected h (by simp [accepts, hmatch])
      | true =>
          have ha : accepts R whitelist name = true := by simp [accepts, hown, hmatch]
          cases hr : R.resolve name with
          | none => exact .subscribeThrows h ha hr
          | some key =>
              cases succeeds with
              | false => exact .subscribeFails h ha hr
              | true => exact .subscribed h ha hr

theorem ParamState.unsubscribeNext_rule (σ : ParamState) {name : String} {rest : List String}
    (h : σ.worker = .unsubscribing (name :: rest)) (succeeds : Bool) :
    σ.Step R whitelist (.unsubscribeNext succeeds) (σ.unsubscribeNext R name rest succeeds) := by
  unfold unsubscribeNext executeParamSubscription
  cases hr : R.resolve name with
  | none => exact .unsubscribeThrows h hr
  | some key =>
      cases succeeds with
      | false => exact .unsubscribeFails h hr
      | true => exact .unsubscribed h hr

theorem ParamState.unregister_rule (σ : ParamState) {subscribed : Finset String} {name : String}
    (h : σ.shutdown = .unregistering subscribed) (hname : name ∈ subscribed) (succeeds : Bool) :
    σ.Step R whitelist (.unregister name succeeds) (σ.unregister R subscribed name succeeds) := by
  unfold unregister executeParamSubscription
  cases hr : R.resolve name with
  | none => exact .unregisterThrows h hname hr
  | some key =>
      have hrule : σ.Step R whitelist (.unregister name succeeds) _ :=
        .unregistered h hname hr
      cases succeeds <;> exact hrule

/-- A notification hands over at most one parameter, named by the cleaned text. -/
theorem ParamState.deliver_rule (σ : ParamState) {position : Nat} {text : String}
    {value : XmlRpcValue} (h : σ.inFlight[position]? = some (text, value)) :
    σ.Step R whitelist (.parameterUpdates position)
      ({ σ with inFlight := σ.inFlight.eraseIdx position }.deliver R text value) := by
  unfold deliver
  cases hparam : fromRosParam (R.clean text) value with
  | error e => exact .dropped
  | ok param =>
      dsimp only
      split
      · exact .delivered (List.mem_of_getElem? h) (fromRosParam_name hparam)
      · exact .dropped

/-- Every step follows one of the rules. -/
theorem ParamState.step_rule {σ σ' : ParamState} {a : ParamAction}
    (hs : σ.step R whitelist a = some σ') : σ.Step R whitelist a σ' := by
  cases a with
  | subscribeParams names =>
      simp only [step, Option.ite_none_right_eq_some, Option.some.injEq] at hs
      obtain ⟨hidle, rfl⟩ := hs
      split
      · exact .subscribeRefused hidle ‹_›
      · exact .subscribeStarts hidle (Bool.eq_false_iff.mpr ‹_›)
  | subscribeNext succeeds =>
      simp only [step] at hs
      split at hs
      · obtain rfl := Option.some.inj hs
        exact σ.subscribeNext_rule ‹_› succeeds
      · cases hs
  | recordSubscribed =>
      simp only [step] at hs
      split at hs
      · obtain rfl := Option.some.inj hs
        exact .recorded ‹_›
      · cases hs
  | unsubscribeParams names =>
      simp only [step, Option.ite_none_right_eq_some, Option.some.injEq] at hs
      obtain ⟨hidle, rfl⟩ := hs
      exact .unsubscribeStarts hidle
  | unsubscribeNext succeeds =>
      simp only [step] at hs
      split at hs
      · obtain rfl := Option.some.inj hs
        exact σ.unsubscribeNext_rule ‹_› succeeds
      · cases hs
  | eraseSubscribed =>
      simp only [step] at hs
      split at hs
      · obtain rfl := Option.some.inj hs
        exact .erased ‹_›
      · cases hs
  | workerReturns =>
      simp only [step] at hs
      split at hs
      · obtain rfl := Option.some.inj hs
        exact .returns (.inl ‹_›)
      · obtain rfl := Option.some.inj hs
        exact .returns (.inr ‹_›)
      · cases hs
  | setParamUpdateCallback set =>
      obtain rfl := Option.some.inj hs
      exact .callbackSet
  | shutdown =>
      obtain rfl := Option.some.inj hs
      unfold beginShutdown
      split
      · exact .shutdownAgain ‹_›
      · exact .shutdownStarts (Bool.eq_false_iff.mpr ‹_›)
  | unregister name succeeds =>
      simp only [step] at hs
      split at hs
      · simp only [Option.ite_none_right_eq_some, Option.some.injEq] at hs
        obtain ⟨hname, rfl⟩ := hs
        exact σ.unregister_rule ‹_› hname succeeds
      · cases hs
  | stopServer =>
      simp only [step, Option.ite_none_right_eq_some, Option.some.injEq] at hs
      obtain ⟨hphase, rfl⟩ := hs
      exact .serverStopped hphase
  | notify text key value =>
      simp only [step, Option.ite_none_right_eq_some, Option.some.injEq] at hs
      obtain ⟨⟨hvalid, hclean, k, hk, hprefix⟩, rfl⟩ := hs
      exact .notified hvalid hclean hk hprefix
  | parameterUpdates position =>
      simp only [step, Option.ite_none_left_eq_some] at hs
      obtain ⟨-, hs⟩ := hs
      split at hs
      · cases hs
      · obtain rfl := Option.some.inj hs
        exact σ.deliver_rule ‹_›

/-! ## The push path and the read filter -/

variable (R whitelist)

/-- Every key the master may notify, once `name` is registered, passes the read
filter under its canonical name. -/
def CoversAccepted (name : String) : Prop :=
  ∀ k, R.resolve name = some k → ∀ key, ValidKey key → k <+: key →
    accepts R whitelist (canonical key) = true

/-- The condition on a step: a name that `subscribeParams` is about to register
covers accepted keys only. -/
def SubscribesCovered (σ : ParamState) (a : ParamAction) : Prop :=
  ∀ name rest, a = .subscribeNext true → σ.worker = .subscribing (name :: rest) →
    accepts R whitelist name = true → CoversAccepted R whitelist name

/-- What is registered, in flight and delivered passes the read filter. -/
structure PushAccepted (σ : ParamState) : Prop where
  registered : ∀ k ∈ σ.registered, ∀ key, ValidKey key → k <+: key →
    accepts R whitelist (canonical key) = true
  inFlight : ∀ m ∈ σ.inFlight, accepts R whitelist (R.clean m.1) = true
  delivered : ∀ param ∈ σ.delivered, accepts R whitelist param.name = true

variable {R whitelist}

/-- A step that registers, sends and delivers nothing. -/
theorem PushAccepted.of_subset {σ σ' : ParamState} (h : PushAccepted R whitelist σ)
    (hreg : σ'.registered ⊆ σ.registered) (hsent : σ'.inFlight = σ.inFlight)
    (hdel : σ'.delivered = σ.delivered) : PushAccepted R whitelist σ' where
  registered k hk := h.registered k (hreg hk)
  inFlight m hm := h.inFlight m (hsent ▸ hm)
  delivered p hp := h.delivered p (hdel ▸ hp)

theorem PushAccepted.step {σ σ' : ParamState} {a : ParamAction} (h : PushAccepted R whitelist σ)
    (hok : SubscribesCovered R whitelist σ a) (hs : σ.Step R whitelist a σ') :
    PushAccepted R whitelist σ' := by
  cases hs with
  | subscribeRefused | shutdownAgain => exact h
  | subscribed hworker ha hr =>
      refine ⟨fun k hk => ?_, h.inFlight, h.delivered⟩
      rcases Finset.mem_insert.mp hk with rfl | hk
      · exact hok _ _ rfl hworker ha k hr
      · exact h.registered k hk
  | unsubscribed => exact h.of_subset (Finset.erase_subset _ _) rfl rfl
  | unregistered =>
      refine h.of_subset ?_ rfl rfl
      dsimp only
      split
      · exact Finset.erase_subset _ _
      · exact Finset.Subset.refl _
  | notified hvalid hclean hk hprefix =>
      refine ⟨h.registered, fun m hm => ?_, h.delivered⟩
      rcases List.mem_append.mp hm with hm | hm
      · exact h.inFlight m hm
      · obtain rfl := List.mem_singleton.mp hm
        rw [hclean]
        exact h.registered _ hk _ hvalid hprefix
  | dropped =>
      exact ⟨h.registered, fun m hm => h.inFlight m (List.mem_of_mem_eraseIdx hm), h.delivered⟩
  | delivered hmem hname =>
      refine ⟨h.registered, fun m hm => h.inFlight m (List.mem_of_mem_eraseIdx hm), fun p hp => ?_⟩
      rcases List.mem_append.mp hp with hp | hp
      · exact h.delivered p hp
      · obtain rfl := List.mem_singleton.mp hp
        have haccepted := h.inFlight _ hmem
        rw [hname]
        exact haccepted
  | _ => exact h.of_subset (Finset.Subset.refl _) rfl rfl

/-- **What the push path lets through.** In every run whose registered
subscriptions cover accepted keys only, every parameter handed to the update
callback has a name that `getParams` would read. -/
theorem delivered_accepted {σ : ParamState}
    (h : (paramSystem R whitelist).Run (SubscribesCovered R whitelist) σ) :
    ∀ param ∈ σ.delivered, accepts R whitelist param.name = true := by
  have hinv : PushAccepted R whitelist σ := h.invariant
    { init := by
        rintro τ rfl
        exact ⟨by simp [ParamState.initial], by simp [ParamState.initial],
          by simp [ParamState.initial]⟩
      step := fun _ _ _ hI hok hs => hI.step hok (ParamState.step_rule hs) }
  exact hinv.delivered

/-- A client subscribes to one parameter, and the master then pushes a change. -/
def subscribeSchedule (name text : String) (key : Key) : List ParamAction :=
  [.setParamUpdateCallback true, .subscribeParams [name], .subscribeNext true, .recordSubscribed,
    .workerReturns, .notify text key (.string "value"), .parameterUpdates 0]

theorem coversAccepted_camera : CoversAccepted bridgeNode [fun _ => true] "/camera" := by
  intro k hk key _ hkey
  obtain rfl : ["camera"] = k := Option.some.inj hk
  obtain ⟨rest, rfl⟩ := hkey
  have hown : isOwnParameter bridgeNode (canonical ("camera" :: rest)) = false := by
    rw [Bool.eq_false_iff, ne_eq, isOwnParameter_iff, canonical_of_ne_nil (by simp)]
    intro hprefix
    have htext : (pathText ("camera" :: rest)).toList =
        '/' :: 'c' :: ("amera".toList ++ (pathText rest).toList) := by
      simp [pathText]
    have hown : (ownNamespacePrefix bridgeNode).toList =
        '/' :: 'f' :: "oxglove_bridge/".toList := by
      decide
    rw [htext, hown] at hprefix
    simp at hprefix
  simp [accepts, hown, matchesRegex]

theorem delivered_accepted_camera : ∃ σ : ParamState,
    σ.delivered.map Parameter.name = ["/camera/fps"] ∧
      ∀ param ∈ σ.delivered, accepts bridgeNode [fun _ => true] param.name = true := by
  -- only the third step has something to check
  have hguard : (paramSystem bridgeNode [fun _ => true]).Guarded
      (SubscribesCovered bridgeNode [fun _ => true]) .initial
      (subscribeSchedule "/camera" "/camera/fps/" ["camera", "fps"]) := by
    refine ⟨by rintro _ _ ⟨⟩, ?_⟩
    rintro _ ⟨⟩
    refine ⟨by rintro _ _ ⟨⟩, ?_⟩
    rintro _ ⟨⟩
    constructor
    · rintro _ _ - ⟨⟩ -
      exact coversAccepted_camera
    rintro _ -
    refine .of_forall ?_ _
    simp [SubscribesCovered]
  exact ⟨_, rfl, delivered_accepted (TSys.Run.exec (.init rfl) hguard rfl)⟩

/-- **A pushed secret.** A subscription to the node's namespace, by its name
without a slash at the end, delivers the bridge's own parameters. -/
theorem not_delivered_accepted :
    ¬ ∀ σ, (paramSystem bridgeNode [fun _ => true]).Reachable σ →
      ∀ param ∈ σ.delivered, accepts bridgeNode [fun _ => true] param.name = true := by
  intro hall
  obtain ⟨σ, hexec, hdelivered⟩ : ∃ σ, (paramSystem bridgeNode [fun _ => true]).exec .initial
      (subscribeSchedule "/foxglove_bridge" "/foxglove_bridge/device_token/"
        ["foxglove_bridge", "device_token"]) = some σ ∧
      σ.delivered = [⟨"/foxglove_bridge/device_token", .none, some (.string "value")⟩] :=
    ⟨_, rfl, rfl⟩
  have haccepted := hall σ (TSys.Reachable.exec (.init rfl) hexec) _
    (hdelivered ▸ List.mem_singleton_self _)
  exact absurd haccepted (by decide)

/-! ## Shutdown and the registrations -/

variable (R whitelist)

/-- A batch of names is about to register one more: the first of them that
passes the filter resolves. -/
def registersNext : List String → Bool
  | [] => false
  | name :: rest =>
      if accepts R whitelist name then (R.resolve name).isSome else registersNext rest

/-- The worker is about to register a name or to record one it registered. -/
def WorkerPhase.registersAhead : WorkerPhase → Bool
  | .subscribing rest => registersNext R whitelist rest
  | .recording _ _ => true
  | .idle | .unsubscribing _ | .erasing _ _ => false

/-- The master call of the action, if it makes one, succeeds. -/
def ParamAction.masterSucceeds : ParamAction → Bool
  | .subscribeNext succeeds | .unsubscribeNext succeeds | .unregister _ succeeds => succeeds
  | _ => true

/-- The action is the locked section of `shutdown`. -/
def ParamAction.isShutdown : ParamAction → Bool
  | .shutdown => true
  | _ => false

/-- The condition on a step: master calls succeed, and `shutdown` takes the lock
at a moment the worker is not about to register a name. -/
def ShutsDownClear (σ : ParamState) (a : ParamAction) : Prop :=
  a.masterSucceeds = true ∧
    (a.isShutdown = true → σ.shutdownFlag = false → σ.worker.registersAhead R whitelist = false)

instance (σ : ParamState) (a : ParamAction) : Decidable (ShutsDownClear R whitelist σ a) :=
  inferInstanceAs (Decidable (_ ∧ (_ → _ → _)))

/-- The name the worker has registered and not recorded yet. -/
def WorkerPhase.toRecord : WorkerPhase → Finset String
  | .recording name _ => {name}
  | _ => ∅

/-- The names somebody still has to unregister. -/
def ParamState.tracked (σ : ParamState) : Finset String :=
  σ.subscribedParams ∪ σ.worker.toRecord ∪ σ.shutdown.pending

/-- No registration is forgotten. -/
structure NoneForgotten (σ : ParamState) : Prop where
  covered : ∀ key ∈ σ.registered, ∃ name ∈ σ.tracked, R.resolve name = some key
  resolves : ∀ name ∈ σ.tracked, ∃ key, R.resolve name = some key
  erasing : ∀ name rest, σ.worker = .erasing name rest →
    ∀ key, R.resolve name = some key → key ∉ σ.registered
  notStarted : σ.shutdownFlag = false → σ.shutdown = .notStarted
  /-- Once the flag is set nothing is registered any more. -/
  afterFlag : σ.shutdownFlag = true →
    σ.subscribedParams = ∅ ∧ σ.worker.registersAhead R whitelist = false

variable {R whitelist}

/-- A step that only moves the worker on, to a phase with no name in hand. -/
theorem NoneForgotten.worker {σ : ParamState} (h : NoneForgotten R whitelist σ)
    {phase : WorkerPhase} (hbefore : σ.worker.toRecord = ∅) (hafter : phase.toRecord = ∅)
    (herasing : ∀ name rest, phase ≠ .erasing name rest)
    (hahead : σ.shutdownFlag = true → phase.registersAhead R whitelist = false) :
    NoneForgotten R whitelist { σ with worker := phase } where
  covered := by simpa [ParamState.tracked, hbefore, hafter] using h.covered
  resolves := by simpa [ParamState.tracked, hbefore, hafter] using h.resolves
  erasing name rest hphase := absurd hphase (herasing name rest)
  notStarted := h.notStarted
  afterFlag hflag := ⟨(h.afterFlag hflag).1, hahead hflag⟩

/-- A step that keeps track of the same names and registers nothing. -/
theorem NoneForgotten.of_tracked {σ σ' : ParamState} (h : NoneForgotten R whitelist σ)
    (htracked : σ'.tracked = σ.tracked) (hregistered : σ'.registered ⊆ σ.registered)
    (herasing : ∀ name rest, σ'.worker = .erasing name rest →
      ∀ key, R.resolve name = some key → key ∉ σ'.registered)
    (hnotStarted : σ'.shutdownFlag = false → σ'.shutdown = .notStarted)
    (hafterFlag : σ'.shutdownFlag = true →
      σ'.subscribedParams = ∅ ∧ σ'.worker.registersAhead R whitelist = false) :
    NoneForgotten R whitelist σ' := by
  refine ⟨?_, ?_, herasing, hnotStarted, hafterFlag⟩
  · intro key hkey
    rw [htracked]
    exact h.covered key (hregistered hkey)
  · rw [htracked]
    exact h.resolves

/-- A name that is registered is in the worker's hand until it is recorded. -/
theorem NoneForgotten.subscribed {σ : ParamState} (h : NoneForgotten R whitelist σ)
    {name : String} {rest : List String} {key : Key}
    (hworker : σ.worker = .subscribing (name :: rest)) (ha : accepts R whitelist name = true)
    (hr : R.resolve name = some key) :
    NoneForgotten R whitelist
      { σ with worker := .recording name rest, registered := insert key σ.registered } := by
  -- a registration after the flag was ruled out when the flag was set
  have hflag : σ.shutdownFlag = false := by
    rw [Bool.eq_false_iff]
    intro hset
    have hahead := (h.afterFlag hset).2
    simp [hworker, WorkerPhase.registersAhead, registersNext, ha, hr] at hahead
  have htracked : name ∈ ParamState.tracked { σ with worker := .recording name rest } := by
    simp [ParamState.tracked, WorkerPhase.toRecord]
  have hmono : ∀ n ∈ σ.tracked,
      n ∈ ParamState.tracked { σ with worker := .recording name rest } := by
    intro n hn
    simp only [ParamState.tracked, hworker, WorkerPhase.toRecord, Finset.mem_union,
      Finset.notMem_empty, or_false] at hn ⊢
    tauto
  refine ⟨?_, ?_, by simp, h.notStarted, ?_⟩
  · intro k hk
    rcases Finset.mem_insert.mp hk with rfl | hk
    · exact ⟨name, htracked, hr⟩
    · obtain ⟨n, hn, hres⟩ := h.covered k hk
      exact ⟨n, hmono n hn, hres⟩
  · intro n hn
    by_cases hname : n = name
    · exact ⟨key, hname ▸ hr⟩
    · apply h.resolves n
      simpa [ParamState.tracked, hworker, WorkerPhase.toRecord, hname] using hn
  · intro hset
    rw [hflag] at hset
    cases hset

/-- A recorded name may be forgotten once its key is dropped. -/
theorem NoneForgotten.erased {σ : ParamState} (h : NoneForgotten R whitelist σ)
    {name : String} {rest : List String} (hworker : σ.worker = .erasing name rest) :
    NoneForgotten R whitelist
      { σ with
        worker := .unsubscribing rest
        subscribedParams := σ.subscribedParams.erase name } := by
  refine ⟨?_, ?_, by simp, h.notStarted, ?_⟩
  · intro k hk
    obtain ⟨n, hn, hres⟩ := h.covered k hk
    -- the name that covers the key is not the one whose key was dropped
    have hne : n ≠ name := by
      intro heq
      exact h.erasing n rest (heq ▸ hworker) k hres hk
    refine ⟨n, ?_, hres⟩
    simpa [ParamState.tracked, hworker, WorkerPhase.toRecord, hne] using hn
  · intro n hn
    apply h.resolves n
    simp only [ParamState.tracked, hworker, WorkerPhase.toRecord, Finset.mem_union,
      Finset.mem_erase, Finset.notMem_empty, or_false] at hn ⊢
    tauto
  · intro hset
    exact ⟨by simp [(h.afterFlag hset).1], rfl⟩

/-- `shutdown` drops a name of its set together with its key. -/
theorem NoneForgotten.unregistered {σ : ParamState} (h : NoneForgotten R whitelist σ)
    {subscribed : Finset String} {name : String} {key : Key}
    (hphase : σ.shutdown = .unregistering subscribed) (hr : R.resolve name = some key) :
    NoneForgotten R whitelist
      { σ with
        shutdown := .unregistering (subscribed.erase name)
        registered := σ.registered.erase key } := by
  refine ⟨?_, ?_, ?_, ?_, h.afterFlag⟩
  · intro k hk
    obtain ⟨hne, hk⟩ := Finset.mem_erase.mp hk
    obtain ⟨n, hn, hres⟩ := h.covered k hk
    have hnn : n ≠ name := by
      intro heq
      exact hne (Option.some.inj ((heq ▸ hres).symm.trans hr))
    refine ⟨n, ?_, hres⟩
    simpa [ParamState.tracked, hphase, ShutdownPhase.pending, hnn] using hn
  · intro n hn
    apply h.resolves n
    simp only [ParamState.tracked, hphase, ShutdownPhase.pending, Finset.mem_union,
      Finset.mem_erase] at hn ⊢
    tauto
  · intro n rest hworker k hk hmem
    exact h.erasing n rest hworker k hk (Finset.mem_of_mem_erase hmem)
  · intro hset
    rw [h.notStarted hset] at hphase
    cases hphase

theorem NoneForgotten.step {σ σ' : ParamState} {a : ParamAction}
    (h : NoneForgotten R whitelist σ) (hok : ShutsDownClear R whitelist σ a)
    (hs : σ.Step R whitelist a σ') : NoneForgotten R whitelist σ' := by
  obtain ⟨hsucceeds, hclear⟩ := hok
  cases hs with
  | subscribeRefused | shutdownAgain => exact h
  | callbackSet | notified | dropped | delivered =>
      exact ⟨h.covered, h.resolves, h.erasing, h.notStarted, h.afterFlag⟩
  | subscribeFails | unsubscribeFails => cases hsucceeds
  | subscribeStarts hworker hflag =>
      apply h.worker (by simp [hworker, WorkerPhase.toRecord]) rfl (by simp)
      intro hset
      rw [hflag] at hset
      cases hset
  | nameRejected hworker ha =>
      apply h.worker (by simp [hworker, WorkerPhase.toRecord]) rfl (by simp)
      intro hset
      have hahead := (h.afterFlag hset).2
      rw [hworker] at hahead
      simpa [WorkerPhase.registersAhead, registersNext, ha] using hahead
  | subscribeThrows hworker =>
      exact h.worker (by simp [hworker, WorkerPhase.toRecord]) rfl (by simp) fun _ => rfl
  | unsubscribeStarts hworker | unsubscribeThrows hworker =>
      exact h.worker (by simp [hworker, WorkerPhase.toRecord]) rfl (by simp) fun _ => rfl
  | returns hworker =>
      refine h.worker ?_ rfl (by simp) fun _ => rfl
      rcases hworker with hworker | hworker <;> simp [hworker, WorkerPhase.toRecord]
  | subscribed hworker ha hr => exact h.subscribed hworker ha hr
  | @recorded name rest hworker =>
      have htracked : ParamState.tracked
          { σ with
            worker := .subscribing rest
            subscribedParams := insert name σ.subscribedParams } = σ.tracked := by
        ext n
        simp only [ParamState.tracked, hworker, WorkerPhase.toRecord, Finset.mem_union,
          Finset.mem_insert, Finset.mem_singleton, Finset.notMem_empty, or_false]
        tauto
      apply h.of_tracked htracked (Finset.Subset.refl _) (by simp) h.notStarted
      intro hset
      have hahead := (h.afterFlag hset).2
      simp [hworker, WorkerPhase.registersAhead] at hahead
  | @unsubscribed name rest key hworker hr =>
      have htracked : ParamState.tracked
          { σ with worker := .erasing name rest, registered := σ.registered.erase key } =
            σ.tracked := by
        simp [ParamState.tracked, hworker, WorkerPhase.toRecord]
      refine h.of_tracked htracked (Finset.erase_subset _ _) ?_ h.notStarted
        fun hset => ⟨(h.afterFlag hset).1, rfl⟩
      rintro n r ⟨rfl, rfl⟩ k hk
      obtain rfl : key = k := Option.some.inj (hr.symm.trans hk)
      exact Finset.notMem_erase key _
  | erased hworker => exact h.erased hworker
  | shutdownStarts hflag =>
      have htracked : ParamState.tracked
          { σ with
            shutdownFlag := true
            shutdown := .unregistering σ.subscribedParams
            subscribedParams := ∅ } = σ.tracked := by
        ext n
        simp only [ParamState.tracked, ShutdownPhase.pending, h.notStarted hflag, Finset.mem_union,
          Finset.notMem_empty, or_false, false_or]
        tauto
      exact h.of_tracked htracked (Finset.Subset.refl _) h.erasing (by simp)
        fun _ => ⟨rfl, hclear rfl hflag⟩
  | @unregisterThrows name _ subscribed hphase hname hr =>
      obtain ⟨key, hkey⟩ := h.resolves name
        (by simp [ParamState.tracked, hphase, ShutdownPhase.pending, hname])
      rw [hr] at hkey
      cases hkey
  | @unregistered name succeeds subscribed key hphase hname hr =>
      obtain rfl : succeeds = true := hsucceeds
      exact h.unregistered hphase hr
  | serverStopped hphase =>
      have htracked : ParamState.tracked { σ with shutdown := .returned } = σ.tracked := by
        simp [ParamState.tracked, hphase, ShutdownPhase.pending]
      refine h.of_tracked htracked (Finset.Subset.refl _) h.erasing (fun hset => ?_) h.afterFlag
      rw [h.notStarted hset] at hphase
      cases hphase

theorem noneForgotten_of_run {σ : ParamState}
    (h : (paramSystem R whitelist).Run (ShutsDownClear R whitelist) σ) :
    NoneForgotten R whitelist σ :=
  h.invariant
    { init := by
        rintro τ rfl
        exact ⟨by simp [ParamState.initial], by simp [ParamState.initial, ParamState.tracked,
          WorkerPhase.toRecord, ShutdownPhase.pending], by simp [ParamState.initial],
          fun _ => rfl, by simp [ParamState.initial]⟩
      step := fun _ _ _ hI hok hs => hI.step hok (ParamState.step_rule hs) }

/-- **Nothing is left registered.** In every run whose master calls succeed and
in which `shutdown` does not take its lock while the worker is about to register
a name, the master holds no registration once `shutdown` has returned and the
worker is idle. -/
theorem registered_eq_empty {σ : ParamState}
    (h : (paramSystem R whitelist).Run (ShutsDownClear R whitelist) σ)
    (hshutdown : σ.shutdown = .returned) (hworker : σ.worker = .idle) : σ.registered = ∅ := by
  have hinv := noneForgotten_of_run h
  have hflag : σ.shutdownFlag = true := by
    by_contra hunset
    rw [hinv.notStarted (Bool.eq_false_iff.mpr hunset)] at hshutdown
    cases hshutdown
  have htracked : σ.tracked = ∅ := by
    simp [ParamState.tracked, (hinv.afterFlag hflag).1, hworker, hshutdown, WorkerPhase.toRecord,
      ShutdownPhase.pending]
  apply Finset.eq_empty_iff_forall_notMem.mpr
  intro key hkey
  obtain ⟨name, hname, -⟩ := hinv.covered key hkey
  simp [htracked] at hname

/-- Two parameters are subscribed, one is dropped again while `shutdown` runs. -/
theorem registered_eq_empty_two : ∃ σ : ParamState, σ.shutdown = .returned ∧ σ.registered = ∅ := by
  obtain ⟨σ, hexec, hshutdown, hworker⟩ : ∃ σ,
      (paramSystem bridgeNode [fun _ => true]).exec .initial
        [.subscribeParams ["/a", "b"], .subscribeNext true, .recordSubscribed, .subscribeNext true,
          .recordSubscribed, .workerReturns, .unsubscribeParams ["b"], .shutdown,
          .unsubscribeNext true, .unregister "b" true, .eraseSubscribed, .unregister "/a" true,
          .workerReturns, .stopServer] = some σ ∧ σ.shutdown = .returned ∧ σ.worker = .idle :=
    ⟨_, rfl, rfl, rfl⟩
  have hguard : (paramSystem bridgeNode [fun _ => true]).Guarded
      (ShutsDownClear bridgeNode [fun _ => true]) .initial
      [.subscribeParams ["/a", "b"], .subscribeNext true, .recordSubscribed, .subscribeNext true,
        .recordSubscribed, .workerReturns, .unsubscribeParams ["b"], .shutdown,
        .unsubscribeNext true, .unregister "b" true, .eraseSubscribed, .unregister "/a" true,
        .workerReturns, .stopServer] := by
    decide
  exact ⟨σ, hshutdown, registered_eq_empty (TSys.Run.exec (.init rfl) hguard hexec) hshutdown
    hworker⟩

/-- **A registration left behind.** The worker passes the shutdown check,
`shutdown` runs to its end, and the worker then registers its name. -/
theorem not_registered_eq_empty :
    ¬ ∀ σ, (paramSystem bridgeNode [fun _ => true]).Run (fun _ a => a.masterSucceeds = true) σ →
      σ.shutdown = .returned → σ.worker = .idle → σ.registered = ∅ := by
  intro hall
  obtain ⟨σ, hexec, hshutdown, hworker, hregistered⟩ : ∃ σ,
      (paramSystem bridgeNode [fun _ => true]).exec .initial
        [.subscribeParams ["/a"], .shutdown, .stopServer, .subscribeNext true, .recordSubscribed,
          .workerReturns] = some σ ∧
      σ.shutdown = .returned ∧ σ.worker = .idle ∧ σ.registered = {["a"]} :=
    ⟨_, rfl, rfl, rfl, rfl⟩
  have hrun : (paramSystem bridgeNode [fun _ => true]).Run (fun _ a => a.masterSucceeds = true) σ :=
    TSys.Run.exec (.init rfl) (.of_forall (by simp [ParamAction.masterSucceeds]) _) hexec
  rw [hall σ hrun hshutdown hworker] at hregistered
  exact absurd hregistered (by decide)

end FoxgloveBridge
