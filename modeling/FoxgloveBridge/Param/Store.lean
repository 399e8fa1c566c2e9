import FoxgloveBridge.Param.Access
import FoxgloveBridge.Param.OpQueue
import FoxgloveBridge.Param.RoundTrip
import Mathlib.Data.List.Induction
import Mathlib.Data.List.Infix

/-!
# The parameters behind the queue

What the worker makes of the queued operations, on the parameters themselves:
`handleGetParams` and `handleSetParams` with the reads and writes of
`Ros1ParameterInterface`. The master may stop answering between two calls of the backend,
and other nodes may change parameters there.

`Store.serial` is the abstract store: it serves one operation after another, each with its
calls in one piece. The queue with its threads refines it (`operations_linearizable`): every
response that was sent is the one the serial store gives, in the order in which the
operations were queued.

What a set operation echoes is what its own writes left (`set_reads_own_writes`).
-/

namespace FoxgloveBridge

open XmlRpcValue

variable (R : Roscpp) (whitelist : Whitelist)

/-! ## Reading any parameters

A client may store a struct under any member names, so the parameters need not be a
`ParamTree` any more. -/

/-- One read of `getParams`. -/
def readFrom (root : XmlRpcValue) (reachable : Bool) (name : String) : Option Parameter :=
  if accepts R whitelist name then
    (R.resolveName name).bind fun key =>
      (if reachable then root.get key else none).bind fun value =>
        (fromRosParam name value).toOption
  else none

/-- `getParams`. -/
def getParamsFrom (root : XmlRpcValue) (reachable : Bool) (paramNames : List String) :
    Except String (List Parameter) :=
  if paramNames = [] then
    if reachable then
      .ok (((leaves root).map fun kv => canonical kv.1).filterMap
        (readFrom R whitelist root reachable))
    else .error "Failed to retrieve parameter names from the master"
  else .ok (paramNames.filterMap (readFrom R whitelist root reachable))

theorem readParam_eq_readFrom (T : ParamTree) (reachable : Bool) :
    readParam R whitelist T reachable = readFrom R whitelist T.root reachable := by
  funext name
  exact readParam_eq R whitelist T reachable name

/-- On a parameter tree it is `getParams`. -/
theorem getParams_eq_getParamsFrom (T : ParamTree) (reachable : Bool)
    (paramNames : List String) : getParams R whitelist T reachable paramNames =
      getParamsFrom R whitelist T.root reachable paramNames := by
  unfold getParams getParamsFrom
  rw [readParam_eq_readFrom]
  cases reachable with
  | false => rfl
  | true => rfl

theorem mem_getParamsFrom {root : XmlRpcValue} {paramNames : List String} (hne : paramNames ≠ [])
    {values : List Parameter}
    (h : getParamsFrom R whitelist root true paramNames = .ok values) (p : Parameter) :
    p ∈ values ↔ ∃ name ∈ paramNames, readFrom R whitelist root true name = some p := by
  unfold getParamsFrom at h
  rw [if_neg hne] at h
  obtain rfl := Except.ok.inj h
  exact List.mem_filterMap

/-- A parameter is read under the name that was asked for, and that name is accepted. -/
theorem readFrom_name {root : XmlRpcValue} {reachable : Bool} {name : String} {p : Parameter}
    (h : readFrom R whitelist root reachable name = some p) :
    p.name = name ∧ accepts R whitelist name = true := by
  unfold readFrom at h
  split at h
  · rename_i haccepts
    obtain ⟨key, -, h⟩ := Option.bind_eq_some_iff.mp h
    obtain ⟨value, -, h⟩ := Option.bind_eq_some_iff.mp h
    cases hread : fromRosParam name value with
    | error e =>
        rw [hread] at h
        cases h
    | ok param =>
        rw [hread] at h
        obtain rfl := Option.some.inj h
        exact ⟨fromRosParam_name hread, haccepts⟩
  · cases h

/-! ## The serial store -/

/-- What a call into the backend meets. It is one for all requests to the master in that call:
other nodes and outages come between two calls. -/
structure MasterView where
  /-- What other nodes have done to the parameters since the last call. -/
  others : XmlRpcValue → XmlRpcValue
  reachable : Bool

/-- The parameters and the responses sent so far, each with the call it is for. -/
structure Store where
  root : XmlRpcValue
  responses : List (Nat × List Parameter)

namespace Store

variable (s : Store) (view : MasterView)

def respond (call : Nat) (values : List Parameter) : Store :=
  { s with responses := s.responses ++ [(call, values)] }

/-- `getParams`, with the response that follows if it returns. -/
def get (call : Nat) (paramNames : List String) : Store × Bool :=
  let s := { s with root := view.others s.root }
  match getParamsFrom R whitelist s.root view.reachable paramNames with
  | .ok values => (s.respond call values, true)
  | .error _ => (s, false)

/-- `setParams`, which returns in any case. -/
def set (params : List Parameter) : Store :=
  let s := { s with root := view.others s.root }
  if view.reachable then { s with root := setParams R whitelist s.root params } else s

/-- The handler up to its next call into the backend, and whether that returns. That of a
subscription may do either, but nothing to the parameters. -/
def begin (q : QueuedOp) (returns : Bool) : Store × Bool :=
  match q.op with
  | .get names => s.get R whitelist view q.call names
  | .set params =>
      if params.isEmpty then (s.respond q.call [], returns)
      else (s.set R whitelist view params, true)
  | .subscribe _ | .unsubscribe _ => (s, returns)

/-- The second call of `handleSetParams`: the new values are read back. -/
def echo (q : QueuedOp) : Store × Bool :=
  match q.op with
  | .set params => s.get R whitelist view q.call (params.map Parameter.name)
  | _ => (s, false)

variable (views : Nat → Bool → MasterView)

/-- An operation on its own. -/
def serve (q : QueuedOp) : Store :=
  match q.op with
  | .get names => (s.get R whitelist (views q.call false) q.call names).1
  | .set params =>
      if params.isEmpty then s.respond q.call []
      else
        let s := s.set R whitelist (views q.call false) params
        (s.get R whitelist (views q.call true) q.call (params.map Parameter.name)).1
  | .subscribe _ | .unsubscribe _ => s

/-- The serial store, after these operations. -/
def serial (root : XmlRpcValue) (ops : List QueuedOp) : Store :=
  ops.foldl (fun s q => s.serve R whitelist views q) ⟨root, []⟩

end Store

/-! ## The threads at work on it -/

structure StoreState where
  queue : OpQueueState
  store : Store

namespace StoreState

variable (views : Nat → Bool → MasterView) (σ : StoreState)

/-- What the handler does up to its next call into the backend, where it has one. -/
def handle (returns : Bool) : Option (Store × Bool) :=
  match σ.queue.worker with
  | .handling q => some (σ.store.begin R whitelist (views q.call false) q returns)
  | .echoing q => some (σ.store.echo R whitelist (views q.call true) q)
  | _ => none

/-- The steps of the queue; a call into the backend returns if the parameters allow it. -/
def step (a : OpQueueAction) : Option StoreState :=
  match a with
  | .handle returns =>
      match σ.handle R whitelist views returns with
      | some (store, outcome) =>
          if outcome = returns then
            (σ.queue.step (.handle returns)).map fun queue => ⟨queue, store⟩
          else none
      | none => none
  | a => (σ.queue.step a).map fun queue => ⟨queue, σ.store⟩

end StoreState

/-- The views are what each call into the backend meets: that of the operation with this
number, the first one or the one that reads back. -/
def storeSystem (views : Nat → Bool → MasterView) (root : XmlRpcValue) :
    TSys StoreState OpQueueAction where
  init σ := σ = ⟨.initial, ⟨root, []⟩⟩
  step := StoreState.step R whitelist views

/-! ## What the steps do to the worker -/

namespace OpQueueState

variable {σ σ' : OpQueueState} {a : OpQueueAction}

theorem notified_running (σ : OpQueueState) :
    σ.notified.worker = σ.worker ∨
      σ.worker.running = none ∧ σ.notified.worker.running = none := by
  unfold notified
  split
  · rename_i hwaiting
    rw [hwaiting]
    exact .inr ⟨rfl, rfl⟩
  · exact .inl rfl

/-- But for the handlers, a step leaves the worker to what it runs, or gives it an operation. -/
theorem Step.worker_cases (hs : σ.Step a σ') (hnot : ∀ returns, a ≠ .handle returns) :
    σ'.answered = σ.answered ∧
      (σ'.started = σ.started ∧ (σ'.worker = σ.worker ∨
          σ.worker.running = none ∧ σ'.worker.running = none) ∨
        ∃ q, σ.worker.running = none ∧ σ'.worker = .handling q ∧
          σ'.started = σ.started ++ [q]) := by
  have running_of_current : ∀ {worker : OpWorkerPc}, worker.current = none →
      worker.running = none := by
    intro worker h
    cases worker <;> first | rfl | cases h
  cases hs with
  | workerMoves hbefore hafter =>
      exact ⟨rfl, .inl ⟨rfl, .inr ⟨running_of_current hbefore, running_of_current hafter⟩⟩⟩
  | @take op rest hchecking hqueue =>
      refine ⟨rfl, .inr ⟨op, ?_, rfl, rfl⟩⟩
      rw [hchecking]
      rfl
  | handle returns hop => exact absurd rfl (hnot returns)
  | echo returns hop => exact absurd rfl (hnot returns)
  | endIteration hop =>
      refine ⟨rfl, .inl ⟨rfl, .inr ⟨?_, rfl⟩⟩⟩
      rw [hop]
      rfl
  | notifyOne | notifyAll =>
      obtain ⟨worker, hnotified⟩ := σ.notified_eq
      have hrunning := σ.notified_running
      rw [hnotified] at hrunning ⊢
      exact ⟨rfl, .inl ⟨rfl, hrunning⟩⟩
  | _ => exact ⟨rfl, .inl ⟨rfl, .inl rfl⟩⟩

/-- Operations only join the queue at its end. -/
theorem Step.enqueued (hs : σ.Step a σ') : σ.enqueued <+: σ'.enqueued := by
  cases hs with
  | push => exact List.prefix_append _ _
  | handle returns hop =>
      unfold OpQueueState.handle
      split
      · cases returns <;> exact List.prefix_refl _
      · split
        · exact List.prefix_refl _
        · cases returns <;> exact List.prefix_refl _
      · exact List.prefix_refl _
      · exact List.prefix_refl _
  | echo returns hop => cases returns <;> exact List.prefix_refl _
  | notifyOne | notifyAll =>
      obtain ⟨worker, hnotified⟩ := σ.notified_eq
      rw [hnotified]
  | _ => exact List.prefix_refl _

theorem finish_worker (σ : OpQueueState) (op : QueuedOp) (answers : Bool) :
    (σ.finish op answers).worker = .relocking op ∧
      (σ.finish op answers).started = σ.started ∧
      (σ.finish op answers).answered = σ.answered ++ bif answers then [op.call] else [] := by
  cases answers with
  | false => exact ⟨rfl, rfl, (List.append_nil _).symm⟩
  | true => exact ⟨rfl, rfl, rfl⟩

end OpQueueState

/-! ## The refinement -/

namespace Store

variable (s : Store) (view : MasterView)

theorem prefix_respond (call : Nat) (values : List Parameter) :
    s.responses <+: (s.respond call values).responses :=
  List.prefix_append _ _

theorem respond_calls (call : Nat) (values : List Parameter) :
    (s.respond call values).responses.map Prod.fst = s.responses.map Prod.fst ++ [call] :=
  List.map_append

theorem set_responses (params : List Parameter) :
    (s.set R whitelist view params).responses = s.responses := by
  unfold set
  cases view.reachable <;> rfl

/-- A read sends a response exactly if it returns. -/
theorem get_responses (call : Nat) (paramNames : List String) :
    s.responses <+: (s.get R whitelist view call paramNames).1.responses ∧
      (s.get R whitelist view call paramNames).1.responses.map Prod.fst =
        s.responses.map Prod.fst ++
          bif (s.get R whitelist view call paramNames).2 then [call] else [] := by
  unfold get
  dsimp only
  cases getParamsFrom R whitelist (view.others s.root) view.reachable paramNames with
  | error e => exact ⟨List.prefix_refl _, (List.append_nil _).symm⟩
  | ok values => exact ⟨prefix_respond .., respond_calls ..⟩

/-- No step of a handler takes a response back. -/
theorem prefix_begin (q : QueuedOp) (returns : Bool) :
    s.responses <+: (s.begin R whitelist view q returns).1.responses := by
  unfold begin
  split
  · exact (get_responses ..).1
  · split
    · exact prefix_respond ..
    · rw [set_responses]
  · exact List.prefix_refl _
  · exact List.prefix_refl _

theorem prefix_echo (q : QueuedOp) :
    s.responses <+: (s.echo R whitelist view q).1.responses := by
  unfold echo
  split
  · exact (get_responses ..).1
  · exact List.prefix_refl _

variable (views : Nat → Bool → MasterView)

theorem prefix_serve (q : QueuedOp) :
    s.responses <+: (s.serve R whitelist views q).responses := by
  unfold serve
  split
  · exact (get_responses ..).1
  · split
    · exact prefix_respond ..
    · rename_i params _ _
      rw [← s.set_responses R whitelist (views q.call false) params]
      exact (get_responses ..).1
  · exact List.prefix_refl _
  · exact List.prefix_refl _

theorem serial_append_singleton (root : XmlRpcValue) (ops : List QueuedOp) (q : QueuedOp) :
    serial R whitelist views root (ops ++ [q]) =
      (serial R whitelist views root ops).serve R whitelist views q :=
  List.foldl_append

/-- The serial store has sent to a part of the operations what it has sent to all. -/
theorem prefix_serial (root : XmlRpcValue) {ops more : List QueuedOp} (h : ops <+: more) :
    (serial R whitelist views root ops).responses <+:
      (serial R whitelist views root more).responses := by
  obtain ⟨rest, rfl⟩ := h
  induction rest using List.reverseRecOn with
  | nil =>
      rw [List.append_nil]
  | append_singleton rest q ih =>
      rw [← List.append_assoc, serial_append_singleton]
      exact ih.trans (prefix_serve ..)

end Store

namespace StoreState

variable (views : Nat → Bool → MasterView)

/-- The store when the operation that runs is done. -/
def outcome (σ : StoreState) : Store :=
  match σ.queue.worker with
  | .handling q => σ.store.serve R whitelist views q
  | .echoing q => (σ.store.echo R whitelist (views q.call true) q).1
  | _ => σ.store

/-- The serial store will be where the threads are, and the responses are those of the
queue. -/
structure Serial (root : XmlRpcValue) (σ : StoreState) : Prop where
  outcome : σ.outcome R whitelist views = .serial R whitelist views root σ.queue.started
  answered : σ.store.responses.map Prod.fst = σ.queue.answered

variable {views} {root : XmlRpcValue} {σ σ' : StoreState} {a : OpQueueAction}

theorem outcome_of_resting (h : σ.queue.worker.running = none) :
    σ.outcome R whitelist views = σ.store := by
  unfold outcome
  cases hworker : σ.queue.worker <;> first
    | rfl
    | rw [hworker] at h; cases h

/-- A step of the system is one of the queue. -/
theorem queue_step (hs : σ.step R whitelist views a = some σ') :
    σ.queue.step a = some σ'.queue := by
  unfold step at hs
  split at hs
  · split at hs
    · split at hs
      · obtain ⟨queue, hqueue, rfl⟩ := Option.map_eq_some_iff.mp hs
        exact hqueue
      · cases hs
    · cases hs
  · obtain ⟨queue, hqueue, rfl⟩ := Option.map_eq_some_iff.mp hs
    exact hqueue

/-- Only the handlers touch the store. -/
theorem store_step (hs : σ.step R whitelist views a = some σ')
    (hnot : ∀ returns, a ≠ .handle returns) : σ'.store = σ.store := by
  unfold step at hs
  split at hs
  · exact absurd rfl (hnot _)
  · obtain ⟨queue, -, rfl⟩ := Option.map_eq_some_iff.mp hs
    rfl

theorem handle_step {returns : Bool} (hs : σ.step R whitelist views (.handle returns) = some σ') :
    σ.handle R whitelist views returns = some (σ'.store, returns) := by
  simp only [step] at hs
  split at hs
  · rename_i store outcome hhandle
    split at hs
    · rename_i houtcome
      obtain ⟨queue, -, rfl⟩ := Option.map_eq_some_iff.mp hs
      rw [hhandle, houtcome]
    · cases hs
  · cases hs

/-- An answer, or an error, ends the operation here and in the queue. -/
theorem Serial.ends (h : σ.Serial R whitelist views root) {q : QueuedOp} {queue : OpQueueState}
    {returns : Bool} (hqueue : σ'.queue = queue.finish q returns)
    (hstarted : queue.started = σ.queue.started) (hanswered : queue.answered = σ.queue.answered)
    (hend : σ'.store = σ.outcome R whitelist views)
    (hcalls : σ'.store.responses.map Prod.fst =
      σ.store.responses.map Prod.fst ++ (bif returns then [q.call] else [])) :
    σ'.Serial R whitelist views root := by
  obtain ⟨hworker, hstarted', hanswered'⟩ := queue.finish_worker q returns
  rw [← hqueue] at hworker hstarted' hanswered'
  refine ⟨?_, ?_⟩
  · rw [outcome_of_resting R whitelist (by rw [hworker]; rfl), hend, h.outcome, hstarted',
      hstarted]
  · rw [hcalls, hanswered', hanswered, h.answered]

theorem Serial.begin (h : σ.Serial R whitelist views root) {q : QueuedOp} {returns : Bool}
    (hworker : σ.queue.worker = .handling q) (hqueue : σ'.queue = σ.queue.handle q returns)
    (hstore : σ.store.begin R whitelist (views q.call false) q returns = (σ'.store, returns)) :
    σ'.Serial R whitelist views root := by
  have houtcome : σ.outcome R whitelist views = σ.store.serve R whitelist views q := by
    unfold StoreState.outcome
    rw [hworker]
  unfold Store.begin at hstore
  unfold OpQueueState.handle at hqueue
  unfold Store.serve at houtcome
  cases hop : q.op with
  | get names =>
      rw [hop] at hstore hqueue houtcome
      dsimp only at hstore hqueue houtcome
      rw [hstore] at houtcome
      have hcalls := (σ.store.get_responses R whitelist (views q.call false) q.call names).2
      rw [hstore] at hcalls
      exact h.ends R whitelist hqueue rfl rfl houtcome.symm hcalls
  | set params =>
      rw [hop] at hstore hqueue houtcome
      dsimp only at hstore hqueue houtcome
      by_cases hempty : params.isEmpty = true
      · rw [if_pos hempty] at hstore hqueue houtcome
        obtain ⟨hrespond, -⟩ := Prod.mk.inj hstore
        rw [hrespond] at houtcome
        refine h.ends R whitelist hqueue rfl rfl houtcome.symm ?_
        rw [← hrespond]
        exact Store.respond_calls ..
      · rw [if_neg hempty] at hstore hqueue houtcome
        obtain ⟨hset, rfl⟩ := Prod.mk.inj hstore
        -- the operation goes on with the read, so the end is the same
        rw [if_pos rfl] at hqueue
        have hecho : σ'.outcome R whitelist views = σ.outcome R whitelist views := by
          rw [houtcome, hset]
          unfold StoreState.outcome Store.echo
          rw [hqueue]
          simp only [hop]
        refine ⟨?_, ?_⟩
        · rw [hecho, h.outcome, hqueue]
        · rw [← hset, Store.set_responses, h.answered, hqueue]
  | subscribe names | unsubscribe names =>
      rw [hop] at hstore hqueue houtcome
      obtain ⟨hsame, -⟩ := Prod.mk.inj hstore
      refine h.ends R whitelist hqueue rfl rfl ?_ ?_
      · rw [houtcome, ← hsame]
      · rw [← hsame]
        exact (List.append_nil _).symm

theorem Serial.echo (h : σ.Serial R whitelist views root) {q : QueuedOp} {returns : Bool}
    (hworker : σ.queue.worker = .echoing q) (hqueue : σ'.queue = σ.queue.finish q returns)
    (hstore : σ.store.echo R whitelist (views q.call true) q = (σ'.store, returns)) :
    σ'.Serial R whitelist views root := by
  have houtcome : σ.outcome R whitelist views =
      (σ.store.echo R whitelist (views q.call true) q).1 := by
    unfold StoreState.outcome
    rw [hworker]
  rw [hstore] at houtcome
  refine h.ends R whitelist hqueue rfl rfl houtcome.symm ?_
  unfold Store.echo at hstore
  split at hstore
  · rename_i params hop
    have hcalls := (σ.store.get_responses R whitelist (views q.call true) q.call
      (params.map Parameter.name)).2
    rwa [hstore] at hcalls
  · obtain ⟨hsame, rfl⟩ := Prod.mk.inj hstore
    rw [← hsame]
    exact (List.append_nil _).symm

/-- The invariant holds after any step of any thread. -/
theorem Serial.step (h : σ.Serial R whitelist views root)
    (hs : σ.step R whitelist views a = some σ') : σ'.Serial R whitelist views root := by
  have hqueue := queue_step R whitelist hs
  by_cases hhandle : ∃ returns, a = .handle returns
  · obtain ⟨returns, rfl⟩ := hhandle
    have hstore := handle_step R whitelist hs
    simp only [handle] at hstore
    simp only [OpQueueState.step] at hqueue
    split at hstore
    · rename_i q hworker
      rw [hworker] at hqueue
      exact h.begin R whitelist hworker (Option.some.inj hqueue).symm (Option.some.inj hstore)
    · rename_i q hworker
      rw [hworker] at hqueue
      exact h.echo R whitelist hworker (Option.some.inj hqueue).symm (Option.some.inj hstore)
    · cases hstore
  · have hnot : ∀ returns, a ≠ .handle returns := fun returns heq => hhandle ⟨returns, heq⟩
    have hstore := store_step R whitelist hs hnot
    obtain ⟨hanswered, ⟨hstarted, hworker⟩ | ⟨q, hbefore, hworker, hstarted⟩⟩ :=
      (OpQueueState.step_rule hqueue).worker_cases hnot
    · refine ⟨?_, by rw [hstore, hanswered, h.answered]⟩
      rw [hstarted, ← h.outcome]
      rcases hworker with hsame | ⟨hbefore, hafter⟩
      · unfold StoreState.outcome
        rw [hsame, hstore]
      · rw [outcome_of_resting R whitelist hbefore, outcome_of_resting R whitelist hafter, hstore]
    · -- an operation is taken, which the serial store serves next
      refine ⟨?_, by rw [hstore, hanswered, h.answered]⟩
      have hserial : σ.store = .serial R whitelist views root σ.queue.started := by
        rw [← outcome_of_resting R whitelist hbefore, h.outcome]
      unfold StoreState.outcome
      rw [hworker, hstarted, Store.serial_append_singleton, ← hserial, hstore]

theorem Serial.of_reachable (h : (storeSystem R whitelist views root).Reachable σ) :
    σ.Serial R whitelist views root := by
  refine TSys.Run.invariant h
    ⟨?_, fun _ _ _ hserial _ hs => Serial.step R whitelist hserial hs⟩
  intro τ hinit
  obtain rfl := hinit
  exact ⟨rfl, rfl⟩

/-- The queue goes its own way. -/
theorem queue_reachable (h : (storeSystem R whitelist views root).Reachable σ) :
    opQueueSystem.Reachable σ.queue := by
  refine TSys.Run.simulates StoreState.queue h ?_ ?_
  · intro τ hinit
    obtain rfl := hinit
    rfl
  · intro τ a τ' _ _ hs
    exact .inr ⟨a, queue_step R whitelist hs⟩

/-- What was sent, the serial store sends while it serves the operations in their order. -/
theorem Serial.responses (h : σ.Serial R whitelist views root) :
    σ.store.responses <+: (Store.serial R whitelist views root σ.queue.started).responses := by
  rw [← h.outcome]
  unfold StoreState.outcome
  split
  · exact Store.prefix_serve ..
  · exact Store.prefix_echo ..
  · exact List.prefix_refl _

theorem prefix_step (hs : σ.step R whitelist views a = some σ') :
    σ.store.responses <+: σ'.store.responses := by
  by_cases hhandle : ∃ returns, a = .handle returns
  · obtain ⟨returns, rfl⟩ := hhandle
    have hstore := handle_step R whitelist hs
    unfold handle at hstore
    split at hstore
    · rename_i q _
      have hbegin := σ.store.prefix_begin R whitelist (views q.call false) q returns
      rwa [Option.some.inj hstore] at hbegin
    · rename_i q _
      have hecho := σ.store.prefix_echo R whitelist (views q.call true) q
      rwa [Option.some.inj hstore] at hecho
    · cases hstore
  · rw [store_step R whitelist hs fun returns heq => hhandle ⟨returns, heq⟩]

/-- Neither the order of the operations nor a response is ever revised. -/
theorem prefix_exec {actions : List OpQueueAction}
    (he : (storeSystem R whitelist views root).exec σ actions = some σ') :
    σ.queue.enqueued <+: σ'.queue.enqueued ∧ σ.store.responses <+: σ'.store.responses := by
  constructor
  · refine TSys.exec_rel (R := fun τ τ' => τ.queue.enqueued <+: τ'.queue.enqueued)
      (fun _ => List.prefix_refl _) List.IsPrefix.trans (fun _ _ _ _ hs => ?_) he
    exact (OpQueueState.step_rule (queue_step R whitelist hs)).enqueued
  · exact TSys.exec_rel (R := fun τ τ' => τ.store.responses <+: τ'.store.responses)
      (fun _ => List.prefix_refl _) List.IsPrefix.trans
      (fun _ _ _ _ hs => prefix_step R whitelist hs) he

end StoreState

/-- **The parameters are one serial store.** Whatever the threads, the master and other nodes
do: the responses sent so far are the first ones of the serial store that serves the operations
one by one in the order in which they were queued, and while no handler runs the parameters are
what that store has made of them. Each response is for the call that asked, and what happens
later revises neither the order nor a response: an operation that is queued after a response was
sent is served after it. -/
theorem operations_linearizable {views : Nat → Bool → MasterView} {root : XmlRpcValue}
    {σ : StoreState} (h : (storeSystem R whitelist views root).Reachable σ) :
    σ.store.responses <+: (Store.serial R whitelist views root σ.queue.enqueued).responses ∧
      (σ.queue.worker.running = none →
        σ.store = .serial R whitelist views root σ.queue.started) ∧
      σ.queue.started <+: σ.queue.enqueued ∧ (σ.queue.enqueued.map QueuedOp.call).Nodup ∧
      σ.store.responses.map Prod.fst = σ.queue.answered ∧
      ∀ actions τ, (storeSystem R whitelist views root).exec σ actions = some τ →
        σ.queue.enqueued <+: τ.queue.enqueued ∧ σ.store.responses <+: τ.store.responses := by
  have hserial := StoreState.Serial.of_reachable R whitelist h
  have horder := (OpQueueState.Sound.of_reachable
    (StoreState.queue_reachable R whitelist h)).inOrder
  refine ⟨?_, ?_, horder.fifo, horder.once, hserial.answered, ?_⟩
  · exact (hserial.responses R whitelist).trans
      (Store.prefix_serial R whitelist views root horder.fifo)
  · intro hresting
    rw [← StoreState.outcome_of_resting R whitelist hresting]
    exact hserial.outcome
  · intro actions τ he
    exact StoreState.prefix_exec R whitelist he

/-- A set and a get come from two threads; the get waits for the set. -/
def getBehindSet : List OpQueueAction :=
  [.call (.get ["/rate"]), .call (.set [⟨"rate", .none, some (.integer 2)⟩]), .enqueue 1,
    .enqueue 0, .lock, .check, .handle true, .handle true, .endIteration, .check, .handle true]

theorem operations_linearizable_two_threads : ∃ σ,
    (storeSystem bridgeNode [fun _ => true] (fun _ _ => ⟨id, true⟩)
        (.struct [("rate", .int 1)])).exec ⟨.initial, ⟨.struct [("rate", .int 1)], []⟩⟩
      getBehindSet = some σ ∧
    σ.store.responses = [(1, [⟨"rate", .none, some (.integer 2)⟩]),
      (0, [⟨"/rate", .none, some (.integer 2)⟩])] ∧
    σ.store.responses <+: (Store.serial bridgeNode [fun _ => true] (fun _ _ => ⟨id, true⟩)
      (.struct [("rate", .int 1)]) σ.queue.enqueued).responses := by
  refine ⟨_, rfl, rfl, ?_⟩
  have hreach : (storeSystem bridgeNode [fun _ => true] (fun _ _ => ⟨id, true⟩)
      (.struct [("rate", .int 1)])).Reachable _ :=
    TSys.Reachable.exec (.init rfl) (show TSys.exec _ _ getBehindSet = some _ from rfl)
  exact (operations_linearizable bridgeNode [fun _ => true] hreach).1

/-! ## What a set echoes -/

/-- The parameter is written under the key, and nothing after it is written above or below. -/
structure LastWrite (params : List Parameter) (param : Parameter) (key : Key) : Prop where
  writes : Writes R whitelist param key
  last : ∃ before after, params = before ++ param :: after ∧
    ∀ later ∈ after, ∀ other, Writes R whitelist later other → ¬ Related other key

/-- What stands at its key is what the last write left there. -/
theorem LastWrite.get {params : List Parameter} {param : Parameter} {key : Key}
    (h : LastWrite R whitelist params param key) (root : XmlRpcValue) :
    (setParams R whitelist root params).get key = written param := by
  obtain ⟨before, after, rfl, hafter⟩ := h.last
  have hsplit : setParams R whitelist root (before ++ param :: after) =
      setParams R whitelist
        (setParam R whitelist (setParams R whitelist root before) param) after := by
    unfold setParams
    rw [List.foldl_append, List.foldl_cons]
  rw [hsplit, setParams_of_not_writes R whitelist hafter,
    setParam_of_writes R whitelist h.writes]

theorem LastWrite.readFrom {params : List Parameter} {param : Parameter} {key : Key}
    (h : LastWrite R whitelist params param key) (root : XmlRpcValue) :
    readFrom R whitelist (setParams R whitelist root params) true param.name =
      (written param).bind fun value => (fromRosParam param.name value).toOption := by
  obtain ⟨haccepts, hresolve, -⟩ := h.writes
  unfold FoxgloveBridge.readFrom
  rw [if_pos haccepts, hresolve, Option.bind_some, if_pos rfl, h.get]

/-- A value that the master can hold under its hint is written, and read again as it was. -/
theorem written_storable {param : Parameter} {v : ParameterValue} (hvalue : param.value = some v)
    (hwf : v.Wf) (hheight : v.height < maxParamDepth)
    (hstorable : (v.hinted param.type).Storable) :
    ∃ value p, written param = some value ∧ fromRosParam param.name value = .ok p ∧
      p.value = some (v.hinted param.type) := by
  have hhinted : (v.hinted param.type).height < maxParamDepth := by
    rwa [v.height_hinted]
  have hwrite := toRosParam_eq (v.hinted param.type) (hwf.hinted param.type) 0
  rw [← toRosParam_hinted v, if_pos (by omega)] at hwrite
  obtain ⟨p, hread, hp⟩ :=
    (fromRosParam_eq_ok_iff param.name (encode (v.hinted param.type)) (v.hinted param.type)).mpr
      ((valueFromRosParam_encode _ (hwf.hinted param.type) 1).mpr ⟨hstorable, by omega⟩)
  refine ⟨encode (v.hinted param.type), p, ?_, hread, hp⟩
  unfold written
  rw [hvalue, Option.bind_some, hwrite]
  rfl

/-- A parameter that no later one overwrites is echoed as the master holds it, and not at all if it
was deleted. -/
theorem LastWrite.mem_echo_iff {params values : List Parameter} {param : Parameter} {key : Key}
    (hlast : LastWrite R whitelist params param key) {root : XmlRpcValue}
    (hecho : getParamsFrom R whitelist (setParams R whitelist root params) true
      (params.map Parameter.name) = .ok values) (p : Parameter) :
    p ∈ values ∧ p.name = param.name ↔
      ∃ value, written param = some value ∧ fromRosParam param.name value = .ok p := by
  have hread := hlast.readFrom R whitelist root
  have hin : param.name ∈ params.map Parameter.name := by
    obtain ⟨before, after, rfl, -⟩ := hlast.last
    exact List.mem_map_of_mem (List.mem_append_right _ List.mem_cons_self)
  rw [mem_getParamsFrom R whitelist (List.ne_nil_of_mem hin) hecho]
  constructor
  · rintro ⟨⟨name, -, hname⟩, heq⟩
    obtain ⟨rfl, -⟩ := readFrom_name R whitelist hname
    rw [heq, hread] at hname
    obtain ⟨value, hvalue, hfrom⟩ := Option.bind_eq_some_iff.mp hname
    refine ⟨value, hvalue, ?_⟩
    cases hconvert : fromRosParam param.name value with
    | error e =>
        rw [hconvert] at hfrom
        cases hfrom
    | ok q =>
        rw [hconvert] at hfrom
        rw [Option.some.inj hfrom]
  · rintro ⟨value, hvalue, hfrom⟩
    refine ⟨⟨param.name, hin, ?_⟩, fromRosParam_name hfrom⟩
    rw [hread, hvalue, Option.bind_some, hfrom]
    rfl

/-- **A set reads its own writes.** For any parameters `root` and any list of client parameters,
with `values` what is echoed: a parameter that no later one overwrites is echoed as the master
holds it, and not at all if it was deleted; it has the value that the client sent, an integer
that is hinted to be a float as its double, if the master can hold that; nothing is echoed
under a name that is not accepted; and a key unrelated to all that is written keeps its
value. -/
theorem set_reads_own_writes {root : XmlRpcValue} {params values : List Parameter}
    (hne : params ≠ [])
    (hecho : getParamsFrom R whitelist (setParams R whitelist root params) true
      (params.map Parameter.name) = .ok values) :
    (∀ param key, LastWrite R whitelist params param key → ∀ p,
      p ∈ values ∧ p.name = param.name ↔
        ∃ value, written param = some value ∧ fromRosParam param.name value = .ok p) ∧
    (∀ param key v, LastWrite R whitelist params param key → param.value = some v → v.Wf →
      v.height < maxParamDepth → (v.hinted param.type).Storable →
        ∃ p ∈ values, p.name = param.name ∧ p.value = some (v.hinted param.type)) ∧
    (∀ p ∈ values, accepts R whitelist p.name = true) ∧
    (∀ other, (∀ param ∈ params, ∀ key, Writes R whitelist param key → ¬ Related key other) →
      (setParams R whitelist root params).get other = root.get other) := by
  have hnames : params.map Parameter.name ≠ [] := by
    rw [Ne, List.map_eq_nil_iff]
    exact hne
  have hmem := mem_getParamsFrom R whitelist hnames hecho
  refine ⟨fun _ _ hlast => hlast.mem_echo_iff R whitelist hecho, ?_, ?_, ?_⟩
  · intro param key v hlast hvalue hwf hheight hstorable
    obtain ⟨value, p, hwritten, hread, hp⟩ := written_storable hvalue hwf hheight hstorable
    obtain ⟨hin, hname⟩ :=
      (hlast.mem_echo_iff R whitelist hecho p).mpr ⟨value, hwritten, hread⟩
    exact ⟨p, hin, hname, hp⟩
  · intro p hp
    obtain ⟨name, -, hname⟩ := (hmem p).mp hp
    obtain ⟨rfl, haccepts⟩ := readFrom_name R whitelist hname
    exact haccepts
  · intro other hother
    exact setParams_of_not_writes R whitelist hother root

/-- One parameter is written twice, the second time as a whole-valued float, another one is
deleted. -/
def writtenTwice : List Parameter :=
  [⟨"/rate", .none, some (.integer 2)⟩, ⟨"/old", .none, none⟩,
    ⟨"/rate", .float64, some (.integer 3)⟩]

theorem set_reads_own_writes_twice : ∃ values,
    getParamsFrom bridgeNode [fun _ => true]
      (setParams bridgeNode [fun _ => true] (.struct [("old", .int 1)]) writtenTwice) true
      (writtenTwice.map Parameter.name) = .ok values ∧
    ∃ p ∈ values, p.name = "/rate" ∧ p.value = some (.float64 (Double.ofInt64 3)) := by
  have hecho : getParamsFrom bridgeNode [fun _ => true]
      (setParams bridgeNode [fun _ => true] (.struct [("old", .int 1)]) writtenTwice) true
      (writtenTwice.map Parameter.name) =
        .ok [⟨"/rate", .float64, some (.float64 (Double.ofInt64 3))⟩,
          ⟨"/rate", .float64, some (.float64 (Double.ofInt64 3))⟩] := rfl
  have hlast : LastWrite bridgeNode [fun _ => true] writtenTwice
      ⟨"/rate", .float64, some (.integer 3)⟩ ["rate"] :=
    ⟨⟨rfl, rfl, _, rfl, .inl (List.cons_ne_nil _ _)⟩, [_, _], [], rfl,
      fun _ hmem => absurd hmem List.not_mem_nil⟩
  refine ⟨_, hecho, ?_⟩
  exact (set_reads_own_writes bridgeNode [fun _ => true] (List.cons_ne_nil _ _) hecho).2.1 _ _
    (.integer 3) hlast rfl trivial (by decide) trivial

end FoxgloveBridge
