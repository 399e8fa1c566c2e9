import FoxgloveBridge.Lib.TSys
import Mathlib.Logic.Function.Basic

/-!
# Service calls

`handleServiceRequest`, the worker it detaches for each accepted request, and
`sweepExpiredServiceCalls` as one transition system. The handler runs on the poll
loops of the transports, so any number of requests can be inside it; every
accepted request has a worker of its own; there is one sweep at a time, on the
poll thread. A step is one locked section, one call into roscpp or the SDK, or
the code between two of them.

The two locks are visible in what is enabled: while a sweep scans, it holds
`_pendingServiceCallsMutex` and no request can be queued, whereas the mutex of a
single call is held for one step only, so a worker may take its responder between
any two steps of the scan, and between the sweep's look at an entry and what it
does with that entry.

The last three fields of the state are history that no step reads.
-/

namespace FoxgloveBridge

/-- Requests are told apart by the order they arrive in; the responder of a
request is known by the same number. -/
abbrev RequestId := Nat

structure ServiceRequest where
  serviceName : String
  encoding : String
  payload : List UInt8
  deriving DecidableEq, Repr

structure ServiceDetails where
  type : String
  md5sum : String
  deriving DecidableEq, Repr

structure GenericService where
  type : String
  md5sum : String
  data : List UInt8
  deriving DecidableEq, Repr

/-- What `respondOk` and `respondError` send. -/
inductive ServiceReply
  | ok (data : List UInt8)
  | error (message : String)
  deriving DecidableEq, Repr

/-- A call in flight, shared by its worker and the sweep. -/
structure PendingServiceCall where
  /-- Whether `responder` still holds a value. -/
  responder : Bool
  serviceName : String
  deriving DecidableEq, Repr

/-- An element of `_pendingServiceCalls`: the deadline and the shared call. -/
structure PendingEntry where
  deadline : Int
  call : RequestId
  deriving DecidableEq, Repr

/-- Where `handleServiceRequest` is for one request. -/
inductive HandlerPhase
  | unseen
  /-- The locked lookup found the service. -/
  | found (request : ServiceRequest) (details : ServiceDetails)
  /-- Answered with an error; `details` is what the lookup found. -/
  | rejected (request : ServiceRequest) (details : Option ServiceDetails)
  /-- In the list; the worker is not started yet. -/
  | queued (request : ServiceRequest) (details : ServiceDetails)
  | returned (request : ServiceRequest) (details : ServiceDetails)
  deriving DecidableEq, Repr

/-- The handler started the worker and returned. -/
def HandlerPhase.hasReturned : HandlerPhase → Bool
  | .returned .. => true
  | _ => false

/-- Where the worker of one request is. -/
inductive CallPhase
  | notStarted
  /-- Inside `ros::service::call`. -/
  | calling (serviceName : String) (genReq : GenericService)
  /-- The call returned `ok` and `genRes`. -/
  | called (serviceName : String) (genReq : GenericService) (ok : Bool) (genRes : GenericService)
  /-- It took the responder and is about to answer. -/
  | responding (reply : ServiceReply)
  | finished
  deriving DecidableEq, Repr

/-- One run of `sweepExpiredServiceCalls`. -/
structure Sweep where
  now : Int
  /-- The requests that were accepted when it began. -/
  known : List RequestId
  deriving DecidableEq, Repr

/-- Where the sweep is. -/
inductive SweepPhase
  | idle
  /-- `now` is read, the lock is not taken yet. -/
  | began (sweep : Sweep)
  /-- In the locked loop with the iterator at `it`; `completed` is the flag read
  for the entry there, `none` before it is read. -/
  | scanning (sweep : Sweep) (expired : List RequestId) (it : Nat) (completed : Option Bool)
  /-- In the second loop, these calls to go. -/
  | answering (sweep : Sweep) (expired : List RequestId)
  /-- It took the responder of `call` and is about to answer. -/
  | responding (sweep : Sweep) (call : RequestId) (expired : List RequestId)
  deriving DecidableEq, Repr

/-- The calls in the sweep's local vector that it has not dealt with. -/
def SweepPhase.expired : SweepPhase → List RequestId
  | .scanning _ expired _ _ | .answering _ expired | .responding _ _ expired => expired
  | _ => []

/-- The run of the sweep in progress. -/
def SweepPhase.active : SweepPhase → Option Sweep
  | .idle => none
  | .began sweep | .scanning sweep _ _ _ | .answering sweep _ | .responding sweep _ _ => some sweep

/-- Whether the sweep holds `_pendingServiceCallsMutex`. -/
def SweepPhase.locked : SweepPhase → Bool
  | .scanning .. => true
  | _ => false

structure ServiceState where
  /-- `_advertisedServices`. -/
  advertisedServices : List (String × ServiceDetails)
  /-- The steady clock, in nanoseconds. -/
  clock : Int
  handler : RequestId → HandlerPhase
  /-- The shared calls. -/
  pending : RequestId → PendingServiceCall
  /-- `_pendingServiceCalls`. -/
  pendingServiceCalls : List PendingEntry
  worker : RequestId → CallPhase
  sweep : SweepPhase
  /-- The responders that have been taken for an answer. -/
  consumed : List RequestId
  /-- The answers given so far. -/
  answers : List (RequestId × ServiceReply)
  /-- The requests that have been queued. -/
  accepted : List RequestId
  /-- The deadline each of them was queued with. -/
  deadline : RequestId → Int
  /-- The sweeps that have returned. -/
  swept : List Sweep

inductive ServiceAction
  /-- `updateAdvertisedServices` changes the table. -/
  | updateServices (services : List (String × ServiceDetails))
  | tick (elapsed : Nat)
  /-- A request arrives and is looked up under `_servicesMutex`. -/
  | receive (id : RequestId) (request : ServiceRequest)
  /-- The checks after the lookup, up to the locked `emplace_back`. -/
  | proceed (id : RequestId)
  | startWorker (id : RequestId)
  | callReturns (id : RequestId) (ok : Bool) (data : List UInt8)
  | workerTakes (id : RequestId)
  | workerResponds (id : RequestId)
  | sweepBegins
  | sweepLocks
  /-- The sweep reads `completed` for the entry at its iterator. -/
  | sweepChecks
  /-- It erases the entry, moves it to `expired`, or steps over it. -/
  | sweepAdvances
  | sweepUnlocks
  | sweepTakes
  | sweepResponds
  | sweepReturns
  deriving DecidableEq, Repr

/-- The errors `handleServiceRequest` answers at once, by what the lookup found:
no such service, an encoding other than ROS 1, no type information. -/
def rejection (request : ServiceRequest) : Option ServiceDetails → Option String
  | none => some ("Service " ++ request.serviceName ++ " does not exist")
  | some details =>
      if request.encoding ≠ "ros1" then
        some ("Service " ++ request.serviceName
          ++ " received a request with an unsupported encoding " ++ request.encoding)
      else if details.md5sum = "" then
        some ("Type information for service " ++ request.serviceName ++ " is unavailable")
      else none

/-- What a worker answers with after its call. -/
def workerReply (serviceName : String) (genReq : GenericService) (ok : Bool)
    (genRes : GenericService) : ServiceReply :=
  if ok then .ok genRes.data
  else .error ("Failed to call service " ++ serviceName ++ " (" ++ genReq.type ++ ")")

variable (serviceCallTimeoutMs : Int)

/-- What the sweep answers with. -/
def timeoutReply (pending : PendingServiceCall) : ServiceReply :=
  .error ("Service call to " ++ pending.serviceName ++ " timed out after "
    ++ toString serviceCallTimeoutMs ++ " ms")

namespace ServiceState

/-- Answering a request up front uses up the responder it came with. -/
def reject (σ : ServiceState) (id : RequestId) (request : ServiceRequest)
    (details : Option ServiceDetails) (message : String) : ServiceState :=
  { σ with
    handler := Function.update σ.handler id (.rejected request details)
    consumed := σ.consumed ++ [id]
    answers := σ.answers ++ [(id, .error message)] }

/-- The shared call is created with the responder in it and appended to the list
with its deadline. -/
def accept (σ : ServiceState) (id : RequestId) (request : ServiceRequest)
    (details : ServiceDetails) : ServiceState :=
  let deadline := σ.clock + 1000000 * serviceCallTimeoutMs
  { σ with
    handler := Function.update σ.handler id (.queued request details)
    pending := Function.update σ.pending id ⟨true, request.serviceName⟩
    pendingServiceCalls := σ.pendingServiceCalls ++ [⟨deadline, id⟩]
    accepted := σ.accepted ++ [id]
    deadline := Function.update σ.deadline id deadline }

/-- The locked swap that empties `responder`. -/
def take (σ : ServiceState) (id : RequestId) : ServiceState :=
  { σ with
    pending := Function.update σ.pending id { σ.pending id with responder := false }
    consumed := σ.consumed ++ [id] }

/-- Handing a taken responder its answer. -/
def respond (σ : ServiceState) (id : RequestId) (reply : ServiceReply) : ServiceState :=
  { σ with answers := σ.answers ++ [(id, reply)] }

def setWorker (σ : ServiceState) (id : RequestId) (phase : CallPhase) : ServiceState :=
  { σ with worker := Function.update σ.worker id phase }

/-- What the loop of the sweep does with the entry at its iterator. -/
def advance (σ : ServiceState) (sweep : Sweep) (expired : List RequestId) (it : Nat)
    (completed : Bool) (entry : PendingEntry) : ServiceState :=
  if completed then
    { σ with
      pendingServiceCalls := σ.pendingServiceCalls.eraseIdx it
      sweep := .scanning sweep expired it none }
  else if entry.deadline ≤ sweep.now then
    { σ with
      pendingServiceCalls := σ.pendingServiceCalls.eraseIdx it
      sweep := .scanning sweep (expired ++ [entry.call]) it none }
  else { σ with sweep := .scanning sweep expired (it + 1) none }

def step (σ : ServiceState) : ServiceAction → Option ServiceState
  | .updateServices services => some { σ with advertisedServices := services }
  | .tick elapsed => some { σ with clock := σ.clock + elapsed }
  | .receive id request =>
      match σ.handler id with
      | .unseen =>
          match σ.advertisedServices.lookup request.serviceName with
          | none =>
              (rejection request none).map fun message => σ.reject id request none message
          | some details =>
              some { σ with handler := Function.update σ.handler id (.found request details) }
      | _ => none
  | .proceed id =>
      match σ.handler id with
      | .found request details =>
          match rejection request (some details) with
          | some message => some (σ.reject id request (some details) message)
          | none =>
              if σ.sweep.locked then none
              else some (σ.accept serviceCallTimeoutMs id request details)
      | _ => none
  | .startWorker id =>
      match σ.handler id with
      | .queued request details =>
          let genReq : GenericService := ⟨details.type, details.md5sum, request.payload⟩
          some ({ σ with
            handler := Function.update σ.handler id (.returned request details) }.setWorker id
              (.calling request.serviceName genReq))
      | _ => none
  | .callReturns id ok data =>
      match σ.worker id with
      | .calling serviceName genReq =>
          some (σ.setWorker id
            (.called serviceName genReq ok ⟨genReq.type, genReq.md5sum, data⟩))
      | _ => none
  | .workerTakes id =>
      match σ.worker id with
      | .called serviceName genReq ok genRes =>
          if (σ.pending id).responder then
            some ((σ.take id).setWorker id
              (.responding (workerReply serviceName genReq ok genRes)))
          -- the watchdog already responded with a timeout error
          else some (σ.setWorker id .finished)
      | _ => none
  | .workerResponds id =>
      match σ.worker id with
      | .responding reply => some ((σ.respond id reply).setWorker id .finished)
      | _ => none
  | .sweepBegins =>
      match σ.sweep with
      | .idle => some { σ with sweep := .began ⟨σ.clock, σ.accepted⟩ }
      | _ => none
  | .sweepLocks =>
      match σ.sweep with
      | .began sweep => some { σ with sweep := .scanning sweep [] 0 none }
      | _ => none
  | .sweepChecks =>
      match σ.sweep with
      | .scanning sweep expired it none =>
          σ.pendingServiceCalls[it]?.map fun entry =>
            { σ with sweep := .scanning sweep expired it (some !(σ.pending entry.call).responder) }
      | _ => none
  | .sweepAdvances =>
      match σ.sweep with
      | .scanning sweep expired it (some completed) =>
          σ.pendingServiceCalls[it]?.map (σ.advance sweep expired it completed)
      | _ => none
  | .sweepUnlocks =>
      match σ.sweep with
      | .scanning sweep expired it none =>
          if it = σ.pendingServiceCalls.length then
            some { σ with sweep := .answering sweep expired }
          else none
      | _ => none
  | .sweepTakes =>
      match σ.sweep with
      | .answering sweep (call :: expired) =>
          if (σ.pending call).responder then
            some { σ.take call with sweep := .responding sweep call expired }
          else some { σ with sweep := .answering sweep expired }
      | _ => none
  | .sweepResponds =>
      match σ.sweep with
      | .responding sweep call expired =>
          some { σ.respond call (timeoutReply serviceCallTimeoutMs (σ.pending call)) with
            sweep := .answering sweep expired }
      | _ => none
  | .sweepReturns =>
      match σ.sweep with
      | .answering sweep [] => some { σ with sweep := .idle, swept := σ.swept ++ [sweep] }
      | _ => none

/-- Before the first request. The table of services and the clock are arbitrary. -/
def Initial (σ : ServiceState) : Prop :=
  (∀ id, σ.handler id = .unseen) ∧ (∀ id, (σ.pending id).responder = false) ∧
    (∀ id, σ.worker id = .notStarted) ∧ σ.pendingServiceCalls = [] ∧ σ.sweep = .idle ∧
    σ.consumed = [] ∧ σ.answers = [] ∧ σ.accepted = [] ∧ σ.swept = []

end ServiceState

def serviceSystem : TSys ServiceState ServiceAction where
  init := ServiceState.Initial
  step := ServiceState.step serviceCallTimeoutMs

/-! ## What the steps can do -/

namespace ServiceState

/-- The steps as rules, one for each way a step can go. -/
inductive Step (σ : ServiceState) : ServiceAction → ServiceState → Prop
  | servicesUpdated {services} :
      Step σ (.updateServices services) { σ with advertisedServices := services }
  | ticked {elapsed : Nat} : Step σ (.tick elapsed) { σ with clock := σ.clock + elapsed }
  | unknown {id request message} : σ.handler id = .unseen →
      rejection request none = some message →
      Step σ (.receive id request) (σ.reject id request none message)
  | found {id request details} : σ.handler id = .unseen →
      Step σ (.receive id request)
        { σ with handler := Function.update σ.handler id (.found request details) }
  | rejected {id request details message} : σ.handler id = .found request details →
      rejection request (some details) = some message →
      Step σ (.proceed id) (σ.reject id request (some details) message)
  | accepted {id request details} : σ.handler id = .found request details →
      rejection request (some details) = none → σ.sweep.locked = false →
      Step σ (.proceed id) (σ.accept serviceCallTimeoutMs id request details)
  | workerStarted {id request details serviceName genReq} :
      σ.handler id = .queued request details →
      Step σ (.startWorker id)
        ({ σ with handler := Function.update σ.handler id (.returned request details) }.setWorker
          id (.calling serviceName genReq))
  | callReturned {id ok data serviceName genReq genRes} :
      σ.worker id = .calling serviceName genReq →
      Step σ (.callReturns id ok data) (σ.setWorker id (.called serviceName genReq ok genRes))
  | workerTook {id serviceName genReq ok genRes reply} :
      σ.worker id = .called serviceName genReq ok genRes → (σ.pending id).responder = true →
      Step σ (.workerTakes id) ((σ.take id).setWorker id (.responding reply))
  | workerLate {id serviceName genReq ok genRes} :
      σ.worker id = .called serviceName genReq ok genRes → (σ.pending id).responder = false →
      Step σ (.workerTakes id) (σ.setWorker id .finished)
  | workerResponded {id reply} : σ.worker id = .responding reply →
      Step σ (.workerResponds id) ((σ.respond id reply).setWorker id .finished)
  | sweepBegan : σ.sweep = .idle →
      Step σ .sweepBegins { σ with sweep := .began ⟨σ.clock, σ.accepted⟩ }
  | sweepLocked {sweep} : σ.sweep = .began sweep →
      Step σ .sweepLocks { σ with sweep := .scanning sweep [] 0 none }
  | checked {sweep expired it entry} : σ.sweep = .scanning sweep expired it none →
      σ.pendingServiceCalls[it]? = some entry →
      Step σ .sweepChecks
        { σ with sweep := .scanning sweep expired it (some !(σ.pending entry.call).responder) }
  | erasedCompleted {sweep expired it entry} : σ.sweep = .scanning sweep expired it (some true) →
      σ.pendingServiceCalls[it]? = some entry →
      Step σ .sweepAdvances
        { σ with
          pendingServiceCalls := σ.pendingServiceCalls.eraseIdx it
          sweep := .scanning sweep expired it none }
  | movedExpired {sweep expired it entry} : σ.sweep = .scanning sweep expired it (some false) →
      σ.pendingServiceCalls[it]? = some entry → entry.deadline ≤ sweep.now →
      Step σ .sweepAdvances
        { σ with
          pendingServiceCalls := σ.pendingServiceCalls.eraseIdx it
          sweep := .scanning sweep (expired ++ [entry.call]) it none }
  | kept {sweep expired it entry} : σ.sweep = .scanning sweep expired it (some false) →
      σ.pendingServiceCalls[it]? = some entry → sweep.now < entry.deadline →
      Step σ .sweepAdvances { σ with sweep := .scanning sweep expired (it + 1) none }
  | sweepUnlocked {sweep expired} :
      σ.sweep = .scanning sweep expired σ.pendingServiceCalls.length none →
      Step σ .sweepUnlocks { σ with sweep := .answering sweep expired }
  | sweepTook {sweep call expired} : σ.sweep = .answering sweep (call :: expired) →
      (σ.pending call).responder = true →
      Step σ .sweepTakes { σ.take call with sweep := .responding sweep call expired }
  | sweepLate {sweep call expired} : σ.sweep = .answering sweep (call :: expired) →
      (σ.pending call).responder = false →
      Step σ .sweepTakes { σ with sweep := .answering sweep expired }
  | sweepResponded {sweep call expired reply} : σ.sweep = .responding sweep call expired →
      Step σ .sweepResponds { σ.respond call reply with sweep := .answering sweep expired }
  | sweepReturned {sweep} : σ.sweep = .answering sweep [] →
      Step σ .sweepReturns { σ with sweep := .idle, swept := σ.swept ++ [sweep] }

variable {serviceCallTimeoutMs}

/-- The locked lookup answers an unknown service and keeps the details of a known
one. -/
theorem receive_rule {σ σ' : ServiceState} {id : RequestId} {request : ServiceRequest}
    (hs : σ.step serviceCallTimeoutMs (.receive id request) = some σ') :
    σ.Step serviceCallTimeoutMs (.receive id request) σ' := by
  simp only [step] at hs
  split at hs
  · split at hs
    · obtain ⟨message, hmessage, rfl⟩ := Option.map_eq_some_iff.mp hs
      exact .unknown ‹_› hmessage
    · obtain rfl := Option.some.inj hs
      exact .found ‹_›
  · cases hs

/-- After the lookup a request is rejected, or queued once the list is free. -/
theorem proceed_rule {σ σ' : ServiceState} {id : RequestId}
    (hs : σ.step serviceCallTimeoutMs (.proceed id) = some σ') :
    σ.Step serviceCallTimeoutMs (.proceed id) σ' := by
  simp only [step] at hs
  split at hs
  · split at hs
    · obtain rfl := Option.some.inj hs
      exact .rejected ‹_› ‹_›
    · obtain ⟨hfree, hσ'⟩ := Option.ite_none_left_eq_some.mp hs
      obtain rfl := Option.some.inj hσ'
      exact .accepted ‹_› ‹_› (Bool.eq_false_iff.mpr hfree)
  · cases hs

/-- A worker whose call has returned takes the responder if it is still there. -/
theorem workerTakes_rule {σ σ' : ServiceState} {id : RequestId}
    (hs : σ.step serviceCallTimeoutMs (.workerTakes id) = some σ') :
    σ.Step serviceCallTimeoutMs (.workerTakes id) σ' := by
  simp only [step] at hs
  split at hs
  · split at hs
    · obtain rfl := Option.some.inj hs
      exact .workerTook ‹_› ‹_›
    · obtain rfl := Option.some.inj hs
      exact .workerLate ‹_› (Bool.eq_false_iff.mpr ‹_›)
  · cases hs

/-- The loop erases a completed entry, moves an expired one, steps over the rest. -/
theorem advance_rule {σ : ServiceState} {sweep : Sweep} {expired : List RequestId} {it : Nat}
    {completed : Bool} {entry : PendingEntry}
    (h : σ.sweep = .scanning sweep expired it (some completed))
    (hentry : σ.pendingServiceCalls[it]? = some entry) :
    σ.Step serviceCallTimeoutMs .sweepAdvances (σ.advance sweep expired it completed entry) := by
  cases completed with
  | true => exact .erasedCompleted h hentry
  | false =>
      simp only [advance, Bool.false_eq_true, if_false]
      split
      · exact .movedExpired h hentry ‹_›
      · exact .kept h hentry (Int.not_le.mp ‹_›)

/-- The second loop takes the responder of a moved call if it is still there. -/
theorem sweepTakes_rule {σ σ' : ServiceState}
    (hs : σ.step serviceCallTimeoutMs .sweepTakes = some σ') :
    σ.Step serviceCallTimeoutMs .sweepTakes σ' := by
  simp only [step] at hs
  split at hs
  · split at hs
    · obtain rfl := Option.some.inj hs
      exact .sweepTook ‹_› ‹_›
    · obtain rfl := Option.some.inj hs
      exact .sweepLate ‹_› (Bool.eq_false_iff.mpr ‹_›)
  · cases hs

/-- Every step follows one of the rules. -/
theorem step_rule {σ σ' : ServiceState} {a : ServiceAction}
    (hs : σ.step serviceCallTimeoutMs a = some σ') : σ.Step serviceCallTimeoutMs a σ' := by
  cases a with
  | updateServices services =>
      obtain rfl := Option.some.inj hs
      exact .servicesUpdated
  | tick elapsed =>
      obtain rfl := Option.some.inj hs
      exact .ticked
  | receive id request => exact receive_rule hs
  | proceed id => exact proceed_rule hs
  | startWorker id =>
      simp only [step] at hs
      split at hs
      · obtain rfl := Option.some.inj hs
        exact .workerStarted ‹_›
      · cases hs
  | callReturns id ok data =>
      simp only [step] at hs
      split at hs
      · obtain rfl := Option.some.inj hs
        exact .callReturned ‹_›
      · cases hs
  | workerTakes id => exact workerTakes_rule hs
  | workerResponds id =>
      simp only [step] at hs
      split at hs
      · obtain rfl := Option.some.inj hs
        exact .workerResponded ‹_›
      · cases hs
  | sweepBegins =>
      simp only [step] at hs
      split at hs
      · obtain rfl := Option.some.inj hs
        exact .sweepBegan ‹_›
      · cases hs
  | sweepLocks =>
      simp only [step] at hs
      split at hs
      · obtain rfl := Option.some.inj hs
        exact .sweepLocked ‹_›
      · cases hs
  | sweepChecks =>
      simp only [step] at hs
      split at hs
      · obtain ⟨entry, hentry, rfl⟩ := Option.map_eq_some_iff.mp hs
        exact .checked ‹_› hentry
      · cases hs
  | sweepAdvances =>
      simp only [step] at hs
      split at hs
      · obtain ⟨entry, hentry, rfl⟩ := Option.map_eq_some_iff.mp hs
        exact advance_rule ‹_› hentry
      · cases hs
  | sweepUnlocks =>
      simp only [step] at hs
      split at hs
      · obtain ⟨rfl, hσ'⟩ := Option.ite_none_right_eq_some.mp hs
        obtain rfl := Option.some.inj hσ'
        exact .sweepUnlocked ‹_›
      · cases hs
  | sweepTakes => exact sweepTakes_rule hs
  | sweepResponds =>
      simp only [step] at hs
      split at hs
      · obtain rfl := Option.some.inj hs
        exact .sweepResponded ‹_›
      · cases hs
  | sweepReturns =>
      simp only [step] at hs
      split at hs
      · obtain rfl := Option.some.inj hs
        exact .sweepReturned ‹_›
      · cases hs

end ServiceState

end FoxgloveBridge
