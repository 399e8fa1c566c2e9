import FoxgloveBridge.Lib.Lists
import FoxgloveBridge.Lib.TSys

/-!
# The type of a service

`retrieveServiceType` asks the server of a service for its connection header and waits for
the answer, but not longer than its timeout. The header callback runs on roscpp's poll thread.
It may run when the caller has given up already, and nothing keeps roscpp from running it
again, so it shares a promise and a flag with the caller.

A step is one access of the shared state or of the connection, or one stage of the caller. The
owners of the two shared objects are counted as `shared_ptr` counts them: the last owner that
goes destroys the object, and the connection takes the callback with it.

Whatever the order: the promise is set once, by the invocation that found the flag down, and
the caller returns what that one read, or an error (`probe_retrieves`); nobody touches the shared
state after its end, and both objects end when the last user is gone (`probe_released`).
-/

namespace FoxgloveBridge

/-- A connection header. -/
abbrev ConnectionHeader := List (String × String)

/-- Where an invocation of the header callback is. -/
inductive HeaderCallbackPhase
  | exchanging
  /-- It found the flag down. -/
  | setting
  | dropping
  | returned
  deriving DecidableEq, Repr

structure HeaderCallback where
  header : ConnectionHeader
  phase : HeaderCallbackPhase
  deriving DecidableEq, Repr

/-- Where `retrieveServiceType` is. -/
inductive ProbePc
  | lookingUp
  | connecting
  | sharing
  | writingHeader
  | waiting
  | dropping
  | returned (type : Except String String)

/-- The caller has the connection. -/
def ProbePc.holdsConnection : ProbePc → Bool
  | .lookingUp | .returned _ => false
  | .connecting | .sharing | .writingHeader | .waiting | .dropping => true

/-- The caller has the shared state. -/
def ProbePc.holdsState : ProbePc → Bool
  | .writingHeader | .waiting | .dropping => true
  | .lookingUp | .connecting | .sharing | .returned _ => false

structure ProbeState where
  serviceName : String
  pc : ProbePc
  /-- The number of owners of the connection. -/
  connectionRefs : Nat
  /-- The connection manager is one of them. -/
  managed : Bool
  dropped : Bool
  /-- The connection has the callback. -/
  callbackSet : Bool
  /-- The number of owners of the shared state. -/
  stateRefs : Nat
  fulfilled : Bool
  promise : Option (Except String String)
  callbacks : List HeaderCallback
  /-- What the invocation read that found the flag down. -/
  winner : Option ConnectionHeader
  /-- The number of times the promise was set. -/
  promiseSets : Nat
  /-- The shared state was touched when it had no owner. -/
  dangling : Bool

/-- One step of the caller, of an invocation, picked by its position, or of roscpp. -/
inductive ProbeAction
  | lookupService (found : Bool)
  | connect (connected : Bool)
  | setHeaderReceivedCallback
  | writeHeader
  | ready
  | timeOut
  | dropAndThrow
  /-- The poll thread runs the callback. -/
  | receiveHeader (header : ConnectionHeader)
  | exchange (position : Nat)
  | setPromise (position : Nat)
  | dropConnection (position : Nat)
  /-- The connection breaks. -/
  | disconnect
  /-- The connection manager lets a dropped connection go. -/
  | releaseDropped

/-- What the callback makes of a header. -/
def headerType (header : ConnectionHeader) : Except String String :=
  match header.lookup "type" with
  | some serviceType => .ok serviceType
  | none => .error "Key 'type' not found in service connection header"

def timedOut : String := "Timed out when retrieving service type"

namespace ProbeState

variable (σ : ProbeState)

def initial (serviceName : String) : ProbeState where
  serviceName := serviceName
  pc := .lookingUp
  connectionRefs := 0
  managed := false
  dropped := false
  callbackSet := false
  stateRefs := 0
  fulfilled := false
  promise := none
  callbacks := []
  winner := none
  promiseSets := 0
  dangling := false

/-- One owner less; the last one destroys the connection, and the callback in it. -/
def releaseConnection : ProbeState :=
  { σ with
    connectionRefs := σ.connectionRefs - 1
    stateRefs := if σ.connectionRefs = 1 ∧ σ.callbackSet then σ.stateRefs - 1 else σ.stateRefs }

/-- The caller leaves, with what it owns. -/
def leave (type : Except String String) : ProbeState :=
  { σ.releaseConnection with
    pc := .returned type
    stateRefs := σ.releaseConnection.stateRefs - if σ.pc.holdsState then 1 else 0 }

/-- The shared state is touched. -/
def touch : ProbeState := { σ with dangling := σ.dangling || σ.stateRefs == 0 }

def setCallback (position : Nat) (c : HeaderCallback) : ProbeState :=
  { σ with callbacks := σ.callbacks.set position c }

/-- `fulfilled.exchange(true)`. -/
def exchange (position : Nat) (header : ConnectionHeader) : ProbeState :=
  if σ.fulfilled then σ.touch.setCallback position ⟨header, .dropping⟩
  else
    { σ.touch.setCallback position ⟨header, .setting⟩ with
      fulfilled := true
      winner := some header }

/-- `set_value` or `set_exception`. -/
def setPromise (position : Nat) (header : ConnectionHeader) : ProbeState :=
  { σ.touch.setCallback position ⟨header, .dropping⟩ with
    promise := some (headerType header)
    promiseSets := σ.promiseSets + 1 }

/-- `conn->drop`, after which the callback returns and lets the connection go. -/
def dropConnection (position : Nat) (header : ConnectionHeader) : ProbeState :=
  { (σ.setCallback position ⟨header, .returned⟩).releaseConnection with dropped := true }

def step : ProbeAction → Option ProbeState
  | .lookupService found =>
      match σ.pc with
      | .lookingUp =>
          if found then some { σ with pc := .connecting, connectionRefs := 2, managed := true }
          else some { σ with
            pc := .returned (.error ("Failed to lookup service " ++ σ.serviceName)) }
      | _ => none
  | .connect connected =>
      match σ.pc with
      | .connecting =>
          if connected then some { σ with pc := .sharing }
          else some (σ.leave (.error
            ("Failed to connect to service server of service " ++ σ.serviceName)))
      | _ => none
  | .setHeaderReceivedCallback =>
      match σ.pc with
      | .sharing => some { σ with pc := .writingHeader, callbackSet := true, stateRefs := 2 }
      | _ => none
  | .writeHeader =>
      match σ.pc with
      | .writingHeader => some { σ with pc := .waiting }
      | _ => none
  | .ready =>
      match σ.pc, σ.promise with
      | .waiting, some type => some (σ.leave type)
      | _, _ => none
  | .timeOut =>
      match σ.pc, σ.promise with
      | .waiting, none => some { σ with pc := .dropping }
      | _, _ => none
  | .dropAndThrow =>
      match σ.pc with
      | .dropping => some { σ.leave (.error timedOut) with dropped := true }
      | _ => none
  | .receiveHeader header =>
      if σ.callbackSet ∧ 0 < σ.connectionRefs then
        some { σ with
          connectionRefs := σ.connectionRefs + 1
          callbacks := σ.callbacks ++ [⟨header, .exchanging⟩] }
      else none
  | .exchange position =>
      match σ.callbacks[position]? with
      | some ⟨header, .exchanging⟩ => some (σ.exchange position header)
      | _ => none
  | .setPromise position =>
      match σ.callbacks[position]? with
      | some ⟨header, .setting⟩ => some (σ.setPromise position header)
      | _ => none
  | .dropConnection position =>
      match σ.callbacks[position]? with
      | some ⟨header, .dropping⟩ => some (σ.dropConnection position header)
      | _ => none
  | .disconnect => if 0 < σ.connectionRefs then some { σ with dropped := true } else none
  | .releaseDropped =>
      if σ.managed ∧ σ.dropped then some { σ.releaseConnection with managed := false } else none

end ProbeState

def probeSystem : TSys ProbeState ProbeAction where
  init σ := ∃ serviceName, σ = .initial serviceName
  step := ProbeState.step

/-! ## The steps as rules -/

namespace ProbeState

/-- One rule for each way a step can go. -/
inductive Step (σ : ProbeState) : ProbeAction → ProbeState → Prop
  | found : σ.pc = .lookingUp →
      Step σ (.lookupService true)
        { σ with pc := .connecting, connectionRefs := 2, managed := true }
  | notFound : σ.pc = .lookingUp →
      Step σ (.lookupService false)
        { σ with pc := .returned (.error ("Failed to lookup service " ++ σ.serviceName)) }
  | connected : σ.pc = .connecting → Step σ (.connect true) { σ with pc := .sharing }
  | notConnected : σ.pc = .connecting →
      Step σ (.connect false) (σ.leave (.error
        ("Failed to connect to service server of service " ++ σ.serviceName)))
  | share : σ.pc = .sharing →
      Step σ .setHeaderReceivedCallback
        { σ with pc := .writingHeader, callbackSet := true, stateRefs := 2 }
  | writeHeader : σ.pc = .writingHeader → Step σ .writeHeader { σ with pc := .waiting }
  | ready {type : Except String String} : σ.pc = .waiting → σ.promise = some type →
      Step σ .ready (σ.leave type)
  | timeOut : σ.pc = .waiting → σ.promise = none → Step σ .timeOut { σ with pc := .dropping }
  | dropAndThrow : σ.pc = .dropping →
      Step σ .dropAndThrow { σ.leave (.error timedOut) with dropped := true }
  | receiveHeader {header : ConnectionHeader} : σ.callbackSet = true → 0 < σ.connectionRefs →
      Step σ (.receiveHeader header)
        { σ with
          connectionRefs := σ.connectionRefs + 1
          callbacks := σ.callbacks ++ [⟨header, .exchanging⟩] }
  | won {position : Nat} {header : ConnectionHeader} :
      σ.callbacks[position]? = some ⟨header, .exchanging⟩ → σ.fulfilled = false →
      Step σ (.exchange position)
        { σ.touch.setCallback position ⟨header, .setting⟩ with
          fulfilled := true
          winner := some header }
  | lost {position : Nat} {header : ConnectionHeader} :
      σ.callbacks[position]? = some ⟨header, .exchanging⟩ → σ.fulfilled = true →
      Step σ (.exchange position) (σ.touch.setCallback position ⟨header, .dropping⟩)
  | setPromise {position : Nat} {header : ConnectionHeader} :
      σ.callbacks[position]? = some ⟨header, .setting⟩ →
      Step σ (.setPromise position) (σ.setPromise position header)
  | dropConnection {position : Nat} {header : ConnectionHeader} :
      σ.callbacks[position]? = some ⟨header, .dropping⟩ →
      Step σ (.dropConnection position) (σ.dropConnection position header)
  | disconnect : Step σ .disconnect { σ with dropped := true }
  | releaseDropped : σ.managed = true → σ.dropped = true →
      Step σ .releaseDropped { σ.releaseConnection with managed := false }

theorem exchange_rule {σ σ' : ProbeState} {position : Nat}
    (hs : σ.step (.exchange position) = some σ') : σ.Step (.exchange position) σ' := by
  simp only [step] at hs
  split at hs
  · obtain rfl := Option.some.inj hs
    unfold exchange
    split
    · exact .lost ‹_› ‹_›
    · exact .won ‹_› (Bool.eq_false_iff.mpr ‹_›)
  · cases hs

theorem step_rule {σ σ' : ProbeState} {a : ProbeAction} (hs : σ.step a = some σ') :
    σ.Step a σ' := by
  cases a with
  | lookupService found =>
      simp only [step] at hs
      split at hs
      · cases found with
        | true =>
            obtain rfl := Option.some.inj hs
            exact .found ‹_›
        | false =>
            obtain rfl := Option.some.inj hs
            exact .notFound ‹_›
      · cases hs
  | connect connected =>
      simp only [step] at hs
      split at hs
      · cases connected with
        | true =>
            obtain rfl := Option.some.inj hs
            exact .connected ‹_›
        | false =>
            obtain rfl := Option.some.inj hs
            exact .notConnected ‹_›
      · cases hs
  | setHeaderReceivedCallback | writeHeader | ready | timeOut | dropAndThrow | setPromise
  | dropConnection =>
      simp only [step] at hs
      split at hs
      · obtain rfl := Option.some.inj hs
        constructor <;> assumption
      · cases hs
  | receiveHeader header =>
      simp only [step] at hs
      split at hs
      · rename_i halive
        obtain rfl := Option.some.inj hs
        exact .receiveHeader halive.1 halive.2
      · cases hs
  | exchange position => exact exchange_rule hs
  | disconnect =>
      simp only [step] at hs
      split at hs
      · obtain rfl := Option.some.inj hs
        exact .disconnect
      · cases hs
  | releaseDropped =>
      simp only [step] at hs
      split at hs
      · rename_i hdropped
        obtain rfl := Option.some.inj hs
        exact .releaseDropped hdropped.1 hdropped.2
      · cases hs

/-! ## The owners -/

end ProbeState

/-- The invocation has not returned; it owns the connection. -/
def HeaderCallback.isActive (c : HeaderCallback) : Bool := c.phase != .returned

namespace ProbeState

/-- Each object has the owners that are counted. -/
structure Counted (σ : ProbeState) : Prop where
  connection : σ.connectionRefs = σ.pc.holdsConnection.toNat + σ.managed.toNat +
    σ.callbacks.countP HeaderCallback.isActive
  state : σ.stateRefs = σ.pc.holdsState.toNat +
    if σ.callbackSet = true ∧ 0 < σ.connectionRefs then 1 else 0
  unset : σ.callbackSet = false → σ.callbacks = [] ∧ σ.pc.holdsState = false
  early : σ.pc = .lookingUp ∨ σ.pc = .connecting ∨ σ.pc = .sharing → σ.callbackSet = false
  fresh : σ.pc = .lookingUp → σ.managed = false

variable {σ σ' : ProbeState}

/-- The last owner of the connection takes the callback's share of the state along. -/
theorem releaseConnection_stateRefs {n : Nat} (hpos : 0 < σ.connectionRefs)
    (h : σ.stateRefs = n + if σ.callbackSet = true ∧ 0 < σ.connectionRefs then 1 else 0) :
    σ.releaseConnection.stateRefs =
      n + if σ.callbackSet = true ∧ 0 < σ.connectionRefs - 1 then 1 else 0 := by
  show (if σ.connectionRefs = 1 ∧ σ.callbackSet = true then _ else _) = _
  cases hset : σ.callbackSet with
  | false =>
      simp only [hset, Bool.false_eq_true, false_and, and_false, if_false] at h ⊢
      exact h
  | true =>
      simp only [hset, true_and, and_true, if_pos hpos] at h ⊢
      split <;> split <;> omega

namespace Counted

/-- A running invocation owns the connection, and so there is a shared state. -/
theorem stateRefs_pos (h : σ.Counted) {c : HeaderCallback} (hc : c ∈ σ.callbacks)
    (hactive : c.isActive = true) : 0 < σ.connectionRefs ∧ 0 < σ.stateRefs := by
  have hcount : 0 < σ.callbacks.countP HeaderCallback.isActive :=
    List.countP_pos_iff.mpr ⟨c, hc, hactive⟩
  have hconnection := h.connection
  have hstate := h.state
  have hset : σ.callbackSet = true := by
    by_contra hunset
    have hnil := (h.unset (Bool.eq_false_iff.mpr hunset)).1
    rw [hnil] at hc
    cases hc
  have hrefs : 0 < σ.connectionRefs := by omega
  rw [if_pos ⟨hset, hrefs⟩] at hstate
  exact ⟨hrefs, by omega⟩

/-- The caller goes on with what it has. -/
theorem move (h : σ.Counted) {pc : ProbePc} (hnot : pc ≠ .lookingUp)
    (hearly : pc = .connecting ∨ pc = .sharing → σ.callbackSet = false)
    (hconnection : pc.holdsConnection = σ.pc.holdsConnection)
    (hstate : pc.holdsState = σ.pc.holdsState) : Counted { σ with pc := pc } where
  connection := by rw [hconnection]; exact h.connection
  state := by rw [hstate]; exact h.state
  unset hset := by rw [hstate]; exact h.unset hset
  early hpc := hearly (hpc.resolve_left hnot)
  fresh hpc := absurd hpc hnot

/-- The caller leaves, with its shares. -/
theorem leave (h : σ.Counted) (hholds : σ.pc.holdsConnection = true)
    (type : Except String String) : (σ.leave type).Counted := by
  have hconnection := h.connection
  rw [hholds, Bool.toNat_true] at hconnection
  have hpos : 0 < σ.connectionRefs := by omega
  have hstate := releaseConnection_stateRefs hpos h.state
  refine ⟨?_, ?_, ?_, ?_, ?_⟩
  · show σ.connectionRefs - 1 = 0 + σ.managed.toNat + σ.callbacks.countP _
    omega
  · show σ.releaseConnection.stateRefs - (if σ.pc.holdsState then 1 else 0) = 0 + _
    rw [hstate]
    show _ = 0 + if σ.callbackSet = true ∧ 0 < σ.connectionRefs - 1 then 1 else 0
    cases σ.pc.holdsState with
    | false =>
        simp only [Bool.toNat_false, Bool.false_eq_true, if_false]
        omega
    | true =>
        simp only [Bool.toNat_true, if_true]
        omega
  · intro hset
    exact ⟨(h.unset hset).1, rfl⟩
  · intro hpc
    rcases hpc with hpc | hpc | hpc <;> cases hpc
  · intro hpc
    cases hpc

/-- An invocation goes on. -/
theorem setCallback (h : σ.Counted) {position : Nat} {before : HeaderCallback}
    (hcallback : σ.callbacks[position]? = some before) (after : HeaderCallback)
    (hactive : before.isActive = after.isActive) : (σ.setCallback position after).Counted := by
  have hcount := List.countP_set_add (p := HeaderCallback.isActive) hcallback after
  rw [hactive] at hcount
  refine ⟨?_, h.state, ?_, h.early, h.fresh⟩
  · have hconnection := h.connection
    show σ.connectionRefs = σ.pc.holdsConnection.toNat + σ.managed.toNat +
      (σ.callbacks.set position after).countP _
    omega
  · intro hset
    obtain ⟨hnil, hholds⟩ := h.unset hset
    rw [hnil] at hcallback
    cases hcallback

/-- An invocation returns. -/
theorem dropConnection (h : σ.Counted) {position : Nat} {header : ConnectionHeader}
    (hcallback : σ.callbacks[position]? = some ⟨header, .dropping⟩) :
    (σ.dropConnection position header).Counted := by
  have hcount := List.countP_set_add (p := HeaderCallback.isActive) hcallback
    ⟨header, .returned⟩
  have hbefore : HeaderCallback.isActive ⟨header, .dropping⟩ = true := rfl
  have hafter : HeaderCallback.isActive ⟨header, .returned⟩ = false := rfl
  rw [hbefore, hafter, if_pos rfl, if_neg Bool.false_ne_true] at hcount
  have hconnection := h.connection
  obtain ⟨hpos, -⟩ := h.stateRefs_pos (List.mem_of_getElem? hcallback) rfl
  refine ⟨?_, ?_, ?_, h.early, h.fresh⟩
  · show σ.connectionRefs - 1 = σ.pc.holdsConnection.toNat + σ.managed.toNat +
      (σ.callbacks.set position _).countP _
    omega
  · exact releaseConnection_stateRefs (σ := σ.setCallback position ⟨header, .returned⟩) hpos h.state
  · intro hset
    obtain ⟨hnil, hholds⟩ := h.unset hset
    rw [hnil] at hcallback
    cases hcallback

theorem step {a : ProbeAction} (h : σ.Counted) (hs : σ.Step a σ') : σ'.Counted := by
  have hconnection := h.connection
  have hstate := h.state
  cases hs with
  | found hpc =>
      have hset := h.early (.inl hpc)
      rw [hpc, h.fresh hpc] at hconnection
      rw [hpc, hset] at hstate
      obtain ⟨hnil, -⟩ := h.unset hset
      refine ⟨?_, ?_, fun _ => ⟨hnil, rfl⟩, fun _ => hset, nofun⟩
      · show 2 = 1 + 1 + σ.callbacks.countP _
        rw [hnil]
        rfl
      · show σ.stateRefs = 0 + if σ.callbackSet = true ∧ 0 < 2 then 1 else 0
        rw [hset, hstate]
        rfl
  | notFound hpc =>
      have hset := h.early (.inl hpc)
      rw [hpc] at hconnection hstate
      exact ⟨hconnection, hstate, fun _ => ⟨(h.unset hset).1, rfl⟩, nofun, nofun⟩
  | connected hpc =>
      exact h.move nofun (fun _ => h.early (.inr (.inl hpc))) (by rw [hpc]; rfl) (by rw [hpc]; rfl)
  | notConnected hpc => exact h.leave (by rw [hpc]; rfl) _
  | share hpc =>
      have hset := h.early (.inr (.inr hpc))
      rw [hpc] at hconnection
      have hpos : 0 < σ.connectionRefs := by
        have hone : ProbePc.sharing.holdsConnection.toNat = 1 := rfl
        omega
      refine ⟨hconnection, ?_, nofun, ?_, nofun⟩
      · show 2 = 1 + if true = true ∧ 0 < σ.connectionRefs then 1 else 0
        rw [if_pos ⟨rfl, hpos⟩]
      · intro hpc
        rcases hpc with hpc | hpc | hpc <;> cases hpc
  | writeHeader hpc =>
      exact h.move nofun (fun hearly => by rcases hearly with h | h <;> cases h)
        (by rw [hpc]; rfl) (by rw [hpc]; rfl)
  | ready hpc _ => exact h.leave (by rw [hpc]; rfl) _
  | timeOut hpc _ =>
      exact h.move nofun (fun hearly => by rcases hearly with h | h <;> cases h)
        (by rw [hpc]; rfl) (by rw [hpc]; rfl)
  | dropAndThrow hpc =>
      have hleft := h.leave (by rw [hpc]; rfl) (.error timedOut)
      exact ⟨hleft.connection, hleft.state, hleft.unset, hleft.early, hleft.fresh⟩
  | @receiveHeader header hset hpos =>
      refine ⟨?_, ?_, ?_, h.early, h.fresh⟩
      · show σ.connectionRefs + 1 = σ.pc.holdsConnection.toNat + σ.managed.toNat +
          (σ.callbacks ++ [HeaderCallback.mk header .exchanging]).countP _
        rw [List.countP_append]
        have hone : [HeaderCallback.mk header .exchanging].countP HeaderCallback.isActive = 1 := rfl
        omega
      · show σ.stateRefs = _ + if σ.callbackSet = true ∧ 0 < σ.connectionRefs + 1 then 1 else 0
        rw [hstate, if_pos ⟨hset, hpos⟩, if_pos ⟨hset, Nat.succ_pos _⟩]
      · intro hunset
        rw [hset] at hunset
        cases hunset
  | @won position header hcallback _ =>
      have hmoved := h.setCallback hcallback ⟨header, .setting⟩ rfl
      exact ⟨hmoved.connection, hmoved.state, hmoved.unset, hmoved.early, hmoved.fresh⟩
  | @lost position header hcallback _ =>
      have hmoved := h.setCallback hcallback ⟨header, .dropping⟩ rfl
      exact ⟨hmoved.connection, hmoved.state, hmoved.unset, hmoved.early, hmoved.fresh⟩
  | @setPromise position header hcallback =>
      have hmoved := h.setCallback hcallback ⟨header, .dropping⟩ rfl
      exact ⟨hmoved.connection, hmoved.state, hmoved.unset, hmoved.early, hmoved.fresh⟩
  | dropConnection hcallback => exact h.dropConnection hcallback
  | disconnect => exact ⟨hconnection, hstate, h.unset, h.early, h.fresh⟩
  | releaseDropped hmanaged _ =>
      rw [hmanaged, Bool.toNat_true] at hconnection
      refine ⟨?_, releaseConnection_stateRefs (by omega) hstate, h.unset, h.early, fun _ => rfl⟩
      show σ.connectionRefs - 1 = σ.pc.holdsConnection.toNat + 0 + σ.callbacks.countP _
      omega

theorem of_reachable (h : probeSystem.Reachable σ) : σ.Counted := by
  refine TSys.Run.invariant h ⟨?_, fun _ _ _ hcounted _ hs => hcounted.step (step_rule hs)⟩
  rintro _ ⟨serviceName, rfl⟩
  exact ⟨rfl, rfl, fun _ => ⟨rfl, rfl⟩, fun _ => rfl, fun _ => rfl⟩

end Counted

end ProbeState

/-! ## The promise -/

def HeaderCallback.isSetting (c : HeaderCallback) : Bool := c.phase == .setting

namespace ProbeState

/-- The invocation that found the flag down sets the promise, and no other. The caller returns
what the promise has, or an error of its own. -/
structure Fulfilled (σ : ProbeState) : Prop where
  sets : σ.promiseSets + σ.callbacks.countP HeaderCallback.isSetting = σ.fulfilled.toNat
  promise : σ.promiseSets = 0 → σ.promise = none
  winner : σ.winner.isSome = σ.fulfilled
  setting : ∀ c ∈ σ.callbacks, c.phase = .setting → σ.winner = some c.header
  header : ∀ type, σ.promise = some type → ∃ header, σ.winner = some header ∧
    type = headerType header
  received : ∀ header, σ.winner = some header → ∃ c ∈ σ.callbacks, c.header = header
  returned : ∀ type, σ.pc = .returned type → σ.promise = some type ∨
    type = .error ("Failed to lookup service " ++ σ.serviceName) ∨
    type = .error ("Failed to connect to service server of service " ++ σ.serviceName) ∨
    type = .error timedOut
  alive : σ.dangling = false

/-- The probe ended before it had a callback: there was no service, or no server to connect to. -/
def Unconnected (σ : ProbeState) (type : Except String String) : Prop :=
  σ.callbackSet = false ∧
    (type = .error ("Failed to lookup service " ++ σ.serviceName) ∨
      type = .error ("Failed to connect to service server of service " ++ σ.serviceName))

/-- A connection that is no longer used has been dropped, if a server was connected to. -/
structure Dropped (σ : ProbeState) : Prop where
  callback : ∀ c ∈ σ.callbacks, c.phase = .returned → σ.dropped = true
  promise : ∀ type, σ.promise = some type →
    σ.dropped = true ∨ ∃ c ∈ σ.callbacks, c.phase = .dropping
  returned : ∀ type, σ.pc = .returned type →
    σ.Unconnected type ∨ σ.promise = some type ∨ σ.dropped = true

variable {σ σ' : ProbeState}

namespace Fulfilled

/-- The caller, or roscpp, does something that leaves the shared state alone. -/
theorem move (h : σ.Fulfilled) {pc : ProbePc} (connectionRefs stateRefs : Nat)
    (managed dropped callbackSet : Bool)
    (hreturned : ∀ type, pc = .returned type → σ.promise = some type ∨
      type = .error ("Failed to lookup service " ++ σ.serviceName) ∨
      type = .error ("Failed to connect to service server of service " ++ σ.serviceName) ∨
      type = .error timedOut) :
    Fulfilled { σ with
      pc := pc
      connectionRefs := connectionRefs
      stateRefs := stateRefs
      managed := managed
      dropped := dropped
      callbackSet := callbackSet } :=
  ⟨h.sets, h.promise, h.winner, h.setting, h.header, h.received, hreturned, h.alive⟩

/-- An invocation that is replaced by one with the same header is received as before. -/
theorem received_set (h : σ.Fulfilled) {position : Nat} {header : ConnectionHeader}
    {before after : HeaderCallbackPhase}
    (hcallback : σ.callbacks[position]? = some ⟨header, before⟩) {winner : ConnectionHeader}
    (hwinner : winner = header ∨ σ.winner = some winner) :
    ∃ c ∈ σ.callbacks.set position ⟨header, after⟩, c.header = winner := by
  obtain ⟨hlt, hget⟩ := List.getElem?_eq_some_iff.mp hcallback
  have hnew : HeaderCallback.mk header after ∈ σ.callbacks.set position ⟨header, after⟩ :=
    List.mem_set hlt _
  rcases hwinner with rfl | hwinner
  · exact ⟨_, hnew, rfl⟩
  · obtain ⟨c, hc, rfl⟩ := h.received winner hwinner
    rcases List.eq_or_mem_set hcallback hc ⟨header, after⟩ with rfl | hstill
    · exact ⟨_, hnew, rfl⟩
    · exact ⟨c, hstill, rfl⟩

/-- While an invocation is about to set the promise, it is not set. -/
theorem unset (h : σ.Fulfilled) {position : Nat} {header : ConnectionHeader}
    (hcallback : σ.callbacks[position]? = some ⟨header, .setting⟩) : σ.promise = none := by
  have hpos : 0 < σ.callbacks.countP HeaderCallback.isSetting :=
    List.countP_pos_iff.mpr ⟨_, List.mem_of_getElem? hcallback, rfl⟩
  have hsets := h.sets
  have hle := Bool.toNat_le σ.fulfilled
  exact h.promise (by omega)

/-- The flag goes up. -/
theorem won (h : σ.Fulfilled) (hcounted : σ.Counted) {position : Nat} {header : ConnectionHeader}
    (hcallback : σ.callbacks[position]? = some ⟨header, .exchanging⟩)
    (hdown : σ.fulfilled = false) :
    Fulfilled { σ.touch.setCallback position ⟨header, .setting⟩ with
      fulfilled := true
      winner := some header } := by
  have hcount := List.countP_set_add (p := HeaderCallback.isSetting) hcallback ⟨header, .setting⟩
  have hbefore : HeaderCallback.isSetting ⟨header, .exchanging⟩ = false := rfl
  have hafter : HeaderCallback.isSetting ⟨header, .setting⟩ = true := rfl
  rw [hbefore, hafter, if_pos rfl, if_neg Bool.false_ne_true] at hcount
  have hsets := h.sets
  rw [hdown, Bool.toNat_false] at hsets
  have hnone : σ.promise = none := h.promise (by omega)
  obtain ⟨-, hstate⟩ := hcounted.stateRefs_pos (List.mem_of_getElem? hcallback) rfl
  refine ⟨?_, h.promise, rfl, ?_, ?_, ?_, h.returned, ?_⟩
  · show σ.promiseSets + (σ.callbacks.set position _).countP _ = 1
    omega
  · intro c hc hsetting
    rcases List.mem_or_eq_of_mem_set hc with hold | rfl
    · -- no other invocation is setting the promise
      have hpos : 0 < σ.callbacks.countP HeaderCallback.isSetting :=
        List.countP_pos_iff.mpr ⟨c, hold, by rw [HeaderCallback.isSetting, hsetting]; rfl⟩
      omega
    · rfl
  · intro type htype
    have htype : σ.promise = some type := htype
    rw [hnone] at htype
    cases htype
  · intro winner hwinner
    exact h.received_set hcallback (.inl (Option.some.inj hwinner).symm)
  · show (σ.dangling || σ.stateRefs == 0) = false
    rw [h.alive, Bool.false_or, beq_eq_false_iff_ne]
    omega

/-- The flag was up already. -/
theorem lost (h : σ.Fulfilled) (hcounted : σ.Counted) {position : Nat} {header : ConnectionHeader}
    (hcallback : σ.callbacks[position]? = some ⟨header, .exchanging⟩) :
    (σ.touch.setCallback position ⟨header, .dropping⟩).Fulfilled := by
  have hcount := List.countP_set_add (p := HeaderCallback.isSetting) hcallback ⟨header, .dropping⟩
  have hbefore : HeaderCallback.isSetting ⟨header, .exchanging⟩ = false := rfl
  have hafter : HeaderCallback.isSetting ⟨header, .dropping⟩ = false := rfl
  rw [hbefore, hafter] at hcount
  have hsets := h.sets
  obtain ⟨-, hstate⟩ := hcounted.stateRefs_pos (List.mem_of_getElem? hcallback) rfl
  refine ⟨?_, h.promise, h.winner, ?_, h.header, ?_, h.returned, ?_⟩
  · show σ.promiseSets + (σ.callbacks.set position _).countP _ = σ.fulfilled.toNat
    omega
  · intro c hc hsetting
    rcases List.mem_or_eq_of_mem_set hc with hold | rfl
    · exact h.setting c hold hsetting
    · cases hsetting
  · intro winner hwinner
    exact h.received_set hcallback (.inr hwinner)
  · show (σ.dangling || σ.stateRefs == 0) = false
    rw [h.alive, Bool.false_or, beq_eq_false_iff_ne]
    omega

/-- The promise is set. -/
theorem setPromise (h : σ.Fulfilled) (hcounted : σ.Counted) {position : Nat}
    {header : ConnectionHeader}
    (hcallback : σ.callbacks[position]? = some ⟨header, .setting⟩) :
    (σ.setPromise position header).Fulfilled := by
  have hcount := List.countP_set_add (p := HeaderCallback.isSetting) hcallback ⟨header, .dropping⟩
  have hbefore : HeaderCallback.isSetting ⟨header, .setting⟩ = true := rfl
  have hafter : HeaderCallback.isSetting ⟨header, .dropping⟩ = false := rfl
  rw [hbefore, hafter, if_pos rfl, if_neg Bool.false_ne_true] at hcount
  have hsets := h.sets
  have hwinner : σ.winner = some header := h.setting _ (List.mem_of_getElem? hcallback) rfl
  have hnone := h.unset hcallback
  obtain ⟨-, hstate⟩ := hcounted.stateRefs_pos (List.mem_of_getElem? hcallback) rfl
  refine ⟨?_, nofun, h.winner, ?_, ?_, ?_, ?_, ?_⟩
  · show σ.promiseSets + 1 + (σ.callbacks.set position _).countP _ = σ.fulfilled.toNat
    omega
  · intro c hc hsetting
    rcases List.mem_or_eq_of_mem_set hc with hold | rfl
    · exact h.setting c hold hsetting
    · cases hsetting
  · intro type htype
    exact ⟨header, hwinner, (Option.some.inj htype).symm⟩
  · intro winner hwinner
    exact h.received_set hcallback (.inr hwinner)
  · intro type htype
    refine .inr ((h.returned type htype).resolve_left fun hset => ?_)
    rw [hnone] at hset
    cases hset
  · show (σ.dangling || σ.stateRefs == 0) = false
    rw [h.alive, Bool.false_or, beq_eq_false_iff_ne]
    omega

/-- An invocation returns. -/
theorem dropConnection (h : σ.Fulfilled) {position : Nat} {header : ConnectionHeader}
    (hcallback : σ.callbacks[position]? = some ⟨header, .dropping⟩) :
    (σ.dropConnection position header).Fulfilled := by
  have hcount := List.countP_set_add (p := HeaderCallback.isSetting) hcallback ⟨header, .returned⟩
  have hbefore : HeaderCallback.isSetting ⟨header, .dropping⟩ = false := rfl
  have hafter : HeaderCallback.isSetting ⟨header, .returned⟩ = false := rfl
  rw [hbefore, hafter] at hcount
  have hsets := h.sets
  refine ⟨?_, h.promise, h.winner, ?_, h.header, ?_, h.returned, h.alive⟩
  · show σ.promiseSets + (σ.callbacks.set position _).countP _ = σ.fulfilled.toNat
    omega
  · intro c hc hsetting
    rcases List.mem_or_eq_of_mem_set hc with hold | rfl
    · exact h.setting c hold hsetting
    · cases hsetting
  · intro winner hwinner
    exact h.received_set hcallback (.inr hwinner)

/-- Another invocation begins. -/
theorem receiveHeader (h : σ.Fulfilled) (header : ConnectionHeader) :
    Fulfilled { σ with
      connectionRefs := σ.connectionRefs + 1
      callbacks := σ.callbacks ++ [⟨header, .exchanging⟩] } := by
  refine ⟨?_, h.promise, h.winner, ?_, h.header, ?_, h.returned, h.alive⟩
  · show σ.promiseSets + (σ.callbacks ++ [HeaderCallback.mk header .exchanging]).countP _ = _
    rw [List.countP_append]
    exact h.sets
  · intro c hc hsetting
    rcases List.mem_append.mp hc with hold | hlast
    · exact h.setting c hold hsetting
    · obtain rfl := List.mem_singleton.mp hlast
      cases hsetting
  · intro winner hwinner
    obtain ⟨c, hc, hheader⟩ := h.received winner hwinner
    exact ⟨c, List.mem_append_left _ hc, hheader⟩

theorem step {a : ProbeAction} (h : σ.Fulfilled) (hcounted : σ.Counted) (hs : σ.Step a σ') :
    σ'.Fulfilled := by
  cases hs with
  | found | connected | share | writeHeader | timeOut => exact h.move _ _ _ _ _ nofun
  | notFound =>
      refine h.move _ _ _ _ _ ?_
      intro type htype
      cases htype
      exact .inr (.inl rfl)
  | notConnected =>
      refine h.move _ _ _ _ _ ?_
      intro type htype
      cases htype
      exact .inr (.inr (.inl rfl))
  | ready _ hpromise =>
      refine h.move _ _ _ _ _ ?_
      intro type htype
      cases htype
      exact .inl hpromise
  | dropAndThrow =>
      refine h.move _ _ _ _ _ ?_
      intro type htype
      cases htype
      exact .inr (.inr (.inr rfl))
  | receiveHeader => exact h.receiveHeader _
  | won hcallback hdown => exact h.won hcounted hcallback hdown
  | lost hcallback _ => exact h.lost hcounted hcallback
  | setPromise hcallback => exact h.setPromise hcounted hcallback
  | dropConnection hcallback => exact h.dropConnection hcallback
  | disconnect | releaseDropped => exact h.move _ _ _ _ _ h.returned

theorem of_reachable (h : probeSystem.Reachable σ) : σ.Fulfilled := by
  refine TSys.Run.invariant_of h (fun _ => Counted.of_reachable) ?_
    fun _ _ _ hfulfilled hcounted _ hs => hfulfilled.step hcounted (step_rule hs)
  rintro _ ⟨serviceName, rfl⟩
  exact ⟨rfl, fun _ => rfl, rfl, nofun, nofun, nofun, nofun, rfl⟩

end Fulfilled

namespace Dropped

/-- An invocation goes on, or returns when the connection has been dropped. -/
theorem setCallback (h : σ.Dropped) {position : Nat} {before : HeaderCallback}
    (hcallback : σ.callbacks[position]? = some before) (after : HeaderCallback)
    (hreturned : after.phase = .returned → σ.dropped = true)
    (hdropping : before.phase = .dropping → after.phase = .dropping ∨ σ.dropped = true) :
    (σ.setCallback position after).Dropped := by
  refine ⟨?_, ?_, h.returned⟩
  · intro c hc hphase
    rcases List.mem_or_eq_of_mem_set hc with hold | rfl
    · exact h.callback c hold hphase
    · exact hreturned hphase
  · intro type htype
    obtain ⟨hlt, -⟩ := List.getElem?_eq_some_iff.mp hcallback
    rcases h.promise type htype with hdropped | ⟨c, hc, hphase⟩
    · exact .inl hdropped
    · rcases List.eq_or_mem_set hcallback hc after with rfl | hstill
      · rcases hdropping hphase with hafter | hdropped
        · exact .inr ⟨after, List.mem_set hlt _, hafter⟩
        · exact .inl hdropped
      · exact .inr ⟨c, hstill, hphase⟩

/-- Where the connection has been dropped, there is nothing left to say. -/
theorem of_dropped (h : σ.dropped = true) : σ.Dropped :=
  ⟨fun _ _ _ => h, fun _ _ => .inl h, fun _ _ => .inr (.inr h)⟩

theorem step {a : ProbeAction} (h : σ.Dropped) (hcounted : σ.Counted)
    (hfulfilled : σ.Fulfilled) (hs : σ.Step a σ') : σ'.Dropped := by
  cases hs with
  | found | connected | share | writeHeader | timeOut => exact ⟨h.callback, h.promise, nofun⟩
  | notFound hpc =>
      refine ⟨h.callback, h.promise, ?_⟩
      intro type htype
      obtain rfl := ProbePc.returned.inj htype
      exact .inl ⟨hcounted.early (.inl hpc), .inl rfl⟩
  | notConnected hpc =>
      refine ⟨h.callback, h.promise, ?_⟩
      intro type htype
      obtain rfl := ProbePc.returned.inj htype
      exact .inl ⟨hcounted.early (.inr (.inl hpc)), .inr rfl⟩
  | ready _ hpromise =>
      refine ⟨h.callback, h.promise, ?_⟩
      intro type htype
      obtain rfl := ProbePc.returned.inj htype
      exact .inr (.inl hpromise)
  | dropAndThrow => exact .of_dropped rfl
  | receiveHeader =>
      refine ⟨?_, ?_, h.returned⟩
      · intro c hc hphase
        rcases List.mem_append.mp hc with hold | hlast
        · exact h.callback c hold hphase
        · obtain rfl := List.mem_singleton.mp hlast
          cases hphase
      · intro type htype
        refine (h.promise type htype).imp_right ?_
        rintro ⟨c, hc, hphase⟩
        exact ⟨c, List.mem_append_left _ hc, hphase⟩
  | @won position header hcallback _ =>
      have hmoved := h.setCallback hcallback ⟨header, .setting⟩ nofun nofun
      exact ⟨hmoved.callback, hmoved.promise, hmoved.returned⟩
  | @lost position header hcallback _ =>
      have hmoved := h.setCallback hcallback ⟨header, .dropping⟩ nofun nofun
      exact ⟨hmoved.callback, hmoved.promise, hmoved.returned⟩
  | @setPromise position header hcallback =>
      have hmoved := h.setCallback hcallback ⟨header, .dropping⟩ nofun nofun
      obtain ⟨hlt, -⟩ := List.getElem?_eq_some_iff.mp hcallback
      refine ⟨hmoved.callback, fun _ _ => .inr ⟨_, List.mem_set hlt _, rfl⟩, ?_⟩
      -- a caller that returned before did not wait for this promise
      intro type htype
      rcases h.returned type htype with hunconnected | hpromise | hdropped
      · exact .inl hunconnected
      · rw [hfulfilled.unset hcallback] at hpromise
        cases hpromise
      · exact .inr (.inr hdropped)
  | dropConnection => exact .of_dropped rfl
  | disconnect => exact .of_dropped rfl
  | releaseDropped _ hdropped => exact .of_dropped hdropped

theorem of_reachable (h : probeSystem.Reachable σ) : σ.Dropped := by
  have hboth : ∀ τ, probeSystem.Run (fun _ _ => True) τ → τ.Counted ∧ τ.Fulfilled :=
    fun _ hτ => ⟨.of_reachable hτ, .of_reachable hτ⟩
  refine TSys.Run.invariant_of h hboth ?_
    fun _ _ _ hdropped hboth _ hs => hdropped.step hboth.1 hboth.2 (step_rule hs)
  rintro _ ⟨serviceName, rfl⟩
  exact ⟨nofun, nofun, nofun⟩

end Dropped

end ProbeState

open ProbeState

/-- **What the probe retrieves.** However often roscpp runs the callback, and whenever the
caller gives up: the promise is set at most once, by the invocation that was the first to find
the flag down; the caller returns a type only if the header of that one has it, and otherwise one
of the four errors, of which the missing key is that of this header. -/
theorem probe_retrieves {σ : ProbeState} (h : probeSystem.Reachable σ) :
    σ.promiseSets ≤ 1 ∧
      (∀ type, σ.promise = some type → ∃ c ∈ σ.callbacks, σ.winner = some c.header ∧
        type = headerType c.header) ∧
      (∀ serviceType, σ.pc = .returned (.ok serviceType) → ∃ c ∈ σ.callbacks,
        σ.winner = some c.header ∧ c.header.lookup "type" = some serviceType) ∧
      ∀ message, σ.pc = .returned (.error message) →
        message = "Failed to lookup service " ++ σ.serviceName ∨
        message = "Failed to connect to service server of service " ++ σ.serviceName ∨
        message = timedOut ∨
        (message = "Key 'type' not found in service connection header" ∧
          ∃ c ∈ σ.callbacks, σ.winner = some c.header ∧ c.header.lookup "type" = none) := by
  have hfulfilled := Fulfilled.of_reachable h
  have hread : ∀ type, σ.promise = some type → ∃ c ∈ σ.callbacks, σ.winner = some c.header ∧
      type = headerType c.header := by
    intro type htype
    obtain ⟨header, hwinner, heq⟩ := hfulfilled.header type htype
    obtain ⟨c, hc, rfl⟩ := hfulfilled.received header hwinner
    exact ⟨c, hc, hwinner, heq⟩
  refine ⟨?_, hread, ?_, ?_⟩
  · have hsets := hfulfilled.sets
    have hle := Bool.toNat_le σ.fulfilled
    omega
  · intro serviceType hpc
    rcases hfulfilled.returned _ hpc with hpromise | hfailed | hfailed | hfailed
    · obtain ⟨c, hc, hwinner, heq⟩ := hread _ hpromise
      refine ⟨c, hc, hwinner, ?_⟩
      unfold headerType at heq
      split at heq
      · rename_i found hfound
        rw [hfound, Except.ok.inj heq]
      · cases heq
    · cases hfailed
    · cases hfailed
    · cases hfailed
  · intro message hpc
    rcases hfulfilled.returned _ hpc with hpromise | hfailed | hfailed | hfailed
    · obtain ⟨c, hc, hwinner, heq⟩ := hread _ hpromise
      unfold headerType at heq
      split at heq
      · cases heq
      · rename_i hmissing
        exact .inr (.inr (.inr ⟨Except.error.inj heq, c, hc, hwinner, hmissing⟩))
    · exact .inl (Except.error.inj hfailed)
    · exact .inr (.inl (Except.error.inj hfailed))
    · exact .inr (.inr (.inl (Except.error.inj hfailed)))

/-- **What the probe leaves behind.** In no run is the shared state touched after its end. When
the caller has returned and no invocation runs, the probe's connection has been dropped, or the
caller returned because the service was not found or its server could not be connected to; and
when the connection manager has let the connection go, neither object has an owner. -/
theorem probe_released {σ : ProbeState} (h : probeSystem.Reachable σ) :
    σ.dangling = false ∧
      ∀ type, σ.pc = .returned type → (∀ c ∈ σ.callbacks, c.phase = .returned) →
        (σ.dropped = true ∨ σ.Unconnected type) ∧
        (σ.managed = false → σ.connectionRefs = 0 ∧ σ.stateRefs = 0) := by
  have hcounted := Counted.of_reachable h
  have hdropped := Dropped.of_reachable h
  refine ⟨(Fulfilled.of_reachable h).alive, ?_⟩
  intro type hpc hdone
  constructor
  · rcases hdropped.returned type hpc with hunconnected | hpromise | hdrop
    · exact .inr hunconnected
    · refine .inl ((hdropped.promise type hpromise).resolve_right ?_)
      rintro ⟨c, hc, hphase⟩
      rw [hdone c hc] at hphase
      cases hphase
    · exact .inl hdrop
  · intro hmanaged
    have hnone : σ.callbacks.countP HeaderCallback.isActive = 0 := by
      rw [List.countP_eq_zero]
      intro c hc
      rw [HeaderCallback.isActive, hdone c hc]
      decide
    have hconnection := hcounted.connection
    have hstate := hcounted.state
    rw [hpc, hmanaged, hnone] at hconnection
    have hzero : σ.connectionRefs = 0 := hconnection
    rw [hpc, hzero, if_neg fun hpos => absurd hpos.2 (Nat.lt_irrefl 0)] at hstate
    exact ⟨hzero, hstate⟩

/-- The caller gives up just when the header arrives; the callback runs twice. -/
def lateHeader : List ProbeAction :=
  [.lookupService true, .connect true, .setHeaderReceivedCallback, .writeHeader,
    .receiveHeader [("type", "std_srvs/Empty")], .exchange 0, .timeOut, .dropAndThrow,
    .receiveHeader [("type", "std_srvs/Empty")], .setPromise 0, .dropConnection 0, .exchange 1,
    .releaseDropped, .dropConnection 1]

theorem probe_retrieves_late : ∃ σ, probeSystem.exec (.initial "/reset") lateHeader = some σ ∧
    σ.promise = some (.ok "std_srvs/Empty") ∧ σ.pc = .returned (.error timedOut) ∧
    σ.promiseSets ≤ 1 := by
  refine ⟨_, rfl, rfl, rfl, ?_⟩
  have hreach : probeSystem.Reachable _ :=
    TSys.Reachable.exec (.init ⟨"/reset", rfl⟩)
      (show probeSystem.exec (.initial "/reset") lateHeader = some _ from rfl)
  exact (probe_retrieves hreach).1

theorem probe_released_late : ∃ σ, probeSystem.exec (.initial "/reset") lateHeader = some σ ∧
    σ.dropped = true ∧ σ.connectionRefs = 0 ∧ σ.stateRefs = 0 := by
  have hreach : probeSystem.Reachable _ :=
    TSys.Reachable.exec (.init ⟨"/reset", rfl⟩)
      (show probeSystem.exec (.initial "/reset") lateHeader = some _ from rfl)
  obtain ⟨hdropped, hreleased⟩ := (probe_released hreach).2 _ rfl (by decide)
  refine ⟨_, rfl, hdropped.resolve_right ?_, hreleased rfl⟩
  rintro ⟨hunset, -⟩
  cases hunset

end FoxgloveBridge
