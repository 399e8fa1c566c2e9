import FoxgloveBridge.Lib.TSys

/-!
# Teardowns

A program that ends while other threads still run its code. Its statements either join a
source of activities (a thread, a pool, a server that calls back) or end the life of an
object; meanwhile activities start, touch their objects in any order and finish. A join
returns when no activity of its source runs, and from then on none starts.

No activity touches an object after its end exactly if the program is `Ordered`: each object
ends after the joins of all sources with an activity that touches it (`safe_iff_ordered`). The
condition is read off the program, with no run of it.
-/

namespace Teardown

inductive Statement (Source Object : Type*)
  /-- Waits for the running activities of the source; no other starts any more. -/
  | join (source : Source)
  /-- Ends the life of the object. -/
  | retire (object : Object)
  deriving DecidableEq, Repr

/-- The statements of a teardown, with the activities that may run beside it. -/
structure Program (Source Activity Object : Type*) where
  activities : List Activity
  source : Activity → Source
  touches : Activity → List Object
  statements : List (Statement Source Object)

structure State (Source Activity Object : Type*) where
  rest : List (Statement Source Object)
  joined : List Source
  retired : List Object
  /-- One entry for each activity that runs. -/
  running : List Activity
  /-- An activity touched an object after its end. -/
  dangling : Bool

inductive Action (Activity Object : Type*)
  /-- The next statement of the program. -/
  | next
  | start (a : Activity)
  | touch (a : Activity) (object : Object)
  | finish (a : Activity)

namespace Program

variable {Source Activity Object : Type*} [DecidableEq Source] [DecidableEq Activity]
  [DecidableEq Object] (P : Program Source Activity Object)

def initial : State Source Activity Object where
  rest := P.statements
  joined := []
  retired := []
  running := []
  dangling := false

def step (σ : State Source Activity Object) :
    Action Activity Object → Option (State Source Activity Object)
  | .next =>
      match σ.rest with
      | [] => none
      | .join s :: rest =>
          if ∀ a ∈ σ.running, P.source a ≠ s then
            some { σ with rest := rest, joined := s :: σ.joined }
          else none
      | .retire object :: rest => some { σ with rest := rest, retired := object :: σ.retired }
  | .start a =>
      if a ∈ P.activities ∧ P.source a ∉ σ.joined then
        some { σ with running := a :: σ.running }
      else none
  | .touch a object =>
      if a ∈ σ.running ∧ object ∈ P.touches a then
        some { σ with dangling := σ.dangling || decide (object ∈ σ.retired) }
      else none
  | .finish a =>
      if a ∈ σ.running then some { σ with running := σ.running.erase a } else none

def system : TSys (State Source Activity Object) (Action Activity Object) where
  init σ := σ = P.initial
  step := P.step

/-- All sources with an activity that touches the object are joined. -/
def Quiet (joined : List Source) (object : Object) : Prop :=
  ∀ a ∈ P.activities, object ∈ P.touches a → P.source a ∈ joined

instance (joined : List Source) (object : Object) : Decidable (P.Quiet joined object) :=
  inferInstanceAs (Decidable (∀ a ∈ P.activities, object ∈ P.touches a → P.source a ∈ joined))

/-- Each object that the statements retire is quiet by then. -/
def OrderedFrom (joined : List Source) : List (Statement Source Object) → Prop
  | [] => True
  | .join s :: rest => OrderedFrom (s :: joined) rest
  | .retire object :: rest => P.Quiet joined object ∧ OrderedFrom joined rest

instance OrderedFrom.decidable :
    (statements : List (Statement Source Object)) → (joined : List Source) →
      Decidable (P.OrderedFrom joined statements)
  | [], _ => .isTrue trivial
  | .join s :: rest, joined => OrderedFrom.decidable rest (s :: joined)
  | .retire object :: rest, joined =>
      have := OrderedFrom.decidable rest joined
      inferInstanceAs (Decidable (P.Quiet joined object ∧ P.OrderedFrom joined rest))

def Ordered : Prop := P.OrderedFrom [] P.statements

instance : Decidable P.Ordered := inferInstanceAs (Decidable (P.OrderedFrom [] P.statements))

variable {P}

omit [DecidableEq Source] [DecidableEq Activity] [DecidableEq Object] in
theorem Quiet.join {joined : List Source} {object : Object} (h : P.Quiet joined object)
    (s : Source) : P.Quiet (s :: joined) object := by
  intro a ha htouches
  exact List.mem_cons_of_mem s (h a ha htouches)

/-! ## Statements in sequence -/

/-- What is joined after the statements. -/
def joinedBy (joined : List Source) : List (Statement Source Object) → List Source
  | [] => joined
  | .join s :: rest => joinedBy (s :: joined) rest
  | .retire _ :: rest => joinedBy joined rest

omit [DecidableEq Source] [DecidableEq Activity] [DecidableEq Object] in
theorem orderedFrom_append {joined : List Source} {first second : List (Statement Source Object)} :
    P.OrderedFrom joined (first ++ second) ↔
      P.OrderedFrom joined first ∧ P.OrderedFrom (joinedBy joined first) second := by
  induction first generalizing joined with
  | nil => exact (iff_of_eq (true_and _)).symm
  | cons statement rest ih =>
      cases statement with
      | join s => exact ih
      | retire object => exact (and_congr_right fun _ => ih).trans and_assoc.symm

omit [DecidableEq Source] [DecidableEq Activity] [DecidableEq Object] in
/-- Once every object is quiet, the rest may come in any order. -/
theorem orderedFrom_of_quiet {joined : List Source} (h : ∀ object, P.Quiet joined object)
    (statements : List (Statement Source Object)) : P.OrderedFrom joined statements := by
  induction statements generalizing joined with
  | nil => trivial
  | cons statement rest ih =>
      cases statement with
      | join s => exact ih fun object => (h object).join s
      | retire object => exact ⟨h object, ih h⟩

/-! ## Ordered programs are safe -/

/-- What holds while an ordered program is executed. -/
structure Sound (P : Program Source Activity Object) (σ : State Source Activity Object) : Prop where
  listed : ∀ a ∈ σ.running, a ∈ P.activities
  live : ∀ a ∈ σ.running, P.source a ∉ σ.joined
  quiet : ∀ object ∈ σ.retired, P.Quiet σ.joined object
  ordered : P.OrderedFrom σ.joined σ.rest
  safe : σ.dangling = false

theorem Sound.step {σ σ' : State Source Activity Object} {a : Action Activity Object}
    (h : P.Sound σ) (hs : P.step σ a = some σ') : P.Sound σ' := by
  cases a with
  | next =>
      have hordered := h.ordered
      simp only [Program.step] at hs
      split at hs
      case h_1 => cases hs
      case h_2 s rest hrest =>
        rw [hrest] at hordered
        obtain ⟨hidle, hσ'⟩ := Option.ite_none_right_eq_some.mp hs
        obtain rfl := Option.some.inj hσ'
        refine ⟨h.listed, ?_, fun object ho => (h.quiet object ho).join s, hordered, h.safe⟩
        intro b hb hmem
        rcases List.mem_cons.mp hmem with heq | hmem
        · exact hidle b hb heq
        · exact h.live b hb hmem
      case h_3 object rest hrest =>
        rw [hrest] at hordered
        obtain rfl := Option.some.inj hs
        refine ⟨h.listed, h.live, ?_, hordered.2, h.safe⟩
        intro other ho
        rcases List.mem_cons.mp ho with rfl | ho
        · exact hordered.1
        · exact h.quiet other ho
  | start b =>
      obtain ⟨⟨hlisted, hlive⟩, hσ'⟩ := Option.ite_none_right_eq_some.mp hs
      obtain rfl := Option.some.inj hσ'
      exact ⟨List.forall_mem_cons.mpr ⟨hlisted, h.listed⟩,
        List.forall_mem_cons.mpr ⟨hlive, h.live⟩, h.quiet, h.ordered, h.safe⟩
  | touch b object =>
      obtain ⟨⟨hb, htouches⟩, hσ'⟩ := Option.ite_none_right_eq_some.mp hs
      obtain rfl := Option.some.inj hσ'
      -- a retired object is quiet, but the activity still runs
      have halive : object ∉ σ.retired := fun hretired =>
        h.live b hb (h.quiet object hretired b (h.listed b hb) htouches)
      refine ⟨h.listed, h.live, h.quiet, h.ordered, ?_⟩
      show (σ.dangling || decide (object ∈ σ.retired)) = false
      rw [h.safe, decide_eq_false halive]
      rfl
  | finish b =>
      obtain ⟨-, hσ'⟩ := Option.ite_none_right_eq_some.mp hs
      obtain rfl := Option.some.inj hσ'
      exact ⟨fun c hc => h.listed c (List.mem_of_mem_erase hc),
        fun c hc => h.live c (List.mem_of_mem_erase hc), h.quiet, h.ordered, h.safe⟩

theorem Ordered.sound (h : P.Ordered) {σ : State Source Activity Object}
    (hσ : P.system.Reachable σ) : P.Sound σ := by
  refine TSys.Run.invariant hσ ⟨?_, fun σ a σ' hsound _ hs => hsound.step hs⟩
  rintro σ rfl
  exact ⟨fun _ ha => absurd ha List.not_mem_nil, fun _ ha => absurd ha List.not_mem_nil,
    fun _ ho => absurd ho List.not_mem_nil, h, rfl⟩

/-! ## The others are not -/

/-- Where the statements are not ordered, an activity starts just before the object that it
touches is retired. -/
theorem dangles_of_not_orderedFrom {σ : State Source Activity Object}
    {statements : List (Statement Source Object)} (hrest : σ.rest = statements)
    (hidle : σ.running = []) (h : ¬ P.OrderedFrom σ.joined statements) :
    ∃ actions τ, P.system.exec σ actions = some τ ∧ τ.dangling = true := by
  induction statements generalizing σ with
  | nil => exact absurd trivial h
  | cons statement rest ih =>
      cases statement with
      | join s =>
          have hnext : P.step σ .next =
              some { σ with rest := rest, joined := s :: σ.joined } := by
            simp [Program.step, hrest, hidle]
          obtain ⟨actions, τ, he, hdangling⟩ := ih (σ := { σ with
            rest := rest, joined := s :: σ.joined }) rfl hidle h
          exact ⟨.next :: actions, τ, TSys.exec_cons_eq_some_iff.mpr ⟨_, hnext, he⟩, hdangling⟩
      | retire object =>
          have hnext : ∀ running, P.step { σ with running := running } .next =
              some { σ with
                rest := rest, retired := object :: σ.retired, running := running } := by
            intro running
            simp [Program.step, hrest]
          by_cases hquiet : P.Quiet σ.joined object
          · have htail : ¬ P.OrderedFrom σ.joined rest := fun hordered => h ⟨hquiet, hordered⟩
            obtain ⟨actions, τ, he, hdangling⟩ := ih (σ := { σ with
              rest := rest, retired := object :: σ.retired }) rfl hidle htail
            exact ⟨.next :: actions, τ,
              TSys.exec_cons_eq_some_iff.mpr ⟨_, hnext σ.running, he⟩, hdangling⟩
          · obtain ⟨a, ha, htouches, hlive⟩ : ∃ a ∈ P.activities, object ∈ P.touches a ∧
                P.source a ∉ σ.joined := by
              simpa [Quiet] using hquiet
            have hstart : P.step σ (.start a) = some { σ with running := [a] } := by
              simp [Program.step, ha, hlive, hidle]
            refine ⟨[.start a, .next, .touch a object], _,
              TSys.exec_cons_eq_some_iff.mpr ⟨_, hstart,
                TSys.exec_cons_eq_some_iff.mpr ⟨_, hnext [a],
                  TSys.exec_cons_eq_some_iff.mpr ⟨{ σ with
                    rest := rest, retired := object :: σ.retired, running := [a],
                    dangling := true }, ?_, rfl⟩⟩⟩, rfl⟩
            show P.step _ (.touch a object) = _
            simp [Program.step, htouches]

/-- **No activity touches an object after its end, in any interleaving, exactly if the program
is ordered.** -/
theorem safe_iff_ordered :
    (∀ σ, P.system.Reachable σ → σ.dangling = false) ↔ P.Ordered := by
  constructor
  · intro hsafe
    by_contra hordered
    obtain ⟨actions, τ, he, hdangling⟩ :=
      dangles_of_not_orderedFrom (σ := P.initial) rfl rfl hordered
    have hreach : P.system.Reachable τ := TSys.Reachable.exec (.init rfl) he
    rw [hsafe τ hreach] at hdangling
    cases hdangling
  · intro hordered σ hσ
    exact (hordered.sound hσ).safe

/-! ## The end -/

/-- A source that the program joins is joined, or its join is still to come. -/
def Pending (P : Program Source Activity Object) (σ : State Source Activity Object) : Prop :=
  ∀ s, .join s ∈ P.statements → s ∈ σ.joined ∨ .join s ∈ σ.rest

theorem Pending.step {σ σ' : State Source Activity Object} {a : Action Activity Object}
    (h : P.Pending σ) (hs : P.step σ a = some σ') : P.Pending σ' := by
  intro s hmem
  have hσ := h s hmem
  cases a with
  | next =>
      simp only [Program.step] at hs
      split at hs
      case h_1 => cases hs
      case h_2 s' rest hrest =>
        obtain ⟨-, hσ'⟩ := Option.ite_none_right_eq_some.mp hs
        obtain rfl := Option.some.inj hσ'
        rw [hrest] at hσ
        rcases hσ with hjoined | hcoming
        · exact .inl (List.mem_cons_of_mem _ hjoined)
        · rcases List.mem_cons.mp hcoming with heq | hcoming
          · cases heq
            exact .inl List.mem_cons_self
          · exact .inr hcoming
      case h_3 object rest hrest =>
        obtain rfl := Option.some.inj hs
        rw [hrest] at hσ
        rcases hσ with hjoined | hcoming
        · exact .inl hjoined
        · rcases List.mem_cons.mp hcoming with heq | hcoming
          · cases heq
          · exact .inr hcoming
  | start b =>
      obtain ⟨-, hσ'⟩ := Option.ite_none_right_eq_some.mp hs
      obtain rfl := Option.some.inj hσ'
      exact hσ
  | touch b object =>
      obtain ⟨-, hσ'⟩ := Option.ite_none_right_eq_some.mp hs
      obtain rfl := Option.some.inj hσ'
      exact hσ
  | finish b =>
      obtain ⟨-, hσ'⟩ := Option.ite_none_right_eq_some.mp hs
      obtain rfl := Option.some.inj hσ'
      exact hσ

/-- When an ordered program is through, nothing runs but what it never joins. -/
theorem Ordered.not_joined_of_done (h : P.Ordered) {σ : State Source Activity Object}
    (hσ : P.system.Reachable σ) (hdone : σ.rest = []) :
    ∀ a ∈ σ.running, .join (P.source a) ∉ P.statements := by
  have hpending : P.Pending σ := by
    refine TSys.Run.invariant hσ ⟨?_, fun σ a σ' hpending _ hs => hpending.step hs⟩
    rintro σ rfl s hmem
    exact .inr hmem
  intro a ha hmem
  rcases hpending _ hmem with hjoined | hcoming
  · exact (h.sound hσ).live a ha hjoined
  · rw [hdone] at hcoming
    cases hcoming

theorem exec_next_of_idle {σ : State Source Activity Object}
    {statements : List (Statement Source Object)} (hrest : σ.rest = statements)
    (hidle : σ.running = []) : ∃ actions τ, P.system.exec σ actions = some τ ∧ τ.rest = [] := by
  induction statements generalizing σ with
  | nil => exact ⟨[], σ, rfl, hrest⟩
  | cons statement rest ih =>
      obtain ⟨σ', hnext, hrest', hidle'⟩ : ∃ σ', P.step σ .next = some σ' ∧ σ'.rest = rest ∧
          σ'.running = [] := by
        cases statement with
        | join s =>
            exact ⟨{ σ with rest := rest, joined := s :: σ.joined },
              by simp [Program.step, hrest, hidle], rfl, hidle⟩
        | retire object =>
            exact ⟨{ σ with rest := rest, retired := object :: σ.retired },
              by simp [Program.step, hrest], rfl, hidle⟩
      obtain ⟨actions, τ, he, hdone⟩ := ih hrest' hidle'
      exact ⟨.next :: actions, τ, TSys.exec_cons_eq_some_iff.mpr ⟨σ', hnext, he⟩, hdone⟩

/-- Every teardown can be completed: the activities that run finish, and no join blocks. -/
theorem exec_done (σ : State Source Activity Object) :
    ∃ actions τ, P.system.exec σ actions = some τ ∧ τ.rest = [] := by
  generalize hrunning : σ.running = running
  induction running generalizing σ with
  | nil => exact exec_next_of_idle rfl hrunning
  | cons a running ih =>
      have hfinish : P.step σ (.finish a) = some { σ with running := running } := by
        simp [Program.step, hrunning]
      obtain ⟨actions, τ, he, hdone⟩ := ih { σ with running := running } rfl
      exact ⟨.finish a :: actions, τ, TSys.exec_cons_eq_some_iff.mpr ⟨_, hfinish, he⟩, hdone⟩

end Program

end Teardown
