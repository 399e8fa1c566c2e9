import Mathlib.Data.List.Basic

/-!
# Transition systems with guarded runs

A labelled transition system whose step is a partial function of state and
action: all nondeterminism (scheduling, replies of the environment) is in the
action. `Run ok` is reachability by steps that all satisfy a guard `ok`; plain
reachability is the guard that is always true. A safety theorem about a guarded
run is an invariant that is inductive for the steps meeting the guard
(`Inductive`, `Run.invariant`), if necessary relative to invariants already
proved (`Run.invariant_of`).

`exec` runs a list of actions and is what concrete schedules are evaluated
with; `Run.exec` turns such an evaluation into a run. Two systems that share some
of their steps run as one (`joint`). What a run has done and its state does not tell
is recorded in a ghost component (`withGhost`).
-/

/-- A labelled transition system: `step σ a = none` means that `a` is not
enabled in `σ`. -/
structure TSys (S A : Type*) where
  init : S → Prop
  step : S → A → Option S

namespace TSys

variable {S A : Type*} {M : TSys S A} {ok ok' : S → A → Prop} {I J : S → Prop}

/-- States reached from an initial one by steps that each satisfy `ok` in the
state they are taken from. -/
inductive Run (M : TSys S A) (ok : S → A → Prop) : S → Prop
  | init {σ : S} : M.init σ → Run M ok σ
  | step {σ σ' : S} {a : A} : Run M ok σ → ok σ a → M.step σ a = some σ' → Run M ok σ'

/-- Plain reachability: runs without a guard. -/
def Reachable (M : TSys S A) : S → Prop := M.Run fun _ _ => True

/-- `I` holds initially and is preserved by every step that meets the guard. -/
structure Inductive (M : TSys S A) (ok : S → A → Prop) (I : S → Prop) : Prop where
  init : ∀ σ, M.init σ → I σ
  step : ∀ σ a σ', I σ → ok σ a → M.step σ a = some σ' → I σ'

/-- An inductive invariant holds in every state of every guarded run. -/
theorem Run.invariant {σ : S} (h : M.Run ok σ) (hI : M.Inductive ok I) : I σ := by
  induction h with
  | init h0 => exact hI.init _ h0
  | step _ hok hs ih => exact hI.step _ _ _ ih hok hs

/-- An invariant may be inductive only relative to one that is already known to
hold along the run. -/
theorem Run.invariant_of {σ : S} (h : M.Run ok σ) (hJ : ∀ τ, M.Run ok τ → J τ)
    (init : ∀ τ, M.init τ → I τ)
    (step : ∀ τ a τ', I τ → J τ → ok τ a → M.step τ a = some τ' → I τ') : I σ := by
  induction h with
  | init h0 => exact init _ h0
  | step hr hok hs ih => exact step _ _ _ ih (hJ _ hr) hok hs

/-- Weakening the guard keeps the run. -/
theorem Run.mono {σ : S} (h : M.Run ok σ) (hle : ∀ τ a, ok τ a → ok' τ a) : M.Run ok' σ := by
  induction h with
  | init h0 => exact .init h0
  | step _ hok hs ih => exact .step ih (hle _ _ hok) hs

theorem Run.reachable {σ : S} (h : M.Run ok σ) : M.Reachable σ :=
  h.mono fun _ _ _ => trivial

theorem Reachable.step {σ σ' : S} {a : A} (h : M.Reachable σ) (hs : M.step σ a = some σ') :
    M.Reachable σ' :=
  Run.step h trivial hs

/-! ## Executing a schedule -/

/-- The state after a list of actions, `none` as soon as one is not enabled. -/
def exec (M : TSys S A) (σ : S) : List A → Option S
  | [] => some σ
  | a :: as => (M.step σ a).bind fun τ => M.exec τ as

/-- Every action of the schedule meets the guard where it is taken. -/
def Guarded (M : TSys S A) (ok : S → A → Prop) : S → List A → Prop
  | _, [] => True
  | σ, a :: as => ok σ a ∧ ∀ τ ∈ M.step σ a, Guarded M ok τ as

instance Guarded.decidable [∀ σ a, Decidable (ok σ a)] :
    (as : List A) → (σ : S) → Decidable (M.Guarded ok σ as)
  | [], _ => .isTrue trivial
  | a :: as, σ =>
      match h : M.step σ a with
      | none => decidable_of_iff (ok σ a) (by simp [Guarded, h])
      | some τ =>
          have := Guarded.decidable as τ
          decidable_of_iff (ok σ a ∧ M.Guarded ok τ as) (by simp [Guarded, h])

/-- Actions that meet the guard in every state. -/
theorem Guarded.of_forall {as : List A} (h : ∀ a ∈ as, ∀ σ, ok σ a) (σ : S) :
    M.Guarded ok σ as := by
  induction as generalizing σ with
  | nil => trivial
  | cons a as ih =>
      obtain ⟨ha, has⟩ := List.forall_mem_cons.mp h
      exact ⟨ha σ, fun τ _ => ih has τ⟩

/-- Two guards that agree everywhere guard the same schedules. -/
theorem guarded_congr (h : ∀ σ a, ok σ a ↔ ok' σ a) (as : List A) (σ : S) :
    M.Guarded ok σ as ↔ M.Guarded ok' σ as := by
  induction as generalizing σ with
  | nil => exact Iff.rfl
  | cons a as ih => exact and_congr (h σ a) (forall₂_congr fun τ _ => ih τ)

/-- A guarded schedule that executes extends a run. -/
theorem Run.exec {σ σ' : S} {as : List A} (h : M.Run ok σ) (hg : M.Guarded ok σ as)
    (he : M.exec σ as = some σ') : M.Run ok σ' := by
  induction as generalizing σ with
  | nil =>
      obtain rfl : σ = σ' := by simpa [TSys.exec] using he
      exact h
  | cons a as ih =>
      obtain ⟨τ, hs, hrest⟩ : ∃ τ, M.step σ a = some τ ∧ M.exec τ as = some σ' := by
        simpa [TSys.exec, Option.bind_eq_some_iff] using he
      exact ih (.step h hg.1 hs) (hg.2 τ hs) hrest

theorem Reachable.exec {σ σ' : S} {as : List A} (h : M.Reachable σ)
    (he : M.exec σ as = some σ') : M.Reachable σ' :=
  Run.exec h (.of_forall (fun _ _ _ => trivial) σ) he

theorem exec_cons_eq_some_iff {σ σ' : S} {a : A} {as : List A} :
    M.exec σ (a :: as) = some σ' ↔ ∃ τ, M.step σ a = some τ ∧ M.exec τ as = some σ' := by
  rw [exec, Option.bind_eq_some_iff]

/-- What every step relates, a schedule that executes relates. -/
theorem exec_rel {R : S → S → Prop} (hrefl : ∀ τ, R τ τ)
    (htrans : ∀ {τ τ' τ''}, R τ τ' → R τ' τ'' → R τ τ'') {σ σ' : S} {as : List A}
    (hstep : ∀ a ∈ as, ∀ {τ τ'}, M.step τ a = some τ' → R τ τ')
    (he : M.exec σ as = some σ') : R σ σ' := by
  induction as generalizing σ with
  | nil =>
      obtain rfl := Option.some.inj he
      exact hrefl σ
  | cons a as ih =>
      obtain ⟨ha, has⟩ := List.forall_mem_cons.mp hstep
      obtain ⟨τ, hs, hrest⟩ := exec_cons_eq_some_iff.mp he
      exact htrans (ha hs) (ih has hrest)

/-- Where each step keeps `I` exactly if it meets the guard, a schedule that executes
keeps `I` throughout exactly if it is guarded. The invariant `J` holds in any case. -/
theorem forall_exec_iff_guarded {σ σ' : S} {as : List A} (hJ : J σ) (hI : I σ)
    (he : M.exec σ as = some σ')
    (hstep : ∀ τ, J τ → ∀ a ∈ as, ∀ τ', M.step τ a = some τ' →
      J τ' ∧ (I τ → (I τ' ↔ ok τ a))) :
    (∀ done, done <+: as → ∀ τ, M.exec σ done = some τ → I τ) ↔ M.Guarded ok σ as := by
  induction as generalizing σ with
  | nil =>
      refine ⟨fun _ => trivial, fun _ done hdone τ he => ?_⟩
      obtain rfl := List.prefix_nil.mp hdone
      obtain rfl : σ = τ := by simpa [TSys.exec] using he
      exact hI
  | cons a as ih =>
      obtain ⟨σ₁, hs, htail⟩ := exec_cons_eq_some_iff.mp he
      obtain ⟨hJ₁, hexact⟩ := hstep σ hJ a List.mem_cons_self σ₁ hs
      have hrest := fun hI₁ : I σ₁ =>
        ih hJ₁ hI₁ htail fun τ hτ b hb => hstep τ hτ b (List.mem_cons_of_mem _ hb)
      have hguard : M.Guarded ok σ (a :: as) ↔ ok σ a ∧ M.Guarded ok σ₁ as := by
        simp [Guarded, hs]
      have hexec : ∀ done, M.exec σ (a :: done) = M.exec σ₁ done := by
        intro done
        simp [TSys.exec, hs]
      rw [hguard]
      constructor
      · -- the first step kept `I`, so it met the guard; the rest by induction
        intro hall
        have hI₁ : I σ₁ := hall [a] (List.prefix_append [a] as) σ₁ (by rw [hexec, TSys.exec])
        refine ⟨(hexact hI).mp hI₁, (hrest hI₁).mp fun done hdone τ he => ?_⟩
        exact hall (a :: done) (List.cons_prefix_cons.mpr ⟨rfl, hdone⟩) τ (by rwa [hexec])
      · rintro ⟨hok, hg⟩ done hdone τ hτ
        cases done with
        | nil =>
            obtain rfl : σ = τ := by simpa [TSys.exec] using hτ
            exact hI
        | cons b done =>
            obtain ⟨rfl, hshorter⟩ := List.cons_prefix_cons.mp hdone
            rw [hexec] at hτ
            exact (hrest ((hexact hI).mpr hok)).mpr hg done hshorter τ hτ

/-- A schedule executes where each of its actions is enabled in every state of `J`. -/
theorem exists_exec {σ : S} {as : List A} (hJ : J σ)
    (hstep : ∀ τ, J τ → ∀ a ∈ as, ∃ τ', M.step τ a = some τ' ∧ J τ') :
    ∃ σ', M.exec σ as = some σ' := by
  induction as generalizing σ with
  | nil => exact ⟨σ, rfl⟩
  | cons a as ih =>
      obtain ⟨τ, hs, hτ⟩ := hstep σ hJ a List.mem_cons_self
      obtain ⟨σ', he⟩ := ih hτ fun τ hτ b hb => hstep τ hτ b (List.mem_cons_of_mem _ hb)
      exact ⟨σ', exec_cons_eq_some_iff.mpr ⟨τ, hs, he⟩⟩

/-- The same for a schedule of enabled actions. -/
theorem guarded_iff_forall_exec {σ : S} {as : List A} (hJ : J σ) (hI : I σ)
    (hstep : ∀ τ, J τ → ∀ a ∈ as, ∃ τ', M.step τ a = some τ' ∧ J τ' ∧ (I τ → (I τ' ↔ ok τ a))) :
    (∀ done, done <+: as → ∀ τ, M.exec σ done = some τ → I τ) ↔ M.Guarded ok σ as := by
  obtain ⟨σ', he⟩ := exists_exec (M := M) hJ fun τ hτ a ha =>
    let ⟨τ', hs, hJ', _⟩ := hstep τ hτ a ha
    ⟨τ', hs, hJ'⟩
  refine forall_exec_iff_guarded hJ hI he fun τ hτ a ha τ' hs => ?_
  obtain ⟨τ'', hs', hJ', hexact⟩ := hstep τ hτ a ha
  obtain rfl : τ' = τ'' := Option.some.inj (hs.symm.trans hs')
  exact ⟨hJ', hexact⟩

/-! ## Simulation -/

variable {T B : Type*} {N : TSys T B}

/-- If `f` maps initial states to initial states and each guarded step to a step
of `N` or to no step at all, it maps guarded runs of `M` into `N`. -/
theorem Run.simulates {σ : S} (f : S → T) (h : M.Run ok σ)
    (init : ∀ τ, M.init τ → N.init (f τ))
    (step : ∀ τ a τ', M.Run ok τ → ok τ a → M.step τ a = some τ' →
      f τ' = f τ ∨ ∃ b, N.step (f τ) b = some (f τ')) : N.Reachable (f σ) := by
  induction h with
  | init h0 => exact .init (init _ h0)
  | step hr hok hs ih =>
      rcases step _ _ _ hr hok hs with hstutter | ⟨b, hb⟩
      · exact hstutter ▸ ih
      · exact ih.step hb

/-- The same into the guarded runs of `N`, where the steps meet its guard. -/
theorem Run.simulates_run {okN : T → B → Prop} {σ : S} (f : S → T) (h : M.Run ok σ)
    (init : ∀ τ, M.init τ → N.init (f τ))
    (step : ∀ τ a τ', M.Run ok τ → ok τ a → M.step τ a = some τ' →
      f τ' = f τ ∨ ∃ b, okN (f τ) b ∧ N.step (f τ) b = some (f τ')) : N.Run okN (f σ) := by
  induction h with
  | init h0 => exact .init (init _ h0)
  | step hr hok hs ih =>
      rcases step _ _ _ hr hok hs with hstutter | ⟨b, hguard, hb⟩
      · exact hstutter ▸ ih
      · exact ih.step hguard hb

/-! ## Joint runs -/

/-- `M` and `N` side by side. A step of `M` may be one of `N` at the same time, which `sync`
tells; by itself `N` takes the actions that `alone` admits. -/
def joint (M : TSys S A) (N : TSys T B) (sync : S → A → Option B) (alone : B → Bool) :
    TSys (S × T) (A ⊕ B) where
  init σ := M.init σ.1 ∧ N.init σ.2
  step σ
    | .inl a => (M.step σ.1 a).bind fun s =>
        match sync σ.1 a with
        | none => some (s, σ.2)
        | some b => (N.step σ.2 b).map (Prod.mk s)
    | .inr b => if alone b then (N.step σ.2 b).map (Prod.mk σ.1) else none

variable {sync : S → A → Option B} {alone : B → Bool} {okJoint : S × T → A ⊕ B → Prop}

/-- What a joint step is on either side. -/
theorem joint_step_cases {σ σ' : S × T} {c : A ⊕ B}
    (hs : (M.joint N sync alone).step σ c = some σ') :
    (∃ a, c = .inl a ∧ M.step σ.1 a = some σ'.1 ∧ (sync σ.1 a = none → σ'.2 = σ.2) ∧
      ∀ b, sync σ.1 a = some b → N.step σ.2 b = some σ'.2) ∨
    ∃ b, c = .inr b ∧ alone b = true ∧ σ'.1 = σ.1 ∧ N.step σ.2 b = some σ'.2 := by
  cases c with
  | inl a =>
      obtain ⟨s, hM, hrest⟩ := Option.bind_eq_some_iff.mp hs
      refine .inl ⟨a, rfl, ?_⟩
      cases hsync : sync σ.1 a with
      | none =>
          rw [hsync] at hrest
          obtain rfl := Option.some.inj hrest
          exact ⟨hM, fun _ => rfl, nofun⟩
      | some b =>
          rw [hsync] at hrest
          obtain ⟨t, hN, rfl⟩ := Option.map_eq_some_iff.mp hrest
          refine ⟨hM, nofun, fun b' hb' => ?_⟩
          obtain rfl := Option.some.inj hb'
          exact hN
  | inr b =>
      obtain ⟨halone, hrest⟩ := Option.ite_none_right_eq_some.mp hs
      obtain ⟨t, hN, rfl⟩ := Option.map_eq_some_iff.mp hrest
      exact .inr ⟨b, rfl, halone, rfl, hN⟩

/-- The left component of a joint run is a run of `M`, guarded as the steps of `M` in it are. -/
theorem Run.left {σ : S × T} (h : (M.joint N sync alone).Run okJoint σ)
    (hok : ∀ τ a, okJoint τ (.inl a) → ok τ.1 a) : M.Run ok σ.1 := by
  refine h.simulates_run Prod.fst (fun τ hinit => hinit.1) fun τ c τ' _ hguard hs => ?_
  rcases joint_step_cases hs with ⟨a, rfl, hM, -⟩ | ⟨b, rfl, -, hsame, -⟩
  · exact .inr ⟨a, hok τ a hguard, hM⟩
  · exact .inl hsame

theorem Run.right {σ : S × T} (h : (M.joint N sync alone).Run okJoint σ) : N.Reachable σ.2 := by
  refine h.simulates Prod.snd (fun τ hinit => hinit.2) fun τ c τ' _ _ hs => ?_
  rcases joint_step_cases hs with ⟨a, rfl, -, hnone, hsome⟩ | ⟨b, rfl, -, -, hN⟩
  · cases hsync : sync τ.1 a with
    | none => exact .inl (hnone hsync)
    | some b => exact .inr ⟨b, hsome b hsync⟩
  · exact .inr ⟨b, hN⟩

/-! ## Ghost components -/

variable {G : Type*} {start : G} {next : S → A → G → G}

/-- `M` with a component that records something of the run. No step depends on it. -/
def withGhost (M : TSys S A) (start : G) (next : S → A → G → G) : TSys (S × G) A where
  init σ := M.init σ.1 ∧ σ.2 = start
  step σ a := (M.step σ.1 a).map fun τ => (τ, next σ.1 a σ.2)

theorem withGhost_step_iff {σ σ' : S × G} {a : A} :
    (M.withGhost start next).step σ a = some σ' ↔
      M.step σ.1 a = some σ'.1 ∧ σ'.2 = next σ.1 a σ.2 := by
  constructor
  · intro hs
    obtain ⟨τ, hτ, rfl⟩ := Option.map_eq_some_iff.mp hs
    exact ⟨hτ, rfl⟩
  · rintro ⟨hs, hghost⟩
    exact Option.map_eq_some_iff.mpr ⟨σ'.1, hs, by rw [← hghost]⟩

/-- Every run of `M` has its ghost. -/
theorem Reachable.exists_ghost {σ : S} (h : M.Reachable σ) (start : G) (next : S → A → G → G) :
    ∃ g, (M.withGhost start next).Reachable (σ, g) := by
  induction h with
  | init h0 => exact ⟨start, .init ⟨h0, rfl⟩⟩
  | step _ _ hs ih =>
      obtain ⟨g, hg⟩ := ih
      exact ⟨next _ _ g, hg.step (withGhost_step_iff.mpr ⟨hs, rfl⟩)⟩

end TSys
