import Mathlib.Data.List.Basic
import Mathlib.Data.Set.Finite.Lemmas
import Mathlib.Logic.Function.Basic
import Mathlib.Logic.Relation

/-!
# Ranked call stacks

Threads that take locks and wait for completions in nested calls. A thread is its call
stack. A frame holds some resources, and may be at a point where it waits for one; what it
holds is held by the thread until the frame is popped or moves on.

Each resource has a rank and each frame a floor, below which neither it nor what it calls
will ever wait. If every frame on a stack ranks what it holds below the floors of its
callees, a thread waits only for what ranks above all it holds; and then no threads wait
for each other in a circle (`no_cycle`), and one that is not done can go on
(`exists_unblocked`). If a frame takes nothing but what it waited for until it was free, two
threads never hold the same (`Exclusive.replace`).
-/

/-- What the frames of a program hold and wait for. A frame waits for nothing that ranks
below its floor, or not above what it holds. -/
structure RankedFrames (F R : Type*) where
  rank : R → Nat
  held : F → List R
  waits : F → Option R
  floor : F → Nat
  waits_above : ∀ frame, ∀ r ∈ waits frame,
    floor frame ≤ rank r ∧ ∀ h ∈ held frame, rank h < rank r

namespace RankedFrames

variable {F R : Type*} (P : RankedFrames F R)

/-- What a thread with this call stack holds. -/
def holds (stack : List F) (r : R) : Prop := ∃ frame ∈ stack, r ∈ P.held frame

/-- What the thread waits for: the top frame decides. -/
def waitsFor (stack : List F) : Option R := stack.head?.bind P.waits

/-- Each frame ranks above what its callers hold. -/
def Ordered : List F → Prop
  | [] => True
  | frame :: callers => (∀ caller ∈ callers, ∀ h ∈ P.held caller, P.rank h < P.floor frame) ∧
      Ordered callers

variable {P}

theorem Ordered.nil : P.Ordered [] := trivial

/-- These frames may take the place of a frame that moves on, calls or returns. -/
def Replaces (P : RankedFrames F R) (frame : F) (frames : List F) : Prop :=
  P.Ordered frames ∧ ∀ new ∈ frames, P.floor frame ≤ P.floor new

theorem Ordered.replace {frame : F} {callers frames : List F}
    (h : P.Ordered (frame :: callers)) (hreplaces : P.Replaces frame frames) :
    P.Ordered (frames ++ callers) := by
  obtain ⟨htop, hcallers⟩ := h
  obtain ⟨hframes, hfloor⟩ := hreplaces
  induction frames with
  | nil => exact hcallers
  | cons new frames ih =>
      obtain ⟨hnew, hframes⟩ := hframes
      obtain ⟨hle, hfloor⟩ := List.forall_mem_cons.mp hfloor
      refine ⟨fun caller hcaller r hr => ?_, ih hframes hfloor⟩
      rcases List.mem_append.mp hcaller with hown | hbelow
      · exact hnew caller hown r hr
      · exact Nat.lt_of_lt_of_le (htop caller hbelow r hr) hle

instance Ordered.decidable : (stack : List F) → Decidable (P.Ordered stack)
  | [] => .isTrue trivial
  | _ :: callers =>
      have := Ordered.decidable callers
      inferInstanceAs (Decidable (_ ∧ _))

instance (frame : F) (frames : List F) : Decidable (P.Replaces frame frames) :=
  inferInstanceAs (Decidable (_ ∧ _))

/-- A thread waits only for what ranks above all it holds. -/
theorem Ordered.waits_above {stack : List F} (h : P.Ordered stack) {w r : R}
    (hw : P.waitsFor stack = some w) (hr : P.holds stack r) : P.rank r < P.rank w := by
  cases stack with
  | nil => cases hw
  | cons frame callers =>
      obtain ⟨hfloor, hheld⟩ := P.waits_above frame w hw
      obtain ⟨other, hother, hr⟩ := hr
      rcases List.mem_cons.mp hother with rfl | hcaller
      · exact hheld r hr
      · exact Nat.lt_of_lt_of_le (h.1 other hcaller r hr) hfloor

/-! ## Exclusion -/

section Exclusion

/-- The frames that take the place of another hold nothing twice, and nothing that it neither
held nor waited for. -/
def Takes (P : RankedFrames F R) (frame : F) (frames : List F) : Prop :=
  (frames.Pairwise fun f g => ∀ r ∈ P.held f, r ∉ P.held g) ∧
    ∀ new ∈ frames, ∀ r ∈ P.held new, r ∈ P.held frame ∨ P.waits frame = some r

instance [DecidableEq R] (frame : F) (frames : List F) : Decidable (P.Takes frame frames) :=
  inferInstanceAs (Decidable (_ ∧ _))

/-- No two frames of the stack hold it. -/
def HoldsOnce (P : RankedFrames F R) (stack : List F) (r : R) : Prop :=
  stack.Pairwise fun f g => r ∈ P.held f → r ∉ P.held g

theorem HoldsOnce.replace {frame : F} {callers frames : List F} {r : R}
    (h : P.HoldsOnce (frame :: callers) r) (htakes : P.Takes frame frames)
    (hfree : P.waits frame = some r → ¬ P.holds (frame :: callers) r) :
    P.HoldsOnce (frames ++ callers) r := by
  obtain ⟨htop, hcallers⟩ := List.pairwise_cons.mp h
  obtain ⟨hframes, hbefore⟩ := htakes
  refine List.pairwise_append.mpr ⟨hframes.imp fun hdisjoint => hdisjoint r, hcallers, ?_⟩
  intro new hnew caller hcaller hheld
  rcases hbefore new hnew r hheld with hown | hwaits
  · exact htop caller hcaller hown
  · exact fun hr => hfree hwaits ⟨caller, List.mem_cons_of_mem _ hcaller, hr⟩

/-- What the new stack holds, the thread held or waited for. -/
theorem holds_replace {frame : F} {callers frames : List F} {r : R}
    (htakes : P.Takes frame frames) (h : P.holds (frames ++ callers) r) :
    P.holds (frame :: callers) r ∨ P.waits frame = some r := by
  obtain ⟨other, hother, hr⟩ := h
  rcases List.mem_append.mp hother with hnew | hcaller
  · rcases htakes.2 other hnew r hr with hown | hwaits
    · exact .inl ⟨frame, List.mem_cons_self, hown⟩
    · exact .inr hwaits
  · exact .inl ⟨other, List.mem_cons_of_mem _ hcaller, hr⟩

variable {ι : Type*}

/-- No two threads hold it, and no thread holds it twice. -/
structure Exclusive (P : RankedFrames F R) (threads : ι → List F) (r : R) : Prop where
  once : ∀ i, P.HoldsOnce (threads i) r
  one : ∀ i j, P.holds (threads i) r → P.holds (threads j) r → i = j

variable {threads : ι → List F} {i : ι} {r : R}

/-- A frame that holds it is the only one: not in another thread, and not above or below in its
own. -/
theorem Exclusive.not_held (h : P.Exclusive threads r) {frame top : F} {above callers rest : List F}
    (hi : threads i = above ++ frame :: callers) (hframe : r ∈ P.held frame) {j : ι}
    (hj : threads j = top :: rest) (hne : j = i → above ≠ []) : r ∉ P.held top := by
  intro htop
  have hholds : P.holds (threads i) r := ⟨frame, by simp [hi], hframe⟩
  obtain rfl : j = i := h.one j i ⟨top, by simp [hj], htop⟩ hholds
  cases above with
  | nil => exact hne rfl rfl
  | cons first above =>
      have hstack := hj.symm.trans hi
      obtain rfl : top = first := (List.cons.inj hstack).1
      have honce := h.once j
      rw [hi] at honce
      exact (List.pairwise_cons.mp honce).1 frame (by simp) htop hframe

variable [DecidableEq ι]

/-- A thread with a stack that does not hold it begins. -/
theorem Exclusive.begin (h : P.Exclusive threads r) {stack : List F} (hnot : ¬ P.holds stack r) :
    P.Exclusive (Function.update threads i stack) r := by
  have hother : ∀ {j}, P.holds (Function.update threads i stack j) r →
      P.holds (threads j) r := by
    intro j hj
    by_cases heq : j = i
    · subst heq
      rw [Function.update_self] at hj
      exact absurd hj hnot
    · rwa [Function.update_of_ne heq] at hj
  refine ⟨fun j => ?_, fun j k hj hk => h.one j k (hother hj) (hother hk)⟩
  by_cases heq : j = i
  · subst heq
    rw [Function.update_self]
    refine List.Pairwise.imp_of_mem ?_ (List.pairwise_of_forall fun _ _ => trivial)
    exact fun hf _ _ hheld => absurd ⟨_, hf, hheld⟩ hnot
  · rw [Function.update_of_ne heq]
    exact h.once j

/-- **Mutual exclusion** is kept by a thread that waits until what it takes is free. -/
theorem Exclusive.replace (h : P.Exclusive threads r) {frame : F} {callers frames : List F}
    (hi : threads i = frame :: callers) (htakes : P.Takes frame frames)
    (hfree : P.waits frame = some r → ∀ j, ¬ P.holds (threads j) r) :
    P.Exclusive (Function.update threads i (frames ++ callers)) r := by
  have hself : P.holds (frames ++ callers) r →
      P.holds (threads i) r ∨ ∀ j, ¬ P.holds (threads j) r := by
    intro hholds
    rw [hi]
    exact (holds_replace htakes hholds).imp_right hfree
  have hone : ∀ j, j ≠ i → P.holds (threads j) r → ¬ P.holds (frames ++ callers) r := by
    intro j hne hj hholds
    rcases hself hholds with hheld | hnone
    · exact hne (h.one j i hj hheld)
    · exact hnone j hj
  refine ⟨?_, ?_⟩
  · intro j
    by_cases heq : j = i
    · subst heq
      rw [Function.update_self]
      exact (hi ▸ h.once j).replace htakes fun hwaits => hi ▸ hfree hwaits j
    · rw [Function.update_of_ne heq]
      exact h.once j
  · intro j k hj hk
    by_cases hji : j = i <;> by_cases hki : k = i
    · rw [hji, hki]
    · subst hji
      rw [Function.update_self] at hj
      rw [Function.update_of_ne hki] at hk
      exact absurd hj (hone k hki hk)
    · subst hki
      rw [Function.update_self] at hk
      rw [Function.update_of_ne hji] at hj
      exact absurd hk (hone j hji hj)
    · rw [Function.update_of_ne hji] at hj
      rw [Function.update_of_ne hki] at hk
      exact h.one j k hj hk

end Exclusion

/-! ## Circles -/

variable {ι : Type*} (P)

/-- Thread `i` waits for something that thread `j` holds. -/
def WaitsOn (threads : ι → List F) (i j : ι) : Prop :=
  ∃ r, P.waitsFor (threads i) = some r ∧ P.holds (threads j) r

variable {P} {threads : ι → List F}

/-- Along a chain of waits the ranks only rise. -/
theorem rank_le_of_chain (h : ∀ i, P.Ordered (threads i)) {i j : ι}
    (hchain : Relation.TransGen (P.WaitsOn threads) i j) :
    ∃ w r, P.waitsFor (threads i) = some w ∧ P.holds (threads j) r ∧ P.rank w ≤ P.rank r := by
  induction hchain with
  | single hwaits =>
      obtain ⟨r, hw, hr⟩ := hwaits
      exact ⟨r, r, hw, hr, Nat.le_refl _⟩
  | tail _ hwaits ih =>
      obtain ⟨w, r, hw, hr, hle⟩ := ih
      obtain ⟨next, hnext, hheld⟩ := hwaits
      have hlt := (h _).waits_above hnext hr
      exact ⟨w, next, hw, hheld, by omega⟩

/-- **No circle.** Threads whose call stacks are ordered do not wait for each other in a
circle, nor does one of them wait for itself. -/
theorem no_cycle (h : ∀ i, P.Ordered (threads i)) (i : ι) :
    ¬ Relation.TransGen (P.WaitsOn threads) i i := by
  intro hcycle
  obtain ⟨w, r, hw, hr, hle⟩ := rank_le_of_chain h hcycle
  have hlt := (h i).waits_above hw hr
  omega

/-- **Progress.** Of finitely many threads that are not done, one waits for nothing that is
held: the one that waits for what ranks highest. -/
theorem exists_unblocked (h : ∀ i, P.Ordered (threads i)) (hfinite : {i | threads i ≠ []}.Finite)
    {i : ι} (hi : threads i ≠ []) :
    ∃ j, threads j ≠ [] ∧ ∀ r, P.waitsFor (threads j) = some r → ∀ k, ¬ P.holds (threads k) r := by
  let height : ι → Nat := fun j => ((P.waitsFor (threads j)).map P.rank).getD 0
  obtain ⟨j, hj, hmax⟩ := Set.exists_max_image _ height hfinite ⟨i, hi⟩
  by_contra hblocked
  -- what `j` waits for is held by some `k`
  obtain ⟨r, hr, k, hk⟩ : ∃ r, P.waitsFor (threads j) = some r ∧ ∃ k, P.holds (threads k) r := by
    by_contra hnone
    refine hblocked ⟨j, hj, fun r hr k hk => hnone ⟨r, hr, k, hk⟩⟩
  have hbusy : threads k ≠ [] := by
    intro hnil
    obtain ⟨frame, hframe, -⟩ := hk
    rw [hnil] at hframe
    cases hframe
  -- and `k` waits for nothing higher, so for nothing
  have hwait : P.waitsFor (threads k) = none := by
    by_contra hsome
    obtain ⟨w, hw⟩ := Option.ne_none_iff_exists'.mp hsome
    have hlt := (h k).waits_above hw hk
    have hle := hmax k hbusy
    simp only [height, hr, hw, Option.map_some, Option.getD_some] at hle
    omega
  refine hblocked ⟨k, hbusy, fun w hw => ?_⟩
  rw [hwait] at hw
  cases hw

end RankedFrames
