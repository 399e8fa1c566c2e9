import Mathlib.Data.List.Chain
import Mathlib.Data.List.Induction

/-!
# Reference counts

A count of uses goes up with each acquisition and down with each release; a release
without a use has no effect. The events that turn the count from zero or to zero are its
edges: the acquisitions of a first use and the releases of a last one. Whoever is told of
the edges only hears acquisition and release in turn, and the last one it heard says
whether there is a use now.
-/

namespace Refcount

variable {E : Type*} (acquires : E → Bool)

/-- The number of uses after an event. -/
def next (uses : Nat) (e : E) : Nat := if acquires e then uses + 1 else uses - 1

/-- The number of uses after some events. -/
def count (uses : Nat) (events : List E) : Nat := events.foldl (next acquires) uses

/-- The events that turn the count from zero or to zero. -/
def edges : Nat → List E → List E
  | _, [] => []
  | uses, e :: rest =>
      if 0 < uses ↔ 0 < next acquires uses e then edges (next acquires uses e) rest
      else e :: edges (next acquires uses e) rest

variable {acquires} {uses : Nat} {e : E} {events : List E}

theorem next_acquire (h : acquires e = true) : next acquires uses e = uses + 1 := if_pos h

theorem next_release (h : acquires e = false) : next acquires uses e = uses - 1 := by
  rw [next, h]
  rfl

theorem count_append (more : List E) :
    count acquires uses (events ++ more) = count acquires (count acquires uses events) more :=
  List.foldl_append

theorem edges_append (more : List E) :
    edges acquires uses (events ++ more) =
      edges acquires uses events ++ edges acquires (count acquires uses events) more := by
  induction events generalizing uses with
  | nil => rfl
  | cons e rest ih =>
      have hcount : count acquires uses (e :: rest) =
          count acquires (next acquires uses e) rest := rfl
      rw [List.cons_append, edges, edges, ih, hcount]
      split <;> rfl

/-- An edge acquires if there was no use before, and releases otherwise. -/
theorem edge_acquires_iff (h : ¬ (0 < uses ↔ 0 < next acquires uses e)) :
    acquires e = true ↔ uses = 0 := by
  cases hacquires : acquires e with
  | true =>
      rw [next_acquire hacquires] at h
      simp only [true_iff]
      omega
  | false =>
      rw [next_release hacquires] at h
      simp only [Bool.false_eq_true, false_iff]
      omega

/-- After an edge there is a use exactly if it acquired. -/
theorem pos_next_iff_of_edge (h : ¬ (0 < uses ↔ 0 < next acquires uses e)) :
    0 < next acquires uses e ↔ acquires e = true := by
  rw [edge_acquires_iff h]
  omega

/-- The first edge is an acquisition exactly if there is no use at the start. -/
theorem head_edges : ∀ e ∈ (edges acquires uses events).head?, acquires e = true ↔ uses = 0 := by
  induction events generalizing uses with
  | nil => exact nofun
  | cons e rest ih =>
      intro first hfirst
      rw [edges] at hfirst
      split at hfirst
      · rename_i hsame
        rw [ih first hfirst]
        omega
      · rename_i hedge
        obtain rfl := Option.some.inj hfirst
        exact edge_acquires_iff hedge

/-- **Edges alternate** between acquisitions and releases. -/
theorem isChain_edges :
    (edges acquires uses events).IsChain fun a b => acquires a ≠ acquires b := by
  induction events generalizing uses with
  | nil => exact .nil
  | cons e rest ih =>
      rw [edges]
      split
      · exact ih
      · rename_i hedge
        refine List.isChain_cons.mpr ⟨fun next hnext heq => ?_, ih⟩
        -- the next edge starts from the count this one leaves
        have hthis := pos_next_iff_of_edge hedge
        rw [heq, head_edges next hnext] at hthis
        omega

/-- **The last edge says whether there is a use.** -/
theorem getLast_edges : ∀ e ∈ (edges acquires uses events).getLast?,
    acquires e = true ↔ 0 < count acquires uses events := by
  induction events using List.reverseRecOn with
  | nil => exact nofun
  | append_singleton before e ih =>
      intro last hlast
      have hcount : count acquires uses (before ++ [e]) =
          next acquires (count acquires uses before) e := by
        rw [count_append]
        rfl
      rw [edges_append, edges] at hlast
      rw [hcount]
      split at hlast
      · rename_i hsame
        rw [edges, List.append_nil] at hlast
        rw [ih last hlast]
        exact hsame
      · rename_i hedge
        rw [edges, List.getLast?_concat] at hlast
        obtain rfl := Option.some.inj hlast
        exact (pos_next_iff_of_edge hedge).symm

/-- Without an edge there is a use exactly if there was one. -/
theorem pos_count_iff_of_edges_nil (h : edges acquires uses events = []) :
    0 < count acquires uses events ↔ 0 < uses := by
  induction events generalizing uses with
  | nil => exact Iff.rfl
  | cons e rest ih =>
      rw [edges] at h
      split at h
      · rename_i hsame
        show 0 < count acquires (next acquires uses e) rest ↔ 0 < uses
        rw [ih h, hsame]
      · cases h

/-- There are at most as many uses as there were acquisitions. -/
theorem count_le : count acquires uses events ≤ uses + events.countP acquires := by
  induction events generalizing uses with
  | nil => exact Nat.le_add_right uses 0
  | cons e rest ih =>
      have hrest : count acquires uses (e :: rest) ≤
          next acquires uses e + rest.countP acquires := ih
      cases hacquires : acquires e with
      | true =>
          rw [next_acquire hacquires] at hrest
          rw [List.countP_cons_of_pos hacquires]
          omega
      | false =>
          rw [next_release hacquires] at hrest
          rw [List.countP_cons_of_neg (by simp [hacquires])]
          omega

end Refcount
