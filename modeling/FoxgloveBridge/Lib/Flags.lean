/-!
# Words of flags

Options that are stored in a machine word, each under a flag of its own: which of them a word
holds, and what is held after flags were added, one by one or through another set of flags.
-/

/-- The flags of the options `ι` in words of `w` bits: none is zero, no two have a bit in
common. -/
structure Flags (ι : Type) (w : Nat) where
  value : ι → BitVec w
  ne_zero : ∀ i, value i ≠ 0#w
  disjoint : ∀ i j, i ≠ j → value i &&& value j = 0#w

namespace Flags

variable {ι : Type} {w : Nat} (F : Flags ι w)

/-- All bits of the flag are set. -/
def has (x : BitVec w) (i : ι) : Bool :=
  x &&& F.value i == F.value i

/-- The word with a flag, if there is one to add. -/
def add (x : BitVec w) : Option ι → BitVec w
  | some i => x ||| F.value i
  | none => x

theorem has_eq_true_iff {x : BitVec w} {i : ι} : F.has x i = true ↔ x &&& F.value i = F.value i :=
  beq_iff_eq

@[simp] theorem has_zero (i : ι) : F.has 0#w i = false := by
  have hne : ¬ 0#w &&& F.value i = F.value i := by
    rw [BitVec.zero_and]
    exact fun h => F.ne_zero i h.symm
  simpa [has] using hne

/-- A flag that is added is held, and nothing changes for the others. -/
theorem has_or (x : BitVec w) (i j : ι) :
    F.has (x ||| F.value j) i = true ↔ F.has x i = true ∨ i = j := by
  have hor : (x ||| F.value j) &&& F.value i = x &&& F.value i ||| F.value j &&& F.value i :=
    BitVec.and_or_distrib_right
  rw [has_eq_true_iff, has_eq_true_iff, hor]
  by_cases h : i = j
  · subst h
    have habsorb : x &&& F.value i ||| F.value i = F.value i := by
      ext k hk
      simp
    simp [BitVec.and_self, habsorb]
  · rw [F.disjoint j i (Ne.symm h), BitVec.or_zero]
    simp [h]

theorem has_add (x : BitVec w) (found : Option ι) (i : ι) :
    F.has (F.add x found) i = true ↔ F.has x i = true ∨ found = some i := by
  cases found with
  | none => simp [add]
  | some j =>
      rw [add, has_or, Option.some.injEq]
      exact or_congr_right eq_comm

/-- After a pass over a list that adds the flags `f` finds, those are held that were held
before or that it found. -/
theorem has_foldl_add {α : Type} (f : α → Option ι) (x : BitVec w) (l : List α) (i : ι) :
    F.has (l.foldl (fun out a => F.add out (f a)) x) i = true ↔
      F.has x i = true ∨ ∃ a ∈ l, f a = some i := by
  induction l generalizing x with
  | nil => simp
  | cons a l ih =>
      rw [List.foldl_cons, ih, has_add, or_assoc]
      simp only [List.mem_cons, exists_eq_or_imp]

end Flags
