import Mathlib.Data.List.Basic

/-!
# Lexical path resolution

A path below a directory, as the list of its components, and the directory it leads to when
the components are resolved by their spelling alone: a name goes down, `..` goes up, `.`
stays. A path is inside its root if it never leaves it on the way, so that it does not
matter at which component one stops.
-/

namespace LexicalPath

variable {N : Type*}

inductive Component (N : Type*)
  | here
  | up
  | name (n : N)
  deriving DecidableEq

/-- Go one component on from a directory, which is the list of names from `/`. -/
def step (dir : List N) : Component N → List N
  | .here => dir
  | .up => dir.dropLast
  | .name n => dir ++ [n]

def resolve (dir : List N) (path : List (Component N)) : List N := path.foldl step dir

/-- The path does not leave the root on the way. -/
def Inside (root : List N) (path : List (Component N)) : Prop :=
  ∀ done, done <+: path → root <+: resolve root done

theorem prefix_step {root dir : List N} {c : Component N} (h : root <+: dir) (hc : c ≠ .up) :
    root <+: step dir c := by
  cases c with
  | here => exact h
  | up => exact absurd rfl hc
  | name n => exact h.trans (List.prefix_append dir [n])

theorem prefix_resolve {root dir : List N} {path : List (Component N)} (h : root <+: dir)
    (hpath : Component.up ∉ path) : root <+: resolve dir path := by
  induction path generalizing dir with
  | nil => exact h
  | cons c rest ih =>
      have hc : c ≠ .up := fun heq => hpath (heq ▸ List.mem_cons_self)
      exact ih (prefix_step h hc) fun hmem => hpath (List.mem_cons_of_mem c hmem)

/-- A path without `..` stays inside any root. -/
theorem inside_of_up_notMem {path : List (Component N)} (hpath : Component.up ∉ path)
    (root : List N) : Inside root path := by
  intro done hdone
  exact prefix_resolve (List.prefix_refl root) fun hmem => hpath (hdone.subset hmem)

end LexicalPath
