import Mathlib.Data.List.AList

/-!
# Unordered maps

A `std::unordered_map` is an `AList`: its elements in iteration order, with
distinct keys. What Mathlib has is used as it is; added here are the two
operations the bridge's loops need, erasing while iterating (`filter`) and the
insertion that keeps an existing element (`emplace`).
-/

/-- A map of keys to values in some iteration order. -/
abbrev UnorderedMap (K V : Type*) := AList fun _ : K => V

namespace UnorderedMap

variable {K V : Type*}

/-- Keep the elements that satisfy `p`. -/
def filter (p : K → V → Bool) (m : UnorderedMap K V) : UnorderedMap K V where
  entries := m.entries.filter fun e => p e.1 e.2
  nodupKeys := m.nodupKeys.sublist List.filter_sublist

theorem filter_eq_self {p : K → V → Bool} {m : UnorderedMap K V}
    (h : ∀ e ∈ m.entries, p e.1 e.2 = true) : filter p m = m :=
  AList.ext (List.filter_eq_self.mpr h)

variable [DecidableEq K]

/-- Insert, unless the key is there already. -/
def emplace (key : K) (value : V) (m : UnorderedMap K V) : UnorderedMap K V :=
  if key ∈ m then m else m.insert key value

theorem lookup_eq_some_iff {key : K} {value : V} {m : UnorderedMap K V} :
    m.lookup key = some value ↔ ⟨key, value⟩ ∈ m.entries :=
  AList.mem_lookup_iff

theorem lookup_filter_eq_some_iff {p : K → V → Bool} {m : UnorderedMap K V} {key : K} {value : V} :
    (filter p m).lookup key = some value ↔ m.lookup key = some value ∧ p key value = true := by
  rw [lookup_eq_some_iff, lookup_eq_some_iff, filter, List.mem_filter]

theorem mem_iff_lookup {key : K} {m : UnorderedMap K V} :
    key ∈ m ↔ ∃ value, m.lookup key = some value := by
  rw [← AList.lookup_isSome, Option.isSome_iff_exists]

theorem emplace_of_notMem {key : K} {m : UnorderedMap K V} (h : key ∉ m) (value : V) :
    emplace key value m = m.insert key value :=
  if_neg h

theorem mem_emplace {key other : K} {value : V} {m : UnorderedMap K V} :
    other ∈ emplace key value m ↔ other = key ∨ other ∈ m := by
  unfold emplace
  split
  · rename_i hmem
    refine ⟨.inr, fun h => h.elim (fun heq => heq ▸ hmem) id⟩
  · rw [AList.mem_insert]

theorem lookup_emplace_of_ne {key other : K} (h : other ≠ key) (value : V) (m : UnorderedMap K V) :
    (emplace key value m).lookup other = m.lookup other := by
  unfold emplace
  split
  · rfl
  · exact AList.lookup_insert_ne h

/-- What an `emplace` under a new key adds. -/
theorem lookup_emplace_cases {key other : K} {value v : V} {m : UnorderedMap K V} (hnew : key ∉ m)
    (h : (emplace key value m).lookup other = some v) :
    (other = key ∧ v = value) ∨ (other ≠ key ∧ m.lookup other = some v) := by
  by_cases heq : other = key
  · subst heq
    rw [emplace_of_notMem hnew, AList.lookup_insert] at h
    exact .inl ⟨rfl, (Option.some.inj h).symm⟩
  · rw [lookup_emplace_of_ne heq] at h
    exact .inr ⟨heq, h⟩

/-- What was there before an `emplace` is there afterwards. -/
theorem lookup_emplace_of_lookup {key other : K} {value v : V} {m : UnorderedMap K V}
    (h : m.lookup other = some v) : (emplace key value m).lookup other = some v := by
  unfold emplace
  split
  · exact h
  · rename_i hnot
    have hne : other ≠ key := by
      rintro rfl
      exact hnot (mem_iff_lookup.mpr ⟨v, h⟩)
    rw [AList.lookup_insert_ne hne, h]

/-- The keys are distinct, so that erasing one is a filter. -/
theorem erase_eq_filter (key : K) (m : UnorderedMap K V) :
    m.erase key = filter (fun k _ => decide (k ≠ key)) m := by
  obtain ⟨entries, hnodup⟩ := m
  apply AList.ext
  show List.kerase key entries = entries.filter fun e => decide (e.1 ≠ key)
  induction entries with
  | nil => rfl
  | cons e rest ih =>
      rw [List.nodupKeys_cons] at hnodup
      by_cases hkey : key = e.1
      · rw [List.kerase_cons_eq hkey, List.filter_cons_of_neg (by simp [hkey]), eq_comm,
          List.filter_eq_self]
        intro other hother
        have hmem : other.1 ∈ rest.keys := List.mem_keys_of_mem hother
        refine decide_eq_true fun heq => hnodup.1 ?_
        rwa [← hkey, ← heq]
      · have hne : e.1 ≠ key := Ne.symm hkey
        rw [List.kerase_cons_ne hkey, List.filter_cons_of_pos (by simp [hne]), ih hnodup.2]

theorem filter_erase (p : K → V → Bool) (key : K) (m : UnorderedMap K V) :
    filter p (m.erase key) = filter (fun k v => p k v && decide (k ≠ key)) m := by
  rw [erase_eq_filter]
  exact AList.ext List.filter_filter

end UnorderedMap
