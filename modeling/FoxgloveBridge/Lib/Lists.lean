import Mathlib.Data.List.Forall2
import Mathlib.Data.List.Nodup
import Mathlib.Data.List.Perm.Basic

/-!
# Lists as queues and logs

What happens to the other elements when one is erased by its position, and logs
that are only appended to: their elements stay distinct as long as each new one is
new, and an entry of a log whose keys are distinct is the only one under its key.
`pick` is what a loop collects that decides about each element by what stands
before it. Two logs in step with one another are cut at the same places.
-/

namespace List

variable {α β : Type*}

/-- An element other than the one erased is still there. -/
theorem mem_eraseIdx_of_ne {l : List α} {i : Nat} {a b : α} (ha : a ∈ l) (hi : l[i]? = some b)
    (hne : a ≠ b) : a ∈ l.eraseIdx i := by
  obtain ⟨k, hk⟩ := getElem?_of_mem ha
  refine mem_eraseIdx_iff_getElem?.mpr ⟨k, ?_, hk⟩
  rintro rfl
  exact hne (Option.some.inj (hk.symm.trans hi))

theorem nodup_append_singleton {l : List α} {a : α} (h : l.Nodup) (ha : a ∉ l) :
    (l ++ [a]).Nodup := by
  rw [← concat_eq_append]
  exact h.concat ha

/-- An element that is not the new last one is where it was. -/
theorem getElem?_append_singleton_of_ne {l : List α} {a b : α} (hne : a ≠ b) (i : Nat) :
    (l ++ [a])[i]? = some b ↔ l[i]? = some b := by
  by_cases hlt : i < l.length
  · rw [getElem?_append_left hlt]
  · have hle : l.length ≤ i := by omega
    rw [getElem?_append_right hle, getElem?_eq_none hle, getElem?_singleton]
    split <;> simp [hne]

/-- A log that is appended to only if a condition holds. -/
theorem mem_ite_append_singleton {c : Prop} [Decidable c] {l : List α} {a b : α} :
    b ∈ (if c then l ++ [a] else l) ↔ b ∈ l ∨ (c ∧ b = a) := by
  split <;> simp [*]

/-- Replacing an element changes a count by that element only. -/
theorem countP_set_add {p : α → Bool} {l : List α} {i : Nat} {a : α} (h : l[i]? = some a) (b : α) :
    (l.set i b).countP p + (if p a then 1 else 0) = l.countP p + (if p b then 1 else 0) := by
  obtain ⟨hlt, rfl⟩ := getElem?_eq_some_iff.mp h
  have hle := boole_getElem_le_countP (p := p) hlt
  rw [countP_set hlt]
  omega

/-- Replacing an element leaves the others. -/
theorem eq_or_mem_set {l : List α} {i : Nat} {a b : α} (hi : l[i]? = some a) (hb : b ∈ l)
    (c : α) : b = a ∨ b ∈ l.set i c := by
  obtain ⟨j, hj⟩ := getElem?_of_mem hb
  by_cases hij : i = j
  · subst hij
    exact .inl (Option.some.inj (hj.symm.trans hi))
  · refine .inr (mem_of_getElem? (i := j) ?_)
    rw [getElem?_set_ne hij, hj]

/-- What a list loses with one element. -/
theorem count_map_eraseIdx [DecidableEq β] {l : List α} {i : Nat} {a : α} (h : l[i]? = some a)
    (f : α → β) (b : β) : ((l.eraseIdx i).map f).count b + [f a].count b = (l.map f).count b := by
  obtain ⟨hlt, rfl⟩ := getElem?_eq_some_iff.mp h
  have hperm := ((getElem_cons_eraseIdx_perm hlt).map f).count_eq b
  rw [map_cons, count_cons] at hperm
  rw [count_singleton]
  exact hperm

theorem count_erase_add [DecidableEq α] {l : List α} {a : α} (h : a ∈ l) (b : α) :
    (l.erase a).count b + [a].count b = l.count b := by
  have hperm := (perm_cons_erase h).count_eq b
  rw [count_cons] at hperm
  rw [count_singleton]
  exact hperm.symm

/-- One element before another, in a list with a new last element. -/
theorem pair_sublist_append_singleton {l : List α} {a b c : α} :
    [a, b] <+ l ++ [c] ↔ [a, b] <+ l ∨ (a ∈ l ∧ b = c) := by
  rw [sublist_append_iff]
  constructor
  · rintro ⟨l₁, l₂, heq, h₁, h₂⟩
    rcases sublist_singleton.mp h₂ with rfl | rfl
    · exact .inl (by simpa [heq] using h₁)
    · obtain ⟨rfl, rfl⟩ : l₁ = [a] ∧ c = b := by
        have hsplit : [a] ++ [b] = l₁ ++ [c] := heq
        obtain ⟨hl, hb⟩ := append_inj' hsplit rfl
        exact ⟨hl.symm, (cons.inj hb).1.symm⟩
      exact .inr ⟨singleton_sublist.mp h₁, rfl⟩
  · rintro (h | ⟨ha, rfl⟩)
    · exact ⟨[a, b], [], by simp, h, nil_sublist _⟩
    · exact ⟨[a], [b], rfl, singleton_sublist.mpr ha, Sublist.refl _⟩

/-- An entry is the only one under its key. -/
theorem filter_eq_singleton [DecidableEq α] {l : List (α × β)} (h : (l.map Prod.fst).Nodup)
    {a : α} {b : β} (hab : (a, b) ∈ l) : l.filter (fun p => p.1 = a) = [(a, b)] := by
  induction l with
  | nil => cases hab
  | cons p l ih =>
      obtain ⟨hp, hl⟩ := nodup_cons.mp h
      rcases mem_cons.mp hab with rfl | hmem
      · have hnone : l.filter (fun p => p.1 = a) = [] :=
          filter_eq_nil_iff.mpr fun q hq hqa =>
            hp (mem_map.mpr ⟨q, hq, of_decide_eq_true hqa⟩)
        simp [hnone]
      · have hne : p.1 ≠ a := fun hpa => hp (mem_map.mpr ⟨(a, b), hmem, hpa.symm⟩)
        simp [hne, ih hl hmem]

/-! ## Elements picked by what stands before them -/

/-- The elements of the list that `p` picks, given those before them; `seen` stands
before the whole list. -/
def pick (p : List α → α → Bool) : List α → List α → List α
  | _, [] => []
  | seen, a :: rest =>
      if p seen a then a :: pick p (seen ++ [a]) rest else pick p (seen ++ [a]) rest

section Pick

variable {p q : List α → α → Bool} {seen seen' l : List α}

theorem pick_congr (h : ∀ before a, p (seen ++ before) a = q (seen' ++ before) a) :
    pick p seen l = pick q seen' l := by
  induction l generalizing seen seen' with
  | nil => rfl
  | cons b l ih =>
      have hhead : p seen b = q seen' b := by simpa using h [] b
      have hrest : pick p (seen ++ [b]) l = pick q (seen' ++ [b]) l :=
        ih fun before a => by simpa using h (b :: before) a
      rw [pick, pick, hhead, hrest]

theorem mem_pick {a : α} :
    a ∈ pick p seen l ↔ ∃ before after, l = before ++ a :: after ∧ p (seen ++ before) a := by
  induction l generalizing seen with
  | nil => simp [pick]
  | cons b l ih =>
      have hsplit : (∃ before after, b :: l = before ++ a :: after ∧ p (seen ++ before) a) ↔
          (a = b ∧ p seen b = true) ∨ a ∈ pick p (seen ++ [b]) l := by
        rw [ih]
        constructor
        · rintro ⟨before, after, heq, hp⟩
          cases before with
          | nil =>
              obtain ⟨rfl, rfl⟩ := cons.inj heq
              exact .inl ⟨rfl, by simpa using hp⟩
          | cons c before =>
              obtain ⟨rfl, rfl⟩ := cons.inj heq
              exact .inr ⟨before, after, rfl, by simpa using hp⟩
        · rintro (⟨rfl, hp⟩ | ⟨before, after, rfl, hp⟩)
          · exact ⟨[], l, rfl, by simpa using hp⟩
          · exact ⟨b :: before, after, rfl, by simpa using hp⟩
      rw [hsplit, pick]
      split <;> simp_all

/-- A relation between the picked elements, read off the list itself. -/
theorem pairwise_pick {R : α → α → Prop} :
    (pick p seen l).Pairwise R ↔ ∀ before a between b after,
      l = before ++ a :: (between ++ b :: after) → p (seen ++ before) a →
        p (seen ++ before ++ a :: between) b → R a b := by
  induction l generalizing seen with
  | nil => simp [pick]
  | cons c l ih =>
      -- the first element is either the earlier of the two or before both
      have hsplit : (∀ before a between b after, c :: l = before ++ a :: (between ++ b :: after) →
          p (seen ++ before) a → p (seen ++ before ++ a :: between) b → R a b) ↔
          (p seen c = true → ∀ b ∈ pick p (seen ++ [c]) l, R c b) ∧
            (pick p (seen ++ [c]) l).Pairwise R := by
        rw [ih]
        constructor
        · intro h
          refine ⟨?_, ?_⟩
          · intro hc b hb
            obtain ⟨between, after, rfl, hpb⟩ := mem_pick.mp hb
            exact h [] c between b after rfl (by simpa using hc) (by simpa using hpb)
          · intro before a between b after heq ha hb
            exact h (c :: before) a between b after (by rw [heq]; rfl) (by simpa using ha)
              (by simpa using hb)
        · rintro ⟨hfirst, hrest⟩ before a between b after heq ha hb
          cases before with
          | nil =>
              obtain ⟨rfl, rfl⟩ := cons.inj heq
              exact hfirst (by simpa using ha) b
                (mem_pick.mpr ⟨between, after, rfl, by simpa using hb⟩)
          | cons d before =>
              obtain ⟨rfl, rfl⟩ := cons.inj heq
              exact hrest before a between b after rfl (by simpa using ha) (by simpa using hb)
      rw [hsplit, pick]
      split <;> simp_all

end Pick

/-- Every number of occurrences up to the last is passed. -/
theorem exists_count_eq_iff [DecidableEq α] {a : α} {k : Nat} {l : List α} :
    (∃ before after, l = before ++ a :: after ∧ before.count a = k) ↔ k < l.count a := by
  constructor
  · rintro ⟨before, after, rfl, rfl⟩
    simp
  · intro hk
    induction l generalizing k with
    | nil => simp at hk
    | cons b l ih =>
        by_cases hb : b = a
        · subst hb
          cases k with
          | zero => exact ⟨[], l, rfl, rfl⟩
          | succ k =>
              obtain ⟨before, after, rfl, rfl⟩ := ih (by simpa using hk)
              exact ⟨b :: before, after, rfl, by simp⟩
        · obtain ⟨before, after, rfl, rfl⟩ := ih (by simpa [hb] using hk)
          exact ⟨b :: before, after, rfl, by simp [hb]⟩

/-- Whoever has come to `b` along the list has passed what stands before it. -/
theorem mem_of_mem_takeWhile_ne [DecidableEq α] {l done : List α} {a b : α} (h : done <+: l)
    (hb : b ∈ done) (ha : a ∈ l.takeWhile fun x => decide (x ≠ b)) : a ∈ done := by
  obtain ⟨rest, rfl⟩ := h
  induction done with
  | nil => cases hb
  | cons x done ih =>
      rw [List.cons_append, List.takeWhile_cons] at ha
      split at ha
      · rename_i hne
        rcases List.mem_cons.mp ha with rfl | hmem
        · exact List.mem_cons_self
        · have hlater : b ∈ done := (List.mem_cons.mp hb).resolve_left fun heq => by
            simp [heq] at hne
          exact List.mem_cons_of_mem x (ih hlater hmem)
      · cases ha

/-- Of two lists in step with one another, one is cut where the other one is. -/
theorem Forall₂.exists_append {R : α → β → Prop} {as : List α} {bs cs : List β}
    (h : Forall₂ R as (bs ++ cs)) :
    ∃ as' as'', as = as' ++ as'' ∧ Forall₂ R as' bs ∧ Forall₂ R as'' cs :=
  ⟨_, _, (take_append_drop bs.length as).symm, forall₂_take_append as bs cs h,
    forall₂_drop_append as bs cs h⟩

end List
