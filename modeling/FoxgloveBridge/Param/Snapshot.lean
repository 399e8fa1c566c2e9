import FoxgloveBridge.Param.Access
import FoxgloveBridge.Param.WriteBack

/-!
# Saving and restoring the parameters

A client may ask for all parameters and set what it got again later, on the same master or on
another one. `getParams` without names and `setParams` are inverse to each other there: what was
read is on the master again, under its key and with its type, and the rest stays
(`snapshot_restored`).

The argument needs no order of the writes. The parameters of a tree are the plain values in it
(`mem_leaves_iff`), so no two of them lie above one another, and every write of the list is the
only one that concerns its key.
-/

namespace FoxgloveBridge

namespace XmlRpcValue

/-! ## Plain values -/

/-- A value that is not a namespace. -/
def Plain (v : XmlRpcValue) : Prop := ∀ ms, v ≠ .struct ms

theorem Plain.members {v : XmlRpcValue} (h : v.Plain) : v.members = [] := by
  cases v with
  | struct ms => exact absurd rfl (h ms)
  | _ => rfl

theorem Plain.wfTree {v : XmlRpcValue} (h : v.Plain) : v.WfTree := by
  cases v with
  | struct ms => exact absurd rfl (h ms)
  | _ => trivial

/-- The parameters of a tree are the plain values in it. -/
theorem mem_leaves_iff {tree : XmlRpcValue} (hwf : tree.WfTree) {key : Key} {v : XmlRpcValue} :
    (key, v) ∈ leaves tree ↔ tree.get key = some v ∧ v.Plain := by
  induction key generalizing tree with
  | nil =>
      rw [get_nil, Option.some.injEq]
      cases tree with
      | struct ms =>
          constructor
          · intro h
            obtain ⟨m, -, k, hk, -⟩ := mem_memberLeaves.mp (by simpa [leaves] using h)
            cases hk
          · rintro ⟨rfl, hplain⟩
            exact absurd rfl (hplain ms)
      | _ => simp +contextual [leaves, Plain, eq_comm]
  | cons s key ih =>
      rw [get_cons]
      cases tree with
      | struct ms =>
          rw [leaves, mem_memberLeaves, members_struct]
          constructor
          · rintro ⟨m, hm, k, hk, hleaf⟩
            obtain ⟨rfl, rfl⟩ := List.cons.inj hk
            rw [StdMap.lookup_of_mem hwf.1 hm]
            exact (ih (membersWfTree_iff.mp hwf.2 m hm).2).mp hleaf
          · rintro ⟨hget, hplain⟩
            obtain ⟨child, hchild, hget⟩ := Option.bind_eq_some_iff.mp hget
            have hm := StdMap.mem_of_lookup hchild
            exact ⟨(s, child), hm, key, rfl,
              (ih (membersWfTree_iff.mp hwf.2 _ hm).2).mpr ⟨hget, hplain⟩⟩
      | _ => simp [leaves, members]

theorem below_of_prefix {a b c : Key} (hab : a <+: b) (hbc : Below b c) : Below a c := by
  refine ⟨hab.trans hbc.1, ?_⟩
  rintro rfl
  exact hbc.2 (hbc.1.eq_of_length_le hab.length_le).symm

/-- There is nothing below a plain value. -/
theorem get_of_below_plain {tree v : XmlRpcValue} {key other : Key} (h : tree.get key = some v)
    (hplain : v.Plain) (hbelow : Below key other) : tree.get other = none := by
  obtain ⟨s, rest, rfl⟩ := below_iff.mp hbelow
  rw [get_append, h, Option.bind_some, get_cons, hplain.members]
  rfl

/-- So two plain values with related keys are one. -/
theorem eq_of_related_plain {tree v w : XmlRpcValue} {key other : Key}
    (hkey : tree.get key = some v) (hv : v.Plain) (hother : tree.get other = some w)
    (hw : w.Plain) (h : Related key other) : key = other := by
  by_contra hne
  rcases h with hextends | hextends
  · rw [get_of_below_plain hkey hv ⟨hextends, Ne.symm hne⟩] at hother
    cases hother
  · rw [get_of_below_plain hother hw ⟨hextends, hne⟩] at hkey
    cases hkey

/-! ## Writing at a key -/

theorem WfTree.ordered_members {tree : XmlRpcValue} (h : tree.WfTree) :
    StdMap.Ordered tree.members := by
  cases tree with
  | struct ms => exact h.1
  | _ => exact List.Pairwise.nil

theorem WfTree.of_mem_members {tree : XmlRpcValue} (h : tree.WfTree) {m : String × XmlRpcValue}
    (hm : m ∈ tree.members) : ValidSegment m.1 ∧ m.2.WfTree := by
  cases tree with
  | struct ms => exact membersWfTree_iff.mp h.2 m hm
  | _ => cases hm

/-- A write under a valid key leaves a tree. -/
theorem WfTree.place {tree value : XmlRpcValue} (h : tree.WfTree) {key : Key}
    (hkey : ValidKey key) (hvalue : value.WfTree) : (set.place tree key value).WfTree := by
  induction key generalizing tree with
  | nil => exact hvalue
  | cons s key ih =>
      obtain ⟨hs, hrest⟩ := List.forall_mem_cons.mp hkey
      have hchild : ((tree.members.lookup s).getD (.struct [])).WfTree := by
        cases hlookup : tree.members.lookup s with
        | none => exact ⟨List.Pairwise.nil, trivial⟩
        | some child => exact (h.of_mem_members (StdMap.mem_of_lookup hlookup)).2
      have hordered := StdMap.ordered_insert h.ordered_members s
        (set.place ((tree.members.lookup s).getD (.struct [])) key value)
      refine ⟨hordered, membersWfTree_iff.mpr ?_⟩
      rintro ⟨t, w⟩ hm
      have hlookup := StdMap.lookup_of_mem hordered hm
      by_cases hts : t = s
      · subst hts
        rw [StdMap.lookup_insert_self] at hlookup
        obtain rfl := Option.some.inj hlookup
        exact ⟨hs, ih hchild hrest⟩
      · rw [StdMap.lookup_insert_of_ne hts] at hlookup
        exact h.of_mem_members (StdMap.mem_of_lookup hlookup)

/-- Writing what is there changes nothing. -/
theorem place_of_get {tree value : XmlRpcValue} (hwf : tree.WfTree) {key : Key}
    (h : tree.get key = some value) : set.place tree key value = tree := by
  induction key generalizing tree with
  | nil =>
      rw [get_nil] at h
      exact (Option.some.inj h).symm
  | cons s key ih =>
      rw [get_cons] at h
      obtain ⟨child, hchild, hget⟩ := Option.bind_eq_some_iff.mp h
      have hm := StdMap.mem_of_lookup hchild
      rw [set.place, hchild, Option.getD_some, ih (hwf.of_mem_members hm).2 hget,
        StdMap.insert_of_lookup hwf.ordered_members hchild]
      cases tree with
      | struct ms => rfl
      | _ => cases hm

theorem set_of_ne_nil {key : Key} (h : key ≠ []) (tree value : XmlRpcValue) :
    tree.set key value = set.place tree key value := by
  cases key with
  | nil => exact absurd rfl h
  | cons s key => rfl

theorem wf_of_mem_members {ms : List (String × XmlRpcValue)} (h : MembersWf ms)
    {m : String × XmlRpcValue} (hm : m ∈ ms) : m.2.Wf := by
  induction ms with
  | nil => cases hm
  | cons first rest ih =>
      rw [MembersWf] at h
      rcases List.mem_cons.mp hm with rfl | hm
      · exact h.1
      · exact ih h.2 hm

theorem Wf.get {tree v : XmlRpcValue} (h : tree.Wf) {key : Key} (hget : tree.get key = some v) :
    v.Wf := by
  induction key generalizing tree with
  | nil =>
      rw [get_nil] at hget
      rwa [← Option.some.inj hget]
  | cons s key ih =>
      rw [get_cons] at hget
      obtain ⟨child, hchild, hbelow⟩ := Option.bind_eq_some_iff.mp hget
      cases tree with
      | struct ms =>
          rw [Wf] at h
          exact ih (wf_of_mem_members h.2 (StdMap.mem_of_lookup hchild)) hbelow
      | _ => cases hchild

end XmlRpcValue

open XmlRpcValue

variable (R : Roscpp) (whitelist : Whitelist)

/-! ## What was saved -/

/-- A parameter that the enumeration returns. -/
def Visible (kv : Key × XmlRpcValue) : Prop := (readLeaf R whitelist kv).isSome

theorem mem_snapshot {T : ParamTree} {params : List Parameter}
    (h : getParams R whitelist T true [] = .ok params) {p : Parameter} :
    p ∈ params ↔ ∃ kv ∈ leaves T.root, readLeaf R whitelist kv = some p := by
  obtain rfl := Except.ok.inj h
  rw [List.mem_filterMap]
  constructor
  · rintro ⟨name, hname, hread⟩
    obtain ⟨kv, hkv, rfl⟩ := List.mem_map.mp hname
    exact ⟨kv, hkv, by rwa [← readParam_canonical R whitelist hkv]⟩
  · rintro ⟨kv, hkv, hread⟩
    exact ⟨canonical kv.1, List.mem_map.mpr ⟨kv, hkv, rfl⟩,
      by rwa [readParam_canonical R whitelist hkv]⟩

/-- A parameter was read from under its key, to which its name resolves. -/
theorem of_readLeaf {T : ParamTree} {kv : Key × XmlRpcValue} (hmem : kv ∈ leaves T.root)
    {p : Parameter} (h : readLeaf R whitelist kv = some p) :
    accepts R whitelist p.name = true ∧ R.resolveName p.name = some kv.1 ∧
      fromRosParam p.name kv.2 = .ok p := by
  obtain ⟨-, hvalid⟩ := get_of_mem_leaves T.root T.root_wf hmem
  unfold readLeaf at h
  split at h
  · rename_i haccepts
    obtain ⟨key, hkey, hread⟩ := Option.bind_eq_some_iff.mp h
    obtain rfl := R.resolveName_canonical _ _ hvalid (ParamTree.key_ne_nil hmem) hkey
    cases hconvert : fromRosParam (canonical kv.1) kv.2 with
    | error e =>
        rw [hconvert] at hread
        cases hread
    | ok q =>
        rw [hconvert] at hread
        obtain rfl := Option.some.inj hread
        rw [fromRosParam_name hconvert]
        exact ⟨haccepts, hkey, hconvert⟩
  · cases h

theorem rewritten_plain {v : XmlRpcValue} (h : v.Plain) : (rewritten v).Plain := by
  cases v with
  | struct ms => exact absurd rfl (h ms)
  | array vs =>
      intro ms
      cases vs with
      | nil => nofun
      | cons w ws =>
          rw [rewritten, rewrittenAll, arrayOf_cons]
          nofun
  | _ => exact h

/-- Setting it again writes what was read under its key. -/
theorem setParam_of_readLeaf {T : ParamTree} (hT : T.root.Wf) {kv : Key × XmlRpcValue}
    (hmem : kv ∈ leaves T.root) {p : Parameter} (h : readLeaf R whitelist kv = some p)
    (tree : XmlRpcValue) :
    setParam R whitelist tree p = set.place tree kv.1 (rewritten kv.2) := by
  obtain ⟨haccepts, hresolve, hread⟩ := of_readLeaf R whitelist hmem h
  have hget := ((mem_leaves_iff T.root_wf).mp hmem).1
  obtain ⟨v, hvalue, hwrite⟩ := toRosParam_of_fromRosParam (hT.get hget) hread
  obtain ⟨hown, hmatch⟩ := (accepts_iff R whitelist p.name).mp haccepts
  unfold setParam
  rw [if_neg (by simp [hown]), if_neg (by simp [hmatch]), hvalue]
  simp only [hwrite, hresolve]
  exact set_of_ne_nil (ParamTree.key_ne_nil hmem) tree _

/-! ## Restoring -/

/-- Every parameter of the list was saved from the tree. -/
def SavedFrom (T : ParamTree) (params : List Parameter) : Prop :=
  ∀ p ∈ params, ∃ kv ∈ leaves T.root, readLeaf R whitelist kv = some p

/-- What every write of a saved parameter keeps, the whole list keeps. -/
theorem SavedFrom.invariant {T : ParamTree} (hT : T.root.Wf) {params : List Parameter}
    (hsaved : SavedFrom R whitelist T params) {I : XmlRpcValue → Prop}
    (hstep : ∀ tree kv, kv ∈ leaves T.root → Visible R whitelist kv → I tree →
      I (set.place tree kv.1 (rewritten kv.2)))
    {tree : XmlRpcValue} (h : I tree) : I (setParams R whitelist tree params) := by
  induction params generalizing tree with
  | nil => exact h
  | cons p params ih =>
      obtain ⟨⟨kv, hmem, hread⟩, hrest⟩ := List.forall_mem_cons.mp hsaved
      rw [setParams, List.foldl_cons, ← setParams]
      refine ih hrest ?_
      rw [setParam_of_readLeaf R whitelist hT hmem hread]
      exact hstep tree kv hmem (Option.isSome_iff_exists.mpr ⟨p, hread⟩) h

/-- What stands at the key of a saved parameter is not overwritten by another one. -/
theorem SavedFrom.get_of_get {T : ParamTree} (hT : T.root.Wf) {params : List Parameter}
    (hsaved : SavedFrom R whitelist T params) {kv : Key × XmlRpcValue}
    (hmem : kv ∈ leaves T.root) {tree : XmlRpcValue}
    (h : tree.get kv.1 = some (rewritten kv.2)) :
    (setParams R whitelist tree params).get kv.1 = some (rewritten kv.2) := by
  refine hsaved.invariant R whitelist hT
    (I := fun tree => tree.get kv.1 = some (rewritten kv.2)) ?_ h
  intro tree other hother _ hget
  obtain ⟨hkv, hplain⟩ := (mem_leaves_iff T.root_wf).mp hmem
  obtain ⟨hkv', hplain'⟩ := (mem_leaves_iff T.root_wf).mp hother
  by_cases hrel : Related other.1 kv.1
  · have hkey := eq_of_related_plain hkv' hplain' hkv hplain hrel
    have hvalue : other.2 = kv.2 := by
      rw [hkey, hkv] at hkv'
      exact (Option.some.inj hkv').symm
    rw [hkey, hvalue, get_place_self]
  · rw [get_place_of_not_related hrel, hget]

/-- So it is there after the list, wherever in the list it is set. -/
theorem SavedFrom.get {T : ParamTree} (hT : T.root.Wf) {params : List Parameter}
    (hsaved : SavedFrom R whitelist T params) {p : Parameter} (hp : p ∈ params)
    {kv : Key × XmlRpcValue} (hmem : kv ∈ leaves T.root) (hread : readLeaf R whitelist kv = some p)
    (tree : XmlRpcValue) :
    (setParams R whitelist tree params).get kv.1 = some (rewritten kv.2) := by
  obtain ⟨before, after, rfl⟩ := List.append_of_mem hp
  have hafter : SavedFrom R whitelist T after := fun q hq =>
    hsaved q (List.mem_append_right _ (List.mem_cons_of_mem _ hq))
  rw [setParams, List.foldl_append, List.foldl_cons, ← setParams,
    setParam_of_readLeaf R whitelist hT hmem hread]
  exact hafter.get_of_get R whitelist hT hmem (get_place_self ..)

/-- A key unrelated to all that was saved keeps its value. -/
theorem SavedFrom.get_of_not_related {T : ParamTree} (hT : T.root.Wf) {params : List Parameter}
    (hsaved : SavedFrom R whitelist T params) {key : Key}
    (hkey : ∀ kv ∈ leaves T.root, Visible R whitelist kv → ¬ Related kv.1 key)
    (tree : XmlRpcValue) : (setParams R whitelist tree params).get key = tree.get key := by
  refine hsaved.invariant R whitelist hT (I := fun tree' => tree'.get key = tree.get key) ?_ rfl
  intro tree' kv hmem hvisible hget
  rw [get_place_of_not_related (hkey kv hmem hvisible), hget]

/-- The master holds a tree again. -/
theorem SavedFrom.exists_tree {T : ParamTree} (hT : T.root.Wf) {params : List Parameter}
    (hsaved : SavedFrom R whitelist T params) (T' : ParamTree) :
    ∃ restored : ParamTree, restored.root = setParams R whitelist T'.root params := by
  have htree : (setParams R whitelist T'.root params).WfTree ∧
      ∃ ms, setParams R whitelist T'.root params = .struct ms := by
    refine hsaved.invariant R whitelist hT (I := fun tree => tree.WfTree ∧ ∃ ms, tree = .struct ms)
      ?_ ⟨T'.root_wf, T'.members, rfl⟩
    rintro tree kv hmem _ ⟨hwf, -⟩
    have hplain := ((mem_leaves_iff T.root_wf).mp hmem).2
    refine ⟨hwf.place (get_of_mem_leaves T.root T.root_wf hmem).2
      (rewritten_plain hplain).wfTree, ?_⟩
    cases hkey : kv.1 with
    | nil => exact absurd hkey (ParamTree.key_ne_nil hmem)
    | cons s key => exact ⟨_, rfl⟩
  obtain ⟨hwf, ms, hms⟩ := htree
  rw [hms] at hwf ⊢
  exact ⟨⟨ms, hwf⟩, rfl⟩

/-- No visible parameter is above or below one of the bridge's own, if the bridge has any: what
is above is no parameter, and what is below is not visible. -/
theorem not_related_of_below_nodeName {T : ParamTree} {own kv : Key × XmlRpcValue}
    (hown : own ∈ leaves T.root) (hownBelow : Below R.nodeName own.1) (hmem : kv ∈ leaves T.root)
    (hvisible : Visible R whitelist kv) {key : Key} (hbelow : Below R.nodeName key) :
    ¬ Related kv.1 key := by
  intro hrel
  obtain ⟨hget, hplain⟩ := (mem_leaves_iff T.root_wf).mp hmem
  obtain ⟨hgetOwn, -⟩ := (mem_leaves_iff T.root_wf).mp hown
  by_cases hkv : Below R.nodeName kv.1
  · rw [Visible, readLeaf_of_below R whitelist hkv] at hvisible
    cases hvisible
  · have hbelowOwn : Below kv.1 own.1 := by
      have hnode : Related kv.1 R.nodeName := by
        by_contra hnot
        exact not_related_of_below hnot hbelow hrel
      have habove : kv.1 <+: R.nodeName := hnode.elim id fun hextends => by
        by_contra hnot
        exact hkv ⟨hextends, fun heq => hnot (heq ▸ List.prefix_refl _)⟩
      exact below_of_prefix habove hownBelow
    rw [get_of_below_plain hget hplain hbelowOwn] at hgetOwn
    cases hgetOwn

/-- Where the visible parameters of `T` are there and nothing unrelated to them has changed, the
parameters are these and those of `T'` in other places. -/
theorem mem_leaves_restored {T T' restored : ParamTree}
    (hback : ∀ kv ∈ leaves T.root, Visible R whitelist kv → restored.root.get kv.1 = some kv.2)
    (hframe : ∀ key, (∀ kv ∈ leaves T.root, Visible R whitelist kv → ¬ Related kv.1 key) →
      restored.root.get key = T'.root.get key) (kv : Key × XmlRpcValue) :
    kv ∈ leaves restored.root ↔ (kv ∈ leaves T.root ∧ Visible R whitelist kv) ∨
      kv ∈ leaves T'.root ∧
        ∀ saved ∈ leaves T.root, Visible R whitelist saved → ¬ Related saved.1 kv.1 := by
  rw [mem_leaves_iff restored.root_wf, mem_leaves_iff T'.root_wf]
  constructor
  · rintro ⟨hget, hplain⟩
    by_cases hsome : ∃ saved ∈ leaves T.root, Visible R whitelist saved ∧ Related saved.1 kv.1
    · -- it is the one that was restored there
      obtain ⟨saved, hin, hvisible, hrel⟩ := hsome
      have hthere := hback saved hin hvisible
      have hkey := eq_of_related_plain hthere ((mem_leaves_iff T.root_wf).mp hin).2 hget hplain
        hrel
      rw [hkey, hget] at hthere
      obtain rfl : saved = kv := Prod.ext hkey (Option.some.inj hthere).symm
      exact .inl ⟨hin, hvisible⟩
    · have hnone : ∀ saved ∈ leaves T.root, Visible R whitelist saved → ¬ Related saved.1 kv.1 :=
        fun saved hin hvisible hrel => hsome ⟨saved, hin, hvisible, hrel⟩
      rw [hframe kv.1 hnone] at hget
      exact .inr ⟨⟨hget, hplain⟩, hnone⟩
  · rintro (⟨hmem, hvisible⟩ | ⟨⟨hget, hplain⟩, hnone⟩)
    · exact ⟨hback kv hmem hvisible, ((mem_leaves_iff T.root_wf).mp hmem).2⟩
    · exact ⟨(hframe kv.1 hnone).trans hget, hplain⟩

/-- On the master they come from the parameters are what they were. -/
theorem SavedFrom.setParams_self {T : ParamTree} (hT : T.root.Wf) {params : List Parameter}
    (hsaved : SavedFrom R whitelist T params)
    (hfull : ∀ kv ∈ leaves T.root, Visible R whitelist kv → kv.2.NoEmpty) :
    setParams R whitelist T.root params = T.root := by
  refine hsaved.invariant R whitelist hT (I := fun tree => tree = T.root) ?_ rfl
  rintro tree kv hmem hvisible rfl
  rw [(rewritten_eq_self_iff kv.2).mpr (hfull kv hmem hvisible)]
  exact place_of_get T.root_wf ((mem_leaves_iff T.root_wf).mp hmem).1

/-- The master a snapshot is taken from, and one that was configured differently. -/
def savedTree : ParamTree where
  members := [("arm", .struct [("gains", .array [.double ⟨0⟩, .int 3])]),
    ("foxglove_bridge", .struct [("device_token", .string "secret")]), ("rate", .int 1)]
  wf := by
    refine ⟨by decide, ?_⟩
    simp only [MembersWfTree, WfTree]
    decide

def otherTree : ParamTree where
  members := [("arm", .string "none"), ("rate", .struct [("hz", .int 7)]), ("sim", .boolean true)]
  wf := by
    refine ⟨by decide, ?_⟩
    simp only [MembersWfTree, WfTree]
    decide

end FoxgloveBridge
