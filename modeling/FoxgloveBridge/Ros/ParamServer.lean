import FoxgloveBridge.Ros.Names
import FoxgloveBridge.Ros.XmlRpc

/-!
# The parameter server

The master keeps parameters as one nested struct. `get`, `set` and `delete` act
on the value at a key, which is a whole subtree when the key is a namespace;
`leaves` is the enumeration behind `getParamNames`.

`prune ns` removes what lies below a namespace: two trees agree outside `ns` if
they are equal after pruning. The frame laws say that a key related to `ns` (one
is a namespace of the other) is the only way to observe or change what is below.
-/

namespace FoxgloveBridge

namespace XmlRpcValue

/-! ## Reading and writing a subtree -/

/-- `getParam`: the value at a key, a struct when the key is a namespace. -/
def get : XmlRpcValue → Key → Option XmlRpcValue
  | v, [] => some v
  | .struct ms, s :: key =>
      match ms.lookup s with
      | some v => v.get key
      | none => none
  | _, _ :: _ => none

/-- The members of a namespace; any other value has none. -/
def members : XmlRpcValue → List (String × XmlRpcValue)
  | .struct ms => ms
  | _ => []

/-- `setParam`: replace the subtree at a key, turning whatever stands on the way
into a namespace. The root can only be replaced by a struct. -/
def set (tree : XmlRpcValue) (key : Key) (value : XmlRpcValue) : XmlRpcValue :=
  match key with
  | [] =>
      match value with
      | .struct ms => .struct ms
      | _ => tree
  | key => place tree key value
where
  place (tree : XmlRpcValue) : Key → XmlRpcValue → XmlRpcValue
    | [], value => value
    | s :: key, value =>
        let child := (tree.members.lookup s).getD (.struct [])
        .struct (StdMap.insert s (place child key value) tree.members)

/-- `deleteParam`: remove the subtree at a key. Deleting the root or a key that
is not set is refused. -/
def delete : XmlRpcValue → Key → XmlRpcValue
  | tree, [] => tree
  | .struct ms, [s] => .struct (StdMap.erase s ms)
  | .struct ms, s :: t :: key =>
      match ms.lookup s with
      | some v => .struct (StdMap.insert s (v.delete (t :: key)) ms)
      | none => .struct ms
  | v, _ :: _ => v

@[simp] theorem members_struct (ms : List (String × XmlRpcValue)) : (struct ms).members = ms := rfl

@[simp] theorem get_nil (tree : XmlRpcValue) : tree.get [] = some tree := by
  cases tree <;> rfl

theorem get_cons (tree : XmlRpcValue) (s : String) (key : Key) :
    tree.get (s :: key) = (tree.members.lookup s).bind fun v => v.get key := by
  cases tree with
  | struct ms =>
      rw [get, members]
      cases ms.lookup s <;> rfl
  | _ => rfl

theorem get_append (tree : XmlRpcValue) (a b : Key) :
    tree.get (a ++ b) = (tree.get a).bind fun v => v.get b := by
  induction a generalizing tree with
  | nil => simp
  | cons s a ih =>
      rw [List.cons_append, get_cons, get_cons]
      cases tree.members.lookup s with
      | none => rfl
      | some v => simpa using ih v

theorem get_place_self (tree : XmlRpcValue) (key : Key) (value : XmlRpcValue) :
    (set.place tree key value).get key = some value := by
  induction key generalizing tree with
  | nil => simp [set.place]
  | cons s key ih => simp [set.place, get_cons, ih]

/-- Writing at `key` leaves every unrelated key alone. -/
theorem get_place_of_not_related {key other : Key} (h : ¬ Related key other)
    (tree value : XmlRpcValue) : (set.place tree key value).get other = tree.get other := by
  induction key generalizing tree other with
  | nil => exact absurd (related_nil_left other) h
  | cons s key ih =>
      cases other with
      | nil => exact absurd (related_nil_right _) h
      | cons t other =>
          simp only [set.place, get_cons, members_struct]
          by_cases hst : t = s
          · subst hst
            have hrest : ¬ Related key other := fun hr => h (related_cons_cons.mpr ⟨rfl, hr⟩)
            rw [StdMap.lookup_insert_self, Option.bind_some, ih hrest]
            cases tree.members.lookup t with
            | none =>
                cases other with
                | nil => exact absurd (related_nil_right _) hrest
                | cons u other => simp [get_cons]
            | some v => rfl
          · rw [StdMap.lookup_insert_of_ne hst]

/-- A write that happens puts the value at its key. -/
theorem get_set_self {key : Key} {value : XmlRpcValue}
    (h : key ≠ [] ∨ ∃ ms, value = .struct ms) (tree : XmlRpcValue) :
    (tree.set key value).get key = some value := by
  cases key with
  | nil =>
      obtain ⟨ms, rfl⟩ : ∃ ms, value = .struct ms := h.resolve_left (by simp)
      simp [set]
  | cons s key => exact get_place_self tree (s :: key) value

theorem get_set_of_not_related {key other : Key} (h : ¬ Related key other)
    (tree value : XmlRpcValue) : (tree.set key value).get other = tree.get other := by
  cases key with
  | nil => exact absurd (related_nil_left other) h
  | cons s key => exact get_place_of_not_related h tree value

/-- Nothing is left at a deleted key. -/
theorem get_delete_self {key : Key} (h : key ≠ []) (tree : XmlRpcValue) :
    (tree.delete key).get key = none := by
  induction key generalizing tree with
  | nil => exact absurd rfl h
  | cons s key ih =>
      cases tree with
      | struct ms =>
          cases key with
          | nil => simp [delete, get_cons]
          | cons t key =>
              rw [delete]
              cases hs : ms.lookup s with
              | none => simp [get_cons, hs]
              | some v => simpa [get_cons] using ih (by simp) v
      | _ => simp [delete, get_cons, members]

theorem get_delete_of_not_related {key other : Key} (h : ¬ Related key other)
    (tree : XmlRpcValue) : (tree.delete key).get other = tree.get other := by
  induction key generalizing tree other with
  | nil => exact absurd (related_nil_left other) h
  | cons s key ih =>
      cases other with
      | nil => exact absurd (related_nil_right _) h
      | cons t other =>
          cases tree with
          | struct ms =>
              cases key with
              | nil =>
                  have hts : t ≠ s := by
                    rintro rfl
                    exact h (related_cons_cons.mpr ⟨rfl, related_nil_left _⟩)
                  simp [delete, get_cons, StdMap.lookup_erase_of_ne hts]
              | cons u key =>
                  rw [delete]
                  cases hs : ms.lookup s with
                  | none => rfl
                  | some v =>
                      simp only [get_cons, members_struct]
                      by_cases hts : t = s
                      · subst hts
                        have hrest : ¬ Related (u :: key) other := fun hr =>
                          h (related_cons_cons.mpr ⟨rfl, hr⟩)
                        rw [StdMap.lookup_insert_self, hs, Option.bind_some, Option.bind_some,
                          ih hrest]
                      · rw [StdMap.lookup_insert_of_ne hts]
          | _ => simp [delete]

/-- The tree that holds one value, at `key`. -/
def single : Key → XmlRpcValue → XmlRpcValue
  | [], v => v
  | s :: key, v => .struct [(s, single key v)]

theorem get_single_append (a b : Key) (v : XmlRpcValue) :
    (single (a ++ b) v).get a = some (single b v) := by
  induction a with
  | nil => simp
  | cons s a ih => simpa [single, get_cons] using ih

@[simp] theorem get_single (key : Key) (v : XmlRpcValue) : (single key v).get key = some v := by
  simpa [single] using get_single_append key [] v

/-! ## Enumerating the parameters -/

mutual

/-- The parameters of a tree with their keys: everything that is not a
namespace. -/
def leaves : XmlRpcValue → List (Key × XmlRpcValue)
  | .struct ms => memberLeaves ms
  | v => [([], v)]

def memberLeaves : List (String × XmlRpcValue) → List (Key × XmlRpcValue)
  | [] => []
  | (s, v) :: ms => (leaves v).map (fun kv => (s :: kv.1, kv.2)) ++ memberLeaves ms

end

mutual

/-- Namespaces list their members in key order, under valid segments. -/
def WfTree : XmlRpcValue → Prop
  | .struct ms => StdMap.Ordered ms ∧ MembersWfTree ms
  | _ => True

def MembersWfTree : List (String × XmlRpcValue) → Prop
  | [] => True
  | (s, v) :: ms => ValidSegment s ∧ v.WfTree ∧ MembersWfTree ms

end

theorem membersWfTree_iff {ms : List (String × XmlRpcValue)} :
    MembersWfTree ms ↔ ∀ m ∈ ms, ValidSegment m.1 ∧ m.2.WfTree := by
  induction ms with
  | nil => simp [MembersWfTree]
  | cons m ms ih => simp [MembersWfTree, ih, and_assoc]

theorem mem_memberLeaves {ms : List (String × XmlRpcValue)} {key : Key} {v : XmlRpcValue} :
    (key, v) ∈ memberLeaves ms ↔
      ∃ m ∈ ms, ∃ k, key = m.1 :: k ∧ (k, v) ∈ leaves m.2 := by
  induction ms with
  | nil => simp [memberLeaves]
  | cons m ms ih =>
      simp only [memberLeaves, List.mem_append, ih, List.mem_map, Prod.mk.injEq, Prod.exists,
        List.mem_cons, exists_eq_or_imp]
      aesop

mutual

/-- A listed parameter is read back under its key. -/
theorem get_of_mem_leaves (tree : XmlRpcValue) (hwf : tree.WfTree) {key : Key} {v : XmlRpcValue}
    (h : (key, v) ∈ leaves tree) : tree.get key = some v ∧ ValidKey key :=
  match tree with
  | .struct ms => by
      obtain ⟨m, hm, k, rfl, hget, hvalid⟩ :=
        of_mem_memberLeaves ms hwf.2 (by simpa [leaves] using h)
      rw [get_cons, members_struct, StdMap.lookup_of_mem hwf.1 hm]
      exact ⟨hget, hvalid⟩
  | .invalid | .boolean _ | .int _ | .double _ | .string _ | .dateTime _ | .base64 _
  | .array _ => by
      obtain ⟨rfl, rfl⟩ : key = [] ∧ v = _ := by simpa [leaves] using h
      simp [ValidKey]

theorem of_mem_memberLeaves (ms : List (String × XmlRpcValue)) (hwf : MembersWfTree ms)
    {key : Key} {v : XmlRpcValue} (h : (key, v) ∈ memberLeaves ms) :
    ∃ m ∈ ms, ∃ k, key = m.1 :: k ∧ m.2.get k = some v ∧ ValidKey (m.1 :: k) :=
  match ms with
  | [] => by simp [memberLeaves] at h
  | (s, w) :: ms => by
      obtain ⟨hs, hw, hms⟩ := hwf
      rcases List.mem_append.mp h with h | h
      · obtain ⟨⟨k, u⟩, hmem, heq⟩ := List.mem_map.mp h
        obtain ⟨rfl, rfl⟩ := Prod.mk.inj heq
        obtain ⟨hget, hk⟩ := get_of_mem_leaves w hw hmem
        exact ⟨(s, w), List.mem_cons_self, k, rfl, hget, List.forall_mem_cons.mpr ⟨hs, hk⟩⟩
      · obtain ⟨m, hm, rest⟩ := of_mem_memberLeaves ms hms h
        exact ⟨m, List.mem_cons_of_mem _ hm, rest⟩

end

/-! ## What lies outside a namespace -/

/-- The members of a struct with the member `s` replaced by `f` of it, or
dropped. -/
def pruneMember (s : String) (f : XmlRpcValue → Option XmlRpcValue)
    (ms : List (String × XmlRpcValue)) : List (String × XmlRpcValue) :=
  ms.filterMap fun m => if m.1 = s then (f m.2).map (Prod.mk m.1) else some m

/-- The tree without what lies below the namespace `ns`, and without the
namespaces on the way to it that held nothing else. A plain value at `ns` is a
parameter of its own and stays. -/
def prune : Key → XmlRpcValue → Option XmlRpcValue
  | [], .struct _ => none
  | s :: ns, .struct ms =>
      match pruneMember s (prune ns) ms with
      | [] => none
      | m :: kept => some (.struct (m :: kept))
  | _, v => some v

/-- Two trees agree everywhere except below `ns`. -/
def AgreeOutside (ns : Key) (tree tree' : XmlRpcValue) : Prop := tree.prune ns = tree'.prune ns

theorem lookup_pruneMember_of_ne {s t : String} (h : t ≠ s)
    (f : XmlRpcValue → Option XmlRpcValue) (ms : List (String × XmlRpcValue)) :
    (pruneMember s f ms).lookup t = ms.lookup t := by
  induction ms with
  | nil => rfl
  | cons m ms ih =>
      obtain ⟨u, v⟩ := m
      rw [pruneMember, List.filterMap_cons] at *
      by_cases hu : u = s
      · subst hu
        rw [StdMap.lookup_cons_if, if_neg h, ← ih]
        cases hf : f v with
        | none => simp
        | some w => simp [StdMap.lookup_cons_if, h]
      · simp only [hu, if_false, StdMap.lookup_cons_if, ih]

theorem lookup_pruneMember_self {s : String} {ms : List (String × XmlRpcValue)}
    (h : StdMap.Ordered ms) (f : XmlRpcValue → Option XmlRpcValue) :
    (pruneMember s f ms).lookup s = (ms.lookup s).bind f := by
  induction ms with
  | nil => rfl
  | cons m ms ih =>
      obtain ⟨u, v⟩ := m
      obtain ⟨hfirst, hrest⟩ := List.pairwise_cons.mp h
      have ih := ih hrest
      rw [pruneMember, List.filterMap_cons] at *
      by_cases hu : u = s
      · subst hu
        -- the key occurs once, so nothing of it is left further on
        have hnone : ms.lookup u = none := by
          rw [List.lookup_eq_none_iff]
          intro entry he
          simpa using (hfirst entry he).ne
        cases hf : f v with
        | none => simpa [hf, hnone] using ih
        | some w => simp [hf]
      · simp only [hu, if_false, StdMap.lookup_cons_if, Ne.symm hu, ih]

/-- A key that is neither above nor below the namespace sees the same subtree
after pruning. -/
theorem get_prune {ns key : Key} (h : ¬ Related ns key) {tree : XmlRpcValue} (hwf : tree.WfTree) :
    (tree.prune ns).bind (fun v => v.get key) = tree.get key := by
  induction ns generalizing tree key with
  | nil => exact absurd (related_nil_left key) h
  | cons s ns ih =>
      cases key with
      | nil => exact absurd (related_nil_right _) h
      | cons t key =>
          cases tree with
          | struct ms =>
              have hkept : (((struct ms).prune (s :: ns)).bind fun v => v.get (t :: key)) =
                  ((pruneMember s (prune ns) ms).lookup t).bind fun v => v.get key := by
                rw [prune]
                cases pruneMember s (prune ns) ms with
                | nil => rfl
                | cons m kept => rw [Option.bind_some, get_cons, members_struct]
              rw [hkept, get_cons, members_struct]
              by_cases hts : t = s
              · subst hts
                rw [lookup_pruneMember_self hwf.1]
                cases hv : ms.lookup t with
                | none => rfl
                | some v =>
                    have hvwf := (membersWfTree_iff.mp hwf.2 _ (StdMap.mem_of_lookup hv)).2
                    exact ih (fun hr => h (related_cons_cons.mpr ⟨rfl, hr⟩)) hvwf
              · rw [lookup_pruneMember_of_ne hts]
          | _ => rfl

/-- Outside, agreeing trees hold the same subtrees. -/
theorem AgreeOutside.get_eq {ns key : Key} {tree tree' : XmlRpcValue}
    (h : AgreeOutside ns tree tree') (hwf : tree.WfTree) (hwf' : tree'.WfTree)
    (hkey : ¬ Related ns key) : tree.get key = tree'.get key := by
  rw [← get_prune hkey hwf, ← get_prune hkey hwf', h]

theorem memberLeaves_pruneMember {s : String} {ns : Key}
    (ih : ∀ tree : XmlRpcValue, ((tree.prune ns).elim [] leaves) =
      (leaves tree).filter fun kv => ¬ Below ns kv.1)
    (ms : List (String × XmlRpcValue)) :
    memberLeaves (pruneMember s (prune ns) ms) =
      (memberLeaves ms).filter fun kv => ¬ Below (s :: ns) kv.1 := by
  induction ms with
  | nil => rfl
  | cons m ms ihms =>
      obtain ⟨u, v⟩ := m
      rw [pruneMember, List.filterMap_cons] at *
      rw [memberLeaves, List.filter_append, ← ihms, List.filter_map]
      by_cases hu : u = s
      · subst hu
        have hbelow : ((fun kv : Key × XmlRpcValue => decide ¬ Below (u :: ns) kv.1) ∘
            fun kv : Key × XmlRpcValue => (u :: kv.1, kv.2)) =
              fun kv => decide ¬ Below ns kv.1 := by
          funext kv
          simp [below_cons_cons]
        rw [hbelow, ← ih v]
        cases v.prune ns with
        | none => simp
        | some w => simp [memberLeaves]
      · have hbelow : ((fun kv : Key × XmlRpcValue => decide ¬ Below (s :: ns) kv.1) ∘
            fun kv : Key × XmlRpcValue => (u :: kv.1, kv.2)) = fun _ => true := by
          funext kv
          simp [below_cons_cons, Ne.symm hu]
        rw [hbelow, List.filter_true]
        simp [hu, memberLeaves]

/-- Pruning drops exactly the parameters below the namespace from the
enumeration. -/
theorem leaves_prune (ns : Key) (tree : XmlRpcValue) :
    ((tree.prune ns).elim [] leaves) = (leaves tree).filter fun kv => ¬ Below ns kv.1 := by
  induction ns generalizing tree with
  | nil =>
      cases tree with
      | struct ms =>
          have hbelow : ∀ kv ∈ leaves (struct ms), Below [] kv.1 := by
            rintro ⟨key, v⟩ hmem
            obtain ⟨m, -, k, rfl, -⟩ := mem_memberLeaves.mp (by simpa [leaves] using hmem)
            exact below_iff.mpr ⟨m.1, k, rfl⟩
          simpa [prune, List.filter_eq_nil_iff] using hbelow
      | _ => simp [prune, leaves, Below]
  | cons s ns ih =>
      cases tree with
      | struct ms =>
          rw [prune, leaves, ← memberLeaves_pruneMember ih]
          cases pruneMember s (prune ns) ms with
          | nil => rfl
          | cons m kept => simp [leaves]
      | _ => simp [prune, leaves, Below]

/-- A tree that holds one parameter, below `ns`, holds nothing outside. -/
theorem prune_single {ns key : Key} (h : Below ns key) (v : XmlRpcValue) :
    (single key v).prune ns = none := by
  obtain ⟨s, rest, rfl⟩ := below_iff.mp h
  clear h
  induction ns with
  | nil => rfl
  | cons t ns ih => simp [single, prune, pruneMember, ih]

/-- Neither does one that holds an empty namespace, at `ns` or above. -/
theorem prune_single_namespace {ns key : Key} (h : key <+: ns) :
    (single key (.struct [])).prune ns = none := by
  obtain ⟨rest, rfl⟩ := h
  induction key with
  | nil =>
      cases rest with
      | nil => rfl
      | cons t rest => simp [single, prune, pruneMember]
  | cons t key ih => simp [single, prune, pruneMember, ih]

theorem wfTree_single {key : Key} (h : ValidKey key) {v : XmlRpcValue} (hv : v.WfTree) :
    (single key v).WfTree := by
  induction key with
  | nil => exact hv
  | cons s key ih =>
      have hkey : ValidKey key := fun t ht => h t (List.mem_cons_of_mem _ ht)
      exact ⟨List.pairwise_singleton _ _, h s List.mem_cons_self, ih hkey, trivial⟩

/-- All there is to read in a tree that holds one plain value is that value, or
namespaces on the way to it. -/
theorem get_single_eq_some {key other : Key} {i : Int32} {x : XmlRpcValue}
    (h : (single key (.int i)).get other = some x) :
    ∃ rest, key = other ++ rest ∧ x = single rest (.int i) := by
  induction other generalizing key with
  | nil => exact ⟨key, rfl, by simpa using h.symm⟩
  | cons t other ih =>
      cases key with
      | nil => simp [single, get_cons, members] at h
      | cons s key =>
          rw [single, get_cons, members_struct, StdMap.lookup_cons_if] at h
          by_cases hts : t = s
          · subst hts
            obtain ⟨rest, rfl, hx⟩ := ih (by simpa using h)
            exact ⟨rest, rfl, hx⟩
          · simp [hts] at h

end XmlRpcValue

/-! ## The state of the master -/

/-- A parameter server: a namespace whose names are valid segments, each held
once. -/
structure ParamTree where
  members : List (String × XmlRpcValue)
  wf : (XmlRpcValue.struct members).WfTree

/-- The whole tree as one value. -/
def ParamTree.root (T : ParamTree) : XmlRpcValue := .struct T.members

theorem ParamTree.root_wf (T : ParamTree) : T.root.WfTree := T.wf

/-- The parameters of the master are never its root. -/
theorem ParamTree.key_ne_nil {T : ParamTree} {kv : Key × XmlRpcValue}
    (h : kv ∈ XmlRpcValue.leaves T.root) : kv.1 ≠ [] := by
  obtain ⟨m, -, key, hkey, -⟩ :=
    XmlRpcValue.mem_memberLeaves.mp (show kv ∈ XmlRpcValue.memberLeaves T.members from h)
  rw [hkey]
  exact List.cons_ne_nil _ _

/-- The parameter server that holds one value. -/
theorem ParamTree.exists_single {key : Key} (h : ValidKey key) {v : XmlRpcValue} (hv : v.WfTree)
    (hroot : key ≠ [] ∨ v = .struct []) : ∃ T : ParamTree, T.root = .single key v := by
  cases key with
  | nil =>
      obtain rfl := hroot.resolve_left (by simp)
      exact ⟨⟨[], hv⟩, rfl⟩
  | cons s key => exact ⟨⟨_, XmlRpcValue.wfTree_single h hv⟩, rfl⟩

end FoxgloveBridge
