import FoxgloveBridge.Param.Conversion
import FoxgloveBridge.Ros.ParamServer
import FoxgloveBridge.Utils

/-!
# Reading and writing parameters

`Ros1ParameterInterface::getParams` and `setParams`. Both guard the bridge's own
parameters by comparing the *raw* name a client sends with the textual prefix
`<node name>/`; the value is then read or written under the key that name
*resolves* to, and a key stands for the whole subtree below it. So the guard
covers exactly the names that spell the prefix out.

`Confidential` and `Protected` are the two properties the guard is there for.
Each holds precisely when no name that passes the guard and the whitelist
resolves to a key related to the node's namespace: the namespace itself, one of
its ancestors, or a key below it.
-/

namespace FoxgloveBridge

open XmlRpcValue

variable (R : Roscpp) (whitelist : Whitelist)

/-- `_ownNamespacePrefix`. -/
def ownNamespacePrefix : String := R.getName ++ "/"

/-- `isOwnParameter`: the name starts with the prefix. -/
def isOwnParameter (name : String) : Bool :=
  name.toList.take (ownNamespacePrefix R).toList.length == (ownNamespacePrefix R).toList

/-- The two tests every read, write and subscription starts with. -/
def accepts (name : String) : Bool :=
  !isOwnParameter R name && matchesRegex name whitelist

/-! ## The two operations -/

/-- `NodeHandle::getParamNames`: the canonical names of all parameters, unless
the master does not answer. -/
def getParamNames (T : ParamTree) (reachable : Bool) : Option (List String) :=
  if reachable then some ((leaves T.root).map fun kv => canonical kv.1) else none

/-- `NodeHandle::getParam`. Failing to resolve the name throws. -/
def getParam (T : ParamTree) (reachable : Bool) (name : String) :
    Except String (Option XmlRpcValue) :=
  match R.resolveName name with
  | none => .error "Invalid name"
  | some key => .ok (if reachable then T.root.get key else none)

/-- The body of the loop in `getParams`: the parameter pushed for one name. -/
def readParam (T : ParamTree) (reachable : Bool) (name : String) : Option Parameter :=
  if isOwnParameter R name then none
  else if !matchesRegex name whitelist then none
  else
    match getParam R T reachable name with
    | .error _ => none
    | .ok none => none
    | .ok (some value) =>
        match fromRosParam name value with
        | .error _ => none
        | .ok param => some param

/-- `Ros1ParameterInterface::getParams`. -/
def getParams (T : ParamTree) (reachable : Bool) (paramNames : List String) :
    Except String (List Parameter) :=
  if paramNames = [] then
    match getParamNames T reachable with
    | none => .error "Failed to retrieve parameter names from the master"
    | some names => .ok (names.filterMap (readParam R whitelist T reachable))
  else .ok (paramNames.filterMap (readParam R whitelist T reachable))

/-- The body of the loop in `setParams`. A name that does not resolve and a value
that does not convert both throw, which leaves the tree as it is. -/
def setParam (tree : XmlRpcValue) (param : Parameter) : XmlRpcValue :=
  if isOwnParameter R param.name then tree
  else if !matchesRegex param.name whitelist then tree
  else
    match param.value with
    | none =>
        match R.resolveName param.name with
        | none => tree
        | some key => tree.delete key
    | some v =>
        match toRosParam v param.type 0 with
        | .error _ => tree
        | .ok value =>
            match R.resolveName param.name with
            | none => tree
            | some key => tree.set key value

/-- `Ros1ParameterInterface::setParams`. -/
def setParams (tree : XmlRpcValue) (params : List Parameter) : XmlRpcValue :=
  params.foldl (setParam R whitelist) tree

/-! ## Names below the node's namespace -/

theorem isOwnParameter_iff (name : String) :
    isOwnParameter R name = true ↔ (ownNamespacePrefix R).toList <+: name.toList := by
  rw [isOwnParameter, beq_iff_eq, List.prefix_iff_eq_take, eq_comm]

theorem accepts_iff (name : String) : accepts R whitelist name = true ↔
    isOwnParameter R name = false ∧ matchesRegex name whitelist = true := by
  simp [accepts]

/-- The guard catches the canonical name of everything below the namespace. -/
theorem isOwnParameter_canonical {key : Key} (h : Below R.nodeName key) :
    isOwnParameter R (canonical key) = true := by
  obtain ⟨s, rest, rfl⟩ := below_iff.mp h
  rw [isOwnParameter_iff, canonical_of_ne_nil (by simp), ownNamespacePrefix, Roscpp.getName,
    canonical_of_ne_nil R.nodeName_ne_nil, pathText_append]
  exact ⟨s.toList ++ (pathText rest).toList, by simp [pathText]⟩

/-- Two keys above one and the same key are related. -/
theorem related_of_above {a b c : Key} (ha : a <+: c) (hb : b <+: c) : Related a b :=
  List.prefix_or_prefix_of_prefix ha hb

/-- What is unrelated to a namespace is unrelated to everything below it. -/
theorem not_related_of_below {key ns other : Key} (h : ¬ Related key ns) (hb : Below ns other) :
    ¬ Related key other := by
  rintro (hk | hk)
  · exact h (related_of_above hk hb.1)
  · exact h (.inr (hb.1.trans hk))

/-- A key below the namespace `ns` that is `key` itself or below it. -/
def witnessBelow (ns key : Key) : Key := if key <+: ns then ns ++ ["x"] else key

theorem witnessBelow_spec {ns key : Key} (h : Related key ns) :
    Below ns (witnessBelow ns key) ∧ key <+: witnessBelow ns key := by
  unfold witnessBelow
  split
  · rename_i hkey
    exact ⟨below_iff.mpr ⟨"x", [], rfl⟩, hkey.trans (List.prefix_append _ _)⟩
  · rename_i hkey
    exact ⟨⟨h.resolve_left hkey, fun heq => hkey (heq ▸ List.prefix_refl _)⟩, List.prefix_refl _⟩

/-! ## Confidentiality -/

/-- What one accepted name yields, as a chain of the three ways to yield
nothing. -/
theorem readParam_eq (T : ParamTree) (reachable : Bool) (name : String) :
    readParam R whitelist T reachable name =
      if accepts R whitelist name then
        (R.resolveName name).bind fun key =>
          (if reachable then T.root.get key else none).bind fun value =>
            (fromRosParam name value).toOption
      else none := by
  unfold readParam getParam accepts
  cases isOwnParameter R name with
  | true => rfl
  | false =>
      cases matchesRegex name whitelist with
      | false => rfl
      | true =>
          cases R.resolveName name with
          | none => rfl
          | some key =>
              simp only [Bool.false_eq_true, if_false, Bool.not_true, Option.bind_some]
              cases (if reachable then T.root.get key else none) with
              | none => rfl
              | some value =>
                  dsimp only [Option.bind_some]
                  cases fromRosParam name value <;> rfl

/-- What the enumeration yields for one parameter: nothing but its key and its
value decide. -/
def readLeaf (kv : Key × XmlRpcValue) : Option Parameter :=
  if accepts R whitelist (canonical kv.1) then
    (R.resolveName (canonical kv.1)).bind fun _ => (fromRosParam (canonical kv.1) kv.2).toOption
  else none

theorem readParam_canonical {T : ParamTree} {kv : Key × XmlRpcValue} (h : kv ∈ leaves T.root) :
    readParam R whitelist T true (canonical kv.1) = readLeaf R whitelist kv := by
  obtain ⟨hget, hvalid⟩ := get_of_mem_leaves T.root T.root_wf h
  rw [readParam_eq, readLeaf]
  cases hr : R.resolveName (canonical kv.1) with
  | none => rfl
  | some key =>
      obtain rfl := R.resolveName_canonical _ _ hvalid (ParamTree.key_ne_nil h) hr
      simp [hget]

theorem readLeaf_of_below {kv : Key × XmlRpcValue} (h : Below R.nodeName kv.1) :
    readLeaf R whitelist kv = none := by
  simp [readLeaf, accepts, isOwnParameter_canonical R h]

/-- Enumerating reads the pruned tree only. -/
theorem filterMap_readParam_names (T : ParamTree) :
    ((leaves T.root).map fun kv => canonical kv.1).filterMap (readParam R whitelist T true) =
      ((T.root.prune R.nodeName).elim [] leaves).filterMap (readLeaf R whitelist) := by
  have hnames : ((leaves T.root).map fun kv => canonical kv.1).filterMap
      (readParam R whitelist T true) = (leaves T.root).filterMap (readLeaf R whitelist) := by
    rw [List.filterMap_map]
    exact List.filterMap_congr fun kv hmem => readParam_canonical R whitelist hmem
  rw [hnames, leaves_prune, List.filterMap_filter]
  apply List.filterMap_congr
  intro kv _
  by_cases hb : Below R.nodeName kv.1
  · simp [hb, readLeaf_of_below R whitelist hb]
  · simp [hb]

/-- A name that resolves outside reads the same in trees that agree outside. -/
theorem readParam_congr {T T' : ParamTree} (hT : AgreeOutside R.nodeName T.root T'.root)
    {name : String} (reachable : Bool)
    (h : accepts R whitelist name = true →
      ∀ key, R.resolveName name = some key → ¬ Related key R.nodeName) :
    readParam R whitelist T reachable name = readParam R whitelist T' reachable name := by
  rw [readParam_eq, readParam_eq]
  by_cases ha : accepts R whitelist name = true
  · cases hr : R.resolveName name with
    | none => rfl
    | some key =>
        have hkey : ¬ Related R.nodeName key := fun hrel => h ha key hr hrel.symm
        simp [hT.get_eq T.root_wf T'.root_wf hkey]
  · simp [ha]

/-- Two-run noninterference of one read: trees that agree everywhere except below
the node's namespace yield the same list. -/
def Confidential (paramNames : List String) : Prop :=
  ∀ (reachable : Bool) (T T' : ParamTree), AgreeOutside R.nodeName T.root T'.root →
    getParams R whitelist T reachable paramNames = getParams R whitelist T' reachable paramNames

theorem confidential_of_not_related {paramNames : List String}
    (h : ∀ name ∈ paramNames, accepts R whitelist name = true →
      ∀ key, R.resolveName name = some key → ¬ Related key R.nodeName) :
    Confidential R whitelist paramNames := by
  intro reachable T T' hT
  unfold getParams
  split
  · cases reachable with
    | false => rfl
    | true =>
        simp only [getParamNames, if_true, Except.ok.injEq]
        rw [filterMap_readParam_names, filterMap_readParam_names, hT]
  · rw [List.filterMap_congr fun name hname =>
      readParam_congr R whitelist hT reachable (h name hname)]

/-- A namespace with one member reads as a dict with one member. -/
theorem valueFromRosParam_singleton {s : String} {x : XmlRpcValue} {depth : Nat}
    {v : ParameterValue} (h : valueFromRosParam (.struct [(s, x)]) depth = .ok v) :
    ∃ y, v = .dict [(s, y)] := by
  rw [valueFromRosParam.eq_def] at h
  split at h
  · cases h
  · simp only [membersFromRosStruct] at h
    cases hx : valueFromRosParam x (depth + 1) with
    | error e => simp [hx] at h
    | ok y =>
        simp only [hx, Except.ok.injEq] at h
        exact ⟨y, h.symm⟩

/-- Reading a tree that holds the integer 2 yields that integer or a dict that is
not empty. -/
theorem value_of_fromRosParam_single {name : String} {key : Key} {param : Parameter}
    (h : fromRosParam name (single key (.int 2)) = .ok param) :
    param.value = some (.integer 2) ∨ ∃ m ms, param.value = some (.dict (m :: ms)) := by
  cases key with
  | nil =>
      obtain rfl := Except.ok.inj h
      exact .inl rfl
  | cons s key =>
      simp only [single, fromRosParam] at h
      cases hv : valueFromRosParam (.struct [(s, single key (.int 2))]) 1 with
      | error e => simp [hv] at h
      | ok v =>
          obtain ⟨y, rfl⟩ := valueFromRosParam_singleton hv
          simp only [hv, Except.ok.injEq] at h
          exact .inr ⟨(s, y), [], by rw [← h]⟩

/-- At a key related to the namespace there can be a value that trees which agree
outside need not share: an empty namespace at or above it, an integer below it.
`u` is what a client sees of it. -/
theorem exists_hidden (name : String) {key : Key} (hrel : Related key R.nodeName) :
    ∃ w u, w.WfTree ∧ (key ≠ [] ∨ w = .struct []) ∧ (single key w).prune R.nodeName = none ∧
      fromRosParam name w = .ok ⟨name, .none, some u⟩ ∧ (u = .integer 1 ∨ u = .dict []) := by
  by_cases hk : key <+: R.nodeName
  · exact ⟨.struct [], .dict [], by simp [WfTree, MembersWfTree, StdMap.Ordered], .inr rfl,
      prune_single_namespace hk, rfl, .inr rfl⟩
  · refine ⟨.int 1, .integer 1, trivial, .inl ?_, ?_, rfl, .inl rfl⟩
    · intro hnil
      exact hk (hnil ▸ List.nil_prefix)
    · exact prune_single ⟨hrel.resolve_left hk, fun heq => hk (heq ▸ List.prefix_refl _)⟩ _

/-- No name reads such a value in a tree that holds nothing but the integer 2. -/
theorem readParam_single_ne {T : ParamTree} {other : Key} (hT : T.root = single other (.int 2))
    (name name' : String) {u : ParameterValue} (hu : u = .integer 1 ∨ u = .dict []) :
    readParam R whitelist T true name' ≠ some ⟨name, .none, some u⟩ := by
  intro hread
  rw [readParam_eq] at hread
  split at hread
  · obtain ⟨key, -, hread⟩ := Option.bind_eq_some_iff.mp hread
    obtain ⟨x, hget, hread⟩ := Option.bind_eq_some_iff.mp hread
    rw [if_pos rfl, hT] at hget
    obtain ⟨rest, -, rfl⟩ := get_single_eq_some hget
    cases hx : fromRosParam name' (single rest (.int 2)) with
    | error e => simp [hx, Except.toOption] at hread
    | ok param =>
        obtain rfl : param = ⟨name, .none, some u⟩ := by simpa [hx, Except.toOption] using hread
        rcases value_of_fromRosParam_single hx with hint | ⟨m, ms, hdict⟩
        · obtain rfl : u = .integer 2 := by simpa using hint
          simp at hu
        · obtain rfl : u = .dict (m :: ms) := by simpa using hdict
          simp at hu
  · cases hread

/-- A name that passes the guard although its key is related to the namespace
shows the difference between two trees that agree outside. The first tree holds
a value at the key itself, the second one somewhere below it; no read of the
second tree yields what the name reads in the first. -/
theorem not_confidential_of_related {paramNames : List String} {name : String} {key : Key}
    (hname : name ∈ paramNames) (ha : accepts R whitelist name = true)
    (hr : R.resolveName name = some key) (hrel : Related key R.nodeName) :
    ¬ Confidential R whitelist paramNames := by
  intro hconf
  obtain ⟨hbelow, hprefix⟩ := witnessBelow_spec hrel
  have hkey : ValidKey key := R.resolveName_valid name key hr
  have hbelow_valid : ValidKey (witnessBelow R.nodeName key) := by
    unfold witnessBelow
    split
    · intro s hs
      rcases List.mem_append.mp hs with hs | hs
      · exact R.nodeName_valid s hs
      · obtain rfl := List.mem_singleton.mp hs
        decide
    · exact hkey
  obtain ⟨w, u, hw, hroot, hpruned, hread, hu⟩ := exists_hidden R name hrel
  obtain ⟨T, hT⟩ := ParamTree.exists_single hkey hw hroot
  obtain ⟨T', hT'⟩ := ParamTree.exists_single hbelow_valid (v := .int 2) trivial
    (.inl fun hnil => by simp [below_iff, hnil] at hbelow)
  have hagree : AgreeOutside R.nodeName T.root T'.root := by
    rw [AgreeOutside, hT, hT', hpruned, prune_single hbelow]
  have hlist := hconf true T T' hagree
  have hne : paramNames ≠ [] := List.ne_nil_of_mem hname
  simp only [getParams, hne, if_false, Except.ok.injEq] at hlist
  -- the first list has the entry, so the second one would have it too
  have hmem : ⟨name, .none, some u⟩ ∈ paramNames.filterMap (readParam R whitelist T' true) := by
    rw [← hlist]
    refine List.mem_filterMap.mpr ⟨name, hname, ?_⟩
    simp [readParam_eq, ha, hr, hT, hread, Except.toOption]
  obtain ⟨name', -, hread'⟩ := List.mem_filterMap.mp hmem
  exact readParam_single_ne R whitelist hT' name name' hu hread'

/-- **What the read filter protects.** A read leaks nothing from below the node's
namespace if and only if no requested name that passes the guard and the
whitelist resolves to the namespace, to one of its ancestors, or to a key below
it. In particular enumerating all parameters leaks nothing. -/
theorem confidential_iff (paramNames : List String) :
    Confidential R whitelist paramNames ↔
      ∀ name ∈ paramNames, accepts R whitelist name = true →
        ∀ key, R.resolveName name = some key → ¬ Related key R.nodeName := by
  constructor
  · intro hconf name hname ha key hr hrel
    exact not_confidential_of_related R whitelist hname ha hr hrel hconf
  · exact confidential_of_not_related R whitelist

/-- The master with nothing but the bridge's device token. -/
def tokenTree (token : String) : ParamTree where
  members := [("foxglove_bridge", .struct [("device_token", .string token)])]
  wf := wfTree_single (by decide : ValidKey ["foxglove_bridge", "device_token"]) trivial

/-- The relative spelling of the token's name returns the token. -/
theorem getParams_relative_token (token : String) :
    getParams bridgeNode [fun _ => true] (tokenTree token) true ["foxglove_bridge/device_token"] =
      .ok [⟨"foxglove_bridge/device_token", .none, some (.string token)⟩] := by
  rfl

/-- **A leak.** The token is returned under a name the guard does not recognise. -/
theorem not_confidential_device_token :
    ¬ Confidential bridgeNode [fun _ => true] ["foxglove_bridge/device_token"] := by
  intro hconf
  have hagree : AgreeOutside bridgeNode.nodeName (tokenTree "a").root (tokenTree "b").root := by
    rfl
  have hsame := hconf true (tokenTree "a") (tokenTree "b") hagree
  rw [getParams_relative_token, getParams_relative_token] at hsame
  simp at hsame

/-! ## Write protection -/

/-- The parameter is written under `key`: it passes the guard and the whitelist,
its value converts, and the master carries the request out (it never deletes the
root, nor replaces it by anything but a namespace). -/
def Writes (param : Parameter) (key : Key) : Prop :=
  accepts R whitelist param.name = true ∧ R.resolveName param.name = some key ∧
    match param.value with
    | none => key ≠ []
    | some v => ∃ value, toRosParam v param.type 0 = .ok value ∧
        (key ≠ [] ∨ ∃ ms, value = .struct ms)

/-- What a write leaves at its key: nothing, or the converted value. -/
def written (param : Parameter) : Option XmlRpcValue :=
  param.value.bind fun v => (toRosParam v param.type 0).toOption

theorem setParam_of_writes {param : Parameter} {key : Key} (h : Writes R whitelist param key)
    (tree : XmlRpcValue) : (setParam R whitelist tree param).get key = written param := by
  obtain ⟨ha, hr, hvalue⟩ := h
  obtain ⟨hown, hmatch⟩ := (accepts_iff R whitelist param.name).mp ha
  unfold setParam written
  simp only [hown, hmatch, hr, Bool.false_eq_true, Bool.not_true, if_false]
  cases hv : param.value with
  | none =>
      rw [hv] at hvalue
      simpa using get_delete_self hvalue tree
  | some v =>
      rw [hv] at hvalue
      obtain ⟨value, hx, hset⟩ := hvalue
      simpa [hx, Except.toOption] using get_set_self hset tree

/-- A parameter that is not written under a key related to `other` leaves what is
at `other` alone. -/
theorem setParam_of_not_writes {param : Parameter} {other : Key}
    (h : ∀ key, Writes R whitelist param key → ¬ Related key other) (tree : XmlRpcValue) :
    (setParam R whitelist tree param).get other = tree.get other := by
  unfold setParam
  split
  · rfl
  rename_i hown
  split
  · rfl
  rename_i hmatch
  have ha : accepts R whitelist param.name = true := by
    simp only [accepts_iff]
    simpa using And.intro hown hmatch
  unfold Writes at h
  cases hv : param.value with
  | none =>
      cases hr : R.resolveName param.name with
      | none => rfl
      | some key =>
          dsimp only
          by_cases hroot : key = []
          · rw [hroot, delete]
          · exact get_delete_of_not_related (h key ⟨ha, hr, by rwa [hv]⟩) tree
  | some v =>
      cases hx : toRosParam v param.type 0 with
      | error e => simp [hx]
      | ok value =>
          cases hr : R.resolveName param.name with
          | none => simp [hx]
          | some key =>
              simp only [hx]
              by_cases hset : key ≠ [] ∨ ∃ ms, value = .struct ms
              · exact get_set_of_not_related (h key ⟨ha, hr, by rw [hv]; exact ⟨value, hx, hset⟩⟩)
                  tree value
              · -- the master refuses to replace the root by a plain value
                obtain ⟨hroot, hplain⟩ := not_or.mp hset
                obtain rfl := not_not.mp hroot
                cases value with
                | struct ms => exact absurd ⟨ms, rfl⟩ hplain
                | _ => rfl

theorem setParams_of_not_writes {params : List Parameter} {other : Key}
    (h : ∀ param ∈ params, ∀ key, Writes R whitelist param key → ¬ Related key other)
    (tree : XmlRpcValue) : (setParams R whitelist tree params).get other = tree.get other := by
  induction params generalizing tree with
  | nil => rfl
  | cons param params ih =>
      obtain ⟨hfirst, hrest⟩ := List.forall_mem_cons.mp h
      rw [setParams, List.foldl_cons, ← setParams, ih hrest,
        setParam_of_not_writes R whitelist hfirst]

/-- The frame property of one write request: every key below the node's namespace
keeps its value, or its absence. -/
def Protected (params : List Parameter) : Prop :=
  ∀ (tree : XmlRpcValue) (key : Key), Below R.nodeName key →
    (setParams R whitelist tree params).get key = tree.get key

/-- After a write under a key related to the namespace, something below the
namespace no longer depends on the tree. -/
theorem setParams_overwrites {params : List Parameter}
    (h : ∃ param ∈ params, ∃ key, Writes R whitelist param key ∧ Related key R.nodeName) :
    ∃ key, Below R.nodeName key ∧
      ∃ result, ∀ tree, (setParams R whitelist tree params).get key = result := by
  induction params with
  | nil => simp at h
  | cons param params ih =>
      by_cases hrest : ∃ param ∈ params, ∃ key, Writes R whitelist param key ∧
          Related key R.nodeName
      · obtain ⟨key, hbelow, result, hresult⟩ := ih hrest
        exact ⟨key, hbelow, result, fun tree => hresult (setParam R whitelist tree param)⟩
      · -- the last such write: what follows it leaves the key alone
        obtain ⟨key, hwrites, hrel⟩ : ∃ key, Writes R whitelist param key ∧
            Related key R.nodeName := by
          obtain ⟨p, hp, hex⟩ := h
          rcases List.mem_cons.mp hp with rfl | hp
          · exact hex
          · exact absurd ⟨p, hp, hex⟩ hrest
        obtain ⟨hbelow, rest, hkey⟩ := witnessBelow_spec hrel
        refine ⟨witnessBelow R.nodeName key, hbelow, (written param).bind fun v => v.get rest,
          fun tree => ?_⟩
        have hafter : ∀ p ∈ params, ∀ k, Writes R whitelist p k →
            ¬ Related k (witnessBelow R.nodeName key) := fun p hp k hk =>
          not_related_of_below (fun hkrel => hrest ⟨p, hp, k, hk, hkrel⟩) hbelow
        rw [setParams, List.foldl_cons, ← setParams, setParams_of_not_writes R whitelist hafter,
          ← hkey, get_append, setParam_of_writes R whitelist hwrites]

/-- **What the write guard protects.** A list of client parameters leaves
everything below the node's namespace as it was if and only if none of them is
written under the namespace, one of its ancestors, or a key below it. -/
theorem protected_iff (params : List Parameter) :
    Protected R whitelist params ↔
      ∀ param ∈ params, ∀ key, Writes R whitelist param key → ¬ Related key R.nodeName := by
  constructor
  · intro hprot param hparam key hwrites hrel
    obtain ⟨other, hbelow, result, hresult⟩ :=
      setParams_overwrites R whitelist ⟨param, hparam, key, hwrites, hrel⟩
    have h1 := (hprot (single other (.int 1)) other hbelow).symm.trans (hresult _)
    have h2 := (hprot (single other (.int 2)) other hbelow).symm.trans (hresult _)
    simp [← h2] at h1
  · intro h tree key hbelow
    exact setParams_of_not_writes R whitelist
      (fun param hparam k hk => not_related_of_below (h param hparam k hk) hbelow) tree

/-- **An overwritten secret.** Deleting the bridge's namespace by its own name,
without a slash at the end, removes the token. -/
theorem not_protected_namespace :
    ¬ Protected bridgeNode [fun _ => true] [⟨"/foxglove_bridge", .none, none⟩] := by
  intro hprot
  have hkept := hprot (tokenTree "secret").root ["foxglove_bridge", "device_token"] (by decide)
  have hgone : (setParams bridgeNode [fun _ => true] (tokenTree "secret").root
      [⟨"/foxglove_bridge", .none, none⟩]).get ["foxglove_bridge", "device_token"] = none := by
    rfl
  rw [hgone] at hkept
  cases hkept

end FoxgloveBridge
