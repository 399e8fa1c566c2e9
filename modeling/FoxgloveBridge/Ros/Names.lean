import Mathlib.Data.List.Basic
import Mathlib.Data.String.Basic

/-!
# Names and keys

A *name* is the raw string a client or the code passes to roscpp; a *key* is the
place on the parameter server it resolves to, as the list of path segments from
the root. Several names resolve to one key (relative, with repeated or trailing
slashes), and every key has one canonical absolute name.

roscpp is not part of the repository. What the bridge relies on is the structure
`Roscpp`: the node's own name and the two name resolutions, with the documented
facts about them that the development uses. The node has no remappings, under which an
absolute name could resolve to another one. `Roscpp.atRoot` is roscpp for such a node in the
root namespace.
-/

namespace FoxgloveBridge

/-- A place on the parameter server: the path segments from the root. -/
abbrev Key := List String

/-- A path segment is non-empty and free of separators. -/
def ValidSegment (s : String) : Prop := s.toList ≠ [] ∧ '/' ∉ s.toList

instance (s : String) : Decidable (ValidSegment s) :=
  inferInstanceAs (Decidable (_ ∧ _))

def ValidKey (key : Key) : Prop := ∀ s ∈ key, ValidSegment s

instance (key : Key) : Decidable (ValidKey key) :=
  inferInstanceAs (Decidable (∀ s ∈ key, ValidSegment s))

/-- Every segment preceded by a slash. -/
def pathText : Key → String
  | [] => ""
  | s :: key => "/" ++ s ++ pathText key

/-- The canonical absolute name of a key. -/
def canonical (key : Key) : String := if key = [] then "/" else pathText key

theorem canonical_of_ne_nil {key : Key} (h : key ≠ []) : canonical key = pathText key := by
  simp [canonical, h]

theorem pathText_append (a b : Key) : pathText (a ++ b) = pathText a ++ pathText b := by
  induction a with
  | nil => simp [pathText]
  | cons s a ih => simp [pathText, ih, String.append_assoc]

/-- One key is a namespace of the other, or they are equal. -/
def Related (a b : Key) : Prop := a <+: b ∨ b <+: a

instance (a b : Key) : Decidable (Related a b) := inferInstanceAs (Decidable (_ ∨ _))

theorem Related.symm {a b : Key} (h : Related a b) : Related b a := Or.symm h

@[simp] theorem related_nil_left (a : Key) : Related [] a := .inl List.nil_prefix

@[simp] theorem related_nil_right (a : Key) : Related a [] := .inr List.nil_prefix

theorem related_cons_cons {s t : String} {a b : Key} :
    Related (s :: a) (t :: b) ↔ s = t ∧ Related a b := by
  simp only [Related, List.cons_prefix_cons]
  constructor
  · rintro (⟨h, h'⟩ | ⟨h, h'⟩)
    · exact ⟨h, .inl h'⟩
    · exact ⟨h.symm, .inr h'⟩
  · rintro ⟨rfl, h | h⟩
    · exact .inl ⟨rfl, h⟩
    · exact .inr ⟨rfl, h⟩

/-- `key` lies strictly below the namespace `ns`. -/
def Below (ns key : Key) : Prop := ns <+: key ∧ key ≠ ns

instance (ns key : Key) : Decidable (Below ns key) := inferInstanceAs (Decidable (_ ∧ _))

theorem below_iff {ns key : Key} : Below ns key ↔ ∃ s rest, key = ns ++ s :: rest := by
  constructor
  · rintro ⟨⟨rest, rfl⟩, hne⟩
    cases rest with
    | nil => exact absurd (List.append_nil ns) hne
    | cons s rest => exact ⟨s, rest, rfl⟩
  · rintro ⟨s, rest, rfl⟩
    exact ⟨List.prefix_append _ _, by simp⟩

theorem below_cons_cons {s t : String} {ns key : Key} :
    Below (s :: ns) (t :: key) ↔ s = t ∧ Below ns key := by
  simp only [Below, List.cons_prefix_cons, ne_eq, List.cons.injEq, not_and]
  constructor
  · rintro ⟨⟨rfl, h⟩, hne⟩
    exact ⟨rfl, h, hne rfl⟩
  · rintro ⟨rfl, h, hne⟩
    exact ⟨⟨rfl, h⟩, fun _ => hne⟩

/-- What the bridge uses of roscpp's node and name API. `none` stands for an
`InvalidNameException`. -/
structure Roscpp where
  /-- The key of `ros::this_node::getName()`. -/
  nodeName : Key
  /-- `NodeHandle::resolveName`, applied to the bridge's node handle. -/
  resolveName : String → Option Key
  /-- `ros::names::resolve`. -/
  resolve : String → Option Key
  /-- `ros::names::clean`. -/
  clean : String → String
  nodeName_ne_nil : nodeName ≠ []
  nodeName_valid : ValidKey nodeName
  /-- A resolved name is clean. -/
  resolveName_valid : ∀ name key, resolveName name = some key → ValidKey key
  /-- Without remappings an absolute, clean name resolves to itself (or is rejected); `/` cleans
  to the empty name, which stands for the namespace of the node. -/
  resolveName_canonical : ∀ key key', ValidKey key → key ≠ [] →
    resolveName (canonical key) = some key' → key' = key

/-- `ros::this_node::getName()`. -/
def Roscpp.getName (R : Roscpp) : String := canonical R.nodeName

/-! ## roscpp for a node in the root namespace -/

/-- The segment read so far (in reverse), unless it is empty. -/
def closeSegment (current : List Char) : Key :=
  if current = [] then [] else [String.ofList current.reverse]

/-- The non-empty segments of a name. -/
def segments : List Char → List Char → Key
  | [], current => closeSegment current
  | c :: cs, current =>
      if c = '/' then closeSegment current ++ segments cs [] else segments cs (c :: current)

/-- `ros::names::validate`. -/
def validate (name : List Char) : Bool :=
  match name with
  | [] => true
  | c :: cs =>
      (c.isAlpha || c == '/' || c == '~') &&
        cs.all fun c => c.isAlphanum || c == '/' || c == '_'

/-- `NodeHandle::resolveName` for a handle on the root namespace: names that
start with a tilde are rejected. -/
def resolveNameAtRoot (name : String) : Option Key :=
  if validate name.toList then
    if name.toList.head? = some '~' then none else some (segments name.toList [])
  else none

/-- `ros::names::resolve` in the root namespace: a tilde stands for the node's
private namespace. -/
def resolveAtRoot (nodeName : Key) (name : String) : Option Key :=
  if validate name.toList then
    match name.toList with
    | '~' :: cs => some (nodeName ++ segments cs [])
    | cs => some (segments cs [])
  else none

/-- Drop every slash that follows another one; `afterSlash` says that the
character before was one. -/
def squeeze (afterSlash : Bool) : List Char → List Char
  | [] => []
  | c :: cs =>
      if afterSlash && c == '/' then squeeze true cs else c :: squeeze (c == '/') cs

/-- `ros::names::clean`: repeated slashes become one, a trailing one goes. -/
def cleanName (name : String) : String :=
  let cs := squeeze false name.toList
  String.ofList (if cs.getLast? = some '/' then cs.dropLast else cs)

theorem closeSegment_valid {current : List Char} (h : '/' ∉ current) :
    ValidKey (closeSegment current) := by
  intro s hs
  by_cases hne : current = []
  · simp [closeSegment, hne] at hs
  · simp only [closeSegment, hne, if_false, List.mem_singleton] at hs
    subst hs
    simpa [ValidSegment, hne] using h

theorem segments_valid (cs : List Char) {current : List Char} (h : '/' ∉ current) :
    ValidKey (segments cs current) := by
  induction cs generalizing current with
  | nil => exact closeSegment_valid h
  | cons c cs ih =>
      unfold segments
      split
      · intro s hs
        rcases List.mem_append.mp hs with hs | hs
        · exact closeSegment_valid h s hs
        · exact ih (by simp) s hs
      · rename_i hc
        exact ih (by simpa [eq_comm] using And.intro hc h)

/-- Characters other than the separator join the current segment. -/
theorem segments_append_of_not_mem {s : List Char} (hs : '/' ∉ s) (cs current : List Char) :
    segments (s ++ cs) current = segments cs (s.reverse ++ current) := by
  induction s generalizing current with
  | nil => rfl
  | cons c s ih =>
      have hc : c ≠ '/' := by rintro rfl; simp at hs
      have hs' : '/' ∉ s := fun h => hs (List.mem_cons_of_mem _ h)
      simp [segments, hc, ih hs']

/-- After the segment `s`, the canonical text of `key` yields `key`. -/
theorem segments_pathText {key : Key} (h : ValidKey key) (current : List Char) :
    segments (pathText key).toList current = closeSegment current ++ key := by
  induction key generalizing current with
  | nil => simp [pathText, segments]
  | cons s key ih =>
      obtain ⟨hne, hsep⟩ := h s List.mem_cons_self
      have hkey : ValidKey key := fun t ht => h t (List.mem_cons_of_mem _ ht)
      have htext : (pathText (s :: key)).toList = '/' :: (s.toList ++ (pathText key).toList) := by
        simp [pathText]
      rw [htext, segments, if_pos rfl, segments_append_of_not_mem hsep, ih hkey]
      simp [closeSegment, hne]

theorem segments_canonical {key : Key} (h : ValidKey key) :
    segments (canonical key).toList [] = key := by
  by_cases hne : key = []
  · subst hne; rfl
  · rw [canonical_of_ne_nil hne, segments_pathText h]
    simp [closeSegment]

/-- roscpp for the node `name` in the root namespace, without remappings. -/
def Roscpp.atRoot (name : String) (h : ValidSegment name) : Roscpp where
  nodeName := [name]
  resolveName := resolveNameAtRoot
  resolve := resolveAtRoot [name]
  clean := cleanName
  nodeName_ne_nil := by simp
  nodeName_valid := by simpa [ValidKey] using h
  resolveName_valid := by
    intro n key hn
    simp only [resolveNameAtRoot] at hn
    split at hn
    · split at hn
      · cases hn
      · obtain rfl := Option.some.inj hn
        exact segments_valid _ (by simp)
    · cases hn
  resolveName_canonical := by
    intro key key' hkey _ hn
    simp only [resolveNameAtRoot] at hn
    split at hn
    · split at hn
      · cases hn
      · exact (Option.some.inj hn).symm.trans (segments_canonical hkey)
    · cases hn

/-- The bridge under its usual name, `/foxglove_bridge`. -/
def bridgeNode : Roscpp := .atRoot "foxglove_bridge" (by decide)

example : bridgeNode.resolveName "foxglove_bridge//device_token/" =
    bridgeNode.resolveName "/foxglove_bridge/device_token" := by decide

end FoxgloveBridge
