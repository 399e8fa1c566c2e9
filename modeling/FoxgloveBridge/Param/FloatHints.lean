import FoxgloveBridge.Param.RoundTrip
import FoxgloveBridge.Ros.Double

/-!
# Float hints

A whole-valued float reaches the bridge as an integer, with a hint that it is a float. The
hint of the parameter is looked at where its value is a scalar; the recursion into an array
passes no hint on. So a float hint is honoured exactly if no element of an array is encoded
as an integer, and no scalar as an integer that has no double
(`float_hint_honoured_iff`).
-/

namespace FoxgloveBridge

open ParameterValue (AllWf heights)

/-- The value is a number, in one of the two encodings. -/
def ParameterValue.IsNumber : ParameterValue → Prop
  | .integer _ | .float64 _ => True
  | _ => False

/-- The double is the number the value encodes. -/
def ParameterValue.DenotesDouble : ParameterValue → Double → Prop
  | .integer i, d => d.toRat? = some (i.toInt : ℚ)
  | .float64 x, d => d = x
  | _, _ => False

/-- A parameter with a float hint, and the numbers in it. -/
inductive FloatHinted : ParameterType → ParameterValue → List ParameterValue → Prop
  | scalar {v : ParameterValue} (hv : v.IsNumber) : FloatHinted .float64 v [v]
  | array {vs : List ParameterValue} (hvs : ∀ v ∈ vs, v.IsNumber) :
      FloatHinted .float64Array (.array vs) vs

/-- The elements a client of the master finds in a stored value; a default-constructed value
has none, and a scalar is the one number itself. -/
def XmlRpcValue.numbers : XmlRpcValue → List XmlRpcValue
  | .invalid => []
  | .array xs => xs
  | x => [x]

/-- The stored element is a double, and the number that was encoded. -/
def StoredAsDouble (v : ParameterValue) (x : XmlRpcValue) : Prop :=
  ∃ d, x = .double d ∧ v.DenotesDouble d

/-- `toRosParam` accepts the value, stores each number in it as a double of the same value,
and stores no integer. -/
def FloatHintHonoured (type : ParameterType) (v : ParameterValue) (vs : List ParameterValue) :
    Prop :=
  ∃ r, toRosParam v type 0 = .ok r ∧ List.Forall₂ StoredAsDouble vs r.numbers ∧
    ∀ i, .int i ∉ r.numbers

/-- What a number needs under the hint: as a scalar, to have a double; as an element of an
array, to be encoded as a float. -/
def KeptAsFloat : ParameterType → ParameterValue → Prop
  | .float64, .integer i => Double.HasSignificand i.toInt.natAbs
  | _, .integer _ => False
  | _, _ => True

/-! ## What is stored -/

theorem toRosParam_float64 {v : ParameterValue} (hv : v.IsNumber) :
    ∃ d, toRosParam v .float64 0 = .ok (.double d) ∧
      (v.DenotesDouble d ↔ KeptAsFloat .float64 v) := by
  cases v with
  | integer i => exact ⟨Double.ofInt64 i, rfl, Double.toRat?_ofInt64_eq_iff i⟩
  | float64 x => exact ⟨x, rfl, iff_of_true rfl trivial⟩
  | bool b => exact hv.elim
  | string s => exact hv.elim
  | array vs => exact hv.elim
  | dict ms => exact hv.elim

/-- A number is no container: it is well formed and adds one level. -/
theorem allWf_of_isNumber {vs : List ParameterValue} (hvs : ∀ v ∈ vs, v.IsNumber) :
    AllWf vs ∧ heights vs ≤ 1 := by
  induction vs with
  | nil => exact ⟨trivial, Nat.zero_le 1⟩
  | cons v rest ih =>
      obtain ⟨hwf, hheight⟩ := ih fun x hx => hvs x (List.mem_cons_of_mem v hx)
      have hv : v.Wf ∧ v.height = 0 := by
        have := hvs v List.mem_cons_self
        cases v with
        | integer i => exact ⟨trivial, rfl⟩
        | float64 x => exact ⟨trivial, rfl⟩
        | bool b => exact this.elim
        | string s => exact this.elim
        | array vs => exact this.elim
        | dict ms => exact this.elim
      refine ⟨⟨hv.1, hwf⟩, ?_⟩
      simp only [heights]
      omega

/-- The elements of an array are stored under no hint. -/
theorem toRosParam_float64Array {vs : List ParameterValue} (hvs : ∀ v ∈ vs, v.IsNumber) :
    toRosParam (.array vs) .float64Array 0 = .ok (arrayOf (encodeAll vs)) := by
  obtain ⟨hwf, hheight⟩ := allWf_of_isNumber hvs
  have hloop := toRosArray_eq vs hwf 0 (Nat.zero_le _) []
  have hfit : 0 + heights vs ≤ maxParamDepth := by
    simp only [maxParamDepth]
    omega
  rw [if_pos hfit] at hloop
  rw [toRosParam.eq_def, if_neg (Nat.not_lt_zero _)]
  exact hloop

@[simp] theorem numbers_arrayOf (xs : List XmlRpcValue) : (arrayOf xs).numbers = xs := by
  cases xs with
  | nil => rfl
  | cons x xs => rfl

theorem storedAsDouble_encode_iff {v : ParameterValue} (hv : v.IsNumber) :
    StoredAsDouble v (encode v) ↔ KeptAsFloat .float64Array v := by
  cases v with
  | integer i =>
      refine iff_of_false ?_ id
      rintro ⟨d, hd, -⟩
      cases hd
  | float64 x => exact iff_of_true ⟨x, rfl, rfl⟩ trivial
  | bool b => exact hv.elim
  | string s => exact hv.elim
  | array vs => exact hv.elim
  | dict ms => exact hv.elim

theorem forall₂_encodeAll_iff {vs : List ParameterValue} (hvs : ∀ v ∈ vs, v.IsNumber) :
    List.Forall₂ StoredAsDouble vs (encodeAll vs) ↔ ∀ v ∈ vs, KeptAsFloat .float64Array v := by
  induction vs with
  | nil => simp [encodeAll]
  | cons v rest ih =>
      have hrest := ih fun x hx => hvs x (List.mem_cons_of_mem v hx)
      rw [encodeAll, List.forall₂_cons, storedAsDouble_encode_iff (hvs v List.mem_cons_self),
        hrest, List.forall_mem_cons]

/-- Where every number is stored as a double there is no integer. -/
theorem int_notMem_of_forall₂ {vs : List ParameterValue} {xs : List XmlRpcValue}
    (h : List.Forall₂ StoredAsDouble vs xs) (i : Int32) : .int i ∉ xs := by
  induction h with
  | nil => exact List.not_mem_nil
  | cons hx _ ih =>
      obtain ⟨d, rfl, -⟩ := hx
      intro hmem
      rcases List.mem_cons.mp hmem with heq | hmem
      · cases heq
      · exact ih hmem

/-! ## When the hint is honoured -/

/-- **Float hints.** A parameter with a float hint is stored as doubles of the same values
exactly if a scalar has a double and no element of an array is encoded as an integer. -/
theorem float_hint_honoured_iff {type : ParameterType} {v : ParameterValue}
    {vs : List ParameterValue} (h : FloatHinted type v vs) :
    FloatHintHonoured type v vs ↔ ∀ x ∈ vs, KeptAsFloat type x := by
  have hnoInt : ∀ r, toRosParam v type 0 = .ok r →
      (FloatHintHonoured type v vs ↔ List.Forall₂ StoredAsDouble vs r.numbers) := by
    intro r hr
    constructor
    · rintro ⟨r', hr', hall, -⟩
      obtain rfl := Except.ok.inj (hr.symm.trans hr')
      exact hall
    · intro hall
      exact ⟨r, hr, hall, int_notMem_of_forall₂ hall⟩
  cases h with
  | scalar hv =>
      obtain ⟨d, hd, hdenotes⟩ := toRosParam_float64 hv
      rw [hnoInt _ hd, List.forall_mem_singleton, ← hdenotes]
      show List.Forall₂ StoredAsDouble [v] [.double d] ↔ _
      rw [List.forall₂_cons]
      constructor
      · rintro ⟨⟨d', heq, hden⟩, -⟩
        obtain rfl := XmlRpcValue.double.inj heq
        exact hden
      · intro hden
        exact ⟨⟨d, rfl, hden⟩, .nil⟩
  | array hvs =>
      rw [hnoInt _ (toRosParam_float64Array hvs), numbers_arrayOf, forall₂_encodeAll_iff hvs]

theorem float_hint_honoured_ten : FloatHintHonoured .float64 (.integer 10) [.integer 10] :=
  (float_hint_honoured_iff (.scalar (v := .integer 10) trivial)).mpr (by
    intro x hx
    obtain rfl := List.mem_singleton.mp hx
    exact ⟨10, 0, by decide, rfl⟩)

/-- The whole-valued first element of `[1.0, 2.5]` is stored as an integer. -/
theorem not_float_hint_honoured_mixed :
    toRosParam (.array [.integer 1, .float64 ⟨0x4004000000000000⟩]) .float64Array 0 =
        .ok (.array [.int 1, .double ⟨0x4004000000000000⟩]) ∧
      ¬ FloatHintHonoured .float64Array (.array [.integer 1, .float64 ⟨0x4004000000000000⟩])
        [.integer 1, .float64 ⟨0x4004000000000000⟩] := by
  refine ⟨rfl, ?_⟩
  rintro ⟨r, hr, -, hnoInt⟩
  obtain rfl := Except.ok.inj hr
  exact hnoInt 1 List.mem_cons_self

end FoxgloveBridge
