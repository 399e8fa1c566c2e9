import FoxgloveBridge.Param.Conversion
import Mathlib.Algebra.Group.Int.Defs

/-!
# What the master stores is what the client sent

`toRosParam` and `fromRosParam` without their depth counters are two total
functions, `encode` and its inverse on the values the master can represent.
The counters only decide where the conversions throw: `toRosParam` on values
nested deeper than 128, `fromRosParam`, whose counter starts one higher, on
values nested 128 deep or more.

The representable values are those of `Storable`: every integer fits 32 bits,
and no container is empty, since a default-constructed `XmlRpcValue` becomes an
array or a struct only with its first element.
-/

namespace FoxgloveBridge

open ParameterValue (AllWf MembersWf heights memberHeights)

/-- A 64-bit integer that an XML-RPC integer of 32 bits can hold. -/
def FitsInt32 (i : Int64) : Prop := -2 ^ 31 ≤ i.toInt ∧ i.toInt < 2 ^ 31

theorem toInt64_toInt32_eq_iff (i : Int64) : i.toInt32.toInt64 = i ↔ FitsInt32 i := by
  have hlo := i.le_toInt
  have hhi := i.toInt_lt
  rw [← Int64.toInt_inj, Int32.toInt_toInt64, Int64.toInt_toInt32, FitsInt32]
  have hbmod := Int.bmod_eq_iff (a := i.toInt) (b := 2 ^ 32) (c := i.toInt) (by decide)
  omega

mutual

/-- The values an `XmlRpcValue` can hold unchanged. -/
def ParameterValue.Storable : ParameterValue → Prop
  | .integer i => FitsInt32 i
  | .array vs => vs ≠ [] ∧ ParameterValue.AllStorable vs
  | .dict ms => ms ≠ [] ∧ ParameterValue.MembersStorable ms
  | _ => True

def ParameterValue.AllStorable : List ParameterValue → Prop
  | [] => True
  | v :: vs => v.Storable ∧ AllStorable vs

def ParameterValue.MembersStorable : List (String × ParameterValue) → Prop
  | [] => True
  | (_, v) :: ms => v.Storable ∧ MembersStorable ms

end

open ParameterValue (AllStorable MembersStorable)

/-- What a default-constructed `XmlRpcValue` is after assigning the elements. -/
def arrayOf : List XmlRpcValue → XmlRpcValue
  | [] => .invalid
  | x :: xs => .array (x :: xs)

/-- What a default-constructed `XmlRpcValue` is after assigning the members. -/
def structOf : List (String × XmlRpcValue) → XmlRpcValue
  | [] => .invalid
  | m :: ms => .struct (m :: ms)

@[simp] theorem arrayOf_nil : arrayOf [] = .invalid := rfl

@[simp] theorem arrayOf_cons (x : XmlRpcValue) (xs : List XmlRpcValue) :
    arrayOf (x :: xs) = .array (x :: xs) := rfl

@[simp] theorem structOf_nil : structOf [] = .invalid := rfl

@[simp] theorem structOf_cons (m : String × XmlRpcValue) (ms : List (String × XmlRpcValue)) :
    structOf (m :: ms) = .struct (m :: ms) := rfl

theorem setIndex_arrayOf (done : List XmlRpcValue) (x : XmlRpcValue) :
    (arrayOf done).setIndex done.length x = .ok (arrayOf (done ++ [x])) := by
  cases done with
  | nil => rfl
  | cons y ys => exact XmlRpcValue.setIndex_array_length (y :: ys) x

theorem setMember_structOf {done rest : List (String × XmlRpcValue)} {name : String}
    {x : XmlRpcValue} (h : StdMap.Ordered (done ++ (name, x) :: rest)) :
    (structOf done).setMember name x = .ok (structOf (done ++ [(name, x)])) := by
  cases done with
  | nil => rfl
  | cons m ms => simp [XmlRpcValue.setMember, h.insert_eq]

mutual

/-- The value `toRosParam` builds when nothing is nested too deep. -/
def encode : ParameterValue → XmlRpcValue
  | .bool b => .boolean b
  | .integer i => .int i.toInt32
  | .float64 d => .double d
  | .string s => .string s
  | .array vs => arrayOf (encodeAll vs)
  | .dict ms => structOf (encodeMembers ms)

def encodeAll : List ParameterValue → List XmlRpcValue
  | [] => []
  | v :: vs => encode v :: encodeAll vs

def encodeMembers : List (String × ParameterValue) → List (String × XmlRpcValue)
  | [] => []
  | (name, v) :: ms => (name, encode v) :: encodeMembers ms

end

theorem encodeMembers_eq_map (ms : List (String × ParameterValue)) :
    encodeMembers ms = ms.map fun m => (m.1, encode m.2) := by
  induction ms with
  | nil => rfl
  | cons m ms ih => simp [encodeMembers, ih]

theorem ordered_encodeMembers {ms : List (String × ParameterValue)} (h : StdMap.Ordered ms) :
    StdMap.Ordered (encodeMembers ms) :=
  encodeMembers_eq_map ms ▸ h.map encode

/-! ## `toRosParam` is `encode`, up to the depth limit -/

mutual

theorem toRosParam_eq (v : ParameterValue) (hv : v.Wf) (depth : Nat) :
    toRosParam v .none depth =
      if depth + v.height ≤ maxParamDepth then .ok (encode v) else .error tooDeep := by
  -- the check of the counter comes first, whatever the value
  by_cases hd : maxParamDepth < depth
  · have hnot : ¬ depth + v.height ≤ maxParamDepth := by omega
    rw [toRosParam.eq_def, if_pos hd, if_neg hnot]
  · have hle : depth ≤ maxParamDepth := by omega
    rw [toRosParam.eq_def, if_neg hd]
    cases v with
    | bool b => simp [ParameterValue.height, encode, hle]
    | integer i => simp [ParameterValue.height, encode, hle]
    | float64 d => simp [ParameterValue.height, encode, hle]
    | string s => simp [ParameterValue.height, encode, hle]
    | array vs =>
        simp only [ParameterValue.Wf] at hv
        exact toRosArray_eq vs hv depth hle []
    | dict ms =>
        simp only [ParameterValue.Wf] at hv
        exact toRosStruct_eq ms hv.2 depth hle [] (by simpa using ordered_encodeMembers hv.1)

/-- The loop with `done` already assigned, in a container at `depth`. -/
theorem toRosArray_eq (vs : List ParameterValue) (hvs : AllWf vs) (depth : Nat)
    (hle : depth ≤ maxParamDepth) (done : List XmlRpcValue) :
    toRosArray vs done.length (depth + 1) (arrayOf done) =
      if depth + heights vs ≤ maxParamDepth then .ok (arrayOf (done ++ encodeAll vs))
      else .error tooDeep := by
  cases vs with
  | nil => simp [toRosArray, heights, encodeAll, hle]
  | cons v rest =>
      simp only [AllWf] at hvs
      have helem := toRosParam_eq v hvs.1 (depth + 1)
      by_cases hfit : depth + 1 + v.height ≤ maxParamDepth
      · rw [if_pos hfit] at helem
        have hrest := toRosArray_eq rest hvs.2 depth hle (done ++ [encode v])
        have hmax : depth + heights (v :: rest) ≤ maxParamDepth ↔
            depth + heights rest ≤ maxParamDepth := by
          simp only [heights]; omega
        simp only [List.length_append, List.length_singleton, List.append_assoc,
          List.singleton_append] at hrest
        simp only [toRosArray, helem, setIndex_arrayOf, hrest, hmax, encodeAll]
      · -- the first element that does not fit ends the loop
        rw [if_neg hfit] at helem
        have hmax : ¬ depth + heights (v :: rest) ≤ maxParamDepth := by
          simp only [heights]; omega
        simp only [toRosArray, helem, if_neg hmax]

/-- The loop with `done` already assigned, in a container at `depth`. -/
theorem toRosStruct_eq (ms : List (String × ParameterValue)) (hms : MembersWf ms) (depth : Nat)
    (hle : depth ≤ maxParamDepth) (done : List (String × XmlRpcValue))
    (hord : StdMap.Ordered (done ++ encodeMembers ms)) :
    toRosStruct ms (depth + 1) (structOf done) =
      if depth + memberHeights ms ≤ maxParamDepth then .ok (structOf (done ++ encodeMembers ms))
      else .error tooDeep := by
  match ms with
  | [] => simp [toRosStruct, memberHeights, encodeMembers, hle]
  | (name, v) :: rest =>
      simp only [MembersWf] at hms
      simp only [encodeMembers] at hord
      have helem := toRosParam_eq v hms.1 (depth + 1)
      by_cases hfit : depth + 1 + v.height ≤ maxParamDepth
      · rw [if_pos hfit] at helem
        have hrest := toRosStruct_eq rest hms.2 depth hle (done ++ [(name, encode v)])
          (by simpa using hord)
        have hmax : depth + memberHeights ((name, v) :: rest) ≤ maxParamDepth ↔
            depth + memberHeights rest ≤ maxParamDepth := by
          simp only [memberHeights]; omega
        simp only [List.append_assoc, List.singleton_append] at hrest
        simp only [toRosStruct, helem, setMember_structOf hord, hrest, hmax, encodeMembers]
      · rw [if_neg hfit] at helem
        have hmax : ¬ depth + memberHeights ((name, v) :: rest) ≤ maxParamDepth := by
          simp only [memberHeights]; omega
        simp only [toRosStruct, helem, if_neg hmax]

end

/-- The value under its type hint: the integer that a whole-valued float arrives as is the
double it converts to. -/
def ParameterValue.hinted : ParameterValue → ParameterType → ParameterValue
  | .integer i, .float64 => .float64 (Double.ofInt64 i)
  | v, _ => v

theorem ParameterValue.hinted_of_not_float (v : ParameterValue) {type : ParameterType}
    (h : type.isFloat = false) : v.hinted type = v := by
  cases type with
  | none | byteArray => cases v <;> rfl
  | float64 | float64Array => cases h

theorem ParameterValue.Wf.hinted {v : ParameterValue} (h : v.Wf) (type : ParameterType) :
    (v.hinted type).Wf := by
  cases v with
  | integer i => cases type <;> trivial
  | bool | float64 | string | array | dict => exact h

theorem ParameterValue.height_hinted (v : ParameterValue) (type : ParameterType) :
    (v.hinted type).height = v.height := by
  cases v with
  | integer i => cases type <;> rfl
  | bool | float64 | string | array | dict => rfl

/-- The type matters only through the hint on the value. -/
theorem toRosParam_hinted (v : ParameterValue) (type : ParameterType) (depth : Nat) :
    toRosParam v type depth = toRosParam (v.hinted type) .none depth := by
  cases v with
  | integer i => cases type <;> simp [toRosParam.eq_def, ParameterValue.hinted]
  | bool | float64 | string | array | dict =>
      simp [toRosParam.eq_def, ParameterValue.hinted]

/-- Without a float hint the type makes no difference. -/
theorem toRosParam_hint (v : ParameterValue) {type : ParameterType} (h : type.isFloat = false)
    (depth : Nat) : toRosParam v type depth = toRosParam v .none depth := by
  rw [toRosParam_hinted, v.hinted_of_not_float h]

/-! ## `valueFromRosParam` undoes `encode` exactly on the storable values -/

theorem valuesFromRosArray_cons_eq_ok {x : XmlRpcValue} {xs : List XmlRpcValue} {depth : Nat}
    {v : ParameterValue} {vs : List ParameterValue} :
    valuesFromRosArray (x :: xs) depth = .ok (v :: vs) ↔
      valueFromRosParam x depth = .ok v ∧ valuesFromRosArray xs depth = .ok vs := by
  rw [valuesFromRosArray]
  cases valueFromRosParam x depth with
  | error e => simp
  | ok w => cases valuesFromRosArray xs depth <;> simp

/-- Later members never change the value of an earlier one. -/
theorem membersFromRosStruct_lookup {ms : List (String × XmlRpcValue)} {depth : Nat}
    {values result : List (String × ParameterValue)} {name : String} {v : ParameterValue}
    (h : membersFromRosStruct ms depth values = .ok result) (hv : values.lookup name = some v) :
    result.lookup name = some v := by
  induction ms generalizing values with
  | nil =>
      obtain rfl : values = result := by simpa [membersFromRosStruct] using h
      exact hv
  | cons m ms ih =>
      rw [membersFromRosStruct] at h
      split at h
      · cases h
      · exact ih h (StdMap.lookup_emplace_of_lookup hv)

theorem membersFromRosStruct_cons_eq_ok {ms : List (String × XmlRpcValue)} {depth : Nat}
    {name : String} {x : XmlRpcValue} {v : ParameterValue}
    {done rest : List (String × ParameterValue)}
    (hord : StdMap.Ordered (done ++ (name, v) :: rest)) :
    membersFromRosStruct ((name, x) :: ms) depth done = .ok (done ++ (name, v) :: rest) ↔
      valueFromRosParam x depth = .ok v ∧
        membersFromRosStruct ms depth (done ++ [(name, v)]) = .ok (done ++ (name, v) :: rest) := by
  rw [membersFromRosStruct]
  cases hx : valueFromRosParam x depth with
  | error e => simp
  | ok w =>
      have hemplace : StdMap.emplace name w done = done ++ [(name, w)] :=
        StdMap.Ordered.emplace_eq (StdMap.Ordered.replace_last hord w)
      simp only [hemplace, Except.ok.injEq]
      constructor
      · intro h
        -- the result holds `w` under the name by the loop and `v` by its shape
        have hlookup : (done ++ (name, v) :: rest).lookup name = some w :=
          membersFromRosStruct_lookup h
            (StdMap.lookup_of_mem (StdMap.Ordered.replace_last hord w) (by simp))
        have hv : (done ++ (name, v) :: rest).lookup name = some v :=
          StdMap.lookup_of_mem hord (by simp)
        obtain rfl : w = v := Option.some.inj (hlookup.symm.trans hv)
        exact ⟨rfl, h⟩
      · rintro ⟨rfl, h⟩
        exact h

mutual

theorem valueFromRosParam_encode (v : ParameterValue) (hv : v.Wf) (depth : Nat) :
    valueFromRosParam (encode v) depth = .ok v ↔ v.Storable ∧ depth + v.height ≤ maxParamDepth := by
  by_cases hd : maxParamDepth < depth
  · have hnot : ¬ depth + v.height ≤ maxParamDepth := by omega
    rw [valueFromRosParam.eq_def, if_pos hd]
    simp [hnot]
  · have hle : depth ≤ maxParamDepth := by omega
    rw [valueFromRosParam.eq_def, if_neg hd]
    cases v with
    | bool b => simp [encode, ParameterValue.Storable, ParameterValue.height, hle]
    | integer i =>
        simp [encode, ParameterValue.Storable, ParameterValue.height, hle,
          toInt64_toInt32_eq_iff]
    | float64 d => simp [encode, ParameterValue.Storable, ParameterValue.height, hle]
    | string s => simp [encode, ParameterValue.Storable, ParameterValue.height, hle]
    | array vs =>
        simp only [ParameterValue.Wf] at hv
        have hloop := valuesFromRosArray_encodeAll vs hv depth hle
        cases vs with
        -- the empty array is stored as the invalid value and does not read back
        | nil => simp [encode, encodeAll, ParameterValue.Storable]
        | cons x xs =>
            simp only [encode, encodeAll, arrayOf_cons, ParameterValue.Storable, ne_eq,
              reduceCtorEq, not_false_eq_true, true_and, ParameterValue.height] at hloop ⊢
            rw [← hloop]
            cases valuesFromRosArray (encode x :: encodeAll xs) (depth + 1) <;> simp
    | dict ms =>
        simp only [ParameterValue.Wf] at hv
        have hloop := membersFromRosStruct_encodeMembers ms hv.2 depth hle []
          (by simpa using hv.1)
        cases ms with
        | nil => simp [encode, encodeMembers, ParameterValue.Storable]
        | cons m rest =>
            simp only [encode, encodeMembers, structOf_cons, ParameterValue.Storable, ne_eq,
              reduceCtorEq, not_false_eq_true, true_and, ParameterValue.height,
              List.nil_append] at hloop ⊢
            rw [← hloop]
            cases membersFromRosStruct ((m.1, encode m.2) :: encodeMembers rest) (depth + 1) []
              <;> simp

theorem valuesFromRosArray_encodeAll (vs : List ParameterValue) (hvs : AllWf vs) (depth : Nat)
    (hle : depth ≤ maxParamDepth) :
    valuesFromRosArray (encodeAll vs) (depth + 1) = .ok vs ↔
      AllStorable vs ∧ depth + heights vs ≤ maxParamDepth := by
  cases vs with
  | nil => simp [encodeAll, valuesFromRosArray, AllStorable, heights, hle]
  | cons v rest =>
      simp only [AllWf] at hvs
      rw [encodeAll, valuesFromRosArray_cons_eq_ok, valueFromRosParam_encode v hvs.1,
        valuesFromRosArray_encodeAll rest hvs.2 depth hle]
      have hmax : depth + heights (v :: rest) ≤ maxParamDepth ↔
          depth + 1 + v.height ≤ maxParamDepth ∧ depth + heights rest ≤ maxParamDepth := by
        simp only [heights]; omega
      rw [hmax, AllStorable]
      tauto

theorem membersFromRosStruct_encodeMembers (ms : List (String × ParameterValue))
    (hms : MembersWf ms) (depth : Nat) (hle : depth ≤ maxParamDepth)
    (done : List (String × ParameterValue)) (hord : StdMap.Ordered (done ++ ms)) :
    membersFromRosStruct (encodeMembers ms) (depth + 1) done = .ok (done ++ ms) ↔
      MembersStorable ms ∧ depth + memberHeights ms ≤ maxParamDepth := by
  match ms with
  | [] => simp [encodeMembers, membersFromRosStruct, MembersStorable, memberHeights, hle]
  | (name, v) :: rest =>
      simp only [MembersWf] at hms
      have hrest := membersFromRosStruct_encodeMembers rest hms.2 depth hle
        (done ++ [(name, v)]) (by simpa using hord)
      simp only [List.append_assoc, List.singleton_append] at hrest
      rw [encodeMembers, membersFromRosStruct_cons_eq_ok hord, valueFromRosParam_encode v hms.1,
        hrest]
      have hmax : depth + memberHeights ((name, v) :: rest) ≤ maxParamDepth ↔
          depth + 1 + v.height ≤ maxParamDepth ∧ depth + memberHeights rest ≤ maxParamDepth := by
        simp only [memberHeights]; omega
      rw [hmax, MembersStorable]
      tauto

end

/-! ## Faithful writes -/

/-- Reading back through `fromRosParam` is reading through `valueFromRosParam`
with the counter at 1: the scalars it takes directly have no depth to exceed. -/
theorem fromRosParam_eq_ok_iff (name : String) (r : XmlRpcValue) (v : ParameterValue) :
    (∃ p, fromRosParam name r = .ok p ∧ p.value = some v) ↔ valueFromRosParam r 1 = .ok v := by
  have hone : ¬ maxParamDepth < 1 := by decide
  cases r with
  | boolean b => simp [fromRosParam, valueFromRosParam, hone]
  | int i => simp [fromRosParam, valueFromRosParam, hone]
  | double d => simp [fromRosParam, valueFromRosParam, hone]
  | string s => simp [fromRosParam, valueFromRosParam, hone]
  | _ =>
      simp only [fromRosParam]
      split <;> simp_all

/-- A client's write of `v` under the hint `type` is faithful: `toRosParam`
throws, or the value it builds reads back as `v`. -/
def FaithfulWrite (v : ParameterValue) (type : ParameterType) : Prop :=
  (∃ e, toRosParam v type 0 = .error e) ∨
    ∃ r, toRosParam v type 0 = .ok r ∧ ∀ name, ∃ p, fromRosParam name r = .ok p ∧ p.value = some v

/-- **Faithful parameter writes.** Without a float hint, a write is faithful
exactly when the value is nested too deep to be written at all, or is nested less
than 128 deep, holds no integer beyond 32 bits and no empty array or dict. -/
theorem faithfulWrite_iff (v : ParameterValue) (hv : v.Wf) (type : ParameterType)
    (htype : type.isFloat = false) :
    FaithfulWrite v type ↔
      maxParamDepth < v.height ∨ (v.height < maxParamDepth ∧ v.Storable) := by
  have hwrite := toRosParam_eq v hv 0
  rw [← toRosParam_hint v htype, Nat.zero_add] at hwrite
  by_cases hdeep : maxParamDepth < v.height
  · have hnot : ¬ v.height ≤ maxParamDepth := by omega
    rw [if_neg hnot] at hwrite
    simp [FaithfulWrite, hwrite, hdeep]
  · have hle : v.height ≤ maxParamDepth := by omega
    rw [if_pos hle] at hwrite
    simp only [FaithfulWrite, hwrite, fromRosParam_eq_ok_iff, valueFromRosParam_encode v hv,
      Except.ok.injEq, reduceCtorEq, exists_false, false_or, exists_eq_left', forall_const, hdeep]
    constructor
    · rintro ⟨hstore, hheight⟩
      exact ⟨by omega, hstore⟩
    · rintro ⟨hheight, hstore⟩
      exact ⟨hstore, by omega⟩

theorem faithfulWrite_nested :
    FaithfulWrite (.dict [("k", .array [.integer 5, .bool true])]) .none :=
  (faithfulWrite_iff (.dict [("k", .array [.integer 5, .bool true])])
    (by simp [ParameterValue.Wf, MembersWf, AllWf, StdMap.Ordered]) .none rfl).mpr
    (.inr ⟨by decide, by
      simp [ParameterValue.Storable, AllStorable, MembersStorable, FitsInt32]⟩)

/-- `2 ^ 31` is stored as `-2 ^ 31`. -/
theorem not_faithfulWrite_two_pow_31 :
    toRosParam (.integer 2147483648) .none 0 = .ok (.int (-2147483648)) ∧
      ¬ FaithfulWrite (.integer 2147483648) .none := by
  refine ⟨rfl, ?_⟩
  rintro (⟨e, he⟩ | ⟨r, hr, hback⟩)
  · cases he
  · cases hr
    obtain ⟨p, hp, hval⟩ := hback ""
    cases hp
    exact absurd (ParameterValue.integer.inj (Option.some.inj hval)) (by decide)

end FoxgloveBridge
