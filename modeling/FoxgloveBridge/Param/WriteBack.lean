import FoxgloveBridge.Param.RoundTrip

/-!
# Writing back what was read

The other round trip: a value of the master is read by `fromRosParam`, and the parameter is
written again unchanged. What `toRosParam` builds from it is the value that was read, except
that a container without elements is built by no assignment and stays a default-constructed
value (`rewritten`). So a value comes back exactly if none of its containers is empty
(`written_back_iff`).
-/

namespace FoxgloveBridge

open ParameterValue (AllWf MembersWf heights memberHeights)

mutual

/-- Every struct inside the value is a `std::map`, in key order. -/
def XmlRpcValue.Wf : XmlRpcValue → Prop
  | .array vs => XmlRpcValue.AllWf vs
  | .struct ms => StdMap.Ordered ms ∧ XmlRpcValue.MembersWf ms
  | _ => True

def XmlRpcValue.AllWf : List XmlRpcValue → Prop
  | [] => True
  | v :: vs => v.Wf ∧ AllWf vs

def XmlRpcValue.MembersWf : List (String × XmlRpcValue) → Prop
  | [] => True
  | (_, v) :: ms => v.Wf ∧ MembersWf ms

end

mutual

/-- No array and no struct inside the value is empty. -/
def XmlRpcValue.NoEmpty : XmlRpcValue → Prop
  | .array vs => vs ≠ [] ∧ XmlRpcValue.AllNoEmpty vs
  | .struct ms => ms ≠ [] ∧ XmlRpcValue.MembersNoEmpty ms
  | _ => True

def XmlRpcValue.AllNoEmpty : List XmlRpcValue → Prop
  | [] => True
  | v :: vs => v.NoEmpty ∧ AllNoEmpty vs

def XmlRpcValue.MembersNoEmpty : List (String × XmlRpcValue) → Prop
  | [] => True
  | (_, v) :: ms => v.NoEmpty ∧ MembersNoEmpty ms

end

open XmlRpcValue (AllNoEmpty MembersNoEmpty)

mutual

/-- What is written back for a value that was read. -/
def rewritten : XmlRpcValue → XmlRpcValue
  | .array vs => arrayOf (rewrittenAll vs)
  | .struct ms => structOf (rewrittenMembers ms)
  | v => v

def rewrittenAll : List XmlRpcValue → List XmlRpcValue
  | [] => []
  | v :: vs => rewritten v :: rewrittenAll vs

def rewrittenMembers : List (String × XmlRpcValue) → List (String × XmlRpcValue)
  | [] => []
  | (name, v) :: ms => (name, rewritten v) :: rewrittenMembers ms

end

/-! ## What was read -/

theorem ordered_iff_keys {V : Type*} {ms : List (String × V)} :
    StdMap.Ordered ms ↔ (ms.map Prod.fst).Pairwise (· < ·) := by
  rw [List.pairwise_map, StdMap.Ordered]

mutual

/-- A value that was read fits the depth, and its encoding is what is written back. -/
theorem encode_of_valueFromRosParam {r : XmlRpcValue} (hr : r.Wf) {depth : Nat}
    {v : ParameterValue} (h : valueFromRosParam r depth = .ok v) :
    v.Wf ∧ depth + v.height ≤ maxParamDepth ∧ encode v = rewritten r := by
  rw [valueFromRosParam.eq_def] at h
  by_cases hd : maxParamDepth < depth
  · rw [if_pos hd] at h
    cases h
  · have hle : depth ≤ maxParamDepth := by omega
    rw [if_neg hd] at h
    match r with
    | .boolean b =>
        obtain rfl := Except.ok.inj h
        exact ⟨trivial, hle, rfl⟩
    | .int i =>
        obtain rfl := Except.ok.inj h
        refine ⟨trivial, hle, ?_⟩
        rw [encode, rewritten, Int32.toInt32_toInt64]
        · nofun
        · nofun
    | .double d =>
        obtain rfl := Except.ok.inj h
        exact ⟨trivial, hle, rfl⟩
    | .string s =>
        obtain rfl := Except.ok.inj h
        exact ⟨trivial, hle, rfl⟩
    | .array vs =>
        simp only [XmlRpcValue.Wf] at hr
        dsimp only at h
        split at h
        · rename_i values hvalues
          obtain rfl := Except.ok.inj h
          obtain ⟨hwf, hheight, hencode⟩ := encodeAll_of_valuesFromRosArray hr hle hvalues
          refine ⟨hwf, hheight, ?_⟩
          rw [encode, rewritten, hencode]
        · cases h
    | .struct ms =>
        simp only [XmlRpcValue.Wf] at hr
        dsimp only at h
        split at h
        · rename_i members hmembers
          obtain rfl := Except.ok.inj h
          have hordered : (([] : List (String × ParameterValue)).map Prod.fst ++
              ms.map Prod.fst).Pairwise (· < ·) := ordered_iff_keys.mp hr.1
          obtain ⟨rest, rfl, hkeys, hwf, hheight, hencode⟩ :=
            encodeMembers_of_membersFromRosStruct hr.2 hle hordered hmembers
          refine ⟨⟨?_, hwf⟩, hheight, ?_⟩
          · rw [ordered_iff_keys, hkeys, ← ordered_iff_keys]
            exact hr.1
          · rw [encode, rewritten, hencode]
        · cases h
    | .invalid | .dateTime _ | .base64 _ => cases h

theorem encodeAll_of_valuesFromRosArray {vs : List XmlRpcValue} (hvs : XmlRpcValue.AllWf vs)
    {depth : Nat} (hle : depth ≤ maxParamDepth) {values : List ParameterValue}
    (h : valuesFromRosArray vs (depth + 1) = .ok values) :
    AllWf values ∧ depth + heights values ≤ maxParamDepth ∧ encodeAll values = rewrittenAll vs := by
  match vs with
  | [] =>
      obtain rfl := Except.ok.inj h
      exact ⟨trivial, hle, rfl⟩
  | v :: rest =>
      simp only [XmlRpcValue.AllWf] at hvs
      rw [valuesFromRosArray] at h
      split at h
      · cases h
      · rename_i value hvalue
        split at h
        · cases h
        · rename_i others hothers
          obtain rfl := Except.ok.inj h
          obtain ⟨hwf, hheight, hencode⟩ := encode_of_valueFromRosParam hvs.1 hvalue
          obtain ⟨hwf', hheight', hencode'⟩ := encodeAll_of_valuesFromRosArray hvs.2 hle hothers
          refine ⟨⟨hwf, hwf'⟩, ?_, ?_⟩
          · simp only [heights]
            omega
          · rw [encodeAll, rewrittenAll, hencode, hencode']

/-- The loop with `done` already inserted: the members follow it under their own names. -/
theorem encodeMembers_of_membersFromRosStruct {ms : List (String × XmlRpcValue)}
    (hms : XmlRpcValue.MembersWf ms) {depth : Nat} (hle : depth ≤ maxParamDepth)
    {done members : List (String × ParameterValue)}
    (hkeys : (done.map Prod.fst ++ ms.map Prod.fst).Pairwise (· < ·))
    (h : membersFromRosStruct ms (depth + 1) done = .ok members) :
    ∃ rest, members = done ++ rest ∧ rest.map Prod.fst = ms.map Prod.fst ∧ MembersWf rest ∧
      depth + memberHeights rest ≤ maxParamDepth ∧ encodeMembers rest = rewrittenMembers ms := by
  match ms with
  | [] =>
      obtain rfl := Except.ok.inj h
      exact ⟨[], (List.append_nil _).symm, rfl, trivial, hle, rfl⟩
  | (name, v) :: later =>
      simp only [XmlRpcValue.MembersWf] at hms
      rw [membersFromRosStruct] at h
      split at h
      · cases h
      · rename_i value hvalue
        -- the name is above all that is there, so it is inserted at the end
        have hnext : ((done ++ [(name, value)]).map Prod.fst ++ later.map Prod.fst).Pairwise
            (· < ·) := by
          simpa using hkeys
        have hordered : StdMap.Ordered (done ++ [(name, value)]) :=
          ordered_iff_keys.mpr (List.pairwise_append.mp hnext).1
        rw [hordered.emplace_eq] at h
        obtain ⟨hwf, hheight, hencode⟩ := encode_of_valueFromRosParam hms.1 hvalue
        obtain ⟨rest, rfl, hrest, hwf', hheight', hencode'⟩ :=
          encodeMembers_of_membersFromRosStruct hms.2 hle hnext h
        refine ⟨(name, value) :: rest, by simp, by simp [hrest], ⟨hwf, hwf'⟩, ?_, ?_⟩
        · simp only [memberHeights]
          omega
        · rw [encodeMembers, rewrittenMembers, hencode, hencode']

end

/-! ## What comes back -/

mutual

theorem rewritten_eq_self_iff (r : XmlRpcValue) : rewritten r = r ↔ r.NoEmpty := by
  match r with
  | .array [] => simp [rewritten, rewrittenAll, XmlRpcValue.NoEmpty]
  | .array (v :: rest) =>
      have hall := rewrittenAll_eq_self_iff (v :: rest)
      simp only [rewrittenAll] at hall
      simp only [rewritten, rewrittenAll, arrayOf_cons, XmlRpcValue.array.injEq, hall,
        XmlRpcValue.NoEmpty, ne_eq, reduceCtorEq, not_false_eq_true, true_and]
  | .struct [] => simp [rewritten, rewrittenMembers, XmlRpcValue.NoEmpty]
  | .struct ((name, v) :: rest) =>
      have hall := rewrittenMembers_eq_self_iff ((name, v) :: rest)
      simp only [rewrittenMembers] at hall
      simp only [rewritten, rewrittenMembers, structOf_cons, XmlRpcValue.struct.injEq, hall,
        XmlRpcValue.NoEmpty, ne_eq, reduceCtorEq, not_false_eq_true, true_and]
  | .invalid | .boolean _ | .int _ | .double _ | .string _ | .dateTime _ | .base64 _ =>
      simp [rewritten, XmlRpcValue.NoEmpty]

theorem rewrittenAll_eq_self_iff (vs : List XmlRpcValue) :
    rewrittenAll vs = vs ↔ AllNoEmpty vs := by
  match vs with
  | [] => simp [rewrittenAll, AllNoEmpty]
  | v :: rest =>
      rw [rewrittenAll, List.cons.injEq, rewritten_eq_self_iff v, rewrittenAll_eq_self_iff rest,
        AllNoEmpty]

theorem rewrittenMembers_eq_self_iff (ms : List (String × XmlRpcValue)) :
    rewrittenMembers ms = ms ↔ MembersNoEmpty ms := by
  match ms with
  | [] => simp [rewrittenMembers, MembersNoEmpty]
  | (name, v) :: rest =>
      rw [rewrittenMembers, List.cons.injEq, Prod.mk.injEq, rewritten_eq_self_iff v,
        rewrittenMembers_eq_self_iff rest, MembersNoEmpty]
      simp

end

/-- What a parameter that was read is written back as, with its own value and type. -/
theorem toRosParam_of_fromRosParam {name : String} {r : XmlRpcValue} {p : Parameter} (hr : r.Wf)
    (h : fromRosParam name r = .ok p) :
    ∃ v, p.value = some v ∧ toRosParam v p.type 0 = .ok (rewritten r) := by
  obtain ⟨v, hvalue, hread⟩ : ∃ v, p.value = some v ∧ valueFromRosParam r 1 = .ok v := by
    have hsome : p.value.isSome := by
      unfold fromRosParam at h
      split at h
      all_goals first
        | cases h; rfl
        | split at h <;> cases h
          rfl
    obtain ⟨v, hv⟩ := Option.isSome_iff_exists.mp hsome
    exact ⟨v, hv, (fromRosParam_eq_ok_iff name r v).mp ⟨p, h, hv⟩⟩
  obtain ⟨hwf, hheight, hencode⟩ := encode_of_valueFromRosParam hr hread
  refine ⟨v, hvalue, ?_⟩
  have hplain : toRosParam v .none 0 = .ok (rewritten r) := by
    rw [toRosParam_eq v hwf, if_pos (by omega), hencode]
  -- only a double is read with a float hint, and it does not need one
  by_cases hhint : p.type.isFloat = false
  · rw [toRosParam_hint v hhint, hplain]
  · cases r with
    | double d =>
        obtain rfl := Except.ok.inj h
        obtain rfl := Option.some.inj hvalue
        rfl
    | boolean b =>
        obtain rfl := Except.ok.inj h
        exact absurd rfl hhint
    | int i =>
        obtain rfl := Except.ok.inj h
        exact absurd rfl hhint
    | string s =>
        obtain rfl := Except.ok.inj h
        exact absurd rfl hhint
    | invalid | dateTime | base64 | array | struct =>
        simp only [fromRosParam] at h
        split at h
        · obtain rfl := Except.ok.inj h
          exact absurd rfl hhint
        · cases h

/-- The parameter that was read is written back as the value it was read from. -/
def WrittenBack (p : Parameter) (r : XmlRpcValue) : Prop :=
  ∃ v, p.value = some v ∧ toRosParam v p.type 0 = .ok r

/-- **Lossless write-back.** A value that `fromRosParam` accepts comes back unchanged exactly
if no array and no struct in it is empty. -/
theorem written_back_iff {name : String} {r : XmlRpcValue} {p : Parameter} (hr : r.Wf)
    (h : fromRosParam name r = .ok p) : WrittenBack p r ↔ r.NoEmpty := by
  obtain ⟨v, hvalue, hwrite⟩ := toRosParam_of_fromRosParam hr h
  have hback : WrittenBack p r ↔ rewritten r = r := by
    constructor
    · rintro ⟨v', hvalue', hwrite'⟩
      obtain rfl := Option.some.inj (hvalue.symm.trans hvalue')
      exact Except.ok.inj (hwrite.symm.trans hwrite')
    · intro heq
      rw [heq] at hwrite
      exact ⟨v, hvalue, hwrite⟩
  rw [hback, rewritten_eq_self_iff]

theorem written_back_struct :
    WrittenBack ⟨"/p", .none, some (.dict [("gains", .array [.float64 ⟨0⟩, .integer 3])])⟩
      (.struct [("gains", .array [.double ⟨0⟩, .int 3])]) := by
  have hread : fromRosParam "/p" (.struct [("gains", .array [.double ⟨0⟩, .int 3])]) = .ok _ := rfl
  refine (written_back_iff ?_ hread).mpr ?_
  · simp [XmlRpcValue.Wf, XmlRpcValue.MembersWf, XmlRpcValue.AllWf, StdMap.Ordered]
  · simp [XmlRpcValue.NoEmpty, MembersNoEmpty, AllNoEmpty]

/-- An empty list is read as an array and written back as no value at all. -/
theorem not_written_back_empty : ∃ p, fromRosParam "/p" (.array []) = .ok p ∧
    ¬ WrittenBack p (.array []) := by
  refine ⟨_, rfl, ?_⟩
  rintro ⟨v, hvalue, hwrite⟩
  obtain rfl := Option.some.inj hvalue
  cases hwrite

end FoxgloveBridge
