import FoxgloveBridge.Ros.XmlRpc

/-!
# Parameter conversions

The two recursive conversions of `param_interface.cpp`: `toRosParam` turns a
client's parameter value into an XML-RPC value for the master, `fromRosParam`
turns an XML-RPC value into a parameter for the clients. They are written
separately in the source, start their depth counters at different values and
treat containers differently; `FoxgloveBridge/Param/RoundTrip.lean` says when one
undoes the other.
-/

namespace FoxgloveBridge

/-- `foxglove::ParameterType`, the type hint of a parameter. -/
inductive ParameterType
  | none
  | byteArray
  | float64
  | float64Array
  deriving DecidableEq, Repr

/-- The hints that say the parameter is a floating-point one. -/
def ParameterType.isFloat : ParameterType → Bool
  | .float64 | .float64Array => true
  | .none | .byteArray => false

/-- `foxglove::ParameterValue`. A dict is a `std::map`, held as its elements in
key order. -/
inductive ParameterValue
  | bool (value : Bool)
  | integer (value : Int64)
  | float64 (value : Double)
  | string (value : String)
  | array (values : List ParameterValue)
  | dict (members : List (String × ParameterValue))
  deriving Repr

/-- `foxglove::Parameter`. A parameter sent without a value asks for deletion. -/
structure Parameter where
  name : String
  type : ParameterType
  value : Option ParameterValue
  deriving Repr

/-- `MAX_PARAM_DEPTH`. -/
def maxParamDepth : Nat := 128

/-- The `what()` of the error both conversions throw on deep nesting. -/
def tooDeep : String := s!"Parameter value nested deeper than {maxParamDepth}"

/-! ## From the master to the clients -/

mutual

/-- `valueFromRosParam`. -/
def valueFromRosParam (value : XmlRpcValue) (depth : Nat) : Except String ParameterValue :=
  if maxParamDepth < depth then .error tooDeep
  else
    match value with
    | .boolean b => .ok (.bool b)
    | .int i => .ok (.integer i.toInt64)
    | .double d => .ok (.float64 d)
    | .string s => .ok (.string s)
    | .array vs =>
        match valuesFromRosArray vs (depth + 1) with
        | .ok values => .ok (.array values)
        | .error e => .error e
    | .struct ms =>
        match membersFromRosStruct ms (depth + 1) [] with
        | .ok members => .ok (.dict members)
        | .error e => .error e
    | other => .error s!"Unsupported parameter type {other.getType}"

/-- The loop of the `TypeArray` case: `values.push_back` for each element. -/
def valuesFromRosArray (vs : List XmlRpcValue) (depth : Nat) :
    Except String (List ParameterValue) :=
  match vs with
  | [] => .ok []
  | v :: rest =>
      match valueFromRosParam v depth with
      | .error e => .error e
      | .ok value =>
          match valuesFromRosArray rest depth with
          | .error e => .error e
          | .ok values => .ok (value :: values)

/-- The loop of the `TypeStruct` case: `values.insert` for each member. -/
def membersFromRosStruct (ms : List (String × XmlRpcValue)) (depth : Nat)
    (values : List (String × ParameterValue)) :
    Except String (List (String × ParameterValue)) :=
  match ms with
  | [] => .ok values
  | (name, v) :: rest =>
      match valueFromRosParam v depth with
      | .error e => .error e
      | .ok value => membersFromRosStruct rest depth (StdMap.emplace name value values)

end

/-- `fromRosParam`: scalars directly, everything else through
`valueFromRosParam` with the counter already at 1. The parameter constructor
that takes a `double` sets the type hint. -/
def fromRosParam (name : String) (value : XmlRpcValue) : Except String Parameter :=
  match value with
  | .boolean b => .ok ⟨name, .none, some (.bool b)⟩
  | .int i => .ok ⟨name, .none, some (.integer i.toInt64)⟩
  | .double d => .ok ⟨name, .float64, some (.float64 d)⟩
  | .string s => .ok ⟨name, .none, some (.string s)⟩
  | other =>
      match valueFromRosParam other 1 with
      | .ok v => .ok ⟨name, .none, some v⟩
      | .error e => .error e

/-- A converted parameter carries the name it was read under. -/
theorem fromRosParam_name {name : String} {value : XmlRpcValue} {param : Parameter}
    (h : fromRosParam name value = .ok param) : param.name = name := by
  unfold fromRosParam at h
  split at h
  all_goals first
    | cases h; rfl
    | split at h <;> cases h
      rfl

/-! ## From the clients to the master -/

mutual

/-- `toRosParam`. -/
def toRosParam (value : ParameterValue) (type : ParameterType) (depth : Nat) :
    Except String XmlRpcValue :=
  if maxParamDepth < depth then .error tooDeep
  else
    match value with
    | .bool b => .ok (.boolean b)
    | .integer i =>
        -- A whole-valued float arrives as an integer with a type hint.
        if type = .float64 then .ok (.double (Double.ofInt64 i))
        else .ok (.int i.toInt32)
    | .float64 d => .ok (.double d)
    | .string s => .ok (.string s)
    | .array vs => toRosArray vs 0 (depth + 1) .invalid
    | .dict ms => toRosStruct ms (depth + 1) .invalid

/-- The loop of the array case, from index `i` on: `arr[i] = toRosParam(...)`. -/
def toRosArray (vs : List ParameterValue) (i depth : Nat) (arr : XmlRpcValue) :
    Except String XmlRpcValue :=
  match vs with
  | [] => .ok arr
  | v :: rest =>
      match toRosParam v .none depth with
      | .error e => .error e
      | .ok element =>
          match arr.setIndex i element with
          | .error e => .error e
          | .ok arr => toRosArray rest (i + 1) depth arr

/-- The loop of the dict case: `obj[memberName] = toRosParam(...)`. -/
def toRosStruct (ms : List (String × ParameterValue)) (depth : Nat) (obj : XmlRpcValue) :
    Except String XmlRpcValue :=
  match ms with
  | [] => .ok obj
  | (name, v) :: rest =>
      match toRosParam v .none depth with
      | .error e => .error e
      | .ok member =>
          match obj.setMember name member with
          | .error e => .error e
          | .ok obj => toRosStruct rest depth obj

end

example : toRosParam (.array [.integer 8, .dict [("k", .bool true)]]) .none 0 =
    .ok (.array [.int 8, .struct [("k", .boolean true)]]) := by rfl

/-! ## Well-formed values -/

mutual

/-- Every dict inside the value lists its members in key order, as a `std::map`
does. -/
def ParameterValue.Wf : ParameterValue → Prop
  | .array vs => ParameterValue.AllWf vs
  | .dict ms => StdMap.Ordered ms ∧ ParameterValue.MembersWf ms
  | _ => True

def ParameterValue.AllWf : List ParameterValue → Prop
  | [] => True
  | v :: vs => v.Wf ∧ AllWf vs

def ParameterValue.MembersWf : List (String × ParameterValue) → Prop
  | [] => True
  | (_, v) :: ms => v.Wf ∧ MembersWf ms

end

mutual

/-- How many containers the deepest value inside is nested in. -/
def ParameterValue.height : ParameterValue → Nat
  | .array vs => ParameterValue.heights vs
  | .dict ms => ParameterValue.memberHeights ms
  | _ => 0

def ParameterValue.heights : List ParameterValue → Nat
  | [] => 0
  | v :: vs => max (v.height + 1) (heights vs)

def ParameterValue.memberHeights : List (String × ParameterValue) → Nat
  | [] => 0
  | (_, v) :: ms => max (v.height + 1) (memberHeights ms)

end

end FoxgloveBridge
