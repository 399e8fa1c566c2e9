import FoxgloveBridge.Lib.StdMap
import Mathlib.Data.String.Basic

/-!
# XML-RPC values

`XmlRpc::XmlRpcValue` as the bridge uses it: the tagged value, its integer of 32
bits, and the two assignments `value[i] = x` and `value[name] = x`, which turn a
default-constructed (invalid) value into an array or a struct. The accessors throw on a
value of another type; on a value that is not `const` they are more lenient, and make an
invalid value one of the type that is asked for.
-/

namespace FoxgloveBridge

/-- A C++ `double`, kept as its IEEE 754 binary64 bit pattern. -/
structure Double where
  bits : UInt64
  deriving DecidableEq, Repr

namespace Double

/-- `n / 2 ^ k` rounded to the nearest integer, ties to even. -/
def roundShift (n k : Nat) : Nat :=
  let q := n >>> k
  let r := n % 2 ^ k
  if 2 ^ k < 2 * r ∨ (2 ^ k = 2 * r ∧ q % 2 = 1) then q + 1 else q

/-- Exponent and fraction fields of the double nearest to a natural number
below `2 ^ 64`; a carry out of the rounded significand moves into the exponent. -/
def magnitudeBits (n : Nat) : Nat :=
  if n = 0 then 0
  else
    let e := n.log2
    let significand := if e ≤ 52 then n <<< (52 - e) else roundShift n (e - 52)
    (e + 1023) * 2 ^ 52 + (significand - 2 ^ 52)

/-- `static_cast<double>(int64_t)`, in the default rounding mode. -/
def ofInt64 (i : Int64) : Double :=
  let sign := if i < 0 then 2 ^ 63 else 0
  ⟨(sign + magnitudeBits i.toInt.natAbs).toUInt64⟩

example : ofInt64 10 = ⟨0x4024000000000000⟩ := by decide

end Double

/-- The values of `XmlRpc::XmlRpcValue`. A struct is a `std::map`, held as its
elements in key order. -/
inductive XmlRpcValue
  | invalid
  | boolean (value : Bool)
  | int (value : Int32)
  | double (value : Double)
  | string (value : String)
  | dateTime (iso8601 : String)
  | base64 (data : List UInt8)
  | array (values : List XmlRpcValue)
  | struct (members : List (String × XmlRpcValue))
  deriving Repr

namespace XmlRpcValue

/-- `XmlRpcValue::getType`, as the number of the enumerator. -/
def getType : XmlRpcValue → Nat
  | invalid => 0
  | boolean _ => 1
  | int _ => 2
  | double _ => 3
  | string _ => 4
  | dateTime _ => 5
  | base64 _ => 6
  | array _ => 7
  | struct _ => 8

/-- `value[i] = x`: an invalid value becomes an array, an array grows to hold
the index, anything else throws. -/
def setIndex : XmlRpcValue → Nat → XmlRpcValue → Except String XmlRpcValue
  | invalid, i, x => .ok (array ((List.replicate (i + 1) invalid).set i x))
  | array vs, i, x =>
      .ok (array ((vs ++ List.replicate (i + 1 - vs.length) invalid).set i x))
  | _, _, _ => .error "type error: expected an array"

/-- `value[name] = x`: an invalid value becomes a struct, anything but a struct
throws. -/
def setMember : XmlRpcValue → String → XmlRpcValue → Except String XmlRpcValue
  | invalid, name, x => .ok (struct (StdMap.insert name x []))
  | struct ms, name, x => .ok (struct (StdMap.insert name x ms))
  | _, _, _ => .error "type error: expected a struct"

/-- `value.size()`. -/
def size : XmlRpcValue → Except String Nat
  | string s => .ok s.utf8ByteSize
  | base64 data => .ok data.length
  | array vs => .ok vs.length
  | struct ms => .ok ms.length
  | _ => .error "type error"

/-- `value[i]`. An index is only checked on a `const` value; any other grows. -/
def subscript (isConst : Bool) : XmlRpcValue → Nat → Except String XmlRpcValue
  | invalid, _ => if isConst then .error "type error: expected an array" else .ok invalid
  | array vs, i =>
      match vs[i]? with
      | some v => .ok v
      | none => if isConst then .error "range error: array index too large" else .ok invalid
  | _, _ => .error "type error: expected an array"

/-- The conversion to `std::string`. -/
def toText (isConst : Bool) : XmlRpcValue → Except String String
  | string s => .ok s
  | invalid => if isConst then .error "type error" else .ok ""
  | _ => .error "type error"

/-- The conversion to `int`, of a value that is not `const`. -/
def toInt : XmlRpcValue → Except String Int32
  | int i => .ok i
  | invalid => .ok 0
  | _ => .error "type error"

/-- The items a loop up to the size of the value meets, unless it throws. -/
def items : XmlRpcValue → Option (List XmlRpcValue)
  | array vs => some vs
  | string s => if s = "" then some [] else none
  | base64 data => if data = [] then some [] else none
  | struct ms => if ms.isEmpty then some [] else none
  | _ => none

/-- Assigning one past the end appends. -/
@[simp] theorem setIndex_array_length (vs : List XmlRpcValue) (x : XmlRpcValue) :
    (array vs).setIndex vs.length x = .ok (array (vs ++ [x])) := by
  have hpad : vs.length + 1 - vs.length = 1 := by omega
  simp only [setIndex, hpad, List.replicate_one]
  rw [List.set_append_right _ _ (le_refl _)]
  simp

end XmlRpcValue

end FoxgloveBridge
