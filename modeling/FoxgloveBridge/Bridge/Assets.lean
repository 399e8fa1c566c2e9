import FoxgloveBridge.Lib.LexicalPath
import Mathlib.Data.List.Infix
import Mathlib.Data.String.Basic

/-!
# Assets

`fetchAsset` hands a URI to the retriever, which decodes its percent-escapes and reads a
file below the directory of a package. A URI may not lead out of there, so it is rejected
if its decoded form has two dots in a row, or if no expression of the allowlist matches.

Strings are bytes here, as `std::string` is. `percentDecode` never throws and undoes every
percent-encoding, so that no mixture of literal and escaped dots and slashes passes
(`assets_guarded`).
-/

namespace FoxgloveBridge

open LexicalPath (Component)

abbrev Bytes := List UInt8

/-- The bytes of a text. -/
def bytes (s : String) : Bytes := s.toUTF8.data.toList

def percent : UInt8 := 0x25

def dot : UInt8 := 0x2e

def slash : UInt8 := 0x2f

/-! ## Decoding -/

/-- `std::isxdigit`. -/
def isxdigit (b : UInt8) : Bool :=
  (0x30 ≤ b && b ≤ 0x39) || (0x41 ≤ b && b ≤ 0x46) || (0x61 ≤ b && b ≤ 0x66)

/-- The value of a hexadecimal digit. -/
def hexValue (b : UInt8) : Nat :=
  if b ≤ 0x39 then b.toNat - 0x30 else if b ≤ 0x46 then b.toNat - 0x37 else b.toNat - 0x57

/-- `std::isspace`. -/
def isspace (b : UInt8) : Bool := b = 0x20 || (0x09 ≤ b && b ≤ 0x0d)

/-- An optional sign, and what follows. -/
def stripSign : Bytes → Bool × Bytes
  | 0x2d :: rest => (true, rest)
  | 0x2b :: rest => (false, rest)
  | rest => (false, rest)

/-- The digits at the start, behind an optional `0x`. -/
def hexDigits : Bytes → Bytes
  | 0x30 :: 0x78 :: d :: rest | 0x30 :: 0x58 :: d :: rest =>
      if isxdigit d then (d :: rest).takeWhile isxdigit else [0x30]
  | rest => rest.takeWhile isxdigit

/-- `std::stoi(s, nullptr, 16)`, which throws if there is no digit, or the number is no
`int`. -/
def stoi (s : Bytes) : Except String Int :=
  let (negative, unsigned) := stripSign (s.dropWhile isspace)
  let digits := hexDigits unsigned
  let magnitude : Int := digits.foldl (fun n d => 16 * n + hexValue d) 0
  let value := if negative then -magnitude else magnitude
  if digits = [] then .error "stoi"
  else if value < -2147483648 ∨ 2147483647 < value then .error "stoi"
  else .ok value

/-- `percentDecode`: a lone percent sign or a malformed escape is left as it is. -/
def percentDecode : Bytes → Except String Bytes
  | b :: x :: y :: rest =>
      if b == percent && isxdigit x && isxdigit y then do
        let byte ← stoi [x, y]
        let out ← percentDecode rest
        return UInt8.ofInt byte :: out
      else do
        let out ← percentDecode (x :: y :: rest)
        return b :: out
  | b :: rest => do
      let out ← percentDecode rest
      return b :: out
  | [] => .ok []

/-! ## Fetching -/

/-- What the client is answered. -/
inductive AssetResponse
  | ok (data : Bytes)
  | error (message : Bytes)
  deriving DecidableEq

/-- The expressions of the allowlist; matching may throw. -/
abbrev AssetAllowlist := List (Bytes → Except String Bool)

def matchesAllowlist (uri : Bytes) : AssetAllowlist → Except String Bool
  | [] => .ok false
  | regex :: rest => do if ← regex uri then return true else matchesAllowlist uri rest

/-- The guard at the start of `fetchAsset`. -/
def checkAssetUri (allowlist : AssetAllowlist) (uri : Bytes) : Except String Unit := do
  if [dot, dot] <:+: (← percentDecode uri) then throw "Asset URI not allowed"
  if !(← matchesAllowlist uri allowlist) then throw "Asset URI not allowed"

/-- `fetchAsset`, with the URIs it passes on to the retriever. -/
def fetchAsset (allowlist : AssetAllowlist) (get : Bytes → Except String Bytes) (uri : Bytes) :
    List Bytes × AssetResponse :=
  let failed := AssetResponse.error (bytes "Failed to retrieve asset " ++ uri)
  match checkAssetUri allowlist uri with
  | .error _ => ([], failed)
  | .ok () =>
      match get uri with
      | .error _ => ([uri], failed)
      | .ok data => ([uri], .ok data)

/-! ## Paths and encodings -/

/-- One segment of a path. -/
def component (segment : Bytes) : Component Bytes :=
  if segment = [] ∨ segment = [dot] then .here
  else if segment = [dot, dot] then .up
  else .name segment

/-- The components of a path, between the slashes. -/
def components (path : Bytes) : List (Component Bytes) := (path.splitOn slash).map component

/-- A percent-encoding of some bytes: each is written literally, or as an escape with
digits in either case. A percent sign is only written as an escape. -/
inductive PercentEncodes : Bytes → Bytes → Prop
  | nil : PercentEncodes [] []
  | literal {b : UInt8} {p e : Bytes} : b ≠ percent → PercentEncodes p e →
      PercentEncodes (b :: p) (b :: e)
  | escape {b x y : UInt8} {p e : Bytes} : isxdigit x = true → isxdigit y = true →
      b.toNat = 16 * hexValue x + hexValue y → PercentEncodes p e →
      PercentEncodes (b :: p) (percent :: x :: y :: e)

/-! ## The decoder -/

theorem isxdigit_iff {b : UInt8} : isxdigit b = true ↔
    (48 ≤ b.toNat ∧ b.toNat ≤ 57) ∨ (65 ≤ b.toNat ∧ b.toNat ≤ 70) ∨
      (97 ≤ b.toNat ∧ b.toNat ≤ 102) := by
  simp [isxdigit, UInt8.le_iff_toNat_le, or_assoc]

theorem hexValue_lt {b : UInt8} (h : isxdigit b = true) : hexValue b < 16 := by
  rw [isxdigit_iff] at h
  simp only [hexValue, UInt8.le_iff_toNat_le]
  split
  · simp at *
    omega
  · split <;> simp at * <;> omega

/-- Two digits are a number of a byte. -/
theorem stoi_digits {x y : UInt8} (hx : isxdigit x = true) (hy : isxdigit y = true) :
    stoi [x, y] = .ok ↑(16 * hexValue x + hexValue y) := by
  have hx' := isxdigit_iff.mp hx
  have hspace : isspace x = false := by
    simp only [isspace, Bool.or_eq_false_iff, Bool.and_eq_false_iff, decide_eq_false_iff_not,
      UInt8.le_iff_toNat_le, ← UInt8.toNat_inj]
    simp
    omega
  have hminus : x ≠ 0x2d := by
    rintro rfl
    simp at hx'
  have hplus : x ≠ 0x2b := by
    rintro rfl
    simp at hx'
  have hxv := hexValue_lt hx
  have hyv := hexValue_lt hy
  have hstrip : stripSign ([x, y].dropWhile isspace) = (false, [x, y]) := by
    rw [List.dropWhile_cons_of_neg (by simp [hspace])]
    unfold stripSign
    split <;> simp_all
  have hdigits : hexDigits [x, y] = [x, y] := by
    unfold hexDigits
    split <;> simp_all
  simp only [stoi, hstrip, hdigits]
  simp only [List.foldl_cons, List.foldl_nil, reduceCtorEq, if_false]
  rw [if_neg (by simp; omega)]
  simp

/-- What `percentDecode` returns. -/
def decoded : Bytes → Bytes
  | b :: x :: y :: rest =>
      if b == percent && isxdigit x && isxdigit y then
        UInt8.ofNat (16 * hexValue x + hexValue y) :: decoded rest
      else b :: decoded (x :: y :: rest)
  | b :: rest => b :: decoded rest
  | [] => []

theorem ofInt_byte {n : Nat} (h : n < 256) : UInt8.ofInt n = UInt8.ofNat n := by
  have hmod : ((n : Int) % 2 ^ 8).toNat = n := by omega
  rw [UInt8.ofInt, hmod]

/-- The decoder does not throw. -/
theorem percentDecode_eq (e : Bytes) : percentDecode e = .ok (decoded e) := by
  fun_induction decoded e with
  | case1 b x y rest hescape ih =>
      obtain ⟨⟨-, hx⟩, hy⟩ : (b = percent ∧ isxdigit x = true) ∧ isxdigit y = true := by
        simpa using hescape
      have hbyte : 16 * hexValue x + hexValue y < 256 := by
        have hxv := hexValue_lt hx
        have hyv := hexValue_lt hy
        omega
      rw [percentDecode, if_pos hescape, stoi_digits hx hy, ih, ← ofInt_byte hbyte]
      rfl
  | case2 b x y rest hliteral ih =>
      rw [percentDecode, if_neg hliteral, ih]
      rfl
  | case3 b rest hshort ih =>
      have hstep :
          percentDecode (b :: rest) = (percentDecode rest).bind fun out => .ok (b :: out) := by
        match rest, hshort with
        | [], _ => rfl
        | [_], _ => rfl
        | x :: y :: more, hshort => exact absurd rfl (hshort x y more)
      rw [hstep, ih]
      rfl
  | case4 => rfl

/-- A byte that starts no escape is decoded as it is. -/
theorem decoded_cons_of_ne {b : UInt8} (hb : b ≠ percent) (rest : Bytes) :
    decoded (b :: rest) = b :: decoded rest := by
  match rest with
  | [] => rfl
  | [_] => rfl
  | _ :: _ :: _ => rw [decoded, if_neg (by simp [hb])]

/-- Every percent-encoding is undone. -/
theorem PercentEncodes.decoded_eq {p e : Bytes} (h : PercentEncodes p e) : decoded e = p := by
  induction h with
  | nil => rfl
  | literal hb _ ih => rw [decoded_cons_of_ne hb, ih]
  | @escape b x y p e hx hy hvalue _ ih =>
      have hescape : (percent == percent && isxdigit x && isxdigit y) = true := by
        simp [hx, hy]
      rw [decoded, if_pos hescape, ih, ← hvalue, UInt8.ofNat_toNat]

theorem isxdigit_slash : isxdigit slash = false := by decide

/-- No escape reaches over a slash. -/
theorem decoded_append_slash (pre rest : Bytes) :
    decoded (pre ++ slash :: rest) = decoded pre ++ slash :: decoded rest := by
  fun_induction decoded pre with
  | case1 b x y more hescape ih =>
      rw [List.cons_append, List.cons_append, List.cons_append, decoded, if_pos hescape, ih,
        List.cons_append]
  | case2 b x y more hliteral ih =>
      have hstep : decoded (b :: x :: y :: more ++ slash :: rest) =
          b :: decoded (x :: y :: more ++ slash :: rest) := by
        show decoded (b :: x :: y :: (more ++ slash :: rest)) = _
        rw [decoded, if_neg hliteral]
        rfl
      rw [hstep, ih, List.cons_append]
  | case3 b more hshort ih =>
      -- a percent sign this close to the slash starts no escape
      have hstep : decoded (b :: more ++ slash :: rest) =
          b :: decoded (more ++ slash :: rest) := by
        match more, hshort with
        | [], _ =>
            cases rest with
            | nil => rfl
            | cons z rest =>
                show decoded (b :: slash :: z :: rest) = _
                rw [decoded, if_neg (by simp [isxdigit_slash])]
                rfl
        | [x], _ =>
            show decoded (b :: x :: slash :: rest) = _
            rw [decoded, if_neg (by simp [isxdigit_slash])]
            rfl
        | x :: y :: more, hshort => exact absurd rfl (hshort x y more)
      rw [hstep, ih, List.cons_append]
  | case4 => exact decoded_cons_of_ne (by decide) rest

/-! ## The guard -/

/-- A segment stands in its path. -/
theorem infix_of_mem_splitOn {s path : Bytes} (h : s ∈ path.splitOn slash) : s <:+: path := by
  have hjoin : ∀ segments : List Bytes, s ∈ segments → s <:+: [slash].intercalate segments := by
    intro segments hmem
    induction segments with
    | nil => cases hmem
    | cons first rest ih =>
        by_cases hrest : rest = []
        · subst hrest
          obtain rfl := List.mem_singleton.mp hmem
          simp
        · rw [List.intercalate_cons_of_ne_nil hrest]
          rcases List.mem_cons.mp hmem with rfl | hlater
          · rw [List.append_assoc]
            exact List.infix_append_left
          · exact List.infix_append_of_infix_right (ih hlater)
  have hpath := hjoin _ h
  rwa [List.intercalate_splitOn] at hpath

theorem component_eq_up_iff {s : Bytes} : component s = .up ↔ s = [dot, dot] := by
  unfold component
  split
  · rename_i hhere
    rcases hhere with rfl | rfl <;> simp
  · split <;> simp_all

/-- Without two dots in a row there is no component that goes up. -/
theorem up_notMem_components {path : Bytes} (h : ¬ [dot, dot] <:+: path) :
    Component.up ∉ components path := by
  intro hmem
  obtain ⟨s, hs, hup⟩ := List.mem_map.mp hmem
  rw [component_eq_up_iff] at hup
  subst hup
  exact h (infix_of_mem_splitOn hs)

/-- A URI that passes the guard has no two dots in a row once it is decoded. -/
theorem not_infix_of_checkAssetUri {allowlist : AssetAllowlist} {uri : Bytes}
    (h : checkAssetUri allowlist uri = .ok ()) : ¬ [dot, dot] <:+: decoded uri := by
  intro hdots
  unfold checkAssetUri at h
  rw [percentDecode_eq] at h
  simp only [bind, Except.bind, hdots, if_true] at h
  cases h

/-- Only a URI that passes the guard is passed on, as it is. -/
theorem of_mem_fetchAsset {allowlist : AssetAllowlist} {get : Bytes → Except String Bytes}
    {uri fetched : Bytes} (h : fetched ∈ (fetchAsset allowlist get uri).1) :
    fetched = uri ∧ checkAssetUri allowlist uri = .ok () := by
  unfold fetchAsset at h
  cases hcheck : checkAssetUri allowlist uri with
  | error e =>
      rw [hcheck] at h
      cases h
  | ok =>
      rw [hcheck] at h
      refine ⟨?_, rfl⟩
      cases hget : get uri <;> simpa [hget] using h

/-- A URI with two dots in a row once it is decoded is not passed on. -/
theorem fetchAsset_of_infix (allowlist : AssetAllowlist) (get : Bytes → Except String Bytes)
    {uri : Bytes} (h : [dot, dot] <:+: decoded uri) :
    fetchAsset allowlist get uri =
      ([], .error (bytes "Failed to retrieve asset " ++ uri)) := by
  unfold fetchAsset
  cases hcheck : checkAssetUri allowlist uri with
  | error e => rfl
  | ok => exact absurd h (not_infix_of_checkAssetUri hcheck)

/-- **No asset outside its package.** The decoder undoes every percent-encoding and never
throws. Whatever part of a fetched URI is taken for the path, once decoded it stays inside
any root; so does the decoded part behind any slash. And a URI with a segment `..` in its
decoded path is answered with an error and not fetched. -/
theorem assets_guarded (allowlist : AssetAllowlist) (get : Bytes → Except String Bytes)
    (uri : Bytes) :
    (∀ p e, PercentEncodes p e → percentDecode e = .ok p) ∧
      (∀ e, ∃ p, percentDecode e = .ok p) ∧
      (∀ fetched ∈ (fetchAsset allowlist get uri).1,
        (∀ pre path, percentDecode fetched = .ok (pre ++ path) →
          ∀ root, LexicalPath.Inside root (components path)) ∧
        ∀ pre rest path, fetched = pre ++ slash :: rest → percentDecode rest = .ok path →
          ∀ root, LexicalPath.Inside root (components path)) ∧
      ∀ pre path, percentDecode uri = .ok (pre ++ path) → Component.up ∈ components path →
        fetchAsset allowlist get uri =
          ([], .error (bytes "Failed to retrieve asset " ++ uri)) := by
  refine ⟨?_, fun e => ⟨_, percentDecode_eq e⟩, ?_, ?_⟩
  · intro p e h
    rw [percentDecode_eq, h.decoded_eq]
  · intro fetched hfetched
    obtain ⟨rfl, hcheck⟩ := of_mem_fetchAsset hfetched
    have hdots := not_infix_of_checkAssetUri hcheck
    refine ⟨?_, ?_⟩
    · intro pre path hdecoded root
      rw [percentDecode_eq] at hdecoded
      rw [Except.ok.inj hdecoded] at hdots
      exact LexicalPath.inside_of_up_notMem (up_notMem_components fun h =>
        hdots (List.infix_append_of_infix_right h)) root
    · intro pre rest path hsplit hdecoded root
      rw [percentDecode_eq] at hdecoded
      obtain rfl := Except.ok.inj hdecoded
      rw [hsplit, decoded_append_slash] at hdots
      exact LexicalPath.inside_of_up_notMem (up_notMem_components fun h =>
        hdots (List.infix_append_of_infix_right (List.infix_cons h))) root
  · intro pre path hdecoded hup
    rw [percentDecode_eq] at hdecoded
    refine fetchAsset_of_infix allowlist get ?_
    rw [Except.ok.inj hdecoded]
    by_contra hdots
    exact up_notMem_components (fun h => hdots (List.infix_append_of_infix_right h)) hup

/-- One of the two dots is an escape, the other is literal. -/
example : fetchAsset [fun _ => .ok true] .ok (bytes "package://p/%2e./secret") =
    ([], .error (bytes "Failed to retrieve asset package://p/%2e./secret")) := by decide

end FoxgloveBridge
