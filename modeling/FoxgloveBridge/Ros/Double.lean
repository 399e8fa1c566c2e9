import FoxgloveBridge.Ros.XmlRpc
import Mathlib.Algebra.Order.Field.Rat
import Mathlib.Tactic.FieldSimp
import Mathlib.Tactic.Linarith
import Mathlib.Tactic.Positivity
import Mathlib.Tactic.Ring

/-!
# The number in a double

The numeric value of a `double`, and when an integer of 64 bits survives the conversion to
one: if it has a significand of 53 bits, that is, if it is a number below 2^53 times a
power of two.
-/

namespace FoxgloveBridge

namespace Double

def exponentField (d : Double) : Nat := d.bits.toNat / 2 ^ 52 % 2 ^ 11

def fractionField (d : Double) : Nat := d.bits.toNat % 2 ^ 52

/-- The magnitude that the two fields of a finite double stand for. -/
def magnitude (exponent fraction : Nat) : ℚ :=
  if exponent = 0 then fraction / 2 ^ 1074
  else (2 ^ 52 + fraction) * 2 ^ exponent / 2 ^ 1075

/-- The number a double stands for, unless it is infinite or no number. -/
def toRat? (d : Double) : Option ℚ :=
  if d.exponentField = 2047 then none
  else
    let m := magnitude d.exponentField d.fractionField
    some (if 2 ^ 63 ≤ d.bits.toNat then -m else m)

/-- The significand of the double nearest to a number, of 53 bits or just above. -/
def significand (n : Nat) : Nat :=
  if n.log2 ≤ 52 then n <<< (52 - n.log2) else roundShift n (n.log2 - 52)

/-- The number nearest to `n` that has a double. -/
def rounded (n : Nat) : Nat :=
  if n.log2 ≤ 52 then n else roundShift n (n.log2 - 52) * 2 ^ (n.log2 - 52)

/-- The number has a significand of 53 bits. -/
def HasSignificand (n : Nat) : Prop := ∃ m k, m < 2 ^ 53 ∧ n = m * 2 ^ k

/-! ## Rounding -/

theorem roundShift_mul_eq_self_iff (n k : Nat) : roundShift n k * 2 ^ k = n ↔ 2 ^ k ∣ n := by
  constructor
  · intro h
    exact ⟨roundShift n k, by rw [Nat.mul_comm, h]⟩
  · rintro ⟨q, rfl⟩
    have hpos : 0 < 2 ^ k := Nat.two_pow_pos k
    have hshift : (2 ^ k * q) >>> k = q := by
      rw [Nat.shiftRight_eq_div_pow, Nat.mul_div_cancel_left q hpos]
    have hrest : 2 ^ k * q % 2 ^ k = 0 := Nat.mul_mod_right _ _
    have hround : roundShift (2 ^ k * q) k = q := by
      simp only [roundShift, hshift, hrest]
      rw [if_neg]
      omega
    rw [hround, Nat.mul_comm]

/-- A rounded number is the number itself exactly if it has a significand of 53 bits. -/
theorem rounded_eq_self_iff (n : Nat) : rounded n = n ↔ HasSignificand n := by
  unfold rounded
  by_cases hsmall : n.log2 ≤ 52
  · have hlt : n < 2 ^ 53 := by
      by_cases hzero : n = 0
      · subst hzero
        exact Nat.two_pow_pos 53
      · exact (Nat.log2_lt hzero).mp (by omega)
    rw [if_pos hsmall]
    exact iff_of_true rfl ⟨n, 0, hlt, by rw [pow_zero, Nat.mul_one]⟩
  · have hne : n ≠ 0 := by
      rintro rfl
      exact hsmall (by simp)
    obtain ⟨k, hk⟩ : ∃ k, n.log2 = 52 + k := ⟨n.log2 - 52, by omega⟩
    have hlow : 2 ^ 52 * 2 ^ k ≤ n := by
      rw [← pow_add, ← hk]
      exact Nat.log2_self_le hne
    have hhigh : n < 2 ^ 53 * 2 ^ k := by
      rw [← pow_add]
      exact (Nat.log2_lt hne).mp (by omega)
    have hsub : n.log2 - 52 = k := by omega
    rw [if_neg hsmall, hsub, roundShift_mul_eq_self_iff]
    constructor
    · rintro ⟨q, rfl⟩
      refine ⟨q, k, ?_, Nat.mul_comm _ _⟩
      rw [Nat.mul_comm (2 ^ 53)] at hhigh
      exact Nat.lt_of_mul_lt_mul_left hhigh
    · rintro ⟨m, j, hm, rfl⟩
      -- the power of two is at least the one the rounding shifts by
      have hle : k ≤ j := by
        by_contra hlt
        have hpow : 2 ^ (j + 1) ≤ 2 ^ k := Nat.pow_le_pow_right (by decide) (by omega)
        have hmul : m * 2 ^ j < 2 ^ 53 * 2 ^ j :=
          Nat.mul_lt_mul_of_pos_right hm (Nat.two_pow_pos j)
        rw [pow_succ] at hpow
        omega
      exact (pow_dvd_pow 2 hle).mul_left m

/-! ## The conversion -/

theorem significand_bounds {n : Nat} (hn : n ≠ 0) :
    2 ^ 52 ≤ significand n ∧ significand n ≤ 2 ^ 53 := by
  have hlow := Nat.log2_self_le hn
  have hhigh : n < 2 ^ (n.log2 + 1) := Nat.lt_log2_self
  unfold significand
  by_cases hsmall : n.log2 ≤ 52
  · obtain ⟨j, hj⟩ : ∃ j, 52 = n.log2 + j := ⟨52 - n.log2, by omega⟩
    have hsub : 52 - n.log2 = j := by omega
    rw [if_pos hsmall, hsub, Nat.shiftLeft_eq]
    have h52 : (2 : Nat) ^ 52 = 2 ^ n.log2 * 2 ^ j := by rw [← pow_add, ← hj]
    have h53 : (2 : Nat) ^ 53 = 2 ^ (n.log2 + 1) * 2 ^ j := by
      rw [← pow_add, show 53 = n.log2 + 1 + j by omega]
    rw [h52, h53]
    exact ⟨Nat.mul_le_mul_right _ hlow, Nat.mul_le_mul_right _ hhigh.le⟩
  · obtain ⟨k, hk⟩ : ∃ k, n.log2 = 52 + k := ⟨n.log2 - 52, by omega⟩
    have hsub : n.log2 - 52 = k := by omega
    rw [if_neg hsmall, hsub]
    rw [hk, pow_add] at hlow
    rw [hk, show 52 + k + 1 = 53 + k by omega, pow_add] at hhigh
    have hq : n >>> k = n / 2 ^ k := Nat.shiftRight_eq_div_pow n k
    have hqlow : 2 ^ 52 ≤ n / 2 ^ k := (Nat.le_div_iff_mul_le (Nat.two_pow_pos k)).mpr hlow
    have hqhigh : n / 2 ^ k < 2 ^ 53 := (Nat.div_lt_iff_lt_mul (Nat.two_pow_pos k)).mpr hhigh
    simp only [roundShift, hq]
    split <;> omega

theorem significand_mul (n : Nat) :
    (significand n : ℚ) * 2 ^ n.log2 = rounded n * 2 ^ 52 := by
  unfold significand rounded
  by_cases hsmall : n.log2 ≤ 52
  · obtain ⟨j, hj⟩ : ∃ j, 52 = n.log2 + j := ⟨52 - n.log2, by omega⟩
    have hsub : 52 - n.log2 = j := by omega
    have h52 : (2 : ℚ) ^ 52 = 2 ^ n.log2 * 2 ^ j := by rw [← pow_add, ← hj]
    rw [if_pos hsmall, if_pos hsmall, hsub, Nat.shiftLeft_eq, h52]
    push_cast
    ring
  · obtain ⟨k, hk⟩ : ∃ k, n.log2 = 52 + k := ⟨n.log2 - 52, by omega⟩
    have hsub : n.log2 - 52 = k := by omega
    rw [if_neg hsmall, if_neg hsmall, hsub, hk, pow_add]
    push_cast
    ring

theorem magnitudeBits_of_ne_zero {n : Nat} (hn : n ≠ 0) :
    magnitudeBits n = (n.log2 + 1023) * 2 ^ 52 + (significand n - 2 ^ 52) := if_neg hn

theorem magnitude_of_ne_zero {exponent : Nat} (h : exponent ≠ 0) (fraction : Nat) :
    magnitude exponent fraction = (2 ^ 52 + fraction) * 2 ^ exponent / 2 ^ 1075 := if_neg h

/-- The two fields stand for the rounded number, also where the rounding carries. -/
theorem magnitude_magnitudeBits (n : Nat) :
    magnitude (magnitudeBits n / 2 ^ 52) (magnitudeBits n % 2 ^ 52) = rounded n := by
  by_cases hn : n = 0
  · subst hn
    simp [magnitudeBits, magnitude, rounded]
  · obtain ⟨hlow, hhigh⟩ := significand_bounds hn
    have hmul := significand_mul n
    rw [magnitudeBits_of_ne_zero hn]
    generalize n.log2 = e at hmul ⊢
    generalize significand n = s at hlow hhigh hmul ⊢
    have h1075 : (2 : ℚ) ^ 1075 = 2 ^ 1023 * 2 ^ 52 := by rw [← pow_add]
    by_cases hcarry : s = 2 ^ 53
    · have hexp : ((e + 1023) * 2 ^ 52 + (s - 2 ^ 52)) / 2 ^ 52 = e + 1024 := by omega
      have hfrac : ((e + 1023) * 2 ^ 52 + (s - 2 ^ 52)) % 2 ^ 52 = 0 := by omega
      rw [hexp, hfrac, magnitude_of_ne_zero (by omega), h1075, pow_succ, pow_add]
      rw [hcarry] at hmul
      push_cast at hmul ⊢
      field_simp
      linarith
    · have hexp : ((e + 1023) * 2 ^ 52 + (s - 2 ^ 52)) / 2 ^ 52 = e + 1023 := by omega
      have hfrac : ((e + 1023) * 2 ^ 52 + (s - 2 ^ 52)) % 2 ^ 52 = s - 2 ^ 52 := by omega
      rw [hexp, hfrac, magnitude_of_ne_zero (by omega), h1075, pow_add, Nat.cast_sub hlow]
      push_cast
      field_simp
      linarith

theorem magnitudeBits_lt {n : Nat} (hn : n < 2 ^ 64) : magnitudeBits n < 2047 * 2 ^ 52 := by
  by_cases hzero : n = 0
  · subst hzero
    exact Nat.pos_of_ne_zero (by decide)
  · have hhigh := (significand_bounds hzero).2
    have hlog : n.log2 < 64 := (Nat.log2_lt hzero).mpr hn
    rw [magnitudeBits_of_ne_zero hzero]
    omega

/-- The double of an integer stands for the rounded magnitude, with the sign. -/
theorem toRat?_ofInt64 (i : Int64) :
    (ofInt64 i).toRat? = some (if i < 0 then -(rounded i.toInt.natAbs : ℚ)
      else rounded i.toInt.natAbs) := by
  have hbound : i.toInt.natAbs < 2 ^ 64 := by
    have := i.toInt_lt
    have := i.le_toInt
    omega
  have hbits := magnitudeBits_lt hbound
  have hmag := magnitude_magnitudeBits i.toInt.natAbs
  have hnat : (ofInt64 i).bits.toNat =
      (if i < 0 then 2 ^ 63 else 0) + magnitudeBits i.toInt.natAbs := by
    show ((if i < 0 then 2 ^ 63 else 0) + magnitudeBits i.toInt.natAbs).toUInt64.toNat = _
    rw [Nat.toUInt64_eq, UInt64.toNat_ofNat']
    split <;> omega
  rw [← hmag]
  generalize magnitudeBits i.toInt.natAbs = m at hbits hnat ⊢
  unfold toRat? exponentField fractionField
  rw [hnat]
  by_cases hneg : i < 0
  · have hexp : (2 ^ 63 + m) / 2 ^ 52 % 2 ^ 11 = m / 2 ^ 52 := by omega
    have hfrac : (2 ^ 63 + m) % 2 ^ 52 = m % 2 ^ 52 := by omega
    simp only [if_pos hneg, hexp, hfrac]
    rw [if_neg (by omega), if_pos (by omega)]
  · have hexp : (0 + m) / 2 ^ 52 % 2 ^ 11 = m / 2 ^ 52 := by omega
    have hfrac : (0 + m) % 2 ^ 52 = m % 2 ^ 52 := by omega
    simp only [if_neg hneg, hexp, hfrac]
    rw [if_neg (by omega), if_neg (by omega)]

/-- **Exact conversion.** The double keeps the value of the integer exactly if the magnitude
has a significand of 53 bits. -/
theorem toRat?_ofInt64_eq_iff (i : Int64) :
    (ofInt64 i).toRat? = some (i.toInt : ℚ) ↔ HasSignificand i.toInt.natAbs := by
  rw [toRat?_ofInt64, Option.some.injEq, ← rounded_eq_self_iff]
  by_cases hneg : i < 0
  · have hlt : i.toInt < 0 := Int64.lt_iff_toInt_lt.mp hneg
    have habs : (i.toInt : ℚ) = -(i.toInt.natAbs : ℚ) := by
      have h : -(i.toInt.natAbs : Int) = i.toInt := by omega
      rw [← Int.cast_natCast, ← Int.cast_neg, h]
    rw [if_pos hneg, habs, neg_inj, Nat.cast_inj]
  · have hle : 0 ≤ i.toInt := by
      by_contra hlt
      exact hneg (Int64.lt_iff_toInt_lt.mpr (by simpa using hlt))
    have habs : (i.toInt : ℚ) = (i.toInt.natAbs : ℚ) := by
      have h : (i.toInt.natAbs : Int) = i.toInt := by omega
      rw [← Int.cast_natCast, h]
    rw [if_neg hneg, habs, Nat.cast_inj]

end Double

end FoxgloveBridge
