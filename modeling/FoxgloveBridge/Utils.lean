import Mathlib.Algebra.Group.Nat.Defs

/-!
# Whitelists and saturating conversions

The regular expressions that topics, services and parameters are checked
against. The development uses of an expression only which names it matches.

Parameters that configure a size are integers of a fixed width; they are
clamped when they are read.
-/

namespace FoxgloveBridge

/-- A whitelist: for each regular expression, the names it matches. -/
abbrev Whitelist := List (String → Bool)

/-- `matchesRegex`: some expression of the list matches. -/
def matchesRegex (name : String) (regexPatterns : Whitelist) : Bool :=
  regexPatterns.any fun regex => regex name

/-- `saturatingToSizeT`: clamped to `[max(min, 0), size_t::max]`. -/
def saturatingToSizeT (value min : Int64) : Nat :=
  let min := max min 0
  if value ≤ min then min.toInt.toNat else Nat.min value.toInt.toNat (2 ^ 64 - 1)

/-- A `size_t` of 64 bits holds every value from the lower bound on. -/
theorem saturatingToSizeT_eq (value lower : Int64) :
    (saturatingToSizeT value lower : Int) = max value.toInt (max lower.toInt 0) := by
  have hmin : (max lower 0).toInt = max lower.toInt 0 := by
    show (if lower ≤ 0 then 0 else lower).toInt = max lower.toInt 0
    split
    · next hle => exact (Int.max_eq_right (Int64.le_iff_toInt_le.mp hle)).symm
    · next hle =>
        have hlt := Int64.lt_iff_toInt_lt.mp (Int64.not_le.mp hle)
        exact (Int.max_eq_left (Int.le_of_lt hlt)).symm
  have hbound : value.toInt < 2 ^ 63 := value.toInt_lt
  unfold saturatingToSizeT
  by_cases hle : value ≤ max lower 0
  · have hvalue := Int64.le_iff_toInt_le.mp hle
    rw [if_pos hle]
    omega
  · -- the upper bound of an `int64_t` is below that of a `size_t`
    have hvalue := Int64.lt_iff_toInt_lt.mp (Int64.not_le.mp hle)
    rw [if_neg hle]
    show ((min value.toInt.toNat (2 ^ 64 - 1) : Nat) : Int) = _
    omega

end FoxgloveBridge
