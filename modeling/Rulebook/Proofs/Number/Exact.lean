import Mathlib.Data.Rat.Cast.Order
import Mathlib.Order.WithBot
import Mathlib.Tactic.Ring
import Rulebook.Value

/-! Exact values as rational numbers and two infinities. The value of a binary64 number is read off
its exponent and its fraction, and places on the line are in the order of these values. -/
namespace Rulebook

abbrev Extended := WithBot (WithTop ℚ)

namespace Binary64

/-- The magnitude with the given exponent and fraction. The least exponent has no leading one. -/
def magnitude (exponent fraction : Nat) : ℚ :=
  if exponent = 0 then (fraction / 2 ^ 52) * 2 ^ (-1022 : ℤ)
  else (1 + fraction / 2 ^ 52) * 2 ^ ((exponent : ℤ) - 1023)

def extended? : Binary64 → Option Extended
  | nan => none
  | infinite true => some ⊥
  | infinite false => some ⊤
  | finite negative ordinal =>
    let size := magnitude (ordinal.val / 2 ^ 52) (ordinal.val % 2 ^ 52)
    some ((if negative then -size else size : ℚ) : WithTop ℚ)

theorem units_of_exponent_zero {ordinal : Nat} (least : ordinal / 2 ^ 52 = 0) :
    units ordinal = ordinal % 2 ^ 52 := by
  rw [units, least, Nat.zero_sub, Nat.zero_mul, Nat.sub_zero, Nat.pow_zero, Nat.mul_one]
  omega

theorem units_of_exponent_succ {ordinal shift : Nat} (above : ordinal / 2 ^ 52 = shift + 1) :
    units ordinal = (2 ^ 52 + ordinal % 2 ^ 52) * 2 ^ shift := by
  have fraction : ordinal - shift * 2 ^ 52 = 2 ^ 52 + ordinal % 2 ^ 52 := by omega
  rw [units, above, Nat.add_sub_cancel, fraction]

theorem magnitude_eq (ordinal : Nat) :
    magnitude (ordinal / 2 ^ 52) (ordinal % 2 ^ 52) = (units ordinal : ℚ) * 2 ^ (-1074 : ℤ) := by
  cases exponent : ordinal / 2 ^ 52 with
  | zero =>
    have power : (2 : ℚ) ^ (-1074 : ℤ) = 2 ^ (-1022 : ℤ) / 2 ^ 52 := by
      rw [show (-1074 : ℤ) = -1022 - (52 : ℕ) by norm_num, zpow_sub₀ two_ne_zero, zpow_natCast]
    rw [units_of_exponent_zero exponent, magnitude, if_pos rfl, power]
    ring
  | succ shift =>
    have power : (2 : ℚ) ^ (((shift + 1 : ℕ) : ℤ) - 1023) =
        2 ^ shift * 2 ^ 52 * 2 ^ (-1074 : ℤ) := by
      rw [show ((shift + 1 : ℕ) : ℤ) - 1023 = (shift + 52 : ℕ) + -1074 by push_cast; ring,
        zpow_add₀ two_ne_zero, zpow_natCast, pow_add]
    rw [units_of_exponent_succ exponent, magnitude, if_neg (Nat.succ_ne_zero shift), power]
    generalize ordinal % 2 ^ 52 = fraction
    generalize (2 : ℚ) ^ (-1074 : ℤ) = unit
    push_cast
    ring

end Binary64

namespace Quantity

/-- The value of a place, which counts units of `2 ^ (-1074)`. -/
def extended : Quantity → Extended
  | negativeInfinity => ⊥
  | units value => ((value * 2 ^ (-1074 : ℤ) : ℚ) : WithTop ℚ)
  | positiveInfinity => ⊤

theorem units_lt_units {a b : ℤ} (below : a < b) :
    (a : ℚ) * 2 ^ (-1074 : ℤ) < b * 2 ^ (-1074 : ℤ) :=
  mul_lt_mul_of_pos_right (Int.cast_lt.mpr below) (zpow_pos two_pos _)

theorem extended_ofInt (value : ℤ) : (ofInt value).extended = ((value : ℚ) : WithTop ℚ) := by
  have one : (2 : ℚ) ^ 1074 * 2 ^ (-1074 : ℤ) = 1 := by
    rw [← zpow_natCast, ← zpow_add₀ two_ne_zero]
    rfl
  rw [ofInt, extended, Int.cast_mul, Int.cast_pow, Int.cast_ofNat, mul_assoc, one, mul_one]

theorem compare_compares (a b : Quantity) : (a.compare b).Compares a.extended b.extended := by
  cases a with
  | negativeInfinity =>
    cases b with
    | negativeInfinity => rfl
    | units value => exact WithBot.bot_lt_coe _
    | positiveInfinity => exact WithBot.bot_lt_coe _
  | positiveInfinity =>
    cases b with
    | negativeInfinity => exact WithBot.bot_lt_coe _
    | units value => exact WithBot.coe_lt_coe.mpr (WithTop.coe_lt_top _)
    | positiveInfinity => rfl
  | units value =>
    cases b with
    | negativeInfinity => exact WithBot.bot_lt_coe _
    | positiveInfinity => exact WithBot.coe_lt_coe.mpr (WithTop.coe_lt_top _)
    | units other =>
      have mono : StrictMono fun value : ℤ => (units value).extended := fun a b below =>
        WithBot.coe_lt_coe.mpr (WithTop.coe_lt_coe.mpr (units_lt_units below))
      exact mono.compares.mpr (compare_iff value other |>.mp rfl)

end Quantity

namespace Literal

def extended? : Literal → Option Extended
  | integer value => some ((value : ℚ) : WithTop ℚ)
  | float value => value.extended?
  | _ => none

def IsNumber (literal : Literal) : Prop := literal.kind = .number ∧ literal ≠ .float .nan

instance (literal : Literal) : Decidable literal.IsNumber :=
  inferInstanceAs (Decidable (_ ∧ _))

theorem extended?_eq {literal : Literal} (kind : literal.kind = .number) :
    literal.extended? = literal.quantity?.map Quantity.extended := by
  cases literal with
  | boolean value => cases kind
  | text value => cases kind
  | integer value => rw [quantity?, Option.map_some, Quantity.extended_ofInt, extended?]
  | float value =>
    cases value with
    | nan => rfl
    | infinite negative => cases negative <;> rfl
    | finite negative ordinal =>
      simp only [extended?, quantity?, Binary64.extended?, Binary64.quantity?, Option.map_some,
        Quantity.extended, Binary64.magnitude_eq]
      cases negative <;> simp

end Literal

end Rulebook
