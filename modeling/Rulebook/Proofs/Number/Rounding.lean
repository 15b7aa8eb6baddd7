import Rulebook.Number.Decimal

/-! Rounding leaves binary64 numbers as they are and does not depend on how a quotient is written.
The shortest decimal of a number is therefore read back as that number. -/
namespace Rulebook

theorem divEven_mul (quotient : Nat) {denominator : Nat} (positive : 0 < denominator) :
    divEven (quotient * denominator) denominator = quotient := by
  simp [divEven, Nat.mul_div_cancel quotient positive, positive]

theorem divEven_scale (numerator denominator : Nat) {scale : Nat} (positive : 0 < scale) :
    divEven (numerator * scale) (denominator * scale) = divEven numerator denominator := by
  have below : 2 * (numerator % denominator * scale) < denominator * scale ↔
      2 * (numerator % denominator) < denominator := by
    rw [← Nat.mul_assoc, Nat.mul_lt_mul_right positive]
  have above : denominator * scale < 2 * (numerator % denominator * scale) ↔
      denominator < 2 * (numerator % denominator) := by
    rw [← Nat.mul_assoc, Nat.mul_lt_mul_right positive]
  simp only [divEven, Nat.mul_div_mul_right numerator denominator positive,
    Nat.mul_mod_mul_right, below, above]

namespace Binary64

theorem log2_units (ordinal : Nat) : (units ordinal).log2 - 52 = ordinal / 2 ^ 52 - 1 := by
  by_cases small : ordinal < 2 ^ 53
  · have shift : ordinal / 2 ^ 52 - 1 = 0 := by omega
    have size : units ordinal = ordinal := by
      rw [units, shift, Nat.zero_mul, Nat.sub_zero, Nat.pow_zero, Nat.mul_one]
    rw [size, shift]
    by_cases zero : ordinal = 0
    · simp [zero]
    · have := (Nat.log2_lt zero).mpr small
      omega
  · have size : units ordinal = (ordinal - (ordinal / 2 ^ 52 - 1) * 2 ^ 52) *
        2 ^ (ordinal / 2 ^ 52 - 1) := rfl
    have low : 2 ^ 52 ≤ ordinal - (ordinal / 2 ^ 52 - 1) * 2 ^ 52 := by omega
    have high : ordinal - (ordinal / 2 ^ 52 - 1) * 2 ^ 52 < 2 ^ 53 := by omega
    generalize ordinal / 2 ^ 52 - 1 = shift at *
    have positive : 0 < 2 ^ shift := Nat.two_pow_pos shift
    have nonzero : units ordinal ≠ 0 := by
      rw [size]
      exact Nat.mul_ne_zero (by omega) (by omega)
    have log : (units ordinal).log2 = 52 + shift := by
      rw [Nat.log2_eq_iff nonzero, size]
      constructor
      · rw [Nat.pow_add]
        exact Nat.mul_le_mul_right _ low
      · rw [show 52 + shift + 1 = 53 + shift by omega, Nat.pow_add]
        exact Nat.mul_lt_mul_of_pos_right high positive
    omega

theorem units_zero : units 0 = 0 := rfl

theorem ofRatio_scale (negative : Bool) (numerator denominator : Nat) {scale : Nat}
    (positive : 0 < scale) :
    ofRatio negative (numerator * scale) (denominator * scale) =
      ofRatio negative numerator denominator := by
  unfold ofRatio
  dsimp only
  rw [Nat.mul_right_comm numerator, Nat.mul_div_mul_right _ _ positive]
  rw [Nat.mul_right_comm denominator scale, divEven_scale _ _ positive]

/-- A quotient that is a number exactly is rounded to that number. -/
theorem ofRatio_exact (negative : Bool) (ordinal : Fin (2047 * 2 ^ 52))
    {numerator denominator : Nat} (positive : 0 < denominator)
    (exact : numerator * 2 ^ 1074 = units ordinal * denominator) :
    ofRatio negative numerator denominator = .finite negative ordinal := by
  unfold ofRatio
  dsimp only
  rw [exact, Nat.mul_div_cancel _ positive, log2_units]
  have whole : divEven (units ordinal * denominator)
      (denominator * 2 ^ (ordinal.val / 2 ^ 52 - 1)) =
        ordinal.val - (ordinal.val / 2 ^ 52 - 1) * 2 ^ 52 := by
    rw [units, Nat.mul_assoc, Nat.mul_comm (2 ^ _) denominator]
    exact divEven_mul _ (Nat.mul_pos positive (Nat.two_pow_pos _))
  have sum : (ordinal.val / 2 ^ 52 - 1) * 2 ^ 52 +
      (ordinal.val - (ordinal.val / 2 ^ 52 - 1) * 2 ^ 52) = ordinal.val := by omega
  rw [whole, dif_pos (sum.symm ▸ ordinal.isLt)]
  exact congrArg _ (Fin.ext sum)

theorem ofRatio_zero (negative : Bool) {denominator : Nat} (positive : 0 < denominator) :
    ofRatio negative 0 denominator = .finite negative ⟨0, by decide⟩ := by
  refine ofRatio_exact negative ⟨0, by decide⟩ positive ?_
  rw [units_zero]
  generalize 2 ^ 1074 = scale
  simp

theorem lt_of_log2_lt (numerator low high : Nat) {denominator : Nat} (positive : 0 < denominator)
    (size : (numerator * 2 ^ low / denominator).log2 < high + low) :
    numerator < 2 ^ high * denominator := by
  have below : numerator * 2 ^ low / denominator < 2 ^ (high + low) :=
    Nat.lt_of_lt_of_le Nat.lt_log2_self (Nat.pow_le_pow_right Nat.two_pos size)
  rw [Nat.div_lt_iff_lt_mul positive, Nat.pow_add, Nat.mul_right_comm] at below
  exact Nat.lt_of_mul_lt_mul_right below

theorem lt_of_ofRatio_finite {negative : Bool} {ordinal : Fin (2047 * 2 ^ 52)}
    {numerator denominator : Nat} (positive : 0 < denominator)
    (finite : ofRatio negative numerator denominator = .finite negative ordinal) :
    numerator < 2 ^ 1026 * denominator := by
  unfold ofRatio at finite
  dsimp only at finite
  split at finite
  · apply lt_of_log2_lt numerator 1074 1026 positive
    omega
  · cases finite

theorem le_of_ofRatio_finite {negative : Bool} {ordinal : Fin (2047 * 2 ^ 52)}
    {numerator denominator : Nat} (nonzero : ordinal.val ≠ 0)
    (finite : ofRatio negative numerator denominator = .finite negative ordinal) :
    denominator ≤ 2 * (numerator * 2 ^ 1074) := by
  apply Nat.le_of_not_lt
  intro half
  unfold ofRatio at finite
  dsimp only at finite
  generalize numerator * 2 ^ 1074 = scaled at half finite
  have quotient : scaled / denominator = 0 := Nat.div_eq_of_lt (by omega)
  have rest : scaled % denominator = scaled := Nat.mod_eq_of_lt (by omega)
  have zero : divEven scaled (denominator * 2 ^ 0) = 0 := by
    simp [divEven, quotient, rest, half]
  rw [quotient, Nat.log2_zero, Nat.zero_sub, zero, dif_pos (by decide)] at finite
  obtain ⟨_, same⟩ := Binary64.finite.inj finite
  exact nonzero (congrArg Fin.val same).symm

end Binary64

namespace Decimal

theorem ten_pow_pos (exponent : Nat) : 0 < 10 ^ exponent := Nat.pow_pos (by decide)

theorem nearest_ofNat (negative : Bool) (coefficient exponent : Nat) :
    nearest ⟨negative, coefficient, exponent⟩ =
      .ofRatio negative (coefficient * 10 ^ exponent) 1 := rfl

theorem nearest_neg (negative : Bool) (coefficient exponent : Nat) :
    nearest ⟨negative, coefficient, -exponent⟩ =
      .ofRatio negative coefficient (10 ^ exponent) := by
  cases exponent with
  | zero =>
    rw [show -((0 : Nat) : Int) = (0 : Nat) from rfl, nearest_ofNat, Nat.pow_zero, Nat.mul_one]
  | succ exponent =>
    rw [show -((exponent + 1 : Nat) : Int) = .negSucc exponent from rfl]
    rfl

theorem nearest_whole (negative : Bool) (coefficient exponent places : Nat) :
    nearest ⟨negative, coefficient * 10 ^ exponent * 10 ^ places, -places⟩ =
      nearest ⟨negative, coefficient, exponent⟩ := by
  rw [nearest_neg, nearest_ofNat]
  have scaled := Binary64.ofRatio_scale negative (coefficient * 10 ^ exponent) 1
    (ten_pow_pos places)
  rwa [Nat.one_mul] at scaled

theorem nearest_zero (negative : Bool) (exponent : Int) :
    nearest ⟨negative, 0, exponent⟩ = .finite negative ⟨0, by decide⟩ := by
  cases exponent with
  | ofNat exponent =>
    rw [show Int.ofNat exponent = (exponent : Int) from rfl, nearest_ofNat, Nat.zero_mul]
    exact Binary64.ofRatio_zero negative Nat.one_pos
  | negSucc exponent =>
    rw [show Int.negSucc exponent = -((exponent + 1 : Nat) : Int) from rfl, nearest_neg]
    exact Binary64.ofRatio_zero negative (ten_pow_pos (exponent + 1))

theorem negative_trim (d : Decimal) : d.trim.negative = d.negative := by
  induction d using trim.induct with
  | case1 d zeros ih =>
    rw [trim, dif_pos zeros]
    exact ih
  | case2 d done => rw [trim, dif_neg done]

theorem exact_units (units places : Nat) :
    units * 5 ^ places * 2 ^ places = units * 10 ^ places := by
  rw [Nat.mul_assoc, ← Nat.mul_pow]

theorem nearest_exact (negative : Bool) (ordinal : Fin (2047 * 2 ^ 52)) :
    (exact negative (Binary64.units ordinal)).nearest = .finite negative ordinal := by
  rw [exact, show (-1074 : Int) = -(1074 : Nat) from rfl, nearest_neg]
  exact Binary64.ofRatio_exact negative ordinal (ten_pow_pos 1074) (exact_units _ 1074)

theorem onGrid?_spec {negative : Bool} {ordinal : Fin (2047 * 2 ^ 52)} {exponent : Int}
    {d : Decimal} (found : onGrid? negative ordinal exponent = some d) :
    d.negative = negative ∧ d.nearest = .finite negative ordinal := by
  unfold onGrid? at found
  dsimp only at found
  refine ⟨?_, by simpa using List.find?_some found⟩
  obtain ⟨coefficient, -, rfl⟩ := List.mem_map.mp (List.mem_of_find?_eq_some found)
  exact negative_trim _

theorem shortest_cases (negative : Bool) (ordinal : Fin (2047 * 2 ^ 52)) :
    ordinal.val = 0 ∧ shortest negative ordinal = ⟨negative, 0, 0⟩ ∨
      shortest negative ordinal = exact negative (Binary64.units ordinal) ∨
      ∃ exponent, onGrid? negative ordinal exponent = some (shortest negative ordinal) := by
  unfold shortest
  split
  · rename_i zero
    exact .inl ⟨zero, rfl⟩
  · dsimp only
    cases found : (List.range 17).findSome? fun places : Nat =>
        onGrid? negative ordinal (leading (Binary64.units ordinal) - places) with
    | none => exact .inr (.inl rfl)
    | some d =>
      obtain ⟨places, _, found⟩ := List.exists_of_findSome?_eq_some found
      exact .inr (.inr ⟨_, found⟩)

/-- The shortest decimal has the sign of its number and is read back as that number. -/
theorem shortest_spec (negative : Bool) (ordinal : Fin (2047 * 2 ^ 52)) :
    (shortest negative ordinal).negative = negative ∧
      (shortest negative ordinal).nearest = .finite negative ordinal := by
  rcases shortest_cases negative ordinal with ⟨zero, equal⟩ | equal | ⟨exponent, found⟩
  · rw [equal, nearest_zero]
    exact ⟨rfl, congrArg _ (Fin.ext zero.symm)⟩
  · rw [equal]
    exact ⟨rfl, nearest_exact negative ordinal⟩
  · exact onGrid?_spec found

end Decimal

end Rulebook
