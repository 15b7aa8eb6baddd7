import Rulebook.Json.Writer
import Rulebook.Proofs.Number.Numeral

/-! Numbers are read back from their JSON text: whole ones as they are, and every finite binary64
number from the digits it is displayed with. -/
namespace Rulebook

namespace Decimal

theorem digits_bounds {d : Decimal} (nonzero : d.coefficient ≠ 0) :
    10 ^ (d.digits.length - 1) ≤ d.coefficient ∧ d.coefficient < 10 ^ d.digits.length := by
  have positive : 0 < d.digits.length := List.length_pos_iff.mpr Nat.toDigits_ne_nil
  constructor
  · by_cases single : d.digits.length = 1
    · rw [single]
      exact Nat.pos_of_ne_zero nonzero
    · have long : ¬ d.digits.length ≤ d.digits.length - 1 := by omega
      rw [digits, Nat.length_toDigits_le_iff (by decide) (by rw [← digits]; omega)] at long
      exact Nat.le_of_not_lt long
  · rw [← Nat.length_toDigits_le_iff (by decide) positive]
    exact Nat.le_refl _

theorem two_pow_le (exponent : Nat) : 2 ^ (3 * exponent) ≤ 10 ^ exponent := by
  rw [Nat.pow_mul]
  exact Nat.pow_le_pow_left (by decide) exponent

theorem ofRatio_bounds {negative : Bool} {ordinal : Fin (2047 * 2 ^ 52)}
    {numerator denominator : Nat} (positive : 0 < denominator) (nonzero : ordinal.val ≠ 0)
    (finite : Binary64.ofRatio negative numerator denominator = .finite negative ordinal) :
    ∃ bound ≤ 400, numerator < 10 ^ bound * denominator ∧ denominator ≤ numerator * 10 ^ bound := by
  -- the exponents are hidden, for nothing may compute the powers
  obtain ⟨bound, equal⟩ : ∃ bound, bound = 400 := ⟨400, rfl⟩
  obtain ⟨upper, tall, high⟩ : ∃ upper, upper ≤ 3 * 400 ∧ numerator < 2 ^ upper * denominator :=
    ⟨1026, by decide, Binary64.lt_of_ofRatio_finite positive finite⟩
  obtain ⟨lower, deep, low⟩ : ∃ lower, lower + 1 ≤ 3 * 400 ∧
      denominator ≤ 2 * (numerator * 2 ^ lower) :=
    ⟨1074, by decide, Binary64.le_of_ofRatio_finite nonzero finite⟩
  have power {low : Nat} (small : low ≤ 3 * 400) : 2 ^ low ≤ 10 ^ bound :=
    Nat.le_trans (Nat.pow_le_pow_right (by decide) (equal ▸ small)) (two_pow_le bound)
  refine ⟨bound, Nat.le_of_eq equal, ?_, ?_⟩
  · exact Nat.lt_of_lt_of_le high (Nat.mul_le_mul_right denominator (power tall))
  · rw [Nat.mul_left_comm, ← Nat.pow_succ'] at low
    exact Nat.le_trans low (Nat.mul_le_mul_left numerator (power deep))

theorem order_le {d : Decimal} {ordinal : Fin (2047 * 2 ^ 52)} (positive : ordinal.val ≠ 0)
    (nearest : d.nearest = .finite d.negative ordinal) : d.order.natAbs ≤ 400 := by
  obtain ⟨negative, coefficient, exponent⟩ := d
  have nonzero : coefficient ≠ 0 := by
    rintro rfl
    rw [nearest_zero] at nearest
    cases nearest
    exact positive rfl
  obtain ⟨low, high⟩ := digits_bounds (d := ⟨negative, coefficient, exponent⟩) nonzero
  rw [order]
  generalize (digits ⟨negative, coefficient, exponent⟩).length = length at low high ⊢
  cases exponent with
  | ofNat exponent =>
    obtain ⟨bound, few, below, _⟩ := ofRatio_bounds Nat.one_pos positive nearest
    have less : 10 ^ (length - 1 + exponent) < 10 ^ bound := by
      rw [Nat.pow_add]
      rw [Nat.mul_one] at below
      exact Nat.lt_of_le_of_lt (Nat.mul_le_mul_right _ low) below
    rw [Nat.pow_lt_pow_iff_right (by decide)] at less
    dsimp only
    rw [Int.ofNat_eq_natCast]
    omega
  | negSucc exponent =>
    obtain ⟨bound, few, below, above⟩ := ofRatio_bounds (ten_pow_pos (exponent + 1)) positive nearest
    have less : 10 ^ (length - 1) < 10 ^ (bound + (exponent + 1)) := by
      rw [Nat.pow_add]
      exact Nat.lt_of_le_of_lt low below
    have more : 10 ^ (exponent + 1) < 10 ^ (length + bound) := by
      rw [Nat.pow_add 10 length]
      exact Nat.lt_of_le_of_lt above (Nat.mul_lt_mul_of_pos_right high (ten_pow_pos bound))
    rw [Nat.pow_lt_pow_iff_right (by decide)] at less more
    dsimp only
    omega

end Decimal

namespace Json

/-- What may follow a value: nothing, or what ends it or stands before the next one. -/
def Stops (rest : List Char) : Prop := ∀ c ∈ rest.head?, c = ',' ∨ c = ']' ∨ c = '\x7d'

variable {rest : List Char}

theorem Stops.not_digit (stops : Stops rest) : ∀ c ∈ rest.head?, c.isDigit = false := by
  intro c inside
  rcases stops c inside with rfl | rfl | rfl <;> rfl

theorem Stops.fraction (stops : Stops rest) : fraction rest = ([], rest) := by
  unfold Json.fraction
  split
  · rcases stops '.' rfl with stop | stop | stop <;> cases stop
  · rfl

theorem Stops.exponent (stops : Stops rest) : exponent rest = (none, rest) := by
  unfold Json.exponent
  split
  · rename_i c more
    have other : (c = 'e' || c = 'E') = false := by
      rcases stops c rfl with rfl | rfl | rfl <;> rfl
    simp [other]
  · rfl

variable {whole places more : List Char}

theorem whole_append (digit : ∀ c ∈ whole, c.isDigit = true) (leading : Decimal.NoLeadingZero whole)
    (stop : ∀ c ∈ more.head?, c.isDigit = false) :
    let digits := (whole ++ more).takeWhile Char.isDigit
    (if digits.head? = some '0' then ['0'] else digits) = whole := by
  dsimp only
  rw [takeWhile_append_stop whole stop, Stretch.takeWhile_isDigit digit]
  rcases leading with rfl | other
  · rfl
  · rw [if_neg other]

theorem number?_whole (negative : Bool) (digit : ∀ c ∈ whole, c.isDigit = true) (nonempty : whole ≠ [])
    (leading : Decimal.NoLeadingZero whole) (short : whole.length ≤ digitLimit)
    (stops : Stops rest) :
    number? negative (whole ++ rest) =
      let size : Int := Nat.ofDigitChars 10 whole 0
      .some (.integer (if negative then -size else size), rest) := by
  have front := whole_append digit leading stops.not_digit
  dsimp only at front
  unfold number?
  dsimp only
  rw [front, List.drop_left, stops.fraction]
  dsimp only
  rw [stops.exponent]
  simp [nonempty, Nat.not_lt.mpr short]

theorem fraction_point (digit : ∀ c ∈ places, c.isDigit = true) (nonempty : places ≠ [])
    (stop : ∀ c ∈ more.head?, c.isDigit = false) :
    fraction ('.' :: (places ++ more)) = (places, more) := by
  rw [fraction, takeWhile_append_stop places stop, Stretch.takeWhile_isDigit digit,
    dropWhile_append_stop places stop, Stretch.dropWhile_isDigit digit]
  simp [nonempty]

theorem fraction_places {mark : Char} (digit : ∀ c ∈ places, c.isDigit = true)
    (other : mark.isDigit = false ∧ mark ≠ '.') :
    fraction ((if places.isEmpty then [] else '.' :: places) ++ mark :: more) =
      (places, mark :: more) := by
  cases places with
  | nil =>
    change fraction (mark :: more) = ([], mark :: more)
    unfold fraction
    split
    · rename_i equal
      cases equal
      exact absurd rfl other.2
    · rfl
  | cons c places =>
    have stop : ∀ d ∈ (mark :: more).head?, d.isDigit = false := by
      rintro d ⟨⟩
      exact other.1
    exact fraction_point digit (List.cons_ne_nil c places) stop

theorem head?_places {mark : Char} (other : mark.isDigit = false) :
    ∀ c ∈ ((if places.isEmpty then [] else '.' :: places) ++ mark :: more).head?,
      c.isDigit = false := by
  cases places with
  | nil =>
    rintro c ⟨⟩
    exact other
  | cons d places =>
    rintro c ⟨⟩
    rfl

theorem number?_point (negative : Bool) (digit : ∀ c ∈ whole ++ places, c.isDigit = true)
    (nonempty : whole ≠ []) (broken : places ≠ []) (leading : Decimal.NoLeadingZero whole)
    (stops : Stops rest) :
    number? negative (whole ++ '.' :: (places ++ rest)) =
      .some (.scalar (.float (Decimal.nearest
        ⟨negative, Nat.ofDigitChars 10 (whole ++ places) 0, -places.length⟩)), rest) := by
  obtain ⟨before, after⟩ := List.forall_mem_append.mp digit
  have point : ∀ c ∈ ('.' :: (places ++ rest)).head?, c.isDigit = false := by
    rintro c ⟨⟩
    rfl
  have front := whole_append before leading point
  dsimp only at front
  unfold number?
  dsimp only
  rw [front, List.drop_left, fraction_point after broken stops.not_digit]
  dsimp only
  rw [stops.exponent]
  have clipped : max (-((whole.length : Int) + places.length + 400))
      (min (whole.length + places.length + 400) 0) = 0 := by omega
  have filled : whole.isEmpty = false := by simp [nonempty]
  have fraction : places.isEmpty = false := by simp [broken]
  simp only [filled, fraction, Bool.false_and, Bool.false_eq_true, if_false, Option.getD_none]
  rw [clipped, Int.zero_sub]

theorem exponent_signed {power : List Char} (below : Bool) (digit : ∀ c ∈ power, c.isDigit = true)
    (nonempty : power ≠ []) (stops : Stops rest) :
    exponent ('e' :: (if below then '-' else '+') :: (power ++ rest)) =
      let size : Int := Nat.ofDigitChars 10 power 0
      (.some (if below then -size else size), rest) := by
  have sign : exponentSign ((if below then '-' else '+') :: (power ++ rest)) =
    (below, power ++ rest) := by
    cases below <;> rfl
  rw [exponent, sign]
  dsimp only
  rw [takeWhile_append_stop power stops.not_digit, Stretch.takeWhile_isDigit digit,
    dropWhile_append_stop power stops.not_digit, Stretch.dropWhile_isDigit digit]
  simp [nonempty]

theorem number?_power (negative below : Bool) {first : Char} {power : List Char}
    (digit : ∀ c ∈ first :: places, c.isDigit = true) (leading : first ≠ '0')
    (powers : ∀ c ∈ power, c.isDigit = true) (nonempty : power ≠ [])
    (small : Nat.ofDigitChars 10 power 0 ≤ 400) (stops : Stops rest) :
    number? negative (first :: ((if places.isEmpty then [] else '.' :: places) ++
        'e' :: (if below then '-' else '+') :: (power ++ rest))) =
      let size : Int := Nat.ofDigitChars 10 power 0
      .some (.scalar (.float (Decimal.nearest ⟨negative, Nat.ofDigitChars 10 (first :: places) 0,
        (if below then -size else size) - places.length⟩)), rest) := by
  obtain ⟨single, after⟩ := List.forall_mem_append.mp
    (show ∀ c ∈ [first] ++ places, c.isDigit = true from digit)
  have stop : ∀ c ∈ ((if places.isEmpty then [] else '.' :: places) ++
      'e' :: (if below then '-' else '+') :: (power ++ rest)).head?, c.isDigit = false :=
    head?_places rfl
  have front := whole_append single (.inr (by simpa using leading)) stop
  dsimp only [List.singleton_append] at front
  unfold number?
  dsimp only
  rw [front, List.length_singleton, List.drop_one, List.tail_cons,
    fraction_places after ⟨rfl, by decide⟩]
  dsimp only
  rw [exponent_signed below powers nonempty stops]
  have clipped : max (-(((1 : Nat) : Int) + places.length + 400))
      (min (((1 : Nat) : Int) + places.length + 400)
        (if below then -(Nat.ofDigitChars 10 power 0 : Int) else Nat.ofDigitChars 10 power 0)) =
      if below then -(Nat.ofDigitChars 10 power 0 : Int) else Nat.ofDigitChars 10 power 0 := by
    cases below <;> simp <;> omega
  simp only [List.isEmpty_cons, Option.isNone_some, Bool.and_false, Bool.false_eq_true, if_false,
    Option.getD_some, List.singleton_append]
  rw [clipped]

theorem number?_natAbs {value : Int} (short : (Nat.toDigits 10 value.natAbs).length ≤ digitLimit)
    (stops : Stops rest) :
    number? (decide (value < 0)) (Nat.toDigits 10 value.natAbs ++ rest) =
      some (.integer value, rest) := by
  have leading : Decimal.NoLeadingZero (Nat.toDigits 10 value.natAbs ++ List.replicate 0 '0') :=
    Decimal.noLeadingZero_zeros fun _ => rfl
  rw [List.replicate_zero, List.append_nil] at leading
  rw [number?_whole _ (isDigit_toDigits value.natAbs) Nat.toDigits_ne_nil leading short stops]
  dsimp only
  rw [Nat.ofDigitChars_ten_toDigits, Numeral.signed_natAbs]

theorem number?_pointed {d : Decimal} {chars : List Char} (pointed : d.Pointed chars)
    (stops : Stops rest) :
    number? d.negative (chars ++ rest) = some (.scalar (.float d.nearest), rest) := by
  obtain ⟨whole, places, rfl, digit, nonempty, broken, leading, nearest⟩ := pointed
  rw [List.append_assoc, List.cons_append, number?_point _ digit nonempty broken leading stops,
    nearest]

theorem number?_scientific {d : Decimal} (nonzero : d.coefficient ≠ 0) (small : d.order.natAbs ≤ 400)
    (stops : Stops rest) :
    number? d.negative (d.scientific ++ rest) = .some (.scalar (.float d.nearest), rest) := by
  obtain ⟨first, places, power, shown, whole, powers, written, size, exponent, scientific⟩ :=
    d.scientific_cases
  have digit := d.isDigit_digits
  have leading := head?_toDigits nonzero
  rw [← Decimal.digits, shown] at leading
  rw [shown] at digit
  have read := number?_power d.negative (decide (d.order < 0)) digit (by simpa using leading) powers
    written (by rw [size]; exact small) stops
  dsimp only at read
  rw [size, Numeral.signed_natAbs, whole, exponent] at read
  rw [scientific]
  simpa using read

end Json

namespace Binary64

open Json

/-- A finite number is read back from the digits that it is displayed with after its sign. -/
theorem number?_display (negative : Bool) (ordinal : Fin (2047 * 2 ^ 52)) :
    ∃ chars, (finite negative ordinal).display = Stretch.signed negative chars ∧
      ∀ rest, Stops rest →
        number? negative (chars ++ rest) =
          some (.scalar (.float (.finite negative ordinal)), rest) := by
  have ⟨sign, nearest⟩ := Decimal.shortest_spec negative ordinal
  have small := @Decimal.shortest_of_coefficient negative ordinal
  have zero := @Decimal.shortest_zero negative ordinal
  have written (chars : List Char) : (Decimal.shortest negative ordinal).sign ++ chars =
      Stretch.signed negative chars := by
    rw [Decimal.sign_append, sign]
  refine ⟨_, written _, fun rest stops => ?_⟩
  rw [← nearest]
  generalize Decimal.shortest negative ordinal = d at *
  cases sign
  split
  · refine number?_pointed ?_ stops
    obtain ⟨negative, coefficient, exponent | exponent⟩ := d
    · refine Decimal.positional_pointed negative fun zero => ?_
      cases small zero
      rfl
    · exact Decimal.positional_fraction negative coefficient exponent true
  · rename_i far
    have nonzero : d.coefficient ≠ 0 := by
      intro zero
      rw [small zero] at far
      simp [Decimal.order, Decimal.digits] at far
    refine number?_scientific nonzero (Decimal.order_le ?_ nearest) stops
    intro least
    exact nonzero (congrArg Decimal.coefficient (zero least))

end Binary64

end Rulebook
