import Rulebook.Number.Numeral
import Rulebook.Proofs.Number.Rounding
import Rulebook.Proofs.Token.Stretch

/-! Reading written numbers. A numeral with a point is read back as the number it was written for,
one without a point as the whole number that its digits spell. -/
namespace Rulebook

def Numeral.toInt : List Char → Int
  | '-' :: digits => -(Nat.ofDigitChars 10 digits 0 : Nat)
  | digits => (Nat.ofDigitChars 10 digits 0 : Nat)

theorem isDigit_replicate_zero (places : Nat) :
    ∀ c ∈ List.replicate places '0', c.isDigit = true := by
  intro c inside
  rw [List.eq_of_mem_replicate inside]
  rfl

namespace Stretch

variable {digits : List Char}

theorem takeWhile_isDigit (numeric : ∀ c ∈ digits, c.isDigit = true) :
    digits.takeWhile Char.isDigit = digits := by
  rw [List.takeWhile_eq_self_iff]
  exact numeric

theorem dropWhile_isDigit (numeric : ∀ c ∈ digits, c.isDigit = true) :
    digits.dropWhile Char.isDigit = [] := by
  rw [List.dropWhile_eq_nil_iff]
  exact numeric

theorem number_digits (negative : Bool) (numeric : ∀ c ∈ digits, c.isDigit = true)
    (short : digits.length ≤ digitLimit) :
    number negative digits =
      let size : Int := Nat.ofDigitChars 10 digits 0
      ⟨.ok (.literal (.integer (if negative then -size else size))), signed negative digits, []⟩ := by
  have stop : ∀ c ∈ ([] : List Char).head?, c.isDigit = false ∧ c ≠ '.' := nofun
  simpa using number_bare negative numeric short stop

theorem number_point (negative : Bool) {whole places : List Char}
    (numeric : ∀ c ∈ whole ++ places, c.isDigit = true) (nonempty : places ≠ []) :
    number negative (whole ++ '.' :: places) =
      ⟨.ok (.literal (.float (Decimal.nearest
          ⟨negative, Nat.ofDigitChars 10 (whole ++ places) 0, -places.length⟩))),
        signed negative (whole ++ '.' :: places), []⟩ := by
  obtain ⟨before, after⟩ := List.forall_mem_append.mp numeric
  have stop : ∀ c ∈ ([] : List Char).head?, c.isDigit = false := nofun
  simpa using number_pointed negative before after nonempty stop

theorem toInt_signed (negative : Bool) (numeric : ∀ c ∈ digits, c.isDigit = true) :
    Numeral.toInt (signed negative digits) =
      let size : Int := Nat.ofDigitChars 10 digits 0
      if negative then -size else size := by
  cases negative with
  | true => rfl
  | false =>
    cases digits with
    | nil => rfl
    | cons c digits =>
      have digit := numeric c List.mem_cons_self
      rw [signed, Numeral.toInt]
      · simp
      · rintro rest ⟨⟩
        cases digit

end Stretch

theorem isDigit_toDigits (value : Nat) : ∀ c ∈ Nat.toDigits 10 value, c.isDigit = true :=
  fun _ inside => Nat.isDigit_of_mem_toDigits (by decide) (by decide) inside

theorem Numeral.ofInt_eq_signed (value : Int) :
    ofInt value = Stretch.signed (decide (value < 0)) (Nat.toDigits 10 value.natAbs) := by
  by_cases negative : value < 0 <;> simp [ofInt, Stretch.signed, negative]

theorem Numeral.signed_natAbs (value : Int) :
    (if decide (value < 0) = true then -(value.natAbs : Int) else value.natAbs) = value := by
  by_cases below : value < 0
  · rw [if_pos (decide_eq_true below)]
    omega
  · rw [if_neg (by rw [decide_eq_true_iff]; exact below)]
    omega

theorem Stretch.ofChars_ofInt {value : Int}
    (short : (Nat.toDigits 10 value.natAbs).length ≤ digitLimit) :
    ofChars (Numeral.ofInt value) = ⟨.ok (.literal (.integer value)), Numeral.ofInt value, []⟩ := by
  have numeric := isDigit_toDigits value.natAbs
  have first := startsWithDigit_of_digits numeric Nat.toDigits_ne_nil
  rw [Numeral.ofInt_eq_signed, ofChars_signed _ first, number_digits _ numeric short]
  dsimp only
  rw [Nat.ofDigitChars_ten_toDigits, Numeral.signed_natAbs]

theorem head?_toDigits {value : Nat} (nonzero : value ≠ 0) :
    (Nat.toDigits 10 value).head? ≠ .some '0' := by
  induction value using Nat.strongRecOn with
  | ind value ih =>
    by_cases small : value < 10
    · rw [Nat.toDigits_of_lt_base small, List.head?_cons]
      have inner : ∀ digit : Fin 10, digit.val ≠ 0 →
        Option.some (Nat.digitChar digit) ≠ .some '0' := by
        decide
      exact inner ⟨value, small⟩ nonzero
    · have front := ih (value / 10) (by omega) (by omega)
      rw [Nat.toDigits_of_base_le (by decide) (by omega), List.head?_append]
      cases digits : Nat.toDigits 10 (value / 10) with
      | nil => exact absurd digits Nat.toDigits_ne_nil
      | cons c rest => rwa [digits] at front

namespace Decimal

theorem isDigit_digits (d : Decimal) : ∀ c ∈ d.digits, c.isDigit = true :=
  isDigit_toDigits d.coefficient

theorem sign_append (d : Decimal) (chars : List Char) :
    d.sign ++ chars = Stretch.signed d.negative chars := by
  rw [sign, Stretch.signed]
  cases d.negative <;> rfl

theorem ofDigitChars_zeros_digits (d : Decimal) (zeros : Nat) :
    Nat.ofDigitChars 10 (List.replicate zeros '0' ++ d.digits) 0 = d.coefficient := by
  rw [Nat.ofDigitChars_append, Nat.ofDigitChars_replicate_zero, Nat.mul_zero, digits,
    Nat.ofDigitChars_ten_toDigits]

theorem ofDigitChars_digits_zeros (d : Decimal) (zeros : Nat) :
    Nat.ofDigitChars 10 (d.digits ++ List.replicate zeros '0') 0 = d.coefficient * 10 ^ zeros := by
  rw [Nat.ofDigitChars_append, Nat.ofDigitChars_replicate_zero, digits,
    Nat.ofDigitChars_ten_toDigits, Nat.mul_comm]

theorem scientific_cases (d : Decimal) : ∃ first places power, d.digits = first :: places ∧
    Nat.ofDigitChars 10 (first :: places) 0 = d.coefficient ∧
    (∀ c ∈ power, c.isDigit = true) ∧ power ≠ [] ∧ Nat.ofDigitChars 10 power 0 = d.order.natAbs ∧
    d.order - places.length = d.exponent ∧
    d.scientific = first :: ((if places.isEmpty then [] else '.' :: places) ++
      'e' :: (if decide (d.order < 0) then '-' else '+') :: power) := by
  have whole := d.ofDigitChars_zeros_digits 0
  have order : d.order = d.exponent + d.digits.length - 1 := rfl
  rw [List.replicate_zero, List.nil_append] at whole
  cases shown : d.digits with
  | nil => exact absurd shown Nat.toDigits_ne_nil
  | cons first places =>
    let power := Nat.toDigits 10 d.order.natAbs
    rw [shown] at whole order
    refine ⟨first, places, List.replicate (2 - power.length) '0' ++ power, rfl, whole, ?_, ?_, ?_,
      ?_, ?_⟩
    · exact List.forall_mem_append.mpr ⟨isDigit_replicate_zero _, isDigit_toDigits _⟩
    · exact List.append_ne_nil_of_right_ne_nil _ Nat.toDigits_ne_nil
    · exact ofDigitChars_zeros_digits ⟨false, d.order.natAbs, 0⟩ _
    · rw [order, List.length_cons]
      omega
    · simp [scientific, shown, power]

/-- Digits with no zero at the front, unless it is the only one. -/
def NoLeadingZero (whole : List Char) : Prop := whole = ['0'] ∨ whole.head? ≠ some '0'

theorem noLeadingZero_zeros {coefficient zeros : Nat} (normal : coefficient = 0 → zeros = 0) :
    NoLeadingZero (Nat.toDigits 10 coefficient ++ List.replicate zeros '0') := by
  by_cases zero : coefficient = 0
  · rw [zero, normal zero]
    exact .inl rfl
  · refine .inr ?_
    have front := head?_toDigits zero
    rw [List.head?_append]
    cases digits : Nat.toDigits 10 coefficient with
    | nil => exact absurd digits Nat.toDigits_ne_nil
    | cons c rest => rwa [digits] at front

/-- Digits around a point that spell the number, in any count of places. -/
def Pointed (d : Decimal) (chars : List Char) : Prop :=
  ∃ whole places, chars = whole ++ '.' :: places ∧
    (∀ c ∈ whole ++ places, c.isDigit = true) ∧ whole ≠ [] ∧ places ≠ [] ∧ NoLeadingZero whole ∧
    nearest ⟨d.negative, Nat.ofDigitChars 10 (whole ++ places) 0, -places.length⟩ = d.nearest

theorem positional_pointed (negative : Bool) {coefficient exponent : Nat}
    (normal : coefficient = 0 → exponent = 0) :
    Pointed ⟨negative, coefficient, exponent⟩ (positional ⟨negative, coefficient, exponent⟩ true) := by
  let d : Decimal := ⟨negative, coefficient, exponent⟩
  refine ⟨d.digits ++ List.replicate exponent '0', ['0'], by simp [d, positional, digits], ?_, ?_,
    by simp, ?_, ?_⟩
  · have zeros := isDigit_replicate_zero exponent
    exact List.forall_mem_append.mpr
      ⟨List.forall_mem_append.mpr ⟨d.isDigit_digits, zeros⟩, isDigit_replicate_zero 1⟩
  · simp [digits, Nat.toDigits_ne_nil]
  · exact noLeadingZero_zeros normal
  · rw [List.append_assoc, show ['0'] = List.replicate 1 '0' from rfl, List.replicate_append_replicate,
      ofDigitChars_digits_zeros, Nat.pow_add, ← Nat.mul_assoc]
    exact nearest_whole negative coefficient exponent 1

theorem positional_negSucc (negative : Bool) (coefficient exponent : Nat) (pointed : Bool) :
    ∃ whole places, positional ⟨negative, coefficient, .negSucc exponent⟩ pointed =
        whole ++ '.' :: places ∧
      (∀ c ∈ whole ++ places, c.isDigit = true) ∧ whole ≠ [] ∧ places.length = exponent + 1 ∧
      NoLeadingZero whole ∧ Nat.ofDigitChars 10 (whole ++ places) 0 = coefficient := by
  let d : Decimal := ⟨negative, coefficient, .negSucc exponent⟩
  let shown := List.replicate (exponent + 2 - d.digits.length) '0' ++ d.digits
  have long : exponent + 2 ≤ shown.length := by
    simp only [shown, List.length_append, List.length_replicate]
    omega
  have length : (shown.drop (shown.length - (exponent + 1))).length = exponent + 1 := by
    rw [List.length_drop]
    omega
  refine ⟨shown.take (shown.length - (exponent + 1)), shown.drop (shown.length - (exponent + 1)),
    rfl, ?_, ?_, length, ?_, ?_⟩
  · rw [List.take_append_drop]
    exact List.forall_mem_append.mpr ⟨isDigit_replicate_zero _, d.isDigit_digits⟩
  · rw [← List.length_pos_iff, List.length_take]
    omega
  · by_cases few : d.digits.length < exponent + 2
    · refine .inl ?_
      have zeros : exponent + 2 - d.digits.length = exponent + 1 - d.digits.length + 1 := by omega
      have single : shown.length - (exponent + 1) = 1 := by
        simp only [shown, List.length_append, List.length_replicate]
        omega
      rw [single]
      simp only [shown, zeros, List.replicate_succ, List.cons_append, List.take_succ_cons,
        List.take_zero]
    · refine .inr ?_
      have zeros : exponent + 2 - d.digits.length = 0 := by omega
      have nonzero : coefficient ≠ 0 := by
        rintro rfl
        exact few (by simp [d, digits])
      have front := head?_toDigits nonzero
      simp only [shown, zeros, List.replicate_zero, List.nil_append]
      rw [List.head?_take, if_neg (by omega)]
      exact front
  · rw [List.take_append_drop, ofDigitChars_zeros_digits]

theorem positional_fraction (negative : Bool) (coefficient exponent : Nat) (pointed : Bool) :
    Pointed ⟨negative, coefficient, .negSucc exponent⟩
      (positional ⟨negative, coefficient, .negSucc exponent⟩ pointed) := by
  obtain ⟨whole, places, text, numeric, front, length, leading, same⟩ :=
    positional_negSucc negative coefficient exponent pointed
  refine ⟨whole, places, text, numeric, front, ?_, leading, ?_⟩
  · rw [← List.length_pos_iff, length]
    omega
  · rw [same, length]
    rfl

theorem shortest_zero (negative : Bool) {ordinal : Fin (2047 * 2 ^ 52)} (zero : ordinal.val = 0) :
    shortest negative ordinal = ⟨negative, 0, 0⟩ := by
  rw [shortest, if_pos zero]

theorem shortest_of_coefficient {negative : Bool} {ordinal : Fin (2047 * 2 ^ 52)}
    (nothing : (shortest negative ordinal).coefficient = 0) :
    shortest negative ordinal = ⟨negative, 0, 0⟩ := by
  have ⟨sign, nearest⟩ := shortest_spec negative ordinal
  have zero : ordinal.val = 0 := by
    generalize shortest negative ordinal = d at nothing nearest
    obtain ⟨_, coefficient, exponent⟩ := d
    cases nothing
    rw [nearest_zero] at nearest
    cases nearest
    rfl
  exact shortest_zero negative zero

theorem coefficient_ne_zero {negative : Bool} {ordinal : Fin (2047 * 2 ^ 52)}
    (large : 16 ≤ (shortest negative ordinal).order) :
    (shortest negative ordinal).coefficient ≠ 0 := by
  intro nothing
  rw [shortest_of_coefficient nothing] at large
  simp [order, digits] at large

end Decimal

namespace Binary64

theorem plain_cases (negative : Bool) (ordinal : Fin (2047 * 2 ^ 52)) :
    (∃ chars, (finite negative ordinal).plain = Stretch.signed negative chars ∧
      Decimal.Pointed (.shortest negative ordinal) chars) ∨
    ∃ coefficient exponent : Nat, coefficient ≠ 0 ∧
      Decimal.shortest negative ordinal = ⟨negative, coefficient, exponent⟩ ∧
      (finite negative ordinal).plain = Stretch.signed negative
        (Nat.toDigits 10 coefficient ++ List.replicate exponent '0') := by
  have ⟨sign, nearest⟩ := Decimal.shortest_spec negative ordinal
  have large := @Decimal.coefficient_ne_zero negative ordinal
  have small := @Decimal.shortest_of_coefficient negative ordinal
  rw [plain, Decimal.sign_append, sign]
  generalize Decimal.shortest negative ordinal = d at *
  obtain ⟨negative, coefficient, exponent | exponent⟩ := d
  · cases sign
    by_cases order : Decimal.order ⟨negative, coefficient, .ofNat exponent⟩ < 16
    · refine .inl ⟨_, rfl, ?_⟩
      rw [decide_eq_true order]
      refine Decimal.positional_pointed negative fun nothing => ?_
      have zero := small nothing
      cases zero
      rfl
    · refine .inr ⟨coefficient, exponent, large (Int.not_lt.mp order), rfl, ?_⟩
      rw [decide_eq_false order]
      simp [Decimal.positional, Decimal.digits]
  · exact .inl ⟨_, rfl, Decimal.positional_fraction negative coefficient exponent _⟩

theorem plain_chars (negative : Bool) (ordinal : Fin (2047 * 2 ^ 52)) :
    ∃ chars, (finite negative ordinal).plain = Stretch.signed negative chars ∧ chars ≠ [] ∧
      ∀ c ∈ chars, c.isDigit = true ∨ c = '.' := by
  rcases plain_cases negative ordinal with
    ⟨_, plain, whole, places, rfl, numeric, _⟩ | ⟨coefficient, exponent, _, _, plain⟩
  · refine ⟨_, plain, by simp, fun c inside => ?_⟩
    rw [List.mem_append, List.mem_cons] at inside
    rcases inside with inside | point | inside
    · exact .inl (numeric c (List.mem_append_left _ inside))
    · exact .inr point
    · exact .inl (numeric c (List.mem_append_right _ inside))
  · have numeric := List.forall_mem_append.mpr
      ⟨isDigit_toDigits coefficient, isDigit_replicate_zero exponent⟩
    exact ⟨_, plain, by simp [Nat.toDigits_ne_nil], fun c inside => .inl (numeric c inside)⟩

theorem lt_ten_pow {value exponent scale : Nat} (below : value < 2 ^ exponent * scale) :
    value < 10 ^ exponent * scale :=
  Nat.lt_of_lt_of_le below
    (Nat.mul_le_mul_right scale (Nat.pow_le_pow_left (by decide) exponent))

theorem length_whole_le {negative : Bool} {ordinal : Fin (2047 * 2 ^ 52)} {coefficient exponent : Nat}
    (nonzero : coefficient ≠ 0)
    (shortest : Decimal.shortest negative ordinal = ⟨negative, coefficient, exponent⟩) :
    (Nat.toDigits 10 coefficient ++ List.replicate exponent '0').length ≤ digitLimit := by
  have nearest := (Decimal.shortest_spec negative ordinal).2
  rw [shortest, Decimal.nearest_ofNat] at nearest
  -- the bound is hidden, for nothing may compute its power
  obtain ⟨bound, few, below⟩ : ∃ bound, bound ≤ 1026 ∧
      coefficient * 10 ^ exponent < 10 ^ bound * 1 :=
    ⟨1026, Nat.le_refl _, lt_ten_pow (lt_of_ofRatio_finite Nat.one_pos nearest)⟩
  rw [Nat.mul_one] at below
  have positive : 0 < bound := by
    apply Nat.pos_of_ne_zero
    rintro rfl
    have := Nat.mul_pos (Nat.pos_of_ne_zero nonzero) (Decimal.ten_pow_pos exponent)
    omega
  have digits : (Nat.toDigits 10 coefficient).length ≤ bound := by
    rw [Nat.length_toDigits_le_iff (by decide) positive]
    exact Nat.lt_of_le_of_lt (Nat.le_mul_of_pos_right _ (Decimal.ten_pow_pos exponent)) below
  have zeros : exponent < bound := by
    rw [← Nat.pow_lt_pow_iff_right (show 1 < 10 by decide)]
    exact Nat.lt_of_le_of_lt (Nat.le_mul_of_pos_left _ (Nat.pos_of_ne_zero nonzero)) below
  rw [List.length_append, List.length_replicate, digitLimit]
  omega

theorem point_mem_signed {negative : Bool} {chars : List Char} :
    '.' ∈ Stretch.signed negative chars ↔ '.' ∈ chars := by
  cases negative <;> simp [Stretch.signed]

/-- A finite number is read back as itself if it is written with a point, else as a whole number. -/
theorem ofChars_plain (negative : Bool) (ordinal : Fin (2047 * 2 ^ 52)) :
    Stretch.ofChars (finite negative ordinal).plain =
      ⟨.ok (.literal (if '.' ∈ (finite negative ordinal).plain then .float (finite negative ordinal)
        else .integer (Numeral.toInt (finite negative ordinal).plain))),
        (finite negative ordinal).plain, []⟩ := by
  have ⟨sign, nearest⟩ := Decimal.shortest_spec negative ordinal
  rcases plain_cases negative ordinal with
    ⟨chars, plain, whole, places, rfl, numeric, front, back, _, read⟩ |
    ⟨coefficient, exponent, nonzero, shortest, plain⟩
  · rw [sign, nearest] at read
    have digit : Stretch.startsWithDigit (whole ++ '.' :: places) = true :=
      Stretch.startsWithDigit_append (Stretch.startsWithDigit_of_digits
        (fun c inside => numeric c (List.mem_append_left places inside)) front)
    have point : '.' ∈ Stretch.signed negative (whole ++ '.' :: places) := by
      rw [point_mem_signed]
      simp
    rw [plain, Stretch.ofChars_signed negative digit, Stretch.number_point negative numeric back, read,
      if_pos point]
  · have numeric := List.forall_mem_append.mpr
      ⟨isDigit_toDigits coefficient, isDigit_replicate_zero exponent⟩
    have point : '.' ∉ Stretch.signed negative
        (Nat.toDigits 10 coefficient ++ List.replicate exponent '0') := by
      rw [point_mem_signed]
      intro inside
      exact absurd (numeric '.' inside) (by decide)
    have digit := Stretch.startsWithDigit_of_digits numeric (by simp [Nat.toDigits_ne_nil])
    rw [plain, Stretch.ofChars_signed negative digit,
      Stretch.number_digits negative numeric (length_whole_le nonzero shortest), if_neg point,
      Stretch.toInt_signed negative numeric]

end Binary64

end Rulebook
