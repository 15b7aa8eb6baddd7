import Rulebook.Proofs.Formula.RoundTrip
import Rulebook.Proofs.Json.Number
import Rulebook.Proofs.Number.Exact
import Rulebook.Proofs.Token.Segmentation

/-! Plain notation is exact. A number is written in full, without an exponent, as one token, and what
is written is the same decimal number that is displayed, however far the point has to be moved. -/
namespace Rulebook

namespace Decimal

/-- The number that a decimal stands for. Both zeros stand for zero. -/
def value (d : Decimal) : ℚ :=
  (if d.negative then -1 else 1) * (d.coefficient * 10 ^ d.exponent)

def numerator (d : Decimal) : Nat := d.coefficient * 10 ^ d.exponent.toNat

def denominator (d : Decimal) : Nat := 10 ^ (-d.exponent).toNat

theorem denominator_pos (d : Decimal) : 0 < d.denominator := ten_pow_pos _

theorem nearest_eq_ofRatio (d : Decimal) :
    d.nearest = .ofRatio d.negative d.numerator d.denominator := by
  obtain ⟨negative, coefficient, exponent | exponent⟩ := d
  · have whole : (-Int.ofNat exponent).toNat = 0 := by
      rw [Int.ofNat_eq_natCast]
      omega
    rw [denominator, whole, Nat.pow_zero]
    rfl
  · rw [numerator, Int.toNat_negSucc, Nat.pow_zero, Nat.mul_one]
    rfl

theorem value_eq_div (d : Decimal) :
    d.value = (if d.negative then -1 else 1) * ((d.numerator : ℚ) / d.denominator) := by
  have power : (10 : ℚ) ^ d.exponent =
      10 ^ d.exponent.toNat / 10 ^ (-d.exponent).toNat := by
    rw [← zpow_natCast, ← zpow_natCast, ← zpow_sub₀ (by norm_num)]
    congr 1
    omega
  rw [value, power, numerator, denominator]
  push_cast
  ring

/-- Rounding looks at nothing but the number and its sign. -/
theorem nearest_of_value {a b : Decimal} (sign : a.negative = b.negative)
    (same : a.value = b.value) : a.nearest = b.nearest := by
  have positive (d : Decimal) : (d.denominator : ℚ) ≠ 0 :=
    Nat.cast_ne_zero.mpr (Nat.ne_of_gt d.denominator_pos)
  have ratio : (a.numerator : ℚ) / a.denominator = b.numerator / b.denominator := by
    rw [value_eq_div, value_eq_div, sign] at same
    exact mul_left_cancel₀ (by split <;> norm_num) same
  rw [div_eq_div_iff (positive a) (positive b)] at ratio
  have cross : a.numerator * b.denominator = b.numerator * a.denominator := by exact_mod_cast ratio
  rw [nearest_eq_ofRatio, nearest_eq_ofRatio, sign]
  rw [← Binary64.ofRatio_scale b.negative a.numerator a.denominator b.denominator_pos, cross,
    Nat.mul_comm a.denominator, Binary64.ofRatio_scale _ _ _ a.denominator_pos]

theorem value_zeros (negative : Bool) (coefficient zeros : Nat) (exponent : Int) :
    value ⟨negative, coefficient * 10 ^ zeros, exponent - zeros⟩ =
      value ⟨negative, coefficient, exponent⟩ := by
  have power : (10 : ℚ) ^ zeros * 10 ^ (exponent - zeros) = 10 ^ exponent := by
    rw [← zpow_natCast, ← zpow_add₀ (by norm_num)]
    congr 1
    omega
  rw [value, value, Nat.cast_mul, Nat.cast_pow, Nat.cast_ofNat, mul_assoc (coefficient : ℚ), power]

end Decimal

namespace Numeral

open Json

/-- The decimal that a text writes: digits behind an optional sign, which a point may part, and an
optional power of ten. -/
def decimal? (chars : List Char) : Option Decimal :=
  let (negative, digits) := exponentSign chars
  let whole := digits.takeWhile Char.isDigit
  let (places, later) := fraction (digits.dropWhile Char.isDigit)
  let (power, rest) := exponent later
  if whole.isEmpty || !rest.isEmpty then none
  else some ⟨negative, Nat.ofDigitChars 10 (whole ++ places) 0, power.getD 0 - places.length⟩

theorem exponentSign_signed (negative : Bool) {chars : List Char}
    (digit : Stretch.startsWithDigit chars = true) :
    exponentSign (Stretch.signed negative chars) = (negative, chars) := by
  cases negative with
  | true => rfl
  | false =>
    rw [Stretch.signed, if_neg Bool.false_ne_true]
    unfold exponentSign
    split
    · cases digit
    · cases digit
    · rfl

variable {whole places tail later : List Char}

theorem decimal?_signed (negative : Bool) {power : Option Int}
    (numeric : ∀ c ∈ whole, c.isDigit = true) (nonempty : whole ≠ [])
    (stop : ∀ c ∈ tail.head?, c.isDigit = false) (broken : fraction tail = (places, later))
    (raised : exponent later = (power, [])) :
    decimal? (Stretch.signed negative (whole ++ tail)) =
      .some ⟨negative, Nat.ofDigitChars 10 (whole ++ places) 0,
        power.getD 0 - places.length⟩ := by
  have digit : Stretch.startsWithDigit (whole ++ tail) = true :=
    Stretch.startsWithDigit_append (Stretch.startsWithDigit_of_digits numeric nonempty)
  have front : (whole ++ tail).takeWhile Char.isDigit = whole := by
    rw [takeWhile_append_stop whole stop, Stretch.takeWhile_isDigit numeric]
  have back : (whole ++ tail).dropWhile Char.isDigit = tail := by
    rw [dropWhile_append_stop whole stop, Stretch.dropWhile_isDigit numeric, List.nil_append]
  simp only [decimal?, exponentSign_signed negative digit, front, back, broken, raised]
  simp [nonempty]

theorem decimal?_plain (negative : Bool) (numeric : ∀ c ∈ whole ++ places, c.isDigit = true)
    (nonempty : whole ≠ []) :
    decimal? (Stretch.signed negative (whole ++ if places.isEmpty then [] else '.' :: places)) =
      .some ⟨negative, Nat.ofDigitChars 10 (whole ++ places) 0, -places.length⟩ := by
  obtain ⟨before, after⟩ := List.forall_mem_append.mp numeric
  have raised : exponent [] = (none, []) := rfl
  rw [← Int.zero_sub]
  cases places with
  | nil =>
    have stop : ∀ c ∈ ([] : List Char).head?, c.isDigit = false := nofun
    exact decimal?_signed negative before nonempty stop rfl raised
  | cons digit places =>
    have stop : ∀ c ∈ ('.' :: digit :: places).head?, c.isDigit = false := by
      rintro c ⟨⟩
      rfl
    have last : ∀ c ∈ ([] : List Char).head?, c.isDigit = false := nofun
    have broken := fraction_point after (List.cons_ne_nil digit places) last
    rw [List.append_nil] at broken
    exact decimal?_signed negative before nonempty stop broken raised

def Writes (chars : List Char) (d : Decimal) : Prop :=
  ∃ spelled, decimal? chars = some spelled ∧ spelled.negative = d.negative ∧
    spelled.value = d.value

theorem writes_digits (d : Decimal) (zeros : Nat) (numeric : ∀ c ∈ whole ++ places, c.isDigit = true)
    (nonempty : whole ≠ [])
    (scaled : Nat.ofDigitChars 10 (whole ++ places) 0 = d.coefficient * 10 ^ zeros)
    (point : d.exponent - zeros = -places.length) :
    Writes (Stretch.signed d.negative (whole ++ if places.isEmpty then [] else '.' :: places)) d := by
  refine ⟨_, decimal?_plain d.negative numeric nonempty, rfl, ?_⟩
  rw [scaled, ← point]
  exact Decimal.value_zeros d.negative d.coefficient zeros d.exponent

end Numeral

namespace Decimal

open Numeral Json

theorem writes_positional (d : Decimal) (pointed : Bool) :
    Writes (Stretch.signed d.negative (d.positional pointed)) d := by
  obtain ⟨negative, coefficient, exponent | exponent⟩ := d
  · let d : Decimal := ⟨negative, coefficient, .ofNat exponent⟩
    let places := List.replicate pointed.toNat '0'
    have text : d.positional pointed = d.digits ++ List.replicate exponent '0' ++
        if places.isEmpty then [] else '.' :: places := by
      cases pointed <;> rfl
    have zeros : d.digits ++ List.replicate exponent '0' ++ places =
        d.digits ++ List.replicate (exponent + pointed.toNat) '0' := by
      rw [List.append_assoc, List.replicate_append_replicate]
    rw [text]
    refine writes_digits d _ ?_ ?_ (zeros ▸ d.ofDigitChars_digits_zeros _) ?_
    · rw [zeros]
      exact List.forall_mem_append.mpr ⟨d.isDigit_digits, isDigit_replicate_zero _⟩
    · simp [digits, Nat.toDigits_ne_nil]
    · simp only [d, places, List.length_replicate, Int.ofNat_eq_natCast]
      omega
  · obtain ⟨whole, places, text, numeric, front, length, _, same⟩ :=
      positional_negSucc negative coefficient exponent pointed
    have broken : places.isEmpty = false := by
      rw [List.isEmpty_eq_false_iff, ← List.length_pos_iff, length]
      omega
    have point : Int.negSucc exponent - (0 : Nat) = -(places.length : Nat) := by
      rw [length]
      omega
    have written := writes_digits ⟨negative, coefficient, .negSucc exponent⟩ 0 numeric front
      (by rw [same, Nat.pow_zero, Nat.mul_one]) point
    rw [broken] at written
    rw [text]
    exact written

theorem writes_scientific (d : Decimal) : Writes (Stretch.signed d.negative d.scientific) d := by
  obtain ⟨first, places, power, shown, whole, powers, written, size, exponent, scientific⟩ :=
    d.scientific_cases
  have numeric := d.isDigit_digits
  rw [shown] at numeric
  obtain ⟨single, after⟩ := List.forall_mem_append.mp
    (show ∀ c ∈ [first] ++ places, c.isDigit = true from numeric)
  have stops : Stops [] := nofun
  have raised := exponent_signed (decide (d.order < 0)) powers written stops
  have read := decimal?_signed d.negative single (List.cons_ne_nil first [])
    (head?_places rfl) (fraction_places after ⟨rfl, by decide⟩) raised
  rw [List.append_nil, size, Numeral.signed_natAbs, Option.getD_some, List.singleton_append,
    List.singleton_append, whole, exponent] at read
  rw [scientific]
  exact ⟨d, read, rfl, rfl⟩

end Decimal

namespace Binary64

variable (negative : Bool) (ordinal : Fin (2047 * 2 ^ 52))

theorem writes_plain :
    Numeral.Writes (finite negative ordinal).plain (.shortest negative ordinal) := by
  rw [plain, Decimal.sign_append]
  exact Decimal.writes_positional _ _

theorem writes_display :
    Numeral.Writes (finite negative ordinal).display (.shortest negative ordinal) := by
  rw [display, Decimal.sign_append]
  split
  · exact Decimal.writes_positional _ true
  · exact Decimal.writes_scientific _

end Binary64

def IsNumeral (text : String) (held : Literal) : Prop :=
  held.kind = .number ∧
  Stretch.ofChars text.toList = ⟨.ok (.literal held), text.toList, []⟩ ∧
  tokenize text = ([⟨.literal held, 0⟩, ⟨.finish, text.length⟩], none)

theorem isNumeral_of_ofChars {text : String} {held : Literal} (number : held.kind = .number)
    (read : Stretch.ofChars text.toList = ⟨.ok (.literal held), text.toList, []⟩) :
    IsNumeral text held := ⟨number, read, tokenize_single read nofun⟩

/-- Every finite number is written without an exponent and as one token. The decimal number written
is the one displayed, sign included, and is read as the number itself. A whole number that is not too
long is written as one token that holds it. -/
theorem numbers_written_in_full :
    (∀ negative ordinal,
      let x : Binary64 := .finite negative ordinal
      let text := (Literal.float x).source
      (∀ c ∈ text.toList, c.isDigit = true ∨ c = '.' ∨ c = '-') ∧
      IsNumeral text (Literal.float x).respelled ∧
      ∃ spelled shown, Numeral.decimal? text.toList = some spelled ∧
        Numeral.decimal? x.display = some shown ∧
        spelled.negative = shown.negative ∧ spelled.value = shown.value ∧ spelled.nearest = x) ∧
    ∀ value : Int, (Nat.toDigits 10 value.natAbs).length ≤ digitLimit →
      IsNumeral (Literal.integer value).source (.integer value) := by
  constructor
  · intro negative ordinal x text
    have source : text.toList = x.plain := String.toList_ofList
    obtain ⟨spelled, reads, sign, value⟩ := Binary64.writes_plain negative ordinal
    obtain ⟨shown, displays, same, equal⟩ := Binary64.writes_display negative ordinal
    have nearest : spelled.nearest = x := by
      rw [Decimal.nearest_of_value sign value]
      exact (Decimal.shortest_spec negative ordinal).2
    refine ⟨?_, ?_, spelled, shown, source ▸ reads, displays, sign.trans same.symm,
      value.trans equal.symm, nearest⟩
    · obtain ⟨chars, plain, _, numeric⟩ := Binary64.plain_chars negative ordinal
      intro c inside
      rw [source, plain] at inside
      cases negative with
      | false => exact (numeric c inside).imp_right .inl
      | true =>
        rcases List.mem_cons.mp inside with rfl | inside
        · exact .inr (.inr rfl)
        · exact (numeric c inside).imp_right .inl
    · refine isNumeral_of_ofChars (Literal.respelled_kind _) ?_
      rw [source]
      exact Binary64.ofChars_plain negative ordinal
  · intro value short
    refine isNumeral_of_ofChars rfl ?_
    rw [Literal.source, String.toList_ofList]
    exact Stretch.ofChars_ofInt short

/-- A number that is displayed with an exponent, and a whole number of many digits. -/
theorem numbers_written_in_full_examples :
    let small : Binary64 := .finite true ⟨4532020583610935537, by decide⟩
    let large : Int := -2 ^ 80
    let plain := "-0.00001"
    small.display = "-1e-05".toList ∧ (Literal.float small).source = plain ∧
    IsNumeral plain (.float small) ∧
    (∃ spelled shown, Numeral.decimal? plain.toList = some spelled ∧
      Numeral.decimal? small.display = some shown ∧
      spelled.negative = shown.negative ∧ spelled.value = shown.value ∧ spelled.nearest = small) ∧
    (Nat.toDigits 10 large.natAbs).length ≤ digitLimit ∧
    IsNumeral "-1208925819614629174706176" (.integer large) := by
  intro small large plain
  have short : (Nat.toDigits 10 large.natAbs).length ≤ digitLimit := by decide +kernel
  have source : (Literal.float small).source = plain := by decide +kernel
  have respelled : (Literal.float small).respelled = .float small := by decide +kernel
  have digits : (Literal.integer large).source = "-1208925819614629174706176" := by decide +kernel
  obtain ⟨_, numeral, exact⟩ := numbers_written_in_full.1 true ⟨4532020583610935537, by decide⟩
  have whole := numbers_written_in_full.2 large short
  rw [source, respelled] at numeral
  rw [source] at exact
  rw [digits] at whole
  exact ⟨by decide +kernel, source, numeral, exact, short, whole⟩

end Rulebook
