/-! Binary64 numbers as exact values. A finite one is a sign and an ordinal that counts the
magnitudes from zero upward, which is also the word below the sign bit; neighbours differ by one. -/

-- Powers are those of the core library, whatever else a module imports.
attribute [instance (20000), default_instance (20000)] instPowNat

namespace Rulebook

/-- There is one NaN: no operation here tells two of them apart. -/
inductive Binary64
  | nan
  | infinite (negative : Bool)
  | finite (negative : Bool) (ordinal : Fin (2047 * 2 ^ 52))
  deriving DecidableEq, Repr

/-- The nearest natural number to a quotient; a half goes to the even neighbour. -/
def divEven (numerator denominator : Nat) : Nat :=
  let quotient := numerator / denominator
  let rest := numerator % denominator
  if 2 * rest < denominator then quotient
  else if denominator < 2 * rest then quotient + 1
  else quotient + quotient % 2

namespace Binary64

/-- The magnitude with the given ordinal in units of `2 ^ (-1074)`. -/
def units (ordinal : Nat) : Nat :=
  let shift := ordinal / 2 ^ 52 - 1
  (ordinal - shift * 2 ^ 52) * 2 ^ shift

/-- The nearest number to a quotient; of two equally near ones the one with an even ordinal. The
significand keeps 53 bits above the first unit, and a carry runs into the exponent by itself. -/
def ofRatio (negative : Bool) (numerator denominator : Nat) : Binary64 :=
  let scaled := numerator * 2 ^ 1074
  let shift := (scaled / denominator).log2 - 52
  let ordinal := shift * 2 ^ 52 + divEven scaled (denominator * 2 ^ shift)
  if fits : ordinal < 2047 * 2 ^ 52 then .finite negative ⟨ordinal, fits⟩ else .infinite negative

def ofBits (word : Nat) : Binary64 :=
  let negative := decide (2 ^ 63 ≤ word)
  let ordinal := word % 2 ^ 63
  if fits : ordinal < 2047 * 2 ^ 52 then .finite negative ⟨ordinal, fits⟩
  else if ordinal = 2047 * 2 ^ 52 then .infinite negative
  else .nan

def toBits : Binary64 → Nat
  | .nan => 2047 * 2 ^ 52 + 2 ^ 51
  | .infinite negative => negative.toNat * 2 ^ 63 + 2047 * 2 ^ 52
  | .finite negative ordinal => negative.toNat * 2 ^ 63 + ordinal.val

end Binary64

end Rulebook
