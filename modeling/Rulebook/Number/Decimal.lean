import Rulebook.Number.Binary64

/-! Decimal numbers, the binary64 number nearest to one, and the decimal with the fewest digits
that is still nearest to a given binary64 number. -/
namespace Rulebook

/-- The number `coefficient * 10 ^ exponent`, with a sign that zero carries too. -/
structure Decimal where
  negative : Bool
  coefficient : Nat
  exponent : Int
  deriving DecidableEq, Repr

namespace Decimal

def nearest (d : Decimal) : Binary64 :=
  match d.exponent with
  | .ofNat e => .ofRatio d.negative (d.coefficient * 10 ^ e) 1
  | .negSucc e => .ofRatio d.negative d.coefficient (10 ^ (e + 1))

def trim (d : Decimal) : Decimal :=
  if _ : 0 < d.coefficient ∧ d.coefficient % 10 = 0 then
    trim { d with coefficient := d.coefficient / 10, exponent := d.exponent + 1 }
  else d
  termination_by d.coefficient
  decreasing_by omega

def exact (negative : Bool) (units : Nat) : Decimal := ⟨negative, units * 5 ^ 1074, -1074⟩

/-- The power of ten of the leading digit of `units * 2 ^ (-1074)`: scaled by `10 ^ 400` even the
least magnitude has a leading digit before the point. -/
def leading (units : Nat) : Int := (Nat.toDigits 10 (units * 10 ^ 400 / 2 ^ 1074)).length - 401

/-- Of the two multiples of `10 ^ exponent` around a number the nearer one that reads back, a tie
going to the even coefficient; else the other if that one reads back. -/
def onGrid? (negative : Bool) (ordinal : Fin (2047 * 2 ^ 52)) (exponent : Int) : Option Decimal :=
  let units := Binary64.units ordinal
  let (numerator, denominator) := match exponent with
    | .ofNat e => (units, 2 ^ 1074 * 10 ^ e)
    | .negSucc e => (units * 10 ^ (e + 1), 2 ^ 1074)
  let below := numerator / denominator
  let near := divEven numerator denominator
  let far := if near = below then below + 1 else below
  [near, far].map (trim ⟨negative, ·, exponent⟩) |>.find? (·.nearest = .finite negative ordinal)

/-- The decimal with the fewest digits that reads back; seventeen digits always suffice. -/
def shortest (negative : Bool) (ordinal : Fin (2047 * 2 ^ 52)) : Decimal :=
  if ordinal.val = 0 then ⟨negative, 0, 0⟩ else
    let top := leading (Binary64.units ordinal)
    ((List.range 17).findSome? fun places : Nat =>
      onGrid? negative ordinal (top - places)).getD
      (exact negative (Binary64.units ordinal))

end Decimal

end Rulebook
