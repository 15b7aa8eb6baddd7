import Rulebook.Number.Binary64

/-! Exact values on the extended number line. Whole and binary64 numbers share the unit
`2 ^ (-1074)`, so that comparing them rounds neither. -/
namespace Rulebook

inductive Quantity
  | negativeInfinity
  | units (value : Int)
  | positiveInfinity
  deriving DecidableEq, Repr

namespace Quantity

def compare : Quantity → Quantity → Ordering
  | .units a, .units b => Ord.compare a b
  | .negativeInfinity, .negativeInfinity => .eq
  | .positiveInfinity, .positiveInfinity => .eq
  | .negativeInfinity, _ => .lt
  | _, .negativeInfinity => .gt
  | .positiveInfinity, _ => .gt
  | _, .positiveInfinity => .lt

def ofInt (value : Int) : Quantity := .units (value * 2 ^ 1074)

end Quantity

/-- NaN lies nowhere on the line; both zeros lie at zero. -/
def Binary64.quantity? : Binary64 → Option Quantity
  | .nan => none
  | .infinite true => some .negativeInfinity
  | .infinite false => some .positiveInfinity
  | .finite negative ordinal =>
    let size : Int := Binary64.units ordinal
    some (.units (if negative then -size else size))

end Rulebook
