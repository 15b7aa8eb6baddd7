import Rulebook.Number.Decimal

/-! Written numbers. A displayed number turns to an exponent outside the range from `1e-4` to
`1e16`; a plain numeral never has one. -/
namespace Rulebook

def Numeral.ofInt (value : Int) : List Char :=
  if value < 0 then '-' :: Nat.toDigits 10 value.natAbs else Nat.toDigits 10 value.natAbs

namespace Decimal

def digits (d : Decimal) : List Char := Nat.toDigits 10 d.coefficient

def order (d : Decimal) : Int := d.exponent + d.digits.length - 1

def sign (d : Decimal) : List Char := if d.negative then ['-'] else []

/-- The digits with the point in its place; a whole number ends in `.0` if `pointed`. -/
def positional (d : Decimal) (pointed : Bool) : List Char :=
  match d.exponent with
  | .ofNat e => d.digits ++ List.replicate e '0' ++ if pointed then ['.', '0'] else []
  | .negSucc e =>
    let places := e + 1
    let shown := List.replicate (places + 1 - d.digits.length) '0' ++ d.digits
    shown.take (shown.length - places) ++ '.' :: shown.drop (shown.length - places)

def scientific (d : Decimal) : List Char :=
  let power := Nat.toDigits 10 d.order.natAbs
  let fraction := d.digits.drop 1
  d.digits.take 1 ++ (if fraction.isEmpty then [] else '.' :: fraction) ++
    'e' :: (if d.order < 0 then '-' else '+') :: (List.replicate (2 - power.length) '0' ++ power)

end Decimal

namespace Binary64

def display : Binary64 → List Char
  | .nan => "nan".toList
  | .infinite negative => if negative then "-inf".toList else "inf".toList
  | .finite negative ordinal =>
    let d := Decimal.shortest negative ordinal
    d.sign ++ if -4 ≤ d.order ∧ d.order < 16 then d.positional true else d.scientific

/-- The digits of `display` in positional notation. A number that `display` writes with an
exponent gets no `.0`. -/
def plain : Binary64 → List Char
  | .nan => "NaN".toList
  | .infinite negative => if negative then "-Infinity".toList else "Infinity".toList
  | .finite negative ordinal =>
    let d := Decimal.shortest negative ordinal
    d.sign ++ d.positional (d.order < 16)

end Binary64

end Rulebook
