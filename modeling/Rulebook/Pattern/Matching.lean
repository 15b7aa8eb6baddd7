import Rulebook.Pattern

/-! Where the beginnings of a text that a pattern accepts end. The ends are listed in the order in
which the pattern prefers them, each once. -/
namespace Rulebook.Pattern

/-- A place in a text: how many characters stand before it, and the texts that groups have there. -/
structure Spot where
  position : Nat
  groups : List (Nat × List Char)
  deriving DecidableEq, Repr

namespace Spot

def start : Spot := ⟨0, []⟩

def advance (spot : Spot) (count : Nat) : Spot := { spot with position := spot.position + count }

def next? (text : Array Char) (spot : Spot) : Option Char := text[spot.position]?

def last? (text : Array Char) (spot : Spot) : Option Char :=
  if spot.position = 0 then none else text[spot.position - 1]?

def record (text : Array Char) (spot : Spot) (index : Nat) (earlier : Spot) : Spot :=
  let part := (text.extract earlier.position spot.position).toList
  { spot with groups := (index, part) :: spot.groups.filter (·.1 ≠ index) }

def isAt (text : Array Char) (spot : Spot) : Anchor → Bool
  | .start => spot.position = 0
  | .finish => spot.position = text.size
  | .lineStart => (spot.last? text).all (· = '\n')
  | .lineEnd => (spot.next? text).all (· = '\n')
  | .lastLineEnd =>
    spot.position = text.size || (spot.position + 1 = text.size && spot.next? text = some '\n')
  | .boundary ascii negated =>
    let isWord (side : Option Char) := side.any (Class.word.holds ascii)
    (isWord (spot.last? text) != isWord (spot.next? text)) != negated

end Spot

def rounds (step : Spot → List Spot) : Nat → List Spot → List Spot
  | 0, spots => spots
  | count + 1, spots =>
    let next := (spots.flatMap step).eraseDups
    if next = spots then spots else rounds step count next

/-- Adds what is reached from a place by as many further rounds as are left there, unless it has
been reached before. A round that does not move on is the last, so there are no more of them than
`fuel`, one more than the length of what follows. -/
def further (step : Spot → List Spot) (lazy : Bool) :
    Nat → List (Option Nat × Spot) → Option Nat × Spot → List (Option Nat × Spot)
  | 0, reached, place => if reached.contains place then reached else reached ++ [place]
  | fuel + 1, reached, place =>
    if reached.contains place then reached
    else
      let (left, spot) := place
      let nexts := if left = some 0 then [] else step spot
      let places := nexts.map fun next =>
        (if spot.position < next.position then left.map (· - 1) else some 0, next)
      if lazy then places.foldl (further step lazy fuel) (reached ++ [place])
      else places.foldl (further step lazy fuel) reached ++ [place]

def repeats (step : Spot → List Spot) (size least : Nat) (most : Option Nat) (mode : Mode)
    (spot : Spot) : List Spot :=
  let left := most.map (· - least)
  let ends := (rounds step least [spot]).flatMap fun spot =>
    (further step (mode = .lazy) (size - spot.position + 1) [] (left, spot)).map (·.2)
  if mode = .possessive then ends.take 1 else ends.eraseDups

/-- Where texts of a pattern end that start at a spot. Only groups that are recalled are kept. -/
def ends (recalled : List Nat) (text : Array Char) : Pattern → Spot → List Spot
  | .empty, spot => [spot]
  | .one letters negated members, spot =>
    match spot.next? text with
    | none => []
    | some c => if members.any (·.holds letters c) != negated then [spot.advance 1] else []
  | .anchor place, spot => if spot.isAt text place then [spot] else []
  | .both first rest, spot =>
    ((ends recalled text first spot).flatMap (ends recalled text rest)).eraseDups
  | .either first rest, spot =>
    (ends recalled text first spot ++ ends recalled text rest spot).eraseDups
  | .repeated body least most mode, spot =>
    repeats (ends recalled text body) text.size least most mode spot
  | .group index body, spot =>
    (ends recalled text body spot).map fun last =>
      if recalled.contains index then last.record text index spot else last
  | .again letters index, spot =>
    match spot.groups.lookup index with
    | none => []
    | some part =>
      let next := (text.extract spot.position (spot.position + part.length)).toList
      if next.length = part.length && (part.zip next).all fun (a, b) => letters.echoes a b then
        [spot.advance part.length]
      else []
  | .ahead negated body, spot =>
    match (ends recalled text body spot).head? with
    | some last => if negated then [] else [{ spot with groups := last.groups }]
    | none => if negated then [spot] else []
  | .behind negated width body, spot =>
    let found := if spot.position < width then none
      else (ends recalled text body { spot with position := spot.position - width }).head?
    match found with
    | some last => if negated then [] else [{ spot with groups := last.groups }]
    | none => if negated then [spot] else []
  | .atomic body, spot => (ends recalled text body spot).take 1
  | .given index yes no, spot =>
    if (spot.groups.lookup index).isSome then ends recalled text yes spot
    else ends recalled text no spot

/-- A pattern accepts what begins with one of its texts. -/
def accepts (pattern : Pattern) (text : String) : Bool :=
  !(ends pattern.recalled text.toList.toArray pattern .start).isEmpty

end Rulebook.Pattern
