import Rulebook.Text.Blank
import Rulebook.Text.CaseFold
import Rulebook.Text.Digit
import Rulebook.Text.Word

/-! Patterns of text: what they are made of, and which of them are of one width. -/
namespace Rulebook

namespace Pattern

/-- How a pattern takes letters: whether their case matters not, and whether it only knows those of
ASCII. -/
structure Letters where
  anyCase : Bool
  ascii : Bool
  deriving DecidableEq, Repr

inductive Class
  | digit
  | blank
  | word
  deriving DecidableEq, Repr

inductive Member
  | range (first last : Nat)
  | ofClass (kind : Class) (negated : Bool)
  deriving DecidableEq, Repr

inductive Anchor
  | start
  | finish
  | lineStart
  | lineEnd
  /-- The end, or before a line break that ends the text. -/
  | lastLineEnd
  | boundary (ascii negated : Bool)
  deriving DecidableEq, Repr

/-- Which number of rounds is tried first, and whether others are tried after it. -/
inductive Mode
  | greedy
  | lazy
  | possessive
  deriving DecidableEq, Repr

namespace Class

def holds (ascii : Bool) (c : Char) : Class → Bool
  | .digit => if ascii then c.isDigit else (Text.digitValue? c).isSome
  | .blank => if ascii then c = ' ' || (0x09 ≤ c.toNat && c.toNat ≤ 0x0d) else Text.isBlank c
  | .word => if ascii then c.isAlphanum || c = '_' else Text.isWord c

end Class

namespace Letters

def spellings (letters : Letters) (c : Char) : List Nat :=
  if !letters.anyCase then [c.toNat]
  else if letters.ascii then [c.toLower.toNat, c.toUpper.toNat]
  else Text.spellings c

/-- In a text that is asked for again, a second form of a small letter counts only as itself. -/
def echoes (letters : Letters) (a b : Char) : Bool :=
  let isPlain (c : Char) := !Text.secondForms.contains c.toNat
  a = b || ((letters.spellings a).contains b.toNat && isPlain a && isPlain b)

end Letters

def Member.holds (letters : Letters) (c : Char) : Member → Bool
  | .range first last => (letters.spellings c).any fun code => first ≤ code && code ≤ last
  | .ofClass kind negated => kind.holds letters.ascii c != negated

end Pattern

open Pattern in
inductive Pattern
  | empty
  | one (letters : Letters) (negated : Bool) (members : List Member)
  | anchor (place : Anchor)
  | both (first rest : Pattern)
  | either (first rest : Pattern)
  | repeated (body : Pattern) (least : Nat) (most : Option Nat) (mode : Mode)
  /-- A part whose text can be asked for again. -/
  | group (index : Nat) (body : Pattern)
  /-- The text of a group. -/
  | again (letters : Letters) (index : Nat)
  | ahead (negated : Bool) (body : Pattern)
  /-- What stands before is, or is not, of a pattern that has one width. -/
  | behind (negated : Bool) (width : Nat) (body : Pattern)
  /-- Only the first way to read the body is tried. -/
  | atomic (body : Pattern)
  /-- Which of two parts is read depends on whether a group has text. -/
  | given (index : Nat) (yes no : Pattern)
  deriving DecidableEq, Repr

namespace Pattern

/-- How many characters any text of the pattern has, if they are all as long, by the widths of the
groups that it asks for. -/
def width? (widths : Nat → Option Nat) : Pattern → Option Nat
  | .empty | .anchor _ | .ahead _ _ | .behind _ _ _ => some 0
  | .one _ _ _ => some 1
  | .both first rest => do return (← first.width? widths) + (← rest.width? widths)
  | .either first rest | .given _ first rest =>
    match first.width? widths, rest.width? widths with
    | some left, some right => if left = right then some left else none
    | _, _ => none
  | .repeated body least most _ =>
    match body.width? widths with
    | some 0 => some 0
    | some width => if most = some least then some (least * width) else none
    | none => if most = some 0 then some 0 else none
  | .group _ body | .atomic body => body.width? widths
  | .again _ index => widths index

def recalled : Pattern → List Nat
  | .empty | .one _ _ _ | .anchor _ => []
  | .both first rest | .either first rest => first.recalled ++ rest.recalled
  | .given index yes no => index :: (yes.recalled ++ no.recalled)
  | .again _ index => [index]
  | .repeated body _ _ _ | .group _ body | .ahead _ body | .behind _ _ body | .atomic body =>
    body.recalled

/-- Places have no rounds, and rounds none of their own. -/
def isRepeatable : Pattern → Bool
  | .anchor _ | .repeated _ _ _ _ => false
  | _ => true

end Pattern

end Rulebook
