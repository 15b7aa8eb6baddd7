import Rulebook.Error
import Rulebook.Text.Blank
import Rulebook.Text.Digit

/-! Whole numbers in settings: blanks around them, a sign, leading zeros and single underscores
between digits are allowed, and the digits may be of any script. -/
namespace Rulebook

inductive IntegerFault
  | invalid (text : String)
  | overlong (digits : Nat)
  deriving DecidableEq, Repr

/-- At most 200 characters of the quoted text are shown. -/
def IntegerFault.message : IntegerFault → String
  | .invalid text =>
    "invalid literal for int() with base 10: " ++ String.ofList ((Text.quoted text).toList.take 200)
  | .overlong digits => Rulebook.overlong digits

namespace Text

/-- In a text that is not all ASCII any blank counts as a space, any digit as the ASCII one, and a
character that is neither spoils the number. -/
def plainChar (c : Char) : Char :=
  if c.toNat < 0x7f then c
  else if isBlank c then ' '
  else
    match digitValue? c with
    | some value => Nat.digitChar value
    | none => '?'

def plainChars (chars : List Char) : List Char :=
  if chars.all (·.toNat < 0x80) then chars else chars.map plainChar

def isSpace (c : Char) : Bool := c = ' ' || (0x09 ≤ c.toNat && c.toNat ≤ 0x0d)

def grouped : List Char → Bool
  | [] => true
  | '_' :: _ => false
  | [_] => true
  | _ :: '_' :: [] => false
  | _ :: '_' :: rest => grouped rest
  | _ :: rest => grouped rest

def signOf : List Char → Bool × List Char
  | '-' :: rest => (true, rest)
  | '+' :: rest => (false, rest)
  | chars => (false, chars)

/-- A number with too many digits is refused before what follows it is looked at. -/
def integer (text : String) : Except IntegerFault Int :=
  let (negative, chars) := signOf ((plainChars text.toList).dropWhile isSpace)
  let isMember (c : Char) := c.isDigit || c = '_'
  let body := chars.takeWhile isMember
  let digits := body.filter Char.isDigit
  if !grouped body then .error (.invalid text)
  else if digitLimit < digits.length then .error (.overlong digits.length)
  else if digits.isEmpty || !(chars.dropWhile isMember).all isSpace then .error (.invalid text)
  else
    let size : Int := Nat.ofDigitChars 10 digits 0
    .ok (if negative then -size else size)

end Text

end Rulebook
