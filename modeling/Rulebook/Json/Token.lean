import Rulebook.Error
import Rulebook.Number.Decimal
import Rulebook.Text.Digit

/-! Tokens of JSON text: scalars whole, brackets and separators one by one. Besides the standard
words `NaN`, `Infinity` and `-Infinity` are numbers. -/
namespace Rulebook.Json

inductive Fault
  | malformed
  | tooDeep
  /-- It is right otherwise, but half a surrogate pair stands in a text in it. -/
  | halved
  deriving DecidableEq, Repr

inductive Token
  | value (held : Value)
  /-- A text with half a surrogate pair in it, which is no character. -/
  | halved
  | openList
  | closeList
  | openObject
  | closeObject
  | colon
  | comma
  deriving DecidableEq, Repr

def isSpace (c : Char) : Bool := c = ' ' || c = '\t' || c = '\n' || c = '\r'

def hexUnit? (a b c d : Char) : Option Nat := do
  let high := (← Text.hexDigit? a) * 16 + (← Text.hexDigit? b)
  return (high * 16 + (← Text.hexDigit? c)) * 16 + (← Text.hexDigit? d)

def escaped? (c : Char) : Option Nat :=
  [('"', '"'), ('\\', '\\'), ('/', '/'), ('b', '\x08'), ('f', '\x0c'), ('n', '\n'), ('r', '\r'),
    ('t', '\t')].lookup c |>.map Char.toNat

/-- The codes of a text up to its closing mark, and what follows the mark. Control characters must
be escaped. -/
def codes : List Char → Option (List Nat × List Char)
  | [] => none
  | '"' :: rest => some ([], rest)
  | '\\' :: 'u' :: a :: b :: c :: d :: rest =>
    (hexUnit? a b c d).bind fun code => (codes rest).map fun read => (code :: read.1, read.2)
  | '\\' :: c :: rest =>
    (escaped? c).bind fun code => (codes rest).map fun read => (code :: read.1, read.2)
  | c :: rest =>
    if c.toNat < 0x20 then none
    else (codes rest).map fun read => (c.toNat :: read.1, read.2)

/-- Joins the two halves of each surrogate pair. A half on its own has no character. -/
def characters? : List Nat → Option (List Char)
  | high :: low :: rest =>
    if 0xd800 ≤ high && high < 0xdc00 && 0xdc00 ≤ low && low < 0xe000 then
      (characters? rest).map
        (Char.ofNat (0x10000 + (high - 0xd800) * 0x400 + (low - 0xdc00)) :: ·)
    else if 0xd800 ≤ high && high < 0xe000 then none
    else (characters? (low :: rest)).map (Char.ofNat high :: ·)
  | [code] => if 0xd800 ≤ code && code < 0xe000 then none else some [Char.ofNat code]
  | [] => some []

def Token.text (codes : List Nat) : Token :=
  match characters? codes with
  | some chars => .value (.text (.ofList chars))
  | none => .halved

def fraction : List Char → List Char × List Char
  | '.' :: rest =>
    if (rest.takeWhile Char.isDigit).isEmpty then ([], '.' :: rest)
    else (rest.takeWhile Char.isDigit, rest.dropWhile Char.isDigit)
  | chars => ([], chars)

def exponentSign : List Char → Bool × List Char
  | '-' :: rest => (true, rest)
  | '+' :: rest => (false, rest)
  | chars => (false, chars)

def exponent (chars : List Char) : Option Int × List Char :=
  match chars with
  | c :: rest =>
    let (negative, digits) := exponentSign rest
    let shown := digits.takeWhile Char.isDigit
    if (c = 'e' || c = 'E') && !shown.isEmpty then
      let size : Int := Nat.ofDigitChars 10 shown 0
      (some (if negative then -size else size), digits.dropWhile Char.isDigit)
    else (none, chars)
  | [] => (none, chars)

/-- A number after its sign. It is whole unless it has a fraction or an exponent, and whole numbers
have a limit on their digits. An exponent so large that the number is infinite or zero anyway is cut
to one for which this is so too. -/
def number? (negative : Bool) (chars : List Char) : Option (Value × List Char) :=
  let digits := chars.takeWhile Char.isDigit
  let whole := if digits.head? = some '0' then ['0'] else digits
  let (places, later) := fraction (chars.drop whole.length)
  let (power, rest) := exponent later
  if whole.isEmpty then none
  else if places.isEmpty && power.isNone then
    if digitLimit < whole.length then none
    else
      let size : Int := Nat.ofDigitChars 10 whole 0
      some (.integer (if negative then -size else size), rest)
  else
    let reach : Int := whole.length + places.length + 400
    let power := max (-reach) (min reach (power.getD 0))
    let coefficient := Nat.ofDigitChars 10 (whole ++ places) 0
    some (.scalar (.float (Decimal.mk negative coefficient (power - places.length)).nearest), rest)

def words : List (String × Value) := [
  ("null", .null),
  ("true", .boolean true),
  ("false", .boolean false),
  ("NaN", .scalar (.float .nan)),
  ("Infinity", .scalar (.float (.infinite false))),
  ("-Infinity", .scalar (.float (.infinite true)))]

def word? (chars : List Char) : Option (Value × List Char) :=
  (words.find? fun word => word.1.toList.isPrefixOf chars).map fun word =>
    (word.2, chars.drop word.1.length)

def scalar? (chars : List Char) : Option (Value × List Char) :=
  match word? chars with
  | some found => some found
  | none =>
    match chars with
    | '-' :: rest => number? true rest
    | chars => number? false chars

def Token.read? (chars : List Char) : Option (Token × List Char) :=
  match chars with
  | '[' :: rest => some (.openList, rest)
  | ']' :: rest => some (.closeList, rest)
  | '\x7b' :: rest => some (.openObject, rest)
  | '\x7d' :: rest => some (.closeObject, rest)
  | ':' :: rest => some (.colon, rest)
  | ',' :: rest => some (.comma, rest)
  | '"' :: rest => (codes rest).map fun (held, rest) => (.text held, rest)
  | chars => (scalar? chars).map fun (held, rest) => (.value held, rest)

theorem codes_length {chars rest : List Char} {held : List Nat}
    (read : codes chars = some (held, rest)) : rest.length < chars.length := by
  fun_induction codes chars generalizing held rest with
  | case1 => cases read
  | case2 after =>
    cases read
    exact Nat.lt_succ_self _
  | case3 a b c d after next =>
    obtain ⟨_, _, read⟩ := Option.bind_eq_some_iff.mp read
    obtain ⟨⟨more, last⟩, found, equal⟩ := Option.map_eq_some_iff.mp read
    cases equal
    have := next found
    simp only [List.length_cons]
    omega
  | case4 c after _ next =>
    obtain ⟨_, _, read⟩ := Option.bind_eq_some_iff.mp read
    obtain ⟨⟨more, last⟩, found, equal⟩ := Option.map_eq_some_iff.mp read
    cases equal
    have := next found
    simp only [List.length_cons]
    omega
  | case5 => cases read
  | case6 c after _ _ _ _ next =>
    obtain ⟨⟨more, last⟩, found, equal⟩ := Option.map_eq_some_iff.mp read
    cases equal
    have := next found
    simp only [List.length_cons]
    omega

theorem fraction_length (chars : List Char) : (fraction chars).2.length ≤ chars.length := by
  unfold fraction
  split
  · rename_i rest
    split
    · simp
    · have := (List.dropWhile_sublist Char.isDigit (l := rest)).length_le
      simp only [List.length_cons]
      omega
  · simp

theorem exponent_length (chars : List Char) : (exponent chars).2.length ≤ chars.length := by
  unfold exponent
  split
  · rename_i c rest
    have sign : (exponentSign rest).2.length ≤ rest.length := by
      unfold exponentSign
      split <;> simp
    dsimp only
    split
    · have := (List.dropWhile_sublist Char.isDigit (l := (exponentSign rest).2)).length_le
      simp only [List.length_cons]
      omega
    · simp
  · simp

theorem number?_length {negative : Bool} {chars rest : List Char} {value : Value}
    (read : number? negative chars = some (value, rest)) : rest.length < chars.length := by
  unfold number? at read
  dsimp only at read
  generalize whole : (if (chars.takeWhile Char.isDigit).head? = some '0' then ['0']
    else chars.takeWhile Char.isDigit) = digits at read
  have fractionLength := fraction_length (chars.drop digits.length)
  have exponentLength := exponent_length (fraction (chars.drop digits.length)).2
  simp only [List.length_drop] at fractionLength
  split at read
  · cases read
  rename_i nonempty
  have positive : 0 < digits.length := List.length_pos_iff.mpr (by simpa using nonempty)
  have fits : 0 < chars.length := by
    refine List.length_pos_iff.mpr fun empty => ?_
    subst empty
    simp at whole
    simp_all
  have last : rest = (exponent (fraction (chars.drop digits.length)).2).2 := by
    split at read
    · split at read <;> simp_all
    · simp_all
  rw [last]
  omega

theorem scalar?_length {chars rest : List Char} {value : Value}
    (read : scalar? chars = some (value, rest)) : rest.length < chars.length := by
  unfold scalar? at read
  split at read
  · rename_i found word
    cases read
    simp only [word?, Option.map_eq_some_iff] at word
    obtain ⟨entry, listed, held⟩ := word
    have start := List.find?_some listed
    have nonempty : 0 < entry.1.length := by
      have := List.mem_of_find?_eq_some listed
      simp only [words, List.mem_cons, List.not_mem_nil, or_false] at this
      rcases this with rfl | rfl | rfl | rfl | rfl | rfl <;> decide
    have fits := (List.isPrefixOf_iff_prefix.mp start).length_le
    cases held
    simp only [List.length_drop]
    have : entry.1.toList.length = entry.1.length := String.length_toList
    omega
  · split at read
    · have := number?_length read
      simp only [List.length_cons]
      omega
    · exact number?_length read

theorem Token.read?_length {chars rest : List Char} {token : Token}
    (read : Token.read? chars = some (token, rest)) : rest.length < chars.length := by
  unfold Token.read? at read
  split at read
  iterate 6
    · cases read
      exact Nat.lt_succ_self _
  all_goals
    simp only [Option.map_eq_some_iff, Prod.exists, Prod.mk.injEq] at read
    obtain ⟨held, last, found, _, rfl⟩ := read
  · exact Nat.lt_succ_of_lt (codes_length found)
  · exact scalar?_length found

/-- The tokens of a text, every one of which takes at least one character. At a place where none can
be read the last entry says so. -/
def tokens (chars : List Char) : List (Option Token) :=
  match _found : chars.dropWhile isSpace with
  | [] => []
  | c :: others =>
    match _read : Token.read? (c :: others) with
    | none => [none]
    | some (token, rest) => some token :: tokens rest
  termination_by chars.length
  decreasing_by
    have := (List.dropWhile_sublist isSpace (l := chars)).length_le
    rw [_found] at this
    have := Token.read?_length _read
    omega

end Rulebook.Json
