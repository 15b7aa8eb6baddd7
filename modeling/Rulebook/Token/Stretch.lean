import Rulebook.Error
import Rulebook.Name
import Rulebook.Number.Decimal

/-! Reading tokens from the front of a text. Every stretch is as long as it can be, and what is
read and what is left always make up the text again. -/
namespace Rulebook

inductive Misread
  | number (digits : String)
  | openText
  | loneSign (sign : Char)
  | foreign (character : Char)
  | overlong (digits : Nat)
  deriving DecidableEq, Repr

/-- A malformed number is reported at its point, any other misread where it starts. -/
def Misread.error (start finish : Nat) : Misread → Error
  | .number digits => .malformed (.malformedNumber digits) (some finish)
  | .openText => .malformed .unterminatedText (some start)
  | .loneSign sign => .malformed (.loneSign sign) (some start)
  | .foreign character => .malformed (.foreign character) (some start)
  | .overlong digits => .numeral digits

/-- What was found at the front of a text, the characters read for it and those left. -/
structure Stretch where
  found : Except Misread Symbol
  lexeme : List Char
  rest : List Char

namespace Stretch

def isGap (c : Char) : Bool := c = ' ' || c = '\t' || c = '\r' || c = '\n'

def signed (negative : Bool) (chars : List Char) : List Char :=
  if negative then '-' :: chars else chars

def number (negative : Bool) (chars : List Char) : Stretch :=
  let whole := chars.takeWhile Char.isDigit
  let read := signed negative whole
  match chars.dropWhile Char.isDigit with
  | '.' :: after =>
    let places := after.takeWhile Char.isDigit
    if places.isEmpty then ⟨.error (.number (String.ofList read)), read, '.' :: after⟩
    else
      let coefficient := Nat.ofDigitChars 10 (whole ++ places) 0
      let value := (Decimal.mk negative coefficient (-places.length)).nearest
      ⟨.ok (.literal (.float value)), read ++ '.' :: places, after.dropWhile Char.isDigit⟩
  | rest =>
    if digitLimit < whole.length then ⟨.error (.overlong whole.length), read, rest⟩
    else
      let size : Int := Nat.ofDigitChars 10 whole 0
      ⟨.ok (.literal (.integer (if negative then -size else size))), read, rest⟩

/-- A text after its opening mark. It ends at the next such mark and knows no escapes. -/
def text (mark : Char) (chars : List Char) : Stretch :=
  let held := chars.takeWhile (· != mark)
  match chars.dropWhile (· != mark) with
  | [] => ⟨.error .openText, mark :: held, []⟩
  | closing :: rest =>
    ⟨.ok (.literal (.text (String.ofList held))), mark :: held ++ [closing], rest⟩

/-- Connectives are words in any letter case, truth values only in lower case. -/
def wordSymbol (word : List Char) : Symbol :=
  if word = ['t', 'r', 'u', 'e'] then .literal (.boolean true)
  else if word = ['f', 'a', 'l', 's', 'e'] then .literal (.boolean false)
  else if word.map Char.toUpper = ['A', 'N', 'D'] then .connective .and
  else if word.map Char.toUpper = ['O', 'R'] then .connective .or
  else .name (String.ofList word)

def word (chars : List Char) : Stretch :=
  let read := chars.takeWhile isNameChar
  ⟨.ok (wordSymbol read), read, chars.dropWhile isNameChar⟩

def sign : List Char → Stretch
  | '<' :: '=' :: rest => ⟨.ok (.relation .atMost), ['<', '='], rest⟩
  | '<' :: rest => ⟨.ok (.relation .less), ['<'], rest⟩
  | '>' :: '=' :: rest => ⟨.ok (.relation .atLeast), ['>', '='], rest⟩
  | '>' :: rest => ⟨.ok (.relation .greater), ['>'], rest⟩
  | '=' :: '=' :: rest => ⟨.ok (.relation .equal), ['=', '='], rest⟩
  | '=' :: rest => ⟨.ok (.relation .equal), ['='], rest⟩
  | '!' :: '=' :: rest => ⟨.ok (.relation .notEqual), ['!', '='], rest⟩
  | '!' :: rest => ⟨.error (.loneSign '!'), [], '!' :: rest⟩
  | '&' :: '&' :: rest => ⟨.ok (.connective .and), ['&', '&'], rest⟩
  | '&' :: rest => ⟨.error (.loneSign '&'), [], '&' :: rest⟩
  | '|' :: '|' :: rest => ⟨.ok (.connective .or), ['|', '|'], rest⟩
  | '|' :: rest => ⟨.error (.loneSign '|'), [], '|' :: rest⟩
  | '(' :: rest => ⟨.ok .opening, ['('], rest⟩
  | ')' :: rest => ⟨.ok .closing, [')'], rest⟩
  | c :: rest => ⟨.error (.foreign c), [], c :: rest⟩
  | [] => ⟨.ok .finish, [], []⟩

def startsWithDigit : List Char → Bool
  | c :: _ => c.isDigit
  | [] => false

def ofChars (chars : List Char) : Stretch :=
  match chars with
  | [] => ⟨.ok .finish, [], []⟩
  | c :: rest =>
    if c.isDigit then number false (c :: rest)
    else if c = '-' && startsWithDigit rest then number true rest
    else if c = '\'' || c = '"' then text c rest
    else if isNameStart c then word (c :: rest)
    else sign (c :: rest)

theorem signed_append (negative : Bool) (chars rest : List Char) :
    signed negative chars ++ rest = signed negative (chars ++ rest) := by
  cases negative <;> rfl

theorem number_append (negative : Bool) (chars : List Char) :
    (number negative chars).lexeme ++ (number negative chars).rest = signed negative chars := by
  have whole := List.takeWhile_append_dropWhile (p := Char.isDigit) (l := chars)
  unfold number
  dsimp only
  split
  · rename_i after found
    rw [found] at whole
    have places := List.takeWhile_append_dropWhile (p := Char.isDigit) (l := after)
    split <;> simp [signed_append, whole, places]
  · split <;> simp [signed_append, whole]

theorem text_append (mark : Char) (chars : List Char) :
    (text mark chars).lexeme ++ (text mark chars).rest = mark :: chars := by
  have held := List.takeWhile_append_dropWhile (p := (· != mark)) (l := chars)
  unfold text
  split
  · rename_i found
    rw [found] at held
    simpa using held
  · rename_i found
    rw [found] at held
    simp [held]

theorem word_append (chars : List Char) : (word chars).lexeme ++ (word chars).rest = chars :=
  List.takeWhile_append_dropWhile

theorem sign_append (chars : List Char) : (sign chars).lexeme ++ (sign chars).rest = chars := by
  unfold sign
  split <;> rfl

theorem ofChars_append (chars : List Char) :
    (ofChars chars).lexeme ++ (ofChars chars).rest = chars := by
  unfold ofChars
  split
  · rfl
  · rename_i c rest
    split
    · exact number_append false _
    split
    · rename_i minus
      simp_all [number_append, signed]
    split
    · exact text_append c rest
    split
    · exact word_append _
    · exact sign_append _

theorem lexeme_ne_nil {chars : List Char} {symbol : Symbol}
    (read : (ofChars chars).found = .ok symbol) (unended : symbol ≠ .finish) :
    (ofChars chars).lexeme ≠ [] := by
  unfold ofChars at read ⊢
  split at read
  · simp_all
  · rename_i c rest
    split at read
    · rename_i digit
      rw [if_pos digit]
      unfold number
      dsimp only
      split
      · split <;> simp [signed, digit]
      · split <;> simp [signed, digit]
    rename_i digit
    rw [if_neg digit]
    split at read
    · rename_i minus
      rw [if_pos minus]
      unfold number
      dsimp only
      split
      · split <;> simp [signed]
      · split <;> simp [signed]
    rename_i minus
    rw [if_neg minus]
    split at read
    · rename_i mark
      rw [if_pos mark]
      unfold text
      dsimp only
      split <;> simp
    rename_i mark
    rw [if_neg mark]
    split at read
    · rename_i start
      rw [if_pos start]
      have char := isNameChar_of_isNameStart start
      simp [word, char]
    rename_i start
    rw [if_neg start]
    unfold sign at read ⊢
    split <;> simp_all

end Stretch

end Rulebook
