import Rulebook.Json.Reader
import Rulebook.Proofs.Json.Number
import Rulebook.Proofs.Json.Text
import Rulebook.Proofs.Token.Stretch

/-! A literal is read back from its JSON text, if it is no integer of more digits than may be
read. -/
namespace Rulebook

def Literal.Short : Literal → Prop
  | .integer value => (Nat.toDigits 10 value.natAbs).length ≤ digitLimit
  | _ => True

@[simp] theorem Literal.short_text (value : String) : (Literal.text value).Short := trivial

theorem Literal.Written.short {literal : Literal} (written : literal.Written) : literal.Short := by
  cases literal with
  | integer value => exact written
  | _ => trivial

namespace Json

variable {rest : List Char}

theorem word?_none {c : Char} (more : List Char) (other : c ∉ ['n', 't', 'f', 'N', 'I', '-']) :
    word? (c :: more) = none := by
  simp only [List.mem_cons, List.not_mem_nil, or_false, not_or] at other
  simp [word?, words, List.isPrefixOf, Ne.symm, other]

theorem word?_minus {c : Char} (more : List Char) (other : c ≠ 'I') :
    word? ('-' :: c :: more) = none := by
  simp [word?, words, List.isPrefixOf, Ne.symm other]

theorem digit_of_number? {negative : Bool} {chars : List Char} {read : Value × List Char}
    (found : number? negative chars = some read) :
    ∃ c more, chars = c :: more ∧ c.isDigit = true := by
  cases chars with
  | nil => simp [number?] at found
  | cons c more =>
    refine ⟨c, more, rfl, ?_⟩
    by_contra other
    simp [number?, other] at found

theorem scalar?_signed {negative : Bool} {chars : List Char} {read : Value × List Char}
    (found : number? negative chars = some read) :
    scalar? (Stretch.signed negative chars) = some read := by
  obtain ⟨c, more, rfl, digit⟩ := digit_of_number? found
  have other {d : Char} (plain : d.isDigit = false) : c ≠ d := by
    rintro rfl
    rw [digit] at plain
    cases plain
  cases negative with
  | true =>
    rw [Stretch.signed, if_pos rfl, scalar?, word?_minus more (other rfl)]
    exact found
  | false =>
    have word : word? (c :: more) = none := word?_none more (by
      simp only [List.mem_cons, List.not_mem_nil, or_false, not_or]
      exact ⟨other rfl, other rfl, other rfl, other rfl, other rfl, other rfl⟩)
    rw [Stretch.signed, if_neg Bool.false_ne_true, scalar?, word]
    · exact found
    all_goals
      intro rest equal
      exact absurd (List.cons.inj equal).1 (other rfl)

def marks : List Char := [' ', '\t', '\n', '\r', '[', ']', '\x7b', '\x7d', ':', ',', '"']

theorem scalar?_mark {c : Char} (more : List Char) (mark : c ∈ marks) :
    scalar? (c :: more) = none := by
  simp only [marks, List.mem_cons, List.not_mem_nil, or_false] at mark
  rcases mark with rfl | rfl | rfl | rfl | rfl | rfl | rfl | rfl | rfl | rfl | rfl <;> rfl

theorem Token.read?_of_scalar? {chars : List Char} {value : Value}
    (read : scalar? chars = some (value, rest)) :
    Token.read? chars = some (.value value, rest) ∧ ∀ c ∈ chars.head?, isSpace c = false := by
  cases chars with
  | nil => simp [scalar?, word?, words, number?] at read
  | cons c more =>
    have other : c ∉ marks := by
      intro mark
      rw [scalar?_mark more mark] at read
      cases read
    simp only [marks, List.mem_cons, List.not_mem_nil, or_false, not_or] at other
    constructor
    · unfold Token.read?
      split
      iterate 7
        · simp_all
      · rw [read]
        rfl
    · rintro d ⟨⟩
      simp [isSpace, other]

theorem Token.read?_quoted (text : String) :
    Token.read? (quoted text ++ rest) = some (.value (.text text), rest) ∧
      ∀ c ∈ (quoted text ++ rest).head?, isSpace c = false := by
  have shown : quoted text ++ rest = '"' :: (text.toList.flatMap escape ++ '"' :: rest) := by
    simp [quoted]
  rw [shown]
  constructor
  · have whole : Token.text (text.toList.flatMap units) = .value (.text text) := by
      rw [Token.text, characters?_flatMap]
      exact congrArg (fun held => Token.value (.text held)) String.ofList_toList
    rw [Token.read?, codes_quoted]
    exact congrArg (fun token => some (token, rest)) whole
  · rintro c ⟨⟩
    rfl

theorem Token.read?_writeLiteral {literal : Literal} (short : literal.Short) (stops : Stops rest) :
    Token.read? (writeLiteral literal ++ rest) = some (.value (.scalar literal), rest) ∧
      ∀ c ∈ (writeLiteral literal ++ rest).head?, isSpace c = false := by
  cases literal with
  | boolean value => exact Token.read?_of_scalar? (by cases value <;> rfl)
  | integer value =>
    have shown : Numeral.ofInt value =
        Stretch.signed (decide (value < 0)) (Nat.toDigits 10 value.natAbs) := by
      simp [Numeral.ofInt, Stretch.signed]
    rw [writeLiteral, shown, Stretch.signed_append]
    exact Token.read?_of_scalar? (scalar?_signed (number?_natAbs short stops))
  | float value =>
    cases value with
    | nan => exact Token.read?_of_scalar? rfl
    | infinite negative => exact Token.read?_of_scalar? (by cases negative <;> rfl)
    | finite negative ordinal =>
      obtain ⟨chars, shown, read⟩ := Binary64.number?_display negative ordinal
      rw [writeLiteral, shown, Stretch.signed_append]
      · exact Token.read?_of_scalar? (scalar?_signed (read rest stops))
      · rintro ⟨⟩
      · rintro _ ⟨⟩
  | text value => exact Token.read?_quoted value

end Json

end Rulebook
