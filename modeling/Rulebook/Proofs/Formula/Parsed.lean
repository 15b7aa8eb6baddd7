import Rulebook.Proofs.Formula.Document
import Rulebook.Proofs.Formula.Refusal
import Rulebook.Proofs.Token.Segmentation

/-! What comes of a text. It is a formula that could have been written, a fault of the text, or a
whole number that has too many digits and stands where the text was read up to. -/
namespace Rulebook

/-- At the front stands a whole number with so many digits that it is not read. It ends before what
could make it longer. -/
def Overlong (count : Nat) (chars : List Char) : Prop :=
  digitLimit < count ∧ ∃ negative digits rest, chars = Stretch.signed negative digits ++ rest ∧
    digits.length = count ∧ (∀ c ∈ digits, c.isDigit = true) ∧
    ∀ c ∈ rest.head?, c.isDigit = false ∧ c ≠ '.'

namespace Stretch

variable {chars : List Char} {count : Nat}

theorem overlong_of_number {negative : Bool}
    (found : (number negative chars).found = .error (.overlong count)) :
    Overlong count (signed negative chars) := by
  have whole := List.takeWhile_append_dropWhile (p := Char.isDigit) (l := chars)
  have stop : ∀ c ∈ (chars.dropWhile Char.isDigit).head?, c.isDigit = false := head?_dropWhile chars
  unfold number at found
  dsimp only at found
  split at found
  · split at found <;> cases found
  · rename_i bare
    split at found
    · rename_i long
      cases found
      refine ⟨long, negative, _, chars.dropWhile Char.isDigit, ?_, rfl, isDigit_takeWhile chars,
        fun c first => ⟨stop c first, ?_⟩⟩
      · rw [signed_append, whole]
      · rintro rfl
        obtain ⟨after, point⟩ := List.head?_eq_some_iff.mp first
        exact bare after point
    · cases found

theorem overlong_of_found (found : (ofChars chars).found = .error (.overlong count)) :
    Overlong count chars := by
  obtain ⟨negative, digits, rfl, _, read⟩ := number_of_fault found (.inr ⟨count, rfl⟩)
  rw [read] at found
  exact overlong_of_number found

end Stretch

theorem overlong_of_tokenize {text : String} {tokens : List Token} {count : Nat}
    (read : tokenize text = (tokens, some (.numeral count))) :
    ∃ segments gap rest, Segmented 0 text.toList segments (gap ++ rest) ∧
      (∀ c ∈ gap, Stretch.isGap c = true) ∧ Overlong count rest := by
  obtain ⟨segments, rest, cut, whole, last⟩ := (Reader.ofText text).exists_segmented
  rw [← tokenize, read] at whole
  rcases next : (Reader.mk rest _).next with ⟨error | token, later⟩
  · rw [Reader.tokens_error next] at whole
    obtain ⟨gap, after, fault, split, gaps, found, told⟩ := Reader.next_fault next
    cases (Prod.mk.inj whole).2
    cases fault with
    | overlong other =>
      cases told
      exact ⟨segments, gap, after, split ▸ cut, gaps, Stretch.overlong_of_found found⟩
    | _ => cases told
  · rw [Reader.tokens_finish next (last token later next)] at whole
    cases (Prod.mk.inj whole).2

theorem Relation.sign_mem (relation : Relation) :
    relation.sign ∈ ["==", "!=", ">", "<", ">=", "<="] := by
  cases relation <;> decide

/-- A text gives a formula or has a fault, but for a whole number with too many digits outside the
texts in quotes. Every name in the formula is a word that is not reserved, every literal could have
been written, and the formula can be read from its own document. -/
theorem parse_yields (text : String) :
    match Formula.parse text with
    | .ok formula =>
      (∀ c ∈ formula.leaves, isName c.name = true ∧ isReserved c.name = false ∧
        c.relation.sign ∈ ["==", "!=", ">", "<", ">=", "<="] ∧ c.literal.Written) ∧
      Formula.ofDocument formula.document = .ok formula
    | .error (.malformed _ _) => True
    | .error (.numeral count) => ∃ segments gap rest,
      Segmented 0 (Text.trim text).toList segments (gap ++ rest) ∧
      (∀ c ∈ gap, Stretch.isGap c = true) ∧ Overlong count rest
    | .error _ => False := by
  cases parsed : Formula.parse text with
  | ok formula =>
    have written := written_of_parseWithin parsed
    refine ⟨fun c inside => ?_, Formula.ofDocument_document formula⟩
    exact ⟨c.named, (written c inside).plain, c.relation.sign_mem, (written c inside).literal⟩
  | error error =>
    have told := Formula.parse_ofText parsed
    cases error with
    | malformed fault position => trivial
    | numeral count =>
      rcases Parser.parseWithin_error_cases parsed with ⟨_, _, ⟨⟩⟩ | ⟨tokens, _, content, _⟩
      exact overlong_of_tokenize (Reader.content_eq_error.mp content)
    | _ => exact told

end Rulebook
