import Rulebook.Proofs.Formula.Parser
import Rulebook.Proofs.Text.Blank

/-! Why a text states no formula. Its symbols are in no order that the grammar allows, or reading it
stops at a fault; one of these is a whole number with too many digits. -/
namespace Rulebook

namespace Stretch

end Stretch

/-- A fault of the text, or a whole number with more digits than are read. -/
def Error.OfText : Error → Prop
  | .malformed _ _ => True
  | .numeral count => digitLimit < count
  | _ => False

theorem Misread.error_ofText {fault : Misread} (start finish : Nat)
    (long : ∀ count, fault = .overlong count → digitLimit < count) :
    (fault.error start finish).OfText := by
  cases fault with
  | overlong count => exact long count rfl
  | _ => trivial

namespace Reader

theorem next_ofText {reader later : Reader} {error : Error}
    (read : reader.next = (.error error, later)) : error.OfText := by
  simp only [next, Prod.mk.injEq] at read
  obtain ⟨found, -⟩ := read
  split at found
  · cases found
  · rename_i fault misread
    cases found
    apply Misread.error_ofText
    rintro count rfl
    exact Stretch.ofChars_tells misread

theorem content_ofText {reader : Reader} {tokens : List Token} {error : Error}
    (read : reader.content = (tokens, .error error)) : error.OfText := by
  induction reader using Reader.tokens.induct generalizing tokens with
  | case1 reader fault later unread =>
    rw [content_error unread] at read
    cases read
    exact next_ofText unread
  | case2 reader token later last finish =>
    rw [content_finish last finish] at read
    cases read
  | case3 reader token later next more ih =>
    rw [content_more next more] at read
    simp only [Prod.mk.injEq] at read
    have rest : later.content = (later.content.1, .error error) := Prod.ext rfl read.2
    exact ih rest

theorem content_eq_error {reader : Reader} {tokens : List Token} {error : Error} :
    reader.content = (tokens, .error error) ↔ reader.tokens = (tokens, some error) := by
  rw [content]
  split <;> simp_all

end Reader

namespace Formula

variable {text : String} {error : Error}

theorem parse_ofText (failed : parse text = .error error) : error.OfText := by
  rcases Parser.parseWithin_error_cases failed with ⟨fault, position, rfl⟩ | ⟨tokens, fed, content, _⟩
  · trivial
  · exact Reader.content_ofText content

end Formula

end Rulebook
