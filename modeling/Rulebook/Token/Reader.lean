import Rulebook.Token.Stretch

/-! A reader stands at a position in a text and yields the tokens after it one by one. -/
namespace Rulebook

structure Reader where
  rest : List Char
  position : Nat
  deriving DecidableEq, Repr

namespace Reader

def ofText (text : String) : Reader := ⟨text.toList, 0⟩

def next (reader : Reader) : Except Error Token × Reader :=
  let start := reader.position + (reader.rest.takeWhile Stretch.isGap).length
  let stretch := Stretch.ofChars (reader.rest.dropWhile Stretch.isGap)
  let finish := start + stretch.lexeme.length
  let token := match stretch.found with
    | .ok symbol => .ok ⟨symbol, start⟩
    | .error fault => .error (fault.error start finish)
  (token, ⟨stretch.rest, finish⟩)

theorem length_rest_next (reader : Reader) :
    reader.next.2.rest.length
      + (Stretch.ofChars (reader.rest.dropWhile Stretch.isGap)).lexeme.length
      + (reader.rest.takeWhile Stretch.isGap).length = reader.rest.length := by
  have gap := congrArg List.length
    (List.takeWhile_append_dropWhile (p := Stretch.isGap) (l := reader.rest))
  have stretch := congrArg List.length
    (Stretch.ofChars_append (reader.rest.dropWhile Stretch.isGap))
  simp only [List.length_append] at gap stretch
  simp only [next]
  omega

theorem length_rest_lt {reader later : Reader} {token : Token}
    (read : reader.next = (.ok token, later)) (unended : token.symbol ≠ .finish) :
    later.rest.length < reader.rest.length := by
  have length := reader.length_rest_next
  rw [read] at length
  dsimp only at length
  simp only [next, Prod.mk.injEq] at read
  obtain ⟨found, -⟩ := read
  split at found
  · rename_i symbol spelled
    cases found
    have := List.length_pos_iff.mpr (Stretch.lexeme_ne_nil spelled unended)
    omega
  · cases found

def tokens (reader : Reader) : List Token × Option Error :=
  match _read : reader.next with
  | (.error error, _) => ([], some error)
  | (.ok token, later) =>
    if _more : token.symbol = .finish then ([token], none)
    else (token :: later.tokens.1, later.tokens.2)
  termination_by reader.rest.length
  decreasing_by all_goals exact length_rest_lt _read _more

theorem tokens_error {reader later : Reader} {error : Error}
    (read : reader.next = (.error error, later)) : reader.tokens = ([], some error) := by
  rw [tokens]
  split <;> simp_all

theorem tokens_finish {reader later : Reader} {token : Token}
    (read : reader.next = (.ok token, later)) (last : token.symbol = .finish) :
    reader.tokens = ([token], none) := by
  rw [tokens]
  split <;> simp_all

theorem tokens_more {reader later : Reader} {token : Token}
    (read : reader.next = (.ok token, later)) (unended : token.symbol ≠ .finish) :
    reader.tokens = (token :: later.tokens.1, later.tokens.2) := by
  rw [tokens]
  split <;> simp_all

end Reader

/-- The tokens of a text, the last one its end, and the error if the text cannot be read through. -/
def tokenize (text : String) : List Token × Option Error := (Reader.ofText text).tokens

end Rulebook
