import Rulebook.Token.Reader

/-! A cursor shows one token at a time and remembers the kind of the one before it. -/
namespace Rulebook

structure Cursor where
  reader : Reader
  current : Token
  previous : Option Token.Kind
  deriving DecidableEq, Repr

namespace Cursor

def ofText (text : String) : Except Error Cursor :=
  match (Reader.ofText text).next with
  | (.ok token, reader) => .ok ⟨reader, token, none⟩
  | (.error error, _) => .error error

/-- Steps over the current token. If the next one cannot be read, the current one stays, though it
counts as the one before and the reader stands where it failed. -/
def advance (cursor : Cursor) : Except Error Token × Cursor :=
  match cursor.reader.next with
  | (.ok token, reader) => (.ok cursor.current, ⟨reader, token, some cursor.current.kind⟩)
  | (.error error, reader) => (.error error, ⟨reader, cursor.current, some cursor.current.kind⟩)

def consume (wanted : Token.Kind) (cursor : Cursor) : Except Error Token × Cursor :=
  if cursor.current.kind = wanted then cursor.advance
  else
    let fault := SyntaxFault.mismatch wanted cursor.current.kind
    (.error (.malformed fault (some cursor.current.position)), cursor)

section Steps

variable {cursor : Cursor}

theorem advance_ok {token : Token} {reader : Reader}
    (read : cursor.reader.next = (.ok token, reader)) :
    cursor.advance = (.ok cursor.current, ⟨reader, token, some cursor.current.kind⟩) := by
  simp only [advance, read]

theorem advance_error {error : Error} {reader : Reader}
    (read : cursor.reader.next = (.error error, reader)) :
    cursor.advance = (.error error, ⟨reader, cursor.current, some cursor.current.kind⟩) := by
  simp only [advance, read]

theorem consume_current (cursor : Cursor) :
    cursor.consume cursor.current.kind = cursor.advance := if_pos rfl

theorem consume_other {wanted : Token.Kind} (other : wanted ≠ cursor.current.kind) :
    cursor.consume wanted =
      (.error (.malformed (.mismatch wanted cursor.current.kind) (some cursor.current.position)),
        cursor) := if_neg other.symm

end Steps

def implicitAnd (cursor : Cursor) : Bool :=
  cursor.previous = some .closing && cursor.current.kind = .opening

/-- Bounds the tokens to come, the current one included, unless it is the end. -/
def size (cursor : Cursor) : Nat :=
  cursor.reader.rest.length + if cursor.current.symbol = .finish then 0 else 1

end Cursor

end Rulebook
