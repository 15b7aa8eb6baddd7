import Rulebook.Json.Reader
import Rulebook.Json.Writer
import Rulebook.Rule

/-! Stored rules in ascending order of identity. An identity is given out once, even if the rule
that had it is gone. -/
namespace Rulebook

structure Row where
  id : Nat
  name : String
  text : String
  /-- The formula as a document, which is kept as JSON text. -/
  document : Value
  deriving DecidableEq, Repr

inductive RowFault
  | text (fault : Json.Fault)
  | document (fault : DocumentFault)
  deriving DecidableEq, Repr

structure Store where
  rows : List Row
  lastId : Nat
  deriving DecidableEq, Repr

def Row.root (row : Row) : Except RowFault Formula := do
  let document ← (Json.readChars none (Json.write row.document)).mapError .text
  (Formula.ofDocument document).mapError .document

def Row.rule (row : Row) (root : Formula) : Rule :=
  ⟨.text row.name, .text row.text, root, .integer row.id⟩

namespace Store

def empty : Store := ⟨[], 0⟩

def find? (store : Store) (id : Int) : Option Row :=
  store.rows.find? fun row => (row.id : Int) = id

def insert (store : Store) (name text : String) (root : Formula) : Store × Row :=
  let row : Row := ⟨store.lastId + 1, name, text, root.document⟩
  (⟨store.rows ++ [row], row.id⟩, row)

def replace (store : Store) (row : Row) : Store :=
  { store with rows := store.rows.map fun old => if old.id = row.id then row else old }

def erase (store : Store) (id : Int) : Store :=
  { store with rows := store.rows.filter fun row => (row.id : Int) ≠ id }

end Store

end Rulebook
