/-! The six relations a comparison can state, and the two connectives that join comparisons. -/
namespace Rulebook

inductive Relation
  | equal
  | notEqual
  | greater
  | less
  | atLeast
  | atMost
  deriving DecidableEq, Repr

namespace Relation

def sign : Relation → String
  | .equal => "=="
  | .notEqual => "!="
  | .greater => ">"
  | .less => "<"
  | .atLeast => ">="
  | .atMost => "<="

def all : List Relation := [.equal, .notEqual, .greater, .less, .atLeast, .atMost]

def ofSign? (text : String) : Option Relation := all.find? (·.sign = text)

/-- Whether the relation holds of two values in the given order. Values without an order differ. -/
def holds : Relation → Option Ordering → Bool
  | .equal, order => order = some .eq
  | .notEqual, order => order ≠ some .eq
  | .greater, order => order = some .gt
  | .less, order => order = some .lt
  | .atLeast, order => order = some .gt || order = some .eq
  | .atMost, order => order = some .lt || order = some .eq

def isEquality : Relation → Bool
  | .equal | .notEqual => true
  | _ => false

@[simp] theorem ofSign?_sign (relation : Relation) : ofSign? relation.sign = some relation := by
  cases relation <;> decide

theorem ofSign?_eq_some_iff {text : String} {relation : Relation} :
    ofSign? text = some relation ↔ text = relation.sign := by
  constructor
  · intro found
    simpa [eq_comm] using List.find?_some found
  · rintro rfl
    simp

end Relation

inductive Connective
  | and
  | or
  deriving DecidableEq, Repr

namespace Connective

def name : Connective → String
  | .and => "AND"
  | .or => "OR"

def ofName? (text : String) : Option Connective := [.and, .or].find? (·.name = text)

/-- The truth value that decides a joined pair from its left side alone. -/
def settling : Connective → Bool
  | .and => false
  | .or => true

@[simp] theorem ofName?_name (connective : Connective) :
    ofName? connective.name = some connective := by
  cases connective <;> decide

theorem ofName?_eq_some_iff {text : String} {connective : Connective} :
    ofName? text = some connective ↔ text = connective.name := by
  constructor
  · intro found
    simpa [eq_comm] using List.find?_some found
  · rintro rfl
    simp

end Connective

end Rulebook
