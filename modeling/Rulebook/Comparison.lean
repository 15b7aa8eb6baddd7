import Rulebook.Error
import Rulebook.Name

/-! A comparison of an attribute with a literal, and its test on a record. -/
namespace Rulebook

structure Comparison where
  name : String
  relation : Relation
  literal : Literal
  named : isName name = true
  deriving DecidableEq, Repr

namespace Comparison

def ofName (name : String) (relation : Relation) (literal : Literal) :
    Except ArgumentFault Comparison :=
  if named : isName name = true then .ok ⟨name, relation, literal, named⟩
  else .error (.name (.text name))

/-- The first part that is not usable is reported: the name, then the relation, then the literal. -/
def ofValues (name relation literal : Value) : Except ArgumentFault Comparison :=
  match name with
  | .scalar (.text spelling) =>
    if named : isName spelling = true then
      match relation with
      | .scalar (.text sign) =>
        match Relation.ofSign? sign with
        | some stated =>
          match literal with
          | .scalar held => .ok ⟨spelling, stated, held, named⟩
          | _ => .error (.literal literal)
        | none => .error (.relation relation)
      | _ => .error (.relation relation)
    else .error (.name name)
  | _ => .error (.name name)

def equal (a b : Comparison) : Bool :=
  a.name = b.name && a.relation = b.relation && a.literal.equal b.literal

/-- Compares the record's value with the literal. Both must be of one kind, and booleans have no
order. -/
def test (c : Comparison) (record : Record) : Except EvaluationFault Bool :=
  match record.lookup c.name with
  | none => .error (.missing c.name)
  | some (.scalar found) =>
    if found.kind ≠ c.literal.kind then
      .error (.kinds c.name found.kind c.literal.kind c.relation)
    else if found.kind = .boolean && !c.relation.isEquality then
      .error (.booleanOrder c.name c.relation)
    else .ok (c.relation.holds (found.order? c.literal))
  | some other => .error (.unsupported c.name other.typeName)

end Comparison

end Rulebook
