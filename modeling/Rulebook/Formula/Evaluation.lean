import Rulebook.Formula

/-! The truth value of a formula on a record. AND and OR stop at the first side that decides them,
so an error on the right side counts only if that side is reached. -/
namespace Rulebook

namespace Tree

variable {α ε : Type}

def outcome (test : α → Except ε Bool) : Tree α → Except ε Bool
  | leaf value => test value
  | join .and left right =>
    match left.outcome test with
    | .error error => .error error
    | .ok false => .ok false
    | .ok true => right.outcome test
  | join .or left right =>
    match left.outcome test with
    | .error error => .error error
    | .ok false => right.outcome test
    | .ok true => .ok true

/-- Right sides that wait for the value left of them, innermost first. -/
abbrev Waiting (ε : Type) := List (Connective × (Unit → Except ε Bool))

def resume (truth : Bool) : Waiting ε → Except ε Bool
  | [] => .ok truth
  | (connective, right) :: waiting =>
    if truth = connective.settling then resume truth waiting
    else
      match right () with
      | .error error => .error error
      | .ok truth => resume truth waiting

def descend (test : α → Except ε Bool) : Tree α → Waiting ε → Except ε Bool
  | leaf value, waiting =>
    match test value with
    | .error error => .error error
    | .ok truth => resume truth waiting
  | join connective left right, waiting =>
    left.descend test ((connective, fun _ => right.descend test []) :: waiting)

/-- The outcome by a walk along the left side, which is the long one in a chain of rules. -/
def evaluate (test : α → Except ε Bool) (tree : Tree α) : Except ε Bool := tree.descend test []

end Tree

def Formula.evaluate (formula : Formula) (record : Record) : Except EvaluationFault Bool :=
  Tree.evaluate (·.test record) formula

def Draft.test (leaf : Option Comparison) (record : Record) : Except EvaluationFault Bool :=
  match leaf with
  | some comparison => comparison.test record
  | none => .error (.unknownNode "Node")

def Draft.evaluate (draft : Draft) (record : Record) : Except EvaluationFault Bool :=
  Tree.evaluate (Draft.test · record) draft

def Candidate.evaluate (candidate : Candidate) (data : Value) : Except EvaluationFault Bool :=
  match data with
  | .object record =>
    match candidate with
    | .draft held => held.evaluate record
    | .value held => .error (.unknownNode held.typeName)
  | _ => .error .record

end Rulebook
