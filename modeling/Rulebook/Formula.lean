import Rulebook.Comparison

/-! Trees of connectives. A formula has comparisons at its leaves; a draft may leave some blank. -/
namespace Rulebook

inductive Tree (α : Type)
  | leaf (value : α)
  | join (connective : Connective) (left right : Tree α)
  deriving DecidableEq, Repr

abbrev Formula := Tree Comparison

abbrev Draft := Tree (Option Comparison)

namespace Tree

variable {α β : Type}

def map (f : α → β) : Tree α → Tree β
  | leaf value => leaf (f value)
  | join connective left right => join connective (left.map f) (right.map f)

def leaves : Tree α → List α
  | leaf value => [value]
  | join _ left right => left.leaves ++ right.leaves

def top? : Tree α → Option Connective
  | leaf _ => none
  | join connective _ _ => some connective

def equal (same : α → α → Bool) : Tree α → Tree α → Bool
  | leaf a, leaf b => same a b
  | join c a b, join d a' b' => c = d && a.equal same a' && b.equal same b'
  | _, _ => false

end Tree

namespace Draft

def ofFormula (formula : Formula) : Draft := formula.map some

def formula? : Draft → Option Formula
  | .leaf value => value.map .leaf
  | .join connective left right => do return .join connective (← formula? left) (← formula? right)

def equal (a b : Draft) : Bool :=
  Tree.equal (fun
    | some a, some b => a.equal b
    | none, none => true
    | _, _ => false) a b

end Draft

def Formula.equal (a b : Formula) : Bool := Tree.equal Comparison.equal a b

/-- What may stand where a rule is asked for: a draft, or a value that is no rule at all. -/
inductive Candidate
  | draft (held : Draft)
  | value (held : Value)

def Connective.ofValue (given : Value) : Except ArgumentFault Connective :=
  match given with
  | .scalar (.text name) =>
    match Connective.ofName? name with
    | some connective => .ok connective
    | none => .error (.connective given)
  | _ => .error (.connective given)

namespace Candidate

def draft? : Candidate → Option Draft
  | .draft held => some held
  | .value _ => none

def typeName : Candidate → String
  | .draft (.leaf none) => "Node"
  | .draft (.leaf (some _)) => "Comparison"
  | .draft (.join ..) => "Logical"
  | .value held => held.typeName

def equal : Candidate → Candidate → Bool
  | .draft a, .draft b => Draft.equal a b
  | .value a, .value b => a.equal b
  | _, _ => false

/-- Joins two candidates; the connective is checked before them. -/
def join (connective : Value) (left right : Candidate) : Except ArgumentFault Draft := do
  let connective ← Connective.ofValue connective
  match left, right with
  | .draft left, .draft right => .ok (.join connective left right)
  | _, _ => .error .children

end Candidate

end Rulebook
