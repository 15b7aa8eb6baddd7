import Rulebook.Formula.Evaluation

/-! The walk along the left side of a tree is plain recursion, and trees whose leaves pass the same
tests have the same outcome. -/
namespace Rulebook

/-- The same truth value, or a fault on both sides. -/
def SameOutcome {ε δ : Type} : Except ε Bool → Except δ Bool → Prop
  | .ok a, .ok b => a = b
  | .error _, .error _ => True
  | _, _ => False

theorem SameOutcome.refl {ε : Type} (outcome : Except ε Bool) : SameOutcome outcome outcome := by
  cases outcome with
  | error fault => trivial
  | ok truth => rfl

namespace Tree

variable {α β ε : Type} {test : β → Except ε Bool} {own : α → Except ε Bool} {f : α → β}

theorem descend_map {tree : Tree α} (same : ∀ value ∈ tree.leaves, test (f value) = own value)
    (waiting : Waiting ε) : (tree.map f).descend test waiting = tree.descend own waiting := by
  induction tree generalizing waiting with
  | leaf value => simp only [map, descend, same value (List.mem_singleton_self value)]
  | join connective left right first second =>
    obtain ⟨before, after⟩ := List.forall_mem_append.mp same
    simp only [map, descend, first before, second after]

theorem outcome_settling (connective : Connective) (left right : Tree β) :
    (join connective left right).outcome test =
      match left.outcome test with
      | .error fault => .error fault
      | .ok truth => if truth = connective.settling then .ok truth else right.outcome test := by
  cases connective
  all_goals
    rw [outcome]
    cases left.outcome test with
    | error fault => rfl
    | ok truth => cases truth <;> rfl

/-- A walk down the left side passes the outcome of the tree, unless it is a fault, on to what waits
for it. -/
theorem descend_eq (tree : Tree β) (waiting : Waiting ε) :
    tree.descend test waiting =
      match tree.outcome test with
      | .error fault => .error fault
      | .ok truth => resume truth waiting := by
  induction tree generalizing waiting with
  | leaf value => rfl
  | join connective left right first second =>
    have alone : right.descend test [] = right.outcome test := by
      rw [second]
      cases right.outcome test <;> rfl
    rw [descend, first, outcome_settling]
    cases left.outcome test with
    | error fault => rfl
    | ok truth =>
      dsimp only
      rw [resume, alone]
      split <;> rfl

theorem evaluate_eq (tree : Tree β) : tree.evaluate test = tree.outcome test := by
  rw [evaluate, descend_eq]
  cases tree.outcome test <;> rfl

end Tree

namespace Formula

theorem evaluate_map {f : Comparison → Comparison} {formula : Formula} {record : Record}
    (same : ∀ c ∈ formula.leaves, (f c).test record = c.test record) :
    Formula.evaluate (formula.map f) record = formula.evaluate record :=
  Tree.descend_map same []

theorem evaluate_leaf (c : Comparison) (record : Record) :
    Formula.evaluate (.leaf c) record = c.test record := by
  simp only [Formula.evaluate, Tree.evaluate, Tree.descend]
  cases c.test record <;> rfl

end Formula

end Rulebook
