import Mathlib.Data.List.Basic
import Rulebook.Proofs.Comparison
import Rulebook.Proofs.Formula.Evaluation

/-! Negation of formulas. With AND and OR swapped and every relation turned into its complement, a
formula comes to the opposite value, and to a fault wherever it came to one. -/
namespace Rulebook

def Relation.complement : Relation → Relation
  | .equal => .notEqual
  | .notEqual => .equal
  | .greater => .atMost
  | .less => .atLeast
  | .atLeast => .less
  | .atMost => .greater

def Connective.dual : Connective → Connective
  | .and => .or
  | .or => .and

def Comparison.complement (c : Comparison) : Comparison :=
  { c with relation := c.relation.complement }

def Tree.dual {α : Type} (f : α → α) : Tree α → Tree α
  | leaf value => leaf (f value)
  | join connective left right => join connective.dual (left.dual f) (right.dual f)

def Formula.negated (formula : Formula) : Formula := Tree.dual Comparison.complement formula

/-- The fault as it is told of the complement. -/
def EvaluationFault.complement : EvaluationFault → EvaluationFault
  | .kinds name data literal relation => .kinds name data literal relation.complement
  | .booleanOrder name relation => .booleanOrder name relation.complement
  | fault => fault

def opposite : Except EvaluationFault Bool → Except EvaluationFault Bool
  | .ok truth => .ok !truth
  | .error fault => .error fault.complement

@[simp] theorem Relation.isEquality_complement (relation : Relation) :
    relation.complement.isEquality = relation.isEquality := by
  cases relation <;> rfl

theorem Relation.holds_complement (relation : Relation) (order : Ordering) :
    relation.complement.holds (some order) = !relation.holds (some order) := by
  cases relation <;> cases order <;> rfl

@[simp] theorem Connective.settling_dual (connective : Connective) :
    connective.dual.settling = !connective.settling := by
  cases connective <;> rfl

namespace Literal

theorem exists_quantity {literal : Literal} (kind : literal.kind ≠ .string)
    (number : literal ≠ .float .nan) : ∃ p, literal.quantity? = some p := by
  cases literal with
  | boolean value => exact ⟨_, rfl⟩
  | integer value => exact ⟨_, rfl⟩
  | text value => exact absurd rfl kind
  | float value =>
    cases value with
    | nan => exact absurd rfl number
    | infinite negative => cases negative <;> exact ⟨_, rfl⟩
    | finite negative ordinal => exact ⟨_, rfl⟩

theorem exists_order {a b : Literal} (kind : a.kind = b.kind) (first : a ≠ .float .nan)
    (second : b ≠ .float .nan) : ∃ order, a.order? b = some order := by
  by_cases string : a.kind = .string
  · cases a <;> cases string
    cases b <;> cases kind
    exact ⟨_, rfl⟩
  · obtain ⟨p, place⟩ := exists_quantity string first
    obtain ⟨q, other⟩ := exists_quantity (kind ▸ string) second
    exact ⟨_, order?_of_quantity place other⟩

end Literal

theorem Comparison.test_complement {c : Comparison} {record : Record}
    (literal : c.literal ≠ .float .nan)
    (found : ∀ field ∈ record, field.2 ≠ .scalar (.float .nan)) :
    c.complement.test record = opposite (c.test record) := by
  unfold test
  simp only [complement, Relation.isEquality_complement]
  cases held : record.lookup c.name with
  | none => rfl
  | some value =>
    obtain ⟨before, after, rfl, _⟩ := List.lookup_eq_some_iff.mp held
    have number := found (c.name, value) (by simp)
    cases value with
    | scalar data =>
      dsimp only
      split
      · rfl
      split
      · rfl
      · rename_i kind _
        have other : data ≠ .float .nan := fun same => number (congrArg Value.scalar same)
        obtain ⟨order, ordered⟩ := Literal.exists_order (not_not.mp kind) other literal
        rw [ordered, Relation.holds_complement]
        rfl
    | _ => rfl

/-- The same comparisons are reached in a tree and in its dual, so their outcomes are opposite. -/
theorem Tree.outcome_dual {α : Type} {test : α → Except EvaluationFault Bool} {f : α → α}
    {tree : Tree α} (leaves : ∀ value ∈ tree.leaves, test (f value) = opposite (test value)) :
    (tree.dual f).outcome test = opposite (tree.outcome test) := by
  induction tree with
  | leaf value => exact leaves value (List.mem_singleton_self value)
  | join connective left right first second =>
    obtain ⟨before, after⟩ := List.forall_mem_append.mp leaves
    rw [dual, outcome_settling, outcome_settling, first before, second after,
      Connective.settling_dual]
    cases left.outcome test with
    | error fault => rfl
    | ok truth =>
      -- the dual stops at the opposite of the value that the connective stops at
      simp only [opposite, Bool.not_inj_iff]
      split <;> rfl

theorem Formula.evaluate_eq_opposite {formula : Formula} {record : Record}
    (literals : ∀ c ∈ formula.leaves, c.literal ≠ .float .nan)
    (fields : ∀ field ∈ record, field.2 ≠ .scalar (.float .nan)) :
    formula.negated.evaluate record = opposite (formula.evaluate record) := by
  rw [Formula.evaluate, Formula.evaluate, Tree.evaluate_eq, Tree.evaluate_eq]
  exact Tree.outcome_dual fun c inside => Comparison.test_complement (literals c inside) fields

/-- Where no NaN stands in a formula or in a record, the negated formula has a fault exactly if the
formula has one, which is the same fault but for the relation it names, and else the opposite
value. -/
theorem evaluate_negated (formula : Formula) (record : Record)
    (literals : ∀ c ∈ formula.leaves, c.literal ≠ .float .nan)
    (fields : ∀ field ∈ record, field.2 ≠ .scalar (.float .nan)) :
    ((∃ fault, formula.negated.evaluate record = .error fault) ↔
      ∃ fault, formula.evaluate record = .error fault) ∧
    (∀ fault, formula.evaluate record = .error fault →
      formula.negated.evaluate record = .error fault.complement) ∧
    ∀ truth, formula.evaluate record = .ok truth →
      formula.negated.evaluate record = .ok !truth := by
  rw [Formula.evaluate_eq_opposite literals fields]
  cases formula.evaluate record <;> simp [opposite]

/-- A chain that comes to a fault behind an infinite number and a negative zero, and one that stops
before it. -/
theorem evaluate_negated_mixed :
    let side (name : String) (relation : Relation) (literal : Literal)
        (named : isName name = true) : Formula := .leaf ⟨name, relation, literal, named⟩
    let formula : Formula := .join .and
      (.join .or (side "x" .less (.integer (10 ^ 400)) rfl) (side "absent" .equal (.integer 1) rfl))
      (.join .and (side "zero" .atLeast (.float (.finite true ⟨0, by decide⟩)) rfl)
        (side "on" .greater (.boolean true) rfl))
    let low : Record := [("x", .scalar (.float (.infinite true))), ("zero", .integer 0),
      ("on", .boolean true)]
    let high : Record := [("x", .scalar (.float (.infinite false))), ("absent", .integer 2)]
    (∀ c ∈ formula.leaves, c.literal ≠ .float .nan) ∧
    (∀ record ∈ [low, high], ∀ field ∈ record, field.2 ≠ .scalar (.float .nan)) ∧
    formula.evaluate low = .error (.booleanOrder "on" .greater) ∧
    formula.negated.evaluate low = .error (.booleanOrder "on" .atMost) ∧
    formula.evaluate high = .ok false ∧ formula.negated.evaluate high = .ok true := by
  intro side formula low high
  have literals : ∀ c ∈ formula.leaves, c.literal ≠ .float .nan := by decide
  have fields : ∀ record ∈ [low, high], ∀ field ∈ record, field.2 ≠ .scalar (.float .nan) := by
    decide
  have failed : formula.evaluate low = .error (.booleanOrder "on" .greater) := by decide +kernel
  have found : formula.evaluate high = .ok false := by decide +kernel
  have behind := evaluate_negated formula low literals (fields low (by simp))
  have before := evaluate_negated formula high literals (fields high (by simp))
  exact ⟨literals, fields, failed, behind.2.1 _ failed, found, before.2.2 _ found⟩

end Rulebook
