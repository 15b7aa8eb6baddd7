import Mathlib.Data.List.Zip
import Rulebook.Proofs.Comparison
import Rulebook.Proofs.Formula.Evaluation

/-! Formulas that are equal up to how numbers are held. They have the same outcome on every record as
long as no truth value stands in the place of a number. -/
namespace Rulebook

namespace Literal

theorem place_of_order {a b : Literal} (ordered : a.order? b = some .eq) :
    a = b ∨ ∃ p, a.quantity? = some p ∧ b.quantity? = some p := by
  unfold order? at ordered
  split at ordered
  · simp only [Option.some.injEq, Std.LawfulEqCmp.compare_eq_iff_eq] at ordered
    exact .inl (congrArg text ordered)
  · right
    cases first : a.quantity? with
    | none => simp [first] at ordered
    | some p =>
      cases second : b.quantity? with
      | none => simp [first, second] at ordered
      | some q =>
        simp only [first, second, Option.bind_eq_bind, Option.bind_some, Option.pure_def,
          Option.some.injEq, Quantity.compare_eq_iff] at ordered
        exact ⟨p, rfl, congrArg some ordered.symm⟩

theorem equal_iff {a b : Literal} :
    a.equal b = true ↔ a = b ∨ ∃ p, a.quantity? = some p ∧ b.quantity? = some p := by
  constructor
  · intro same
    simp only [equal, Bool.or_eq_true, decide_eq_true_eq] at same
    exact same.elim .inl place_of_order
  · rintro (rfl | ⟨p, first, second⟩)
    · exact equal_self a
    · simp [equal, order?_of_quantity first second, Quantity.compare_self]

theorem order?_of_equal {a b : Literal} (same : a.equal b = true) (found : Literal) :
    found.order? a = found.order? b := by
  rcases equal_iff.mp same with rfl | ⟨p, first, second⟩
  · rfl
  · exact order?_congr first second found

theorem kind_of_quantity {literal : Literal} {p : Quantity} (place : literal.quantity? = some p) :
    literal.kind = .boolean ∨ literal.kind = .number := by
  cases literal with
  | text value => cases place
  | boolean value => exact .inl rfl
  | integer value => exact .inr rfl
  | float value => exact .inr rfl

theorem kinds_of_equal {a b : Literal} (same : a.equal b = true) (differ : a.kind ≠ b.kind) :
    a.kind = .boolean ∧ b.kind = .number ∨ a.kind = .number ∧ b.kind = .boolean := by
  rcases equal_iff.mp same with rfl | ⟨p, first, second⟩
  · exact absurd rfl differ
  · rcases kind_of_quantity first with own | own <;>
      rcases kind_of_quantity second with other | other <;> simp_all

end Literal

namespace Comparison

variable {c d : Comparison}

theorem equal_iff :
    c.equal d = true ↔
      c.name = d.name ∧ c.relation = d.relation ∧ c.literal.equal d.literal = true := by
  simp [equal, and_assoc]

theorem equal_self (c : Comparison) : c.equal c = true :=
  equal_iff.mpr ⟨rfl, rfl, c.literal.equal_self⟩

theorem test_of_equal (same : c.equal d = true) (kind : c.literal.kind = d.literal.kind)
    (record : Record) : c.test record = d.test record := by
  obtain ⟨name, relation, literal, named⟩ := c
  obtain ⟨rfl, rfl, held⟩ := equal_iff.mp same
  exact test_congr (c := d) kind (fun found => Literal.order?_of_equal held found) record

theorem exists_test_apart (name : c.name = d.name) (truth : c.literal.kind = .boolean)
    (number : d.literal.kind = .number) :
    ∃ record fault value, c.test record = .error fault ∧ d.test record = .ok value := by
  refine ⟨[(d.name, .scalar d.literal)], .kinds c.name .number .boolean c.relation,
    d.relation.holds (d.literal.order? d.literal), ?_, ?_⟩
  · simp [test, name, truth, number]
  · simp [test, number]

/-- Equal comparisons have the same outcome on every record exactly if they are of one kind. -/
theorem sameOutcome_iff (same : c.equal d = true) :
    (∀ record, SameOutcome (c.test record) (d.test record)) ↔ c.literal.kind = d.literal.kind := by
  obtain ⟨name, _, literal⟩ := equal_iff.mp same
  constructor
  · intro outcomes
    by_contra differ
    rcases Literal.kinds_of_equal literal differ with ⟨truth, number⟩ | ⟨number, truth⟩
    · obtain ⟨record, fault, value, refused, found⟩ := exists_test_apart name truth number
      have outcome := outcomes record
      rw [refused, found] at outcome
      exact outcome
    · obtain ⟨record, fault, value, refused, found⟩ := exists_test_apart name.symm truth number
      have outcome := outcomes record
      rw [refused, found] at outcome
      exact outcome
  · intro kind record
    rw [test_of_equal same kind record]
    exact SameOutcome.refl _

end Comparison

namespace Tree

variable {α : Type} {same : α → α → Bool}

theorem equal_self (reflexive : ∀ value, same value value = true) (tree : Tree α) :
    tree.equal same tree = true := by
  induction tree with
  | leaf value => exact reflexive value
  | join connective left right first second => simp [Tree.equal, first, second]

theorem length_leaves_of_equal {a b : Tree α} (equal : a.equal same b = true) :
    a.leaves.length = b.leaves.length := by
  induction a generalizing b with
  | leaf value =>
    cases b with
    | leaf other => rfl
    | join connective left right => cases equal
  | join connective left right first second =>
    cases b with
    | leaf other => cases equal
    | join joining before after =>
      simp only [Tree.equal, Bool.and_eq_true] at equal
      simp only [leaves, List.length_append, first equal.1.2, second equal.2]

theorem zip_leaves_join {left right before after : Tree α} (connective joining : Connective)
    (equal : left.equal same before = true) :
    (join connective left right).leaves.zip (join joining before after).leaves =
      left.leaves.zip before.leaves ++ right.leaves.zip after.leaves :=
  List.zip_append (length_leaves_of_equal equal)

theorem same_of_mem_zip {a b : Tree α} (equal : a.equal same b = true) :
    ∀ pair ∈ a.leaves.zip b.leaves, same pair.1 pair.2 = true := by
  induction a generalizing b with
  | leaf value =>
    cases b with
    | leaf other =>
      rintro _ (_ | ⟨_, ⟨⟩⟩)
      exact equal
    | join connective left right => cases equal
  | join connective left right first second =>
    cases b with
    | leaf other => cases equal
    | join joining before after =>
      simp only [Tree.equal, Bool.and_eq_true] at equal
      rw [zip_leaves_join connective joining equal.1.2]
      intro pair inside
      rcases List.mem_append.mp inside with inside | inside
      · exact first equal.1.2 pair inside
      · exact second equal.2 pair inside

theorem outcome_of_equal {ε : Type} {test : α → Except ε Bool} {a b : Tree α}
    (equal : a.equal same b = true)
    (agree : ∀ pair ∈ a.leaves.zip b.leaves, test pair.1 = test pair.2) :
    a.outcome test = b.outcome test := by
  induction a generalizing b with
  | leaf value =>
    cases b with
    | leaf other => exact agree (value, other) List.mem_cons_self
    | join connective left right => cases equal
  | join connective left right first second =>
    cases b with
    | leaf other => cases equal
    | join joining before after =>
      simp only [Tree.equal, Bool.and_eq_true, decide_eq_true_eq] at equal
      obtain ⟨⟨rfl, front⟩, back⟩ := equal
      rw [zip_leaves_join connective connective front] at agree
      obtain ⟨before, after⟩ := List.forall_mem_append.mp agree
      rw [outcome_settling, outcome_settling, first front before, second back after]

end Tree

/-- Equal formulas have the same outcome on every record, fault and all, if their literals are of one
kind at every place. A place where they are not holds a truth value beside a number, and there is a
record on which the two comparisons at that place differ. -/
theorem equal_formulas_agree (a b : Formula) (same : a.equal b = true) :
    ((∀ pair ∈ a.leaves.zip b.leaves, pair.1.literal.kind = pair.2.literal.kind) →
      ∀ record, a.evaluate record = b.evaluate record) ∧
    ∀ pair ∈ a.leaves.zip b.leaves,
      ((∀ record, SameOutcome (Formula.evaluate (.leaf pair.1) record)
        (Formula.evaluate (.leaf pair.2) record)) ↔ pair.1.literal.kind = pair.2.literal.kind) ∧
      (pair.1.literal.kind ≠ pair.2.literal.kind →
        pair.1.literal.kind = .boolean ∧ pair.2.literal.kind = .number ∨
          pair.1.literal.kind = .number ∧ pair.2.literal.kind = .boolean) := by
  have equal := Tree.same_of_mem_zip same
  constructor
  · intro kinds record
    rw [Formula.evaluate, Formula.evaluate, Tree.evaluate_eq, Tree.evaluate_eq]
    exact Tree.outcome_of_equal same fun pair inside =>
      Comparison.test_of_equal (equal pair inside) (kinds pair inside) record
  · intro pair inside
    have held := (Comparison.equal_iff.mp (equal pair inside)).2.2
    simp only [Formula.evaluate_leaf]
    exact ⟨Comparison.sameOutcome_iff (equal pair inside), Literal.kinds_of_equal held⟩

theorem equal_formulas_agree_fraction :
    let a : Formula := .join .or (.leaf ⟨"x", .greater, .integer 2, rfl⟩)
      (.leaf ⟨"y", .equal, .boolean true, rfl⟩)
    let b : Formula := .join .or
      (.leaf ⟨"x", .greater, .float (.finite false ⟨4611686018427387904, by decide⟩), rfl⟩)
      (.leaf ⟨"y", .equal, .boolean true, rfl⟩)
    a.equal b = true ∧ a ≠ b ∧ ∀ record, a.evaluate record = b.evaluate record := by
  intro a b
  have same : a.equal b = true := by decide +kernel
  have kinds : ∀ pair ∈ a.leaves.zip b.leaves, pair.1.literal.kind = pair.2.literal.kind := by
    decide +kernel
  exact ⟨same, by decide, (equal_formulas_agree a b same).1 kinds⟩

/-- A truth value equals the number one, but only the one of them is comparable with numbers. -/
theorem equal_formulas_disagree :
    let truth : Formula := .leaf ⟨"x", .equal, .boolean true, rfl⟩
    let number : Formula := .leaf ⟨"x", .equal, .integer 1, rfl⟩
    let record : Record := [("x", .integer 1)]
    truth.equal number = true ∧ number.evaluate record = .ok true ∧
      truth.evaluate record = .error (.kinds "x" .number .boolean .equal) := by
  decide +kernel
end Rulebook
