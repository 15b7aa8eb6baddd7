import Mathlib.Data.List.Basic
import Rulebook.Proofs.Formula.Evaluation

/-! Comparisons that a record can answer. A formula of such comparisons comes to its classical
value. A fault is that of the first comparison on the way that the record cannot answer. -/
namespace Rulebook

namespace Comparison

/-- The record has a value of the kind of the literal, and truth values are not put in order. -/
def WellTyped (c : Comparison) (record : Record) : Prop :=
  ∃ value ∈ record.lookup c.name, value.kind? = some c.literal.kind ∧
    (c.literal.kind = .boolean → c.relation = .equal ∨ c.relation = .notEqual)

instance (c : Comparison) (record : Record) : Decidable (c.WellTyped record) :=
  inferInstanceAs (Decidable (∃ value ∈ record.lookup c.name, _ ∧ _))

/-- Whether the relation holds between what the record has and the literal. It does not if the record
has nothing that compares with literals. -/
def holds (c : Comparison) (record : Record) : Bool :=
  ((record.lookup c.name).bind Value.literal?).any fun found =>
    c.relation.holds (found.order? c.literal)

inductive Mistyped (c : Comparison) (record : Record) : EvaluationFault → Prop
  | missing : record.lookup c.name = none → Mistyped c record (.missing c.name)
  | unsupported {value : Value} : record.lookup c.name = some value → value.kind? = none →
    Mistyped c record (.unsupported c.name value.typeName)
  | kinds {value : Value} {kind : Kind} : record.lookup c.name = some value →
    value.kind? = some kind → kind ≠ c.literal.kind →
    Mistyped c record (.kinds c.name kind c.literal.kind c.relation)
  | booleanOrder {value : Value} : record.lookup c.name = some value →
    value.kind? = some .boolean → c.literal.kind = .boolean →
    ¬ (c.relation = .equal ∨ c.relation = .notEqual) →
    Mistyped c record (.booleanOrder c.name c.relation)

end Comparison

def Connective.value : Connective → Bool → Bool → Bool
  | .and, left, right => left && right
  | .or, left, right => left || right

namespace Tree

variable {α : Type}

/-- The classical value of a tree, which takes in every leaf. -/
def value (holds : α → Bool) : Tree α → Bool
  | leaf held => holds held
  | join connective left right => connective.value (left.value holds) (right.value holds)

/-- The leaves on the way to the value, from the left. A right side is among them if the left side
does not settle the value. -/
def reached (holds : α → Bool) : Tree α → List α
  | leaf held => [held]
  | join connective left right =>
    left.reached holds ++
      if left.value holds = connective.settling then [] else right.reached holds

theorem mem_leaves_of_mem_reached {holds : α → Bool} {tree : Tree α} :
    ∀ held ∈ tree.reached holds, held ∈ tree.leaves := by
  induction tree with
  | leaf held => exact fun _ inside => inside
  | join connective left right first second =>
    intro held inside
    rw [reached, List.mem_append] at inside
    rcases inside with inside | inside
    · exact List.mem_append_left _ (first held inside)
    · split at inside
      · cases inside
      · exact List.mem_append_right _ (second held inside)

end Tree

theorem Connective.value_settled {connective : Connective} {left : Bool}
    (settled : left = connective.settling) (right : Bool) : connective.value left right = left := by
  subst settled
  cases connective <;> rfl

theorem Connective.value_open {connective : Connective} {left : Bool}
    (unsettled : left ≠ connective.settling) (right : Bool) :
    connective.value left right = right := by
  rw [Bool.eq_not_of_ne unsettled]
  cases connective <;> rfl

namespace Tree

variable {α ε : Type} {test : α → Except ε Bool} {holds : α → Bool}

theorem outcome_cases (exact : ∀ held truth, test held = .ok truth → truth = holds held)
    (tree : Tree α) :
    (tree.outcome test = .ok (tree.value holds) ∧
      ∀ held ∈ tree.reached holds, test held = .ok (holds held)) ∨
    ∃ fault front held back, tree.outcome test = .error fault ∧
      tree.reached holds = front ++ held :: back ∧
      (∀ other ∈ front, test other = .ok (holds other)) ∧ test held = .error fault := by
  induction tree with
  | leaf held =>
    cases tested : test held with
    | error fault => exact .inr ⟨fault, [], held, [], tested, rfl, nofun, tested⟩
    | ok truth =>
      cases exact held truth tested
      exact .inl ⟨tested, List.forall_mem_singleton.mpr tested⟩
  | join connective left right first second =>
    rw [outcome_settling, reached, value]
    rcases first with ⟨result, before⟩ | ⟨fault, front, held, back, result, split, passed, failed⟩
    · rw [result]
      dsimp only
      by_cases settled : left.value holds = connective.settling
      · rw [if_pos settled, if_pos settled, List.append_nil, Connective.value_settled settled]
        exact .inl ⟨rfl, before⟩
      · rw [if_neg settled, if_neg settled, Connective.value_open settled]
        rcases second with ⟨result, after⟩ | ⟨fault, front, held, back, result, split, passed, failed⟩
        · exact .inl ⟨result, List.forall_mem_append.mpr ⟨before, after⟩⟩
        · refine .inr ⟨fault, left.reached holds ++ front, held, back, result, ?_,
            List.forall_mem_append.mpr ⟨before, passed⟩, failed⟩
          rw [split, List.append_assoc]
    · rw [result, split, List.append_assoc, List.cons_append]
      exact .inr ⟨fault, front, held, _, rfl, rfl, passed, failed⟩

end Tree

theorem Relation.isEquality_iff {relation : Relation} :
    relation.isEquality = true ↔ relation = .equal ∨ relation = .notEqual := by
  cases relation <;> simp [isEquality]

namespace Comparison

theorem test_cases (c : Comparison) (record : Record) :
    (c.WellTyped record ∧ c.test record = .ok (c.holds record)) ∨
      ∃ fault, ¬ c.WellTyped record ∧ c.Mistyped record fault ∧ c.test record = .error fault := by
  cases held : record.lookup c.name with
  | none => exact .inr ⟨_, by simp [WellTyped, held], .missing held, by simp [test, held]⟩
  | some value =>
    have typed : c.WellTyped record ↔ value.kind? = some c.literal.kind ∧
        (c.literal.kind = .boolean → c.relation = .equal ∨ c.relation = .notEqual) := by
      simp [WellTyped, held]
    rw [typed, ← Relation.isEquality_iff]
    cases value with
    | scalar found =>
      have kind : (Value.scalar found).kind? = some found.kind := rfl
      rw [kind, Option.some.injEq]
      by_cases same : found.kind = c.literal.kind
      · by_cases equality : c.literal.kind = .boolean → c.relation.isEquality = true
        · refine .inl ⟨⟨same, equality⟩, ?_⟩
          simpa [test, holds, held, same, Value.literal?] using equality
        · obtain ⟨truth, ordered⟩ := Classical.not_imp.mp equality
          refine .inr ⟨_, fun both => equality both.2, .booleanOrder held ?_ truth ?_, ?_⟩
          · rw [kind, same, truth]
          · rwa [← Relation.isEquality_iff]
          · simp [test, held, same, truth, ordered]
      · exact .inr ⟨_, fun both => same both.1, .kinds held kind same, by simp [test, held, same]⟩
    | _ =>
      exact .inr ⟨_, by simp [Value.kind?, Value.literal?], .unsupported held rfl,
        by simp [test, held]⟩

theorem wellTyped_of_test {c : Comparison} {record : Record} {truth : Bool}
    (tested : c.test record = .ok truth) : c.WellTyped record ∧ truth = c.holds record := by
  rcases test_cases c record with ⟨typed, found⟩ | ⟨_, _, _, failed⟩
  · exact ⟨typed, Except.ok.inj (tested.symm.trans found)⟩
  · cases tested.symm.trans failed

theorem mistyped_of_test {c : Comparison} {record : Record} {fault : EvaluationFault}
    (failed : c.test record = .error fault) :
    ¬ c.WellTyped record ∧ c.Mistyped record fault := by
  rcases test_cases c record with ⟨_, tested⟩ | ⟨_, wrong, cause, tested⟩
  · cases failed.symm.trans tested
  · cases failed.symm.trans tested
    exact ⟨wrong, cause⟩

end Comparison

/-- If a record can answer every comparison of a formula, the formula comes to its classical value,
with no comparison left out. If it comes to a fault, that is the fault of the first comparison on
the way that the record cannot answer. -/
theorem well_typed_evaluates (formula : Formula) (record : Record) :
    ((∀ c ∈ formula.leaves, c.WellTyped record) →
      formula.evaluate record = .ok (formula.value (·.holds record))) ∧
    ∀ fault, formula.evaluate record = .error fault →
      ∃ front c back, formula.reached (·.holds record) = front ++ c :: back ∧
        (∀ other ∈ front, other.WellTyped record) ∧ ¬ c.WellTyped record ∧
        c.Mistyped record fault ∧ Formula.evaluate (.leaf c) record = .error fault := by
  have exact : ∀ (c : Comparison) truth, c.test record = .ok truth → truth = c.holds record :=
    fun c truth tested => (Comparison.wellTyped_of_test tested).2
  have cases := Tree.outcome_cases exact formula
  rw [← Tree.evaluate_eq] at cases
  rcases cases with ⟨found, _⟩ | ⟨other, front, c, back, failed, split, passed, stopped⟩
  · exact ⟨fun _ => found, fun fault failed => nomatch failed.symm.trans found⟩
  · obtain ⟨wrong, cause⟩ := Comparison.mistyped_of_test stopped
    constructor
    · intro typed
      have inside : c ∈ formula.reached (·.holds record) := by simp [split]
      exact absurd (typed c (Tree.mem_leaves_of_mem_reached c inside)) wrong
    · intro fault same
      cases failed.symm.trans same
      refine ⟨front, c, back, split, fun d inside => ?_, wrong, cause, ?_⟩
      · exact (Comparison.wellTyped_of_test (passed d inside)).1
      · rw [Formula.evaluate_leaf, stopped]

/-- A comparison that is left out for the value does not count as reached, so the fault behind it is
told. -/
theorem well_typed_evaluates_mixed :
    let side (name : String) (relation : Relation) (literal : Literal)
        (named : isName name = true) : Formula := .leaf ⟨name, relation, literal, named⟩
    let formula : Formula := .join .and
      (.join .or (side "x" .greater (.integer 1) rfl) (side "name" .equal (.text "a") rfl))
      (.join .or (side "on" .equal (.boolean true) rfl) (side "y" .less (.integer 5) rfl))
    let typed : Record := [("x", .integer 1), ("name", .text "a"), ("on", .boolean false),
      ("y", .scalar (.float (.infinite true)))]
    let untyped : Record := [("x", .integer 2), ("name", .null), ("on", .integer 1)]
    (∀ c ∈ formula.leaves, c.WellTyped typed) ∧ formula.evaluate typed = .ok true ∧
    formula.evaluate untyped = .error (.kinds "on" .number .boolean .equal) ∧
      ∃ front c back, formula.reached (·.holds untyped) = front ++ c :: back ∧
        (∀ other ∈ front, other.WellTyped untyped) ∧ ¬ c.WellTyped untyped ∧
        c.Mistyped untyped (.kinds "on" .number .boolean .equal) := by
  intro side formula typed untyped
  have typedLeaves : ∀ c ∈ formula.leaves, c.WellTyped typed := by decide
  have value : formula.value (·.holds typed) = true := by decide +kernel
  have failed : formula.evaluate untyped = .error (.kinds "on" .number .boolean .equal) := by
    decide +kernel
  obtain ⟨front, c, back, split, passed, wrong, cause, _⟩ :=
    (well_typed_evaluates formula untyped).2 _ failed
  have truth := ((well_typed_evaluates formula typed).1 typedLeaves).trans (congrArg _ value)
  exact ⟨typedLeaves, truth, failed, front, c, back, split, passed, wrong, cause⟩

end Rulebook
