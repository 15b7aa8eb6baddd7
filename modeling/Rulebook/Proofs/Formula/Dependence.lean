import Mathlib.Data.List.Basic
import Rulebook.Proofs.Formula.Evaluation

/-! What the outcome of a rule depends on. It is what the record has under the names in the rule,
and a truth value stays as it is when the record gets more. -/
namespace Rulebook

def Draft.names (draft : Draft) : List String := draft.leaves.filterMap (·.map Comparison.name)

/-- The one record has all that the other has, and perhaps more under other names. -/
def Record.Extends (larger smaller : Record) : Prop :=
  ∀ name value, smaller.lookup name = some value → larger.lookup name = some value

theorem Record.extends_append (record more : Record) : Record.Extends (record ++ more) record := by
  intro name value held
  rw [List.lookup_append, held]
  rfl

namespace Tree

variable {α ε : Type} {test other : α → Except ε Bool} {tree : Tree α}

theorem outcome_congr (same : ∀ held ∈ tree.leaves, test held = other held) :
    tree.outcome test = tree.outcome other := by
  induction tree with
  | leaf held => exact same held (List.mem_singleton_self held)
  | join connective left right first second =>
    obtain ⟨before, after⟩ := List.forall_mem_append.mp same
    rw [outcome_settling, outcome_settling, first before, second after]

theorem outcome_keeps {truth : Bool}
    (keeps : ∀ held ∈ tree.leaves, ∀ own, test held = .ok own → other held = .ok own)
    (found : tree.outcome test = .ok truth) : tree.outcome other = .ok truth := by
  induction tree generalizing truth with
  | leaf held => exact keeps held (List.mem_singleton_self held) truth found
  | join connective left right first second =>
    obtain ⟨before, after⟩ := List.forall_mem_append.mp keeps
    rw [outcome_settling] at found ⊢
    cases passed : left.outcome test with
    | error fault => simp [passed] at found
    | ok own =>
      rw [first before passed]
      rw [passed] at found
      dsimp only at found ⊢
      split at found
      · rename_i settled
        rw [if_pos settled]
        exact found
      · rename_i unsettled
        rw [if_neg unsettled]
        exact second after found

end Tree

namespace Draft

variable {one other : Record}

theorem test_congr {leaf : Option Comparison}
    (same : ∀ c, leaf = some c → one.lookup c.name = other.lookup c.name) :
    Draft.test leaf one = Draft.test leaf other := by
  cases leaf with
  | none => rfl
  | some c => simp only [Draft.test, Comparison.test, same c rfl]

theorem test_keeps {leaf : Option Comparison} {truth : Bool} (larger : other.Extends one)
    (tested : Draft.test leaf one = .ok truth) : Draft.test leaf other = .ok truth := by
  rw [← tested]
  apply (test_congr _).symm
  rintro c rfl
  cases held : one.lookup c.name with
  | none => simp [Draft.test, Comparison.test, held] at tested
  | some value => exact (larger c.name value held).symm

end Draft

/-- The outcome of a rule, fault and all, depends on what the record has under the names in the rule
and on nothing else. A truth value is the same on every record that has more, even under names that
the record lacked. -/
theorem evaluate_depends_on_names (draft : Draft) (one other : Record) :
    ((∀ name ∈ draft.names, one.lookup name = other.lookup name) →
      (Candidate.draft draft).evaluate (.object one) =
        (Candidate.draft draft).evaluate (.object other)) ∧
    (other.Extends one → ∀ truth, (Candidate.draft draft).evaluate (.object one) = .ok truth →
      (Candidate.draft draft).evaluate (.object other) = .ok truth) := by
  simp only [Candidate.evaluate, Draft.evaluate, Tree.evaluate_eq]
  constructor
  · intro same
    apply Tree.outcome_congr
    intro leaf inside
    apply Draft.test_congr
    rintro c rfl
    exact same c.name (List.mem_filterMap.mpr ⟨some c, inside, rfl⟩)
  · intro larger truth found
    exact Tree.outcome_keeps (fun leaf _ own tested => Draft.test_keeps larger tested) found

/-- The comparison that is left out may find what it cannot be tested on. -/
theorem evaluate_depends_on_names_extended :
    let side (name : String) (relation : Relation) (literal : Literal)
        (named : isName name = true) : Draft := .leaf (some ⟨name, relation, literal, named⟩)
    let draft : Draft := .join .and
      (.join .or (side "x" .greater (.integer 1) rfl) (side "y" .equal (.text "a") rfl))
      (side "z" .notEqual (.boolean true) rfl)
    let record : Record := [("x", .integer 2), ("z", .boolean false)]
    let other : Record := [("z", .boolean false), ("w", .list []), ("x", .integer 2)]
    let larger : Record := record ++ [("y", .null)]
    (∀ name ∈ draft.names, record.lookup name = other.lookup name) ∧ larger.Extends record ∧
    (Candidate.draft draft).evaluate (.object record) = .ok true ∧
    (Candidate.draft draft).evaluate (.object other) = .ok true ∧
    (Candidate.draft draft).evaluate (.object larger) = .ok true := by
  intro side draft record other larger
  have same : ∀ name ∈ draft.names, record.lookup name = other.lookup name := by decide
  have more : larger.Extends record := Record.extends_append record _
  have found : (Candidate.draft draft).evaluate (.object record) = .ok true := by decide +kernel
  have agreeing := (evaluate_depends_on_names draft record other).1 same
  have kept := (evaluate_depends_on_names draft record larger).2 more true found
  exact ⟨same, more, found, agreeing.symm.trans found, kept⟩

end Rulebook
