import Rulebook.Proofs.Formula.Evaluation
import Rulebook.Proofs.Formula.RoundTrip

/-! Whether a written formula means the same. It does if its numbers are finite and written exactly;
a comparison with any other number is misread, or not read at all. -/
namespace Rulebook

/-- The source of the formula is parsed, as a formula with the same outcome on every record. -/
def Formula.Preserved (formula : Formula) : Prop :=
  ∃ other, Formula.parse formula.source = .ok other ∧
    ∀ record, SameOutcome (other.evaluate record) (formula.evaluate record)

theorem Literal.places_of_not_exact {literal : Literal} (finite : literal.isFinite = true)
    (inexact : ¬ literal.Exact) : ∃ p q, literal.respelled.kind = .number ∧ literal.kind = .number ∧
      literal.respelled.quantity? = some p ∧ literal.quantity? = some q ∧ p ≠ q := by
  have differ := mt (respelled_equal_iff finite).mp inexact
  cases literal with
  | float value =>
    cases value with
    | finite negative ordinal =>
      have kind := respelled_kind (.float (.finite negative ordinal))
      obtain ⟨p, place⟩ : ∃ p, (respelled (.float (.finite negative ordinal))).quantity? = some p := by
        rw [respelled]
        split <;> exact ⟨_, rfl⟩
      obtain ⟨q, spot⟩ : ∃ q, (float (.finite negative ordinal)).quantity? = some q := ⟨_, rfl⟩
      refine ⟨p, q, kind, rfl, place, spot, ?_⟩
      rintro rfl
      apply differ
      simp [equal, order?_of_quantity place spot, Quantity.compare_self]
    | _ => cases finite
  | _ => exact absurd (equal_self _) differ

theorem Comparison.test_respelled {c : Comparison} (exact : c.literal.Exact) (record : Record) :
    c.respelled.test record = c.test record := by
  refine test_congr (Literal.respelled_kind c.literal) ?_ record
  cases literal : c.literal with
  | float value =>
    rw [literal] at exact
    rw [Literal.respelled]
    split
    · exact fun _ => rfl
    · rename_i whole
      exact Literal.order?_congr rfl ((exact value rfl).2 whole)
  | _ => exact fun _ => rfl

namespace Formula

variable {formula : Formula}

theorem preserved_iff (written : ∀ c ∈ formula.leaves, c.Written)
    (shallow : Shallow formula.source) :
    formula.Preserved ↔ (∀ c ∈ formula.leaves, c.literal.isFinite = true) ∧
      ∀ record, SameOutcome (formula.respelled.evaluate record) (formula.evaluate record) := by
  constructor
  · rintro ⟨other, parsed, same⟩
    obtain ⟨finite, rfl⟩ := (parse_source written shallow).mp parsed
    exact ⟨finite, same⟩
  · rintro ⟨finite, same⟩
    exact ⟨formula.respelled, (parse_source written shallow).mpr ⟨finite, rfl⟩, same⟩

theorem preserved_of_exact (written : ∀ c ∈ formula.leaves, c.Written)
    (shallow : Shallow formula.source)
    (exact : ∀ c ∈ formula.leaves, c.literal.Exact) : formula.Preserved := by
  refine (preserved_iff written shallow).mpr ⟨fun c inside => (exact c inside).isFinite, ?_⟩
  intro record
  rw [evaluate_map fun c inside => Comparison.test_respelled (exact c inside) record]
  exact SameOutcome.refl _

theorem preserved_leaf_iff {c : Comparison} (written : c.Written) :
    Formula.Preserved (.leaf c) ↔ c.literal.Exact := by
  have only : ∀ d ∈ Tree.leaves (.leaf c), d = c := fun d inside => List.mem_singleton.mp inside
  have leaves : ∀ d ∈ Tree.leaves (.leaf c), d.Written := fun d inside => only d inside ▸ written
  have shallow : Shallow (Formula.source (.leaf c)) := shallow_source leaves (Nat.zero_le _)
  constructor
  · intro preserved
    obtain ⟨finite, same⟩ := (preserved_iff leaves shallow).mp preserved
    by_contra inexact
    obtain ⟨p, q, number, kind, place, spot, differ⟩ :=
      Literal.places_of_not_exact (finite c (List.mem_singleton_self c)) inexact
    obtain ⟨record, a, b, first, second, apart⟩ :=
      Comparison.exists_test_ne number kind place spot differ
    have outcome := same record
    rw [evaluate_leaf, respelled, Tree.map, evaluate_leaf, second, Comparison.respelled, first]
      at outcome
    exact apart outcome
  · intro exact
    exact preserved_of_exact leaves shallow fun d inside => only d inside ▸ exact

end Formula

/-- Of what a text states, the source is parsed exactly if every number is finite, and it means the
same exactly if no record tells the respelled formula from it. Numbers that are written exactly make
sure of that, and a comparison that is a rule of its own means the same only if its number is. -/
theorem source_preserves_iff (text : String) (formula : Formula)
    (parsed : Formula.parse text = .ok formula)
    (shallow : Shallow formula.source) :
    ((∃ other, Formula.parse formula.source = .ok other) ↔
      ∀ c ∈ formula.leaves, c.literal.isFinite = true) ∧
    (formula.Preserved ↔ (∀ c ∈ formula.leaves, c.literal.isFinite = true) ∧
      ∀ record, SameOutcome (formula.respelled.evaluate record) (formula.evaluate record)) ∧
    ((∀ c ∈ formula.leaves, c.literal.Exact) → formula.Preserved) ∧
    ∀ c ∈ formula.leaves, (Formula.Preserved (.leaf c) ↔ c.literal.Exact) := by
  have written := written_of_parseWithin parsed
  refine ⟨?_, Formula.preserved_iff written shallow, Formula.preserved_of_exact written shallow,
    fun c inside => Formula.preserved_leaf_iff (written c inside)⟩
  constructor
  · rintro ⟨other, read⟩
    exact ((Formula.parse_source written shallow).mp read).1
  · intro finite
    exact ⟨_, (Formula.parse_source written shallow).mpr ⟨finite, rfl⟩⟩

theorem source_preserves_iff_fraction :
    let text := "x > 2.50 AND (y = 2)"
    let formula : Formula := .join .and
      (.leaf ⟨"x", .greater, .float (.finite false ⟨4612811918334230528, by decide⟩), rfl⟩)
      (.leaf ⟨"y", .equal, .integer 2, rfl⟩)
    Formula.parse text = .ok formula ∧ formula.source = "x > 2.5 AND y == 2" ∧
      formula.Preserved := by
  intro text formula
  have parsed : Formula.parse text = .ok formula := by decide +kernel
  have exact : ∀ c ∈ formula.leaves, c.literal.Exact := by
    have point : '.' ∈ (Binary64.finite false ⟨4612811918334230528, by decide⟩).plain := by
      decide +kernel
    rintro c (_ | ⟨_, _ | ⟨_, ⟨⟩⟩⟩)
    · rintro _ ⟨⟩
      exact ⟨rfl, absurd point⟩
    · exact nofun
  have shallow : Shallow formula.source :=
    Formula.shallow_source (written_of_parseWithin parsed) (by decide)
  exact ⟨parsed, by decide +kernel,
    (source_preserves_iff text formula parsed shallow).2.2.1 exact⟩

/-- A large number is read back as a whole number next to it. -/
theorem source_misstates_large_number :
    let large : Formula :=
      .leaf ⟨"x", .greater, .float (.finite false ⟨4950912855330343670, by decide⟩), rfl⟩
    let whole : Formula := .leaf ⟨"x", .greater, .integer (10 ^ 23), rfl⟩
    let record : Record := [("x", .integer (10 ^ 23))]
    Formula.parse "x > 100000000000000000000000.0" = .ok large ∧
      Formula.parse large.source = .ok whole ∧
      large.evaluate record = .ok true ∧ whole.evaluate record = .ok false := by
  decide +kernel

end Rulebook
