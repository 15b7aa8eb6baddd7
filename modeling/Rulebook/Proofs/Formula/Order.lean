import Mathlib.Data.List.Lex
import Mathlib.Data.String.Basic
import Rulebook.Proofs.Formula.Negation
import Rulebook.Proofs.Number.Exact

/-! Comparisons of numbers and of texts follow one order each: that of exact values, with an
infinity at either end, and that of code points from the first on. -/
namespace Rulebook

namespace Relation

def Between {α : Type} [LinearOrder α] : Relation → α → α → Prop
  | .equal, a, b => a = b
  | .notEqual, a, b => a ≠ b
  | .greater, a, b => b < a
  | .less, a, b => a < b
  | .atLeast, a, b => b ≤ a
  | .atMost, a, b => a ≤ b

instance {α : Type} [LinearOrder α] (relation : Relation) (a b : α) :
    Decidable (relation.Between a b) :=
  match relation with
  | .equal => inferInstanceAs (Decidable (a = b))
  | .notEqual => inferInstanceAs (Decidable (a ≠ b))
  | .greater => inferInstanceAs (Decidable (b < a))
  | .less => inferInstanceAs (Decidable (a < b))
  | .atLeast => inferInstanceAs (Decidable (b ≤ a))
  | .atMost => inferInstanceAs (Decidable (a ≤ b))

theorem holds_of_compares {α : Type} [LinearOrder α] {order : Ordering} {a b : α}
    (compares : order.Compares a b) (relation : Relation) :
    relation.holds (some order) = decide (relation.Between a b) := by
  rw [Bool.eq_iff_iff, decide_eq_true_iff]
  cases order with
  | lt =>
    have below : a < b := compares
    cases relation <;> simp [holds, Between, below, below.le, below.ne, below.not_gt]
  | eq =>
    obtain rfl : a = b := compares
    cases relation <;> simp [holds, Between]
  | gt =>
    have above : b < a := compares
    cases relation <;> simp [holds, Between, above, above.le, above.ne', above.not_gt]

theorem existsUnique_holds (order : Ordering) :
    ∃! relation : Relation, relation ∈ [Relation.less, .equal, .greater] ∧
      relation.holds (some order) = true := by
  cases order
  · exact ⟨.less, by decide, by rintro ⟨⟩ <;> decide⟩
  · exact ⟨.equal, by decide, by rintro ⟨⟩ <;> decide⟩
  · exact ⟨.greater, by decide, by rintro ⟨⟩ <;> decide⟩

end Relation

/-- The code points of a text. The first place where two lists differ orders them, and a beginning
comes before the whole. -/
def codePoints (text : String) : List ℕ := text.toList.map Char.toNat

theorem strictMono_codePoints : StrictMono codePoints := by
  intro a b below
  exact List.map_lt (fun _ _ less => less) (String.lt_iff_toList_lt.mp below)

theorem compare_compares_codePoints (a b : String) :
    (compare a b).Compares (codePoints a) (codePoints b) :=
  strictMono_codePoints.compares.mpr (compare_iff a b |>.mp rfl)

namespace Literal

def Ordered (a b : Literal) : Prop :=
  a.IsNumber ∧ b.IsNumber ∨ a.kind = .string ∧ b.kind = .string

def Below (a b : Literal) : Prop := ∃ p q, a.extended? = some p ∧ b.extended? = some q ∧ p < q

theorem exists_compares {a b : Literal} (first : a.IsNumber) (second : b.IsNumber) :
    ∃ p q order, a.extended? = some p ∧ b.extended? = some q ∧ a.order? b = some order ∧
      order.Compares p q := by
  have noText {literal : Literal} (number : literal.IsNumber) : literal.kind ≠ .string := by
    rw [number.1]
    decide
  obtain ⟨p, place⟩ := exists_quantity (noText first) first.2
  obtain ⟨q, other⟩ := exists_quantity (noText second) second.2
  refine ⟨p.extended, q.extended, _, ?_, ?_, order?_of_quantity place other, p.compare_compares q⟩
  · rw [extended?_eq first.1, place, Option.map_some]
  · rw [extended?_eq second.1, other, Option.map_some]

theorem Ordered.exists_order {a b : Literal} (ordered : a.Ordered b) :
    a.kind = b.kind ∧ a.kind ≠ .boolean ∧ ∃ order, a.order? b = some order := by
  rcases ordered with ⟨first, second⟩ | ⟨first, second⟩
  · have kind := first.1.trans second.1.symm
    exact ⟨kind, by rw [first.1]; decide, Literal.exists_order kind first.2 second.2⟩
  · have kind := first.trans second.symm
    have number {literal : Literal} (text : literal.kind = .string) : literal ≠ .float .nan := by
      rintro rfl
      cases text
    exact ⟨kind, by rw [first]; decide, Literal.exists_order kind (number first) (number second)⟩

end Literal

namespace Comparison

variable (name : String) (named : isName name = true)

theorem test_ordered {found literal : Literal} {order : Ordering} (ordered : found.Ordered literal)
    (held : found.order? literal = some order) (relation : Relation) :
    test ⟨name, relation, literal, named⟩ [(name, .scalar found)] =
      .ok (relation.holds (some order)) := by
  obtain ⟨kind, plain, _⟩ := ordered.exists_order
  simp [test, kind, kind ▸ plain, held]

theorem test_numbers {found literal : Literal} (first : found.IsNumber)
    (second : literal.IsNumber) :
    ∃ p q, found.extended? = some p ∧ literal.extended? = some q ∧ ∀ relation,
      test ⟨name, relation, literal, named⟩ [(name, .scalar found)] =
        .ok (decide (relation.Between p q)) := by
  obtain ⟨p, q, order, value, other, held, compares⟩ := Literal.exists_compares first second
  refine ⟨p, q, value, other, fun relation => ?_⟩
  rw [test_ordered name named (.inl ⟨first, second⟩) held, Relation.holds_of_compares compares]

theorem test_texts (found literal : String) (relation : Relation) :
    test ⟨name, relation, .text literal, named⟩ [(name, .text found)] =
      .ok (decide (relation.Between (codePoints found) (codePoints literal))) := by
  rw [test_ordered name named (.inr ⟨rfl, rfl⟩) rfl,
    Relation.holds_of_compares (compare_compares_codePoints found literal)]

theorem test_trichotomy {found literal : Literal} (ordered : found.Ordered literal) :
    (∃! relation, relation ∈ [Relation.less, .equal, .greater] ∧
      test ⟨name, relation, literal, named⟩ [(name, .scalar found)] = .ok true) ∧
    ∀ relation, ∃ truth,
      test ⟨name, relation, literal, named⟩ [(name, .scalar found)] = .ok truth ∧
      test ⟨name, relation.complement, literal, named⟩ [(name, .scalar found)] = .ok !truth := by
  obtain ⟨_, _, order, held⟩ := ordered.exists_order
  simp only [test_ordered name named ordered held, Except.ok.injEq]
  refine ⟨Relation.existsUnique_holds order, fun relation => ⟨_, rfl, ?_⟩⟩
  exact Relation.holds_complement relation order

theorem test_below {found a b : Literal} (number : found.IsNumber) (first : a.IsNumber)
    (second : b.IsNumber) (below : a.Below b) :
    let outcome (relation : Relation) (literal : Literal) :=
      test ⟨name, relation, literal, named⟩ [(name, .scalar found)]
    (outcome .less a = .ok true → outcome .less b = .ok true) ∧
    (outcome .greater b = .ok true → outcome .greater a = .ok true) := by
  obtain ⟨p, q, value, greater, below⟩ := below
  obtain ⟨x, _, place, same, least⟩ := test_numbers name named number first
  cases value.symm.trans same
  obtain ⟨_, _, again, same, most⟩ := test_numbers name named number second
  cases greater.symm.trans same
  cases place.symm.trans again
  simp only [least, most, Except.ok.injEq, decide_eq_true_iff]
  exact ⟨fun under => lt_trans under below, fun above => lt_trans below above⟩

end Comparison

/-- A number against a number comes out as the relation of their exact values, and a text against a
text as that of their code points. So a value is below the literal, equal to it or above it, and not
two of these, and the other three relations are the complements. Below a number is below every
greater one, and above a number is above every lesser one. -/
theorem comparisons_follow_exact_order (name : String) (named : isName name = true) :
    let outcome (found : Literal) (relation : Relation) (literal : Literal) :=
      Formula.evaluate (.leaf ⟨name, relation, literal, named⟩) [(name, .scalar found)]
    (∀ found literal : Literal, found.IsNumber → literal.IsNumber →
      ∃ p q, found.extended? = some p ∧ literal.extended? = some q ∧
        ∀ relation, outcome found relation literal = .ok (decide (relation.Between p q))) ∧
    (∀ (found literal : String) (relation : Relation),
      outcome (.text found) relation (.text literal) =
        .ok (decide (relation.Between (codePoints found) (codePoints literal)))) ∧
    (∀ found literal : Literal, found.Ordered literal →
      (∃! relation, relation ∈ [Relation.less, .equal, .greater] ∧
        outcome found relation literal = .ok true) ∧
      ∀ relation, ∃ truth, outcome found relation literal = .ok truth ∧
        outcome found relation.complement literal = .ok !truth) ∧
    ∀ found a b : Literal, found.IsNumber → a.IsNumber → b.IsNumber → a.Below b →
      (outcome found .less a = .ok true → outcome found .less b = .ok true) ∧
      (outcome found .greater b = .ok true → outcome found .greater a = .ok true) := by
  simp only [Formula.evaluate_leaf]
  exact ⟨fun _ _ => Comparison.test_numbers name named, Comparison.test_texts name named,
    fun _ _ => Comparison.test_trichotomy name named, fun _ _ _ => Comparison.test_below name named⟩

/-- The whole number after `2 ^ 53` has no binary64 number of its own. It is above the one before it
and below the one behind it. -/
theorem comparisons_follow_exact_order_whole :
    let outcome (found : Literal) (relation : Relation) (literal : Literal) :=
      Formula.evaluate (.leaf ⟨"x", relation, literal, rfl⟩) [("x", .scalar found)]
    let whole : Literal := .integer (2 ^ 53 + 1)
    let before : Literal := .float (.finite false ⟨1076 * 2 ^ 52, by decide⟩)
    let behind : Literal := .float (.finite false ⟨1076 * 2 ^ 52 + 1, by decide⟩)
    let top : Literal := .float (.infinite false)
    whole.IsNumber ∧ before.IsNumber ∧ behind.IsNumber ∧ top.IsNumber ∧ behind.Below top ∧
    before.Below whole ∧ (∃! relation, relation ∈ [Relation.less, .equal, .greater] ∧
      outcome whole relation before = .ok true) ∧ outcome whole .atMost before = .ok false ∧
    outcome whole .less behind = .ok true ∧ outcome whole .less top = .ok true ∧
    outcome (.text "Z") .less (.text "a") = .ok true := by
  intro outcome whole before behind top
  have number : whole.IsNumber := by decide
  have first : before.IsNumber := by decide
  have second : behind.IsNumber := by decide
  have last : top.IsNumber := by decide
  have below : behind.Below top := ⟨_, _, rfl, rfl, WithBot.coe_lt_coe.mpr (WithTop.coe_lt_top _)⟩
  have above : outcome whole .greater before = .ok true := by decide +kernel
  have under : outcome whole .less behind = .ok true := by decide +kernel
  obtain ⟨numbers, texts, trichotomy, monotone⟩ := comparisons_follow_exact_order "x" rfl
  obtain ⟨one, complements⟩ := trichotomy whole before (.inl ⟨number, first⟩)
  refine ⟨number, first, second, last, below, ?_, one, ?_, under,
    (monotone whole behind top number second last below).1 under, (texts "Z" "a" .less).trans ?_⟩
  · obtain ⟨p, q, value, other, outcomes⟩ := numbers whole before number first
    have greater := Except.ok.inj ((outcomes .greater).symm.trans above)
    exact ⟨q, p, other, value, of_decide_eq_true greater⟩
  · obtain ⟨truth, found, opposite⟩ := complements .greater
    cases found.symm.trans above
    exact opposite
  · rfl

end Rulebook
