import Rulebook.Comparison

/-! Which literals are equal, and which a comparison cannot tell apart: those of one kind that lie at
one place. Of two that do not, every relation tells one from the other on one of the two. -/
namespace Rulebook

theorem Quantity.compare_eq_iff {a b : Quantity} : a.compare b = .eq ↔ a = b := by
  cases a <;> cases b <;> simp [compare, Std.LawfulEqCmp.compare_eq_iff_eq]

theorem Quantity.compare_self (a : Quantity) : a.compare a = .eq := compare_eq_iff.mpr rfl

theorem Quantity.swap_compare (a b : Quantity) : (a.compare b).swap = b.compare a := by
  cases a <;> cases b <;> simp [compare, ← Std.OrientedCmp.eq_swap]

theorem Relation.holds_ne (relation : Relation) {a b : Quantity} (differ : a ≠ b) :
    relation.holds (some (a.compare a)) ≠ relation.holds (some (a.compare b)) ∨
      relation.holds (some (b.compare a)) ≠ relation.holds (some (b.compare b)) := by
  have order : a.compare b ≠ .eq := mt Quantity.compare_eq_iff.mp differ
  rw [← Quantity.swap_compare a b, Quantity.compare_self, Quantity.compare_self]
  cases relation <;> cases compared : a.compare b <;> simp_all [holds]

namespace Literal

theorem equal_self (literal : Literal) : literal.equal literal = true := by
  simp [equal]

theorem order?_of_quantity {a b : Literal} {p q : Quantity} (first : a.quantity? = some p)
    (second : b.quantity? = some q) : a.order? b = some (p.compare q) := by
  unfold order?
  split
  · cases first
  · simp [first, second]

theorem equal_of_ne {a b : Literal} {p : Quantity} (differ : a ≠ b) (first : a.quantity? = some p) :
    a.equal b = true ↔ b.quantity? = some p := by
  cases second : b.quantity? with
  | none =>
    have unordered : a.order? b = none := by
      unfold order?
      split
      · cases first
      · simp [second]
    simp [equal, differ, unordered]
  | some q =>
    simp only [equal, differ, order?_of_quantity first second, decide_false, Bool.false_or,
      decide_eq_true_eq, Option.some.injEq, Quantity.compare_eq_iff]
    exact eq_comm

theorem text_of_equal {a : Literal} {value : String} (same : a.equal (.text value) = true) :
    a = .text value := by
  simp only [equal, Bool.or_eq_true, decide_eq_true_eq] at same
  rcases same with same | same
  · exact same
  · cases a with
    | text other =>
      simp only [order?, Option.some.injEq, Std.LawfulEqCmp.compare_eq_iff_eq] at same
      rw [same]
    | boolean other => simp [order?, quantity?] at same
    | integer other => simp [order?, quantity?] at same
    | float other => simp [order?, quantity?] at same

theorem order?_congr {a b : Literal} {p : Quantity} (first : a.quantity? = some p)
    (second : b.quantity? = some p) (found : Literal) : found.order? a = found.order? b := by
  have plain {literal : Literal} (placed : literal.quantity? = some p) :
      found.order? literal = found.quantity?.map (·.compare p) := by
    unfold order?
    split
    · cases placed
    · rw [placed]
      cases found.quantity? <;> rfl
  rw [plain first, plain second]

end Literal

namespace Comparison

theorem test_congr {c : Comparison} {literal : Literal} (kind : literal.kind = c.literal.kind)
    (order : ∀ found : Literal, found.order? literal = found.order? c.literal) (record : Record) :
    test { c with literal := literal } record = c.test record := by
  simp only [test, kind, order]

theorem test_number {c : Comparison} {found : Literal} {p q : Quantity} (kind : found.kind = .number)
    (number : c.literal.kind = .number) (first : found.quantity? = some p)
    (second : c.literal.quantity? = some q) :
    c.test [(c.name, .scalar found)] = .ok (c.relation.holds (some (p.compare q))) := by
  simp [test, kind, number, Literal.order?_of_quantity first second]

theorem exists_test_ne {c : Comparison} {literal : Literal} {p q : Quantity}
    (kind : literal.kind = .number) (number : c.literal.kind = .number)
    (first : literal.quantity? = some p) (second : c.literal.quantity? = some q) (differ : p ≠ q) :
    ∃ record a b, test { c with literal := literal } record = .ok a ∧ c.test record = .ok b ∧
      a ≠ b := by
  rcases c.relation.holds_ne differ with apart | apart
  · exact ⟨_, _, _, test_number kind kind first first, test_number kind number first second, apart⟩
  · exact ⟨_, _, _, test_number number kind second first, test_number number number second second,
      apart⟩

end Comparison

end Rulebook
