import Rulebook.Formula.Combination
import Rulebook.Formula.Document
import Rulebook.Proofs.Json.Reader

/-! A formula read from its own document is the formula, and the JSON text of the document holds all of
it. The document nests as deeply as the formula does. -/
namespace Rulebook

theorem Comparison.ofDocument_document (c : Comparison) :
    Comparison.ofDocument (.object [
      ("attribute", .text c.name),
      ("operator", .text c.relation.sign),
      ("literal", .scalar c.literal)]) = .ok c := by
  simp [ofDocument, ofValues, List.lookup_cons, c.named]

namespace Formula

@[simp] theorem document_ne_null (formula : Formula) : formula.document ≠ .null := by
  cases formula <;> nofun

@[simp] theorem ofDocument_document (formula : Formula) :
    ofDocument formula.document = .ok formula := by
  induction formula with
  | leaf c =>
    simp [document, Comparison.document, ofDocument, field, List.lookup_cons,
      Comparison.ofDocument_document]
  | join connective left right first second =>
    simp [document, ofDocument, field, childAt, List.lookup_cons, first, second, Connective.ofValue]

theorem document_writable {formula : Formula} (short : ∀ c ∈ formula.leaves, c.literal.Short) :
    formula.document.Writable := by
  induction formula with
  | leaf c =>
    have literal : c.literal.Short := short c List.mem_cons_self
    simp [document, Comparison.document, Value.Writable, Value.WritableFields, literal]
  | join connective left right first second =>
    obtain ⟨before, after⟩ := List.forall_mem_append.mp short
    simp [document, Value.Writable, Value.WritableFields, first before, second after]

@[simp] theorem depth_document_leaf (c : Comparison) : Json.depth (document (.leaf c)) = 2 := rfl

@[simp] theorem depth_document_join (connective : Connective) (left right : Formula) :
    Json.depth (document (.join connective left right)) =
      max (Json.depth left.document) (Json.depth right.document) + 1 := by
  simp [document, Json.depth, Json.depthFields]

theorem depth_document_joinAll (connective : Connective) (first : Formula) (rest : List Formula) :
    Json.depth first.document + rest.length ≤
      Json.depth (document (Tree.joinAll connective first rest)) := by
  induction rest generalizing first with
  | nil => exact Nat.le_refl _
  | cons next rest ih =>
    have outer := ih (.join connective first next)
    have inside : Json.depth first.document + 1 ≤
        Json.depth (document (.join connective first next)) := by
      rw [depth_document_join]
      omega
    have same : Tree.joinAll connective first (next :: rest) =
        Tree.joinAll connective (.join connective first next) rest := rfl
    rw [same, List.length_cons]
    omega

end Formula

end Rulebook
