import Rulebook.Proofs.Formula.Document

/-! Which values are documents of formulas. A value is read exactly if it holds what a node must
hold, and what was read is written back as the value without its other fields. -/
namespace Rulebook

namespace Value

open Formula (field)

/-- The value holds what the document of a formula must hold, among any other fields. -/
inductive HoldsFormula : Value → Prop
  | operator {fields : Record} (connective : Connective) :
    field fields "type" = .text "operator" → field fields "value" = .text connective.name →
    HoldsFormula (field fields "left") → HoldsFormula (field fields "right") →
    HoldsFormula (.object fields)
  | operand {fields parts : Record} {name : String} (relation : Relation) (literal : Literal) :
    field fields "type" = .text "operand" → field fields "value" = .object parts →
    field parts "attribute" = .text name → isName name = true →
    field parts "operator" = .text relation.sign → field parts "literal" = .scalar literal →
    field fields "left" = .null → field fields "right" = .null → HoldsFormula (.object fields)

def restricted (keys : List String) : Value → Value
  | .object fields => .object (keys.map fun key => (key, field fields key))
  | other => other

mutual
/-- The document of a node without fields that no node has. What is missing is filled with null. -/
def pruned : Value → Value
  | .object fields => restricted ["type", "value", "left", "right"] (.object (prunedFields fields))
  | other => other

def prunedFields : Record → Record
  | [] => []
  | (key, value) :: rest =>
    (key, if key = "value" then value.restricted ["attribute", "operator", "literal"]
      else value.pruned) :: prunedFields rest
end

end Value

namespace Formula

theorem field_cons (name : String) (value : Value) (fields : Record) (key : String) :
    field ((name, value) :: fields) key = if name = key then value else field fields key := by
  rw [field, List.lookup_cons]
  by_cases same : name = key
  · simp [same]
  · rw [beq_eq_false_iff_ne.mpr (Ne.symm same), if_neg same, field]

theorem field_prunedFields (fields : Record) (key : String) :
    field (Value.prunedFields fields) key =
      if key = "value" then (field fields key).restricted ["attribute", "operator", "literal"]
      else (field fields key).pruned := by
  induction fields with
  | nil => simp [Value.prunedFields, field, Value.restricted, Value.pruned]
  | cons entry fields ih =>
    obtain ⟨name, value⟩ := entry
    rw [Value.prunedFields, field_cons, field_cons]
    by_cases same : name = key
    · simp [same]
    · simp [same, ih]

theorem pruned_object (fields : Record) :
    (Value.object fields).pruned = .object [
      ("type", (field fields "type").pruned),
      ("value", (field fields "value").restricted ["attribute", "operator", "literal"]),
      ("left", (field fields "left").pruned),
      ("right", (field fields "right").pruned)] := by
  simp [Value.pruned, Value.restricted, field_prunedFields]

theorem childAt_eq_ok {key : String} {fields : Record} {formula : Formula} :
    childAt key fields = .ok formula ↔ ofDocument (field fields key) = .ok formula := by
  induction fields with
  | nil => simp [childAt, field, ofDocument]
  | cons entry fields ih =>
    obtain ⟨name, value⟩ := entry
    rw [childAt, field_cons]
    split
    · rfl
    · exact ih

end Formula

theorem Connective.ofValue_eq_ok {value : Value} {connective : Connective} :
    Connective.ofValue value = .ok connective ↔ value = .text connective.name := by
  constructor
  · intro read
    unfold Connective.ofValue at read
    split at read
    · split at read
      · rename_i found
        cases read
        rw [Connective.ofName?_eq_some_iff.mp found]
      · cases read
    · cases read
  · rintro rfl
    simp [Connective.ofValue]

namespace Comparison

theorem ofValues_eq_ok {name relation literal : Value} {comparison : Comparison} :
    ofValues name relation literal = .ok comparison ↔ name = .text comparison.name ∧
      relation = .text comparison.relation.sign ∧ literal = .scalar comparison.literal := by
  constructor
  · intro read
    unfold ofValues at read
    split at read
    · split at read
      · split at read
        · split at read
          · rename_i stated
            split at read
            · cases read
              exact ⟨rfl, congrArg Value.text (Relation.ofSign?_eq_some_iff.mp stated), rfl⟩
            · cases read
          · cases read
        · cases read
      · cases read
    · cases read
  · rintro ⟨rfl, rfl, rfl⟩
    simp [ofValues, comparison.named]

theorem ofDocument_eq_ok {value : Value} {comparison : Comparison} :
    ofDocument value = .ok comparison ↔ ∃ parts, value = .object parts ∧
      Formula.field parts "attribute" = .text comparison.name ∧
      Formula.field parts "operator" = .text comparison.relation.sign ∧
      Formula.field parts "literal" = .scalar comparison.literal := by
  constructor
  · intro read
    unfold ofDocument at read
    split at read
    · rename_i parts
      split at read
      · rename_i name relation literal named related stated
        split at read
        · rename_i found
          cases read
          obtain ⟨rfl, rfl, rfl⟩ := ofValues_eq_ok.mp found
          refine ⟨parts, rfl, ?_⟩
          simp [Formula.field, named, related, stated]
        · cases read
      · cases read
    · cases read
  · rintro ⟨parts, rfl, name, relation, literal⟩
    have there {key : String} {held : Literal} (found : Formula.field parts key = .scalar held) :
        parts.lookup key = some (.scalar held) := by
      unfold Formula.field at found
      cases there : parts.lookup key <;> simp_all
    simp [ofDocument, ofValues_eq_ok.mpr ⟨rfl, rfl, rfl⟩, there name, there relation, there literal]

end Comparison

namespace Formula

theorem ofDocument_cases {value : Value} {formula : Formula} (read : ofDocument value = .ok formula) :
    ∃ fields, value = .object fields ∧
      ((∃ connective left right, formula = .join connective left right ∧
        field fields "type" = .text "operator" ∧
        field fields "value" = .text connective.name ∧
        ofDocument (field fields "left") = .ok left ∧
        ofDocument (field fields "right") = .ok right) ∨
      ∃ comparison, formula = .leaf comparison ∧ field fields "type" = .text "operand" ∧
        Comparison.ofDocument (field fields "value") = .ok comparison ∧
        field fields "left" = .null ∧ field fields "right" = .null) := by
  unfold ofDocument at read
  split at read
  · rename_i fields
    refine ⟨fields, rfl, ?_⟩
    split at read
    · rename_i kind
      split at read
      · cases read
      split at read
      · cases read
      rename_i left first
      split at read
      · cases read
      rename_i right second
      split at read
      · cases read
      rename_i connective stated
      cases read
      exact .inl ⟨connective, left, right, rfl, kind, Connective.ofValue_eq_ok.mp stated,
        childAt_eq_ok.mp first, childAt_eq_ok.mp second⟩
    · rename_i kind
      split at read
      · cases read
      rename_i childless
      split at read
      · cases read
      rename_i comparison held
      cases read
      obtain ⟨left, right⟩ : field fields "left" = .null ∧ field fields "right" = .null := by
        simpa using childless
      exact .inr ⟨comparison, rfl, kind, held, left, right⟩
    · cases read
  · cases read

theorem document_of_ofDocument {value : Value} {formula : Formula}
    (read : ofDocument value = .ok formula) : formula.document = value.pruned := by
  induction formula generalizing value with
  | leaf comparison =>
    obtain ⟨fields, rfl, ⟨_, _, _, ⟨⟩, _⟩ | ⟨_, ⟨⟩, kind, held, left, right⟩⟩ := ofDocument_cases read
    obtain ⟨parts, inside, name, relation, literal⟩ := Comparison.ofDocument_eq_ok.mp held
    rw [pruned_object, kind, inside, left, right]
    simp [document, Comparison.document, Value.pruned, Value.restricted, name, relation, literal]
  | join connective first second left right =>
    obtain ⟨fields, rfl, ⟨_, _, _, ⟨⟩, kind, joined, before, after⟩ | ⟨_, ⟨⟩, _⟩⟩ :=
      ofDocument_cases read
    rw [pruned_object, kind, joined, ← left before, ← right after]
    rfl

theorem holdsFormula_of_ofDocument {value : Value} {formula : Formula}
    (read : ofDocument value = .ok formula) : value.HoldsFormula := by
  induction formula generalizing value with
  | leaf comparison =>
    obtain ⟨fields, rfl, ⟨_, _, _, ⟨⟩, _⟩ | ⟨_, ⟨⟩, kind, held, left, right⟩⟩ := ofDocument_cases read
    obtain ⟨parts, inside, name, relation, literal⟩ := Comparison.ofDocument_eq_ok.mp held
    exact .operand comparison.relation comparison.literal kind inside name comparison.named relation
      literal left right
  | join connective first second left right =>
    obtain ⟨fields, rfl, ⟨_, _, _, ⟨⟩, kind, joined, before, after⟩ | ⟨_, ⟨⟩, _⟩⟩ :=
      ofDocument_cases read
    exact .operator connective kind joined (left before) (right after)

theorem ofDocument_of_holdsFormula {value : Value} (holds : value.HoldsFormula) :
    ∃ formula, ofDocument value = .ok formula := by
  induction holds with
  | @operator fields connective kind joined _ _ first second =>
    obtain ⟨left, before⟩ := first
    obtain ⟨right, after⟩ := second
    have there {key : String} {child : Formula} (read : ofDocument (field fields key) = .ok child) :
        field fields key ≠ .null := by
      intro missing
      rw [missing] at read
      cases read
    refine ⟨.join connective left right, ?_⟩
    simp [ofDocument, kind, there before, there after, childAt_eq_ok.mpr before,
      childAt_eq_ok.mpr after, Connective.ofValue_eq_ok.mpr joined]
  | @operand fields parts name relation literal kind inside named spelled sign held left right =>
    have read : Comparison.ofDocument (.object parts) = .ok ⟨name, relation, literal, spelled⟩ :=
      Comparison.ofDocument_eq_ok.mpr ⟨parts, rfl, named, sign, held⟩
    refine ⟨.leaf ⟨name, relation, literal, spelled⟩, ?_⟩
    simp [ofDocument, kind, left, right, inside, read]

end Formula

instance : DecidablePred Value.HoldsFormula := fun value =>
  match read : Formula.ofDocument value with
  | .ok formula => isTrue (Formula.holdsFormula_of_ofDocument read)
  | .error fault => isFalse fun holds => by
    obtain ⟨formula, found⟩ := Formula.ofDocument_of_holdsFormula holds
    cases read.symm.trans found

/-- A formula is read back from its document. A value is read as a formula exactly if it holds one,
and the document of that formula is the value without the fields that no node has and with null for
the children that an operand lacks. Every other value is refused. -/
theorem documents_hold_formulas :
    (∀ formula : Formula, Formula.ofDocument formula.document = .ok formula) ∧
    ∀ value : Value,
      (value.HoldsFormula →
        ∃ formula, Formula.ofDocument value = .ok formula ∧ formula.document = value.pruned) ∧
      (¬ value.HoldsFormula → ∃ fault, Formula.ofDocument value = .error fault) := by
  refine ⟨Formula.ofDocument_document, fun value => ⟨fun holds => ?_, fun other => ?_⟩⟩
  · obtain ⟨formula, read⟩ := Formula.ofDocument_of_holdsFormula holds
    exact ⟨formula, read, Formula.document_of_ofDocument read⟩
  · cases read : Formula.ofDocument value with
    | ok formula => exact absurd (Formula.holdsFormula_of_ofDocument read) other
    | error fault => exact ⟨fault, rfl⟩

theorem documents_hold_formulas_loose :
    let operand (parts : Record) : Value :=
      .object [("note", .list []), ("value", .object parts), ("type", .text "operand"),
        ("left", .null)]
    let node (connective left right : Value) : Value :=
      .object [("right", right), ("type", .text "operator"), ("value", connective), ("left", left)]
    let loose := node (.text "AND")
      (operand [("literal", .boolean true), ("attribute", .text "a_1"), ("operator", .text "!=")])
      (operand [("attribute", .text "b"), ("operator", .text "<"), ("literal", .integer (-7)),
        ("type", .text "number")])
    let formula : Formula := .join .and (.leaf ⟨"a_1", .notEqual, .boolean true, rfl⟩)
      (.leaf ⟨"b", .less, .integer (-7), rfl⟩)
    let broken := [node (.list [.text "AND"]) loose loose, node (.text "OR") loose (.boolean true),
      operand [("attribute", .text "a\n"), ("operator", .text "=="), ("literal", .integer 1)]]
    loose.HoldsFormula ∧ Formula.ofDocument loose = .ok formula ∧ formula.document = loose.pruned ∧
      Formula.ofDocument formula.document = .ok formula ∧
      ∀ value ∈ broken, ¬ value.HoldsFormula ∧ ∃ fault, Formula.ofDocument value = .error fault := by
  intro operand node loose formula broken
  have holds : loose.HoldsFormula := by decide +kernel
  have refused : ∀ value ∈ broken, ¬ value.HoldsFormula := by decide +kernel
  obtain ⟨written, read⟩ := documents_hold_formulas
  obtain ⟨found, same, document⟩ := (read loose).1 holds
  have stated : Formula.ofDocument loose = .ok formula := by decide +kernel
  cases stated.symm.trans same
  exact ⟨holds, stated, document, written formula,
    fun value inside => ⟨refused value inside, (read value).2 (refused value inside)⟩⟩

end Rulebook
