import Rulebook.Proofs.Service.Body

/-! A stored rule and its text never drift apart, so it makes no difference which of the two a
request names. -/
namespace Rulebook

def Request.evaluate (key : String) (rule : Value) (data : Record) : Request :=
  ⟨"POST", "/api/rules/evaluate", .value (.object [(key, rule), ("data", .object data)])⟩

theorem Service.respond_evaluate (store : Store) (key : String) (rule : Value) (data : Record) :
    Service.respond store (.evaluate key rule data) =
      Service.finish
        ((Action.evaluate (some (.object [(key, rule), ("data", .object data)]))).perform store) := by
  have route : Route.ofPath "POST" (Target.path "/api/rules/evaluate") = .resource .evaluate := by
    decide +kernel
  have method : "POST".map Char.toUpper = "POST" := by decide +kernel
  rw [Service.respond, Request.evaluate]
  dsimp only
  rw [method, route]
  rfl

namespace Action

variable {store : Store} {fields : Record} {formula : Formula}

theorem formulaOf_id {row : Row} (text : fields.lookup "ruleString" = none)
    (id : fields.lookup "ruleId" = some (.integer row.id))
    (found : (find row.id).told store = .ok row) (held : row.root = .ok formula) :
    (formulaOf fields).told store = .ok formula := by
  have asked : require Value.integer? fields "ruleId" = .ok row.id :=
    requireInteger_eq_ok.mpr id
  rw [formulaOf, text, if_neg (by simp), lift_bind_of_ok asked, (find_reads _).told_bind, found]
  exact mapError_eq_ok.mpr held

theorem formulaOf_text {text : String} (given : fields.lookup "ruleString" = some (.text text))
    (parsed : Formula.parse text = .ok formula) : (formulaOf fields).told store = .ok formula := by
  have read : require Value.text? fields "ruleString" = .ok text :=
    requireText_eq_ok.mpr given
  rw [formulaOf, given, if_pos (by simp), lift_bind_of_ok read, told_lift]
  exact parse_eq_ok.mpr parsed

theorem evaluate_congr {others : Record} (data : fields.lookup "data" = others.lookup "data")
    (same : (formulaOf fields).told store = (formulaOf others).told store) :
    (evaluate (some (.object fields))).perform store =
      (evaluate (some (.object others))).perform store := by
  have object (held : Record) : objectBody (some (.object held)) = .ok held := rfl
  have data : require Value.object? fields "data" =
      require Value.object? others "data" := by rw [require, require, data]
  rw [evaluate, evaluate, lift_bind_of_ok (object fields), lift_bind_of_ok (object others), data,
    (Reads.lift _).perform_bind, (Reads.lift _).perform_bind, told_lift]
  cases require Value.object? others "data" with
  | error refusal => rfl
  | ok data =>
    dsimp only
    rw [(formulaOf_reads fields).perform_bind, (formulaOf_reads others).perform_bind, same]

end Action

/-- Whatever requests come in any order, every stored text is trimmed and is parsed as the formula
stored beside it, or nests too deeply for the parser; and unless it does, a request that names the
rule is answered as one that holds its text. -/
theorem stored_text_states_stored_root (requests : List Request) :
    ∀ row ∈ (Service.run .empty requests).1.rows,
      Text.trim row.text = row.text ∧
      ((∃ formula, Formula.parse row.text = .ok formula ∧ formula.document = row.document) ∨
        Formula.parse row.text = .error (.malformed .tooDeep none) ∧
          ∃ symbols, symbols? row.text.toList = some symbols ∧
            Parser.nestingLimit < nesting symbols) ∧
      (Formula.parse row.text ≠ .error (.malformed .tooDeep none) → ∀ data : Record,
        (Service.respond (Service.run .empty requests).1
            (.evaluate "ruleId" (.integer row.id) data)).2 =
          (Service.respond (Service.run .empty requests).1
            (.evaluate "ruleString" (.text row.text) data)).2) := by
  intro row held
  have sound := Service.run_sound .empty requests
  obtain ⟨trimmed, ⟨formula, document, stated⟩, _⟩ := sound.inStep row held
  have parsed := parse_of_states trimmed stated
  refine ⟨trimmed, ?_, ?_⟩
  · rcases parsed with parsed | deep
    · exact .inl ⟨formula, parsed, document.symm⟩
    · exact .inr deep
  · intro shallow data
    have parsed := parsed.resolve_right fun deep => shallow deep.1
    have root : row.root = .ok formula := Row.root_of_states document stated
    have byId : (Action.formulaOf [("ruleId", .integer row.id), ("data", .object data)]).told
        (Service.run .empty requests).1 = .ok formula :=
      Action.formulaOf_id (by simp [List.lookup_cons]) (by simp) (sound.find held) root
    have byText : (Action.formulaOf [("ruleString", .text row.text), ("data", .object data)]).told
        (Service.run .empty requests).1 = .ok formula :=
      Action.formulaOf_text (by simp) parsed
    rw [Service.respond_evaluate, Service.respond_evaluate,
      Action.evaluate_congr (by simp [List.lookup_cons]) (byId.trans byText.symm)]

theorem stored_text_states_stored_root_combined :
    let stored (path name rule : String) (value : Value) : Request :=
      ⟨"POST", path, .value (.object [("name", .text name), (rule, value)])⟩
    let requests := [stored "/api/rules/create" "a" "ruleString" (.text " (x > 1)(y = true) "),
      stored "/api/rules/create" "b" "ruleString" (.text "x > '"),
      stored "/api/rules/combine" "c" "ruleIds" (.list [.integer 1, .integer 1])]
    let text := "((x > 1)(y = true)) AND ((x > 1)(y = true))"
    ∃ row ∈ (Service.run .empty requests).1.rows, row.text = text ∧ Text.trim text = text ∧
      (∃ formula, Formula.parse text = .ok formula ∧ formula.document = row.document) ∧
      (Service.respond (Service.run .empty requests).1
          (.evaluate "ruleId" (.integer row.id) [("x", .integer 2)])).2 =
        (Service.respond (Service.run .empty requests).1
          (.evaluate "ruleString" (.text text) [("x", .integer 2)])).2 := by
  intro stored requests text
  let side : Formula := .join .and (.leaf ⟨"x", .greater, .integer 1, rfl⟩)
    (.leaf ⟨"y", .equal, .boolean true, rfl⟩)
  let row : Row := ⟨2, "c", text, Formula.document (.join .and side side)⟩
  have held : row ∈ (Service.run .empty requests).1.rows := by decide +kernel
  have shallow : Formula.parse row.text ≠ .error (.malformed .tooDeep none) := by decide +kernel
  obtain ⟨trimmed, parsed, same⟩ := stored_text_states_stored_root requests row held
  exact ⟨row, held, rfl, trimmed, parsed.resolve_right fun deep => shallow deep.1,
    same shallow [("x", .integer 2)]⟩

end Rulebook
