import Rulebook.Proofs.Formula.Document
import Rulebook.Proofs.Formula.Equality
import Rulebook.Proofs.Formula.Refusal
import Rulebook.Rule

/-! A rule in the course of edits. Its text always states its root, and an edit that fails changes
nothing. -/
namespace Rulebook

/-- What is done to the current rule. A text may be given by a value that is none. -/
inductive Edit
  | create (name : String) (text : Value)
  | replace (text : Value)
  | identify (id : Option Int)
  | reload
  deriving DecidableEq, Repr

namespace Edit

/-- What an edit tells, and the rule after it. As long as there is no rule, only its creation does
anything. -/
def perform : Edit → Option Rule → Except Error Unit × Option Rule
  | .create name given, current =>
    match Rule.textOf given with
    | .error error => (.error error, current)
    | .ok text =>
      match Rule.ofText (.text name) text with
      | .error error => (.error error, current)
      | .ok rule => (.ok (), some rule)
  | .replace given, some rule =>
    match Rule.textOf given with
    | .error error => (.error error, some rule)
    | .ok text => ((Rule.assign text).run.run rule).map id some
  | .identify id, some rule => (.ok (), some { rule with id := (id.map Value.integer).getD .null })
  | .reload, some rule =>
    match rule.reload with
    | .ok again => (.ok (), some again)
    | .error fault => (.error (.document fault), some rule)
  | _, none => (.ok (), none)

def run (edits : List Edit) : Option Rule :=
  edits.foldl (fun current edit => (edit.perform current).2) none

inductive Done : Edit → Option Rule → Option Rule → Prop
  | created {text : String} {root : Formula} (name : String) (current : Option Rule) :
    Formula.parse text = .ok root →
    Done (.create name (.text text)) current
      (some ⟨.text name, .text (Text.trim text), root, .null⟩)
  | replaced {text : String} {root : Formula} (rule : Rule) : Formula.parse text = .ok root →
    Done (.replace (.text text)) (some rule)
      (some { rule with text := .text (Text.trim text), root := root })
  | identified (id : Option Int) (rule : Rule) :
    Done (.identify id) (some rule) (some { rule with id := (id.map Value.integer).getD .null })
  | reloaded (rule : Rule) : Done .reload (some rule) (some rule)
  | idle (edit : Edit) : Done edit none none

end Edit

namespace Rule

theorem textOf_cases (given : Value) :
    (∃ text, given = .text text) ∨ textOf given = .error (.malformed .notText none) := by
  unfold textOf
  split
  · exact .inl ⟨_, rfl⟩
  · exact .inr rfl

theorem replace_eq (rule : Rule) (text : String) : rule.replace text =
    (Formula.parse text).map fun root =>
      { rule with text := .text (Text.trim text), root := root } := by
  unfold replace assign
  generalize Formula.parse text = parsed
  cases parsed <;> rfl

theorem run_assign (text : String) (rule : Rule) :
    (assign text).run.run rule = match rule.replace text with
      | .ok later => (.ok (), later)
      | .error error => (.error error, rule) := by
  rw [replace_eq]
  unfold assign
  generalize Formula.parse text = parsed
  cases parsed <;> rfl

theorem reload_self (rule : Rule) : rule.reload = .ok rule := by
  obtain ⟨name, text, root, id⟩ := rule
  by_cases unknown : id = .null
  · simp [reload, document, ofDocument, unknown, List.lookup_cons, Formula.field]
  · simp [reload, document, ofDocument, unknown, List.lookup_cons, Formula.field]

end Rule

namespace Edit

variable {edit : Edit} {current after : Option Rule}

theorem perform_create (name text : String) (current : Option Rule) :
    perform (.create name (.text text)) current = match Rule.ofText (.text name) text with
      | .error error => (.error error, current)
      | .ok rule => (.ok (), some rule) := by
  simp only [perform, Rule.textOf]

theorem perform_replace (text : String) (rule : Rule) :
    perform (.replace (.text text)) (some rule) = match rule.replace text with
      | .error error => (.error error, some rule)
      | .ok later => (.ok (), some later) := by
  simp only [perform, Rule.textOf, Rule.run_assign]
  generalize rule.replace text = replaced
  cases replaced <;> rfl

theorem perform_create_cases (name : String) (given : Value) (current : Option Rule) :
    (∃ error, perform (.create name given) current = (.error error, current) ∧ error.OfText) ∨
    ∃ after, perform (.create name given) current = (.ok (), after) ∧
      Done (.create name given) current after := by
  rcases Rule.textOf_cases given with ⟨text, rfl⟩ | foreign
  · rw [perform_create, Rule.ofText]
    cases parsed : Formula.parse text with
    | error error => exact .inl ⟨error, rfl, Formula.parse_ofText parsed⟩
    | ok root => exact .inr ⟨_, rfl, .created name current parsed⟩
  · simp only [perform, foreign]
    exact .inl ⟨.malformed .notText none, rfl, trivial⟩

theorem perform_replace_cases (given : Value) (rule : Rule) :
    (∃ error, perform (.replace given) (some rule) = (.error error, some rule) ∧ error.OfText) ∨
    ∃ after, perform (.replace given) (some rule) = (.ok (), after) ∧
      Done (.replace given) (some rule) after := by
  rcases Rule.textOf_cases given with ⟨text, rfl⟩ | foreign
  · rw [perform_replace, Rule.replace_eq]
    cases parsed : Formula.parse text with
    | error error => exact .inl ⟨error, rfl, Formula.parse_ofText parsed⟩
    | ok root => exact .inr ⟨_, rfl, .replaced rule parsed⟩
  · simp only [perform, foreign]
    exact .inl ⟨.malformed .notText none, rfl, trivial⟩

theorem perform_reload (current : Option Rule) : perform .reload current = (.ok (), current) := by
  cases current with
  | none => rfl
  | some rule => rw [perform, Rule.reload_self]

theorem perform_cases (edit : Edit) (current : Option Rule) :
    (∃ error, edit.perform current = (.error error, current) ∧ error.OfText) ∨
    ∃ after, edit.perform current = (.ok (), after) ∧ edit.Done current after := by
  cases edit with
  | create name given => exact perform_create_cases name given current
  | replace given =>
    cases current with
    | none => exact .inr ⟨none, rfl, .idle _⟩
    | some rule => exact perform_replace_cases given rule
  | identify id =>
    cases current with
    | none => exact .inr ⟨none, rfl, .idle _⟩
    | some rule => exact .inr ⟨_, rfl, .identified id rule⟩
  | reload =>
    rw [perform_reload]
    cases current with
    | none => exact .inr ⟨none, rfl, .idle _⟩
    | some rule => exact .inr ⟨_, rfl, .reloaded rule⟩

end Edit

/-- A rule has a name and a trimmed text, which states a formula with the document of the root, and
perhaps a number. -/
structure Rule.InStep (rule : Rule) : Prop where
  name : ∃ name, rule.name = .text name
  text : ∃ text, rule.text = .text text ∧ Text.trim text = text ∧
    ∃ formula, Formula.parse text = .ok formula ∧ formula.document = rule.root.document
  id : rule.id = .null ∨ ∃ id, rule.id = .integer id

theorem Rule.InStep.equal_self {rule : Rule} (inStep : rule.InStep) : rule.equal rule = true := by
  obtain ⟨name, named⟩ := inStep.name
  obtain ⟨text, stated, _⟩ := inStep.text
  have root : rule.root.equal rule.root = true := Tree.equal_self Comparison.equal_self rule.root
  have id : rule.id.equal rule.id = true := by
    rcases inStep.id with none | ⟨id, known⟩
    · rw [none]
      rfl
    · rw [known]
      exact Literal.equal_self _
  simp [Rule.equal, named, stated, root, id, Value.equal, Literal.equal_self]

theorem Formula.parse_trim (text : String) : parse (Text.trim text) = parse text := by
  rw [parse, Text.trim_trim, parse]

namespace Edit

variable {edit : Edit} {current after : Option Rule}

theorem Done.inStep (done : edit.Done current after) (inStep : ∀ rule ∈ current, rule.InStep) :
    ∀ rule ∈ after, rule.InStep := by
  have stated {text : String} {root : Formula} (parsed : Formula.parse text = .ok root) :
      Text.trim (Text.trim text) = Text.trim text ∧
        ∃ formula, Formula.parse (Text.trim text) = .ok formula ∧ formula.document = root.document :=
    ⟨Text.trim_trim text, root, (Formula.parse_trim text).trans parsed, rfl⟩
  cases done with
  | created name current parsed =>
    rintro _ ⟨⟩
    exact ⟨⟨name, rfl⟩, ⟨_, rfl, stated parsed⟩, .inl rfl⟩
  | replaced rule parsed =>
    rintro _ ⟨⟩
    obtain ⟨name, _, id⟩ := inStep rule rfl
    exact ⟨name, ⟨_, rfl, stated parsed⟩, id⟩
  | identified id rule =>
    rintro _ ⟨⟩
    obtain ⟨name, text, _⟩ := inStep rule rfl
    refine ⟨name, text, ?_⟩
    cases id with
    | none => exact .inl rfl
    | some id => exact .inr ⟨id, rfl⟩
  | reloaded rule => exact inStep
  | idle edit => nofun

theorem perform_inStep (edit : Edit) (inStep : ∀ rule ∈ current, rule.InStep) :
    ∀ rule ∈ (edit.perform current).2, rule.InStep := by
  rcases perform_cases edit current with ⟨error, told, _⟩ | ⟨after, told, done⟩
  · rw [told]
    exact inStep
  · rw [told]
    exact done.inStep inStep

theorem run_concat (edits : List Edit) (edit : Edit) :
    run (edits ++ [edit]) = (edit.perform (run edits)).2 := by
  simp [run]

theorem run_inStep (edits : List Edit) : ∀ rule ∈ run edits, rule.InStep := by
  induction edits using List.reverseRecOn with
  | nil => nofun
  | append_singleton edits edit ih =>
    rw [run_concat]
    exact perform_inStep edit ih

end Edit

/-- After any edits the text of a rule states its root. An edit that fails has a fault of its text and
changes nothing, a new text leaves name and number alone, and reloading gives the same rule. -/
theorem edits_keep_in_step (edits : List Edit) (edit : Edit) :
    let before := Edit.run edits
    let outcome := (edit.perform before).1
    let after := (edit.perform before).2
    (∀ rule ∈ after, rule.InStep) ∧
    (∀ error, outcome = .error error → after = before ∧ error.OfText) ∧
    (∀ text, edit = .replace text → ∀ rule ∈ before, ∃ later ∈ after,
      later.name = rule.name ∧ later.id = rule.id) ∧
    (edit = .reload → outcome = .ok () ∧ after = before ∧
      ∀ rule ∈ before, rule.reload = .ok rule ∧ rule.equal rule = true) := by
  intro before
  have inStep : ∀ rule ∈ before, rule.InStep := Edit.run_inStep edits
  have kept := Edit.perform_inStep edit inStep
  have cases := edit.perform_cases before
  rcases told : edit.perform before with ⟨outcome, after⟩
  rw [told] at kept cases
  refine ⟨kept, ?_, ?_, ?_⟩
  · rintro error rfl
    rcases cases with ⟨fault, failed, ofText⟩ | ⟨done, passed, _⟩
    · cases failed
      exact ⟨rfl, ofText⟩
    · cases passed
  · rintro text rfl rule current
    rcases cases with ⟨fault, failed, ofText⟩ | ⟨done, passed, replaced⟩
    · cases failed
      exact ⟨rule, current, rfl, rfl⟩
    · cases passed
      rw [Option.mem_def.mp current] at replaced
      cases replaced
      exact ⟨_, rfl, rfl, rfl⟩
  · rintro rfl
    rw [Edit.perform_reload] at told
    cases told
    exact ⟨rfl, rfl, fun rule current => ⟨rule.reload_self, (inStep rule current).equal_self⟩⟩

example : (Edit.run [.create "adult" (.text "\tage >= 18 "), .identify (some 7),
    .replace (.text "age >="), .reload]).map (fun rule => (rule.text, rule.id)) =
      some (.text "age >= 18", .integer 7) := by
  decide +kernel

end Rulebook
