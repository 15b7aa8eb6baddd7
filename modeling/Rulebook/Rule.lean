import Rulebook.Formula.Document
import Rulebook.Formula.Evaluation
import Rulebook.Formula.Parser

/-! A named rule: its text and the formula read from it, kept in step. A record that comes from a
document may hold any value as its name, text or identity. -/
namespace Rulebook

structure Rule where
  name : Value
  text : Value
  root : Formula
  /-- Null before the rule is stored. -/
  id : Value
  deriving DecidableEq, Repr

namespace Rule

def ofText (name : Value) (text : String) : Except Error Rule :=
  match Formula.parse text with
  | .error error => .error error
  | .ok root => .ok ⟨name, .text (Text.trim text), root, .null⟩

/-- Puts a new text into a rule, field by field. A fault leaves in place what was done before it. -/
def assign (text : String) : ExceptT Error (StateM Rule) Unit := do
  let root ← Formula.parse text
  modify fun rule => { rule with text := .text (Text.trim text) }
  modify fun rule => { rule with root := root }

def replace (rule : Rule) (text : String) : Except Error Rule :=
  match (assign text).run.run rule with
  | (.ok (), later) => .ok later
  | (.error error, _) => .error error

def textOf : Value → Except Error String
  | .scalar (.text text) => .ok text
  | _ => .error (.malformed .notText none)

def document (rule : Rule) : Value :=
  .object ((if rule.id = .null then [] else [("id", rule.id)]) ++ [
    ("name", rule.name),
    ("ruleString", rule.text),
    ("root", rule.root.document)])

/-- Only the root of a stored rule is checked. -/
def ofDocument (value : Value) : Except DocumentFault Rule :=
  match value with
  | .object fields =>
    match fields.lookup "name", fields.lookup "ruleString", fields.lookup "root" with
    | some name, some text, some root =>
      match Formula.ofDocument root with
      | .error fault => .error fault
      | .ok root => .ok ⟨name, text, root, Formula.field fields "id"⟩
    | none, _, _ => .error (.ruleKey "name")
    | _, none, _ => .error (.ruleKey "ruleString")
    | _, _, none => .error (.ruleKey "root")
  | other => .error (.ruleShape other)

def equal (a b : Rule) : Bool :=
  a.name.equal b.name && a.text.equal b.text && a.root.equal b.root && a.id.equal b.id

def reload (rule : Rule) : Except DocumentFault Rule := ofDocument rule.document

end Rule

end Rulebook
