import Rulebook.Formula
import Rulebook.Number.Numeral

/-! Formulas as rule text. Every joined child stands in parentheses, so the text shows the tree. -/
namespace Rulebook

/-- Texts have no escapes: double quotes stand around a text that holds an apostrophe. -/
def Literal.source : Literal → String
  | .boolean value => if value then "true" else "false"
  | .integer value => String.ofList (Numeral.ofInt value)
  | .float value => String.ofList value.plain
  | .text value =>
    if value.toList.contains '\'' then "\"" ++ value ++ "\"" else "'" ++ value ++ "'"

def Comparison.source (c : Comparison) : String :=
  c.name ++ " " ++ c.relation.sign ++ " " ++ c.literal.source

namespace Tree

variable {α : Type}

mutual
def source (leaf : α → String) : Tree α → String
  | .leaf value => leaf value
  | .join connective left right =>
    left.operand leaf ++ " " ++ connective.name ++ " " ++ right.operand leaf

def operand (leaf : α → String) : Tree α → String
  | .leaf value => leaf value
  | .join connective left right =>
    "(" ++ left.operand leaf ++ " " ++ connective.name ++ " " ++ right.operand leaf ++ ")"
end

end Tree

def Formula.source (formula : Formula) : String := Tree.source Comparison.source formula

end Rulebook
