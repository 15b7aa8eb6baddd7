import Rulebook.Relation
import Rulebook.Value

/-! Tokens of rule text: what a stretch of text spells, and where it starts. -/
namespace Rulebook

inductive Symbol
  | literal (value : Literal)
  | name (spelling : String)
  | relation (relation : Relation)
  | connective (connective : Connective)
  | opening
  | closing
  | finish
  deriving DecidableEq, Repr

/-- Positions count characters from the start of the text. -/
structure Token where
  symbol : Symbol
  position : Nat
  deriving DecidableEq, Repr

inductive Token.Kind
  | number
  | string
  | boolean
  | identifier
  | operator
  | and
  | or
  | opening
  | closing
  | finish
  deriving DecidableEq, Repr

namespace Token.Kind

def name : Token.Kind → String
  | .number => "NUMBER"
  | .string => "STRING"
  | .boolean => "BOOLEAN"
  | .identifier => "IDENTIFIER"
  | .operator => "OPERATOR"
  | .and => "AND"
  | .or => "OR"
  | .opening => "LPAREN"
  | .closing => "RPAREN"
  | .finish => "EOF"

def all : List Token.Kind :=
  [.number, .string, .boolean, .identifier, .operator, .and, .or, .opening, .closing, .finish]

def ofName? (text : String) : Option Token.Kind := all.find? (·.name = text)

end Token.Kind

namespace Symbol

def kind : Symbol → Token.Kind
  | .literal held =>
    match held.kind with
    | .number => .number
    | .string => .string
    | .boolean => .boolean
  | .name _ => .identifier
  | .relation _ => .operator
  | .connective .and => .and
  | .connective .or => .or
  | .opening => .opening
  | .closing => .closing
  | .finish => .finish

def value : Symbol → Value
  | .literal held => .scalar held
  | .name spelling => .text spelling
  | .relation stated => .text stated.sign
  | .connective joining => .text joining.name
  | .opening => .text "("
  | .closing => .text ")"
  | .finish => .null

end Symbol

abbrev Token.kind (token : Token) : Token.Kind := token.symbol.kind

end Rulebook
