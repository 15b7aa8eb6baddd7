import Rulebook.Token
import Rulebook.Value.Display

/-! What can go wrong, by cause, and the message for each cause. -/
namespace Rulebook

/-- Faults of rule text. The first four are found in single tokens, the others in their sequence
or in the text as a whole. -/
inductive SyntaxFault
  | malformedNumber (digits : String)
  | unterminatedText
  | loneSign (sign : Char)
  | foreign (character : Char)
  | emptyRule
  | operandAtEnd
  | operand (found : Symbol)
  | relation (name : String)
  | literal (name : String) (relation : Relation)
  | unclosed
  | unopened
  | trailing (found : Symbol)
  | mismatch (wanted found : Token.Kind)
  | notText
  | tooDeep
  deriving DecidableEq, Repr

inductive ArgumentFault
  | name (given : Value)
  | relation (given : Value)
  | literal (given : Value)
  | connective (given : Value)
  | children
  | noRules
  | notRule (typeName : String)
  | textCount (rules texts : Nat)
  | notText (typeName : String)
  deriving DecidableEq, Repr

inductive EvaluationFault
  | record
  | missing (name : String)
  | unsupported (name typeName : String)
  | kinds (name : String) (data literal : Kind) (relation : Relation)
  | booleanOrder (name : String) (relation : Relation)
  | unknownNode (typeName : String)
  deriving DecidableEq, Repr

inductive DocumentFault
  | notObject (typeName : String)
  | childless
  | operandChildren
  | operandValue
  | missingKeys (keys : List String)
  | argument (fault : ArgumentFault)
  | unknownType (given : Value)
  | ruleKey (key : String)
  | ruleShape (given : Value)
  deriving DecidableEq, Repr

inductive Error
  | malformed (fault : SyntaxFault) (position : Option Nat)
  | argument (fault : ArgumentFault)
  | evaluation (fault : EvaluationFault)
  | document (fault : DocumentFault)
  /-- A whole number in rule text with more digits than are read. -/
  | numeral (digits : Nat)
  deriving DecidableEq, Repr

/-- The most digits that a whole number is read from, leading zeros included. -/
def digitLimit : Nat := 4300

def overlong (digits : Nat) : String :=
  s!"Exceeds the limit ({digitLimit} digits) for integer string conversion: value has {digits} " ++
    "digits; use sys.set_int_max_str_digits() to increase the limit"

def SyntaxFault.message : SyntaxFault → String
  | .malformedNumber digits => s!"Malformed number '{digits}.'"
  | .unterminatedText => "Unterminated string literal"
  | .loneSign sign =>
    let meant := if sign = '&' then "AND" else if sign = '|' then "OR" else "!="
    s!"Unrecognized operator '{sign}'. Did you mean '{meant}'?"
  | .foreign character => s!"Invalid character '{character}'"
  | .emptyRule => "Rule string is empty"
  | .operandAtEnd => "Missing operand at end of rule"
  | .operand found =>
    s!"Missing operand: expected an attribute name, found {found.value.display}"
  | .relation name => s!"Expected a comparison operator after '{name}'"
  | .literal name stated => s!"Missing literal after '{name} {stated.sign}'"
  | .unclosed => "Unbalanced parentheses: expected ')'"
  | .unopened => "Unbalanced parentheses: unexpected ')'"
  | .trailing found => s!"Unexpected token {found.value.display} after expression"
  | .mismatch wanted found => s!"Expected {wanted.name}, found {found.name}"
  | .notText => "Rule string must be text"
  | .tooDeep => "Rule is nested too deeply"

def ArgumentFault.message : ArgumentFault → String
  | .name given => s!"Invalid attribute name: {given.display}"
  | .relation given => s!"Unsupported comparison operator: {given.display}"
  | .literal given => s!"Unsupported literal: {given.display}"
  | .connective given => s!"Unsupported connective: {given.display}"
  | .children => "Logical nodes require both a left and a right child"
  | .noRules => "At least one rule is required to combine"
  | .notRule typeName => s!"Cannot combine {typeName}, expected a rule AST"
  | .textCount rules texts => s!"Got {rules} rules but {texts} rule strings"
  | .notText typeName => s!"Rule strings must be text, got {typeName}"

def EvaluationFault.message : EvaluationFault → String
  | .record => "Data must be a mapping of attribute names to values"
  | .missing name => s!"Attribute '{name}' is missing from the data"
  | .unsupported name typeName => s!"Attribute '{name}' has unsupported type {typeName}"
  | .kinds name data literal relation =>
    s!"Cannot compare {data.name} attribute '{name}' with {literal.name} literal " ++
      s!"using '{relation.sign}'"
  | .booleanOrder name relation =>
    s!"Operator '{relation.sign}' is not defined for boolean attribute '{name}'"
  | .unknownNode typeName => s!"Unknown node type: {typeName}"

def notKeyed (given : Value) : String :=
  match given with
  | .scalar (.text _) => "string indices must be integers, not 'str'"
  | .list _ => "list indices must be integers or slices, not str"
  | _ => s!"'{given.typeName}' object is not subscriptable"

def DocumentFault.message : DocumentFault → String
  | .notObject typeName => s!"AST node must be an object, got {typeName}"
  | .childless => "Operator node requires both 'left' and 'right'"
  | .operandChildren => "Operand node must not have children"
  | .operandValue => "Operand node value must be an object"
  | .missingKeys keys => "Operand node value is missing " ++ ", ".intercalate keys
  | .argument fault => fault.message
  | .unknownType given => s!"Unknown AST node type: {given.display}"
  | .ruleKey key => s!"Rule document is missing '{key}'"
  | .ruleShape given => s!"Rule document is missing {notKeyed given}"

def Error.message : Error → String
  | .malformed fault none => fault.message
  | .malformed fault (some position) => s!"{fault.message} at position {position}"
  | .argument fault => fault.message
  | .evaluation fault => fault.message
  | .document fault => fault.message
  | .numeral digits => overlong digits

end Rulebook
