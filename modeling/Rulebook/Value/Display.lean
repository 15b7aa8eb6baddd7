import Rulebook.Number.Numeral
import Rulebook.Text.Quoted
import Rulebook.Value

/-! Values as messages show them. -/
namespace Rulebook

def Literal.display : Literal → String
  | .boolean value => if value then "True" else "False"
  | .integer value => String.ofList (Numeral.ofInt value)
  | .float value => String.ofList value.display
  | .text value => Text.quoted value

namespace Value

mutual
def display : Value → String
  | .null => "None"
  | .scalar literal => literal.display
  | .list items => "[" ++ displayItems items ++ "]"
  | .object fields => "\x7b" ++ displayFields fields ++ "\x7d"

def displayItems : List Value → String
  | [] => ""
  | [item] => item.display
  | item :: rest => item.display ++ ", " ++ displayItems rest

def displayFields : List (String × Value) → String
  | [] => ""
  | [(key, value)] => Text.quoted key ++ ": " ++ value.display
  | (key, value) :: rest => Text.quoted key ++ ": " ++ value.display ++ ", " ++ displayFields rest
end

end Value

end Rulebook
