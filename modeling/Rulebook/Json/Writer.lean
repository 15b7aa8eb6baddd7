import Rulebook.Json.Token
import Rulebook.Number.Numeral
import Rulebook.Text.Quoted

/-! The JSON text of a value, in ASCII characters that show. -/
namespace Rulebook.Json

def units (c : Char) : List Nat :=
  if c.toNat < 0x10000 then [c.toNat]
  else [0xd800 + (c.toNat - 0x10000) / 0x400, 0xdc00 + (c.toNat - 0x10000) % 0x400]

def escape (c : Char) : List Char :=
  if c = '"' || c = '\\' then ['\\', c]
  else if c = '\n' then ['\\', 'n']
  else if c = '\r' then ['\\', 'r']
  else if c = '\t' then ['\\', 't']
  else if c = '\x0c' then ['\\', 'f']
  else if c = '\x08' then ['\\', 'b']
  else if 0x20 ≤ c.toNat && c.toNat < 0x7f then [c]
  else (units c).flatMap fun unit => '\\' :: 'u' :: Text.hexadecimal 4 unit

def quoted (text : String) : List Char := '"' :: (text.toList.flatMap escape ++ ['"'])

def writeLiteral : Literal → List Char
  | .boolean value => if value then "true".toList else "false".toList
  | .integer value => Numeral.ofInt value
  | .float .nan => "NaN".toList
  | .float (.infinite negative) => if negative then "-Infinity".toList else "Infinity".toList
  | .float value => value.display
  | .text value => quoted value

mutual
def write : Value → List Char
  | .null => "null".toList
  | .scalar literal => writeLiteral literal
  | .list items => '[' :: (writeItems items ++ [']'])
  | .object fields => '\x7b' :: (writeFields fields ++ ['\x7d'])

def writeItems : List Value → List Char
  | [] => []
  | [item] => write item
  | item :: rest => write item ++ ',' :: ' ' :: writeItems rest

def writeFields : List (String × Value) → List Char
  | [] => []
  | [(key, value)] => quoted key ++ ':' :: ' ' :: write value
  | (key, value) :: rest => quoted key ++ ':' :: ' ' :: write value ++ ',' :: ' ' :: writeFields rest
end

mutual
/-- The most brackets that are open at once in the JSON text of a value. -/
def depth : Value → Nat
  | .null | .scalar _ => 0
  | .list items => depthItems items + 1
  | .object fields => depthFields fields + 1

def depthItems : List Value → Nat
  | [] => 0
  | item :: rest => max (depth item) (depthItems rest)

def depthFields : List (String × Value) → Nat
  | [] => 0
  | (_, value) :: rest => max (depth value) (depthFields rest)
end

def writingLimit : Nat := 966

end Rulebook.Json
