import Rulebook.Text.Printable

/-! Quoted texts in messages: apostrophes around the text, or double quotes where the text holds
an apostrophe and no double quote; what would not show is escaped. -/
namespace Rulebook.Text

def hexadecimal (width value : Nat) : List Char :=
  let shown := Nat.toDigits 16 value
  List.replicate (width - shown.length) '0' ++ shown

def escape (quote c : Char) : List Char :=
  if c = quote || c = '\\' then ['\\', c]
  else if c = '\n' then ['\\', 'n']
  else if c = '\r' then ['\\', 'r']
  else if c = '\t' then ['\\', 't']
  else if isPrintable c then [c]
  else if c.toNat < 0x100 then '\\' :: 'x' :: hexadecimal 2 c.toNat
  else if c.toNat < 0x10000 then '\\' :: 'u' :: hexadecimal 4 c.toNat
  else '\\' :: 'U' :: hexadecimal 8 c.toNat

def quoteMark (chars : List Char) : Char :=
  if chars.contains '\'' && !chars.contains '"' then '"' else '\''

def quoted (text : String) : String :=
  let mark := quoteMark text.toList
  String.ofList (mark :: text.toList.flatMap (escape mark) ++ [mark])

end Rulebook.Text
