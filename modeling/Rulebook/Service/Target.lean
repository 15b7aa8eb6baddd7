/-! The path that a request target names. -/
namespace Rulebook.Target

def isSchemeChar (c : Char) : Bool := c.isAlphanum || c = '+' || c = '-' || c = '.'

def afterScheme (target : List Char) : List Char :=
  match target.takeWhile isSchemeChar, target.dropWhile isSchemeChar with
  | first :: _, ':' :: rest => if first.isAlpha then rest else target
  | _, _ => target

def afterHost : List Char → List Char
  | '/' :: '/' :: rest => rest.dropWhile fun c => !(c = '/' || c = '?' || c = '#')
  | target => target

/-- The part between the host and the query or fragment. Controls and spaces in front of a target do
not count, and line breaks and tabs nowhere in it. -/
def inner (target : List Char) : List Char :=
  let isBreak (c : Char) := c = '\t' || c = '\n' || c = '\r'
  let shown := (target.dropWhile (·.toNat ≤ 0x20)).filter (!isBreak ·)
  (afterHost (afterScheme shown)).takeWhile fun c => !(c = '?' || c = '#')

def percentDecode : List UInt8 → List UInt8
  | 0x25 :: high :: low :: rest =>
    match hex? high, hex? low with
    | some high, some low => UInt8.ofNat (16 * high + low) :: percentDecode rest
    | _, _ => 0x25 :: percentDecode (high :: low :: rest)
  | byte :: rest => byte :: percentDecode rest
  | [] => []
where
  hex? (byte : UInt8) : Option Nat :=
    let code := byte.toNat
    if 0x30 ≤ code && code ≤ 0x39 then some (code - 0x30)
    else if 0x41 ≤ code && code ≤ 0x46 then some (code - 0x41 + 10)
    else if 0x61 ≤ code && code ≤ 0x66 then some (code - 0x61 + 10)
    else none

/-- The characters of bytes in UTF-8. Bytes that are no text keep only what is ASCII in them. -/
def characters (bytes : List UInt8) : List Char :=
  match String.fromUTF8? ⟨bytes.toArray⟩ with
  | some text => text.toList
  | none => bytes.map fun byte => if byte < 0x80 then Char.ofNat byte.toNat else '\ufffd'

/-- The path in a target, which is looked for twice, as the client and the server each take a target
apart. It starts with one slash, whatever stands there. -/
def path (target : String) : List Char :=
  let encoded := String.ofList (inner (inner target.toList))
  '/' :: (characters (percentDecode encoded.toUTF8.toList)).dropWhile (· = '/')

end Rulebook.Target
