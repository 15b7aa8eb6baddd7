import Rulebook.Json.Token

/-! The characters of JSON text that arrives as bytes. Where zeros stand among the first four bytes
tells the width of the code units and their order. -/
namespace Rulebook.Json

inductive Encoding
  | utf8
  | utf16 (bigEndian : Bool)
  | utf32 (bigEndian : Bool)
  deriving DecidableEq, Repr

namespace Encoding

def detect : List UInt8 → Encoding
  | 0 :: 0 :: _ :: _ :: _ => .utf32 true
  | 0 :: _ :: _ :: _ :: _ => .utf16 true
  | _ :: 0 :: 0 :: 0 :: _ => .utf32 false
  | _ :: 0 :: _ :: _ :: _ => .utf16 false
  | [0, _] => .utf16 true
  | [_, 0] => .utf16 false
  | _ => .utf8

def units16? (bigEndian : Bool) : List UInt8 → Option (List Nat)
  | [] => some []
  | a :: b :: rest =>
    let (high, low) := if bigEndian then (a, b) else (b, a)
    (units16? bigEndian rest).map ((high.toNat * 0x100 + low.toNat) :: ·)
  | _ => none

def units32? (bigEndian : Bool) : List UInt8 → Option (List Nat)
  | [] => some []
  | a :: b :: c :: d :: rest =>
    let (a, b, c, d) := if bigEndian then (a, b, c, d) else (d, c, b, a)
    let code := ((a.toNat * 0x100 + b.toNat) * 0x100 + c.toNat) * 0x100 + d.toNat
    if code < 0x110000 then (units32? bigEndian rest).map (code :: ·) else none
  | _ => none

end Encoding

/-- The characters of a text from its bytes in UTF-8, which may turn out to be another encoding. A
byte order mark is dropped only in UTF-8. -/
def decode (text : String) : Except Fault (List Char) :=
  let bytes := text.toUTF8.toList
  match Encoding.detect bytes with
  | .utf8 =>
    match text.toList with
    | '\ufeff' :: rest => .ok rest
    | chars => .ok chars
  | .utf16 bigEndian => ofUnits (Encoding.units16? bigEndian bytes)
  | .utf32 bigEndian => ofUnits (Encoding.units32? bigEndian bytes)
where
  ofUnits : Option (List Nat) → Except Fault (List Char)
    | none => .error .malformed
    | some units => (characters? units).elim (.error .halved) .ok

end Rulebook.Json
