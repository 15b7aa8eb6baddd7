import Rulebook.Pattern

/-! Tokens of the text of a pattern. A backslash takes the special meaning from signs and gives one
to letters and digits. -/
namespace Rulebook.Pattern

inductive Glyph
  | plain (c : Char)
  | escaped (c : Char)
  | code (value : Nat)
  /-- A backslash with no code where one belongs. -/
  | broken
  | unfinished
  deriving DecidableEq, Repr

def codeWidth? (c : Char) : Option Nat := [('x', 2), ('u', 4), ('U', 8)].lookup c

def code? (digits : List Char) : Option Nat := do
  let value ← digits.foldlM (fun value c => (Text.hexDigit? c).map (16 * value + ·)) 0
  if value < 0x110000 then some value else none

def glyphs (chars : List Char) : List Glyph :=
  match chars with
  | [] => []
  | ['\\'] => [.unfinished]
  | '\\' :: c :: rest =>
    match codeWidth? c with
    | some width =>
      match if rest.length < width then none else code? (rest.take width) with
      | some code => .code code :: glyphs (rest.drop width)
      | none => .broken :: glyphs rest
    | none => .escaped c :: glyphs rest
  | c :: rest => .plain c :: glyphs rest
  termination_by chars.length
  decreasing_by all_goals simp only [List.length_cons, List.length_drop]; omega

inductive Reference
  | index (value : Nat)
  | name (value : String)
  deriving DecidableEq, Repr

inductive Opening
  | capture (name : Option String)
  /-- A part in which switches are on or off. -/
  | scoped (on off : List Char)
  | ahead (negated : Bool)
  | behind (negated : Bool)
  | atomic
  | given (condition : Reference)
  deriving DecidableEq, Repr

inductive Token
  | one (negated : Bool) (members : List Member)
  | any
  | lineStart
  | lineEnd
  | start
  | finish
  | boundary (negated : Bool)
  | repetition (least : Nat) (most : Option Nat) (mode : Mode)
  | reference (group : Reference)
  | opening (kind : Opening)
  | bar
  | closing
  /-- Switches for the pattern as a whole. -/
  | switches (on : List Char)
  | aside
  /-- What is no token. Nothing is read after it. -/
  | broken
  deriving DecidableEq, Repr

def Member.ofCode (code : Nat) : Member := .range code code

def Token.ofCode (code : Nat) : Token := .one false [.ofCode code]

def control? (c : Char) : Option Nat :=
  [('a', 7), ('t', 9), ('n', 10), ('v', 11), ('f', 12), ('r', 13), ('\\', 0x5c)].lookup c

def class? (c : Char) : Option Member :=
  [('d', .ofClass .digit false), ('D', .ofClass .digit true), ('s', .ofClass .blank false),
    ('S', .ofClass .blank true), ('w', .ofClass .word false), ('W', .ofClass .word true)].lookup c

def octalDigit? : Glyph → Option Nat
  | .plain c => if '0' ≤ c && c ≤ '7' then some (c.toNat - '0'.toNat) else none
  | _ => none

def octals (glyphs : List Glyph) : List Nat :=
  ((glyphs.take 2).map octalDigit?).takeWhile Option.isSome |>.filterMap id

/-- A character by a digit and up to two more, all octal; the code has one byte. -/
def octalCode? (digit : Nat) (glyphs : List Glyph) : Option (Nat × List Glyph) :=
  let more := octals glyphs
  let code := more.foldl (8 * · + ·) digit
  if code ≤ 0xff then some (code, glyphs.drop more.length) else none

def atom? : List Glyph → Option (Member × List Glyph)
  | [] | .broken :: _ | .unfinished :: _ => none
  | .plain c :: rest => some (.ofCode c.toNat, rest)
  | .code value :: rest => some (.ofCode value, rest)
  | .escaped c :: rest =>
    match class? c, if c = 'b' then some 8 else control? c with
    | some member, _ => some (member, rest)
    | _, some code => some (.ofCode code, rest)
    | _, _ =>
      match octalDigit? (.plain c) with
      | some digit => (octalCode? digit rest).map fun (code, rest) => (.ofCode code, rest)
      | none => if c.isAlphanum then none else some (.ofCode c.toNat, rest)

theorem atom?_length {glyphs rest : List Glyph} {member : Member}
    (read : atom? glyphs = some (member, rest)) : rest.length < glyphs.length := by
  unfold atom? at read
  split at read
  · cases read
  · cases read
  · cases read
  · cases read
    exact Nat.lt_succ_self _
  · cases read
    exact Nat.lt_succ_self _
  · split at read
    · cases read
      exact Nat.lt_succ_self _
    · cases read
      exact Nat.lt_succ_self _
    · split at read
      · simp only [octalCode?, Option.map_eq_some_iff, Prod.exists, Prod.mk.injEq] at read
        obtain ⟨code, last, found, _, rfl⟩ := read
        split at found
        · cases found
          simp only [List.length_drop, List.length_cons]
          omega
        · cases found
      · split at read
        · cases read
        · cases read
          exact Nat.lt_succ_self _

/-- The members of a set up to the bracket that closes it, which may not come first. A hyphen
between two characters makes a range. -/
def members? (listed : List Member) (glyphs : List Glyph) : Option (List Member × List Glyph) :=
  if !listed.isEmpty && glyphs.head? = some (.plain ']') then some (listed, glyphs.drop 1)
  else
    match _first : atom? glyphs with
    | none => none
    | some (first, .plain '-' :: .plain ']' :: rest) =>
      some (listed ++ [first, .ofCode '-'.toNat], rest)
    | some (first, .plain '-' :: rest) =>
      match first, _last : atom? rest with
      | .range low _, some (.range high _, rest) =>
        if low ≤ high then members? (listed ++ [.range low high]) rest else none
      | _, _ => none
    | some (first, rest) => members? (listed ++ [first]) rest
  termination_by glyphs.length
  decreasing_by
    · have := atom?_length _first
      have := atom?_length _last
      simp only [List.length_cons] at *
      omega
    · exact atom?_length _first

def plainWhile (test : Char → Bool) : List Glyph → List Char × List Glyph
  | .plain c :: rest =>
    if test c then
      let (chars, rest) := plainWhile test rest
      (c :: chars, rest)
    else ([], .plain c :: rest)
  | rest => ([], rest)

def isName : List Char → Bool
  | [] => false
  | c :: rest => (c :: rest).all Text.isWord && (Text.digitValue? c).isNone

def upTo? (sign : Char) (glyphs : List Glyph) : Option (List Char × List Glyph) :=
  match plainWhile (· ≠ sign) glyphs with
  | (chars, .plain _ :: rest) => some (chars, rest)
  | _ => none

def name? (sign : Char) (glyphs : List Glyph) : Option (String × List Glyph) := do
  let (chars, rest) ← upTo? sign glyphs
  if isName chars then some (.ofList chars, rest) else none

def mode : List Glyph → Mode × List Glyph
  | .plain '?' :: rest => (.lazy, rest)
  | .plain '+' :: rest => (.possessive, rest)
  | rest => (.greedy, rest)

def repetition (least : Nat) (most : Option Nat) (glyphs : List Glyph) : Token × List Glyph :=
  let (mode, rest) := mode glyphs
  (.repetition least most mode, rest)

/-- Bounds on the number of rounds, after the brace that opens them. A brace that opens none stands
for itself. -/
def bounds (glyphs : List Glyph) : Token × List Glyph :=
  let itself := (.ofCode 0x7b, glyphs)
  let (least, rest) := plainWhile Char.isDigit glyphs
  let (most, rest, isPair) := match rest with
    | .plain ',' :: rest =>
      let (most, rest) := plainWhile Char.isDigit rest
      (most, rest, true)
    | rest => (least, rest, false)
  match rest with
  | .plain '\x7d' :: rest =>
    if least.isEmpty && !isPair then itself
    else
      let low := Nat.ofDigitChars 10 least 0
      let high := if most.isEmpty then none else some (Nat.ofDigitChars 10 most 0)
      repetition low high rest
  | _ => itself

def set? (glyphs : List Glyph) : Option (Token × List Glyph) :=
  match glyphs with
  | .plain '^' :: rest => (members? [] rest).map fun (members, rest) => (.one true members, rest)
  | rest => (members? [] rest).map fun (members, rest) => (.one false members, rest)

/-- A backslash and a digit other than zero: three octal digits are a code, one or two a group. -/
def number? (c : Char) (glyphs : List Glyph) : Option (Token × List Glyph) :=
  match octalDigit? (.plain c), octals glyphs with
  | some digit, [_, _] => (octalCode? digit glyphs).map fun (code, rest) => (.ofCode code, rest)
  | _, _ =>
    match glyphs with
    | .plain d :: rest =>
      if d.isDigit then some (.reference (.index (Nat.ofDigitChars 10 [c, d] 0)), rest)
      else some (.reference (.index (c.toNat - '0'.toNat)), glyphs)
    | _ => some (.reference (.index (c.toNat - '0'.toNat)), glyphs)

def escape? (c : Char) (glyphs : List Glyph) : Option (Token × List Glyph) :=
  match class? c, control? c with
  | some member, _ => some (.one false [member], glyphs)
  | _, some code => some (.ofCode code, glyphs)
  | _, _ =>
    if c = 'A' then some (.start, glyphs)
    else if c = 'Z' then some (.finish, glyphs)
    else if c = 'b' then some (.boundary false, glyphs)
    else if c = 'B' then some (.boundary true, glyphs)
    else if c = '0' then (octalCode? 0 glyphs).map fun (code, rest) => (.ofCode code, rest)
    else if c.isDigit then number? c glyphs
    else if c.isAlpha then none
    else some (.ofCode c.toNat, glyphs)

def isSwitch (c : Char) : Bool := ['a', 'i', 'm', 's', 'u', 'x'].contains c

/-- Switches after a question mark: for the whole pattern, or for the part up to the closing
parenthesis. The two for the alphabet exclude each other and cannot be turned off. -/
def switches? (glyphs : List Glyph) : Option (Token × List Glyph) :=
  let (on, rest) := plainWhile isSwitch glyphs
  if on.contains 'a' && on.contains 'u' then none
  else
    match rest with
    | .plain ')' :: rest => if on.isEmpty then none else some (.switches on, rest)
    | .plain ':' :: rest => some (.opening (.scoped on []), rest)
    | .plain '-' :: rest =>
      match plainWhile ['i', 'm', 's', 'x'].contains rest with
      | (off, .plain ':' :: rest) =>
        if off.isEmpty || off.any on.contains then none else some (.opening (.scoped on off), rest)
      | _ => none
    | _ => none

def condition? (glyphs : List Glyph) : Option (Token × List Glyph) := do
  let (chars, rest) ← upTo? ')' glyphs
  if isName chars then some (.opening (.given (.name (.ofList chars))), rest)
  else if chars.isEmpty || !chars.all Char.isDigit then none
  else some (.opening (.given (.index (Nat.ofDigitChars 10 chars 0))), rest)

def extension? : List Glyph → Option (Token × List Glyph)
  | .plain 'P' :: .plain '<' :: rest =>
    (name? '>' rest).map fun (name, rest) => (.opening (.capture (some name)), rest)
  | .plain 'P' :: .plain '=' :: rest =>
    (name? ')' rest).map fun (name, rest) => (.reference (.name name), rest)
  | .plain '#' :: rest =>
    match rest.dropWhile (· ≠ .plain ')') with
    | [] => none
    | _ :: rest => some (.aside, rest)
  | .plain '=' :: rest => some (.opening (.ahead false), rest)
  | .plain '!' :: rest => some (.opening (.ahead true), rest)
  | .plain '<' :: .plain '=' :: rest => some (.opening (.behind false), rest)
  | .plain '<' :: .plain '!' :: rest => some (.opening (.behind true), rest)
  | .plain '>' :: rest => some (.opening .atomic, rest)
  | .plain '(' :: rest => condition? rest
  | rest => switches? rest

def Token.ofSign? (c : Char) (rest : List Glyph) : Option (Token × List Glyph) :=
  match c with
  | '.' => some (.any, rest)
  | '^' => some (.lineStart, rest)
  | '$' => some (.lineEnd, rest)
  | '|' => some (.bar, rest)
  | ')' => some (.closing, rest)
  | '*' => some (Pattern.repetition 0 none rest)
  | '+' => some (Pattern.repetition 1 none rest)
  | '?' => some (Pattern.repetition 0 (some 1) rest)
  | '\x7b' => some (bounds rest)
  | '[' => set? rest
  | '(' =>
    match rest with
    | .plain '?' :: rest => extension? rest
    | rest => some (.opening (.capture none), rest)
  | c => some (.ofCode c.toNat, rest)

def isLayoutBlank (c : Char) : Bool := c = ' ' || (0x09 ≤ c.toNat && c.toNat ≤ 0x0d)

/-- The first token and the glyphs after it. Where there is layout, blanks and what stands from a
hash to the end of its line mean nothing. -/
def Token.read? (layout : Bool) : List Glyph → Option (Token × List Glyph)
  | [] | .broken :: _ | .unfinished :: _ => none
  | .plain c :: rest =>
    if layout && isLayoutBlank c then some (.aside, rest)
    else if layout && c = '#' then
      some (.aside, rest.dropWhile fun glyph => glyph ≠ .plain '\n' && glyph ≠ .unfinished)
    else Token.ofSign? c rest
  | .code value :: rest => some (.ofCode value, rest)
  | .escaped c :: rest => escape? c rest

def Token.layouts (before : List Bool) : Token → List Bool
  | .switches on => (before.headD false || on.contains 'x') :: before.drop 1
  | .opening (.scoped on off) =>
    ((before.headD false || on.contains 'x') && !off.contains 'x') :: before
  | .opening _ => before.headD false :: before
  | .closing => before.drop 1
  | _ => before

/-- All tokens of a text. Every one takes at least one glyph. A backslash that ends the text spoils
the token before it. -/
def tokens (layouts : List Bool) (glyphs : List Glyph) : List Token :=
  if glyphs.isEmpty then []
  else
    match Token.read? (layouts.headD false) glyphs with
    | none => [.broken]
    | some (token, rest) =>
      if rest = [.unfinished] then [.broken]
      else if rest.length < glyphs.length then token :: tokens (token.layouts layouts) rest
      else [.broken]
  termination_by glyphs.length

end Rulebook.Pattern
