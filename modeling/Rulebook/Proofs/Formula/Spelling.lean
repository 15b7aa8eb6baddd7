import Mathlib.Logic.Relation
import Rulebook.Proofs.Formula.Parser
import Rulebook.Proofs.Token.Cut

/-! Other texts for the same rule. Gaps, spellings and the AND between two groups can be changed
wherever they stand, and a text states what it stated before. -/
namespace Rulebook

def Connective.sign : Connective → List Char
  | .and => ['&', '&']
  | .or => ['|', '|']

/-- Texts for a symbol that has several. -/
inductive Spelling : Symbol → List Char → Prop
  | single : Spelling (.relation .equal) ['=']
  | double : Spelling (.relation .equal) ['=', '=']
  | sign (connective : Connective) : Spelling (.connective connective) connective.sign
  | word {connective : Connective} {chars : List Char} :
    chars.map Char.toUpper = connective.name.toList → Spelling (.connective connective) chars
  | quoted {mark : Char} {held : List Char} : mark = '\'' ∨ mark = '"' → '\'' ∉ held → '"' ∉ held →
    Spelling (.literal (.text (String.ofList held))) (mark :: (held ++ [mark]))

namespace Stretch

theorem ofChars_connective {connective : Connective} {chars : List Char}
    (spelled : chars.map Char.toUpper = connective.name.toList) :
    ofChars chars = ⟨.ok (.connective connective), chars, []⟩ := by
  have letters := isAlpha_connective spelled
  cases chars with
  | nil => cases connective <;> cases spelled
  | cons c rest =>
    have start : isNameStart c = true := by simp [isNameStart, letters c List.mem_cons_self]
    rw [ofChars_word start, wordSymbol_connective spelled]
    intro d inside
    apply isNameChar_of_isNameStart
    simp [isNameStart, letters d (List.mem_cons_of_mem c inside)]

theorem ofChars_quoted {mark : Char} {held : List Char} (quote : mark = '\'' ∨ mark = '"')
    (free : mark ∉ held) (rest : List Char) :
    ofChars (mark :: (held ++ [mark]) ++ rest) =
      ⟨.ok (.literal (.text (String.ofList held))), mark :: (held ++ [mark]), rest⟩ := by
  rw [List.cons_append, List.append_assoc, List.singleton_append]
  rcases quote with rfl | rfl <;> exact text_closed free rest

end Stretch

namespace Spelling

variable {symbol : Symbol} {chars rest : List Char}

theorem ne_finish (spelling : Spelling symbol chars) : symbol ≠ .finish := by
  cases spelling <;> nofun

theorem read (spelling : Spelling symbol chars) (apart : Separated rest) :
    Stretch.ofChars (chars ++ rest) = ⟨.ok symbol, chars, rest⟩ := by
  have alone : Stretch.ofChars (chars ++ []) = ⟨.ok symbol, chars, []⟩ := by
    rw [List.append_nil]
    cases spelling with
    | single | double => rfl
    | sign connective => cases connective <;> rfl
    | word spelled => exact Stretch.ofChars_connective spelled
    | @quoted mark held quote single double =>
      have free : mark ∉ held := by rcases quote with rfl | rfl <;> assumption
      simpa using Stretch.ofChars_quoted quote free []
  exact Stretch.ofChars_follow spelling.ne_finish alone (.inl apart)

end Spelling

/-- What is put between two texts has whitespace or an end of the text on either side. -/
def SetOff (before after : List Char) : Prop :=
  before.getLast?.all Stretch.isGap = true ∧ after.head?.all Stretch.isGap = true

instance (before after : List Char) : Decidable (SetOff before after) :=
  inferInstanceAs (Decidable (_ ∧ _))

namespace Cut

variable {before after gap : List Char} {symbols : List Symbol}

theorem symbols_nil (cut : Cut [] symbols after) : symbols = [] := by
  rcases cut.front with ⟨_, silent⟩ | ⟨c, rest, whole, _⟩ |
    ⟨lexeme, rest, symbol, more, whole, here, _⟩
  · exact silent
  · cases whole
  · exact absurd (List.append_eq_nil_iff.mp whole.symm).1 here

theorem loose (cut : Cut before symbols after)
    (spaced : before.getLast?.all Stretch.isGap = true) (other : List Char) :
    Cut before symbols other := by
  cases before using List.reverseRecOn with
  | nil =>
    rw [cut.symbols_nil]
    exact .start other
  | append_singleton before c _ =>
    have gap : Stretch.isGap c = true := by simpa using spaced
    exact .gap ((cut.last_blank (Text.isBlank_of_isGap gap)).2.follow (.inr rfl)) gap

theorem spaced (cut : Cut before symbols after) (gaps : ∀ c ∈ gap, Stretch.isGap c = true)
    {other : List Char} (apart : SetOff (before ++ gap) other) (text : List Char) :
    Cut (before ++ gap) symbols text := by
  apply Cut.gaps _ gaps
  cases gap with
  | nil =>
    rw [List.append_nil] at apart
    exact cut.loose apart.1 _
  | cons c gap => exact cut.follow (.inl (separated_gap (gaps c List.mem_cons_self) _))

end Cut

theorem SetOff.separated {before after : List Char} (apart : SetOff before after) :
    Separated after := by
  cases after with
  | nil => exact separated_nil
  | cons c after => exact separated_gap apart.2 after

/-- A change that keeps the symbols of a text, or puts or removes an AND between two groups. What is
put anew has whitespace on either side. -/
inductive Rewrite : List Char → List Char → Prop
  | gap {before after : List Char} {symbols : List Symbol} {c : Char} :
    Cut before symbols after → Stretch.isGap c = true →
    Rewrite (before ++ after) (before ++ c :: after)
  | respell {before old new left right after : List Char} {symbols : List Symbol} {symbol : Symbol} :
    Cut before symbols (old ++ after) →
    Stretch.ofChars (old ++ after) = ⟨.ok symbol, old, after⟩ →
    Spelling symbol old → Spelling symbol new → (∀ c ∈ left ++ right, Stretch.isGap c = true) →
    SetOff (before ++ left) (right ++ after) →
    Rewrite (before ++ (old ++ after)) (before ++ left ++ (new ++ (right ++ after)))
  | insert {before new left right gap rest : List Char} {symbols : List Symbol} :
    Cut before (symbols ++ [.closing]) (gap ++ '(' :: rest) →
    (∀ c ∈ gap, Stretch.isGap c = true) →
    Spelling (.connective .and) new → (∀ c ∈ left ++ right, Stretch.isGap c = true) →
    SetOff (before ++ left) (right ++ (gap ++ '(' :: rest)) →
    Rewrite (before ++ (gap ++ '(' :: rest))
      (before ++ left ++ (new ++ (right ++ (gap ++ '(' :: rest))))
  | remove {before old gap rest : List Char} {symbols : List Symbol} :
    Cut before (symbols ++ [.closing]) (old ++ (gap ++ '(' :: rest)) →
    Stretch.ofChars (old ++ (gap ++ '(' :: rest)) =
      ⟨.ok (.connective .and), old, gap ++ '(' :: rest⟩ →
    (∀ c ∈ gap, Stretch.isGap c = true) →
    Rewrite (before ++ (old ++ (gap ++ '(' :: rest))) (before ++ (gap ++ '(' :: rest))

/-- Symbols that state the same rule, if they state one. -/
structure SameRule (symbols others : List Symbol) : Prop where
  nesting : nesting symbols = nesting others
  derives : ∀ tree, Derives .expression symbols tree ↔ Derives .expression others tree

theorem SameRule.refl (symbols : List Symbol) : SameRule symbols symbols := ⟨rfl, fun _ => .rfl⟩

theorem SameRule.symm {symbols others : List Symbol} (same : SameRule symbols others) :
    SameRule others symbols := ⟨same.nesting.symm, fun tree => (same.derives tree).symm⟩

theorem SameRule.trans {symbols others last : List Symbol} (first : SameRule symbols others)
    (second : SameRule others last) : SameRule symbols last :=
  ⟨first.nesting.trans second.nesting, fun tree => (first.derives tree).trans (second.derives tree)⟩

theorem nestingFrom_connective (depth : Nat) (front back : List Symbol) (connective : Connective) :
    nestingFrom depth (front ++ .connective connective :: back) =
      nestingFrom depth (front ++ back) := by
  induction front generalizing depth with
  | nil => exact Nat.max_eq_right (le_nestingFrom depth back)
  | cons symbol front ih => simp only [List.cons_append, nestingFrom, ih]

theorem Parser.feed_implied (previous : Option Token.Kind) (state : State) (back : List Token) :
    feed none previous state (⟨.closing, 0⟩ :: ⟨.opening, 0⟩ :: back) =
      feed none previous state (⟨.closing, 0⟩ :: ⟨.connective .and, 0⟩ :: ⟨.opening, 0⟩ :: back) := by
  rw [feed, feed]
  cases stepped : state.step none (previous = some .closing && Token.kind ⟨.closing, 0⟩ = .opening)
      ⟨.closing, 0⟩ with
  | error error => rfl
  | ok next =>
    have step := step_cases stepped implicit_opening
    dsimp only at step ⊢
    cases step with
    | closing term inner frame outer => exact feed_adjacent _ _ _ _ _

theorem sameRule_implied (front back : List Symbol) :
    SameRule (front ++ [.closing] ++ .opening :: back)
      (front ++ [.closing] ++ .connective .and :: .opening :: back) := by
  refine ⟨(nestingFrom_connective 0 _ _ .and).symm, fun tree => ?_⟩
  simp only [Parser.derives_iff_feed, List.append_assoc, List.singleton_append, List.map_append,
    List.map_cons, Parser.feed_append, Parser.feed_implied]

theorem symbols?_gaps {gap : List Char} (gaps : ∀ c ∈ gap, Stretch.isGap c = true)
    (rest : List Char) : symbols? (gap ++ rest) = symbols? rest := by
  simpa using ((Cut.start (gap ++ rest)).gaps gaps).symbols?

theorem symbols?_group_behind {gap : List Char} (gaps : ∀ c ∈ gap, Stretch.isGap c = true)
    (rest : List Char) :
    symbols? (gap ++ '(' :: rest) = (symbols? rest).map (.opening :: ·) := by
  rw [symbols?_gaps gaps, symbols?_opening]

theorem separated_group {gap : List Char} (gaps : ∀ c ∈ gap, Stretch.isGap c = true)
    (rest : List Char) : Separated (gap ++ '(' :: rest) := by
  cases gap with
  | nil =>
    rintro c ⟨⟩
    decide
  | cons c gap => exact separated_gap (gaps c List.mem_cons_self) _

section Rewrites

variable {before after old new left right gap rest : List Char} {symbols : List Symbol}
variable {symbol : Symbol}

theorem symbols?_put (cut : Cut before symbols old) (spelling : Spelling symbol new)
    (gaps : ∀ c ∈ left ++ right, Stretch.isGap c = true)
    (apart : SetOff (before ++ left) (right ++ after)) :
    symbols? (before ++ left ++ (new ++ (right ++ after))) =
      (symbols? after).map fun back => symbols ++ symbol :: back := by
  have front := cut.spaced (fun c inside => gaps c (List.mem_append_left right inside)) apart
    (new ++ (right ++ after))
  rw [front.symbols?, symbols?_stretch (spelling.read apart.separated) spelling.ne_finish,
    symbols?_gaps fun c inside => gaps c (List.mem_append_right left inside), Option.map_map]
  rfl

theorem symbols?_token (cut : Cut before symbols (old ++ after))
    (read : Stretch.ofChars (old ++ after) = ⟨.ok symbol, old, after⟩) (unended : symbol ≠ .finish) :
    symbols? (before ++ (old ++ after)) =
      (symbols? after).map fun back => symbols ++ symbol :: back := by
  rw [cut.symbols?, symbols?_stretch read unended, Option.map_map]
  rfl

theorem Rewrite.sameRule (rewrite : Rewrite old new) (read : symbols? old = some symbols) :
    ∃ others, symbols? new = some others ∧ SameRule symbols others := by
  cases rewrite with
  | @gap before after front c cut gap =>
    have moved := cut.follow (.inl (separated_gap gap after))
    refine ⟨symbols, ?_, .refl symbols⟩
    rw [← read, cut.symbols?, moved.symbols?, symbols?_gap gap]
  | @respell before old new left right after front symbol cut here _ own gaps apart =>
    refine ⟨symbols, ?_, .refl symbols⟩
    rw [← read, symbols?_put cut own gaps apart, symbols?_token cut here own.ne_finish]
  | @insert before new left right gap rest front cut gaps own other apart =>
    rw [cut.symbols?, symbols?_group_behind gaps, Option.map_map] at read
    obtain ⟨back, found, rfl⟩ := Option.map_eq_some_iff.mp read
    refine ⟨_, ?_, sameRule_implied front back⟩
    rw [symbols?_put cut own other apart, symbols?_group_behind gaps, found]
    simp
  | @remove before old gap rest front cut here gaps =>
    rw [symbols?_token cut here nofun, symbols?_group_behind gaps, Option.map_map] at read
    obtain ⟨back, found, rfl⟩ := Option.map_eq_some_iff.mp read
    have moved := cut.follow (.inl (separated_group gaps rest))
    refine ⟨_, ?_, (sameRule_implied front back).symm⟩
    rw [moved.symbols?, symbols?_group_behind gaps, found]
    simp

theorem sameRule_of_rewrites (rewrites : Relation.ReflTransGen Rewrite old new)
    (read : symbols? old = some symbols) :
    ∃ others, symbols? new = some others ∧ SameRule symbols others := by
  induction rewrites with
  | refl => exact ⟨symbols, read, .refl symbols⟩
  | tail rewrites rewrite ih =>
    obtain ⟨between, found, first⟩ := ih
    obtain ⟨others, last, second⟩ := rewrite.sameRule found
    exact ⟨others, last, first.trans second⟩

end Rewrites

/-- One text comes from the other by any number of rewrites, whatever blanks stand around it. -/
def Rewritten (text other : String) : Prop :=
  ∃ lead chars trail : List Char, (∀ c ∈ lead ++ trail, Text.isBlank c = true) ∧
    other.toList = lead ++ chars ++ trail ∧
    Relation.ReflTransGen Rewrite (Text.trim text).toList chars

theorem Rewritten.sameRule {text other : String} {symbols : List Symbol}
    (rewritten : Rewritten text other) (read : symbols? (Text.trim text).toList = some symbols) :
    ∃ others, symbols? (Text.trim other).toList = some others ∧ SameRule symbols others := by
  obtain ⟨lead, chars, trail, blank, whole, rewrites⟩ := rewritten
  obtain ⟨others, found, same⟩ := sameRule_of_rewrites rewrites read
  refine ⟨others, ?_, same⟩
  rw [Text.toList_trim, whole, Text.trimChars_pad fun c inside =>
    blank c (List.mem_append_left _ inside)]
  · exact symbols?_trimChars found
  · exact fun c inside => blank c (List.mem_append_right _ inside)

theorem parse_of_sameRule {text other : String} {symbols others : List Symbol} {tree : Formula}
    (read : symbols? (Text.trim text).toList = some symbols)
    (found : symbols? (Text.trim other).toList = some others) (same : SameRule symbols others)
    (parsed : Formula.parse text = .ok tree) : Formula.parse other = .ok tree := by
  obtain ⟨found, again, within, derived⟩ := Parser.parseWithin_eq_ok_iff.mp parsed
  cases read.symm.trans again
  refine Parser.parseWithin_eq_ok_iff.mpr ⟨others, found, ?_, (same.derives tree).mp derived⟩
  rw [← same.nesting]
  exact within

/-- A rewritten text states the same formula, or none if the text stated none though it could be read
through. What stands in quotes is read as it stands, and as no cut falls within the quotes no rewrite
does. -/
theorem rewriting_keeps_formula (text other : String) (rewritten : Rewritten text other) :
    (∀ tree, Formula.parse text = .ok tree → Formula.parse other = .ok tree) ∧
    ((tokenize (Text.trim text)).2 = none → ∀ error, Formula.parse text = .error error →
      ∃ fault position, Formula.parse other = .error (.malformed fault position)) ∧
    ∀ before held after symbols mark, mark = '\'' ∨ mark = '"' → mark ∉ held →
      let quoted := mark :: (held ++ [mark])
      Cut before symbols (quoted ++ after) →
      Cut (before ++ quoted) (symbols ++ [.literal (.text (String.ofList held))]) after ∧
      ∀ front others back, Cut front others back → before ++ (quoted ++ after) = front ++ back →
        front.length ≤ before.length ∨ (before ++ quoted).length ≤ front.length := by
  refine ⟨?_, ?_, ?_⟩
  · intro tree parsed
    obtain ⟨symbols, read, _⟩ := Parser.parseWithin_eq_ok_iff.mp parsed
    obtain ⟨others, found, same⟩ := rewritten.sameRule read
    exact parse_of_sameRule read found same parsed
  · intro through error failed
    obtain ⟨symbols, read⟩ := symbols?_of_tokenize through
    obtain ⟨others, found, same⟩ := rewritten.sameRule read
    cases parsed : Formula.parse other with
    | ok tree =>
      have stated := parse_of_sameRule found read same.symm parsed
      cases failed.symm.trans stated
    | error fault =>
      obtain ⟨cause, position, rfl⟩ := Parser.parseWithin_malformed found parsed
      exact ⟨cause, position, rfl⟩
  · intro before held after symbols mark quote free quoted cut
    have read := Stretch.ofChars_quoted quote free after
    exact ⟨.token cut read nofun, fun front others back later whole => cut.outside later read whole⟩

/-- A sign is doubled, an AND is put between two groups and the quotes of a text are switched. -/
theorem rewriting_keeps_formula_groups :
    let text := " (a = 1)(b = 'x y')"
    let other := "(a == 1) aNd (b = \"x y\" )\n"
    let tree : Formula := .join .and (.leaf ⟨"a", .equal, .integer 1, rfl⟩)
      (.leaf ⟨"b", .equal, .text "x y", rfl⟩)
    Rewritten text other ∧ Formula.parse text = .ok tree ∧ Formula.parse other = .ok tree := by
  intro text other tree
  have first : Rewrite "(a = 1)(b = 'x y')".toList "(a == 1)(b = 'x y')".toList := by
    have cut : Cut "(a ".toList [.opening, .name "a"] ("=".toList ++ " 1)(b = 'x y')".toList) :=
      (cut_of_symbols? (by decide +kernel)).loose (by decide +kernel) _
    exact @Rewrite.respell _ _ _ [] [] _ _ _ cut rfl .single .double nofun (by decide +kernel)
  have second : Rewrite "(a == 1)(b = 'x y')".toList "(a == 1) aNd (b = 'x y')".toList := by
    have read : symbols? "(a == 1)".toList =
        some ([.opening, .name "a", .relation .equal, .literal (.integer 1)] ++ [.closing]) := by
      decide +kernel
    have cut := (cut_of_symbols? read).follow (.inl (@separated_group [] nofun "b = 'x y')".toList))
    exact @Rewrite.insert _ "aNd".toList [' '] [' '] [] "b = 'x y')".toList _ cut nofun (.word rfl)
      (List.all_eq_true.mp rfl) (by decide +kernel)
  have third : Rewrite "(a == 1) aNd (b = 'x y')".toList "(a == 1) aNd (b = \"x y\" )".toList := by
    have read : symbols? "(a == 1) aNd (b = ".toList = some [.opening, .name "a", .relation .equal,
        .literal (.integer 1), .closing, .connective .and, .opening, .name "b", .relation .equal] := by
      decide +kernel
    have cut := (cut_of_symbols? read).loose (by decide +kernel) ("'x y'".toList ++ ")".toList)
    have held (mark : Char) (quote : mark = '\'' ∨ mark = '"') :
        Spelling (.literal (.text "x y")) (mark :: ("x y".toList ++ [mark])) :=
      .quoted quote (by decide +kernel) (by decide +kernel)
    exact @Rewrite.respell _ _ _ [] [' '] _ _ _ cut rfl (held _ (.inl rfl)) (held _ (.inr rfl))
      (List.all_eq_true.mp rfl) (by decide +kernel)
  have parsed : Formula.parse text = .ok tree := by decide +kernel
  have rewritten : Rewritten text other := by
    refine ⟨[], "(a == 1) aNd (b = \"x y\" )".toList, ['\n'], List.all_eq_true.mp rfl,
      by decide +kernel, ?_⟩
    have trimmed : (Text.trim text).toList = "(a = 1)(b = 'x y')".toList := by decide +kernel
    rw [trimmed]
    exact ((Relation.ReflTransGen.single first).tail second).tail third
  exact ⟨rewritten, parsed, (rewriting_keeps_formula text other rewritten).1 tree parsed⟩

end Rulebook
