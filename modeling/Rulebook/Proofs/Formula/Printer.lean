import Rulebook.Formula.Printer
import Rulebook.Proofs.Formula.Combination
import Rulebook.Proofs.Number.Numeral

/-! The symbols of written formulas. Sources are read piece by piece, so what a formula is written as
states the same tree over the literals that its literals are written as. -/
namespace Rulebook

/-- The text states the symbols, if there are some, whatever follows it apart. -/
def Spells (text : String) (spelled : Option (List Symbol)) : Prop :=
  ∀ rest, Separated rest → symbols? (text.toList ++ rest) =
    spelled.bind fun symbols => (symbols? rest).map (symbols ++ ·)

namespace Spells

theorem of_symbols {text : String} {symbols : List Symbol}
    (read : symbols? text.toList = some symbols) : Spells text (some symbols) :=
  fun _ apart => symbols?_append read apart

theorem symbols? {text : String} {spelled : Option (List Symbol)} (spells : Spells text spelled) :
    symbols? text.toList = spelled := by
  have read := spells [] separated_nil
  rw [List.append_nil] at read
  rw [read]
  cases spelled <;> simp

theorem append_space {first second : String} {a b : Option (List Symbol)} (front : Spells first a)
    (back : Spells second b) :
    Spells (first ++ " " ++ second) (a.bind fun before => b.map (before ++ ·)) := by
  intro rest apart
  rw [show (first ++ " " ++ second).toList ++ rest =
    first.toList ++ ' ' :: (second.toList ++ rest) by simp]
  rw [front _ (separated_space _), symbols?_space, back rest apart]
  cases a <;> cases b <;> simp [Function.comp_def]

theorem group {text : String} {spelled : Option (List Symbol)} (inner : Spells text spelled) :
    Spells ("(" ++ text ++ ")") (spelled.map group) := by
  intro rest apart
  rw [show ("(" ++ text ++ ")").toList ++ rest = '(' :: (text.toList ++ ')' :: rest) by simp]
  rw [symbols?_opening, inner _ (separated_closing rest), symbols?_closing]
  cases spelled <;> simp [Function.comp_def, Rulebook.group]

end Spells

namespace Tree

variable {α : Type} {leaf : α → String} {spell : α → Option (List Symbol)}

def enclosed (tree : Tree α) (symbols : List Symbol) : List Symbol :=
  match tree with
  | .leaf _ => symbols
  | .join .. => group symbols

def symbols? (spell : α → Option (List Symbol)) : Tree α → Option (List Symbol)
  | .leaf value => spell value
  | .join connective left right =>
    (left.symbols? spell).bind fun first => (right.symbols? spell).map fun second =>
      left.enclosed first ++ .connective connective :: right.enclosed second

theorem spells_operand {tree : Tree α} {symbols : Option (List Symbol)}
    (whole : Spells (tree.source leaf) symbols) :
    Spells (tree.operand leaf) (symbols.map tree.enclosed) := by
  cases tree with
  | leaf value =>
    rw [show symbols.map (enclosed (.leaf value)) = symbols by cases symbols <;> rfl]
    exact whole
  | join connective left right =>
    rw [show operand leaf (.join connective left right) =
      "(" ++ source leaf (.join connective left right) ++ ")" by
        simp [operand, source, String.append_assoc]]
    exact whole.group

theorem spells_source {tree : Tree α}
    (read : ∀ value ∈ tree.leaves, Spells (leaf value) (spell value)) :
    Spells (tree.source leaf) (tree.symbols? spell) := by
  induction tree with
  | leaf value => exact read value (List.mem_singleton_self value)
  | join connective left right first second =>
    obtain ⟨before, after⟩ := List.forall_mem_append.mp read
    have joined := ((spells_operand (first before)).append_space
      (.of_symbols (symbols?_connective connective))).append_space (spells_operand (second after))
    have same : source leaf (.join connective left right) =
        left.operand leaf ++ " " ++ connective.name ++ " " ++ right.operand leaf := rfl
    rw [same, symbols?]
    generalize left.symbols? spell = a at joined ⊢
    generalize right.symbols? spell = b at joined ⊢
    cases a <;> cases b <;> simpa using joined

def height : Tree α → Nat
  | .leaf _ => 0
  | .join _ left right => max left.height right.height + 1

end Tree

/-- The literal that the source of a literal is read as: a number without a point is whole. -/
def Literal.respelled : Literal → Literal
  | .float value =>
    if '.' ∈ value.plain then .float value else .integer (Numeral.toInt value.plain)
  | literal => literal

def Literal.isFinite : Literal → Bool
  | .float (.finite ..) => true
  | .float _ => false
  | _ => true

/-- The symbol of a written literal. Infinity is taken for a name, and no symbol has a minus before
a letter. -/
def Literal.symbol? (literal : Literal) : Option Symbol :=
  if literal.isFinite then some (.literal literal.respelled)
  else if literal = .float (.infinite true) then none
  else some (.name literal.source)

theorem Spells.single {text : String} {symbol : Symbol}
    (read : Stretch.ofChars text.toList = ⟨.ok symbol, text.toList, []⟩) (unended : symbol ≠ .finish) :
    Spells text (some [symbol]) :=
  .of_symbols (symbols?_single read unended)

theorem Stretch.text_quoted {mark : Char} {chars : List Char} (free : mark ∉ chars) :
    text mark (chars ++ [mark]) =
      ⟨.ok (.literal (.text (String.ofList chars))), mark :: (chars ++ [mark]), []⟩ :=
  text_closed free []

theorem spells_text {value : String} (written : (Literal.text value).Written) :
    Spells (Literal.text value).source (some [.literal (.text value)]) := by
  have quoted {mark : Char} (quote : mark = '\'' ∨ mark = '"') (free : mark ∉ value.toList) :
      Stretch.ofChars (mark :: (value.toList ++ [mark])) =
        ⟨.ok (.literal (.text value)), mark :: (value.toList ++ [mark]), []⟩ := by
    have read := Stretch.text_quoted free
    rw [String.ofList_toList] at read
    rcases quote with rfl | rfl <;> exact read
  refine .single ?_ nofun
  by_cases apostrophe : '\'' ∈ value.toList
  · have free := written.resolve_left (not_not_intro apostrophe)
    simpa [Literal.source, apostrophe] using quoted (.inr rfl) free
  · simpa [Literal.source, apostrophe] using quoted (.inl rfl) apostrophe

theorem spells_literal {literal : Literal} (written : literal.Written) :
    Spells literal.source (literal.symbol?.map ([·])) := by
  cases literal with
  | boolean value => cases value <;> exact .single rfl nofun
  | integer value =>
    refine .single ?_ nofun
    rw [Literal.source, String.toList_ofList]
    exact Stretch.ofChars_ofInt written
  | text value => exact spells_text written
  | float value =>
    cases value with
    | nan => exact absurd rfl written
    | finite negative ordinal =>
      refine .single ?_ nofun
      rw [Literal.source, String.toList_ofList]
      exact Binary64.ofChars_plain negative ordinal
    | infinite negative =>
      cases negative with
      | false => exact .single rfl nofun
      | true => exact fun rest _ => symbols?_of_fault rfl

namespace Comparison

def respelled (c : Comparison) : Comparison := { c with literal := c.literal.respelled }

def symbols? (c : Comparison) : Option (List Symbol) :=
  c.literal.symbol?.map fun symbol => [.name c.name, .relation c.relation, symbol]

theorem spells_source {c : Comparison} (written : c.Written) : Spells c.source c.symbols? := by
  have name : Spells c.name (some [.name c.name]) :=
    .single (Stretch.ofChars_name c.named written.plain) nofun
  have relation : Spells c.relation.sign (some [.relation c.relation]) :=
    .of_symbols (symbols?_relation c.relation)
  have joined := (name.append_space relation).append_space (spells_literal written.literal)
  rw [source, symbols?]
  generalize c.literal.symbol? = symbol at joined ⊢
  cases symbol <;> simpa using joined

theorem symbols?_of_finite {c : Comparison} (finite : c.literal.isFinite = true) :
    c.symbols? = some [.name c.respelled.name, .relation c.respelled.relation,
      .literal c.respelled.literal] := by
  simp [symbols?, Literal.symbol?, finite, respelled]

end Comparison

namespace Tree

variable {spell : Comparison → Option (List Symbol)} {f : Comparison → Comparison}

theorem derives_symbols? {tree : Formula}
    (leaves : ∀ c ∈ tree.leaves, spell c =
      some [.name (f c).name, .relation (f c).relation, .literal (f c).literal]) :
    ∃ symbols, tree.symbols? spell = some symbols ∧ Derives .expression symbols (tree.map f) ∧
      ∃ grouped, Derives (.factor grouped) (tree.enclosed symbols) (tree.map f) := by
  induction tree with
  | leaf c =>
    have derived : Derives (.factor false) _ (.leaf (f c)) := .comparison (f c)
    exact ⟨_, leaves c (List.mem_singleton_self c), .term (.factor derived), false, derived⟩
  | join connective left right first second =>
    obtain ⟨near, other⟩ := List.forall_mem_append.mp leaves
    obtain ⟨before, spelled, _, _, front⟩ := first near
    obtain ⟨after, written, _, _, back⟩ := second other
    have derived : Derives .expression
        (left.enclosed before ++ .connective connective :: right.enclosed after)
        ((Tree.join connective left right).map f) := by
      cases connective with
      | and => exact .term (.and (.factor front) back)
      | or => exact .or (.term (.factor front)) (.factor back)
    exact ⟨_, by simp [symbols?, spelled, written], derived, true, .group derived⟩

variable {α : Type} {write : α → Option (List Symbol)}

/-- Groups stand one in another as deep as the tree is below its top. -/
theorem nestingFrom_symbols? {tree : Tree α} {symbols : List Symbol}
    (flat : ∀ value ∈ tree.leaves, ∀ own, write value = some own → ∀ depth more,
      nestingFrom depth (own ++ more) = nestingFrom depth more)
    (spelled : tree.symbols? write = some symbols) (depth : Nat) (more : List Symbol) :
    nestingFrom depth (symbols ++ more) = max (depth + (tree.height - 1)) (nestingFrom depth more) ∧
      nestingFrom depth (tree.enclosed symbols ++ more) =
        max (depth + tree.height) (nestingFrom depth more) := by
  induction tree generalizing symbols depth more with
  | leaf value =>
    have own := flat value (List.mem_singleton_self value) symbols spelled depth more
    have least := le_nestingFrom depth more
    simp only [enclosed, height, own]
    omega
  | join connective left right first second =>
    simp only [symbols?, Option.bind_eq_some_iff, Option.map_eq_some_iff] at spelled
    obtain ⟨before, front, after, back, rfl⟩ := spelled
    have inner (depth : Nat) (more : List Symbol) :
        nestingFrom depth ((left.enclosed before ++
          .connective connective :: right.enclosed after) ++ more) =
        max (depth + (max left.height right.height)) (nestingFrom depth more) := by
      have outer := (first (fun value inside => flat value (List.mem_append_left _ inside)) front
        depth (.connective connective :: (right.enclosed after ++ more))).2
      have later := (second (fun value inside => flat value (List.mem_append_right _ inside)) back
        depth more).2
      have level : Symbol.depthAfter (.connective connective) depth = depth := rfl
      rw [List.append_assoc, List.cons_append, outer, nestingFrom, level, later]
      omega
    refine ⟨inner depth more, ?_⟩
    have grouped := inner (depth + 1) (.closing :: more)
    simp only [enclosed, group, height, List.cons_append, List.append_assoc, List.nil_append,
      nestingFrom, Symbol.depthAfter] at grouped ⊢
    rw [grouped]
    have least := le_nestingFrom depth more
    simp only [Nat.add_sub_cancel]
    omega

end Tree

section Solid

open Text (Solid solid_of_all solid_of_none)

theorem solid_signed {negative : Bool} {chars : List Char} (nonempty : chars ≠ [])
    (numeric : ∀ c ∈ chars, c.isDigit = true ∨ c = '.') : Solid (Stretch.signed negative chars) := by
  apply solid_of_all
  · cases negative with
    | false => exact nonempty
    | true => exact List.cons_ne_nil '-' chars
  · exact Text.isBlank_signed numeric

theorem solid_plain (value : Binary64) : Solid value.plain := by
  cases value with
  | nan => exact solid_of_none (by decide) (by decide)
  | infinite negative => cases negative <;> exact solid_of_none (by decide) (by decide)
  | finite negative ordinal =>
    obtain ⟨chars, plain, nonempty, numeric⟩ := Binary64.plain_chars negative ordinal
    rw [plain]
    exact solid_signed nonempty numeric

theorem Literal.solid_source (literal : Literal) : Solid literal.source.toList := by
  have quoted (mark : Char) (inner : List Char) (bare : Text.isBlank mark = false) :
      Solid (mark :: (inner ++ [mark])) := by
    have single : Solid [mark] := ⟨⟨mark, rfl, bare⟩, ⟨mark, rfl, bare⟩⟩
    exact single.append inner single
  cases literal with
  | boolean value => cases value <;> exact solid_of_none (by decide) (by decide)
  | integer value =>
    rw [source, String.toList_ofList, Numeral.ofInt_eq_signed]
    exact solid_signed Nat.toDigits_ne_nil fun c inside => .inl (isDigit_toDigits _ c inside)
  | float value =>
    rw [source, String.toList_ofList]
    exact solid_plain value
  | text value =>
    rw [source]
    split
    · simpa using quoted '"' value.toList rfl
    · simpa using quoted '\'' value.toList rfl

theorem Comparison.solid_source (c : Comparison) : Solid c.source.toList := by
  have name : Solid c.name.toList := by
    obtain ⟨first, rest, chars, _⟩ := name_cases c.named
    exact solid_of_all (by simp [chars]) fun d inside =>
      Text.isBlank_of_isNameChar (isNameChar_of_isName c.named d inside)
  have whole := name.append (' ' :: (c.relation.sign.toList ++ [' '])) c.literal.solid_source
  simpa [source] using whole

theorem Tree.solid_source {α : Type} {leaf : α → String} (solid : ∀ value, Solid (leaf value).toList)
    (tree : Tree α) : Solid (tree.source leaf).toList := by
  induction tree with
  | leaf value => exact solid value
  | join connective left right first second =>
    have operand {side : Tree α} (whole : Solid (side.source leaf).toList) :
        Solid (side.operand leaf).toList := by
      cases side with
      | leaf value => exact whole
      | join connective left right =>
        have opening : Solid ['('] := ⟨⟨'(', rfl, rfl⟩, ⟨'(', rfl, rfl⟩⟩
        have closing : Solid [')'] := ⟨⟨')', rfl, rfl⟩, ⟨')', rfl, rfl⟩⟩
        simpa [Tree.operand, Tree.source] using
          opening.append (Tree.source leaf (.join connective left right)).toList closing
    have joined := (operand first).append (' ' :: (connective.name.toList ++ [' '])) (operand second)
    simpa [Tree.source] using joined

theorem Formula.trim_source (formula : Formula) : Text.trim formula.source = formula.source := by
  rw [← String.toList_inj, Text.toList_trim]
  exact (Tree.solid_source Comparison.solid_source formula).trimChars

end Solid

end Rulebook
