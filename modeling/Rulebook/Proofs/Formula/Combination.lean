import Mathlib.Data.List.Forall2
import Rulebook.Formula.Combination
import Rulebook.Proofs.Formula.Parser
import Rulebook.Proofs.Text.Blank

/-! Texts joined in parentheses state the formulas that they state alone, joined from the left. So
the text of a combination is parsed as its formula unless its groups are too deep. -/
namespace Rulebook

def group (symbols : List Symbol) : List Symbol := .opening :: (symbols ++ [.closing])

def chained (connective : Connective) (groups : List (List Symbol)) : List Symbol :=
  groups.flatMap fun symbols => .connective connective :: group symbols

theorem symbols?_group {chars : List Char} {symbols : List Symbol}
    (read : symbols? chars = some symbols) (rest : List Char) :
    symbols? ('(' :: chars ++ ')' :: rest) = (symbols? rest).map (group symbols ++ ·) := by
  rw [List.cons_append, symbols?_opening, symbols?_append read (separated_closing rest),
    symbols?_closing, Option.map_map, Option.map_map]
  congr 1
  funext others
  simp [group]

section Chains

variable {connective : Connective} {groups : List (List Symbol)} {trees : List Formula}
variable {symbols : List Symbol} {tree : Formula}

theorem derives_chained_and {grouped : Bool}
    (rest : List.Forall₂ (Derives .expression) groups trees)
    (first : Derives (.term grouped) symbols tree) :
    ∃ grouped, Derives (.term grouped) (symbols ++ chained .and groups)
      (Tree.joinAll .and tree trees) := by
  induction rest generalizing grouped symbols tree with
  | nil => exact ⟨grouped, by simpa [chained, Tree.joinAll] using first⟩
  | cons next rest ih =>
    obtain ⟨last, derived⟩ := ih (.and first (.group next))
    exact ⟨last, by simpa [chained, group, Tree.joinAll] using derived⟩

theorem derives_chained_or (rest : List.Forall₂ (Derives .expression) groups trees)
    (first : Derives .expression symbols tree) :
    Derives .expression (symbols ++ chained .or groups) (Tree.joinAll .or tree trees) := by
  induction rest generalizing symbols tree with
  | nil => simpa [chained, Tree.joinAll] using first
  | cons next rest ih =>
    have derived := ih (.or first (.factor (.group next)))
    simpa [chained, group, Tree.joinAll] using derived

theorem derives_joinAll (rest : List.Forall₂ (Derives .expression) groups trees)
    (first : Derives .expression symbols tree) :
    Derives .expression (group symbols ++ chained connective groups)
      (Tree.joinAll connective tree trees) := by
  have head : Derives (.term true) (group symbols) tree := .factor (.group first)
  cases connective with
  | and =>
    obtain ⟨_, derived⟩ := derives_chained_and rest head
    exact .term derived
  | or => exact derives_chained_or rest (.term head)

end Chains

/-- The text states the formula, however deep its groups are. -/
def States (text : String) (tree : Formula) : Prop := Parser.parseWithin none text = .ok tree

theorem states_iff {text : String} {tree : Formula} :
    States text tree ↔ ∃ symbols, symbols? text.toList = some symbols ∧
      Derives .expression symbols tree := by
  simp [States, Parser.parseWithin_eq_ok_iff]

theorem states_of_parse {text : String} {formula : Formula}
    (parsed : Formula.parse text = .ok formula) : States (Text.trim text) formula := by
  obtain ⟨symbols, read, _, derived⟩ := Parser.parseWithin_eq_ok_iff.mp parsed
  exact states_iff.mpr ⟨symbols, read, derived⟩

theorem parse_of_states {text : String} {formula : Formula} (trimmed : Text.trim text = text)
    (stated : States text formula) :
    Formula.parse text = .ok formula ∨
      Formula.parse text = .error (.malformed .tooDeep none) ∧
        ∃ symbols, symbols? text.toList = some symbols ∧ Parser.nestingLimit < nesting symbols := by
  obtain ⟨symbols, read, derived⟩ := states_iff.mp stated
  rw [Formula.parse, trimmed]
  by_cases within : nesting symbols ≤ Parser.nestingLimit
  · refine .inl (Parser.parseWithin_eq_ok_iff.mpr ⟨symbols, read, ?_, derived⟩)
    rintro most ⟨⟩
    exact within
  · have beyond := Nat.lt_of_not_le within
    exact .inr ⟨Parser.parseWithin_beyond read derived beyond, symbols, read, beyond⟩

theorem parse_iff_shallow {text : String} {formula : Formula} (trimmed : Text.trim text = text)
    (stated : States text formula) : Formula.parse text = .ok formula ↔ Shallow text := by
  constructor
  · intro parsed symbols read
    rw [Formula.parse, trimmed] at parsed
    obtain ⟨others, again, within, _⟩ := Parser.parseWithin_eq_ok_iff.mp parsed
    cases read.symm.trans again
    exact within _ rfl
  · intro shallow
    refine (parse_of_states trimmed stated).resolve_right ?_
    rintro ⟨_, symbols, read, beyond⟩
    exact absurd (shallow symbols read) (Nat.not_le_of_lt beyond)

theorem symbols?_joinTexts (connective : Connective) {text : String} {texts : List String}
    {symbols : List Symbol} {trees : List Formula}
    (first : symbols? (Text.trim text).toList = some symbols)
    (rest : List.Forall₂ (fun text tree => States (Text.trim text) tree) texts trees) :
    ∃ groups, List.Forall₂ (Derives .expression) groups trees ∧
      symbols? (joinTexts connective (text :: texts)).toList =
        some (group symbols ++ chained connective groups) := by
  induction rest generalizing text symbols with
  | nil =>
    refine ⟨[], .nil, ?_⟩
    simpa [joinTexts, chained] using symbols?_group first []
  | @cons next tree texts trees stated rest ih =>
    obtain ⟨inside, read, derived⟩ := states_iff.mp stated
    obtain ⟨groups, others, joined⟩ := ih read
    refine ⟨inside :: groups, .cons derived others, ?_⟩
    have after : symbols? (' ' :: (connective.name.toList ++
        ' ' :: (joinTexts connective (next :: texts)).toList)) =
          some (.connective connective :: (group inside ++ chained connective groups)) := by
      rw [symbols?_space, symbols?_append (symbols?_connective connective) (separated_space _),
        symbols?_space, joined]
      rfl
    have front := symbols?_group first (' ' :: (connective.name.toList ++
        ' ' :: (joinTexts connective (next :: texts)).toList))
    rw [after] at front
    simpa [joinTexts, chained] using front

theorem trim_joinTexts (connective : Connective) (text : String) (texts : List String) :
    Text.trim (joinTexts connective (text :: texts)) = joinTexts connective (text :: texts) := by
  have ends : ∃ inner, (joinTexts connective (text :: texts)).toList = '(' :: inner ++ [')'] := by
    induction texts generalizing text with
    | nil => exact ⟨(Text.trim text).toList, by simp [joinTexts]⟩
    | cons next texts ih =>
      obtain ⟨inner, equal⟩ := ih next
      refine ⟨(Text.trim text).toList ++ ") ".toList ++ connective.name.toList ++ " ".toList ++
        '(' :: inner, ?_⟩
      simp [joinTexts, equal]
  obtain ⟨inner, equal⟩ := ends
  have front : Text.Solid ['('] := Text.solid_of_none (by decide) (by decide)
  have back : Text.Solid [')'] := Text.solid_of_none (by decide) (by decide)
  rw [← String.toList_inj, Text.toList_trim, equal]
  exact (front.append inner back).trimChars

/-- Rules that their texts state are combined into one that its text states. -/
theorem combine_states {roots : List Formula} {texts : List String} {tree : Formula} {text : String}
    (stated : List.Forall₂ (fun text tree => States (Text.trim text) tree) texts roots)
    (combined : combine roots texts = .ok (tree, text)) :
    Text.trim text = text ∧ States text tree := by
  cases stated with
  | nil => cases combined
  | @cons first root texts roots head rest =>
    have length : (first :: texts).length = (root :: roots).length := by simpa using rest.length_eq
    simp only [combine, length, ne_eq, not_true_eq_false, if_false] at combined
    cases combined
    obtain ⟨symbols, read, derived⟩ := states_iff.mp head
    obtain ⟨groups, others, joined⟩ := symbols?_joinTexts (Tree.majority (root :: roots)) read rest
    exact ⟨trim_joinTexts _ _ _, states_iff.mpr ⟨_, joined, derives_joinAll others derived⟩⟩

theorem mapM_eq_ok {ε α β : Type} {f : α → Except ε β} {items : List α} {found : List β} :
    items.mapM f = .ok found ↔ List.Forall₂ (fun item held => f item = .ok held) items found := by
  induction items generalizing found with
  | nil => cases found <;> simp [pure, Except.pure]
  | cons item items ih =>
    rw [List.mapM_cons]
    cases here : f item with
    | error fault => cases found <;> simp [bind, Except.bind, here]
    | ok held =>
      cases rest : items.mapM f with
      | error fault => cases found <;> simp [bind, Except.bind, here, ← ih, rest]
      | ok others =>
        cases found <;> simp [bind, Except.bind, pure, Except.pure, here, ← ih, rest]

theorem Value.texts_map_text (texts : List String) :
    Value.texts (texts.map Value.text) = .ok texts := by
  induction texts with
  | nil => rfl
  | cons text texts ih =>
    rw [List.map_cons, Value.texts, ih]
    rfl

theorem Tree.leaves_joinAll {α : Type} (connective : Connective) (first : Tree α)
    (rest : List (Tree α)) :
    (Tree.joinAll connective first rest).leaves = first.leaves ++ rest.flatMap Tree.leaves := by
  induction rest generalizing first with
  | nil => simp [Tree.joinAll]
  | cons next rest ih =>
    have step := ih (.join connective first next)
    simpa [Tree.joinAll, Tree.leaves] using step

theorem Tree.majority_eq_ite {α : Type} (trees : List (Tree α)) :
    Tree.majority trees =
      if trees.countP (·.top? = some .or) < trees.countP (·.top? = some .and) then .and else .or := by
  have count (connective : Connective) : (trees.map Tree.top?).count (some connective) =
      trees.countP (·.top? = some connective) := by
    rw [List.count, List.countP_map]
    refine List.countP_congr fun tree _ => ?_
    simp
  rw [Tree.majority, Connective.majority, count, count]

theorem combine_cons {α : Type} {root : Tree α} {roots : List (Tree α)} {texts : List String}
    (length : texts.length = (root :: roots).length) :
    combine (root :: roots) texts =
      .ok (Tree.joinAll (Tree.majority (root :: roots)) root roots,
        joinTexts (Tree.majority (root :: roots)) texts) := by
  simp [combine, length]

theorem combineTexts_of_parse {texts : List String} {roots : List Formula}
    (parsed : List.Forall₂ (fun text root => Formula.parse text = .ok root) texts roots) :
    Formula.combineTexts (texts.map Value.text) = (combine roots texts).mapError .argument := by
  have read : (texts.map Value.text).mapM Formula.parseValue = .ok roots := by
    rw [mapM_eq_ok, List.forall₂_map_left_iff]
    exact parsed
  rw [Formula.combineTexts, read, Value.texts_map_text]
  rfl

theorem exists_forall₂ {α β : Type} {R : α → β → Prop} {items : List α}
    (each : ∀ item ∈ items, ∃ held, R item held) : ∃ found, List.Forall₂ R items found := by
  induction items with
  | nil => exact ⟨[], .nil⟩
  | cons item items ih =>
    obtain ⟨held, here⟩ := each item List.mem_cons_self
    obtain ⟨found, rest⟩ := ih fun other inside => each other (List.mem_cons_of_mem item inside)
    exact ⟨held :: found, .cons here rest⟩

/-- Texts that are parsed are combined into a formula with their leaves in order, and the text of
the combination is parsed as that very formula exactly if its groups are not too deep. -/
theorem parse_combineTexts (texts : List String) (nonempty : texts ≠ [])
    (accepted : ∀ text ∈ texts, ∃ root, Formula.parse text = .ok root) :
    ∃ roots root text,
      List.Forall₂ (fun text root => Formula.parse text = .ok root) texts roots ∧
      Formula.combineTexts (texts.map Value.text) = .ok (root, text) ∧
      root.leaves = roots.flatMap Tree.leaves ∧
      (Formula.parse text = .ok root ↔ Shallow text) := by
  obtain ⟨roots, parsed⟩ := exists_forall₂ accepted
  have stated : List.Forall₂ (fun text tree => States (Text.trim text) tree) texts roots :=
    parsed.imp fun _ _ => states_of_parse
  cases roots with
  | nil =>
    cases parsed
    exact absurd rfl nonempty
  | cons root roots =>
    have combined := combine_cons parsed.length_eq
    obtain ⟨trimmed, whole⟩ := combine_states stated combined
    refine ⟨root :: roots, _, _, parsed, ?_, Tree.leaves_joinAll _ _ _,
      parse_iff_shallow trimmed whole⟩
    rw [combineTexts_of_parse parsed, combined]
    rfl

theorem parse_combineTexts_mixed :
    let texts := ["\u00a0x > 1 OR y = '(AND'\u2003", "(a = 1)(b = 2.5)",
      " c = true AND d != \"OR)\"\n"]
    let side (name : String) (relation : Relation) (literal : Literal)
        (named : isName name = true) : Formula := .leaf ⟨name, relation, literal, named⟩
    let root : Formula := .join .and
      (.join .and
        (.join .or (side "x" .greater (.integer 1) rfl) (side "y" .equal (.text "(AND") rfl))
        (.join .and (side "a" .equal (.integer 1) rfl)
          (side "b" .equal (.float (.ofBits 0x4004000000000000)) rfl)))
      (.join .and (side "c" .equal (.boolean true) rfl) (side "d" .notEqual (.text "OR)") rfl))
    let text := "(x > 1 OR y = '(AND') AND ((a = 1)(b = 2.5)) AND (c = true AND d != \"OR)\")"
    texts ≠ [] ∧ (∀ text ∈ texts, ∃ root, Formula.parse text = .ok root) ∧
    Formula.combineTexts (texts.map Value.text) = .ok (root, text) ∧
    Formula.parse text = .ok root := by
  intro texts side root text
  have nonempty : texts ≠ [] := by decide
  have accepted : ∀ text ∈ texts, ∃ root, Formula.parse text = .ok root := by
    intro text inside
    have read : ∀ text ∈ texts, (Formula.parse text).isOk = true := by decide +kernel
    have here := read text inside
    cases parsed : Formula.parse text with
    | ok root => exact ⟨root, rfl⟩
    | error error => simp [parsed, Except.isOk, Except.toBool] at here
  have combined : Formula.combineTexts (texts.map Value.text) = .ok (root, text) := by
    decide +kernel
  obtain ⟨roots, tree, whole, parsed, equal, leaves, exact⟩ :=
    parse_combineTexts texts nonempty accepted
  cases combined.symm.trans equal
  have shallow : Shallow text := by
    have within : (symbols? text.toList).all (nesting · ≤ Parser.nestingLimit) = true := by
      decide +kernel
    intro symbols read
    simpa [read] using within
  exact ⟨nonempty, accepted, combined, exact.mpr shallow⟩

end Rulebook
