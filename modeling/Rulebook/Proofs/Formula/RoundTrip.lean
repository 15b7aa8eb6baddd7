import Rulebook.Proofs.Comparison
import Rulebook.Proofs.Formula.Printer

/-! Which formulas are read back from the texts they are written as. A text that is read at all is
read as the same tree, over the literals that its literals are written as. -/
namespace Rulebook

namespace Symbol

def isLiteral : Symbol → Bool
  | .literal _ => true
  | _ => false

def isRelation : Symbol → Bool
  | .relation _ => true
  | _ => false

end Symbol

/-- In what is derived every relation has its literal. -/
theorem Derives.countP_eq {category : Category} {symbols : List Symbol} {tree : Formula}
    (derived : Derives category symbols tree) :
    symbols.countP Symbol.isLiteral = symbols.countP Symbol.isRelation := by
  induction derived with
  | comparison c => rfl
  | factor derived ih | term derived ih => exact ih
  | group derived ih | and left right first second | adjacent left right first second
  | or left right first second =>
    simp [List.countP_append, Symbol.isLiteral, Symbol.isRelation, *]

theorem countP_symbols? {tree : Formula} {symbols : List Symbol}
    (spelled : tree.symbols? Comparison.symbols? = some symbols) :
    symbols.countP Symbol.isLiteral ≤ symbols.countP Symbol.isRelation ∧
      (symbols.countP Symbol.isLiteral = symbols.countP Symbol.isRelation →
        ∀ c ∈ tree.leaves, c.literal.isFinite = true) := by
  induction tree generalizing symbols with
  | leaf c =>
    simp only [Tree.symbols?, Comparison.symbols?, Option.map_eq_some_iff] at spelled
    obtain ⟨symbol, spelled, rfl⟩ := spelled
    unfold Literal.symbol? at spelled
    split at spelled
    · rename_i finite
      cases spelled
      simp [Symbol.isLiteral, Symbol.isRelation, Tree.leaves, finite]
    · split at spelled
      · cases spelled
      · cases spelled
        simp [List.countP_cons, Symbol.isLiteral, Symbol.isRelation]
  | join connective left right first second =>
    simp only [Tree.symbols?, Option.bind_eq_some_iff, Option.map_eq_some_iff] at spelled
    obtain ⟨before, front, after, back, rfl⟩ := spelled
    have literals (tree : Formula) (symbols : List Symbol) :
        (tree.enclosed symbols).countP Symbol.isLiteral = symbols.countP Symbol.isLiteral := by
      cases tree <;> simp [Tree.enclosed, group, Symbol.isLiteral]
    have relations (tree : Formula) (symbols : List Symbol) :
        (tree.enclosed symbols).countP Symbol.isRelation = symbols.countP Symbol.isRelation := by
      cases tree <;> simp [Tree.enclosed, group, Symbol.isRelation]
    obtain ⟨fewer, whole⟩ := first front
    obtain ⟨less, rest⟩ := second back
    simp only [List.countP_append, List.countP_cons, literals, relations, Symbol.isLiteral,
      Symbol.isRelation, Bool.false_eq_true, if_false]
    refine ⟨by omega, fun balanced c inside => ?_⟩
    rcases List.mem_append.mp inside with inside | inside
    · exact whole (by omega) c inside
    · exact rest (by omega) c inside

theorem Tree.map_map {α β γ : Type} (f : α → β) (g : β → γ) (tree : Tree α) :
    (tree.map f).map g = tree.map (g ∘ f) := by
  induction tree with
  | leaf value => rfl
  | join connective left right first second => simp [map, first, second]

theorem Literal.respelled_kind (literal : Literal) : literal.respelled.kind = literal.kind := by
  cases literal with
  | float value =>
    rw [respelled]
    split <;> rfl
  | _ => rfl

namespace Formula

variable {formula other : Formula}

abbrev respelled (formula : Formula) : Formula := formula.map Comparison.respelled

theorem symbols?_source (written : ∀ c ∈ formula.leaves, c.Written) :
    symbols? formula.source.toList = formula.symbols? Comparison.symbols? :=
  (Tree.spells_source fun c inside => Comparison.spells_source (written c inside)).symbols?

theorem nesting_source {symbols : List Symbol} (written : ∀ c ∈ formula.leaves, c.Written)
    (read : symbols? formula.source.toList = some symbols) : nesting symbols = formula.height - 1 := by
  rw [symbols?_source written] at read
  have flat : ∀ c ∈ formula.leaves, ∀ own, c.symbols? = some own → ∀ depth more,
      nestingFrom depth (own ++ more) = nestingFrom depth more := by
    intro c _ own spelled depth more
    simp only [Comparison.symbols?, Option.map_eq_some_iff] at spelled
    obtain ⟨symbol, spelled, rfl⟩ := spelled
    have level : symbol.depthAfter depth = depth := by
      unfold Literal.symbol? at spelled
      split at spelled
      · cases spelled
        rfl
      · split at spelled <;> cases spelled
        rfl
    have named : Symbol.depthAfter (.name c.name) depth = depth := rfl
    have related : Symbol.depthAfter (.relation c.relation) depth = depth := rfl
    have least := le_nestingFrom depth more
    simp only [List.cons_append, List.nil_append, nestingFrom, named, related, level]
    omega
  have deep := (Tree.nestingFrom_symbols? flat read 0 []).1
  rw [List.append_nil, nestingFrom] at deep
  rw [nesting, deep]
  omega

theorem shallow_source (written : ∀ c ∈ formula.leaves, c.Written)
    (within : formula.height ≤ Parser.nestingLimit + 1) : Shallow formula.source := by
  intro symbols read
  have nested := nesting_source written read
  omega

/-- The source of a formula that can be written is parsed unless a number is infinite, and as no
other formula than the respelled one. -/
theorem parse_source (written : ∀ c ∈ formula.leaves, c.Written) (shallow : Shallow formula.source) :
    parse formula.source = .ok other ↔
      (∀ c ∈ formula.leaves, c.literal.isFinite = true) ∧ other = formula.respelled := by
  have spelled := symbols?_source written
  rw [parse, trim_source, Parser.parseWithin_eq_ok_iff]
  constructor
  · rintro ⟨symbols, read, _, derived⟩
    rw [spelled] at read
    have finite := (countP_symbols? read).2 derived.countP_eq
    obtain ⟨_, same, again, _⟩ := Tree.derives_symbols? fun c inside =>
      Comparison.symbols?_of_finite (finite c inside)
    cases read.symm.trans same
    exact ⟨finite, Parser.derives_unique derived again⟩
  · rintro ⟨finite, rfl⟩
    obtain ⟨symbols, read, derived, _⟩ := Tree.derives_symbols? fun c inside =>
      Comparison.symbols?_of_finite (finite c inside)
    refine ⟨symbols, spelled.trans read, ?_, derived⟩
    rintro most ⟨⟩
    exact shallow symbols (spelled.trans read)

theorem respelled_shape (formula : Formula) :
    formula.respelled.map (fun c => (c.name, c.relation, c.literal.kind)) =
      formula.map fun c => (c.name, c.relation, c.literal.kind) := by
  rw [Tree.map_map]
  apply congrArg fun shown => Tree.map shown formula
  funext c
  simp [Comparison.respelled, Literal.respelled_kind]

end Formula

namespace Tree

variable {α : Type} {same : α → α → Bool}

theorem equal_map_iff {f : α → α} {tree : Tree α} :
    (tree.map f).equal same tree = true ↔ ∀ value ∈ tree.leaves, same (f value) value = true := by
  induction tree with
  | leaf value => simp [map, equal, leaves]
  | join connective left right first second =>
    simp [map, equal, leaves, first, second, or_imp, forall_and]

theorem exists_of_equal {tree other : Tree α} (equal : other.equal same tree = true) :
    ∀ value ∈ tree.leaves, ∃ found ∈ other.leaves, same found value = true := by
  induction tree generalizing other with
  | leaf value =>
    cases other with
    | leaf found =>
      rintro _ (_ | ⟨_, ⟨⟩⟩)
      exact ⟨found, List.mem_singleton_self found, equal⟩
    | join connective left right => cases equal
  | join connective left right first second =>
    cases other with
    | leaf found => cases equal
    | join joining before after =>
      simp only [Tree.equal, Bool.and_eq_true] at equal
      obtain ⟨⟨_, front⟩, back⟩ := equal
      intro value inside
      rcases List.mem_append.mp inside with inside | inside
      · obtain ⟨found, held, equal⟩ := first front value inside
        exact ⟨found, List.mem_append_left _ held, equal⟩
      · obtain ⟨found, held, equal⟩ := second back value inside
        exact ⟨found, List.mem_append_right _ held, equal⟩

end Tree

namespace Literal

/-- A number is finite and, if it is written without a point, exactly the whole number that its
digits spell. -/
def Exact (literal : Literal) : Prop :=
  ∀ value, literal = .float value → literal.isFinite = true ∧
    ('.' ∉ value.plain → value.quantity? = some (.ofInt (Numeral.toInt value.plain)))

theorem Exact.isFinite {literal : Literal} (exact : literal.Exact) : literal.isFinite = true := by
  cases literal with
  | float value => exact (exact value rfl).1
  | _ => rfl

theorem respelled_equal_iff {literal : Literal} (finite : literal.isFinite = true) :
    literal.respelled.equal literal = true ↔ literal.Exact := by
  cases literal with
  | float value =>
    by_cases point : '.' ∈ value.plain
    · have exact : Exact (.float value) := by
        rintro _ ⟨⟩
        exact ⟨finite, absurd point⟩
      simp [respelled, point, equal_self, exact]
    · have differ : integer (Numeral.toInt value.plain) ≠ float value := nofun
      have place : (integer (Numeral.toInt value.plain)).quantity? =
        some (.ofInt (Numeral.toInt value.plain)) := rfl
      rw [respelled, if_neg point, equal_of_ne differ place]
      constructor
      · rintro equal _ ⟨⟩
        exact ⟨finite, fun _ => equal⟩
      · intro exact
        exact (exact value rfl).2 point
  | boolean value => exact ⟨fun _ => nofun, fun _ => equal_self _⟩
  | integer value => exact ⟨fun _ => nofun, fun _ => equal_self _⟩
  | text value => exact ⟨fun _ => nofun, fun _ => equal_self _⟩

theorem not_equal_nan {literal : Literal} (written : literal.Written) :
    literal.equal (.float .nan) = false := by
  have unordered : literal.order? (.float .nan) = none := by
    cases literal <;> simp [order?, quantity?, Binary64.quantity?]
  have differ : literal ≠ .float .nan := by
    rintro rfl
    exact written rfl
  simp [equal, differ, unordered]

end Literal

namespace Comparison

theorem respelled_equal_iff {c : Comparison} (finite : c.literal.isFinite = true) :
    c.respelled.equal c = true ↔ c.literal.Exact := by
  simp [equal, respelled, Literal.respelled_equal_iff finite]

theorem Written.of_equal {c other : Comparison} (written : other.Written)
    (same : other.equal c = true)
    (short : ∀ value, c.literal = .integer value →
      (Nat.toDigits 10 value.natAbs).length ≤ digitLimit) : c.Written := by
  simp only [equal, Bool.and_eq_true, decide_eq_true_eq] at same
  obtain ⟨⟨name, _⟩, literal⟩ := same
  refine ⟨name ▸ written.plain, ?_⟩
  have stated := written.literal
  generalize other.literal = found at literal stated
  cases kind : c.literal with
  | boolean value => trivial
  | integer value => exact short value kind
  | text value =>
    rw [kind] at literal
    exact Literal.text_of_equal literal ▸ stated
  | float value =>
    rintro rfl
    rw [kind, Literal.not_equal_nan stated] at literal
    cases literal

theorem written_of_exact {c : Comparison} (plain : isReserved c.name = false)
    (free : ∀ value, c.literal = .text value → '\'' ∉ value.toList ∨ '"' ∉ value.toList)
    (exact : c.literal.Exact)
    (short : ∀ value, c.literal = .integer value →
      (Nat.toDigits 10 value.natAbs).length ≤ digitLimit) : c.Written := by
  refine ⟨plain, ?_⟩
  cases kind : c.literal with
  | boolean value => trivial
  | integer value => exact short value kind
  | text value => exact free value kind
  | float value =>
    rintro rfl
    have finite := (exact .nan kind).1
    rw [kind] at finite
    cases finite

end Comparison

/-- A formula is read back from its source as an equal one exactly if no name is reserved, no text
holds both quotes, and every number is finite and, where it is written without a point, exactly the
whole number written. It then has the same shape, names, relations and kinds of literals. -/
theorem parse_source_equal_iff (formula : Formula)
    (short : ∀ c ∈ formula.leaves, ∀ value, c.literal = .integer value →
      (Nat.toDigits 10 value.natAbs).length ≤ digitLimit)
    (within : formula.height ≤ Parser.nestingLimit + 1) :
    ((∃ other, Formula.parse formula.source = .ok other ∧ other.equal formula = true) ↔
      ∀ c ∈ formula.leaves, isReserved c.name = false ∧
        (∀ value, c.literal = .text value → '\'' ∉ value.toList ∨ '"' ∉ value.toList) ∧
        c.literal.Exact) ∧
    ∀ other, Formula.parse formula.source = .ok other → other.equal formula = true →
      other.map (fun c => (c.name, c.relation, c.literal.kind)) =
        formula.map fun c => (c.name, c.relation, c.literal.kind) := by
  have written {other : Formula} (parsed : Formula.parse formula.source = .ok other)
      (equal : other.equal formula = true) : ∀ c ∈ formula.leaves, c.Written := by
    intro c inside
    obtain ⟨found, held, same⟩ := Tree.exists_of_equal equal c inside
    have sourced := written_of_parseWithin parsed found held
    exact sourced.of_equal same (short c inside)
  constructor
  · constructor
    · rintro ⟨other, parsed, equal⟩ c inside
      have writable := written parsed equal
      have shallow := Formula.shallow_source writable within
      obtain ⟨finite, rfl⟩ := (Formula.parse_source writable shallow).mp parsed
      have exact := Tree.equal_map_iff.mp equal c inside
      rw [Comparison.respelled_equal_iff (finite c inside)] at exact
      refine ⟨(writable c inside).plain, ?_, exact⟩
      intro value text
      have literal := (writable c inside).literal
      rwa [text] at literal
    · intro legible
      have writable : ∀ c ∈ formula.leaves, c.Written := by
        intro c inside
        obtain ⟨plain, free, exact⟩ := legible c inside
        exact Comparison.written_of_exact plain free exact (short c inside)
      have finite : ∀ c ∈ formula.leaves, c.literal.isFinite = true :=
        fun c inside => (legible c inside).2.2.isFinite
      have shallow := Formula.shallow_source writable within
      refine ⟨formula.respelled, (Formula.parse_source writable shallow).mpr ⟨finite, rfl⟩, ?_⟩
      apply Tree.equal_map_iff.mpr
      intro c inside
      exact (Comparison.respelled_equal_iff (finite c inside)).mpr (legible c inside).2.2
  · intro other parsed equal
    have writable := written parsed equal
    have shallow := Formula.shallow_source writable within
    obtain ⟨_, rfl⟩ := (Formula.parse_source writable shallow).mp parsed
    exact Formula.respelled_shape formula

theorem parse_source_equal_mixed :
    let large : Binary64 := .finite false ⟨4846369599423283200, by decide⟩
    let x : Comparison := ⟨"x", .less, .float large, rfl⟩
    let y : Comparison := ⟨"Or_", .notEqual, .text "it's", rfl⟩
    let z : Comparison := ⟨"z", .equal, .integer (-7), rfl⟩
    let formula : Formula := .join .and (.leaf x) (.join .or (.leaf y) (.leaf z))
    formula.source = "x < 10000000000000000 AND (Or_ != \"it's\" OR z == -7)" ∧
      ∃ other, Formula.parse formula.source = .ok other ∧ other.equal formula = true := by
  intro large x y z formula
  have leaves : ∀ c ∈ formula.leaves, c = x ∨ c = y ∨ c = z := by
    simp [formula, Tree.leaves]
  have legible : ∀ c ∈ formula.leaves, isReserved c.name = false ∧
      (∀ value, c.literal = .text value → '\'' ∉ value.toList ∨ '"' ∉ value.toList) ∧
      c.literal.Exact := by
    have spelled : large.quantity? = some (.ofInt (Numeral.toInt large.plain)) := by decide +kernel
    intro c inside
    rcases leaves c inside with rfl | rfl | rfl
    · refine ⟨by decide, by rintro _ ⟨⟩, ?_⟩
      rintro _ ⟨⟩
      exact ⟨rfl, fun _ => spelled⟩
    · refine ⟨by decide, ?_, by rintro _ ⟨⟩⟩
      rintro _ ⟨⟩
      decide
    · exact ⟨by decide, by rintro _ ⟨⟩, by rintro _ ⟨⟩⟩
  have short : ∀ c ∈ formula.leaves, ∀ value, c.literal = .integer value →
      (Nat.toDigits 10 value.natAbs).length ≤ digitLimit := by
    intro c inside value integer
    rcases leaves c inside with rfl | rfl | rfl <;> cases integer
    decide
  exact ⟨by decide +kernel, (parse_source_equal_iff formula short (by decide)).1.mpr legible⟩

end Rulebook
