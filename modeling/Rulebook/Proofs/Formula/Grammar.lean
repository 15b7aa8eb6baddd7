import Rulebook.Formula.Parser

/-! The grammar of rules over symbols, and the parser as a run over tokens. What the grammar derives
the parser reads, and what it reads is derived, so a text states one formula at most. -/
namespace Rulebook

/-- A term or factor is grouped if it ends in a group. -/
inductive Category
  | expression
  | term (grouped : Bool)
  | factor (grouped : Bool)
  deriving DecidableEq, Repr

inductive Derives : Category → List Symbol → Formula → Prop
  | comparison (c : Comparison) :
    Derives (.factor false) [.name c.name, .relation c.relation, .literal c.literal] (.leaf c)
  | group {symbols : List Symbol} {tree : Formula} :
    Derives .expression symbols tree →
    Derives (.factor true) (.opening :: (symbols ++ [.closing])) tree
  | factor {grouped : Bool} {symbols : List Symbol} {tree : Formula} :
    Derives (.factor grouped) symbols tree → Derives (.term grouped) symbols tree
  | and {before grouped : Bool} {first second : List Symbol} {left right : Formula} :
    Derives (.term before) first left → Derives (.factor grouped) second right →
    Derives (.term grouped) (first ++ .connective .and :: second) (.join .and left right)
  | adjacent {first second : List Symbol} {left right : Formula} :
    Derives (.term true) first left → Derives (.factor true) second right →
    Derives (.term true) (first ++ second) (.join .and left right)
  | term {grouped : Bool} {symbols : List Symbol} {tree : Formula} :
    Derives (.term grouped) symbols tree → Derives .expression symbols tree
  | or {grouped : Bool} {first second : List Symbol} {left right : Formula} :
    Derives .expression first left → Derives (.term grouped) second right →
    Derives .expression (first ++ .connective .or :: second) (.join .or left right)

namespace Parser

/-- Takes tokens in order and keeps the kind of the last one beside the state. -/
def feed (limit : Option Nat) (previous : Option Token.Kind) (state : State) :
    List Token → Except Error (Option Token.Kind × State)
  | [] => .ok (previous, state)
  | token :: rest =>
    match state.step limit (previous = some .closing && token.kind = .opening) token with
    | .error error => .error error
    | .ok state => feed limit (some token.kind) state rest

theorem feed_append {limit : Option Nat} (previous : Option Token.Kind) (state : State)
    (first second : List Token) :
    feed limit previous state (first ++ second) =
      match feed limit previous state first with
      | .error error => .error error
      | .ok (previous, state) => feed limit previous state second := by
  induction first generalizing previous state with
  | nil => rfl
  | cons token first ih =>
    simp only [List.cons_append, feed]
    split
    · rfl
    · exact ih _ _

theorem kind_opening_iff {symbol : Symbol} : symbol.kind = .opening ↔ symbol = .opening := by
  cases symbol with
  | literal held => cases held <;> simp [Symbol.kind, Literal.kind]
  | connective joining => cases joining <;> simp [Symbol.kind]
  | _ => simp [Symbol.kind]

theorem kind_closing_iff {symbol : Symbol} : symbol.kind = .closing ↔ symbol = .closing := by
  cases symbol with
  | literal held => cases held <;> simp [Symbol.kind, Literal.kind]
  | connective joining => cases joining <;> simp [Symbol.kind]
  | _ => simp [Symbol.kind]

/-- Whether tokens of a category take a state that waits for an operand to one that has it. -/
def Taken (category : Category) (tokens : List Token) (tree : Formula) : Prop :=
  match category with
  | .factor grouped => ∀ previous frame outer, ∃ kind, (kind = .closing ↔ grouped = true) ∧
    feed none previous ⟨.operand, frame, outer⟩ tokens =
      .ok (some kind, ⟨.joined (frame.term tree), ⟨frame.alternatives, none⟩, outer⟩)
  | .term grouped => ∀ previous alternatives outer, ∃ kind, (kind = .closing ↔ grouped = true) ∧
    feed none previous ⟨.operand, ⟨alternatives, none⟩, outer⟩ tokens =
      .ok (some kind, ⟨.joined tree, ⟨alternatives, none⟩, outer⟩)
  | .expression => ∀ previous outer, ∃ kind alternatives term,
    Frame.expression ⟨alternatives, none⟩ term = tree ∧
    feed none previous ⟨.operand, .empty, outer⟩ tokens =
      .ok (some kind, ⟨.joined term, ⟨alternatives, none⟩, outer⟩)

section Feed

variable (previous : Option Token.Kind) (frame inner : Frame) (outer : List Frame)
variable (term : Formula) (position : Nat) (rest : List Token)

theorem feed_opening :
    feed none previous ⟨.operand, frame, outer⟩ (⟨.opening, position⟩ :: rest) =
      feed none (some .opening) ⟨.operand, .empty, frame :: outer⟩ rest := rfl

theorem feed_closing :
    feed none previous ⟨.joined term, inner, frame :: outer⟩ (⟨.closing, position⟩ :: rest) =
      feed none (some .closing) ⟨.joined (frame.term (inner.expression term)),
        ⟨frame.alternatives, none⟩, outer⟩ rest := by
  simp [feed, State.step, Token.kind, Symbol.kind, State.accept]

theorem feed_and :
    feed none previous ⟨.joined term, frame, outer⟩ (⟨.connective .and, position⟩ :: rest) =
      feed none (some .and) ⟨.operand, ⟨frame.alternatives, some term⟩, outer⟩ rest := rfl

theorem feed_or :
    feed none previous ⟨.joined term, frame, outer⟩ (⟨.connective .or, position⟩ :: rest) =
      feed none (some .or) ⟨.operand, ⟨some (frame.expression term), none⟩, outer⟩ rest := rfl

theorem feed_adjacent :
    feed none (some .closing) ⟨.joined term, frame, outer⟩ (⟨.opening, position⟩ :: rest) =
      feed none (some .opening)
        ⟨.operand, .empty, ⟨frame.alternatives, some term⟩ :: outer⟩ rest := by
  simp [feed, State.step, Token.kind, Symbol.kind, State.conjoin, State.open?]

theorem feed_comparison (c : Comparison) (a b d : Nat) :
    feed none previous ⟨.operand, frame, outer⟩
        [⟨.name c.name, a⟩, ⟨.relation c.relation, b⟩, ⟨.literal c.literal, d⟩] =
      .ok (some (Symbol.literal c.literal).kind,
        ⟨.joined (frame.term (.leaf c)), ⟨frame.alternatives, none⟩, outer⟩) := by
  simp [feed, State.step, Comparison.ofName, c.named, State.accept]

end Feed

theorem opening_of_grouped {symbols : List Symbol} {tree : Formula}
    (derived : Derives (.factor true) symbols tree) : ∃ rest, symbols = .opening :: rest := by
  cases derived
  exact ⟨_, rfl⟩

/-- The parser without a limit takes whatever is derived. -/
theorem taken_of_derives {category : Category} {symbols : List Symbol} {tree : Formula}
    (derived : Derives category symbols tree) {tokens : List Token}
    (spelled : tokens.map Token.symbol = symbols) : Taken category tokens tree := by
  -- what is open around the tokens stays free, for each group begins with frames of its own
  induction derived generalizing tokens with
  | comparison c =>
    simp only [List.map_eq_cons_iff, List.map_eq_nil_iff] at spelled
    obtain ⟨⟨_, a⟩, _, rfl, rfl, ⟨_, b⟩, _, rfl, rfl, ⟨_, d⟩, _, rfl, rfl, rfl⟩ := spelled
    intro previous frame outer
    refine ⟨_, ?_, feed_comparison previous frame outer c a b d⟩
    simp [kind_closing_iff]
  | group derived ih =>
    simp only [List.map_eq_append_iff, List.map_eq_cons_iff, List.map_eq_nil_iff] at spelled
    obtain ⟨⟨_, a⟩, _, rfl, rfl, inner, _, rfl, inside, ⟨_, b⟩, _, rfl, rfl, rfl⟩ := spelled
    intro previous frame outer
    obtain ⟨kind, alternatives, term, whole, fed⟩ := ih inside (some .opening) (frame :: outer)
    refine ⟨.closing, by simp, ?_⟩
    rw [feed_opening, feed_append, fed]
    dsimp only
    rw [feed_closing, whole, feed]
  | factor derived ih =>
    intro previous alternatives outer
    exact ih spelled previous ⟨alternatives, none⟩ outer
  | and left right first second =>
    simp only [List.map_eq_append_iff, List.map_eq_cons_iff] at spelled
    obtain ⟨before, _, rfl, front, ⟨_, a⟩, after, rfl, rfl, back⟩ := spelled
    intro previous alternatives outer
    obtain ⟨kind, _, fed⟩ := first front previous alternatives outer
    obtain ⟨last, ended, taken⟩ := second back (some .and) ⟨alternatives, some _⟩ outer
    refine ⟨last, ended, ?_⟩
    rw [feed_append, fed]
    dsimp only
    rw [feed_and]
    exact taken
  | adjacent left right first second =>
    obtain ⟨before, after, rfl, front, back⟩ := List.map_eq_append_iff.mp spelled
    intro previous alternatives outer
    obtain ⟨kind, closing, fed⟩ := first front previous alternatives outer
    obtain ⟨last, ended, taken⟩ := second back (some kind) ⟨alternatives, some _⟩ outer
    refine ⟨last, ended, ?_⟩
    obtain ⟨rest, rfl⟩ := opening_of_grouped right
    obtain ⟨⟨_, a⟩, after, rfl, rfl, _⟩ := List.map_eq_cons_iff.mp back
    rw [feed_append, fed, closing.mpr rfl]
    dsimp only
    rw [feed_adjacent]
    exact taken
  | term derived ih =>
    intro previous outer
    obtain ⟨kind, _, fed⟩ := ih spelled previous none outer
    exact ⟨kind, none, _, rfl, fed⟩
  | or left right first second =>
    simp only [List.map_eq_append_iff, List.map_eq_cons_iff] at spelled
    obtain ⟨before, _, rfl, front, ⟨_, a⟩, after, rfl, rfl, back⟩ := spelled
    intro previous outer
    obtain ⟨kind, alternatives, term, whole, fed⟩ := first front previous outer
    obtain ⟨last, _, taken⟩ := second back (some .or) (some _) outer
    refine ⟨last, some _, _, rfl, ?_⟩
    rw [feed_append, fed]
    dsimp only
    rw [feed_or, whole]
    exact taken

inductive Step (implicitAnd : Bool) : State → Symbol → State → Prop
  | opening (frame : Frame) (outer : List Frame) :
    Step implicitAnd ⟨.operand, frame, outer⟩ .opening ⟨.operand, .empty, frame :: outer⟩
  | name (frame : Frame) (outer : List Frame) (name : String) :
    Step implicitAnd ⟨.operand, frame, outer⟩ (.name name) ⟨.relation name, frame, outer⟩
  | relation (frame : Frame) (outer : List Frame) (name : String) (relation : Relation) :
    Step implicitAnd ⟨.relation name, frame, outer⟩ (.relation relation)
      ⟨.literal name relation, frame, outer⟩
  | literal (frame : Frame) (outer : List Frame) (c : Comparison) :
    Step implicitAnd ⟨.literal c.name c.relation, frame, outer⟩ (.literal c.literal)
      ⟨.joined (frame.term (.leaf c)), ⟨frame.alternatives, none⟩, outer⟩
  | and (term : Formula) (frame : Frame) (outer : List Frame) :
    Step implicitAnd ⟨.joined term, frame, outer⟩ (.connective .and)
      ⟨.operand, ⟨frame.alternatives, some term⟩, outer⟩
  | or (term : Formula) (frame : Frame) (outer : List Frame) :
    Step implicitAnd ⟨.joined term, frame, outer⟩ (.connective .or)
      ⟨.operand, ⟨some (frame.expression term), none⟩, outer⟩
  | adjacent (term : Formula) (frame : Frame) (outer : List Frame) (implicit : implicitAnd = true) :
    Step implicitAnd ⟨.joined term, frame, outer⟩ .opening
      ⟨.operand, .empty, ⟨frame.alternatives, some term⟩ :: outer⟩
  | closing (term : Formula) (inner frame : Frame) (outer : List Frame) :
    Step implicitAnd ⟨.joined term, inner, frame :: outer⟩ .closing
      ⟨.joined (frame.term (inner.expression term)), ⟨frame.alternatives, none⟩, outer⟩

theorem open?_eq_ok {limit : Option Nat} {state next : State}
    (opened : state.open? limit = .ok next) :
    next = ⟨.operand, .empty, state.frame :: state.outer⟩ := by
  unfold State.open? at opened
  split at opened
  · cases opened
  · exact (Except.ok.inj opened).symm

theorem step_cases {limit : Option Nat} {implicitAnd : Bool} {state next : State} {token : Token}
    (stepped : state.step limit implicitAnd token = .ok next)
    (implicit : implicitAnd = true → token.symbol = .opening) :
    Step implicitAnd state token.symbol next := by
  obtain ⟨phase, frame, outer⟩ := state
  obtain ⟨symbol, position⟩ := token
  cases phase with
  | operand =>
    cases symbol with
    | opening =>
      cases open?_eq_ok stepped
      exact .opening frame outer
    | name name =>
      cases stepped
      exact .name frame outer name
    | _ => cases stepped
  | relation name =>
    cases symbol with
    | relation relation =>
      cases stepped
      exact .relation frame outer name relation
    | _ => cases stepped
  | literal name relation =>
    cases symbol with
    | literal literal =>
      simp only [State.step, Comparison.ofName] at stepped
      by_cases named : isName name = true
      · simp only [dif_pos named] at stepped
        cases stepped
        exact .literal frame outer ⟨name, relation, literal, named⟩
      · simp only [dif_neg named] at stepped
        cases stepped
    | _ => cases stepped
  | joined term =>
    cases implicitAnd with
    | true =>
      cases implicit rfl
      cases open?_eq_ok stepped
      exact .adjacent term frame outer rfl
    | false =>
      cases symbol with
      | connective connective =>
        cases connective <;> cases stepped
        · exact .and term frame outer
        · exact .or term frame outer
      | closing =>
        cases outer with
        | nil => cases stepped
        | cons above outer =>
          cases stepped
          exact .closing term frame above outer
      | _ => cases outer <;> cases stepped

inductive Alternatives : List Symbol → Option Formula → Prop
  | none : Alternatives [] none
  | some {symbols : List Symbol} {tree : Formula} : Derives .expression symbols tree →
    Alternatives (symbols ++ [.connective .or]) (some tree)

/-- What stands left of a pending AND, which need not be written where a group follows. -/
inductive Conjuncts (group : Bool) : List Symbol → Option Formula → Prop
  | none : Conjuncts group [] none
  | and {grouped : Bool} {symbols : List Symbol} {tree : Formula} :
    Derives (.term grouped) symbols tree →
    Conjuncts group (symbols ++ [.connective .and]) (some tree)
  | adjacent {symbols : List Symbol} {tree : Formula} : group = true →
    Derives (.term true) symbols tree → Conjuncts group symbols (some tree)

inductive FrameReads (group : Bool) : Frame → List Symbol → Prop
  | mk {alternatives conjuncts : Option Formula} {first second : List Symbol} :
    Alternatives first alternatives → Conjuncts group second conjuncts →
    FrameReads group ⟨alternatives, conjuncts⟩ (first ++ second)

inductive OuterReads : List Frame → List Symbol → Prop
  | nil : OuterReads [] []
  | cons {frame : Frame} {outer : List Frame} {before symbols : List Symbol} :
    OuterReads outer before → FrameReads true frame symbols →
    OuterReads (frame :: outer) (before ++ symbols ++ [.opening])

/-- The symbols that lead to a state, the last of the given kind. -/
inductive Reads (previous : Option Token.Kind) : State → List Symbol → Prop
  | operand {frame : Frame} {outer : List Frame} {before symbols : List Symbol} :
    OuterReads outer before → FrameReads false frame symbols →
    Reads previous ⟨.operand, frame, outer⟩ (before ++ symbols)
  | relation {frame : Frame} {outer : List Frame} {before symbols : List Symbol} {name : String} :
    OuterReads outer before → FrameReads false frame symbols →
    Reads previous ⟨.relation name, frame, outer⟩ (before ++ symbols ++ [.name name])
  | literal {frame : Frame} {outer : List Frame} {before symbols : List Symbol} {name : String}
    {relation : Relation} : OuterReads outer before → FrameReads false frame symbols →
    Reads previous ⟨.literal name relation, frame, outer⟩
      (before ++ symbols ++ [.name name, .relation relation])
  | joined {alternatives : Option Formula} {outer : List Frame} {grouped : Bool} {term : Formula}
    {before first second : List Symbol} : OuterReads outer before →
    Alternatives first alternatives → Derives (.term grouped) second term →
    (previous = some .closing → grouped = true) →
    Reads previous ⟨.joined term, ⟨alternatives, none⟩, outer⟩ (before ++ (first ++ second))

theorem Alternatives.derives {frame : Frame} {first second : List Symbol} {grouped : Bool}
    {term : Formula} (left : Alternatives first frame.alternatives)
    (right : Derives (.term grouped) second term) :
    Derives .expression (first ++ second) (frame.expression term) := by
  obtain ⟨alternatives, conjuncts⟩ := frame
  cases left with
  | none => exact .term right
  | some left =>
    rw [List.append_assoc]
    exact .or left right

theorem Conjuncts.derives {frame : Frame} {group grouped : Bool} {first second : List Symbol}
    {factor : Formula} (left : Conjuncts group first frame.conjuncts)
    (right : Derives (.factor grouped) second factor) (follows : group = true → grouped = true) :
    Derives (.term grouped) (first ++ second) (frame.term factor) := by
  obtain ⟨alternatives, conjuncts⟩ := frame
  cases left with
  | none => exact .factor right
  | and left =>
    rw [List.append_assoc]
    exact .and left right
  | adjacent group left =>
    cases follows group
    exact .adjacent left right

theorem FrameReads.accept {group grouped : Bool} {frame : Frame} {outer : List Frame}
    {before symbols more : List Symbol} {factor : Formula} (previous : Option Token.Kind)
    (reads : FrameReads group frame symbols) (opened : OuterReads outer before)
    (derived : Derives (.factor grouped) more factor) (follows : group = true → grouped = true)
    (last : previous = some .closing → grouped = true) :
    Reads previous ⟨.joined (frame.term factor), ⟨frame.alternatives, none⟩, outer⟩
      (before ++ symbols ++ more) := by
  cases reads with
  | @mk alternatives conjuncts first second left right =>
    rw [List.append_assoc, List.append_assoc]
    exact .joined opened left (Conjuncts.derives right derived follows) last

theorem FrameReads.opening {frame : Frame} {outer : List Frame} {before symbols : List Symbol}
    {previous : Option Token.Kind} (reads : FrameReads true frame symbols)
    (opened : OuterReads outer before) :
    Reads previous ⟨.operand, .empty, frame :: outer⟩ (before ++ symbols ++ [.opening]) := by
  simpa [Frame.empty] using Reads.operand (.cons opened reads) (.mk .none .none)

theorem Conjuncts.grouped {first : List Symbol} {conjuncts : Option Formula}
    (left : Conjuncts false first conjuncts) : Conjuncts true first conjuncts := by
  cases left with
  | none => exact .none
  | and left => exact .and left
  | adjacent group _ => cases group

theorem FrameReads.grouped {frame : Frame} {symbols : List Symbol}
    (reads : FrameReads false frame symbols) : FrameReads true frame symbols := by
  cases reads with
  | mk left right => exact .mk left right.grouped

theorem Reads.step {previous : Option Token.Kind} {implicitAnd : Bool} {state next : State}
    {symbol : Symbol} {consumed : List Symbol} (reads : Reads previous state consumed)
    (stepped : Step implicitAnd state symbol next)
    (implicit : implicitAnd = true → previous = some .closing) :
    Reads (some symbol.kind) next (consumed ++ [symbol]) := by
  cases stepped with
  | opening frame outer =>
    cases reads with
    | operand opened reads => exact reads.grouped.opening opened
  | name frame outer name =>
    cases reads with
    | operand opened reads => exact .relation opened reads
  | relation frame outer name relation =>
    cases reads with
    | relation opened reads => simpa using Reads.literal opened reads
  | literal frame outer c =>
    cases reads with
    | literal opened reads =>
      have taken := reads.accept (some (Symbol.literal c.literal).kind) opened (.comparison c) nofun
        (by simp [kind_closing_iff])
      simpa using taken
  | and term frame outer =>
    cases reads with
    | joined opened left right last => simpa using Reads.operand opened (.mk left (.and right))
  | or term frame outer =>
    cases reads with
    | joined opened left right last =>
      simpa using Reads.operand opened (.mk (.some (left.derives right)) .none)
  | adjacent term frame outer adjacent =>
    cases reads with
    | joined opened left right last =>
      cases last (implicit adjacent)
      exact FrameReads.opening (.mk left (.adjacent rfl right)) opened
  | closing term inner frame outer =>
    cases reads with
    | joined opened left right last =>
      cases opened with
      | cons opened reads =>
        -- the inner frame is over: all that it read is one factor of the frame below it
        have inside : Derives (.factor true) _ (Frame.expression ⟨_, none⟩ term) :=
          .group (Alternatives.derives left right)
        simpa using reads.accept (some Symbol.closing.kind) opened inside (fun _ => rfl) fun _ => rfl

theorem Reads.feed {limit : Option Nat} {previous last : Option Token.Kind} {state final : State}
    {consumed : List Symbol} {tokens : List Token} (reads : Reads previous state consumed)
    (fed : feed limit previous state tokens = .ok (last, final)) :
    Reads last final (consumed ++ tokens.map Token.symbol) := by
  induction tokens generalizing previous state consumed with
  | nil =>
    cases fed
    simpa using reads
  | cons token tokens ih =>
    rw [Parser.feed] at fed
    split at fed
    · cases fed
    · rename_i next stepped
      have step := step_cases stepped fun implicit => by
        simp only [Bool.and_eq_true, decide_eq_true_eq] at implicit
        exact kind_opening_iff.mp implicit.2
      have moved := reads.step step fun implicit => by
        simp only [Bool.and_eq_true, decide_eq_true_eq] at implicit
        exact implicit.1
      simpa using ih moved fed

theorem Reads.finish {previous : Option Token.Kind} {state : State} {consumed : List Symbol}
    {position : Nat} {tree : Formula} (reads : Reads previous state consumed)
    (finished : state.finish position = .ok tree) : Derives .expression consumed tree := by
  cases reads with
  | operand => cases finished
  | relation => cases finished
  | literal => cases finished
  | joined opened left right last =>
    cases opened with
    | nil =>
      cases finished
      rw [List.nil_append]
      exact left.derives right
    | cons => cases finished

theorem Reads.start : Reads none .start [] := by
  simpa [State.start, Frame.empty] using Reads.operand .nil (.mk .none .none)

end Parser

end Rulebook
