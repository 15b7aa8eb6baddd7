import Rulebook.Proofs.Formula.Parser
import Rulebook.Proofs.Token.Cut

/-! What the parser has taken is the beginning of a rule. Each of its states has symbols that complete
the comparison and close the groups that it is in. -/
namespace Rulebook

theorem nestingFrom_replicate_closing (depth : Nat) :
    nestingFrom depth (.replicate depth .closing) = depth := by
  induction depth with
  | zero => rfl
  | succ depth ih =>
    simp only [List.replicate_succ, nestingFrom, Symbol.depthAfter, Nat.add_sub_cancel, ih]
    omega

namespace Parser

variable {limit : Nat} {cap : Option Nat} {previous last : Option Token.Kind} {state next : State}
variable {tokens : List Token}

theorem nestingFrom_append (fed : feed cap previous state tokens = .ok (last, next))
    (more : List Symbol) :
    nestingFrom state.depth (tokens.map Token.symbol ++ more) =
      max (nestingFrom state.depth (tokens.map Token.symbol)) (nestingFrom next.depth more) := by
  induction tokens generalizing previous state with
  | nil =>
    cases fed
    exact (Nat.max_eq_right (le_nestingFrom _ more)).symm
  | cons token tokens ih =>
    rw [feed] at fed
    split at fed
    · cases fed
    · rename_i later stepped
      have moved := ih fed
      rw [(step_cases stepped implicit_opening).depth] at moved
      simp only [List.map_cons, List.cons_append, nestingFrom, moved, Nat.max_assoc]

theorem depth_le_nestingFrom (fed : feed cap previous state tokens = .ok (last, next)) :
    next.depth ≤ nestingFrom state.depth (tokens.map Token.symbol) := by
  have whole := nestingFrom_append fed []
  rw [List.append_nil] at whole
  exact whole ▸ Nat.le_max_right _ _

theorem feed_of_limit (within : state.depth ≤ limit)
    (fed : feed (some limit) previous state tokens = .ok (last, next)) :
    feed none previous state tokens = .ok (last, next) ∧
      nestingFrom state.depth (tokens.map Token.symbol) ≤ limit := by
  induction tokens generalizing previous state with
  | nil => exact ⟨fed, within⟩
  | cons token tokens ih =>
    rw [feed, step_limit within] at fed
    rw [feed]
    cases stepped : state.step none (previous = some .closing && token.kind = .opening) token with
    | error error => simp [stepped, capped] at fed
    | ok later =>
      by_cases deep : limit < later.depth
      · simp [stepped, capped, deep] at fed
      · have shallow := Nat.le_of_not_lt deep
        rw [stepped, capped_of_le shallow] at fed
        obtain ⟨taken, bound⟩ := ih shallow fed
        rw [(step_cases stepped implicit_opening).depth] at bound
        exact ⟨taken, Nat.max_le.mpr ⟨within, bound⟩⟩

def Phase.missing : Phase → List Symbol
  | .operand => [.name "a", .relation .equal, .literal (.integer 0)]
  | .relation _ => [.relation .equal, .literal (.integer 0)]
  | .literal _ _ => [.literal (.integer 0)]
  | .joined _ => []

def Phase.missingText : Phase → List Char
  | .operand => [' ', 'a', ' ', '=', '=', ' ', '0']
  | .relation _ => [' ', '=', '=', ' ', '0']
  | .literal _ _ => [' ', '0']
  | .joined _ => []

def State.missing (state : State) : List Symbol :=
  state.phase.missing ++ .replicate state.depth .closing

def State.missingText (state : State) : List Char :=
  state.phase.missingText ++ .replicate state.depth ')'

theorem symbols?_closings (count : Nat) :
    symbols? (.replicate count ')') = some (.replicate count .closing) := by
  induction count with
  | zero => simp
  | succ count ih => simp [List.replicate_succ, ih]

theorem separated_closings (count : Nat) : Separated (.replicate count ')') := by
  cases count with
  | zero => exact separated_nil
  | succ count => exact separated_closing _

theorem symbols?_missingText (state : State) : symbols? state.missingText = some state.missing := by
  have phase : symbols? state.phase.missingText = some state.phase.missing := by
    cases state.phase with
    | joined term => simp [Phase.missingText, Phase.missing]
    | _ =>
      simp only [Phase.missingText, Phase.missing]
      decide +kernel
  rw [State.missingText, symbols?_append phase (separated_closings _), symbols?_closings]
  rfl

theorem separated_missingText (state : State) : Separated state.missingText := by
  unfold State.missingText
  cases state.phase with
  | joined term => exact separated_closings _
  | _ => exact separated_space _

theorem nestingFrom_missing (state : State) : nestingFrom state.depth state.missing = state.depth := by
  unfold State.missing
  cases state.phase <;>
    simp [Phase.missing, nestingFrom, Symbol.depthAfter, nestingFrom_replicate_closing]

section Completion

variable {frame : Frame} {outer : List Frame} {symbols : List Symbol}

theorem Reads.closed {term : Formula} (reads : Reads previous ⟨.joined term, frame, outer⟩ symbols) :
    ∃ tree, Derives .expression (symbols ++ .replicate outer.length .closing) tree := by
  induction outer generalizing previous term frame symbols with
  | nil =>
    have whole : State.finish ⟨.joined term, frame, []⟩ 0 = .ok (frame.expression term) := rfl
    exact ⟨_, by simpa using reads.finish whole⟩
  | cons above outer ih =>
    have step : Step false _ _ _ := .closing term frame above outer
    obtain ⟨tree, derived⟩ := ih (reads.step step nofun)
    exact ⟨tree, by simpa [List.replicate_succ] using derived⟩

theorem Reads.completed_literal {name : String} {relation : Relation} (named : isName name = true)
    (reads : Reads previous ⟨.literal name relation, frame, outer⟩ symbols) :
    ∃ tree, Derives .expression
      (symbols ++ .literal (.integer 0) :: .replicate outer.length .closing) tree := by
  have step : Step false _ _ _ := .literal frame outer ⟨name, relation, .integer 0, named⟩
  simpa using (reads.step step nofun).closed

theorem Reads.completed_relation {name : String} (named : isName name = true)
    (reads : Reads previous ⟨.relation name, frame, outer⟩ symbols) :
    ∃ tree, Derives .expression
      (symbols ++ .relation .equal :: .literal (.integer 0) :: .replicate outer.length .closing)
      tree := by
  have step : Step false _ _ _ := .relation frame outer name .equal
  simpa using (reads.step step nofun).completed_literal named

/-- Whatever has been read is the beginning of a rule. -/
theorem Reads.completed (reads : Reads previous state symbols)
    (written : ∀ symbol ∈ symbols, symbol.Written) :
    ∃ tree, Derives .expression (symbols ++ state.missing) tree := by
  obtain ⟨phase, frame, outer⟩ := state
  cases phase with
  | operand =>
    have step : Step false _ _ _ := .name frame outer "a"
    simpa [State.missing, Phase.missing, State.depth] using
      (reads.step step nofun).completed_relation rfl
  | relation name =>
    apply reads.completed_relation
    cases reads with
    | relation opened reads => exact (written (.name name) (by simp)).1
  | literal name relation =>
    exact reads.completed_literal (reads.named written)
  | joined term => exact reads.closed

end Completion

end Parser

variable {before after : List Char} {symbols : List Symbol}

namespace Formula

variable {tokens : List Token} {last : Option Token.Kind} {state : Parser.State}

theorem parse_of_symbols? {text : String} {tree : Formula} (read : symbols? text.toList = some symbols)
    (within : nesting symbols ≤ Parser.nestingLimit) (derived : Derives .expression symbols tree) :
    parse text = .ok tree := by
  rw [parse, Parser.parseWithin_eq_ok_iff]
  refine ⟨symbols, ?_, ?_, derived⟩
  · rw [Text.toList_trim]
    exact symbols?_trimChars read
  · rintro most ⟨⟩
    exact within

theorem exists_completion (cut : Cut before (tokens.map Token.symbol) after)
    (fed : Parser.feed (some Parser.nestingLimit) none .start tokens = .ok (last, state)) :
    ∃ more tree, parse (String.ofList (before ++ more)) = .ok tree := by
  obtain ⟨taken, within⟩ := Parser.feed_of_limit (Nat.zero_le _) fed
  have reads := Parser.Reads.start.feed taken
  rw [List.nil_append] at reads
  obtain ⟨tree, derived⟩ := reads.completed cut.written
  refine ⟨state.missingText, tree, parse_of_symbols? ?_ ?_ derived⟩
  · have apart := cut.follow (.inl (Parser.separated_missingText state))
    rw [String.toList_ofList, apart.symbols?, Parser.symbols?_missingText]
    rfl
  · have whole := Parser.nestingFrom_append taken state.missing
    rw [Parser.nestingFrom_missing] at whole
    have deepest := Parser.depth_le_nestingFrom taken
    exact whole.trans_le (Nat.max_le.mpr ⟨within, deepest.trans within⟩)

end Formula

end Rulebook
