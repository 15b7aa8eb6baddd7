import Rulebook.Proofs.Formula.Grammar
import Rulebook.Proofs.Token.Symbols

/-! What the parser makes of a text: it reads exactly the formula that the grammar derives from the
symbols of the text, unless too many groups are open at once. -/
namespace Rulebook

def Symbol.depthAfter (symbol : Symbol) (depth : Nat) : Nat :=
  match symbol with
  | .opening => depth + 1
  | .closing => depth - 1
  | _ => depth

/-- The most groups that are open at once, when some are open already. -/
def nestingFrom (depth : Nat) : List Symbol → Nat
  | [] => depth
  | symbol :: rest => max depth (nestingFrom (symbol.depthAfter depth) rest)

abbrev nesting (symbols : List Symbol) : Nat := nestingFrom 0 symbols

/-- If the text has symbols, no more groups are open at once than the parser allows. -/
def Shallow (text : String) : Prop :=
  ∀ symbols, symbols? text.toList = some symbols → nesting symbols ≤ Parser.nestingLimit

instance (text : String) : Decidable (Shallow text) :=
  inferInstanceAs (Decidable (∀ symbols ∈ symbols? text.toList, nesting symbols ≤ Parser.nestingLimit))

theorem le_nestingFrom (depth : Nat) (symbols : List Symbol) : depth ≤ nestingFrom depth symbols := by
  cases symbols with
  | nil => exact Nat.le_refl depth
  | cons symbol rest => exact Nat.le_max_left _ _

theorem le_nestingFrom_append (depth : Nat) (first second : List Symbol) :
    nestingFrom depth first ≤ nestingFrom depth (first ++ second) := by
  induction first generalizing depth with
  | nil => exact le_nestingFrom depth second
  | cons symbol first ih =>
    simp only [List.cons_append, nestingFrom]
    have rest := ih (symbol.depthAfter depth)
    omega

namespace Parser

theorem Step.depth {implicitAnd : Bool} {state next : State} {symbol : Symbol}
    (step : Step implicitAnd state symbol next) :
    next.depth = symbol.depthAfter state.depth := by
  cases step <;> rfl

/-- A limit stops what goes beyond it and changes nothing else. -/
def capped (limit : Nat) (stepped : Except Error State) : Except Error State :=
  match stepped with
  | .error error => .error error
  | .ok next => if limit < next.depth then .error (.malformed .tooDeep none) else .ok next

theorem capped_of_le {limit : Nat} {next : State} (within : next.depth ≤ limit) :
    capped limit (.ok next) = .ok next := if_neg (Nat.not_lt.mpr within)

theorem open?_limit (limit : Nat) (state : State) :
    state.open? (some limit) = capped limit (state.open? none) := by
  have bound : State.depth ⟨.operand, .empty, state.frame :: state.outer⟩ = state.depth + 1 := rfl
  have uncapped : state.open? none = .ok ⟨.operand, .empty, state.frame :: state.outer⟩ := rfl
  rw [uncapped, capped, bound, State.open?, Option.any_some]
  by_cases deep : limit < state.depth + 1
  · rw [if_pos (decide_eq_true deep), if_pos deep]
  · rw [if_neg (by rw [decide_eq_true_iff]; exact deep), if_neg deep]

theorem step_limit {limit : Nat} {implicitAnd : Bool} {state : State} {token : Token}
    (within : state.depth ≤ limit) :
    state.step (some limit) implicitAnd token = capped limit (state.step none implicitAnd token) := by
  obtain ⟨phase, frame, outer⟩ := state
  obtain ⟨symbol, position⟩ := token
  have kept : ∀ {next : State}, next.depth ≤ outer.length → capped limit (.ok next) = .ok next :=
    fun kept => capped_of_le (Nat.le_trans kept within)
  cases phase with
  | operand =>
    cases symbol with
    | opening => exact open?_limit limit _
    | name name => exact (kept (Nat.le_refl _)).symm
    | _ => rfl
  | relation name =>
    cases symbol with
    | relation relation => exact (kept (Nat.le_refl _)).symm
    | _ => rfl
  | literal name relation =>
    cases symbol with
    | literal literal =>
      simp only [State.step]
      cases Comparison.ofName name relation literal with
      | ok c => exact (kept (Nat.le_refl _)).symm
      | error fault => rfl
    | _ => rfl
  | joined term =>
    cases symbol with
    | connective connective => cases connective <;> exact (kept (Nat.le_refl _)).symm
    | closing =>
      cases implicitAnd with
      | true => exact open?_limit limit _
      | false =>
        cases outer with
        | nil => rfl
        | cons above outer => exact (kept (Nat.le_succ _)).symm
    | _ =>
      cases implicitAnd with
      | true => exact open?_limit limit _
      | false => cases outer <;> rfl

variable {limit : Nat} {previous : Option Token.Kind} {state : State} {tokens : List Token}

theorem implicit_opening {token : Token}
    (implicit : (previous = some .closing && token.kind = .opening) = true) :
    token.symbol = .opening := by
  simp only [Bool.and_eq_true, decide_eq_true_eq] at implicit
  exact kind_opening_iff.mp implicit.2

theorem feed_within (within : nestingFrom state.depth (tokens.map Token.symbol) ≤ limit) :
    feed (some limit) previous state tokens = feed none previous state tokens := by
  induction tokens generalizing previous state with
  | nil => rfl
  | cons token tokens ih =>
    simp only [List.map_cons, nestingFrom, Nat.max_le] at within
    rw [feed, feed, step_limit within.1]
    cases stepped : state.step none (previous = some .closing && token.kind = .opening) token with
    | error error => rfl
    | ok next =>
      rw [← (step_cases stepped implicit_opening).depth] at within
      rw [capped_of_le (Nat.le_trans (le_nestingFrom _ _) within.2)]
      exact ih within.2

theorem feed_beyond {fed : Option Token.Kind × State}
    (taken : feed none previous state tokens = .ok fed) (within : state.depth ≤ limit)
    (beyond : limit < nestingFrom state.depth (tokens.map Token.symbol)) :
    feed (some limit) previous state tokens = .error (.malformed .tooDeep none) := by
  induction tokens generalizing previous state with
  | nil => exact absurd beyond (Nat.not_lt.mpr within)
  | cons token tokens ih =>
    simp only [List.map_cons, nestingFrom] at beyond
    have later : limit < nestingFrom (token.symbol.depthAfter state.depth)
        (tokens.map Token.symbol) := by omega
    rw [feed] at taken ⊢
    rw [step_limit within]
    cases stepped : state.step none (previous = some .closing && token.kind = .opening) token with
    | error error => simp [stepped] at taken
    | ok next =>
      rw [stepped] at taken
      rw [← (step_cases stepped implicit_opening).depth] at later
      by_cases deep : limit < next.depth
      · simp [capped, deep]
      · rw [capped_of_le (Nat.le_of_not_lt deep)]
        exact ih taken (Nat.le_of_not_lt deep) later

def conclude (fed : Except Error (Option Token.Kind × State)) (ending : Except Error Nat) :
    Except Error Formula :=
  match fed, ending with
  | .error error, _ => .error error
  | .ok _, .error error => .error error
  | .ok (_, state), .ok position => state.finish position

theorem run_eq_feed (limit : Option Nat) {cursor : Cursor} {state : State}
    (unended : cursor.current.symbol ≠ .finish) :
    run limit cursor state =
      conclude (feed limit cursor.previous state (cursor.current :: cursor.reader.content.1))
        cursor.reader.content.2 := by
  obtain ⟨reader, current, previous⟩ := cursor
  dsimp only at unended ⊢
  induction reader using Reader.tokens.induct generalizing current previous state with
  | case1 reader error later read =>
    have stuck : Cursor.advance ⟨reader, current, previous⟩ =
        (.error error, ⟨later, current, some current.kind⟩) := Cursor.advance_error read
    rw [Reader.content_error read, feed]
    cases stepped : state.step limit (previous = some .closing && current.kind = .opening) current with
    | error error => rw [run_error unended stepped]; rfl
    | ok next => rw [run_unread unended stepped stuck]; rfl
  | case2 reader token later read last =>
    have moved : Cursor.advance ⟨reader, current, previous⟩ =
        (.ok current, ⟨later, token, some current.kind⟩) := Cursor.advance_ok read
    rw [Reader.content_finish read last, feed]
    cases stepped : state.step limit (previous = some .closing && current.kind = .opening) current with
    | error error => rw [run_error unended stepped]; rfl
    | ok next => rw [run_more unended stepped moved, run_finish last]; rfl
  | case3 reader token later read further ih =>
    have moved : Cursor.advance ⟨reader, current, previous⟩ =
        (.ok current, ⟨later, token, some current.kind⟩) := Cursor.advance_ok read
    rw [Reader.content_more read further, feed]
    cases stepped : state.step limit (previous = some .closing && current.kind = .opening) current with
    | error error => rw [run_error unended stepped]; rfl
    | ok next => rw [run_more unended stepped moved, ih token _ further]

/-- The parser as if all tokens were read before it starts. -/
theorem parseWithin_eq (limit : Option Nat) (text : String) :
    parseWithin limit text =
      match (Reader.ofText text).content with
      | ([], .ok position) => .error (.malformed .emptyRule (some position))
      | (tokens, ending) => conclude (feed limit none .start tokens) ending := by
  unfold parseWithin Cursor.ofText
  cases read : (Reader.ofText text).next with
  | mk found later =>
    cases found with
    | error error => simp [Reader.content_error read, feed, conclude]
    | ok token =>
      by_cases last : token.symbol = .finish
      · simp [Reader.content_finish read last, last]
      · simp only [last, if_false, Reader.content_more read last]
        exact run_eq_feed limit last

theorem derives_ne_nil {category : Category} {symbols : List Symbol} {tree : Formula}
    (derived : Derives category symbols tree) : symbols ≠ [] := by
  induction derived <;> simp_all

theorem parseWithin_of_content {text : String} {tokens : List Token} {ending : Except Error Nat}
    (content : (Reader.ofText text).content = (tokens, ending))
    (proper : tokens = [] → ∀ position, ending ≠ .ok position) (limit : Option Nat) :
    parseWithin limit text = conclude (feed limit none .start tokens) ending := by
  rw [parseWithin_eq, content]
  cases tokens with
  | nil =>
    cases ending with
    | error error => rfl
    | ok position => exact absurd rfl (proper rfl position)
  | cons token tokens => rfl

theorem conclude_eq_ok {fed : Except Error (Option Token.Kind × State)}
    {ending : Except Error Nat} {tree : Formula} (read : conclude fed ending = .ok tree) :
    ∃ last state position, fed = .ok (last, state) ∧ ending = .ok position ∧
      state.finish position = .ok tree := by
  unfold conclude at read
  split at read
  · cases read
  · cases read
  · exact ⟨_, _, _, rfl, rfl, read⟩

theorem feed_of_derives {tree : Formula} (position : Nat)
    (derived : Derives .expression (tokens.map Token.symbol) tree) :
    ∃ fed, feed none none .start tokens = .ok fed ∧ fed.2.finish position = .ok tree := by
  obtain ⟨kind, alternatives, term, whole, fed⟩ := taken_of_derives derived rfl none []
  refine ⟨_, fed, ?_⟩
  simp [State.finish, whole]

variable {text : String} {symbols : List Symbol} {tree : Formula}

theorem parseWithin_eq_ok_iff {cap : Option Nat} :
    parseWithin cap text = .ok tree ↔ ∃ symbols, symbols? text.toList = some symbols ∧
      (∀ most ∈ cap, nesting symbols ≤ most) ∧ Derives .expression symbols tree := by
  constructor
  · intro parsed
    rcases content : (Reader.ofText text).content with ⟨tokens, ending⟩
    have proper : tokens = [] → ∀ position, ending ≠ .ok position := by
      rintro rfl position rfl
      simp [parseWithin_eq, content] at parsed
    rw [parseWithin_of_content content proper] at parsed
    obtain ⟨last, state, position, fed, rfl, finished⟩ := conclude_eq_ok parsed
    have derived := (Reads.start.feed fed).finish finished
    rw [List.nil_append] at derived
    refine ⟨_, symbols?_eq_some_iff.mpr ⟨tokens, position, content, rfl⟩, ?_, derived⟩
    rintro most rfl
    apply Nat.le_of_not_lt
    intro beyond
    obtain ⟨whole, taken, _⟩ := feed_of_derives position derived
    rw [feed_beyond taken (Nat.zero_le most) beyond] at fed
    cases fed
  · rintro ⟨symbols, read, within, derived⟩
    obtain ⟨tokens, position, content, rfl⟩ := symbols?_eq_some_iff.mp read
    have nonempty : tokens ≠ [] := fun empty => derives_ne_nil derived (by simp [empty])
    obtain ⟨whole, taken, finished⟩ := feed_of_derives position derived
    have fed : feed cap none .start tokens = .ok whole := by
      cases cap with
      | none => exact taken
      | some most => exact (feed_within (within most rfl)).trans taken
    rw [parseWithin_of_content content (absurd · nonempty), fed]
    exact finished

theorem parseWithin_beyond {most : Nat} (read : symbols? text.toList = some symbols)
    (derived : Derives .expression symbols tree) (beyond : most < nesting symbols) :
    parseWithin (some most) text = .error (.malformed .tooDeep none) := by
  obtain ⟨tokens, position, content, rfl⟩ := symbols?_eq_some_iff.mp read
  have nonempty : tokens ≠ [] := fun empty => derives_ne_nil derived (by simp [empty])
  obtain ⟨whole, taken, _⟩ := feed_of_derives position derived
  rw [parseWithin_of_content content (absurd · nonempty), feed_beyond taken (Nat.zero_le most) beyond]
  rfl

theorem derives_iff_feed :
    Derives .expression symbols tree ↔ ∃ fed,
      feed none none .start (symbols.map (Token.mk · 0)) = .ok fed ∧ fed.2.finish 0 = .ok tree := by
  have spelled : (symbols.map (Token.mk · 0)).map Token.symbol = symbols := by
    simp [Function.comp_def]
  constructor
  · intro derived
    rw [← spelled] at derived
    exact feed_of_derives 0 derived
  · rintro ⟨⟨last, state⟩, fed, finished⟩
    have derived := (Reads.start.feed fed).finish finished
    rwa [List.nil_append, spelled] at derived

theorem derives_unique {other : Formula} (first : Derives .expression symbols tree)
    (second : Derives .expression symbols other) : tree = other := by
  obtain ⟨_, fed, finished⟩ := derives_iff_feed.mp first
  obtain ⟨_, taken, ended⟩ := derives_iff_feed.mp second
  cases fed.symm.trans taken
  exact Except.ok.inj (finished.symm.trans ended)

theorem open?_malformed {cap : Option Nat} {error : Error}
    (failed : state.open? cap = .error error) :
    ∃ fault position, error = .malformed fault position := by
  unfold State.open? at failed
  split at failed
  · cases failed
    exact ⟨_, _, rfl⟩
  · cases failed

theorem step_malformed {cap : Option Nat} {implicitAnd : Bool} {token : Token} {error : Error}
    (failed : state.step cap implicitAnd token = .error error)
    (named : ∀ name relation, state.phase = .literal name relation → isName name = true) :
    ∃ fault position, error = .malformed fault position := by
  unfold State.step at failed
  dsimp only at failed
  split at failed
  case h_1 => exact open?_malformed failed
  case h_6 name relation literal phase _ =>
    simp [Comparison.ofName, named name relation phase] at failed
  case h_10 =>
    split at failed
    · exact open?_malformed failed
    · split at failed <;> cases failed <;> exact ⟨_, _, rfl⟩
  all_goals first
    | cases failed; done
    | exact ⟨_, _, (Except.error.inj failed).symm⟩

theorem feed_error_cases {cap : Option Nat} {error : Error}
    (failed : feed cap previous state tokens = .error error) :
    ∃ front token back last next, tokens = front ++ token :: back ∧
      feed cap previous state front = .ok (last, next) ∧
      next.step cap (last = some .closing && token.kind = .opening) token = .error error := by
  induction tokens generalizing previous state with
  | nil => cases failed
  | cons token tokens ih =>
    rw [feed] at failed
    split at failed
    · rename_i stopped
      cases failed
      exact ⟨[], token, tokens, previous, state, rfl, rfl, stopped⟩
    · rename_i later stepped
      obtain ⟨front, refused, back, last, next, rfl, fed, stopped⟩ := ih failed
      refine ⟨token :: front, refused, back, last, next, rfl, ?_, stopped⟩
      rw [feed, stepped]
      exact fed

theorem Reads.named {frame : Frame} {outer : List Frame} {name : String} {relation : Relation}
    (reads : Reads previous ⟨.literal name relation, frame, outer⟩ symbols)
    (written : ∀ symbol ∈ symbols, symbol.Written) : isName name = true := by
  cases reads with
  | literal opened reads => exact (written (.name name) (by simp)).1

theorem Reads.malformed {cap : Option Nat} {consumed : List Symbol} {error : Error}
    (reads : Reads previous state consumed)
    (written : ∀ symbol ∈ consumed ++ tokens.map Token.symbol, symbol.Written)
    (failed : Parser.feed cap previous state tokens = .error error) :
    ∃ fault position, error = .malformed fault position := by
  obtain ⟨front, token, back, last, ⟨phase, frame, outer⟩, rfl, fed, refused⟩ :=
    feed_error_cases failed
  apply step_malformed refused
  rintro name relation ⟨⟩
  apply (reads.feed fed).named
  intro symbol inside
  exact written symbol (by
    rw [List.map_append, ← List.append_assoc]
    exact List.mem_append_left _ inside)

theorem finish_malformed {position : Nat} {error : Error}
    (failed : state.finish position = .error error) :
    ∃ fault position, error = .malformed fault position := by
  unfold State.finish at failed
  dsimp only at failed
  split at failed <;> cases failed <;> exact ⟨_, _, rfl⟩

theorem parseWithin_error_cases {cap : Option Nat} {error : Error}
    (failed : parseWithin cap text = .error error) :
    (∃ fault position, error = .malformed fault position) ∨
      ∃ tokens fed, (Reader.ofText text).content = (tokens, .error error) ∧
        feed cap none .start tokens = .ok fed := by
  rcases content : (Reader.ofText text).content with ⟨tokens, ending⟩
  by_cases empty : tokens = [] ∧ ∃ position, ending = .ok position
  · obtain ⟨rfl, position, rfl⟩ := empty
    rw [parseWithin_eq, content] at failed
    cases failed
    exact .inl ⟨_, _, rfl⟩
  · rw [parseWithin_of_content content fun nil position last => empty ⟨nil, position, last⟩] at failed
    unfold conclude at failed
    split at failed
    · rename_i fed
      cases failed
      refine .inl (Reads.start.malformed (fun symbol inside => ?_) fed)
      obtain ⟨token, held, rfl⟩ := List.mem_map.mp inside
      exact Reader.written_of_content content token held
    · rename_i fed
      cases failed
      exact .inr ⟨_, _, rfl, fed⟩
    · exact .inl (finish_malformed failed)

theorem parseWithin_malformed {cap : Option Nat} {error : Error}
    (read : symbols? text.toList = some symbols) (failed : parseWithin cap text = .error error) :
    ∃ fault position, error = .malformed fault position := by
  rcases parseWithin_error_cases failed with malformed | ⟨tokens, fed, stopped, _⟩
  · exact malformed
  · obtain ⟨others, position, content, _⟩ := symbols?_eq_some_iff.mp read
    cases stopped.symm.trans content

end Parser

/-- A comparison can be written if its name is not reserved and some text states its literal. -/
structure Comparison.Written (c : Comparison) : Prop where
  plain : isReserved c.name = false
  literal : c.literal.Written

theorem Derives.leaves_written {category : Category} {symbols : List Symbol} {tree : Formula}
    (derived : Derives category symbols tree) (written : ∀ symbol ∈ symbols, symbol.Written) :
    ∀ c ∈ tree.leaves, c.Written := by
  induction derived with
  | comparison c =>
    rintro d (_ | ⟨_, ⟨⟩⟩)
    exact ⟨(written (.name c.name) (by simp)).2, written (.literal c.literal) (by simp)⟩
  | group derived ih => exact ih fun symbol inside => written symbol (by simp [inside])
  | factor derived ih | term derived ih => exact ih written
  | and left right first second | adjacent left right first second | or left right first second =>
    intro c inside
    rcases List.mem_append.mp inside with inside | inside
    · exact first (fun symbol held => written symbol (by simp [held])) c inside
    · exact second (fun symbol held => written symbol (by simp [held])) c inside

theorem written_of_parseWithin {cap : Option Nat} {text : String} {tree : Formula}
    (parsed : Parser.parseWithin cap text = .ok tree) : ∀ c ∈ tree.leaves, c.Written := by
  obtain ⟨symbols, read, _, derived⟩ := Parser.parseWithin_eq_ok_iff.mp parsed
  exact derived.leaves_written (symbols?_written read)

/-- The parser accepts what the grammar derives and builds the tree that it derives, which is the
only one; and it finds a fault in everything else. -/
theorem parse_iff_derives (text : String) (tokens : List Token) (position : Nat)
    (lexed : tokenize (Text.trim text) = (tokens ++ [⟨.finish, position⟩], none))
    (within : nesting (tokens.map Token.symbol) ≤ Parser.nestingLimit) :
    (∀ tree, Formula.parse text = .ok tree ↔
      Derives .expression (tokens.map Token.symbol) tree) ∧
    (∀ tree other, Derives .expression (tokens.map Token.symbol) tree →
      Derives .expression (tokens.map Token.symbol) other → tree = other) ∧
    ((∀ tree, ¬ Derives .expression (tokens.map Token.symbol) tree) →
      ∃ fault place, Formula.parse text = .error (.malformed fault place)) := by
  have read : symbols? (Text.trim text).toList = some (tokens.map Token.symbol) :=
    symbols?_eq_some_iff.mpr ⟨tokens, position, Reader.content_of_tokenize lexed, rfl⟩
  have parsed (tree : Formula) : Formula.parse text = .ok tree ↔
      Derives .expression (tokens.map Token.symbol) tree := by
    rw [Formula.parse, Parser.parseWithin_eq_ok_iff]
    constructor
    · rintro ⟨symbols, again, _, derived⟩
      cases read.symm.trans again
      exact derived
    · intro derived
      refine ⟨_, read, ?_, derived⟩
      rintro most ⟨⟩
      exact within
  refine ⟨parsed, fun tree other => Parser.derives_unique, fun underived => ?_⟩
  cases result : Formula.parse text with
  | ok tree => exact absurd ((parsed tree).mp result) (underived tree)
  | error error =>
    obtain ⟨fault, place, rfl⟩ := Parser.parseWithin_malformed read result
    exact ⟨fault, place, rfl⟩

theorem parse_iff_derives_groups :
    let text := " (a > 1)(b = 2)\n"
    let tokens : List Token := [⟨.opening, 0⟩, ⟨.name "a", 1⟩, ⟨.relation .greater, 3⟩,
      ⟨.literal (.integer 1), 5⟩, ⟨.closing, 6⟩, ⟨.opening, 7⟩, ⟨.name "b", 8⟩,
      ⟨.relation .equal, 10⟩, ⟨.literal (.integer 2), 12⟩, ⟨.closing, 13⟩]
    let tree : Formula := .join .and (.leaf ⟨"a", .greater, .integer 1, rfl⟩)
      (.leaf ⟨"b", .equal, .integer 2, rfl⟩)
    tokenize (Text.trim text) = (tokens ++ [⟨.finish, 14⟩], none) ∧
    nesting (tokens.map Token.symbol) ≤ Parser.nestingLimit ∧
    Formula.parse text = .ok tree ∧ Derives .expression (tokens.map Token.symbol) tree := by
  intro text tokens tree
  have lexed : tokenize (Text.trim text) = (tokens ++ [⟨.finish, 14⟩], none) := by decide +kernel
  have within : nesting (tokens.map Token.symbol) ≤ Parser.nestingLimit := by decide
  have parsed : Formula.parse text = .ok tree := by decide +kernel
  exact ⟨lexed, within, parsed, ((parse_iff_derives text tokens 14 lexed within).1 tree).mp parsed⟩

end Rulebook
