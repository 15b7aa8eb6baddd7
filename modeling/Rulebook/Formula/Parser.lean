import Rulebook.Formula
import Rulebook.Text.Blank
import Rulebook.Token.Cursor

/-! Reading a formula in one pass over the tokens. AND binds tighter than OR, both associate to the
left, and a group right after a group is joined to it as by AND. -/
namespace Rulebook

namespace Parser

/-- What stands before the current point between one opening parenthesis and its closing one: the
formula left of a pending OR, and the one left of a pending AND in the term after it. -/
structure Frame where
  alternatives : Option Formula
  conjuncts : Option Formula
  deriving DecidableEq, Repr

namespace Frame

def empty : Frame := ⟨none, none⟩

def term (frame : Frame) (factor : Formula) : Formula :=
  match frame.conjuncts with
  | none => factor
  | some left => .join .and left factor

def expression (frame : Frame) (term : Formula) : Formula :=
  match frame.alternatives with
  | none => term
  | some left => .join .or left term

end Frame

inductive Phase
  | operand
  | relation (name : String)
  | literal (name : String) (relation : Relation)
  /-- The term so far ends in a whole factor. -/
  | joined (term : Formula)
  deriving DecidableEq, Repr

/-- The innermost frame comes first, then one for each parenthesis that is open around it. -/
structure State where
  phase : Phase
  frame : Frame
  outer : List Frame
  deriving DecidableEq, Repr

/-- The most parentheses that may be open at once. The host gives up where its stack ends, a place that
moves with what else is on the stack. Here it is fixed: only open parentheses count, each as it opens. -/
def nestingLimit : Nat := 320

namespace State

def start : State := ⟨.operand, .empty, []⟩

def depth (state : State) : Nat := state.outer.length

def open? (limit : Option Nat) (state : State) : Except Error State :=
  if limit.any (· < state.depth + 1) then .error (.malformed .tooDeep none)
  else .ok ⟨.operand, .empty, state.frame :: state.outer⟩

def accept (state : State) (factor : Formula) : State :=
  ⟨.joined (state.frame.term factor), ⟨state.frame.alternatives, none⟩, state.outer⟩

def conjoin (state : State) (term : Formula) : State :=
  ⟨.operand, ⟨state.frame.alternatives, some term⟩, state.outer⟩

def disjoin (state : State) (term : Formula) : State :=
  ⟨.operand, ⟨some (state.frame.expression term), none⟩, state.outer⟩

/-- The state after a token other than the end. `implicitAnd` says whether the token opens a group
right after another group. -/
def step (limit : Option Nat) (implicitAnd : Bool) (state : State) (token : Token) :
    Except Error State :=
  let fail (fault : SyntaxFault) := Except.error (.malformed fault (some token.position))
  match state.phase, token.symbol with
  | .operand, .opening => state.open? limit
  | .operand, .name name => .ok { state with phase := .relation name }
  | .operand, found => fail (.operand found)
  | .relation name, .relation relation => .ok { state with phase := .literal name relation }
  | .relation name, _ => fail (.relation name)
  | .literal name relation, .literal literal =>
    match Comparison.ofName name relation literal with
    | .ok comparison => .ok (state.accept (.leaf comparison))
    | .error fault => .error (.argument fault)
  | .literal name relation, _ => fail (.literal name relation)
  | .joined term, .connective .and => .ok (state.conjoin term)
  | .joined term, .connective .or => .ok (state.disjoin term)
  | .joined term, found =>
    if implicitAnd then (state.conjoin term).open? limit
    else match state.outer, found with
      | frame :: outer, .closing =>
        .ok (State.accept ⟨state.phase, frame, outer⟩ (state.frame.expression term))
      | _ :: _, _ => fail .unclosed
      | [], .closing => fail .unopened
      | [], _ => fail (.trailing found)

def finish (state : State) (position : Nat) : Except Error Formula :=
  let fail (fault : SyntaxFault) := Except.error (.malformed fault (some position))
  match state.phase, state.outer with
  | .operand, _ => fail .operandAtEnd
  | .relation name, _ => fail (.relation name)
  | .literal name relation, _ => fail (.literal name relation)
  | .joined _, _ :: _ => fail .unclosed
  | .joined term, [] => .ok (state.frame.expression term)

end State

theorem size_advance_lt {cursor later : Cursor} {token : Token}
    (read : cursor.advance = (.ok token, later)) (unended : cursor.current.symbol ≠ .finish) :
    later.size < cursor.size := by
  unfold Cursor.advance at read
  split at read
  · rename_i next reader found
    simp only [Prod.mk.injEq] at read
    obtain ⟨-, rfl⟩ := read
    have length := cursor.reader.length_rest_next
    rw [found] at length
    dsimp only at length
    by_cases last : next.symbol = .finish
    · simp [Cursor.size, last, unended]
      omega
    · have := Reader.length_rest_lt found last
      simp [Cursor.size, last, unended]
      omega
  · simp at read

def run (limit : Option Nat) (cursor : Cursor) (state : State) : Except Error Formula :=
  if _more : cursor.current.symbol = .finish then state.finish cursor.current.position
  else
    match state.step limit cursor.implicitAnd cursor.current with
    | .error error => .error error
    | .ok state =>
      match _read : cursor.advance with
      | (.error error, _) => .error error
      | (.ok _, later) => run limit later state
  termination_by cursor.size
  decreasing_by exact size_advance_lt _read _more

theorem run_finish {limit : Option Nat} {cursor : Cursor} {state : State}
    (last : cursor.current.symbol = .finish) :
    run limit cursor state = state.finish cursor.current.position := by
  rw [run, dif_pos last]

theorem run_error {limit : Option Nat} {cursor : Cursor} {state : State} {error : Error}
    (unended : cursor.current.symbol ≠ .finish)
    (stopped : state.step limit cursor.implicitAnd cursor.current = .error error) :
    run limit cursor state = .error error := by
  rw [run, dif_neg unended, stopped]

theorem run_unread {limit : Option Nat} {cursor later : Cursor} {state next : State}
    {error : Error} (unended : cursor.current.symbol ≠ .finish)
    (stepped : state.step limit cursor.implicitAnd cursor.current = .ok next)
    (read : cursor.advance = (.error error, later)) : run limit cursor state = .error error := by
  rw [run, dif_neg unended, stepped]
  dsimp only
  split <;> simp_all

theorem run_more {limit : Option Nat} {cursor later : Cursor} {state next : State} {token : Token}
    (unended : cursor.current.symbol ≠ .finish)
    (stepped : state.step limit cursor.implicitAnd cursor.current = .ok next)
    (read : cursor.advance = (.ok token, later)) :
    run limit cursor state = run limit later next := by
  rw [run, dif_neg unended, stepped]
  dsimp only
  split <;> simp_all

/-- Reads a text without blanks at its ends. No limit means any depth of nesting. -/
def parseWithin (limit : Option Nat) (text : String) : Except Error Formula :=
  match Cursor.ofText text with
  | .error error => .error error
  | .ok cursor =>
    if cursor.current.symbol = .finish then
      .error (.malformed .emptyRule (some cursor.current.position))
    else run limit cursor .start

end Parser

def Formula.parse (text : String) : Except Error Formula :=
  Parser.parseWithin (some Parser.nestingLimit) (Text.trim text)

def Formula.parseValue : Value → Except Error Formula
  | .scalar (.text text) => parse text
  | _ => .error (.malformed .notText none)

end Rulebook
