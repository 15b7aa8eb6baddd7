import Rulebook.Pattern.Token

/-! Reading a pattern from its text in one pass over the tokens. Each parenthesis that is open keeps
what stands before it. -/
namespace Rulebook.Pattern

inductive Fault
  | malformed
  | tooManyRounds
  deriving DecidableEq, Repr

structure Flags where
  letters : Letters
  /-- Whether lines start and end within the text. -/
  lines : Bool
  /-- Whether any character may be a line break. -/
  breaks : Bool
  deriving DecidableEq, Repr

def Flags.usual : Flags := ⟨⟨true, false⟩, false, false⟩

def Flags.turn (flags : Flags) (on off : List Char) : Flags :=
  let value (name : Char) (old : Bool) := on.contains name || (old && !off.contains name)
  let ascii := on.contains 'a' || (flags.letters.ascii && !on.contains 'u')
  ⟨⟨value 'i' flags.letters.anyCase, ascii⟩, value 'm' flags.lines, value 's' flags.breaks⟩

/-- The alternatives before the current one, and the items of the current one, both in reverse. -/
structure Level where
  branches : List Pattern
  items : List Pattern
  deriving DecidableEq, Repr

namespace Level

def sequence (items : List Pattern) : Pattern :=
  items.foldr (fun item before => .both before item) .empty

def pattern (level : Level) : Pattern :=
  level.branches.foldl (fun later branch => .either branch later) (sequence level.items)

end Level

/-- An open parenthesis and what goes on after it. The index is that of the group that it opens or
depends on; if it looks behind, of the last group before it. -/
structure Frame where
  kind : Opening
  index : Nat
  flags : Flags
  level : Level
  deriving DecidableEq, Repr

structure State where
  flags : Flags
  level : Level
  outer : List Frame
  groups : Nat
  closed : List (Nat × Option Nat)
  names : List (String × Nat)
  /-- The greatest group that a condition asks for. -/
  awaited : Nat
  /-- Whether all that looks behind is of one width. Like the groups that conditions ask for this is
  judged at the end, after any fault in the text. -/
  measured : Bool
  deriving DecidableEq, Repr

namespace State

def start : State := ⟨.usual, ⟨[], []⟩, [], 0, [], [], 0, true⟩

def push (state : State) (item : Pattern) : State :=
  { state with level := { state.level with items := item :: state.level.items } }

def isClosed (state : State) (index : Nat) : Bool := (state.closed.lookup index).isSome

/-- Whether a group may be asked for in what looks behind, which is read before the groups in it. -/
def isBefore (state : State) (index : Nat) : Bool :=
  state.outer.all fun frame =>
    match frame.kind with
    | .behind _ => state.isClosed index && index ≤ frame.index
    | _ => true

def index? (state : State) : Reference → Option Nat
  | .index value => if value = 0 then none else some value
  | .name value => state.names.lookup value

def enter (state : State) (kind : Opening) (index : Nat) : State :=
  { state with level := ⟨[], []⟩, outer := ⟨kind, index, state.flags, state.level⟩ :: state.outer }

def opened? (state : State) (kind : Opening) : Option State :=
  match kind with
  | .capture name =>
    let index := state.groups + 1
    let next := { state.enter kind index with groups := index }
    match name with
    | none => some next
    | some name =>
      if (state.names.lookup name).isSome then none
      else some { next with names := (name, index) :: state.names }
  | .scoped on off => some { state.enter kind 0 with flags := state.flags.turn on off }
  | .given condition => do
    let index ← state.index? condition
    if state.isBefore index then
      some { state.enter kind index with awaited := max state.awaited index }
    else none
  | .behind _ => some (state.enter kind state.groups)
  | _ => some (state.enter kind 0)

def widthLimit : Nat := 2 ^ 32

/-- The part between a parenthesis and the one that closes it. Of what depends on a group there are
two alternatives at most. -/
def Frame.close? (frame : Frame) (width : Option Nat) (level : Level) : Option Pattern :=
  match frame.kind with
  | .capture _ => some (.group frame.index level.pattern)
  | .scoped _ _ => some level.pattern
  | .ahead negated => some (.ahead negated level.pattern)
  | .behind negated => some (.behind negated (width.getD 0) level.pattern)
  | .atomic => some (.atomic level.pattern)
  | .given _ =>
    match level.branches with
    | [] => some (.given frame.index (Level.sequence level.items) .empty)
    | [yes] => some (.given frame.index yes (Level.sequence level.items))
    | _ => none

def closed? (state : State) : Option State :=
  match state.outer with
  | [] => none
  | frame :: outer =>
    let width := state.level.pattern.width? fun index => (state.closed.lookup index).join
    let next := { state with flags := frame.flags, level := frame.level, outer := outer }
    let next := match frame.kind with
      | .capture _ => { next with closed := (frame.index, width) :: state.closed }
      | .behind _ => { next with measured := state.measured && width.any (· < widthLimit) }
      | _ => next
    (Frame.close? frame width state.level).map next.push

def step? (state : State) (token : Token) : Option State :=
  let flags := state.flags
  match token with
  | .one negated members => some (state.push (.one flags.letters negated members))
  | .any =>
    let excluded := if flags.breaks then [] else [Member.ofCode '\n'.toNat]
    some (state.push (.one flags.letters true excluded))
  | .lineStart => some (state.push (.anchor (if flags.lines then .lineStart else .start)))
  | .lineEnd => some (state.push (.anchor (if flags.lines then .lineEnd else .lastLineEnd)))
  | .start => some (state.push (.anchor .start))
  | .finish => some (state.push (.anchor .finish))
  | .boundary negated => some (state.push (.anchor (.boundary flags.letters.ascii negated)))
  | .repetition least most mode =>
    match state.level.items with
    | [] => none
    | item :: before =>
      if item.isRepeatable && most.all (least ≤ ·) then
        some { state with
          level := { state.level with items := .repeated item least most mode :: before } }
      else none
  | .reference asked =>
    match state.index? asked with
    | none => none
    | some index =>
      if state.isClosed index && state.isBefore index then
        some (state.push (.again flags.letters index))
      else none
  | .opening kind => state.opened? kind
  | .bar =>
    some { state with level := ⟨Level.sequence state.level.items :: state.level.branches, []⟩ }
  | .closing => state.closed?
  | .switches on =>
    if state.outer.isEmpty && state.level = ⟨[], []⟩ then
      some { state with flags := flags.turn on [] }
    else none
  | .aside => some state
  | .broken => none

def roundsLimit : Nat := 2 ^ 32 - 1

def step (state : State) (token : Token) : Except Fault State :=
  let isExcessive := match token with
    | .repetition least most _ => roundsLimit ≤ least || most.any (roundsLimit ≤ ·)
    | _ => false
  if isExcessive then .error .tooManyRounds
  else
    match state.step? token with
    | some next => .ok next
    | none => .error .malformed

end State

def read (text : String) : Except Fault Pattern := do
  let state ← (tokens [] (glyphs text.toList)).foldlM State.step .start
  if state.outer.isEmpty && state.awaited ≤ state.groups && state.measured then
    .ok state.level.pattern
  else .error .malformed

end Rulebook.Pattern
