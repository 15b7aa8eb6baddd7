import Rulebook.Json.Encoding

/-! Reading a value from JSON text. Tokens are taken one by one; each bracket that is open keeps
what was read inside it so far, and only so many may be open at once. -/
namespace Rulebook.Json

/-- What stands inside an open bracket: items in reverse, or fields and the key that waits for its
value. -/
inductive Frame
  | list (items : List Value)
  | object (fields : List (String × Value)) (key : String)

inductive Phase
  /-- A value must follow, or the end of the list that has just been opened. -/
  | value (first : Bool)
  /-- A key must follow, or the end of the object that has just been opened. -/
  | key (fields : List (String × Value)) (first : Bool)
  | colon (fields : List (String × Value)) (key : String)
  | after (held : Value)

structure State where
  phase : Phase
  frames : List Frame

/-- Sets a field; a key that is there keeps its place. -/
def setField (key : String) (value : Value) : List (String × Value) → List (String × Value)
  | [] => [(key, value)]
  | (name, old) :: rest =>
    if name = key then (name, value) :: rest else (name, old) :: setField key value rest

/-- The most brackets that may be open at once in a text that is read. -/
def readingLimit : Nat := 975

def State.step (limit : Option Nat) (state : State) (token : Option Token) : Except Fault State :=
  match state.phase, token, state.frames with
  | .value _, some (.value held), frames => .ok ⟨.after held, frames⟩
  | .value _, some .openList, frames => enter frames ⟨.value true, .list [] :: frames⟩
  | .value _, some .openObject, frames => enter frames ⟨.key [] true, frames⟩
  | .value true, some .closeList, .list _ :: frames => .ok ⟨.after (.list []), frames⟩
  | .key fields _, some (.value (.scalar (.text key))), frames => .ok ⟨.colon fields key, frames⟩
  | .key fields true, some .closeObject, frames => .ok ⟨.after (.object fields), frames⟩
  | .colon fields key, some .colon, frames => .ok ⟨.value false, .object fields key :: frames⟩
  | .after held, some .comma, .list items :: frames =>
    .ok ⟨.value false, .list (held :: items) :: frames⟩
  | .after held, some .closeList, .list items :: frames =>
    .ok ⟨.after (.list (held :: items).reverse), frames⟩
  | .after held, some .comma, .object fields key :: frames =>
    .ok ⟨.key (setField key held fields) false, frames⟩
  | .after held, some .closeObject, .object fields key :: frames =>
    .ok ⟨.after (.object (setField key held fields)), frames⟩
  | _, _, _ => .error .malformed
where
  enter (frames : List Frame) (next : State) : Except Fault State :=
    if limit.all (frames.length < ·) then .ok next else .error .tooDeep

/-- An empty text stands for one that is halved, which is held against the whole only in the end. -/
def Token.filled : Token → Token
  | .halved => .value (.text "")
  | token => token

/-- The value that the characters of a JSON text state. The first fault among them counts. -/
def readChars (limit : Option Nat) (chars : List Char) : Except Fault Value :=
  let found := tokens chars
  match (found.map (·.map Token.filled)).foldlM (State.step limit) ⟨.value false, []⟩ with
  | .ok ⟨.after held, []⟩ => if some .halved ∈ found then .error .halved else .ok held
  | .ok _ => .error .malformed
  | .error fault => .error fault

def read (text : String) : Except Fault Value := do
  readChars (some readingLimit) (← decode text)

end Rulebook.Json
