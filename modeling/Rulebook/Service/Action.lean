import Rulebook.Formula.Combination
import Rulebook.Service.Refusal
import Rulebook.Service.Store

/-! What requests do to the store. An action goes step by step, and what it has written stays written
even if it is refused later. -/
namespace Rulebook

structure Success where
  status : Nat
  body : Value
  deriving DecidableEq, Repr

/-- Steps on a store. The first that is refused is the last. -/
abbrev Action (α : Type) := ExceptT Refusal (StateM Store) α

namespace Action

def perform {α : Type} (action : Action α) (store : Store) : Except Refusal α × Store :=
  action.run.run store

def objectBody (body : Option Value) : Except Refusal Record :=
  match body with
  | some (.object fields) => .ok fields
  | _ => .error .noBody

def require {α : Type} (take : Value → Option α) (body : Record) (field : String) :
    Except Refusal α :=
  match (body.lookup field).bind take with
  | some held => .ok held
  | none => .error (.required field)

def integers : List Value → Except Refusal (List Int)
  | [] => .ok []
  | .scalar (.integer id) :: rest => do return id :: (← integers rest)
  | _ :: _ => .error .idList

def requireIds (body : Record) : Except Refusal (List Int) := do
  let items ← require Value.list? body "ruleIds"
  if items.isEmpty then .error .emptyIds else integers items

/-- The identities that can be looked up are those of 64 bits. -/
def inReach (id : Int) : Bool := -2 ^ 63 ≤ id && id < 2 ^ 63

def parse (text : String) : Except Refusal Formula := (Formula.parse text).mapError .rule

def root (row : Row) : Except Refusal Formula :=
  row.root.mapError fun
    | .text _ => .failure
    | .document fault => .rule (.document fault)

/-- A formula is stored as JSON text, in which it must not nest too deeply. -/
def writable (formula : Formula) : Except Refusal Unit :=
  if Json.depth formula.document ≤ Json.writingLimit then .ok () else .error .failure

def find? (id : Int) : Action (Option Row) := do
  if inReach id then return (← get).find? id else throw .failure

def find (id : Int) : Action Row := do
  match ← find? id with
  | some row => return row
  | none => throw (.absent id)

def findAll : List Int → Action (List (Row × Formula) × List Int)
  | [] => return ([], [])
  | id :: rest => do
    match ← find? id with
    | none =>
      let (found, absent) ← findAll rest
      return (found, id :: absent)
    | some row =>
      let formula ← root row
      let (found, absent) ← findAll rest
      return ((row, formula) :: found, absent)

def findEvery (ids : List Int) : Action (List (Row × Formula)) := do
  let (found, absent) ← findAll ids
  if absent.isEmpty then return found else throw (.absentAll absent)

def insert (name text : String) (formula : Formula) : Action Row := do
  writable formula
  let store ← get
  if inReach (store.lastId + 1) then
    let (later, row) := store.insert name text formula
    set later
    return row
  else throw .failure

def replace (row : Row) (formula : Formula) : Action Unit := do
  writable formula
  modify (·.replace row)

/-- Whether there was a row to erase shows only afterwards. -/
def erase (id : Int) : Action Bool := do
  if inReach id then
    let before ← get
    modify (·.erase id)
    return (← get).rows.length < before.rows.length
  else throw .failure

def add (name text : String) (formula : Formula) : Action Success := do
  let row ← insert name text formula
  return ⟨201, (row.rule formula).document⟩

def create (body : Option Value) : Action Success := do
  let body ← objectBody body
  let name ← require Value.text? body "name"
  let text ← require Value.text? body "ruleString"
  add name (Text.trim text) (← parse text)

def combine (body : Option Value) : Action Success := do
  let body ← objectBody body
  let name ← require Value.text? body "name"
  let found ← findEvery (← requireIds body)
  let combined := Rulebook.combine (found.map (·.2)) (found.map (·.1.text))
  let (formula, text) ← combined.mapError fun fault => Refusal.rule (.argument fault)
  add name text formula

/-- A rule text in the body is preferred to the identity of a stored rule. -/
def formulaOf (body : Record) : Action Formula := do
  if (body.lookup "ruleString").isSome then parse (← require Value.text? body "ruleString")
  else root (← find (← require Value.integer? body "ruleId"))

def evaluate (body : Option Value) : Action Success := do
  let body ← objectBody body
  let data ← require Value.object? body "data"
  let formula ← formulaOf body
  let truth ← (formula.evaluate data).mapError fun fault => Refusal.rule (.evaluation fault)
  return ⟨200, .object [("result", .boolean truth)]⟩

def nameIn? (body : Record) : Option String := (body.lookup "name").bind Value.text?

/-- A name in the body that is no text is passed over. -/
def update (id : Nat) (body : Option Value) : Action Success := do
  let body ← objectBody body
  let text ← require Value.text? body "ruleString"
  let row ← find id
  let _ ← root row
  let formula ← parse text
  let name := (nameIn? body).getD row.name
  let row := { row with name := name, text := Text.trim text, document := formula.document }
  replace row formula
  return ⟨200, (row.rule formula).document⟩

def ruleDocument (row : Row) : Except Refusal Value := do
  return (row.rule (← root row)).document

def list : Action Success := do
  let rows := (← get).rows
  return ⟨200, .list (← (rows.mapM ruleDocument : Except Refusal (List Value)))⟩

def get (id : Nat) : Action Success := do
  return ⟨200, ← ruleDocument (← find id)⟩

def delete (id : Nat) : Action Success := do
  if ← erase id then return ⟨200, .object [("message", .text s!"Rule {id} deleted")]⟩
  else throw (.absent id)

end Action

end Rulebook
