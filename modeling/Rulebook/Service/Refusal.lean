import Rulebook.Error

/-! Why a request is not carried out. A refusal has a status and, unless it comes from the server
itself, a message. -/
namespace Rulebook

inductive Refusal
  | noBody
  | required (field : String)
  | emptyIds
  | idList
  | rule (error : Error)
  | absent (id : Int)
  | absentAll (ids : List Int)
  | unknownPath
  | unknownMethod
  | redirect
  /-- The server cannot answer: an identity is out of reach, or the host can not read or store what it
  is given. -/
  | failure
  deriving DecidableEq, Repr

/-- A response without a body is none that holds JSON. -/
structure Response where
  status : Nat
  body : Option Value
  deriving DecidableEq, Repr

namespace Refusal

def status : Refusal → Nat
  | .noBody | .required _ | .emptyIds | .idList => 400
  | .rule (.numeral _) => 500
  | .rule _ => 400
  | .absent _ | .absentAll _ | .unknownPath => 404
  | .unknownMethod => 405
  | .redirect => 308
  | .failure => 500

def message? : Refusal → Option String
  | .noBody => some "Request body must be a JSON object"
  | .required field => some s!"'{field}' is required"
  | .emptyIds => some "'ruleIds' must not be empty"
  | .idList => some "'ruleIds' must be a list of rule ids"
  | .rule (.numeral _) => none
  | .rule error => some error.message
  | .absent id => some s!"Rule {id} not found"
  | .absentAll ids => some ("Rules not found: " ++ (Value.list (ids.map Value.integer)).display)
  | .unknownPath | .unknownMethod | .redirect | .failure => none

def response (refusal : Refusal) : Response :=
  ⟨refusal.status, refusal.message?.map fun message => .object [("error", .text message)]⟩

end Refusal

end Rulebook
