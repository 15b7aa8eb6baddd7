import Rulebook.Json.Reader
import Rulebook.Service.Action
import Rulebook.Service.Route
import Rulebook.Service.Target

/-! Answering requests against a store. -/
namespace Rulebook

inductive Payload
  | empty
  | value (held : Value)
  | text (content contentType : String)
  deriving DecidableEq, Repr

structure Request where
  method : String
  target : String
  payload : Payload
  deriving DecidableEq, Repr

/-- JSON media types; spaces and tabs around them and parameters after a semicolon do not matter. -/
def isJsonType (contentType : String) : Bool :=
  let isGap (c : Char) := c = ' ' || c = '\t'
  let shown := (contentType.toList.takeWhile (· ≠ ';')).dropWhile isGap
  let kind := ((shown.reverse.dropWhile isGap).reverse).map Char.toLower
  kind = "application/json".toList ||
    ("application/".toList.isPrefixOf kind && "+json".toList.isSuffixOf kind)

/-- What a request holds. Text that is not JSON is as good as nothing, but the server fails on text
that nests too deeply. Half a character cannot be stored, and a text that holds one is taken to fail
wherever it stands. -/
def Payload.body : Payload → Except Refusal (Option Value)
  | .empty => .ok none
  | .value held => .ok (some held)
  | .text content contentType =>
    if isJsonType contentType then
      match Json.read content with
      | .ok held => .ok (some held)
      | .error .malformed => .ok none
      | .error .tooDeep | .error .halved => .error .failure
    else .ok none

namespace Service

def act (method : String) (resource : Resource) (payload : Payload) : Action Success :=
  match resource with
  | .create => do Action.create (← payload.body)
  | .combine => do Action.combine (← payload.body)
  | .evaluate => do Action.evaluate (← payload.body)
  | .list => Action.list
  | .update digits => do Action.update (Route.number digits) (← payload.body)
  | .rule digits =>
    let id := Route.number digits
    if method = "DELETE" then Action.delete id else Action.get id
  | .file => throw .unknownPath

/-- An action is answered by what it tells. Its store is kept even if it is refused. -/
def finish : Except Refusal Success × Store → Store × Response
  | (.ok success, store) => (store, ⟨success.status, some success.body⟩)
  | (.error refusal, store) => (store, refusal.response)

/-- The store after a request, and the response. A head request is answered without the body, and
options are told without acting. -/
def respond (store : Store) (request : Request) : Store × Response :=
  let method := request.method.map Char.toUpper
  match Route.ofPath method (Target.path request.target) with
  | .resource resource =>
    if method = "OPTIONS" then (store, ⟨200, none⟩)
    else
      let (store, response) := finish ((act method resource request.payload).perform store)
      (store, if method = "HEAD" then { response with body := none } else response)
  | .redirect => (store, Refusal.redirect.response)
  | .unknownMethod => (store, Refusal.unknownMethod.response)
  | .unknownPath => (store, Refusal.unknownPath.response)

def run (store : Store) : List Request → Store × List Response
  | [] => (store, [])
  | request :: rest =>
    let (store, response) := respond store request
    let (store, responses) := run store rest
    (store, response :: responses)

end Service

end Rulebook
