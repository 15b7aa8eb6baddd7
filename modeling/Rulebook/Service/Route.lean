import Rulebook.Error
import Rulebook.Text.Digit

/-! Where a request goes. Identities in paths are digits of any script, leading zeros allowed. -/
namespace Rulebook

inductive Resource
  | create
  | combine
  | evaluate
  | list
  | update (digits : List Char)
  | rule (digits : List Char)
  /-- A file of the service, which has none. -/
  | file
  deriving DecidableEq, Repr

namespace Resource

/-- The methods a resource answers; every one also tells its options. -/
def methods : Resource → List String
  | .create | .combine | .evaluate => ["POST", "OPTIONS"]
  | .list | .file => ["GET", "HEAD", "OPTIONS"]
  | .update _ => ["PUT", "OPTIONS"]
  | .rule _ => ["GET", "HEAD", "DELETE", "OPTIONS"]

def answers (resource : Resource) (method : String) : Bool := resource.methods.contains method

/-- Identities with too many digits are not read. -/
def isLegible : Resource → Bool
  | .update digits | .rule digits => digits.length ≤ digitLimit
  | _ => true

end Resource

inductive Route
  | resource (found : Resource)
  /-- The path would be right with one slash more, or without doubled slashes. -/
  | redirect
  | unknownMethod
  | unknownPath
  deriving DecidableEq, Repr

namespace Route

def after? (front : String) (path : List Char) : Option (List Char) :=
  if front.toList.isPrefixOf path then some (path.drop front.length) else none

def digits? (chars : List Char) : Option (List Char) :=
  if chars.isEmpty then none
  else if chars.all fun c => (Text.digitValue? c).isSome then some chars
  else none

def number (digits : List Char) : Nat :=
  digits.foldl (fun value c => 10 * value + (Text.digitValue? c).getD 0) 0

def isFileName : List Char → Bool
  | [] => false
  | c :: rest => c ≠ '/' && !rest.contains '\n'

def base : String := "/api/rules"

def ruleResource? (rest : List Char) : Option Resource :=
  if rest = "/".toList then some .list
  else if rest = "/create".toList then some .create
  else if rest = "/combine".toList then some .combine
  else if rest = "/evaluate".toList then some .evaluate
  else
    match after? "/update/" rest with
    | some chars => (digits? chars).map .update
    | none => (after? "/" rest).bind fun chars => (digits? chars).map .rule

def resource? (path : List Char) : Option Resource :=
  match after? base path with
  | some rest => ruleResource? rest
  | none =>
    match after? "/static/" path with
    | some name => if isFileName name then some .file else none
    | none => none

def mergeSlashes : List Char → List Char
  | '/' :: '/' :: rest => mergeSlashes ('/' :: rest)
  | c :: rest => c :: mergeSlashes rest
  | [] => []

/-- A rule is looked for at its path first to be read and then to be deleted, so an identity that is
not legible leaves a deletion with a path that is known for reading. -/
def ofPath (method : String) (path : List Char) : Route :=
  match resource? path with
  | some found =>
    if !found.answers method then .unknownMethod
    else if found.isLegible then .resource found
    else if method = "DELETE" then .unknownMethod
    else .unknownPath
  | none =>
    let merged := mergeSlashes path
    match resource? merged with
    | some found => if found.answers method then .redirect else .unknownMethod
    | none =>
      if merged = base.toList && Resource.list.answers method then .redirect else .unknownPath

end Route

end Rulebook
