import Rulebook.Pattern.Matching
import Rulebook.Pattern.Reader
import Rulebook.Text.Blank
import Rulebook.Text.CaseFold
import Rulebook.Text.Quoted
import Rulebook.Value.Display

/-! Which origins may use the service, and which one a response names. -/
namespace Rulebook

/-- How allowed origins are stated: all at once, one by its name, those of a pattern, or one by a
value that is no text and is known by its display. -/
inductive Entry
  | all
  | name (text : String)
  | pattern (form : Pattern)
  | display (text : String)
  deriving DecidableEq, Repr

structure EntryFault where
  text : String
  cause : Pattern.Fault
  deriving DecidableEq, Repr

def EntryFault.message (fault : EntryFault) : String :=
  match fault.cause with
  | .malformed =>
    "Invalid regular expression in Flask-CORS configuration: " ++ Text.quoted fault.text
  | .tooManyRounds => "the repetition number is too large"

namespace Entry

def isPatternChar (c : Char) : Bool := ['*', '\\', '[', ']', '?', '$', '^', '(', ')'].contains c

def ofText (text : String) : Except EntryFault Entry :=
  if text = "*" || text = ".*" then .ok .all
  else if text.toList.any isPatternChar then
    match Pattern.read text with
    | .ok form => .ok (.pattern form)
    | .error cause => .error ⟨text, cause⟩
  else .ok (.name text)

def ofValue : Value → Except EntryFault Entry
  | .scalar (.text text) => ofText text
  | value => .ok (.display value.display)

def name? : Entry → Option String
  | .name text => some text
  | _ => none

def allows (entry : Entry) (origin : String) : Bool :=
  match entry with
  | .all => true
  | .name text | .display text => Text.foldCase text = Text.foldCase origin
  | .pattern form => form.accepts origin

end Entry

inductive Origins
  | all
  | listed (entries : List Entry)
  deriving DecidableEq, Repr

namespace Origins

def pieces : List Char → List (List Char)
  | [] => [[]]
  | c :: rest =>
    match pieces rest with
    | [] => [[c]]
    | first :: others => if c = ',' then [] :: first :: others else (c :: first) :: others

def names (text : String) : List String :=
  ((pieces text.toList).map Text.trimChars).filter (!·.isEmpty) |>.map String.ofList

def ofEntries (entries : List Entry) : Origins :=
  if entries.contains .all then .all else .listed entries

/-- The names of a text, the items of a list and the keys of an object are entries; what is none of
these is an entry itself. -/
def entries : Value → Except EntryFault (List Entry)
  | .scalar (.text text) => (names text).mapM Entry.ofText
  | .list items => items.mapM Entry.ofValue
  | .object fields => fields.mapM fun field => Entry.ofText field.1
  | single => [single].mapM Entry.ofValue

def ofSetting (setting : Value) : Except EntryFault Origins := (entries setting).map ofEntries

def allows (origins : Origins) (origin : String) : Bool :=
  match origins with
  | .all => true
  | .listed entries => entries.any (·.allows origin)

def least? : List String → Option String
  | [] => none
  | name :: rest =>
    match least? rest with
    | none => some name
    | some other => some (if other < name then other else name)

end Origins

structure Sharing where
  origins : Origins
  /-- Whether a request that leaves its origin empty learns an origin. -/
  always : Bool
  /-- Whether a star stands for any origin if all are allowed. -/
  star : Bool
  credentials : Bool
  deriving DecidableEq, Repr

namespace Sharing

/-- The origin that a request learns which leaves its own empty: the least name that is listed, or a
star, which does not go with credentials. -/
def unasked? (sharing : Sharing) : Option String :=
  match sharing.origins with
  | .all => if sharing.credentials then none else some "*"
  | .listed entries => Origins.least? (entries.filterMap Entry.name?)

def allow? (sharing : Sharing) (origin : String) : Option String :=
  if origin.isEmpty then if sharing.always then sharing.unasked? else none
  else if sharing.origins.allows origin then
    some (if sharing.star && sharing.origins = .all then "*" else origin)
  else none

end Sharing

end Rulebook
