import Rulebook.Formula.Parser
import Rulebook.Formula.Printer

/-! Several rules joined into one by the connective that most of them have at the top. -/
namespace Rulebook

/-- The connective with more votes; a draw goes to OR. -/
def Connective.majority (tops : List (Option Connective)) : Connective :=
  if tops.count (some .or) < tops.count (some .and) then .and else .or

def joinTexts (connective : Connective) : List String → String
  | [] => ""
  | [text] => "(" ++ Text.trim text ++ ")"
  | text :: rest =>
    "(" ++ Text.trim text ++ ") " ++ connective.name ++ " " ++ joinTexts connective rest

namespace Tree

variable {α : Type}

def majority (trees : List (Tree α)) : Connective := .majority (trees.map top?)

def joinAll (connective : Connective) (first : Tree α) (rest : List (Tree α)) : Tree α :=
  rest.foldl (.join connective) first

end Tree

def combine {α : Type} (roots : List (Tree α)) (texts : List String) :
    Except ArgumentFault (Tree α × String) :=
  match roots with
  | [] => .error .noRules
  | first :: rest =>
    if texts.length ≠ roots.length then .error (.textCount roots.length texts.length)
    else
      let connective := Tree.majority roots
      .ok (Tree.joinAll connective first rest, joinTexts connective texts)

def Candidate.drafts : List Candidate → Except ArgumentFault (List Draft)
  | [] => .ok []
  | .draft held :: rest => do return held :: (← drafts rest)
  | .value held :: _ => .error (.notRule held.typeName)

def Value.texts : List Value → Except ArgumentFault (List String)
  | [] => .ok []
  | .scalar (.text held) :: rest => do return held :: (← texts rest)
  | other :: _ => .error (.notText other.typeName)

/-- Rules without texts of their own are written out; a blank leaf has no text. -/
def Draft.source (draft : Draft) : String :=
  Tree.source (fun leaf => (leaf.map Comparison.source).getD "") draft

/-- Combines candidates, with their texts if given. The rules are checked first, then how many texts
there are, then the texts themselves. -/
def Candidate.combine (roots : List Candidate) (texts : Option (List Value)) :
    Except ArgumentFault (Draft × String) := do
  let drafts ← drafts roots
  match texts with
  | none => Rulebook.combine drafts (drafts.map Draft.source)
  | some values =>
    if drafts.isEmpty then .error .noRules
    else if values.length ≠ drafts.length then .error (.textCount drafts.length values.length)
    else do Rulebook.combine drafts (← Value.texts values)

def Formula.combineTexts (texts : List Value) : Except Error (Formula × String) := do
  let roots ← texts.mapM parseValue
  let strings ← (Value.texts texts).mapError .argument
  (combine roots strings).mapError .argument

end Rulebook
