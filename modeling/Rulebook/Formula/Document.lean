import Rulebook.Formula

/-! Formulas as documents: one object for each node, with a type, a value and two children. -/
namespace Rulebook

namespace Comparison

def document (c : Comparison) : Value :=
  .object [
    ("type", .text "operand"),
    ("value", .object [
      ("attribute", .text c.name),
      ("operator", .text c.relation.sign),
      ("literal", .scalar c.literal)]),
    ("left", .null),
    ("right", .null)]

/-- Reads the value of an operand; keys besides the three are ignored. -/
def ofDocument (value : Value) : Except DocumentFault Comparison :=
  match value with
  | .object fields =>
    match fields.lookup "attribute", fields.lookup "operator", fields.lookup "literal" with
    | some name, some relation, some literal =>
      match Comparison.ofValues name relation literal with
      | .ok comparison => .ok comparison
      | .error fault => .error (.argument fault)
    | _, _, _ =>
      let present (key : String) := (fields.lookup key).isSome
      .error (.missingKeys (["attribute", "operator", "literal"].filter fun key => !present key))
  | _ => .error .operandValue

end Comparison

namespace Formula

def document : Formula → Value
  | .leaf comparison => comparison.document
  | .join connective left right =>
    .object [
      ("type", .text "operator"),
      ("value", .text connective.name),
      ("left", document left),
      ("right", document right)]

def field (fields : Record) (key : String) : Value := (fields.lookup key).getD .null

mutual
def ofDocument (value : Value) : Except DocumentFault Formula :=
  match value with
  | .object fields =>
    match field fields "type" with
    | .scalar (.text "operator") =>
      if field fields "left" = .null || field fields "right" = .null then .error .childless
      else
        match childAt "left" fields with
        | .error fault => .error fault
        | .ok left =>
          match childAt "right" fields with
          | .error fault => .error fault
          | .ok right =>
            match Connective.ofValue (field fields "value") with
            | .error fault => .error (.argument fault)
            | .ok connective => .ok (.join connective left right)
    | .scalar (.text "operand") =>
      if field fields "left" ≠ .null || field fields "right" ≠ .null then .error .operandChildren
      else
        match Comparison.ofDocument (field fields "value") with
        | .error fault => .error fault
        | .ok comparison => .ok (.leaf comparison)
    | other => .error (.unknownType other)
  | other => .error (.notObject other.typeName)

def childAt (key : String) : List (String × Value) → Except DocumentFault Formula
  | [] => .error .childless
  | (name, value) :: rest => if name = key then ofDocument value else childAt key rest
end

end Formula

end Rulebook
