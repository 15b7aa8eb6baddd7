import Rulebook.Number.Quantity

/-! Values that records and documents hold, and the literals among them that a rule can name. -/
namespace Rulebook

inductive Literal
  | boolean (value : Bool)
  | integer (value : Int)
  | float (value : Binary64)
  | text (value : String)
  deriving DecidableEq, Repr

inductive Kind
  | boolean
  | number
  | string
  deriving DecidableEq, Repr

def Kind.name : Kind → String
  | .boolean => "boolean"
  | .number => "number"
  | .string => "string"

namespace Literal

def kind : Literal → Kind
  | .boolean _ => .boolean
  | .integer _ => .number
  | .float _ => .number
  | .text _ => .string

/-- Where a number lies on the extended line; a boolean counts as zero or one. -/
def quantity? : Literal → Option Quantity
  | .boolean value => some (.ofInt value.toNat)
  | .integer value => some (.ofInt value)
  | .float value => value.quantity?
  | .text _ => none

/-- Numbers are ordered by exact value, texts by code point; nothing else has an order. -/
def order? : Literal → Literal → Option Ordering
  | .text a, .text b => some (compare a b)
  | a, b => do return (← a.quantity?).compare (← b.quantity?)

/-- Equal literals are the same or lie at the same place, so `1`, `1.0` and `true` are equal. -/
def equal (a b : Literal) : Bool := a = b || a.order? b = some .eq

end Literal

/-- Objects keep the order of their fields and hold each key once. -/
inductive Value
  | null
  | scalar (literal : Literal)
  | list (items : List Value)
  | object (fields : List (String × Value))
  deriving Repr

abbrev Record := List (String × Value)

namespace Value

mutual
def decEq : (a b : Value) → Decidable (a = b)
  | .null, .null => isTrue rfl
  | .scalar a, .scalar b => decidable_of_iff (a = b) (by simp)
  | .list a, .list b => have := decEqItems a b; decidable_of_iff (a = b) (by simp)
  | .object a, .object b => have := decEqFields a b; decidable_of_iff (a = b) (by simp)
  | .null, .scalar _ | .null, .list _ | .null, .object _ => isFalse nofun
  | .scalar _, .null | .scalar _, .list _ | .scalar _, .object _ => isFalse nofun
  | .list _, .null | .list _, .scalar _ | .list _, .object _ => isFalse nofun
  | .object _, .null | .object _, .scalar _ | .object _, .list _ => isFalse nofun

def decEqItems : (a b : List Value) → Decidable (a = b)
  | [], [] => isTrue rfl
  | [], _ :: _ | _ :: _, [] => isFalse nofun
  | a :: as, b :: bs =>
    have := decEq a b
    have := decEqItems as bs
    decidable_of_iff (a = b ∧ as = bs) (by simp)

def decEqFields : (a b : List (String × Value)) → Decidable (a = b)
  | [], [] => isTrue rfl
  | [], _ :: _ | _ :: _, [] => isFalse nofun
  | (k, a) :: as, (l, b) :: bs =>
    have := decEq a b
    have := decEqFields as bs
    decidable_of_iff (k = l ∧ a = b ∧ as = bs) (by simp [and_assoc])
end

instance : DecidableEq Value := decEq

mutual
/-- Equal values have equal literals at equal places; objects may have their fields in any order. -/
def equal : Value → Value → Bool
  | .null, .null => true
  | .scalar a, .scalar b => a.equal b
  | .list a, .list b => equalItems a b
  | .object a, .object b => a.length = b.length && equalFields a b
  | _, _ => false

def equalItems : List Value → List Value → Bool
  | [], [] => true
  | a :: as, b :: bs => a.equal b && equalItems as bs
  | _, _ => false

def equalFields : List (String × Value) → List (String × Value) → Bool
  | [], _ => true
  | (key, value) :: rest, others =>
    (match others.lookup key with
      | some other => value.equal other
      | none => false) && equalFields rest others
end

abbrev boolean (value : Bool) : Value := .scalar (.boolean value)
abbrev integer (value : Int) : Value := .scalar (.integer value)
abbrev text (value : String) : Value := .scalar (.text value)

def text? : Value → Option String
  | .scalar (.text held) => some held
  | _ => none

def integer? : Value → Option Int
  | .scalar (.integer held) => some held
  | _ => none

def list? : Value → Option (List Value)
  | .list items => some items
  | _ => none

def object? : Value → Option Record
  | .object fields => some fields
  | _ => none

section Shape

variable {value : Value}

theorem text?_eq_some_iff {held : String} : value.text? = some held ↔ value = .text held := by
  unfold text?
  split <;> simp_all

theorem integer?_eq_some_iff {held : Int} : value.integer? = some held ↔ value = .integer held := by
  unfold integer?
  split <;> simp_all

theorem list?_eq_some_iff {items : List Value} : value.list? = some items ↔ value = .list items := by
  unfold list?
  split <;> simp_all

end Shape

def literal? : Value → Option Literal
  | .scalar literal => some literal
  | _ => none

def kind? (value : Value) : Option Kind := value.literal?.map Literal.kind

def typeName : Value → String
  | .null => "NoneType"
  | .scalar (.boolean _) => "bool"
  | .scalar (.integer _) => "int"
  | .scalar (.float _) => "float"
  | .scalar (.text _) => "str"
  | .list _ => "list"
  | .object _ => "dict"

end Value

end Rulebook
