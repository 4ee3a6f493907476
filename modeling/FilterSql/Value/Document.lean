import FilterSql.Json.Printer
import FilterSql.Value.Basic

/-!
# Values and JSON documents

Every document is a value. A value is a document if all its floating point numbers are
finite; the entries of an object that share a key then become one member, and words that
a signed word holds become the same number whether they were signed or not. A scalar
other than null also has a text of its own, the one in which a database shows a JSON
scalar as text.
-/

set_option autoImplicit false

namespace FilterSql

/-- A floating point number that no document can hold. -/
structure NonFinite where
  number : Float
deriving DecidableEq

/-- Why a number that is not finite cannot be written. -/
def NonFinite.message (e : NonFinite) : String :=
  Decimal.floatText e.number ++ " is not a finite number"

namespace Value

/-- A JSON number as a value: the signed representation where it fits. -/
def ofNumber : Json.Number → Value
  | .whole n _ _ =>
    if n < 0x8000000000000000 then .signed (Int64.ofInt n) else .unsigned (UInt64.ofNat n.toNat)
  | .float x _ => .float x

mutual

/-- A document as a value. -/
def ofJson : Json → Value
  | .null => .null
  | .bool b => .bool b
  | .number n => ofNumber n
  | .string s => .string s
  | .array items => .list (ofItems items)
  | .object members => .object (ofMembers members)

/-- The elements of an array as values. -/
def ofItems : List Json → List Value
  | [] => []
  | item :: rest => ofJson item :: ofItems rest

/-- The members of an object as entries. -/
def ofMembers : List (String × Json) → List (String × Value)
  | [] => []
  | (key, value) :: rest => (key, ofJson value) :: ofMembers rest

end

mutual

/-- The document that a value is, or the first of its numbers that is not finite. -/
def toJson : Value → Except NonFinite Json
  | .null => .ok .null
  | .bool b => .ok (.bool b)
  | .signed n => .ok (.number (.ofInt64 n))
  | .unsigned n => .ok (.number (.ofUInt64 n))
  | .float x =>
    match Json.Number.ofFloat? x with
    | some n => .ok (.number n)
    | none => .error ⟨x⟩
  | .string s => .ok (.string s)
  | .list items => do return .array (← itemsToJson items)
  | .object entries => do return .object (Members.collapse (← entriesToJson entries))

/-- The elements of a list as documents. -/
def itemsToJson : List Value → Except NonFinite (List Json)
  | [] => .ok []
  | item :: rest => do
    let first ← toJson item
    let others ← itemsToJson rest
    return first :: others

/-- The entries of an object as members, those of a repeated key included. -/
def entriesToJson : List (String × Value) → Except NonFinite (List (String × Json))
  | [] => .ok []
  | (key, value) :: rest => do
    let first ← toJson value
    let others ← entriesToJson rest
    return (key, first) :: others

end

/-- The text of a scalar other than null. -/
def toText? : Value → Option String
  | .bool true => some "true"
  | .bool false => some "false"
  | .signed n => some (String.ofList (Json.wholeChars n.toInt))
  | .unsigned n => some (String.ofList (Json.wholeChars n.toNat))
  | .float x => some (Decimal.floatText x)
  | .string s => some s
  | .null | .list _ | .object _ => none

end Value

end FilterSql
