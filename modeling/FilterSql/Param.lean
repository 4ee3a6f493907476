import FilterSql.Value.Document

/-!
# Parameters

A statement holds no value in its text: each value is bound to a placeholder. The
placeholder of a parameter is its position in the list of all parameters, counted from
one, so new parameters always continue after those that are already there.
-/

set_option autoImplicit false

namespace FilterSql

/-- A value bound to a placeholder. `json` carries the text of a document. -/
inductive Param
  | null
  | bool (b : Bool)
  | signed (n : Int64)
  | unsigned (n : UInt64)
  | float (x : Float)
  | text (s : String)
  | textArray (texts : List String)
  | json (text : String)
deriving DecidableEq

namespace Param

/-- The parameter of a scalar value. Lists and objects have none. -/
def ofScalar? : Value → Option Param
  | .null => some .null
  | .bool b => some (.bool b)
  | .signed n => some (.signed n)
  | .unsigned n => some (.unsigned n)
  | .float x => some (.float x)
  | .string s => some (.text s)
  | .list _ | .object _ => none

/-- An unsigned word as a parameter, signed if a signed word holds it. -/
def ofUInt64 (n : UInt64) : Param :=
  if n.toNat < 0x8000000000000000 then .signed n.toInt64 else .unsigned n

/-- The document that shows a parameter. A number that is not finite shows as null, and a
JSON parameter as the string of its text. -/
def toJson : Param → Json
  | .null => .null
  | .bool b => .bool b
  | .signed n => .number (.ofInt64 n)
  | .unsigned n => .number (.ofUInt64 n)
  | .float x => (Json.Number.ofFloat? x).elim .null .number
  | .text s => .string s
  | .textArray texts => .array (texts.map .string)
  | .json s => .string s

end Param

/-- The parameters of a statement in the order of their placeholders. -/
structure ParamList where
  items : List Param
deriving DecidableEq

namespace ParamList

/-- The number of parameters. -/
def size (ps : ParamList) : Nat := ps.items.length

/-- Whether there is no parameter. -/
def isEmpty (ps : ParamList) : Bool := ps.items.isEmpty

/-- The number of the next placeholder. -/
def next (ps : ParamList) : Nat := ps.size + 1

/-- The characters of the placeholder with a number. -/
def placeholder (number : Nat) : List Char := '$' :: Nat.toDigits 10 number

/-- Appends a parameter and gives its placeholder. -/
def add (ps : ParamList) (p : Param) : ParamList × String :=
  (⟨ps.items ++ [p]⟩, String.ofList (placeholder ps.next))

/-- Appends parameters and gives their placeholders, separated by commas. -/
def addAll (ps : ParamList) (new : List Param) : ParamList × String :=
  (⟨ps.items ++ new⟩,
    ", ".intercalate
      ((List.range new.length).map fun i => String.ofList (placeholder (ps.next + i))))

/-- The document that shows all parameters. -/
def toJson (ps : ParamList) : Json := .array (ps.items.map Param.toJson)

end ParamList

end FilterSql
