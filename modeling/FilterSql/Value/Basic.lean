/-!
# Filter values

A filter is built from values: scalars, lists and objects. An object keeps its entries
in the order in which they were given, and a key may stand in it several times. Whole
numbers come as signed or as unsigned words of 64 bits; the two are different values
even where they are equal as numbers.
-/

set_option autoImplicit false

namespace FilterSql

/-- The six kinds of values that messages tell apart. -/
inductive Kind
  | null
  | boolean
  | number
  | string
  | list
  | object
deriving Repr, DecidableEq

/-- The name of a kind in messages. -/
def Kind.name : Kind → String
  | .null => "null"
  | .boolean => "boolean"
  | .number => "number"
  | .string => "string"
  | .list => "list"
  | .object => "object"

/-- A value of a filter. -/
inductive Value
  | null
  | bool (b : Bool)
  | signed (n : Int64)
  | unsigned (n : UInt64)
  | float (x : Float)
  | string (s : String)
  | list (items : List Value)
  | object (entries : List (String × Value))

namespace Value

/-- The kind of a value. -/
def kind : Value → Kind
  | .null => .null
  | .bool _ => .boolean
  | .signed _ | .unsigned _ | .float _ => .number
  | .string _ => .string
  | .list _ => .list
  | .object _ => .object

/-- Whether the value is null. -/
def isNull (v : Value) : Bool := v.kind = .null

/-- Whether the value is neither a list nor an object. -/
def isScalar (v : Value) : Bool := v.kind ≠ .list && v.kind ≠ .object

/-- Whether the value is a number of any of the three representations. -/
def isNumeric (v : Value) : Bool := v.kind = .number

/-- The text of a string. -/
def asString? : Value → Option String
  | .string s => some s
  | _ => none

/-- The elements of a list. -/
def asList? : Value → Option (List Value)
  | .list items => some items
  | _ => none

/-- An unsigned word as a value, signed if a signed word holds it. -/
def ofUInt64 (n : UInt64) : Value :=
  if n.toNat < 0x8000000000000000 then .signed n.toInt64 else .unsigned n

mutual

/-- Whether two values agree: the same representation throughout, entries in the same
order, and floating point numbers compared as numbers, so that an undefined number
differs from itself and the two zeros agree. -/
def agrees : Value → Value → Bool
  | .null, .null => true
  | .bool a, .bool b => a == b
  | .signed a, .signed b => a == b
  | .unsigned a, .unsigned b => a == b
  | .float a, .float b => a == b
  | .string a, .string b => a == b
  | .list a, .list b => listsAgree a b
  | .object a, .object b => entriesAgree a b
  | _, _ => false

/-- Whether two lists have the same length and agree element by element. -/
def listsAgree : List Value → List Value → Bool
  | [], [] => true
  | a :: as, b :: bs => agrees a b && listsAgree as bs
  | _, _ => false

/-- Whether two lists of entries have the same keys in the same order and values that agree. -/
def entriesAgree : List (String × Value) → List (String × Value) → Bool
  | [], [] => true
  | (k, a) :: as, (l, b) :: bs => k == l && agrees a b && entriesAgree as bs
  | _, _ => false

end

/-- Values are equal if they agree, so the undefined number is not equal to itself. -/
instance : BEq Value := ⟨agrees⟩

end Value

end FilterSql
