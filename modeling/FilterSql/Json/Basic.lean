/-!
# JSON documents

A document keeps the order in which the members of its objects stand. The reader
of JSON text may meet one key several times; `Json.collapse` gives the document
that such a text means, in which a key keeps its first position and takes its last
value. A number is either a whole number of the range that words of 64 bits can hold,
signed or unsigned, or a finite floating point number.
-/

set_option autoImplicit false

namespace FilterSql

namespace Members

/-- Sets the value of a key: in place where the key occurs, else at the end. -/
def set {α : Type} (key : String) (value : α) : List (String × α) → List (String × α)
  | [] => [(key, value)]
  | (k, v) :: rest => if k = key then (k, value) :: rest else (k, v) :: set key value rest

/-- The members in which each key stands once, at its first position with its last value. -/
def collapse {α : Type} (members : List (String × α)) : List (String × α) :=
  members.foldl (fun kept member => set member.1 member.2 kept) []

/-- The value of the first member with the given key. -/
def get? {α : Type} (key : String) (members : List (String × α)) : Option α :=
  members.lookup key

end Members

namespace Json

/-- A JSON number. -/
inductive Number
  | whole (n : Int) (least : -0x8000000000000000 ≤ n) (below : n < 0x10000000000000000)
  | float (x : Float) (finite : x.isFinite = true)
deriving DecidableEq

/-- The whole number `n` as a JSON number, if it is in range. -/
def Number.ofInt? (n : Int) : Option Number :=
  if h : -0x8000000000000000 ≤ n ∧ n < 0x10000000000000000 then some (.whole n h.1 h.2) else none

/-- A floating point number as a JSON number, if it is finite. -/
def Number.ofFloat? (x : Float) : Option Number :=
  if h : x.isFinite = true then some (.float x h) else none

/-- A signed word as a JSON number. -/
def Number.ofInt64 (n : Int64) : Number :=
  .whole n.toInt n.le_toInt (Int.lt_trans n.toInt_lt (by decide))

/-- An unsigned word as a JSON number. -/
def Number.ofUInt64 (n : UInt64) : Number :=
  .whole n.toNat (by omega) (by have := n.toNat_lt; omega)

end Json

/-- A JSON document. -/
inductive Json
  | null
  | bool (b : Bool)
  | number (n : Json.Number)
  | string (s : String)
  | array (items : List Json)
  | object (members : List (String × Json))

namespace Json

/-- The null stands where any document will do. -/
instance : Inhabited Json := ⟨.null⟩

mutual

/-- The document in which every object has each key once. -/
def collapse : Json → Json
  | .array items => .array (collapseItems items)
  | .object members => .object (Members.collapse (collapseMembers members))
  | .null => .null
  | .bool b => .bool b
  | .number n => .number n
  | .string s => .string s

/-- Collapses each element of an array. -/
def collapseItems : List Json → List Json
  | [] => []
  | item :: rest => collapse item :: collapseItems rest

/-- Collapses the value of each member, duplicates included. -/
def collapseMembers : List (String × Json) → List (String × Json)
  | [] => []
  | (key, value) :: rest => (key, collapse value) :: collapseMembers rest

end

/-- The text of a string if the document is one. -/
def asString? : Json → Option String
  | .string s => some s
  | _ => none

/-- The member of an object under a key. -/
def get? (key : String) : Json → Option Json
  | .object members => Members.get? key members
  | _ => none

end Json

end FilterSql
