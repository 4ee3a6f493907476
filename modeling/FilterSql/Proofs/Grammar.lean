import FilterSql.Config
import FilterSql.Uuid

/-!
# The grammar of filters

Which filters there are, said without the compiler. The value of a field is a bare scalar, a bare
list, or an object with a single operator key; what may stand behind an operator depends on the
class of the field, and for membership on metadata on the configuration. A path inside the JSON
column may be continued by an object, and entries may be grouped; both take one level, and the
number of levels is limited.
-/

set_option autoImplicit false

namespace FilterSql

/-! ## Operands -/

namespace Value

mutual

/-- The floating point numbers that occur in a value. -/
def floats : Value → List Float
  | .float x => [x]
  | .list items => itemsFloats items
  | .object entries => entriesFloats entries
  | _ => []

/-- The floating point numbers that occur in the elements of a list. -/
def itemsFloats : List Value → List Float
  | [] => []
  | item :: rest => floats item ++ itemsFloats rest

/-- The floating point numbers that occur in the entries of an object. -/
def entriesFloats : List (String × Value) → List Float
  | [] => []
  | (_, value) :: rest => floats value ++ entriesFloats rest

end

/-- All numbers in a value are finite. -/
def IsFinite (v : Value) : Prop := ∀ x ∈ v.floats, x.isFinite = true

/-- A scalar other than null. -/
def IsPlainScalar (v : Value) : Prop := v.isScalar = true ∧ v ≠ .null

/-- A string. -/
def IsString (v : Value) : Prop := ∃ text, v = .string text

/-- A string that spells an identifier. -/
def IsUuid (v : Value) : Prop := ∃ text id, v = .string text ∧ Uuid.ofText? text = some id

/-- A list whose elements satisfy a property. -/
def IsListOf (P : Value → Prop) (v : Value) : Prop :=
  ∃ items, v = .list items ∧ ∀ item ∈ items, P item

end Value

open Value

/-- The keys that spell an operator. -/
def Operator.keys : Operator → List String
  | .compare .eq => ["$eq"]
  | .compare .ne => ["$ne"]
  | .compare .lt => ["$lt"]
  | .compare .lte => ["$lte"]
  | .compare .gt => ["$gt"]
  | .compare .gte => ["$gte"]
  | .pattern .like => ["$like"]
  | .pattern .ilike => ["$ilike"]
  | .within => ["$in"]
  | .without => ["$nin"]
  | .overlap => ["$overlap"]
  | .contains => ["$contains", "$array_contains"]

/-- What may stand behind an operator on a plain column. -/
def ColumnOperand : Operator → Value → Prop
  | .compare .eq, v | .compare .ne, v => v.isScalar = true
  | .compare _, v => v.IsPlainScalar
  | .pattern _, v => v.IsString
  | .within, v | .without, v => v.IsListOf IsPlainScalar
  | .overlap, _ | .contains, _ => False

/-- What may stand behind an operator on the collections. -/
def CollectionOperand : Operator → Value → Prop
  | .compare .eq, v | .compare .ne, v => v = .null ∨ v.IsUuid ∨ v.IsListOf IsUuid
  | .within, v | .without, v | .overlap, v => v.IsListOf IsUuid
  | .contains, v => v.IsUuid ∨ v.IsListOf IsUuid
  | .compare _, _ | .pattern _, _ => False

/-- What may stand behind an operator on the parent. -/
def ParentOperand : Operator → Value → Prop
  | .compare .eq, v | .compare .ne, v => v.isScalar = true
  | .within, v | .without, v => v.IsListOf IsPlainScalar
  | _, _ => False

/-- What may stand in a list for membership on metadata. -/
def MembershipItem : MetadataIn → Value → Prop
  | .placeholderList => IsPlainScalar
  | .jsonArrayElements => IsFinite

/-- What may stand behind an operator on a path inside the JSON column. -/
def MetadataOperand (strategy : MetadataIn) : Operator → Value → Prop
  | .compare .eq, v | .compare .ne, v => v.isScalar = true ∨ v.IsFinite
  | .compare _, v => v.IsPlainScalar
  | .pattern _, v => v.IsString
  | .within, v | .without, v => v.IsListOf (MembershipItem strategy)
  | .contains, v => v.IsFinite
  | .overlap, _ => False

/-! ## Values, entries and filters -/

/-- A value that does not continue a path: a bare scalar stands for equality with it, a bare list
stands behind `onList`, and any other operator is the only key of an object. -/
inductive Conforms (onList : Operator) (Operand : Operator → Value → Prop) : Value → Prop
  | scalar {v : Value} (isScalar : v.isScalar = true) (operand : Operand (.compare .eq) v) :
    Conforms onList Operand v
  | list {items : List Value} (operand : Operand onList (.list items)) :
    Conforms onList Operand (.list items)
  | operator {key : String} {o : Operator} {v : Value} (isKey : key ∈ o.keys)
    (operand : Operand o v) : Conforms onList Operand (.object [(key, v)])

/-- A value on a path inside the JSON column, at a depth. It may continue the path by keys without
empty segments. -/
inductive MetadataGrammar (config : Config) : Nat → Value → Prop
  | operand {depth : Nat} {v : Value}
    (conforms : Conforms .within (MetadataOperand config.metadataIn) v) :
    MetadataGrammar config depth v
  | path {depth : Nat} {entries : List (String × Value)} (within : depth < config.maxDepth)
    (nonempty : entries ≠ []) (isField : ∀ entry ∈ entries, isKeywordKey entry.1 = false)
    (segmented : ∀ entry ∈ entries, "" ∉ segments entry.1)
    (children : ∀ entry ∈ entries, MetadataGrammar config (depth + 1) entry.2) :
    MetadataGrammar config depth (.object entries)

/-- The value of a field, at a depth. The name of the field must address something. -/
def FieldGrammar (config : Config) (depth : Nat) (key : String) (v : Value) : Prop :=
  match config.target? key with
  | none => False
  | some (.column _) => Conforms .within ColumnOperand v
  | some .collection => Conforms .overlap CollectionOperand v
  | some .parent => Conforms .within ParentOperand v
  | some (.metadata _) => MetadataGrammar config depth v

/-- An entry of a filter at a depth: a field, or a group of objects. -/
inductive EntryGrammar (config : Config) : Nat → String → Value → Prop
  | field {depth : Nat} {key : String} {v : Value} (isField : isKeywordKey key = false)
    (grammar : FieldGrammar config depth key v) : EntryGrammar config depth key v
  | group {depth : Nat} {key : String} {items : List Value} (isGroup : key ∈ ["$and", "$or"])
    (within : depth < config.maxDepth) (objects : ∀ item ∈ items, item.kind = .object)
    (elements : ∀ entries, .object entries ∈ items →
      ∀ entry ∈ entries, EntryGrammar config (depth + 1) entry.1 entry.2) :
    EntryGrammar config depth key (.list items)

end FilterSql
