import FilterSql.Field.Name
import FilterSql.Field.Columns

/-!
# What a field name addresses

A name addresses one of four things: the array of collections, the reference to the
parent, a plain column, or a path inside the JSON column. The rules are tried in this
order. The name of the JSON column itself addresses the whole document, and that name
with a dot behind it may stand before any path.
-/

set_option autoImplicit false

namespace FilterSql

/-- The four classes of fields. -/
inductive FieldClass
  | standardColumn
  | arrayMembership
  | hierarchicalReference
  | metadataPath
deriving Repr, DecidableEq

/-- The name of a class. -/
def FieldClass.name : FieldClass → String
  | .standardColumn => "standard_column"
  | .arrayMembership => "array_membership"
  | .hierarchicalReference => "hierarchical_reference"
  | .metadataPath => "metadata_path"

/-- What a field name addresses. -/
inductive Target
  | column (name : String)
  | collection
  | parent
  | metadata (path : List String)
deriving Repr, DecidableEq

namespace Target

/-- The column that holds the collections. -/
def collectionColumn : String := "collection_ids"

/-- The names under which the collections are addressed. -/
def collectionFields : List String := ["collection_ids", "collection_id"]

/-- The name and the column of the reference to the parent. -/
def parentField : String := "parent_id"

/-- The JSON column unless another is named. -/
def defaultJsonColumn : String := "metadata"

/-- The class of a target. -/
def fieldClass : Target → FieldClass
  | .column _ => .standardColumn
  | .collection => .arrayMembership
  | .parent => .hierarchicalReference
  | .metadata _ => .metadataPath

/-- The column that a target lies in. -/
def columnName (jsonColumn : String) : Target → String
  | .column name => name
  | .collection => collectionColumn
  | .parent => parentField
  | .metadata _ => jsonColumn

/-- The path of a target inside the JSON column. -/
def path : Target → List String
  | .metadata path => path
  | _ => []

/-- What remains of a list behind the given beginning. -/
def dropPrefix? : List Char → List Char → Option (List Char)
  | [], cs => some cs
  | _ :: _, [] => none
  | b :: beginning, c :: cs => if b = c then dropPrefix? beginning cs else none

/-- The characters that a name leaves behind the JSON column: none for the column itself,
and the whole name if the JSON column and a dot do not stand before it. The result is
`none` for a name in which nothing follows that dot. -/
def relativeName? (jsonColumn field : List Char) : Option (List Char) :=
  match dropPrefix? jsonColumn field with
  | some [] => some []
  | some ('.' :: []) => none
  | some ('.' :: rest) => some rest
  | _ => some field

/-- The path of a name inside the JSON column, if no segment is empty. The empty name has
the empty path. -/
def metadataPath? (jsonColumn field : String) : Option (List String) :=
  match relativeName? jsonColumn.toList field.toList with
  | none => none
  | some [] => some []
  | some cs =>
    let path := (splitDots cs).map String.ofList
    if path.all (· ≠ "") then some path else none

/-- What a field name addresses, or `none` if it addresses nothing. -/
def ofField? (columns : ColumnSet) (jsonColumn field : String) : Option Target :=
  if collectionFields.contains field then some .collection
  else if field = parentField then some .parent
  else
    let first := (segments field).headD ""
    if first ≠ jsonColumn && columns.orDefault.contains first then
      if (segments field).all isIdentifier then some (.column field) else none
    else (metadataPath? jsonColumn field).map .metadata

end Target

end FilterSql
