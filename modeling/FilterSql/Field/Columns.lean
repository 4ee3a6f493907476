/-!
# Sets of columns

The plain columns are a set of names, held in increasing order of their code points.
-/

set_option autoImplicit false

namespace FilterSql

/-- Puts a name into an increasing list, unless it is there. -/
def insertName (name : String) : List String → List String
  | [] => [name]
  | first :: rest =>
    if name < first then name :: first :: rest
    else if name = first then first :: rest
    else first :: insertName name rest

/-- A set to which a name is added holds that name and the names that it held before. -/
theorem mem_insertName {x name : String} {names : List String} :
    x ∈ insertName name names ↔ x = name ∨ x ∈ names := by
  induction names with
  | nil => simp [insertName]
  | cons first rest ih =>
    simp only [insertName]
    split
    · simp
    · split
      · rename_i _ h
        simp [h]
      · simp [ih]
        constructor <;> rintro (h | h | h) <;> simp [h]

/-- A name is added in its place, so that the names stay sorted and stand once each. -/
theorem insertName_sorted (name : String) (names : List String)
    (sorted : names.Pairwise (· < ·)) : (insertName name names).Pairwise (· < ·) := by
  induction names with
  | nil => simp [insertName]
  | cons first rest ih =>
    obtain ⟨least, rest_sorted⟩ := List.pairwise_cons.1 sorted
    simp only [insertName]
    split
    · rename_i h
      refine List.pairwise_cons.2 ⟨?_, sorted⟩
      intro x hx
      rcases List.mem_cons.1 hx with rfl | hx
      · exact h
      · exact String.lt_trans h (least x hx)
    · split
      · exact sorted
      · rename_i h h'
        refine List.pairwise_cons.2 ⟨?_, ih rest_sorted⟩
        intro x hx
        rcases mem_insertName.1 hx with rfl | hx
        · exact Std.lt_of_le_of_ne (String.not_lt.1 h) (fun e => h' e.symm)
        · exact least x hx

/-- A set of column names. -/
structure ColumnSet where
  names : List String
  sorted : names.Pairwise (· < ·)
deriving DecidableEq

namespace ColumnSet

/-- The set without names. -/
def empty : ColumnSet := ⟨[], .nil⟩

/-- The set with one name more. -/
def insert (name : String) (s : ColumnSet) : ColumnSet :=
  ⟨insertName name s.names, insertName_sorted name s.names s.sorted⟩

/-- The set of the names in a list. -/
def ofList (names : List String) : ColumnSet := names.foldl (fun s name => s.insert name) empty

/-- Whether a name is in the set. -/
def contains (s : ColumnSet) (name : String) : Bool := s.names.contains name

/-- Whether the set has no names. -/
def isEmpty (s : ColumnSet) : Bool := s.names.isEmpty

/-- The columns that are plain unless others are named. -/
def defaultNames : List String :=
  ["id", "document_id", "chunk_id", "owner_id", "user_id", "status", "type", "title", "name",
    "description", "text", "created_at", "updated_at", "ingestion_status", "extraction_status",
    "version", "size_in_bytes"]

/-- The set of the default columns. -/
def default : ColumnSet := ofList defaultNames

/-- The set itself, or the default columns in place of the empty set. -/
def orDefault (s : ColumnSet) : ColumnSet := if s.isEmpty then default else s

end ColumnSet

end FilterSql
