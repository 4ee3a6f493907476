import FilterSql.Compile.Filter
import FilterSql.Proofs.Field.Target
import Mathlib.Logic.ExistsUnique

/-!
# Names of paths

A name leads to a path inside the JSON column in one of three ways: it is the JSON column itself,
the path stands behind the JSON column and a dot, or the path stands alone
(`metadataPath?_eq_some_iff`). So nothing of a name is lost, and every path can be addressed
(`metadata_path_lossless`). Segments are never empty: a name with an empty segment addresses
nothing, with the exception of the empty name (`empty_segment_refused`).
-/

set_option autoImplicit false

namespace FilterSql

/-- A segment of a path: it is not empty, and it has no dots. -/
def IsSegment (s : String) : Prop := s ≠ "" ∧ '.' ∉ s.toList

/-- It can be decided whether a text is a segment. -/
instance (s : String) : Decidable (IsSegment s) := inferInstanceAs (Decidable (_ ∧ _))

/-- The segments of a name have no dots, so they are segments of a path unless they are empty. -/
theorem isSegment_of_mem_segments {name s : String} (mem : s ∈ segments name) (nonempty : s ≠ "") :
    IsSegment s :=
  ⟨nonempty, notMem_of_mem_segments mem⟩

/-- An identifier is a single segment. -/
theorem isSegment_of_isIdentifier {name : String} (h : isIdentifier name = true) :
    IsSegment name := by
  refine ⟨?_, dot_notMem_of_isIdentifier h⟩
  rintro rfl
  cases h

/-- The ways in which a name leads to a path inside the JSON column: it is the JSON column itself,
the path stands behind the JSON column and a dot, or the path stands alone. -/
inductive PathForm
  | whole
  | behindColumn
  | alone
deriving DecidableEq

/-- A name leads to a path in one of these ways. A path that stands alone does not begin with the
JSON column. -/
def PathForm.Writes (column field : String) (path : List String) : PathForm → Prop
  | .whole => field = column ∧ path = []
  | .behindColumn => field = column ++ "." ++ joinSegments path ∧ path ≠ []
  | .alone => field = joinSegments path ∧ path ≠ [] ∧ path.head? ≠ some column

/-- A name leads to a path in one way at most. -/
theorem PathForm.Writes.unique {column field : String} {path : List String} {form form' : PathForm}
    (h : form.Writes column field path) (h' : form'.Writes column field path) : form = form' := by
  have longer : column ++ "." ++ joinSegments path ≠ joinSegments path := by
    intro same
    have := congrArg String.length same
    simp only [String.length_append] at this
    have dot : ".".length = 1 := rfl
    omega
  cases form with
  | whole =>
    cases form' with
    | whole => rfl
    | behindColumn => exact absurd h.2 h'.2
    | alone => exact absurd h.2 h'.2.1
  | behindColumn =>
    cases form' with
    | whole => exact absurd h'.2 h.2
    | behindColumn => rfl
    | alone => exact absurd (h.1.symm.trans h'.1) longer
  | alone =>
    cases form' with
    | whole => exact absurd h'.2 h.2.1
    | behindColumn => exact absurd (h'.1.symm.trans h.1) longer
    | alone => rfl

namespace Target

section

variable {column field : String} {path : List String}

/-- A name that leaves something behind the JSON column has the path of the segments of what it
leaves, if none of these is empty. -/
theorem metadataPath?_eq_some_iff_of_relative {rest : String}
    (relative : relativeName? column.toList field.toList = some rest.toList)
    (nonempty : rest ≠ "") :
    metadataPath? column field = some path ↔ path = segments rest ∧ ∀ s ∈ path, IsSegment s := by
  rw [metadataPath?_of_relative relative (by simpa using nonempty)]
  change (if (segments rest).all (· ≠ "") = true then some (segments rest) else none) = _ ↔ _
  constructor
  · intro h
    split at h
    · rename_i nonempties
      cases h
      refine ⟨rfl, fun s mem => isSegment_of_mem_segments mem ?_⟩
      exact of_decide_eq_true (List.all_eq_true.1 nonempties s mem)
    · cases h
  · rintro ⟨rfl, areSegments⟩
    rw [if_pos]
    exact List.all_eq_true.2 fun s mem => decide_eq_true (areSegments s mem).1

/-- The first segment of a name is the JSON column exactly if the name is the JSON column, or the
JSON column stands with a dot at its beginning. -/
theorem head?_segments_eq_iff (noDot : '.' ∉ column.toList) :
    (segments field).head? = some column ↔
      field = column ∨ ∃ key, field = column ++ "." ++ key := by
  constructor
  · intro first
    obtain ⟨s, others, split⟩ := List.exists_cons_of_ne_nil (segments_ne_nil field)
    rw [split, List.head?_cons, Option.some.injEq] at first
    have joined := joinSegments_segments field
    rw [split, first] at joined
    cases others with
    | nil => exact .inl joined.symm
    | cons t others => exact .inr ⟨_, (joined.symm.trans (joinSegments_cons_cons column t others))⟩
  · rintro (rfl | ⟨key, rfl⟩)
    · rw [segments_of_notMem noDot]
      rfl
    · rw [segments_append_dot, segments_of_notMem noDot]
      rfl

/-- A name whose first segment is not the JSON column is left whole by it. -/
theorem relativeName?_of_head? (noDot : '.' ∉ column.toList)
    (other : (segments field).head? ≠ some column) :
    relativeName? column.toList field.toList = some field.toList := by
  rw [ne_eq, head?_segments_eq_iff noDot, not_or, not_exists] at other
  refine relativeName?_eq_some_iff.2 (.inr (.inr ⟨rfl, ?_, ?_⟩))
  · exact fun same => other.1 (String.ext same)
  · intro more same
    apply other.2 (String.ofList more)
    simp [String.ext_iff, same]

/-- The JSON column itself has the empty path. -/
theorem metadataPath?_column : metadataPath? column column = some [] := by
  have relative : relativeName? column.toList column.toList = some [] :=
    relativeName?_eq_some_iff.2 (.inl ⟨rfl, rfl⟩)
  rw [metadataPath?, relative]

/-- Behind the JSON column and a dot stands the path of the segments of the key. -/
theorem metadataPath?_column_dot {key : String} :
    metadataPath? column (column ++ "." ++ key) = some path ↔
      path = segments key ∧ ∀ s ∈ path, IsSegment s := by
  have relative := relativeName?_column_dot column.toList key.toList
  have chars : column.toList ++ '.' :: key.toList = (column ++ "." ++ key).toList := by simp
  rw [chars] at relative
  by_cases empty : key = ""
  · subst empty
    rw [if_pos (show "".toList = [] from rfl)] at relative
    rw [metadataPath?, relative]
    constructor
    · intro h
      cases h
    · rintro ⟨rfl, areSegments⟩
      exact absurd rfl (areSegments "" (by decide)).1
  · rw [if_neg (by simpa using empty)] at relative
    exact metadataPath?_eq_some_iff_of_relative relative empty

/-- A name that does not begin with the JSON column has the path of its own segments. -/
theorem metadataPath?_of_head? (noDot : '.' ∉ column.toList)
    (other : (segments field).head? ≠ some column) (nonempty : field ≠ "") :
    metadataPath? column field = some path ↔
      path = segments field ∧ ∀ s ∈ path, IsSegment s :=
  metadataPath?_eq_some_iff_of_relative (relativeName?_of_head? noDot other) nonempty

/-- A name that is not empty leads to a path of segments in one of the three ways, and to nothing
else. -/
theorem metadataPath?_eq_some_iff (noDot : '.' ∉ column.toList) (nonempty : field ≠ "") :
    metadataPath? column field = some path ↔
      (∀ s ∈ path, IsSegment s) ∧ ∃ form : PathForm, form.Writes column field path := by
  constructor
  · intro h
    by_cases first : (segments field).head? = some column
    · rcases (head?_segments_eq_iff noDot).1 first with rfl | ⟨key, rfl⟩
      · rw [metadataPath?_column] at h
        cases h
        exact ⟨List.forall_mem_nil _, .whole, rfl, rfl⟩
      · obtain ⟨rfl, areSegments⟩ := metadataPath?_column_dot.1 h
        refine ⟨areSegments, .behindColumn, ?_, segments_ne_nil key⟩
        rw [joinSegments_segments]
    · obtain ⟨rfl, areSegments⟩ := (metadataPath?_of_head? noDot first nonempty).1 h
      exact ⟨areSegments, .alone, (joinSegments_segments field).symm, segments_ne_nil field, first⟩
  · rintro ⟨areSegments, form, writes⟩
    have split : path ≠ [] → segments (joinSegments path) = path := fun some =>
      segments_joinSegments some fun s mem => (areSegments s mem).2
    cases form with
    | whole =>
      obtain ⟨rfl, rfl⟩ := writes
      exact metadataPath?_column
    | behindColumn =>
      obtain ⟨rfl, some⟩ := writes
      exact metadataPath?_column_dot.2 ⟨(split some).symm, areSegments⟩
    | alone =>
      obtain ⟨rfl, some, other⟩ := writes
      rw [← split some] at other
      exact (metadataPath?_of_head? noDot other nonempty).2 ⟨(split some).symm, areSegments⟩

/-- The JSON column with a dot and a key behind it is left to the JSON column, whatever the plain
columns are. -/
theorem isLeft_column_dot (columns : ColumnSet) (noDot : '.' ∉ column.toList) (key : String) :
    IsLeft columns column (column ++ "." ++ key) := by
  have noDots : ∀ name ∈ collectionFields, '.' ∉ name.toList := by decide
  refine ⟨fun mem => ne_append_dot (noDots _ mem) column key rfl,
    ne_append_dot (by decide) column key, .inl ?_⟩
  rw [segments_append_dot, segments_of_notMem noDot]
  rfl

/-- A name addresses a path inside the JSON column exactly if it is left to that column and has this
path there. -/
theorem ofField?_eq_metadata_iff {columns : ColumnSet} :
    ofField? columns column field = some (.metadata path) ↔
      IsLeft columns column field ∧ metadataPath? column field = some path := by
  constructor
  · intro h
    have left := isLeft_of_metadata h
    rw [left.ofField?_eq] at h
    exact ⟨left, by simpa using h⟩
  · rintro ⟨left, hasPath⟩
    rw [left.ofField?_eq, hasPath]
    rfl

end

/-- Names of paths are lossless: whatever the plain columns are, a name that addresses a path inside
the JSON column can be put together again from the column and the path in exactly one of three ways.
And every path can be addressed, behind the JSON column and a dot. -/
theorem metadata_path_lossless {column : String} (identifier : isIdentifier column = true)
    (columns : ColumnSet) :
    (∀ field target, field ≠ "" → ofField? columns column field = some target →
      target.fieldClass = .metadataPath →
      target.columnName column = column ∧ (∀ s ∈ target.path, IsSegment s) ∧
        ∃! form : PathForm, form.Writes column field target.path) ∧
    ∀ path, path ≠ [] → (∀ s ∈ path, IsSegment s) →
      ofField? columns column (column ++ "." ++ joinSegments path) = some (.metadata path) := by
  have noDot : '.' ∉ column.toList := dot_notMem_of_isIdentifier identifier
  constructor
  · intro field target nonempty addressed isMetadata
    cases target with
    | metadata path =>
      obtain ⟨-, hasPath⟩ := ofField?_eq_metadata_iff.1 addressed
      obtain ⟨areSegments, form, writes⟩ := (metadataPath?_eq_some_iff noDot nonempty).1 hasPath
      exact ⟨rfl, areSegments, form, writes, fun form' writes' => writes'.unique writes⟩
    | _ => cases isMetadata
  · intro path some areSegments
    have hasPath : metadataPath? column (column ++ "." ++ joinSegments path) = .some path := by
      refine metadataPath?_column_dot.2 ⟨?_, areSegments⟩
      exact (segments_joinSegments some fun s mem => (areSegments s mem).2).symm
    exact ofField?_eq_metadata_iff.2 ⟨isLeft_column_dot columns noDot _, hasPath⟩

/-- The plain columns may have the names of segments, and even that of the JSON column. -/
def attributeColumns : ColumnSet := .ofList ["attrs", "status"]

/-- A segment that only begins with the letters of the JSON column, and the JSON column as a segment
further on; and a path whose segments are a plain column and a word with a quote. -/
theorem lookalikes_lossless :
    isIdentifier "attrs" = true ∧
      ofField? attributeColumns "attrs" "attrsx.attrs" = some (.metadata ["attrsx", "attrs"]) ∧
      (∃! form : PathForm, form.Writes "attrs" "attrsx.attrs" ["attrsx", "attrs"]) ∧
      (∀ s ∈ ["status", "it's"], IsSegment s) ∧
      ofField? attributeColumns "attrs" "attrs.status.it's" =
        some (.metadata ["status", "it's"]) := by
  have identifier : isIdentifier "attrs" = true := by decide
  have addressed : ofField? attributeColumns "attrs" "attrsx.attrs" =
      some (.metadata ["attrsx", "attrs"]) := by decide +kernel
  have areSegments : ∀ s ∈ ["status", "it's"], IsSegment s := by decide
  obtain ⟨lossless, complete⟩ := metadata_path_lossless identifier attributeColumns
  obtain ⟨-, -, form⟩ := lossless _ _ (by decide) addressed rfl
  exact ⟨identifier, addressed, form, areSegments,
    complete ["status", "it's"] (List.cons_ne_nil _ _) areSegments⟩

/-- A name that leads to a path has the segments of the path, and at most the JSON column before
them. -/
theorem segments_of_writes {column field : String} {path : List String} {form : PathForm}
    (noDot : '.' ∉ column.toList) (areSegments : ∀ s ∈ path, IsSegment s)
    (writes : form.Writes column field path) :
    segments field = path ∨ segments field = column :: path := by
  have split : path ≠ [] → segments (joinSegments path) = path := fun some =>
    segments_joinSegments some fun s mem => (areSegments s mem).2
  cases form with
  | whole =>
    obtain ⟨rfl, rfl⟩ := writes
    exact .inr (segments_of_notMem noDot)
  | behindColumn =>
    obtain ⟨rfl, some⟩ := writes
    right
    rw [segments_append_dot, segments_of_notMem noDot, split some]
    rfl
  | alone =>
    obtain ⟨rfl, some, -⟩ := writes
    exact .inl (split some)

/-- No segment of a name that addresses something is empty, unless it is the empty name. -/
theorem segments_nonempty_of_addressed {columns : ColumnSet} {column field : String}
    {target : Target} (identifier : isIdentifier column = true) (nonempty : field ≠ "")
    (addressed : ofField? columns column field = some target) : "" ∉ segments field := by
  have isColumn := isSegment_of_isIdentifier identifier
  cases target with
  | metadata path =>
    obtain ⟨-, hasPath⟩ := ofField?_eq_metadata_iff.1 addressed
    obtain ⟨areSegments, form, writes⟩ := (metadataPath?_eq_some_iff isColumn.2 nonempty).1 hasPath
    have inPath : "" ∉ path := fun mem => (areSegments "" mem).1 rfl
    rcases segments_of_writes isColumn.2 areSegments writes with same | same
    · rwa [same]
    · rw [same, List.mem_cons, not_or]
      exact ⟨isColumn.1.symm, inPath⟩
  | _ =>
    -- The reserved names and the names of columns are checked for empty segments themselves.
    unfold ofField? at addressed
    split at addressed
    · rename_i isCollection
      have reserved : ∀ name ∈ collectionFields, "" ∉ segments name := by decide
      exact reserved field (by simpa using isCollection)
    · split at addressed
      · rename_i isParent
        rw [isParent]
        decide
      · simp only at addressed
        split at addressed
        · split at addressed
          · rename_i identifiers
            intro mem
            have := List.all_eq_true.1 identifiers "" mem
            cases this
          · cases addressed
        · obtain ⟨path, -, same⟩ := Option.map_eq_some_iff.1 addressed
          cases same

/-- The empty name addresses the whole JSON column, unless it is among the plain columns. -/
theorem ofField?_empty {columns : ColumnSet} {column : String} (isColumn : IsSegment column) :
    ofField? columns column "" =
      if columns.orDefault.contains "" then none else some (.metadata []) := by
  have other : "" ≠ column := isColumn.1.symm
  have relative : relativeName? column.toList "".toList = some [] :=
    relativeName?_of_head? isColumn.2 (by simpa [segments, splitDots] using other)
  have path : metadataPath? column "" = some [] := by rw [metadataPath?, relative]
  by_cases isPlain : columns.orDefault.contains "" = true
  · rw [if_pos isPlain, ofField?, if_neg (by decide), if_neg (by decide)]
    simp only [show (segments "").headD "" = "" from rfl, isPlain, Bool.and_true]
    rw [if_pos (decide_eq_true other), if_neg (by decide)]
  · have left : IsLeft columns column "" :=
      ⟨by decide, by decide, .inr (eq_false_of_ne_true isPlain)⟩
    rw [if_neg isPlain, ofField?_eq_metadata_iff.2 ⟨left, path⟩]

end Target

open Target Compile

/-- A name with an empty segment addresses nothing, so every condition on it is refused for the
name, and only the name of the JSON column addresses the whole of it. The empty name is the one
exception: it addresses the whole JSON column too, unless it is among the plain columns. -/
theorem empty_segment_refused {config : Config}
    (identifier : isIdentifier config.jsonColumn = true) :
    (∀ field, field ≠ "" → "" ∈ segments field →
      config.target? field = none ∧
        ∀ levels v, fieldCondition config levels field v = .error (.invalidField field)) ∧
    (∀ field, field ≠ "" → config.target? field = some (.metadata []) →
      field = config.jsonColumn) ∧
    config.target? "" =
      if config.columns.orDefault.contains "" then none else some (.metadata []) := by
  have isColumn := isSegment_of_isIdentifier identifier
  refine ⟨?_, ?_, ofField?_empty isColumn⟩
  · intro field nonempty empty
    have unaddressed : config.target? field = none := by
      rw [Option.eq_none_iff_forall_ne_some]
      intro target addressed
      exact segments_nonempty_of_addressed identifier nonempty addressed empty
    refine ⟨unaddressed, fun levels v => ?_⟩
    rw [fieldCondition, unaddressed]
  · intro field nonempty addressed
    obtain ⟨-, hasPath⟩ := ofField?_eq_metadata_iff.1 addressed
    obtain ⟨-, form, writes⟩ := (metadataPath?_eq_some_iff isColumn.2 nonempty).1 hasPath
    cases form with
    | whole => exact writes.1
    | behindColumn => exact absurd rfl writes.2
    | alone => exact absurd rfl writes.2.1

/-- An empty segment behind the JSON column, and one at the end of a name that begins with a plain
column. -/
theorem emptySegments_refused :
    isIdentifier ({} : Config).jsonColumn = true ∧
      "" ∈ segments "metadata..a" ∧ ({} : Config).target? "metadata..a" = none ∧
      "" ∈ segments "status." ∧
        fieldCondition {} 32 "status." .null = .error (.invalidField "status.") ∧
      ({} : Config).target? "metadata" = some (.metadata []) := by
  have identifier : isIdentifier ({} : Config).jsonColumn = true := by decide
  have inPath : "" ∈ segments "metadata..a" := by decide
  have atEnd : "" ∈ segments "status." := by decide
  obtain ⟨refused, -, -⟩ := empty_segment_refused identifier
  exact ⟨identifier, inPath, (refused _ (by decide) inPath).1, atEnd,
    (refused _ (by decide) atEnd).2 32 .null, by decide +kernel⟩

/-- The empty name has an empty segment, but it is not refused: it addresses the whole JSON
column. -/
theorem emptyName_addressed :
    isIdentifier Target.defaultJsonColumn = true ∧ "" ∈ segments "" ∧
      ({} : Config).target? "" = some (.metadata []) := by
  decide +kernel

end FilterSql
