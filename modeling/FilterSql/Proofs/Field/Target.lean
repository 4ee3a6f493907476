import FilterSql.Proofs.Field.Name

/-!
# What dotted names address

The JSON column is recognised at the beginning of a name by its characters. Since it is an
identifier and has no dots, it stands there as a whole segment or not at all
(`relativeName?_eq_some_iff`). So a name that addresses a path inside the JSON column, with a dot
and a key behind it, addresses the path with the segments of the key behind it
(`Config.Valid.target?_append_dot`).
-/

set_option autoImplicit false

namespace FilterSql

namespace Target

/-- What is left of a text without its beginning stands behind that beginning. -/
theorem dropPrefix?_eq_some_iff {beginning cs rest : List Char} :
    dropPrefix? beginning cs = some rest ↔ cs = beginning ++ rest := by
  induction beginning generalizing cs with
  | nil => simp [dropPrefix?]
  | cons b beginning ih =>
    cases cs with
    | nil => simp [dropPrefix?]
    | cons c cs =>
      rw [dropPrefix?]
      by_cases same : b = c
      · simp [same, ih]
      · simp [same, Ne.symm same]

/-- A name is the JSON column itself, or the JSON column stands with a dot before something else, or
the name does not begin with the JSON column as a segment. -/
theorem relativeName?_eq_some_iff {column field rest : List Char} :
    relativeName? column field = some rest ↔
      (field = column ∧ rest = []) ∨ (field = column ++ '.' :: rest ∧ rest ≠ []) ∨
        (field = rest ∧ field ≠ column ∧ ∀ more, field ≠ column ++ '.' :: more) := by
  rw [relativeName?]
  cases dropped : dropPrefix? column field with
  | none =>
    have apart : ∀ more, field ≠ column ++ more := by
      intro more same
      rw [dropPrefix?_eq_some_iff.2 same] at dropped
      cases dropped
    have other : field ≠ column := by simpa using apart []
    simp [apart, other]
  | some left =>
    have split := dropPrefix?_eq_some_iff.1 dropped
    subst split
    cases left with
    | nil => simp [eq_comm]
    | cons c left =>
      by_cases dot : c = '.'
      · subst dot
        cases left with
        | nil => simp
        | cons d left =>
          have nonempty : d :: left = rest → rest ≠ [] := by
            rintro rfl
            exact List.cons_ne_nil d left
          simpa using nonempty
      · simp [dot, eq_comm]

section

variable {column field rest : List Char} (noDot : '.' ∉ column)

include noDot

/-- A column that stands as a segment at the beginning of a name with a dot and a key behind it
stands there without the key as well. -/
theorem begins_of_append_dot {key more : List Char}
    (h : field ++ '.' :: key = column ++ '.' :: more) :
    field = column ∨ ∃ left, field = column ++ '.' :: left := by
  obtain ⟨between, same, dotted⟩ | ⟨between, same, dotted⟩ := List.append_eq_append_iff.1 h
  · cases between with
    | nil => exact .inl (by simpa using same.symm)
    | cons c between =>
      -- Here the dot behind the name would stand inside the column.
      cases dotted
      exact absurd (same ▸ by simp) noDot
  · cases between with
    | nil => exact .inl (by simpa using same)
    | cons c between =>
      cases dotted
      exact .inr ⟨between, same⟩

/-- What a name leaves behind the JSON column, a dot and a key leave as well. -/
theorem relativeName?_append_dot (nonempty : field ≠ []) (left : rest ≠ [])
    (h : relativeName? column field = some rest) (key : List Char) :
    relativeName? column (field ++ '.' :: key) = some (rest ++ '.' :: key) := by
  apply relativeName?_eq_some_iff.2
  rcases relativeName?_eq_some_iff.1 h with ⟨-, none⟩ | ⟨rfl, -⟩ | ⟨rfl, other, apart⟩
  · exact absurd none left
  · exact .inr (.inl ⟨by simp, by simp⟩)
  · refine .inr (.inr ⟨rfl, ?_, ?_⟩)
    · rintro rfl
      exact noDot (by simp)
    · intro more same
      rcases begins_of_append_dot noDot same with same | ⟨left, same⟩
      · exact other same
      · exact apart left same

end

/-- Behind the JSON column, a dot and a key leave the key, and nothing if the key is empty. -/
theorem relativeName?_column_dot (column key : List Char) :
    relativeName? column (column ++ '.' :: key) = if key = [] then none else some key := by
  by_cases empty : key = []
  · rw [if_pos empty, Option.eq_none_iff_forall_ne_some]
    intro rest relative
    rcases relativeName?_eq_some_iff.1 relative with ⟨same, -⟩ | ⟨same, nonempty⟩ | ⟨-, -, apart⟩
    · simp at same
    · rw [empty, List.append_cancel_left_eq, List.cons.injEq] at same
      exact nonempty same.2.symm
    · exact apart key rfl
  · rw [if_neg empty]
    exact relativeName?_eq_some_iff.2 (.inr (.inl ⟨rfl, empty⟩))

/-- The path of a name has the segments of what the name leaves behind the JSON column, if none of
them is empty. -/
theorem metadataPath?_of_relative {column field : String} {rest : List Char}
    (relative : relativeName? column.toList field.toList = some rest) (nonempty : rest ≠ []) :
    metadataPath? column field =
      if ((splitDots rest).map String.ofList).all (· ≠ "") then
        some ((splitDots rest).map String.ofList)
      else none := by
  rw [metadataPath?, relative]
  cases rest with
  | nil => exact absurd rfl nonempty
  | cons c rest => rfl

/-- A name with a dot and a key behind it has the path of the name with the segments of the key
behind it, if none of these is empty. -/
theorem metadataPath?_append_dot {column field : String} {path : List String}
    (noDot : '.' ∉ column.toList) (nonempty : field ≠ "")
    (h : metadataPath? column field = some path) (key : String) :
    metadataPath? column (field ++ "." ++ key) =
      if (segments key).all (· ≠ "") then some (path ++ segments key) else none := by
  have chars : (field ++ "." ++ key).toList = field.toList ++ '.' :: key.toList := by simp
  have fieldChars : field.toList ≠ [] := by simpa using nonempty
  cases relative : relativeName? column.toList field.toList with
  | none =>
    rw [metadataPath?, relative] at h
    cases h
  | some rest =>
    by_cases left : rest = []
    · -- Nothing is left of the JSON column itself, so the key alone makes the path.
      have same : field.toList = column.toList := by
        rcases relativeName?_eq_some_iff.1 relative with ⟨same, -⟩ | ⟨-, more⟩ | ⟨none, -⟩
        · exact same
        · exact absurd left more
        · exact absurd (none.trans left) fieldChars
      have empty : path = [] := by
        rw [metadataPath?, relative, left] at h
        exact (Option.some.inj h).symm
      have dotted := relativeName?_column_dot column.toList key.toList
      rw [← same, ← chars] at dotted
      by_cases noKey : key.toList = []
      · rw [metadataPath?, ← same, dotted, if_pos noKey, segments, noKey]
        rfl
      · rw [if_neg noKey, same] at dotted
        rw [metadataPath?_of_relative dotted noKey, empty, List.nil_append, segments]
    · have dotted := relativeName?_append_dot noDot fieldChars left relative key.toList
      rw [← chars] at dotted
      rw [metadataPath?_of_relative relative left] at h
      split at h
      · rename_i nonempties
        cases h
        rw [metadataPath?_of_relative dotted (by simp), splitDots_append_dot, List.map_append,
          List.all_append, nonempties, Bool.true_and]
        rfl
      · cases h

/-- A name is left to the JSON column if it is not reserved, and its first segment is the JSON
column or no plain column. -/
structure IsLeft (columns : ColumnSet) (column field : String) : Prop where
  collection : field ∉ collectionFields
  parent : field ≠ parentField
  first : (segments field).headD "" = column ∨
    columns.orDefault.contains ((segments field).headD "") = false

/-- A name that is left to the JSON column addresses its path there, or nothing. -/
theorem IsLeft.ofField?_eq {columns : ColumnSet} {column field : String}
    (h : IsLeft columns column field) :
    ofField? columns column field = (metadataPath? column field).map .metadata := by
  have notColumn : ¬ (decide ((segments field).headD "" ≠ column) &&
      columns.orDefault.contains ((segments field).headD "")) = true := by
    rcases h.first with same | other
    · rw [same]
      simp
    · rw [other, Bool.and_false]
      exact Bool.false_ne_true
  have notCollection : ¬ collectionFields.contains field = true := by simpa using h.collection
  rw [ofField?, if_neg notCollection, if_neg h.parent]
  exact if_neg notColumn

/-- Only names that are left to the JSON column address a path inside it. -/
theorem isLeft_of_metadata {columns : ColumnSet} {column field : String} {path : List String}
    (h : ofField? columns column field = some (.metadata path)) :
    IsLeft columns column field := by
  unfold ofField? at h
  split at h
  · cases h
  · rename_i collection
    split at h
    · cases h
    · rename_i parent
      simp only at h
      split at h
      · split at h <;> cases h
      · rename_i first
        refine ⟨by simpa using collection, parent, ?_⟩
        by_cases same : (segments field).headD "" = column
        · exact .inl same
        · rw [Bool.and_eq_true, not_and, decide_eq_true_eq, Bool.not_eq_true] at first
          exact .inr (first same)

end Target

/-- A name without a dot is not one with a dot in it. -/
theorem ne_append_dot {name : String} (noDot : '.' ∉ name.toList) (field key : String) :
    field ++ "." ++ key ≠ name := by
  rintro rfl
  exact noDot (by simp)

/-- A dot and a key behind a name that is left to the JSON column leave it there. -/
theorem Target.IsLeft.append_dot {columns : ColumnSet} {column field : String}
    (h : IsLeft columns column field) (key : String) :
    IsLeft columns column (field ++ "." ++ key) := by
  have sameFirst : (segments (field ++ "." ++ key)).headD "" = (segments field).headD "" := by
    obtain ⟨first, others, split⟩ := List.exists_cons_of_ne_nil (segments_ne_nil field)
    rw [segments_append_dot, split]
    rfl
  refine ⟨fun mem => ?_, ne_append_dot (by decide) field key, sameFirst ▸ h.first⟩
  have noDots : ∀ name ∈ collectionFields, '.' ∉ name.toList := by decide
  exact ne_append_dot (noDots _ mem) field key rfl

/-- A name that addresses a path inside the JSON column, with a dot and a key behind it, addresses
the path with the segments of the key behind it, if none of these is empty, and else nothing. -/
theorem Config.Valid.target?_append_dot {config : Config} (valid : config.Valid) {field : String}
    {path : List String} (nonempty : field ≠ "")
    (h : config.target? field = some (.metadata path)) (key : String) :
    config.target? (field ++ "." ++ key) =
      if (segments key).all (· ≠ "") then some (.metadata (path ++ segments key)) else none := by
  have left := Target.isLeft_of_metadata h
  have hasPath : Target.metadataPath? config.jsonColumn field = some path := by
    have addressed := left.ofField?_eq.symm.trans h
    simpa using addressed
  have dotted := Target.metadataPath?_append_dot (dot_notMem_of_isIdentifier valid.1) nonempty
    hasPath key
  rw [Config.target?, (left.append_dot key).ofField?_eq, dotted]
  split <;> rfl

end FilterSql
