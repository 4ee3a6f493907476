import FilterSql.Config
import FilterSql.Proofs.Sql.Lexeme

/-!
# Names that stand in SQL without quotes

A column is written as it is named. Its name is a row of identifiers between dots, so it is a
single word: it holds nothing that SQL could read as anything else.
-/

set_option autoImplicit false

namespace FilterSql

open Sql

/-- A name that is one word of SQL. -/
def IsColumnName (name : String) : Prop := name.toList ≠ [] ∧ ∀ c ∈ name.toList, isWordChar c = true

/-- A character of an identifier may stand in a word. -/
theorem isWordChar_of_isIdentifierPart {c : Char} (h : isIdentifierPart c = true) :
    isWordChar c = true := by
  simp only [isIdentifierPart, Bool.or_eq_true] at h
  simp only [isWordChar, Bool.or_eq_true]
  exact .inl h

/-- What may begin an identifier may also stand inside it. -/
theorem isIdentifierPart_of_isIdentifierChars {cs : List Char} (h : isIdentifierChars cs = true) :
    ∀ c ∈ cs, isIdentifierPart c = true := by
  cases cs with
  | nil => exact List.forall_mem_nil _
  | cons first rest =>
    simp only [isIdentifierChars, Bool.and_eq_true, List.all_eq_true] at h
    intro c mem
    rcases List.mem_cons.1 mem with rfl | mem
    · have start := h.1
      simp only [isIdentifierStart, Bool.or_eq_true] at start
      simp only [isIdentifierPart, Char.isAlphanum, Bool.or_eq_true]
      exact start.imp_left .inl
    · exact h.2 c mem

/-- Every character of an identifier may stand in a word. -/
theorem isWordChar_of_isIdentifierChars {cs : List Char} (h : isIdentifierChars cs = true) :
    ∀ c ∈ cs, isWordChar c = true := fun c mem =>
  isWordChar_of_isIdentifierPart (isIdentifierPart_of_isIdentifierChars h c mem)

/-- An identifier has no dots. -/
theorem dot_notMem_of_isIdentifier {name : String} (h : isIdentifier name = true) :
    '.' ∉ name.toList := by
  intro dot
  have isPart := isIdentifierPart_of_isIdentifierChars h '.' dot
  revert isPart
  decide

/-- An identifier does not have the form of a keyword. -/
theorem isKeywordKey_of_isIdentifier {name : String} (h : isIdentifier name = true) :
    isKeywordKey name = false := by
  have noDollar : '$' ∉ name.toList := by
    intro dollar
    have isPart := isIdentifierPart_of_isIdentifierChars h '$' dollar
    revert isPart
    decide
  exact decide_eq_false fun first => noDollar (List.mem_of_head? first)

/-- An identifier is the name of a column. -/
theorem isColumnName_of_isIdentifier {name : String} (h : isIdentifier name = true) :
    IsColumnName name := by
  refine ⟨fun empty => ?_, isWordChar_of_isIdentifierChars h⟩
  simp [isIdentifier, empty, isIdentifierChars] at h

/-! ## Segments -/

/-- Even the empty text has one part. -/
theorem splitDots_ne_nil (cs : List Char) : splitDots cs ≠ [] := by
  cases cs with
  | nil => exact List.cons_ne_nil _ _
  | cons c rest =>
    rw [splitDots]
    split
    · exact List.cons_ne_nil _ _
    · split <;> exact List.cons_ne_nil _ _

/-- Even the empty name has one segment. -/
theorem segments_ne_nil (name : String) : segments name ≠ [] := by
  rw [segments, ne_eq, List.map_eq_nil_iff]
  exact splitDots_ne_nil name.toList

/-- The segments on both sides of a dot are split each for themselves. -/
theorem splitDots_append_dot (cs ds : List Char) :
    splitDots (cs ++ '.' :: ds) = splitDots cs ++ splitDots ds := by
  induction cs with
  | nil => rfl
  | cons c rest ih =>
    obtain ⟨first, others, split⟩ := List.exists_cons_of_ne_nil (splitDots_ne_nil rest)
    rw [split] at ih
    rw [List.cons_append, splitDots, splitDots, ih, split]
    by_cases dot : c = '.' <;> simp [dot]

/-- A dot ends the segments of what stands before it. -/
theorem segments_append_dot (name key : String) :
    segments (name ++ "." ++ key) = segments name ++ segments key := by
  have chars : (name ++ "." ++ key).toList = name.toList ++ '.' :: key.toList := by simp
  rw [segments, chars, splitDots_append_dot, List.map_append]
  rfl

/-- A name without dots is its only segment. -/
theorem segments_of_notMem {name : String} (noDot : '.' ∉ name.toList) :
    segments name = [name] := by
  have split : ∀ cs : List Char, '.' ∉ cs → splitDots cs = [cs] := by
    intro cs
    induction cs with
    | nil => exact fun _ => rfl
    | cons c rest ih =>
      intro noDot
      rw [List.mem_cons, not_or] at noDot
      simp only [splitDots, if_neg (Ne.symm noDot.1), ih noDot.2]
  rw [segments, split _ noDot, List.map_singleton, String.ofList_toList]

/-- A dot stands behind each segment but the last. -/
theorem joinSegments_cons_cons (s t : String) (path : List String) :
    joinSegments (s :: t :: path) = s ++ "." ++ joinSegments (t :: path) :=
  String.intercalate_cons_cons

/-- A single segment is a name without dots around it. -/
theorem joinSegments_singleton (s : String) : joinSegments [s] = s := String.intercalate_singleton

/-- Joining the segments of a name gives the name back. -/
theorem joinSegments_segments (name : String) : joinSegments (segments name) = name := by
  have joined : ∀ cs : List Char,
      joinSegments ((splitDots cs).map String.ofList) = String.ofList cs := by
    intro cs
    induction cs with
    | nil => rfl
    | cons c rest ih =>
      obtain ⟨first, others, split⟩ := List.exists_cons_of_ne_nil (splitDots_ne_nil rest)
      rw [split] at ih
      rw [splitDots, split]
      by_cases dot : c = '.'
      · rw [if_pos dot, List.map_cons, List.map_cons, joinSegments_cons_cons, ← List.map_cons, ih,
          dot]
        simp
      · rw [if_neg dot]
        cases others with
        | nil => simpa [joinSegments_singleton] using ih
        | cons second others =>
          simp only [List.map_cons, joinSegments_cons_cons] at ih ⊢
          simp only [String.ext_iff, String.toList_append, String.toList_ofList] at ih ⊢
          rw [← ih]
          rfl
  rw [segments, joined, String.ofList_toList]

/-- No segment of a name holds a dot. -/
theorem notMem_of_mem_segments {name s : String} (mem : s ∈ segments name) : '.' ∉ s.toList := by
  have noDots : ∀ cs : List Char, ∀ segment ∈ splitDots cs, '.' ∉ segment := by
    intro cs
    induction cs with
    | nil => simp [splitDots]
    | cons c rest ih =>
      obtain ⟨first, others, split⟩ := List.exists_cons_of_ne_nil (splitDots_ne_nil rest)
      rw [split, List.forall_mem_cons] at ih
      rw [splitDots, split]
      by_cases dot : c = '.'
      · rw [if_pos dot, List.forall_mem_cons, List.forall_mem_cons]
        exact ⟨List.not_mem_nil, ih⟩
      · rw [if_neg dot, List.forall_mem_cons]
        exact ⟨by simp [Ne.symm dot, ih.1], ih.2⟩
  obtain ⟨segment, isSegment, rfl⟩ := List.mem_map.1 mem
  rw [String.toList_ofList]
  exact noDots _ segment isSegment

/-- Segments without dots are those of the name that they are joined to. -/
theorem segments_joinSegments {path : List String} (nonempty : path ≠ [])
    (noDots : ∀ s ∈ path, '.' ∉ s.toList) : segments (joinSegments path) = path := by
  induction path with
  | nil => exact absurd rfl nonempty
  | cons s rest ih =>
    obtain ⟨first, others⟩ := List.forall_mem_cons.1 noDots
    cases rest with
    | nil => rw [joinSegments_singleton, segments_of_notMem first]
    | cons t rest =>
      rw [joinSegments_cons_cons, segments_append_dot, segments_of_notMem first,
        ih (List.cons_ne_nil t rest) others]
      rfl

/-- Every character of a name is a dot or stands in a segment. -/
theorem mem_splitDots {c : Char} {cs : List Char} (mem : c ∈ cs) :
    c = '.' ∨ ∃ segment ∈ splitDots cs, c ∈ segment := by
  -- A character that is no dot stands in the segment that is begun, or in one of those behind it.
  induction cs with
  | nil => cases mem
  | cons first rest ih =>
    simp only [splitDots]
    split
    · rename_i dot
      rcases List.mem_cons.1 mem with rfl | mem
      · exact .inl dot
      · obtain isDot | ⟨segment, isSegment, inside⟩ := ih mem
        · exact .inl isDot
        · exact .inr ⟨segment, List.mem_cons_of_mem _ isSegment, inside⟩
    · split
      · rename_i empty
        rcases List.mem_cons.1 mem with rfl | mem
        · exact .inr ⟨[c], by simp⟩
        · obtain isDot | ⟨segment, isSegment, _⟩ := ih mem
          · exact .inl isDot
          · rw [empty] at isSegment
            cases isSegment
      · rename_i head others split
        rcases List.mem_cons.1 mem with rfl | mem
        · exact .inr ⟨c :: head, by simp⟩
        · obtain isDot | ⟨segment, isSegment, inside⟩ := ih mem
          · exact .inl isDot
          · rw [split] at isSegment
            rcases List.mem_cons.1 isSegment with rfl | isSegment
            · exact .inr ⟨first :: segment, by simp, List.mem_cons_of_mem _ inside⟩
            · exact .inr ⟨segment, List.mem_cons_of_mem _ isSegment, inside⟩

/-- A name whose segments are identifiers is the name of a column. -/
theorem isColumnName_of_segments {name : String} (h : (segments name).all isIdentifier = true) :
    IsColumnName name := by
  have identifiers : ∀ segment ∈ splitDots name.toList, isIdentifierChars segment = true := by
    intro segment mem
    have := List.all_eq_true.1 h (String.ofList segment) (List.mem_map_of_mem mem)
    simpa [isIdentifier] using this
  constructor
  · intro empty
    have := identifiers [] (by simp [empty, splitDots])
    cases this
  · intro c mem
    rcases mem_splitDots mem with rfl | ⟨segment, isSegment, inside⟩
    · rfl
    · exact isWordChar_of_isIdentifierChars (identifiers segment isSegment) c inside

/-- The target of a field name lies in a column whose name stands in SQL without quotes. -/
theorem Config.Valid.isColumnName {config : Config} (valid : config.Valid) {field : String}
    {target : Target} (h : config.target? field = some target) :
    IsColumnName (target.columnName config.jsonColumn) := by
  unfold Config.target? Target.ofField? at h
  split at h
  · cases h
    exact isColumnName_of_isIdentifier (show isIdentifier Target.collectionColumn = true by decide)
  · split at h
    · cases h
      exact isColumnName_of_isIdentifier (show isIdentifier Target.parentField = true by decide)
    · simp only at h
      split at h
      · split at h
        · rename_i identifiers
          cases h
          exact isColumnName_of_segments identifiers
        · cases h
      · obtain ⟨path, -, rfl⟩ := Option.map_eq_some_iff.1 h
        exact isColumnName_of_isIdentifier valid.1

end FilterSql
