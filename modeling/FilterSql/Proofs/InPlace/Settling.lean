import FilterSql.Proofs.InPlace.Builders
import FilterSql.Proofs.InPlace.Writing

/-!
# What the builders settle on

Each of the four builders settles on the condition that the compiler finds for an operator. The
conditions on the collections and on the parent are found for one column each; a builder that is
given another writes that one in its place. First come the texts without placeholders, then what is
put around placeholders, then the builders, by the operator.
-/

set_option autoImplicit false

namespace FilterSql

open Sql Build

/-! ## Another column -/

/-- A test of another term. -/
def Sql.Test.about {α : Type} (t : Term α) : Test α → Test α
  | .relation _ r right => .relation t r right
  | .isNull _ => .isNull t
  | .isNotNull _ => .isNotNull t
  | .inList _ values => .inList t values
  | .notInList _ values => .notInList t values
  | .inArray _ array => .inArray t array
  | .notInArray _ array => .notInArray t array
  | .inDocument _ document => .inDocument t document

/-- A condition whose tests are all of another term. -/
def Sql.Condition.about {α : Type} (t : Term α) : Condition α → Condition α
  | .constant truth => .constant truth
  | .test other => .test (other.about t)
  | .not c => .not (c.about t)
  | .paren c => .paren (c.about t)
  | .join k left right => .join k (left.about t) (right.about t)

namespace Compile

section

variable {s : String} {t t' : Term Param}

/-! ## Closed texts -/

/-- A member is written behind its document, with an arrow and the quoted key. -/
theorem hasText_member (h : HasText s t.pieces) (key : String) :
    HasText (s ++ "->" ++ quotedText key) (Term.member t key).pieces := by
  have row := (h.append (hasText_code "->")).append (hasText_quoted key)
  rwa [List.append_assoc] at row

/-- A member as text is written behind its document, with the longer arrow and the quoted key. -/
theorem hasText_memberText (h : HasText s t.pieces) (key : String) :
    HasText (s ++ "->>" ++ quotedText key) (Term.memberText t key).pieces := by
  have row := (h.append (hasText_code "->>")).append (hasText_quoted key)
  rwa [List.append_assoc] at row

/-- The accessor of a document is written key by key. -/
theorem hasText_jsonAccessor (column : String) (path : List String) :
    HasText (jsonAccessorText column path) (jsonAccessor column path : Term Param).pieces := by
  have extend : ∀ (path : List String) {s : String} {t : Term Param}, HasText s t.pieces →
      HasText (path.foldl (fun text key => text ++ "->" ++ quotedText key) s)
        (path.foldl .member t).pieces := by
    intro path
    induction path with
    | nil => exact fun h => h
    | cons key rest ih => exact fun h => ih (hasText_member h key)
  exact extend path (hasText_code column)

/-- The accessor of a text is written like that of a document, up to its last key. -/
theorem hasText_textAccessor (column : String) (path : List String) :
    HasText (textAccessorText column path) (textAccessor column path : Term Param).pieces := by
  have cast : HasText "::text" [.code "::", .code "text"] := ⟨rfl, fun _ => rfl⟩
  unfold textAccessorText textAccessor
  cases path.getLast? with
  | none => exact (hasText_code column).append cast
  | some key => exact hasText_memberText (hasText_jsonAccessor column _) _

/-- The accessor that is cast for an operand is written with parentheses before the cast. -/
theorem hasText_typedAccessor (column : String) (path : List String) (operand : Value) :
    HasText (typedAccessorText column path operand)
      (typedAccessor column path operand : Term Param).pieces := by
  have text := hasText_textAccessor column path
  unfold typedAccessorText typedAccessor
  cases operand.kind with
  | boolean =>
    constructor <;> simp [Term.pieces, holeValues, holeValues_append, charsFrom, charsFrom_append,
      text.1, text.2, SqlType.name]
  | number =>
    constructor <;> simp [Term.pieces, holeValues, holeValues_append, charsFrom, charsFrom_append,
      text.1, text.2, SqlType.name]
  | _ => exact text

/-- The tests for null are written without placeholders. -/
theorem hasText_null (column : String) (c : Comparison) :
    HasText (nullText column c) (Condition.test
      (if c = .ne then .isNotNull (.column column) else .isNull (.column column))).pieces := by
  unfold nullText
  split
  · exact (hasText_code column).append (hasText_code " IS NOT NULL")
  · exact (hasText_code column).append (hasText_code " IS NULL")

/-- The tests for the JSON null are written without placeholders. They name their accessor twice. -/
theorem hasText_jsonNull (column : String) (path : List String) (c : Comparison) :
    HasText (jsonNullText (jsonAccessorText column path) c)
      (if c = .ne then isNotJsonNull (jsonAccessor column path)
        else isJsonNull (jsonAccessor column path)).pieces := by
  have accessor := hasText_jsonAccessor column path
  unfold jsonNullText
  split
  · constructor <;> simp [isNotJsonNull, jsonNull, Condition.pieces, Test.pieces, Term.pieces,
      holeValues, holeValues_append, charsFrom, charsFrom_append, accessor.1, accessor.2,
      connectiveCode, Relation.sql, Comparison.sql, SqlType.name, quoteChars]
  · constructor <;> simp [isJsonNull, jsonNull, Condition.pieces, Test.pieces, Term.pieces,
      holeValues, holeValues_append, charsFrom, charsFrom_append, accessor.1, accessor.2,
      connectiveCode, Relation.sql, Comparison.sql, SqlType.name, quoteChars]

/-! ## What stands around placeholders -/

/-- A cast is written behind its term. -/
theorem around_cast {suffix : String} {type : SqlType} (name : "::" ++ type.name = suffix) :
    Around (fun text => text ++ suffix) t.pieces (Term.cast t type).pieces := by
  subst name
  exact around_before _ ((hasText_code "::").append (hasText_code type.name))

/-- A relation to a text without placeholders is written before its right side. -/
theorem around_relation (left : HasText s t.pieces) (r : Relation) :
    Around (relationText s r.sql) t'.pieces (Condition.test (.relation t r t')).pieces := by
  have before := ((left.append (hasText_code " ")).append (hasText_code r.sql)).append
    (hasText_code " ")
  have around := around_behind t'.pieces before
  simp only [List.append_assoc, List.singleton_append] at around
  exact around

/-- What is enclosed behind a term is written between two fixed texts. -/
theorem around_call (left : HasText s t.pieces) (opening closing : String)
    (row : List (Piece Param)) :
    Around (fun text => s ++ opening ++ text ++ closing) row
      (t.pieces ++ .code opening :: row ++ [.code closing]) := by
  have around := around_between row (left.append (hasText_code opening)) (hasText_code closing)
  rwa [List.append_assoc t.pieces] at around

/-- A negation is written around its condition. -/
theorem around_not (c : Fragment) : Around (negatedText true) c.pieces (Condition.not c).pieces :=
  around_between c.pieces (hasText_code "NOT (") (hasText_code ")")

end

/-! ## The builders -/

/-- A list with a first element is not mapped to the empty list. -/
theorem ne_nil_of_mapM {α : Type} {f : Value → Except CompileError α} {item : Value}
    {rest : List Value} {as : List α} (h : (item :: rest).mapM f = .ok as) : as ≠ [] := by
  have length := gives_mapM_length f (item :: rest) as h
  rintro rfl
  cases length

/-- The empty list has a constant for its condition, and nothing is collected for it. -/
theorem settles_items {row : Fragment → List (Piece Param)} {field : String} {o : Operator}
    {operand : Value} {truth : Bool} {k : List Value → Build String}
    {g : List Value → Except CompileError Fragment}
    (empty : Writes (pure (emptyListText o)) (row (.constant truth)))
    (items : ∀ item rest, Settles row (k (item :: rest)) (g (item :: rest))) :
    Settles row
      (check (listOperand field o operand) >>= fun items =>
        if items.isEmpty then pure (emptyListText o) else k items)
      (listOperand field o operand >>= fun items =>
        if items.isEmpty then pure (.constant truth) else g items) := by
  refine settles_check fun elements _ => ?_
  cases elements with
  | nil => exact settles_ok empty
  | cons item rest => exact items item rest

/-- A condition on a plain column checks all of its operand before it collects any of it. -/
theorem buildColumn_settles (config : Config) (field column : String) (o : Operator)
    (operand : Value) :
    Settles Condition.pieces (buildColumn config field column o operand)
      (columnOperation config field column o operand) := by
  have left := hasText_code column
  cases o with
  | compare c =>
    unfold buildColumn columnOperation
    dsimp only
    split
    · exact settles_ok (writes_pure (hasText_null column c))
    · exact settles_check fun p _ =>
        settles_ok ((writes_collect p).around (around_relation left (.compare c)))
  | pattern p =>
    exact settles_check fun text _ =>
      settles_ok ((writes_collect (.text text)).around (around_relation left (.pattern p)))
  | within =>
    refine settles_check fun items _ => ?_
    cases items with
    | nil => exact settles_ok (writes_pure (hasText_code "FALSE"))
    | cons item rest =>
      refine settles_check fun values found => ?_
      rw [if_neg (by simpa using ne_nil_of_mapM found)]
      exact settles_ok ((writes_collectAll values).around (around_call left " IN (" ")" _))
  | without =>
    refine settles_check fun items _ => ?_
    cases items with
    | nil => exact settles_ok (writes_pure (hasText_code "TRUE"))
    | cons item rest =>
      refine settles_check fun values found => ?_
      rw [if_neg (by simpa using ne_nil_of_mapM found)]
      exact settles_ok ((writes_collectAll values).around (around_call left " NOT IN (" ")" _))
  | overlap => exact settles_refuse _
  | contains => exact settles_refuse _

/-- An array of identifiers is written with one placeholder for each. The empty one has none. -/
theorem writes_uuidArray (ids : List Uuid) :
    Writes (buildUuidArray ids) (uuidArray ids).pieces := by
  unfold buildUuidArray uuidArray
  split
  · have closed : HasText (quotedText noElements ++ "::uuid[]")
        (Term.cast (.literal noElements) .uuidArray : Term Param).pieces := ⟨rfl, fun _ => rfl⟩
    exact writes_pure closed
  · have array (values : List Param) :
        Around (fun text => "ARRAY[" ++ text ++ "]") (holes values) (Term.array values).pieces :=
      around_between (holes values) (hasText_code "ARRAY[") (hasText_code "]")
    exact (writes_collectAll _).around ((array _).comp (around_cast rfl))

/-- The row of a condition on another column. -/
def rowOn (column : String) (c : Fragment) : List (Piece Param) :=
  (c.about (.column column)).pieces

/-- A constant stands in place of a condition on no identifiers, and binds nothing. -/
theorem settles_orConstant {column text : String} {truth : Bool} {c : Fragment} {b : Build String}
    {ids : List Uuid} (constant : HasText text (rowOn column (.constant truth)))
    (other : Writes b (rowOn column c)) :
    Settles (rowOn column) (if ids.isEmpty then pure text else b)
      (.ok (if ids.isEmpty then .constant truth else c)) := by
  cases ids with
  | nil => exact settles_ok (writes_pure constant)
  | cons id rest => exact settles_ok other

/-- The collections are the column of all that is found for them. -/
theorem buildCollection_settles (field column : String) (o : Operator) (operand : Value) :
    Settles (rowOn column) (buildCollection field column o operand)
      (collectionOperation field o operand) := by
  have left := hasText_code column
  have relation (r : Relation) (ids : List Uuid) : Writes
      (buildUuidArray ids >>= fun array => pure (relationText column r.sql array))
      (rowOn column (.test (.relation collectionTerm r (uuidArray ids)))) :=
    (writes_uuidArray ids).around (around_relation left r)
  have negated (ids : List Uuid) : Writes
      (buildUuidArray ids >>= fun array => pure (negatedText true (relationText column "&&" array)))
      (rowOn column (.not (overlapTest ids))) :=
    (writes_uuidArray ids).around ((around_relation left .overlaps).comp (around_not _))
  cases o with
  | compare c =>
    cases c with
    | eq =>
      cases operand with
      | null => exact settles_ok (writes_pure (hasText_null column .eq))
      | list items => exact settles_check fun ids _ => settles_ok (relation (.compare .eq) ids)
      | _ => exact settles_check fun id _ => settles_ok (relation .overlaps [id])
    | ne =>
      cases operand with
      | null => exact settles_ok (writes_pure (hasText_null column .ne))
      | list items => exact settles_check fun ids _ => settles_ok (relation (.compare .ne) ids)
      | _ => exact settles_check fun id _ => settles_ok (negated [id])
    | _ => exact settles_refuse _
  | pattern p => exact settles_refuse _
  | within | overlap =>
    exact settles_check fun items _ => settles_check fun ids _ =>
      settles_orConstant (hasText_code "FALSE") (relation .overlaps ids)
  | without =>
    exact settles_check fun items _ => settles_check fun ids _ =>
      settles_orConstant (hasText_code "TRUE") (negated ids)
  | contains =>
    cases operand with
    | list items =>
      exact settles_check fun ids _ =>
        settles_orConstant (hasText_code "TRUE") (relation .includes ids)
    | _ => exact settles_check fun id _ => settles_ok (relation .includes [id])

/-! ### The parent -/

/-- What the parent is compared with is read as a scalar only where it is no identifier, and either
is collected last. -/
theorem buildParentOperand_settles (field : String) (o : Operator) (operand : Value) :
    Settles Term.pieces (buildParentOperand field o operand) (parentOperand field o operand) := by
  unfold buildParentOperand parentOperand
  cases uuidOperand field operand with
  | ok id => exact settles_ok ((writes_collect _).around (around_cast rfl))
  | error e => exact settles_check fun p _ => settles_ok (writes_collect p)

/-- The elements of a list for the parent are all checked before the array is collected. -/
theorem buildParentArray_settles (field : String) (o : Operator) (items : List Value) :
    Settles Term.pieces (buildParentArray field o items) (parentArray field o items) := by
  unfold buildParentArray parentArray
  cases items.mapM (uuidOperand field) with
  | ok ids => exact settles_ok ((writes_collect _).around (around_cast rfl))
  | error e =>
    exact settles_check fun texts _ => settles_ok ((writes_collect _).around (around_cast rfl))

/-- A condition on the parent checks all of its operand before it collects any of it, whatever the
column is called. -/
theorem buildParent_settles (field column : String) (o : Operator) (operand : Value) :
    Settles (rowOn column) (buildParent field column o operand)
      (parentOperation field o operand) := by
  have left := hasText_code column
  have relation (c : Comparison) (term : Term Param) : Around (relationText column c.sql)
      term.pieces (rowOn column (.test (.relation parentTerm (.compare c) term))) :=
    around_relation left (.compare c)
  cases o with
  | compare c =>
    cases c with
    | eq | ne =>
      simp only [buildParent, parentOperation, Comparison.isEquality, if_true]
      split
      · exact settles_ok (writes_pure (hasText_null column _))
      · exact (buildParentOperand_settles field _ operand).around (relation _)
    | _ => exact settles_refuse _
  | within =>
    refine settles_items (writes_pure (hasText_code "FALSE")) fun item rest => ?_
    exact (buildParentArray_settles field .within (item :: rest)).around fun array =>
      around_call left " = ANY(" ")" array.pieces
  | without =>
    refine settles_items (writes_pure (hasText_code "TRUE")) fun item rest => ?_
    exact (buildParentArray_settles field .without (item :: rest)).around fun array =>
      around_call left " != ALL(" ")" array.pieces
  | _ => exact settles_refuse _

/-! ### Metadata -/

/-- The placeholder of a document stands before its cast. -/
theorem around_jsonb (p : Param) : Around (fun placeholder => placeholder ++ "::jsonb")
    (Term.param p).pieces (Term.cast (.param p) .jsonb).pieces := around_cast rfl

/-- A membership checks all elements of its list before it collects any of them. -/
theorem buildMembership_settles (config : Config) (column field : String) (path : List String)
    (o : Operator) (negated : Bool) (items : List Value) :
    Settles Condition.pieces (buildMembership config column field path o negated items)
      (metadataMembership (config.withJsonColumn column) field path o negated items) := by
  have text := ((hasText_code "(").append (hasText_textAccessor column path)).append
    (hasText_code ")")
  have document (p : Param) : Around (fun placeholder => jsonAccessorText column path ++
      " = ANY(SELECT jsonb_array_elements(" ++ (placeholder ++ "::jsonb") ++ "))")
      (Term.param p).pieces
      (Condition.test (.inDocument (jsonAccessor column path) (.cast (.param p) .jsonb))).pieces :=
    (around_jsonb p).comp (around_call (hasText_jsonAccessor column path)
      " = ANY(SELECT jsonb_array_elements(" "))" _)
  unfold buildMembership metadataMembership
  cases strategy : config.metadataIn with
  | placeholderList =>
    simp only [Config.withJsonColumn, strategy]
    refine settles_check fun texts _ => settles_ok ?_
    cases negated with
    | false => exact (writes_collectAll _).around (around_call text " IN (" ")" _)
    | true => exact (writes_collectAll _).around (around_call text " NOT IN (" ")" _)
  | jsonArrayElements =>
    simp only [Config.withJsonColumn, strategy]
    refine settles_check fun p _ => settles_ok ?_
    cases negated with
    | false => exact (writes_collect p).around (document p)
    | true => exact (writes_collect p).around ((document p).comp (around_not _))

/-- The JSON column is the column that is passed. -/
theorem buildMetadata_settles (config : Config) (column : String) (path : List String)
    (o : Operator) (operand : Value) :
    Settles Condition.pieces (buildMetadata config column path o operand)
      (metadataOperation (config.withJsonColumn column) path o operand) := by
  have json := hasText_jsonAccessor column path
  have text := hasText_textAccessor column path
  have typed := hasText_typedAccessor column path operand
  have document (r : Relation) (p : Param) : Writes
      (collect p >>= fun placeholder =>
        pure (relationText (jsonAccessorText column path) r.sql (placeholder ++ "::jsonb")))
      (Condition.test (.relation (jsonAccessor column path) r (.cast (.param p) .jsonb))).pieces :=
    (writes_collect p).around ((around_jsonb p).comp (around_relation json r))
  cases o with
  | compare c =>
    unfold buildMetadata metadataOperation
    dsimp only
    split
    · exact settles_ok (writes_pure (hasText_jsonNull column path c))
    · split
      · exact settles_check fun p _ => settles_ok (document (.compare c) p)
      · exact settles_check fun p _ =>
          settles_ok ((writes_collect p).around (around_relation typed (.compare c)))
  | pattern p =>
    exact settles_check fun pattern _ =>
      settles_ok ((writes_collect (.text pattern)).around (around_relation text (.pattern p)))
  | within =>
    exact settles_items (writes_pure (hasText_code "FALSE")) fun item rest =>
      buildMembership_settles config column _ path .within false (item :: rest)
  | without =>
    exact settles_items (writes_pure (hasText_code "TRUE")) fun item rest =>
      buildMembership_settles config column _ path .without true (item :: rest)
  | contains => exact settles_check fun p _ => settles_ok (document .includes p)
  | overlap => exact settles_refuse _

end Compile

end FilterSql
