import FilterSql.Compile.Statement
import FilterSql.Proofs.Compile.Form
import FilterSql.Proofs.Compile.Induction
import FilterSql.Proofs.Field.Name
import FilterSql.Proofs.Sql.Lexeme

/-!
# The text of a compiled filter

The text of a statement is a spaced row of pieces, numbered behind the parameters that were
given, and its new parameters are what the holes hold. The code of the pieces is one of the
templates or the name of a column, and the quoted texts are segments of paths that the filter
addresses, or one of two constants (`statementPieces_form`). So the text is scanned piece by
piece (`compile_scan`).
-/

set_option autoImplicit false

namespace FilterSql

open Sql Compile

/-- A filter addresses a path inside the JSON column if one of its leaves stands there. -/
def Addresses (config : Config) (f : Filter) (path : List String) : Prop :=
  ∃ leaf, LeafOf config f.entries leaf ∧ leaf.target = .metadata path

/-- The texts that a statement may quote: the segments of the paths that its filter addresses, the
JSON null and the empty array. -/
def Quotable (config : Config) (f : Filter) (text : String) : Prop :=
  (∃ path, Addresses config f path ∧ text ∈ path) ∨ text = "null" ∨ text = noElements

/-- What stands at or below a path lies in the JSON column. -/
theorem Compile.LeafBelow.columnName {config : Config} {path : List String} {v : Value}
    {leaf : Leaf} (h : LeafBelow config path v leaf) :
    leaf.target.columnName config.jsonColumn = config.jsonColumn := by
  induction h with
  | here => rfl
  | child _ _ _ ih => exact ih

/-- What holds of every column that a field name addresses holds of the column of every leaf. -/
theorem Compile.LeafOf.column {config : Config} {column : String → Prop}
    (isColumn : ∀ {field target}, config.target? field = some target →
      column (target.columnName config.jsonColumn))
    {entries : List (String × Value)} {leaf : Leaf} (h : LeafOf config entries leaf) :
    column (leaf.target.columnName config.jsonColumn) := by
  induction h with
  | field _ _ addressed _ _ _ => exact isColumn addressed
  | metadata _ _ addressed below =>
    rw [below.columnName]
    exact isColumn addressed
  | group _ _ _ _ ih => exact ih

/-- A leaf quotes only what the statement may quote. -/
theorem Quotable.of_leaf {config : Config} {f : Filter} {leaf : Leaf} {text : String}
    (ofFilter : LeafOf config f.entries leaf) (quotes : leaf.Quotes text) :
    Quotable config f text := by
  rcases quotes with segment | constant
  · cases target : leaf.target with
    | metadata path =>
      rw [target] at segment
      exact .inl ⟨path, ⟨leaf, ofFilter, target⟩, segment⟩
    | _ =>
      rw [target] at segment
      cases segment
  · exact .inr constant

/-- The condition of a filter mentions only columns that field names address, and quotes only what
the statement may quote. -/
theorem filterCondition_over {config : Config} {column : String → Prop}
    (isColumn : ∀ {field target}, config.target? field = some target →
      column (target.columnName config.jsonColumn))
    {f : Filter} {c : Fragment} (h : filterCondition config f = .ok c) :
    c.Over column (Quotable config f) := by
  refine filterCondition_induction Condition.over_all Condition.over_group h ?_
  intro leaf ofFilter c' built
  refine (Leaf.fragment_over built).mono ?_ fun text quotes => .of_leaf ofFilter quotes
  rintro _ rfl
  exact ofFilter.column isColumn

/-- A compiled filter has a condition, written behind the given parameters. -/
theorem compile_ok {compiler : Compiler} {f : Filter} {given : ParamList} {mode : Mode}
    {s : Statement} (h : compiler.compile f given mode = .ok s) :
    ∃ c, filterCondition compiler.config f = .ok c ∧
      s.sql = Compiler.inMode mode f (String.ofList (charsFrom given.next c.pieces)) ∧
      s.params.items = given.items ++ holeValues c.pieces := by
  obtain ⟨c, condition, h⟩ := bind_eq_ok_iff.1 h
  cases h
  exact ⟨c, condition, rfl, rfl⟩

/-- The empty filter has no parameters. -/
theorem filterCondition_of_isEmpty {config : Config} {f : Filter} {c : Fragment}
    (empty : f.isEmpty = true) (h : filterCondition config f = .ok c) : c = .constant true := by
  obtain ⟨entries⟩ := f
  cases entries with
  | nil =>
    cases h
    rfl
  | cons _ _ => cases empty

/-! ## The pieces of a statement -/

/-- The pieces of a statement: those of its condition, which stand behind a keyword in a clause. A
clause for the empty filter has no pieces. -/
def statementPieces (mode : Mode) (f : Filter) (c : Fragment) : List (Piece Param) :=
  match mode with
  | .condition => c.pieces
  | .whereClause => if f.isEmpty then [] else .code "WHERE " :: c.pieces

/-- The statement of a condition behind given parameters. -/
def statementOf (mode : Mode) (f : Filter) (given : ParamList) (c : Fragment) : Statement :=
  ⟨String.ofList (charsFrom given.next (statementPieces mode f c)),
    ⟨given.items ++ holeValues (statementPieces mode f c)⟩⟩

/-- Filters that are both empty or both not have the same statement for the same condition. -/
theorem statementOf_congr {f f' : Filter} (mode : Mode) (given : ParamList)
    (same : f.isEmpty = f'.isEmpty) (c : Fragment) :
    statementOf mode f given c = statementOf mode f' given c := by
  cases mode with
  | condition => rfl
  | whereClause => simp only [statementOf, statementPieces, same]

/-- Compilation writes the condition of a filter. The given parameters have no part in which
condition it is, nor in whether there is one. -/
theorem compile_eq {compiler : Compiler} {f : Filter} {given : ParamList} {mode : Mode} :
    compiler.compile f given mode =
      (filterCondition compiler.config f).map (statementOf mode f given) := by
  rw [Compiler.compile]
  cases condition : filterCondition compiler.config f with
  | error e => rfl
  | ok c =>
    cases mode with
    | condition => rfl
    | whereClause =>
      cases empty : f.isEmpty with
      | true =>
        have constant := filterCondition_of_isEmpty empty condition
        subst constant
        simp [Except.map, statementOf, statementPieces, Condition.bindTo, bindPieces,
          Compiler.inMode, empty, Condition.pieces, charsFrom, holeValues]
      | false =>
        simp [Except.map, statementOf, statementPieces, Condition.bindTo, bindPieces,
          Compiler.inMode, empty, charsFrom, holeValues]
        rfl

/-- The pieces of a statement are spaced, and over what its filter may mention. -/
theorem statementPieces_form {config : Config} (valid : config.Valid) (mode : Mode) {f : Filter}
    {c : Fragment} (h : filterCondition config f = .ok c) :
    Spaced (statementPieces mode f c) ∧
      ∀ piece ∈ statementPieces mode f c, piece.Over IsColumnName (Quotable config f) := by
  have isOver := (filterCondition_over valid.isColumnName h).pieces
  cases mode with
  | condition => exact ⟨c.spaced, isOver⟩
  | whereClause =>
    rw [statementPieces]
    split
    · exact ⟨trivial, List.forall_mem_nil _⟩
    · exact ⟨c.spaced.code (.inl rfl), List.forall_mem_cons.2 ⟨.inl (by decide), isOver⟩⟩

/-- Neither a template nor the name of a column begins a literal or a placeholder. -/
theorem isCode_of_over {α : Type} {literal : String → Prop} {text : String}
    (h : (Piece.code text : Piece α).Over IsColumnName literal) : ∀ c ∈ text.toList, IsCode c := by
  rcases h with template | column
  · have noQuotes : (templates.all fun text => text.toList.all fun c => c ≠ '\'' && c ≠ '$') := by
      decide
    have codeChars := List.all_eq_true.1 (List.all_eq_true.1 noQuotes text template)
    intro c mem
    simpa [IsCode] using codeChars c mem
  · intro c mem
    have word := column.2 c mem
    constructor
    · rintro rfl
      cases word
    · rintro rfl
      cases word

/-- The pieces of a statement are scanned one by one. -/
theorem scan_statementPieces {config : Config} (valid : config.Valid) (mode : Mode) {f : Filter}
    {c : Fragment} (h : filterCondition config f = .ok c) (next : Nat) :
    scan (charsFrom next (statementPieces mode f c)) =
      some (lexemesFrom next (statementPieces mode f c)) := by
  obtain ⟨spaced, isOver⟩ := statementPieces_form valid mode h
  exact scan_charsFrom next spaced fun text mem => isCode_of_over (isOver _ mem)

/-- The text of a statement is scanned piece by piece. -/
theorem compile_scan {compiler : Compiler} {f : Filter} {given : ParamList} {mode : Mode}
    {s : Statement} (h : compiler.compile f given mode = .ok s) :
    ∃ pieces : List (Piece Param), scan s.sql.toList = some (lexemesFrom given.next pieces) ∧
      s.params.items = given.items ++ holeValues pieces ∧
      ∀ piece ∈ pieces, piece.Over IsColumnName (Quotable compiler.config f) := by
  rw [compile_eq] at h
  obtain ⟨c, condition, rfl⟩ := map_eq_ok_iff.1 h
  refine ⟨statementPieces mode f c, ?_, rfl, ?_⟩
  · rw [statementOf, String.toList_ofList]
    exact scan_statementPieces compiler.valid mode condition _
  · exact (statementPieces_form compiler.valid mode condition).2

end FilterSql
