import FilterSql.Proofs.Compile.Text
import FilterSql.Proofs.Sql.ReadBack

/-!
# The meaning of filters

A filter means the formula of its leaves, and a leaf means what the reader reads in the text of
its own fragment. Reading the text of the whole condition by the precedence of SQL gives a
formula with the same truth value under every assignment to the atomic comparisons
(`compile_meaning`): the parentheses that are written are enough, and those that are left out
are not missed. Groups stand before fields in a statement, and so in the formula, where only
the numbers of placeholders depend on it: the truth value is that of the entries in the order
in which they are written (`entriesFormula_written`).
-/

set_option autoImplicit false

namespace FilterSql

open Sql Compile

/-! ## The meaning -/

/-- Puts in place of each leaf what is read in the text of its fragment, placeholders being
numbered from left to right. Gives the formula over atomic comparisons, and the number of the
next placeholder. -/
def place (config : Config) (next : Nat) : Formula Leaf → Option (Formula (List Token) × Nat)
  | .constant truth => some (.constant truth, next)
  | .atom leaf => do
    let c ← (leaf.fragment config).toOption
    let reading ← readText (charsFrom next c.pieces)
    return (reading, next + (holeValues c.pieces).length)
  | .not φ => do
    let (reading, next) ← place config next φ
    return (.not reading, next)
  | .join k left right => do
    let (leftReading, next) ← place config next left
    let (rightReading, next) ← place config next right
    return (.join k leftReading rightReading, next)

/-- The meaning of a filter as a formula over atomic comparisons, the first placeholder having
the number `next`. -/
def Filter.meaning (config : Config) (next : Nat) (f : Filter) : Option (Formula (List Token)) := do
  let φ ← entriesFormula config f.entries
  let (meaning, _) ← place config next φ
  return meaning

/-- No column of a configuration has the name of a word that the reader goes by. -/
def Config.HasPlainColumns (config : Config) : Prop :=
  ∀ name ∈ config.jsonColumn :: config.columns.orDefault.names, isReserved name.toList = false

/-- It can be decided whether no column has a reserved name. -/
instance (config : Config) : Decidable config.HasPlainColumns :=
  inferInstanceAs (Decidable (∀ name ∈ _, _))

/-- A formula of leaves and a condition mean the same, wherever the condition stands. -/
def Means (config : Config) (φ : Formula Leaf) (c : Fragment) : Prop :=
  ∀ next, ∃ meaning, place config next φ = some (meaning, next + (holeValues c.pieces).length) ∧
    ∀ v, meaning.eval v = (c.formula next).eval v

section

variable {config : Config}

/-- The text of a chained condition is read as its formula. -/
theorem readText_charsFrom {c : Fragment} {literal : String → Prop}
    (isOver : c.Over IsPlainName literal) (chained : c.Chained) (next : Nat) :
    readText (charsFrom next c.pieces) = some (c.formula next) := by
  have columns : c.Over IsColumnName literal :=
    isOver.mono (fun _ plain => plain.1) fun _ quoted => quoted
  have scanned : scan (charsFrom next c.pieces) = some (lexemesFrom next c.pieces) :=
    scan_charsFrom next c.spaced fun text mem => isCode_of_over (columns.pieces _ mem)
  rw [readText, scanned, Option.map_some, tokens_lexemesFrom next c.spaced,
    Condition.read_pieces isOver chained]

/-- A leaf means its fragment. -/
theorem means_leaf {leaf : Leaf} {c : Fragment} {literal : String → Prop}
    (built : leaf.fragment config = .ok c) (isOver : c.Over IsPlainName literal)
    (chained : c.Chained) : Means config (.atom leaf) c := by
  intro next
  refine ⟨c.formula next, ?_, fun _ => rfl⟩
  rw [place, built]
  simp [Except.toOption, readText_charsFrom isOver chained]

/-- Two formulas under a connective mean what two conditions mean that are joined by it. -/
theorem Means.join {k : Connective} {φ ψ : Formula Leaf} {c c' : Fragment} (h : Means config φ c)
    (h' : Means config ψ c') : Means config (.join k φ ψ) (.join k c c') := by
  intro next
  obtain ⟨left, placedLeft, same⟩ := h next
  obtain ⟨right, placedRight, same'⟩ := h' (next + (holeValues c.pieces).length)
  refine ⟨.join k left right, ?_, ?_⟩
  · simp [place, placedLeft, placedRight, Condition.pieces, holeValues_append, holeValues,
      Nat.add_assoc]
  · intro v
    simp only [Formula.eval, Condition.formula, same, same']

/-- Parentheses do not change what a condition means. -/
theorem Means.paren {φ : Formula Leaf} {c : Fragment} (h : Means config φ c) :
    Means config φ (.paren c) := by
  intro next
  obtain ⟨meaning, placed, same⟩ := h next
  refine ⟨meaning, ?_, same⟩
  simp [placed, Condition.pieces, holeValues_append, holeValues]

/-- A single formula under a connective means what it means alone. -/
theorem Means.joinAll_single {k : Connective} {φ : Formula Leaf} {c : Fragment}
    (h : Means config φ c) : Means config (.joinAll k [φ]) c := by
  intro next
  obtain ⟨meaning, placed, same⟩ := h next
  refine ⟨.join k meaning (.constant (neutral k)), ?_, ?_⟩
  · simp [Formula.joinAll, place, placed]
  · intro v
    rw [Formula.eval, Formula.eval, Truth.join_neutral, same]

/-- A group means its conditions under its connective. -/
theorem means_group (k : Connective) {φs : List (Formula Leaf)} {cs : List Fragment}
    (h : List.Forall₂ (Means config) φs cs) : Means config (.joinAll k φs) (.group k cs) := by
  induction h with
  | nil =>
    intro next
    cases k with
    | and => exact ⟨.constant true, rfl, fun _ => rfl⟩
    | or => exact ⟨.constant false, rfl, fun _ => rfl⟩
  | @cons φ c φs cs first others ih =>
    cases others with
    | nil => exact first.paren.joinAll_single
    | cons second others => exact first.paren.join ih

/-- A conjunction means the conjunction of its conditions. -/
theorem means_all {φs : List (Formula Leaf)} {cs : List Fragment}
    (h : List.Forall₂ (Means config) φs cs) : Means config (.joinAll .and φs) (.all cs) := by
  rcases Condition.all_cases cs with single | several
  · rw [single] at h
    obtain ⟨φ, rest, first, none, rfl⟩ := List.forall₂_cons_right_iff.1 h
    cases none
    exact first.joinAll_single
  · rw [several]
    exact means_group .and h

/-! ## Columns with plain names -/

/-- The words that the reader goes by have no dots. -/
theorem notMem_of_isReserved {cs : List Char} (h : isReserved cs = true) : '.' ∉ cs := by
  intro dot
  obtain ⟨word, isWord, spelled⟩ := List.any_eq_true.1 h
  have inWord : '.' ∈ word.toList := by
    rw [← of_decide_eq_true spelled]
    exact List.mem_map_of_mem (f := Char.toUpper) dot
  have noDots : ∀ word ∈ reservedWords, '.' ∉ word.toList := by decide
  exact noDots word isWord inWord

/-- Every column that a field name addresses has a plain name. -/
theorem Config.HasPlainColumns.isPlainName (plain : config.HasPlainColumns) (valid : config.Valid)
    {field : String} {target : Target} (h : config.target? field = some target) :
    IsPlainName (target.columnName config.jsonColumn) := by
  refine ⟨valid.isColumnName h, ?_⟩
  unfold Config.target? Target.ofField? at h
  split at h
  · cases h
    exact show isReserved Target.collectionColumn.toList = false by decide
  · split at h
    · cases h
      exact show isReserved Target.parentField.toList = false by decide
    · simp only at h
      split at h
      · rename_i isColumn
        split at h
        · cases h
          -- A reserved name would be its own first segment, and so one of the columns.
          cases reserved : isReserved field.toList with
          | false => exact reserved
          | true =>
            have first : (segments field).headD "" = field := by
              rw [segments_of_notMem (notMem_of_isReserved reserved)]
              rfl
            rw [first, Bool.and_eq_true] at isColumn
            have mem := List.mem_of_elem_eq_true isColumn.2
            rw [plain field (List.mem_cons_of_mem _ mem)] at reserved
            cases reserved
        · cases h
      · obtain ⟨path, -, rfl⟩ := Option.map_eq_some_iff.1 h
        exact plain _ List.mem_cons_self

end

/-- The text of a compiled filter is read as a formula that has the truth value of the filter's
meaning, whatever the truth values of the atomic comparisons. -/
theorem compile_meaning {compiler : Compiler} (plain : compiler.config.HasPlainColumns)
    {f : Filter} {given : ParamList} {s : Statement}
    (h : compiler.compile f given .condition = .ok s) :
    ∃ reading meaning, readText s.sql.toList = some reading ∧
      f.meaning compiler.config given.next = some meaning ∧
      ∀ v, reading.eval v = meaning.eval v := by
  obtain ⟨c, condition, sql, -⟩ := compile_ok h
  have isPlain : ∀ {field target}, compiler.config.target? field = some target →
      IsPlainName (target.columnName compiler.config.jsonColumn) :=
    plain.isPlainName compiler.valid
  have isOver := filterCondition_over isPlain condition
  have chained : c.Chained := filterCondition_induction Condition.chained_all
    Condition.chained_group condition fun leaf _ _ built => leaf.fragment_chained built
  have compositional : Compositional (Means compiler.config) := ⟨means_all, means_group⟩
  have leaves : ∀ leaf, LeafOf compiler.config f.entries leaf →
      ∀ c', leaf.fragment compiler.config = .ok c' → Means compiler.config (.atom leaf) c' := by
    intro leaf ofFilter c' built
    refine means_leaf built ((leaf.fragment_over built).mono ?_ fun _ quotes => quotes)
      (leaf.fragment_chained built)
    rintro _ rfl
    exact ofFilter.column isPlain
  obtain ⟨φ, formula, means⟩ := filterCondition_formula compositional condition leaves
  obtain ⟨meaning, placed, same⟩ := means given.next
  refine ⟨c.formula given.next, meaning, ?_, ?_, fun v => (same v).symm⟩
  · rw [sql, Compiler.inMode, String.toList_ofList]
    exact readText_charsFrom isOver chained _
  · rw [Filter.meaning, formula]
    simp [placed]

/-- A filter with a group, a nested path, a test for the JSON null and a negation. -/
def nestedFilter : Filter :=
  ⟨[("status", .string "active"),
    ("$or", .list
      [.object [("a", .null), ("b", .object [("c", .bool true), ("d", .signed 1)])],
        .object [("collection_id", .object
          [("$nin", .list [.string "00000000-0000-0000-0000-000000000000"])])]])]⟩

/-- The statement of `nestedFilter`. -/
def nestedStatement : Statement :=
  ⟨"((((metadata->'a' IS NOT NULL AND metadata->'a' = 'null'::jsonb)) AND " ++
      "(((metadata->'b'->>'c')::boolean = $1) AND ((metadata->'b'->>'d')::numeric = $2))) OR " ++
      "(NOT (collection_ids && ARRAY[$3]::uuid[]))) AND (status = $4)",
    ⟨[.bool true, .signed 1, .text "00000000-0000-0000-0000-000000000000", .text "active"]⟩⟩

/-- What is read in the statement of `nestedFilter` has the truth value of its meaning. -/
theorem nestedFilter_meaning :
    Compiler.default.config.HasPlainColumns ∧
      Compiler.default.compile nestedFilter ⟨[]⟩ .condition = .ok nestedStatement ∧
      ∃ reading meaning, readText nestedStatement.sql.toList = some reading ∧
        nestedFilter.meaning Compiler.default.config 1 = some meaning ∧
          ∀ v, reading.eval v = meaning.eval v := by
  have plain : Compiler.default.config.HasPlainColumns := by decide
  have compiled : Compiler.default.compile nestedFilter ⟨[]⟩ .condition = .ok nestedStatement := by
    decide +kernel
  obtain ⟨reading, meaning, isReading, isMeaning, same⟩ := compile_meaning plain compiled
  exact ⟨plain, compiled, reading, meaning, isReading, isMeaning, same⟩

end FilterSql
