import FilterSql.Proofs.Compile.Text

/-!
# The numbers of placeholders

Parameters are bound by number, so the text of a statement must use every number once and no
other. The placeholders of a statement, read from left to right outside literals, are the
numbers from the first behind the given parameters up to the number of all parameters
(`placeholders_consecutive`). What looks like a placeholder inside a literal is none.
-/

set_option autoImplicit false

namespace FilterSql

open Sql Compile

/-- The digits of the placeholders among lexemes, from left to right. -/
def placeholders : List Lexeme → List (List Char)
  | [] => []
  | .placeholder digits :: rest => digits :: placeholders rest
  | .plain _ :: rest | .literal _ :: rest => placeholders rest

/-- Code holds no placeholders. -/
theorem placeholders_plain_append (code : List Char) (rest : List Lexeme) :
    placeholders (code.map .plain ++ rest) = placeholders rest := by
  induction code with
  | nil => rfl
  | cons c cs ih => exact ih

/-- The placeholders of pieces are numbered in the order of their holes, without a gap. -/
theorem placeholders_lexemesFrom {α : Type} (next : Nat) (pieces : List (Piece α)) :
    placeholders (lexemesFrom next pieces) =
      (List.range' next (holeValues pieces).length).map (Nat.toDigits 10) := by
  induction pieces generalizing next with
  | nil => rfl
  | cons piece rest ih =>
    cases piece with
    | code text => simp only [lexemesFrom, placeholders_plain_append, ih, holeValues]
    | quoted text => simp only [lexemesFrom, placeholders, ih, holeValues]
    | hole value =>
      simp only [lexemesFrom, placeholders, ih, holeValues, List.length_cons, List.range'_succ,
        List.map_cons]

/-- A statement keeps the given parameters in front, and its placeholders are the numbers of the
parameters behind them, each once and in order. -/
theorem placeholders_consecutive {compiler : Compiler} {f : Filter} {given : ParamList}
    {mode : Mode} {s : Statement} (h : compiler.compile f given mode = .ok s) :
    given.items <+: s.params.items ∧
      ∃ lexemes, scan s.sql.toList = some lexemes ∧
        placeholders lexemes =
          (List.range' (given.size + 1) (s.params.size - given.size)).map (Nat.toDigits 10) := by
  obtain ⟨pieces, scanned, params, -⟩ := compile_scan h
  have size : s.params.size - given.size = (holeValues pieces).length := by
    simp [ParamList.size, params]
  refine ⟨?_, lexemesFrom given.next pieces, scanned, ?_⟩
  · rw [params]
    exact List.prefix_append _ _
  · rw [size]
    exact placeholders_lexemesFrom _ _

/-- A filter in which path segments look like placeholders. -/
def dollarKeys : Filter :=
  ⟨[("a.$1", .list [.string "a", .signed 7]),
    ("$or", .list [.object [("it's.$2", .bool true)], .object [("id", .string "x")]])]⟩

/-- The statement of `dollarKeys` behind one parameter. -/
def dollarKeysStatement : Statement :=
  ⟨"WHERE (((metadata->'it''s'->>'$2')::boolean = $2) OR (id = $3)) AND " ++
      "((metadata->'a'->>'$1') IN ($4, $5))",
    ⟨[.null, .bool true, .text "x", .text "a", .text "7"]⟩⟩

/-- Only the placeholders outside literals count: those of the group come first. -/
theorem dollarKeys_placeholders :
    Compiler.default.compile dollarKeys ⟨[.null]⟩ .whereClause = .ok dollarKeysStatement ∧
      [Param.null] <+: dollarKeysStatement.params.items ∧
      ∃ lexemes, scan dollarKeysStatement.sql.toList = some lexemes ∧
        placeholders lexemes = [['2'], ['3'], ['4'], ['5']] := by
  have compiled : Compiler.default.compile dollarKeys ⟨[.null]⟩ .whereClause =
      .ok dollarKeysStatement := by decide +kernel
  obtain ⟨kept, numbered⟩ := placeholders_consecutive compiled
  exact ⟨compiled, kept, numbered⟩

end FilterSql
