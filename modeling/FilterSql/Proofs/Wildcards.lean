import FilterSql.Proofs.Documents
import FilterSql.Proofs.Independence
import FilterSql.Proofs.Limit
import FilterSql.Proofs.Reconfiguration

/-!
# Wildcards around patterns

A configuration may ask that a pattern without a wildcard is put between two of them. Whether it
does shows in the parameters of such patterns and nowhere else: filters are refused alike, the
statements have the same text, and all other parameters are the same (`compile_wildcards`).
-/

set_option autoImplicit false

namespace FilterSql

namespace Compile

open Sql

/-- A leaf that matches a pattern in which no wildcard stands. -/
def Leaf.IsBarePattern (leaf : Leaf) (text : String) : Prop :=
  (∃ p, leaf.operator = .pattern p) ∧ leaf.operand = .string text ∧ '%' ∉ text.toList

/-! ## Patterns -/

/-- A pattern with a wildcard is left as it is. -/
theorem widenPattern_of_wildcard {text : String} (wildcard : '%' ∈ text.toList) (enabled : Bool) :
    widenPattern enabled text = text := by
  simp [widenPattern, wildcard]

/-- A pattern without wildcards is put between two. -/
theorem widenPattern_bare {text : String} (bare : '%' ∉ text.toList) :
    widenPattern true text = "%" ++ text ++ "%" := by
  simp [widenPattern, bare]

/-- No pattern is widened where this is switched off. -/
theorem widenPattern_false (text : String) : widenPattern false text = text := by
  simp [widenPattern]

/-- An operand is a pattern or not, whether or not wildcards are put around it. -/
theorem patternOperand_alongside (field : String) (o : Operator) (enabled enabled' : Bool)
    (v : Value) :
    Agree Eq (fun _ _ => True) (patternOperand field o enabled v)
      (patternOperand field o enabled' v) := by
  cases v with
  | string text => exact .ok trivial
  | _ => exact .error rfl

/-- Wildcards make a difference for bare patterns only. -/
theorem patternOperand_congr (field : String) (o : Operator) (enabled enabled' : Bool) {v : Value}
    (notBare : ∀ text, v = .string text → '%' ∈ text.toList) :
    patternOperand field o enabled v = patternOperand field o enabled' v := by
  cases v with
  | string text =>
    have wildcard := notBare text rfl
    rw [patternOperand, patternOperand, widenPattern_of_wildcard wildcard,
      widenPattern_of_wildcard wildcard]
  | _ => rfl

/-! ## Leaves -/

section

variable (config : Config)

/-- Only pattern matches look at whether wildcards are asked for. -/
theorem Leaf.fragment_of_not_pattern (enabled enabled' : Bool) {leaf : Leaf}
    (notPattern : ∀ p, leaf.operator ≠ .pattern p) :
    leaf.fragment (config.withLikeAutoWildcard enabled) =
      leaf.fragment (config.withLikeAutoWildcard enabled') := by
  obtain ⟨field, target, o, operand⟩ := leaf
  cases o with
  | pattern p => exact absurd rfl (notPattern p)
  | _ =>
    cases target with
    | _ => rfl

/-- A pattern match binds its pattern and nothing else, or is refused, with wildcards and without.
-/
theorem Leaf.fragment_pattern {leaf : Leaf} {p : Pattern} (isPattern : leaf.operator = .pattern p) :
    (∃ (field : String) (t : Term Param), t.values = [] ∧
      ∀ enabled, leaf.fragment (config.withLikeAutoWildcard enabled) =
        patternOperand field (.pattern p) enabled leaf.operand >>= fun text =>
          pure (.test (.relation t (.pattern p) (.param (.text text))))) ∨
    ∃ e, ∀ enabled, leaf.fragment (config.withLikeAutoWildcard enabled) = .error e := by
  obtain ⟨field, target, o, operand⟩ := leaf
  subst isPattern
  cases target with
  | column name => exact .inl ⟨field, .column name, rfl, fun enabled => rfl⟩
  | metadata path =>
    exact .inl ⟨pathName config.jsonColumn path, textAccessor config.jsonColumn path,
      values_textAccessor config.jsonColumn path, fun enabled => rfl⟩
  | parent => exact .inr ⟨_, fun enabled => rfl⟩
  | collection =>
    refine .inr ⟨.unsupportedOperator field (.pattern p) .arrayMembership, fun enabled => ?_⟩
    cases operand <;> rfl

/-- A leaf has the same text with and without wildcards around its pattern, or is refused alike. -/
theorem Leaf.fragment_wildcards (enabled enabled' : Bool) (leaf : Leaf) :
    Agree Eq SameText (leaf.fragment (config.withLikeAutoWildcard enabled))
      (leaf.fragment (config.withLikeAutoWildcard enabled')) := by
  by_cases isPattern : ∃ p, leaf.operator = .pattern p
  · obtain ⟨p, isPattern⟩ := isPattern
    rcases Leaf.fragment_pattern config isPattern with ⟨field, t, -, written⟩ | ⟨e, refused⟩
    · rw [written, written]
      exact (patternOperand_alongside field _ _ _ leaf.operand).bind fun text text' _ =>
        .ok (alike_relation (sameTerm_refl t) _ (Term.alike_param trivial))
    · rw [refused, refused]
      exact .error rfl
  · rw [Leaf.fragment_of_not_pattern config enabled enabled' fun p same => isPattern ⟨p, same⟩]
    exact (Agree.of_refl (fun _ => rfl) _).mono fun c c' same => same ▸ sameText_refl c

/-- A leaf that is not a bare pattern is written alike. -/
theorem Leaf.fragment_of_not_bare (enabled enabled' : Bool) {leaf : Leaf}
    (notBare : ∀ text, ¬ leaf.IsBarePattern text) :
    leaf.fragment (config.withLikeAutoWildcard enabled) =
      leaf.fragment (config.withLikeAutoWildcard enabled') := by
  by_cases isPattern : ∃ p, leaf.operator = .pattern p
  · obtain ⟨p, isPattern⟩ := isPattern
    have wildcard : ∀ text, leaf.operand = .string text → '%' ∈ text.toList := by
      intro text isText
      by_contra bare
      exact notBare text ⟨⟨p, isPattern⟩, isText, bare⟩
    rcases Leaf.fragment_pattern config isPattern with ⟨field, t, -, written⟩ | ⟨e, refused⟩
    · rw [written, written, patternOperand_congr field _ enabled enabled' wildcard]
    · rw [refused, refused]
  · exact Leaf.fragment_of_not_pattern config enabled enabled' fun p same => isPattern ⟨p, same⟩

variable {config}

/-- A bare pattern is bound as its text, between wildcards if they are asked for. -/
theorem Leaf.params_bare {leaf : Leaf} {text : String} (built : Succeeds (leaf.fragment config))
    (bare : leaf.IsBarePattern text) :
    leaf.params config = [.text (widenPattern config.likeAutoWildcard text)] := by
  obtain ⟨c, built⟩ := built
  obtain ⟨⟨p, isPattern⟩, isText, -⟩ := bare
  rcases Leaf.fragment_pattern config isPattern with ⟨field, t, closed, written⟩ | ⟨e, refused⟩
  · have given : leaf.fragment config = _ := written config.likeAutoWildcard
    rw [isText] at given
    rw [Leaf.params_of_ok given]
    simp [closed]
  · have given : leaf.fragment config = _ := refused config.likeAutoWildcard
    rw [given] at built
    cases built

end

/-- Wildcards change the text of no fragment. -/
theorem wildcards_simulates (config : Config) (enabled : Bool) :
    Simulates config (config.withLikeAutoWildcard enabled) Eq Eq SameText where
  structural := eq_structural
  refl _ := rfl
  jsonColumn := rfl
  target _ := rfl
  tooDeep := rfl
  leaf field target o v w same := by
    subst same
    exact Leaf.fragment_wildcards config config.likeAutoWildcard enabled _
  all := Condition.alike_all
  group := Condition.alike_group

/-- Conditions of the same text give statements of the same text, with as many parameters. -/
theorem statementOf_sameText (mode : Mode) (f : Filter) (given : ParamList) {c c' : Fragment}
    (same : SameText c c') :
    (statementOf mode f given c).sql = (statementOf mode f given c').sql ∧
      (statementOf mode f given c).params.size = (statementOf mode f given c').params.size := by
  have pieces : PiecesAlike (fun _ _ => True) (statementPieces mode f c)
      (statementPieces mode f c') := by
    cases mode with
    | condition => exact same
    | whereClause =>
      rw [statementPieces, statementPieces]
      split
      · exact .nil
      · exact same.code "WHERE "
  constructor
  · rw [statementOf, statementOf, pieces.charsFrom_eq]
  · have holes := pieces.holeValues.length_eq
    simp only [statementOf, ParamList.size, List.length_append, holes]

end Compile

open Compile

/-- Asking for wildcards changes the parameters of bare patterns only. With and without, a filter is
refused for the same cause, or has statements of the same text with equally many parameters. These
are those of the same leaves in the same order: a leaf that matches a pattern in which no wildcard
stands binds it as it is, or between two wildcards, and every other leaf binds the same in both. -/
theorem compile_wildcards {off on : Compiler} (isOff : off.config.likeAutoWildcard = false)
    (differ : on.config = off.config.withLikeAutoWildcard true) (f : Filter) (given : ParamList)
    (mode : Mode) :
    Agree Eq
      (fun s s' => s.sql = s'.sql ∧ s.params.size = s'.params.size ∧
        ∃ leaves : List Leaf, (∀ leaf, leaf ∈ leaves ↔ LeafOf off.config f.entries leaf) ∧
          s.params.items = given.items ++ leaves.flatMap (Leaf.params off.config) ∧
          s'.params.items = given.items ++ leaves.flatMap (Leaf.params on.config) ∧
          ∀ leaf ∈ leaves,
            (∀ text, leaf.IsBarePattern text →
              leaf.params off.config = [.text text] ∧
              leaf.params on.config = [.text ("%" ++ text ++ "%")]) ∧
            ((∀ text, ¬ leaf.IsBarePattern text) →
              leaf.params off.config = leaf.params on.config))
      (off.compile f given mode) (on.compile f given mode) := by
  have isOn : on.config.likeAutoWildcard = true := by rw [differ, Config.withLikeAutoWildcard]
  have sim : Simulates off.config on.config Eq Eq SameText := by
    rw [differ]
    exact wildcards_simulates _ true
  have limit : off.config.maxDepth = on.config.maxDepth := by
    rw [differ, Config.withLikeAutoWildcard]
  have sameText : Agree Eq (fun s s' => s.sql = s'.sql ∧ s.params.size = s'.params.size)
      (off.compile f given mode) (on.compile f given mode) := by
    rw [compile_eq, compile_eq]
    exact (filterCondition_agree sim limit (forall₂_entryLike_refl f.entries)).map
      fun c c' => statementOf_sameText mode f given
  have runs := (sameText.and_gives fun s => compile_formula_params).and_gives_right fun s =>
    compile_formula_params
  refine runs.mono ?_
  rintro s s' ⟨⟨⟨sql, size⟩, φ, formula, ofFilter, built, params⟩, φ', formula', -, built', params'⟩
  rw [← entriesFormula_congr sim.jsonColumn sim.target, formula] at formula'
  cases formula'
  refine ⟨sql, size, φ.atoms, ofFilter, params, params', fun leaf mem => ⟨?_, fun notBare => ?_⟩⟩
  · intro text bare
    rw [Leaf.params_bare (built leaf mem) bare, Leaf.params_bare (built' leaf mem) bare, isOff,
      isOn, widenPattern_false, widenPattern_bare bare.2.2]
    exact ⟨rfl, rfl⟩
  · have same := Leaf.fragment_of_not_bare off.config off.config.likeAutoWildcard true notBare
    rw [Leaf.params, Leaf.params, differ, ← same]
    rfl

/-- The default configuration, with wildcards around patterns. -/
def wideCompiler : Compiler := ⟨Config.withLikeAutoWildcard {} true, by decide⟩

/-- A bare pattern on a path, next to a pattern with a wildcard and a bare one on a column. -/
def patternFilter : Filter :=
  ⟨[("$or", .list [.object [("m", .object [("text", .object [("$ilike", .string "a b")])])],
      .object [("status", .object [("$like", .string "n%w")])]]),
    ("status", .object [("$like", .string "new")])]⟩

/-- The statement of `patternFilter` with what is bound for the two bare patterns. -/
def patternStatement (onPath onColumn : String) : Statement :=
  ⟨"((metadata->'m'->>'text' ILIKE $1) OR (status LIKE $2)) AND (status LIKE $3)",
    ⟨[.text onPath, .text "n%w", .text onColumn]⟩⟩

/-- The pattern that has a wildcard stays as it is, and so does the text of the statement. -/
theorem patternFilter_wildcards :
    Compiler.default.compile patternFilter ⟨[]⟩ .condition = .ok (patternStatement "a b" "new") ∧
      wideCompiler.compile patternFilter ⟨[]⟩ .condition =
        .ok (patternStatement "%a b%" "%new%") ∧
      ∃ leaf : Leaf, LeafOf Compiler.default.config patternFilter.entries leaf ∧
        leaf.IsBarePattern "a b" ∧ leaf.params Compiler.default.config = [.text "a b"] ∧
        leaf.params wideCompiler.config = [.text "%a b%"] := by
  have off : Compiler.default.compile patternFilter ⟨[]⟩ .condition =
      .ok (patternStatement "a b" "new") := by decide +kernel
  have on : wideCompiler.compile patternFilter ⟨[]⟩ .condition =
      .ok (patternStatement "%a b%" "%new%") := by decide +kernel
  have differ : wideCompiler.config = Compiler.default.config.withLikeAutoWildcard true := rfl
  have agree := compile_wildcards rfl differ patternFilter ⟨[]⟩ .condition
  rw [off, on] at agree
  let path := ["m"] ++ segments "text"
  let leaf : Leaf :=
    ⟨pathName "metadata" path, .metadata path, .pattern .ilike, .string "a b"⟩
  have ofFilter : LeafOf Compiler.default.config patternFilter.entries leaf := by
    have addressed : Compiler.default.config.target? "m" = some (.metadata ["m"]) := by
      decide +kernel
    have continues : Spec.parse "m" (.object [("text", .object [("$ilike", .string "a b")])]) =
        .ok (.path [("text", .object [("$ilike", .string "a b")])]) := rfl
    have parsed : Spec.parse "m.text" (.object [("$ilike", .string "a b")]) =
        .ok (.operator (.pattern .ilike) (.string "a b")) := rfl
    refine .group List.mem_cons_self (by decide) List.mem_cons_self ?_
    refine .metadata List.mem_cons_self (by decide) addressed ?_
    exact .child continues List.mem_cons_self (.here parsed rfl)
  have bare : leaf.IsBarePattern "a b" := ⟨⟨.ilike, rfl⟩, rfl, by decide⟩
  cases agree with
  | ok related =>
    obtain ⟨-, -, leaves, isLeaf, -, -, each⟩ := related
    exact ⟨off, on, leaf, ofFilter, bare, (each leaf ((isLeaf leaf).2 ofFilter)).1 "a b" bare⟩

end FilterSql
