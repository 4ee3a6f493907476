import FilterSql.Proofs.Compile.Text
import FilterSql.Proofs.Simulation

/-!
# The limit of nesting

The limit of a configuration says how many levels there are at the start, and it is named when a
filter is refused for its depth; it has no other part in compilation. So two runs with as many
levels left differ in that number only (`limit_simulates`), and a filter that is not refused for
its depth has the same statement, or is refused for the same cause, under every higher limit
(`compile_of_higher_limit`).
-/

set_option autoImplicit false

namespace FilterSql

open Compile

/-- Refusals that are equal, except that the limits given in refusals for the depth may differ. -/
inductive SameButLimit : CompileError → CompileError → Prop
  | refl (e : CompileError) : SameButLimit e e
  | tooDeep (limit limit' : Nat) : SameButLimit (.tooDeep limit) (.tooDeep limit')

/-- A refusal for the depth, whatever limit it gives. -/
def CompileError.IsTooDeep (e : CompileError) : Prop := ∃ limit, e = .tooDeep limit

/-- The compiler that allows one level of nesting more. -/
def Compiler.deepen (compiler : Compiler) : Compiler where
  config := compiler.config.withMaxDepth (compiler.config.maxDepth + 1)
  valid := ⟨compiler.valid.1, Nat.succ_pos _⟩

/-- Entries have their own keys and values. -/
theorem forall₂_entryLike_refl (entries : List (String × Value)) :
    List.Forall₂ (EntryLike Eq) entries entries := by
  rw [List.forall₂_same]
  intro (key, v) _
  exact .mk key rfl

/-- Equality goes by the structure of values. -/
theorem eq_structural : Structural Eq where
  kind same := congrArg Value.kind same
  list same := by
    cases same
    exact List.forall₂_same.2 fun _ _ => rfl
  object same := by
    cases same
    exact forall₂_entryLike_refl _

namespace Compile

/-- Another limit changes neither what field names address nor the fragment of any leaf. -/
theorem limit_simulates (config : Config) (depth : Nat) :
    Simulates config (config.withMaxDepth depth) Eq SameButLimit Eq where
  structural := eq_structural
  refl := .refl
  jsonColumn := rfl
  target _ := rfl
  tooDeep := .tooDeep _ _
  leaf field target o v w same := by
    subst same
    exact .of_refl .refl _
  all same := by
    rw [List.forall₂_eq_eq_eq] at same
    rw [same]
  group k _ _ same := by
    rw [List.forall₂_eq_eq_eq] at same
    rw [same]

/-- With as many levels left, the same entries have the same condition under every limit. -/
theorem entriesCondition_withMaxDepth (config : Config) (depth levels : Nat)
    (entries : List (String × Value)) :
    Agree SameButLimit Eq (entriesCondition config levels entries)
      (entriesCondition (config.withMaxDepth depth) levels entries) :=
  entriesCondition_agree (limit_simulates config depth) levels (forall₂_entryLike_refl entries)

end Compile

/-- A step that is not refused for its depth is the one that follows it, if nothing but the depth is
excused and refusals are equal but for the limit. -/
theorem Follows.eq_of_not_tooDeep {α : Type} {x y : Except CompileError α}
    (h : Follows CompileError.IsTooDeep SameButLimit Eq x y)
    (notTooDeep : ∀ limit, x ≠ .error (.tooDeep limit)) : y = x := by
  cases h with
  | excused isTooDeep =>
    obtain ⟨limit, rfl⟩ := isTooDeep
    exact absurd rfl (notTooDeep limit)
  | agree agree =>
    cases agree with
    | ok same => rw [same]
    | error same =>
      cases same with
      | refl => rfl
      | tooDeep limit => exact absurd rfl (notTooDeep limit)

/-- Raising the limit of nesting changes nothing but refusals for the depth: a filter that is not
refused for its depth has the same statement under a higher limit, or the same refusal. -/
theorem compile_of_higher_limit {compiler compiler' : Compiler} {f : Filter} {given : ParamList}
    {mode : Mode}
    (differ : compiler'.config = compiler.config.withMaxDepth compiler'.config.maxDepth)
    (le : compiler.config.maxDepth ≤ compiler'.config.maxDepth)
    (notTooDeep : ∀ limit, compiler.compile f given mode ≠ .error (.tooDeep limit)) :
    compiler'.compile f given mode = compiler.compile f given mode := by
  have sim : Simulates compiler.config compiler'.config Eq SameButLimit Eq := by
    rw [differ]
    exact limit_simulates _ _
  have deepens : Deepens CompileError.IsTooDeep compiler.config compiler.config.maxDepth
      compiler'.config.maxDepth := ⟨le, fun _ => ⟨_, rfl⟩⟩
  have follows := filterCondition_follows sim deepens (forall₂_entryLike_refl f.entries)
  rw [compile_eq] at notTooDeep
  rw [compile_eq, compile_eq]
  congr 1
  apply follows.eq_of_not_tooDeep
  intro limit refused
  exact notTooDeep limit (map_eq_error_iff.2 refused)

/-- The default configuration with one level of nesting. -/
def oneLevel : Compiler := ⟨Config.withMaxDepth {} 1, by decide⟩

/-- A choice between a plain column and a metadata path. -/
def choice (operand : Value) : Filter :=
  ⟨[("$or", .list [.object [("status", .string "new")],
    .object [("a.size", .object [("$lt", operand)])]])]⟩

/-- One level is enough for the choice, and for finding that null cannot be less than anything, so
more levels change neither the statement nor the refusal. -/
theorem choice_of_higher_limit :
    oneLevel.compile (choice (.signed 7)) ⟨[]⟩ .condition =
        .ok ⟨"(status = $1) OR ((metadata->'a'->>'size')::numeric < $2)",
          ⟨[.text "new", .signed 7]⟩⟩ ∧
      Compiler.default.compile (choice (.signed 7)) ⟨[]⟩ .condition =
        oneLevel.compile (choice (.signed 7)) ⟨[]⟩ .condition ∧
      oneLevel.compile (choice .null) ⟨[]⟩ .condition =
        .error (.invalidOperand "a.size" (.compare .lt) .null) ∧
      Compiler.default.compile (choice .null) ⟨[]⟩ .condition =
        oneLevel.compile (choice .null) ⟨[]⟩ .condition := by
  have differ : Compiler.default.config =
      oneLevel.config.withMaxDepth Compiler.default.config.maxDepth := rfl
  have le : oneLevel.config.maxDepth ≤ Compiler.default.config.maxDepth := by decide
  have compiled : oneLevel.compile (choice (.signed 7)) ⟨[]⟩ .condition =
      .ok ⟨"(status = $1) OR ((metadata->'a'->>'size')::numeric < $2)",
        ⟨[.text "new", .signed 7]⟩⟩ := by decide +kernel
  have refused : oneLevel.compile (choice .null) ⟨[]⟩ .condition =
      .error (.invalidOperand "a.size" (.compare .lt) .null) := by decide +kernel
  refine ⟨compiled, compile_of_higher_limit differ le ?_, refused,
    compile_of_higher_limit differ le ?_⟩
  · intro limit tooDeep
    rw [compiled] at tooDeep
    cases tooDeep
  · intro limit tooDeep
    rw [refused] at tooDeep
    cases tooDeep

end FilterSql
