import FilterSql.Proofs.Compile.Leaf
import FilterSql.Proofs.InPlace.Settling

/-!
# Parameters collected while conditions are built

A builder that is given a bare value or one operator checks all of its operand before it collects
anything: if it is refused, the accumulator is left as it was, and otherwise the parameters before
the call stay in front and the counter stays one above their number (`Subject.build_frame`). So it
is with a list whose last element is refused. Keys that continue a path are built one after another,
and a refusal at one of them leaves what was collected for those before it; the parameters before
the call stay in front even then (`buildShape_reaches`).
-/

set_option autoImplicit false

namespace FilterSql.Compile

open Sql Build

/-! ## Conditions one after another -/

/-- Builds that bind conditions one after another. -/
abbrev ReachesEach (bs : Build (List String)) (xs : Except CompileError (List Fragment)) : Prop :=
  Reaches (fun cs given => bindInTurn given cs) bs xs

/-- Where nothing is built, nothing is bound. -/
theorem reachesEach_nil : ReachesEach (pure []) (.ok []) := reaches_ok fun _ => rfl

section

variable {b : Build String} {bs : Build (List String)} {x : Except CompileError Fragment}
  {xs : Except CompileError (List Fragment)}

/-- A condition and others behind it are built like they are bound in turn, if each part is. -/
theorem Reaches.cons (first : Reaches Condition.bindTo b x) (others : ReachesEach bs xs) :
    ReachesEach (b >>= fun text => bs >>= fun texts => pure (text :: texts))
      (x >>= fun c => xs >>= fun cs => pure (c :: cs)) :=
  first.seq others (fun _ _ => List.prefix_append _ _) fun _ _ _ => rfl

/-- Conditions are bound in turn if each is built like it is bound. -/
theorem reachesEach_mapM {α : Type} {f : α → Build String} {g : α → Except CompileError Fragment}
    {xs : List α} (each : ∀ x ∈ xs, Reaches Condition.bindTo (f x) (g x)) :
    ReachesEach (xs.mapM f) (xs.mapM g) := by
  induction xs with
  | nil => exact reachesEach_nil
  | cons x rest ih =>
    obtain ⟨first, others⟩ := List.forall_mem_cons.1 each
    rw [List.mapM_cons, List.mapM_cons]
    exact Reaches.cons first (ih others)

/-- A conjunction is bound by binding its conditions in turn and joining their texts. -/
theorem bindTo_all (cs : List Fragment) (given : ParamList) :
    (Condition.all cs).bindTo given =
      (conjunctionText (bindInTurn given cs).1, (bindInTurn given cs).2) := by
  match cs with
  | [] => simp [Condition.all, Condition.group, Condition.unit, Condition.bindTo, bindPieces,
      Condition.pieces, charsFrom, holeValues, bindInTurn, conjunctionText]
  | [c] => rfl
  | c :: c' :: rest => exact bindTo_group .and (List.cons_ne_nil c (c' :: rest)) given

/-- The conjunction of what is built in turn is built like it is bound. -/
theorem ReachesEach.conjunction (h : ReachesEach bs xs) :
    Reaches Condition.bindTo (bs >>= fun texts => pure (conjunctionText texts))
      (xs >>= fun cs => pure (.all cs)) :=
  h.map bindTo_all

end

/-- The children of a path are built like their conditions are bound in turn, if each child is built
like its condition is bound. -/
theorem buildChildren_reaches {config : Config} {column : String} {levels : Nat}
    {path : List String}
    (child : ∀ path spec, Reaches Condition.bindTo (buildShape config column levels path spec)
      (shapeCondition (config.withJsonColumn column) levels path spec))
    (entries : List (String × Value)) :
    ReachesEach
      (entries.mapM fun (key, value) => do
        let child ← check (childPath column path key)
        let spec ← check (Spec.parse (joinSegments child) value)
        buildShape config column levels child spec)
      (childConditions (config.withJsonColumn column) levels path entries) := by
  induction entries with
  | nil => exact reachesEach_nil
  | cons entry rest ih =>
    obtain ⟨key, v⟩ := entry
    rw [List.mapM_cons, childConditions]
    simp only [metadataCondition_eq, bind_assoc]
    refine reaches_check fun childPath isChild => ?_
    refine reaches_check fun spec parsed => ?_
    exact Reaches.cons (child childPath spec) ih

/-- A shape that does not continue the path is checked before anything is collected for it. -/
theorem buildShape_settles (config : Config) (column : String) (levels : Nat) (path : List String)
    {spec : Spec} (leaf : ∀ entries, spec ≠ .path entries) :
    Settles Condition.pieces (buildShape config column levels path spec)
      (shapeCondition (config.withJsonColumn column) levels path spec) := by
  cases spec with
  | literal v =>
    rw [buildShape, shapeCondition]
    exact buildMetadata_settles config column path _ v
  | operator o operand =>
    rw [buildShape, shapeCondition]
    exact buildMetadata_settles config column path o operand
  | path entries => exact absurd rfl (leaf entries)

/-- A shape on a path inside the JSON column is built like its condition is bound. -/
theorem buildShape_reaches (config : Config) (column : String) (levels : Nat) (path : List String)
    (spec : Spec) :
    Reaches Condition.bindTo (buildShape config column levels path spec)
      (shapeCondition (config.withJsonColumn column) levels path spec) := by
  -- A continuation takes one level, so its children are those of the induction hypothesis.
  induction levels generalizing path spec with
  | zero =>
    cases spec with
    | path entries => exact reaches_refuse _
    | _ => exact (buildShape_settles config column 0 path (by simp)).reaches
  | succ levels ih =>
    cases spec with
    | path entries => exact ReachesEach.conjunction (buildChildren_reaches ih entries)
    | _ => exact (buildShape_settles config column (levels + 1) path (by simp)).reaches

/-! ## One condition -/

/-- What a condition is about: a field and the column it is kept in, or a path inside a JSON column,
below which `levels` levels of nesting are left. -/
inductive Subject
  | column (field column : String)
  | collection (field column : String)
  | parent (field column : String)
  | metadata (levels : Nat) (column : String) (path : List String)

namespace Subject

/-- Builds the condition of a shape in place. -/
def build (config : Config) (subject : Subject) (spec : Spec) : Build String :=
  match subject with
  | .column field name =>
    match spec.operation? .within with
    | some (o, operand) => buildColumn config field name o operand
    | none => refuse (.invalidForm (.nestedInColumn field))
  | .collection field name =>
    match spec.operation? .overlap with
    | some (o, operand) => buildCollection field name o operand
    | none => refuse (.invalidForm (.nestedInReserved field))
  | .parent field name =>
    match spec.operation? .within with
    | some (o, operand) => buildParent field name o operand
    | none => refuse (.invalidForm (.nestedInReserved field))
  | .metadata levels name path => buildShape config name levels path spec

/-- The condition of a shape, found apart from any accumulator. -/
def condition (config : Config) (subject : Subject) (spec : Spec) :
    Except CompileError Fragment :=
  match subject with
  | .column field name => columnCondition config field name spec
  | .collection field _ => collectionCondition field spec
  | .parent field _ => parentCondition field spec
  | .metadata levels name path => shapeCondition (config.withJsonColumn name) levels path spec

/-- The row of a condition, with the column of the subject. -/
def row : Subject → Fragment → List (Piece Param)
  | .collection _ name | .parent _ name => rowOn name
  | .column _ _ | .metadata _ _ _ => Condition.pieces

/-- A shape that does not continue a path is checked before anything is collected for it. -/
theorem build_settles (config : Config) (subject : Subject) {spec : Spec}
    (leaf : ∀ levels name path entries, subject = .metadata levels name path →
      spec ≠ .path entries) :
    Settles subject.row (subject.build config spec) (subject.condition config spec) := by
  cases subject with
  | column field name =>
    unfold build condition columnCondition
    cases spec.operation? .within with
    | some operation => exact buildColumn_settles config field name operation.1 operation.2
    | none => exact settles_refuse _
  | collection field name =>
    unfold build condition collectionCondition
    cases spec.operation? .overlap with
    | some operation => exact buildCollection_settles field name operation.1 operation.2
    | none => exact settles_refuse _
  | parent field name =>
    unfold build condition parentCondition
    cases spec.operation? .within with
    | some operation => exact buildParent_settles field name operation.1 operation.2
    | none => exact settles_refuse _
  | metadata levels name path =>
    exact buildShape_settles config name levels path fun entries => leaf _ _ _ entries rfl

/-- A condition with a bare value or one operator that is refused leaves the accumulator as it was:
the same parameters, and the same counter. If it is not refused, the parameters before it stay in
front, and the counter stays one above their number. The text and the parameters are those of the
condition that is found apart from any accumulator, and so is the cause of a refusal. -/
theorem build_frame {acc : Accumulator} (collected : acc.Collected) (config : Config)
    (subject : Subject) {spec : Spec} (leaf : ∀ entries, spec ≠ .path entries) :
    (∀ e acc', (subject.build config spec).on acc = (.error e, acc') →
      subject.condition config spec = .error e ∧ acc'.params = acc.params ∧
        acc'.next = acc.next) ∧
    ∀ text acc', (subject.build config spec).on acc = (.ok text, acc') →
      (∃ c, subject.condition config spec = .ok c ∧
        bindPieces (subject.row c) ⟨acc.params⟩ = (text, ⟨acc'.params⟩)) ∧
      acc.params <+: acc'.params ∧ acc'.next = acc'.params.length + 1 := by
  have settles := build_settles config subject fun _ _ _ entries _ => leaf entries
  cases found : subject.condition config spec with
  | error e =>
    have built := settles.refused e found acc
    constructor
    · intro e' acc' same
      cases built.symm.trans same
      exact ⟨rfl, rfl, rfl⟩
    · intro text acc' same
      cases built.symm.trans same
  | ok c =>
    have built := settles.written c found ⟨acc.params⟩
    rw [← collected.eq_ofGiven] at built
    constructor
    · intro e acc' same
      cases built.symm.trans same
    · intro text acc' same
      cases built.symm.trans same
      exact ⟨⟨c, rfl, rfl⟩, List.prefix_append _ _, rfl⟩

/-- One parameter that was given, and three that were collected behind it. -/
def partlyFilled : Accumulator :=
  (((Accumulator.ofGiven [.null]).add (.text "x")).2.addAll [.bool true, .signed 7]).2

/-- A list that is refused for its last element. -/
def lastNull : Spec := .operator .within (.list [.string "a", .signed 1, .null])

/-- The list without that element. -/
def noNull : Spec := .literal (.list [.string "a", .signed 1])

/-- The refused list leaves the accumulator as it was, though its other elements are scalars.
Without the null, two parameters are collected behind the four. -/
theorem lastNull_frame :
    partlyFilled.Collected ∧ (∀ entries, lastNull ≠ .path entries) ∧
      ((metadata 0 "metadata" ["tag"]).build {} lastNull).on partlyFilled =
        (.error (.invalidOperand "tag" .within .null), partlyFilled) ∧
      (metadata 0 "metadata" ["tag"]).condition {} lastNull =
        .error (.invalidOperand "tag" .within .null) ∧
      (∀ entries, noNull ≠ .path entries) ∧
      ((metadata 0 "metadata" ["tag"]).build {} noNull).on partlyFilled =
        (.ok "(metadata->>'tag') IN ($5, $6)",
          ⟨[.null, .text "x", .bool true, .signed 7, .text "a", .text "1"], 7⟩) ∧
      partlyFilled.params <+: [.null, .text "x", .bool true, .signed 7, .text "a", .text "1"] := by
  have collected : partlyFilled.Collected := .addAll (.add (.ofGiven _) _) _
  have leaf : ∀ entries, lastNull ≠ .path entries := by simp [lastNull]
  have leaf' : ∀ entries, noNull ≠ .path entries := by simp [noNull]
  have refused : ((metadata 0 "metadata" ["tag"]).build {} lastNull).on partlyFilled =
      (.error (.invalidOperand "tag" .within .null), partlyFilled) := by decide +kernel
  have built : ((metadata 0 "metadata" ["tag"]).build {} noNull).on partlyFilled =
      (.ok "(metadata->>'tag') IN ($5, $6)",
        ⟨[.null, .text "x", .bool true, .signed 7, .text "a", .text "1"], 7⟩) := by decide +kernel
  obtain ⟨same, -⟩ := (build_frame collected {} _ leaf).1 _ _ refused
  obtain ⟨-, kept, -⟩ := (build_frame collected {} _ leaf').2 _ _ built
  exact ⟨collected, leaf, refused, same, leaf', built, kept⟩

/-- Keys that continue a path are not one condition: the second is refused behind the first. -/
example :
    ((metadata 1 "metadata" ["tag"]).build {}
      (.path [("a", .signed 1), ("b", .list [.null])])).on (.ofGiven []) =
      (.error (.invalidOperand "tag.b" .within .null), ⟨[.signed 1], 2⟩) := by decide +kernel

end Subject

end FilterSql.Compile
