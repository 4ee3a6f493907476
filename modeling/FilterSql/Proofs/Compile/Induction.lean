import FilterSql.Proofs.Compile.Leaf

/-!
# Induction over the compiler

Compilation writes the fragment of each leaf and puts fragments together with `Condition.all`
and `Condition.group` only. So what relates each leaf to its fragment, and is kept by these two,
relates the formula of a filter to its condition: this is `filterCondition_formula`. A property
of conditions alone is the case in which the formula does not matter.
-/

set_option autoImplicit false

namespace FilterSql.Compile

open Sql

/-- A value that does not continue a path has the formula of one leaf on it. -/
theorem pathFormula_of_operation {config : Config} {label : String} {path : List String}
    {v : Value} {spec : Spec} {o : Operator} {operand : Value}
    (parsed : Spec.parse label v = .ok spec)
    (operation : spec.operation? .within = some (o, operand)) :
    pathFormula config path v =
      some (.atom ⟨pathName config.jsonColumn path, .metadata path, o, operand⟩) := by
  have leaf : pathLeaf config path spec =
      some (.atom ⟨pathName config.jsonColumn path, .metadata path, o, operand⟩) := by
    rw [pathLeaf, operation]
    rfl
  cases v with
  | object entries =>
    rw [pathFormula, Spec.of?_eq_some parsed]
    cases spec with
    | path _ => cases operation
    | literal _ => exact leaf
    | operator _ _ => exact leaf
  | _ =>
    cases parsed
    rw [pathFormula]
    · exact leaf
    · exact fun _ same => by cases same

/-- A field inside the JSON column has the formula of its path. -/
theorem fieldFormula_of_metadata {config : Config} {key : String} {path : List String}
    (addressed : config.target? key = some (.metadata path)) (v : Value) :
    fieldFormula config key v = pathFormula config path v := by
  rw [fieldFormula, addressed]
  rfl

/-- A field outside the JSON column has the formula of one leaf. -/
theorem fieldFormula_of_operation {config : Config} {key : String} {v : Value} {target : Target}
    {spec : Spec} {o : Operator} {operand : Value} (addressed : config.target? key = some target)
    (plain : ∀ path, target ≠ .metadata path) (parsed : Spec.parse key v = .ok spec)
    (operation : spec.operation? (listOperator target) = some (o, operand)) :
    fieldFormula config key v = some (.atom ⟨key, target, o, operand⟩) := by
  simp only [fieldFormula, addressed, Spec.of?_eq_some parsed, operation, Option.bind_eq_bind,
    Option.bind_some]
  cases target with
  | metadata path => exact absurd rfl (plain path)
  | _ => rfl

/-- A relation between formulas and conditions that conjunctions and groups keep. -/
structure Compositional (R : Formula Leaf → Fragment → Prop) : Prop where
  all : ∀ {φs cs}, List.Forall₂ R φs cs → R (.joinAll .and φs) (.all cs)
  group : ∀ k {φs cs}, List.Forall₂ R φs cs → R (.joinAll k φs) (.group k cs)

/-- All leaves of a kind are related to their fragments. -/
def RelatesLeaves (config : Config) (R : Formula Leaf → Fragment → Prop) (kind : Leaf → Prop) :
    Prop :=
  ∀ leaf, kind leaf → ∀ c, leaf.fragment config = .ok c → R (.atom leaf) c

/-- What relates all leaves of a kind relates those of a narrower kind. -/
theorem RelatesLeaves.mono {config : Config} {R : Formula Leaf → Fragment → Prop}
    {kind kind' : Leaf → Prop} (leaves : RelatesLeaves config R kind)
    (sub : ∀ leaf, kind' leaf → kind leaf) : RelatesLeaves config R kind' :=
  fun leaf isKind => leaves leaf (sub leaf isKind)

section

variable {config : Config} {R : Formula Leaf → Fragment → Prop}

/-! ## Paths -/

/-- What relates the value of each key to its condition relates the formulas of all keys below
a path to their conditions. -/
theorem childConditions_formula {levels : Nat}
    (value : ∀ {label : String} {path : List String} {v : Value} {c : Fragment},
      metadataCondition config levels label path v = .ok c →
      RelatesLeaves config R (LeafBelow config path v) →
      ∃ φ, pathFormula config path v = some φ ∧ R φ c)
    {path : List String} {entries : List (String × Value)} {cs : List Fragment}
    (h : childConditions config levels path entries = .ok cs)
    (leaves : ∀ entry ∈ entries,
      RelatesLeaves config R (LeafBelow config (path ++ segments entry.1) entry.2)) :
    ∃ φs, childFormulas config path entries = some φs ∧ List.Forall₂ R φs cs := by
  induction entries generalizing cs with
  | nil =>
    cases h
    exact ⟨[], rfl, .nil⟩
  | cons entry rest ih =>
    obtain ⟨key, v⟩ := entry
    obtain ⟨first, others, -, condition, conditions, rfl⟩ := childConditions_cons_ok h
    obtain ⟨φ, formula, related⟩ := value condition (leaves (key, v) List.mem_cons_self)
    obtain ⟨φs, formulas, allRelated⟩ :=
      ih conditions fun entry mem => leaves entry (List.mem_cons_of_mem _ mem)
    refine ⟨φ :: φs, ?_, .cons related allRelated⟩
    rw [childFormulas, formula, formulas]
    rfl

/-- What relates all leaves at and below a path to their fragments, and is compositional,
relates the formula on the path to its condition. -/
theorem metadataCondition_formula (compositional : Compositional R) {levels : Nat}
    {label : String} {path : List String} {v : Value} {c : Fragment}
    (h : metadataCondition config levels label path v = .ok c)
    (leaves : RelatesLeaves config R (LeafBelow config path v)) :
    ∃ φ, pathFormula config path v = some φ ∧ R φ c := by
  -- An operator is a leaf itself. Only an object that continues the path uses up a level.
  induction levels using Nat.strongRecOn generalizing label path v c with
  | ind levels ih =>
    rcases metadataCondition_ok h with
      ⟨spec, o, operand, parsed, operation, built⟩ |
      ⟨entries, rest, cs, rfl, parsed, rfl, children, rfl⟩
    · refine ⟨_, pathFormula_of_operation parsed operation, ?_⟩
      exact leaves _ (.here parsed operation) c built
    · have ih := @ih rest (Nat.lt_succ_self rest)
      obtain ⟨φs, formulas, related⟩ := childConditions_formula ih children
        fun entry mem => leaves.mono fun leaf below => .child parsed mem below
      refine ⟨.joinAll .and φs, ?_, compositional.all related⟩
      simp only [pathFormula, Spec.of?_eq_some parsed, formulas, Option.map_some]

/-! ## Fields -/

/-- What relates all leaves of a field to their fragments, and is compositional, relates the formula
of the field to its condition. -/
theorem fieldCondition_formula (compositional : Compositional R) {levels : Nat} {key : String}
    {v : Value} {c : Fragment} (isField : isKeywordKey key = false)
    (h : fieldCondition config levels key v = .ok c)
    (leaves : RelatesLeaves config R (LeafOf config [(key, v)])) :
    ∃ φ, fieldFormula config key v = some φ ∧ R φ c := by
  rcases fieldCondition_ok h with
    ⟨path, addressed, onPath⟩ | ⟨target, spec, o, operand, addressed, plain, parsed, op, built⟩
  · obtain ⟨φ, formula, related⟩ := metadataCondition_formula compositional onPath
      (leaves.mono fun leaf below => .metadata List.mem_cons_self isField addressed below)
    exact ⟨φ, (fieldFormula_of_metadata addressed v).trans formula, related⟩
  · refine ⟨_, fieldFormula_of_operation addressed plain parsed op, ?_⟩
    exact leaves _ (.field List.mem_cons_self isField addressed plain parsed op) c built

/-- What relates all leaves to their fragments, and is compositional, relates the formulas of
all fields to their conditions. -/
theorem fieldConditions_formula (compositional : Compositional R) {levels : Nat}
    {entries : List (String × Value)} {cs : List Fragment}
    (h : fieldConditions config levels entries = .ok cs)
    (leaves : RelatesLeaves config R (LeafOf config entries)) :
    ∃ φs, fieldFormulas config entries = some φs ∧ List.Forall₂ R φs cs := by
  induction entries generalizing cs with
  | nil =>
    cases h
    exact ⟨[], rfl, .nil⟩
  | cons entry rest ih =>
    obtain ⟨key, v⟩ := entry
    have leavesFirst : RelatesLeaves config R (LeafOf config [(key, v)]) :=
      leaves.mono fun leaf ofFirst => ofFirst.mono (by simp)
    have leavesRest : RelatesLeaves config R (LeafOf config rest) :=
      leaves.mono fun leaf ofRest => ofRest.mono (List.subset_cons_self _ _)
    rw [fieldConditions] at h
    rw [fieldFormulas]
    cases keyword : isKeywordKey key with
    | true =>
      rw [if_pos keyword] at h
      exact ih h leavesRest
    | false =>
      rw [if_neg (by simp [keyword])] at h
      obtain ⟨first, condition, h⟩ := bind_eq_ok_iff.1 h
      obtain ⟨others, conditions, h⟩ := bind_eq_ok_iff.1 h
      cases h
      obtain ⟨φ, formula, related⟩ :=
        fieldCondition_formula compositional keyword condition leavesFirst
      obtain ⟨φs, formulas, allRelated⟩ := ih conditions leavesRest
      refine ⟨φ :: φs, ?_, .cons related allRelated⟩
      rw [formula, formulas]
      rfl

/-! ## Groups -/

/-- What relates the groups of each list of entries to their conditions relates the formulas of the
elements of a group to their conditions. -/
theorem elementConditions_formula (compositional : Compositional R) {levels : Nat}
    (groupsOf : ∀ {entries : List (String × Value)} {cs : List Fragment},
      groupConditions config levels entries = .ok cs →
      RelatesLeaves config R (LeafOf config entries) →
      ∃ φs, groupFormulas config entries = some φs ∧ List.Forall₂ R φs cs)
    {k : Connective} {items : List Value} {cs : List Fragment}
    (h : elementConditions config levels k items = .ok cs)
    (leaves : ∀ entries, .object entries ∈ items →
      RelatesLeaves config R (LeafOf config entries)) :
    ∃ φs, elementFormulas config items = some φs ∧ List.Forall₂ R φs cs := by
  induction items generalizing cs with
  | nil =>
    rw [elementConditions] at h
    cases h
    exact ⟨[], by rw [elementFormulas], .nil⟩
  | cons item rest ih =>
    obtain ⟨entries, groups, fields, others, rfl, isGroups, isFields, isOthers, rfl⟩ :=
      elementConditions_cons_ok h
    have ofEntries := leaves entries List.mem_cons_self
    obtain ⟨φs, groupsFormulas, groupsRelated⟩ := groupsOf isGroups ofEntries
    obtain ⟨ψs, fieldsFormulas, fieldsRelated⟩ :=
      fieldConditions_formula compositional isFields ofEntries
    obtain ⟨χs, othersFormulas, othersRelated⟩ :=
      ih isOthers fun sub item => leaves sub (List.mem_cons_of_mem _ item)
    have first : R (.joinAll .and (φs ++ ψs)) (.all (groups ++ fields)) :=
      compositional.all (List.rel_append groupsRelated fieldsRelated)
    refine ⟨.joinAll .and (φs ++ ψs) :: χs, ?_, .cons first othersRelated⟩
    rw [elementFormulas, groupsFormulas, fieldsFormulas, othersFormulas]
    rfl

/-- What relates all leaves to their fragments, and is compositional, relates the formulas of
all groups to their conditions. -/
theorem groupConditions_formula (compositional : Compositional R) {levels : Nat}
    {entries : List (String × Value)} {cs : List Fragment}
    (h : groupConditions config levels entries = .ok cs)
    (leaves : RelatesLeaves config R (LeafOf config entries)) :
    ∃ φs, groupFormulas config entries = some φs ∧ List.Forall₂ R φs cs := by
  -- The elements of a group are compiled with one level less, the groups beside it with as many.
  induction levels using Nat.strongRecOn generalizing entries cs with
  | ind levels below =>
    induction entries generalizing cs with
    | nil =>
      rw [groupConditions] at h
      cases h
      exact ⟨[], by rw [groupFormulas], .nil⟩
    | cons entry rest ih =>
      obtain ⟨key, v⟩ := entry
      have leavesRest : RelatesLeaves config R (LeafOf config rest) :=
        leaves.mono fun leaf ofRest => ofRest.mono (List.subset_cons_self _ _)
      cases keyword : isKeywordKey key with
      | true =>
        obtain ⟨k, first, others, isConnective, condition, conditions, rfl⟩ :=
          groupConditions_cons_ok keyword h
        obtain ⟨items, rest', cs, rfl, rfl, elements, rfl⟩ := groupCondition_ok condition
        obtain ⟨φs, formulas, related⟩ :=
          elementConditions_formula compositional (@below rest' (Nat.lt_succ_self rest')) elements
            fun sub item => leaves.mono fun leaf ofSub =>
              .group List.mem_cons_self keyword item ofSub
        obtain ⟨ψs, othersFormulas, othersRelated⟩ := ih conditions leavesRest
        refine ⟨.joinAll k φs :: ψs, ?_, .cons (compositional.group k related) othersRelated⟩
        rw [groupFormulas, if_pos keyword]
        simp only [isConnective, groupFormula, formulas, othersFormulas]
        rfl
      | false =>
        have isField : ¬ isKeywordKey key = true := by simp [keyword]
        rw [groupConditions, if_neg isField] at h
        rw [groupFormulas, if_neg isField]
        exact ih h leavesRest

/-- What relates all leaves of a filter to their fragments, and is compositional, relates the
formula of the filter to its condition. -/
theorem filterCondition_formula (compositional : Compositional R) {f : Filter} {c : Fragment}
    (h : filterCondition config f = .ok c)
    (leaves : RelatesLeaves config R (LeafOf config f.entries)) :
    ∃ φ, entriesFormula config f.entries = some φ ∧ R φ c := by
  obtain ⟨groups, isGroups, h⟩ := bind_eq_ok_iff.1 h
  obtain ⟨fields, isFields, h⟩ := bind_eq_ok_iff.1 h
  cases h
  obtain ⟨φs, groupsFormulas, groupsRelated⟩ :=
    groupConditions_formula compositional isGroups leaves
  obtain ⟨ψs, fieldsFormulas, fieldsRelated⟩ :=
    fieldConditions_formula compositional isFields leaves
  refine ⟨.joinAll .and (φs ++ ψs), ?_,
    compositional.all (List.rel_append groupsRelated fieldsRelated)⟩
  rw [entriesFormula, groupsFormulas, fieldsFormulas]
  rfl

end

/-- What holds of the fragments of all leaves, and is kept by conjunctions and groups, holds of
the condition of the filter. -/
theorem filterCondition_induction {config : Config} {P : Fragment → Prop}
    (all : ∀ {cs}, (∀ c ∈ cs, P c) → P (.all cs))
    (group : ∀ k {cs}, (∀ c ∈ cs, P c) → P (.group k cs)) {f : Filter} {c : Fragment}
    (h : filterCondition config f = .ok c)
    (leaves : ∀ leaf, LeafOf config f.entries leaf → ∀ c, leaf.fragment config = .ok c → P c) :
    P c := by
  have members : ∀ {φs : List (Formula Leaf)} {cs : List Fragment},
      List.Forall₂ (fun _ c => P c) φs cs → ∀ c ∈ cs, P c := by
    intro φs cs related
    induction related with
    | nil => exact List.forall_mem_nil _
    | cons holds _ ih => exact List.forall_mem_cons.2 ⟨holds, ih⟩
  have compositional : Compositional fun _ c => P c :=
    ⟨fun related => all (members related), fun k _ _ related => group k (members related)⟩
  obtain ⟨_, -, holds⟩ := filterCondition_formula compositional h leaves
  exact holds

end FilterSql.Compile
