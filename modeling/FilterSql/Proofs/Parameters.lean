import FilterSql.Proofs.Compile.Induction
import FilterSql.Proofs.Compile.Text
import FilterSql.Proofs.Sql.Values

/-!
# The parameters of a filter

The parameters of a compiled filter are those of its leaves, one leaf after another, behind the
given ones (`compile_params`). So what is true of the parameters of each leaf is true of those of
the filter.
-/

set_option autoImplicit false

namespace FilterSql

namespace Compile

open Sql

/-- The parameters of a leaf. A leaf that is refused has none. -/
def Leaf.params (config : Config) (leaf : Leaf) : List Param :=
  match leaf.fragment config with
  | .ok c => c.values
  | .error _ => []

/-- The parameters of a leaf are the values of its fragment. -/
theorem Leaf.params_of_ok {config : Config} {leaf : Leaf} {c : Fragment}
    (built : leaf.fragment config = .ok c) : leaf.params config = c.values := by
  rw [params, built]

/-! ## The leaves in a formula -/

section

variable {config : Config}

/-- The formula of each key that continues a path is among those of all keys. -/
theorem mem_childFormulas {path : List String} {entries : List (String × Value)}
    {φs : List (Formula Leaf)} (h : childFormulas config path entries = some φs) {key : String}
    {v : Value} (mem : (key, v) ∈ entries) :
    ∃ φ ∈ φs, pathFormula config (path ++ segments key) v = some φ := by
  induction entries generalizing φs with
  | nil => cases mem
  | cons entry rest ih =>
    obtain ⟨key', v'⟩ := entry
    rw [childFormulas] at h
    obtain ⟨first, isFirst, h⟩ := Option.bind_eq_some_iff.1 h
    obtain ⟨others, isOthers, same⟩ := Option.bind_eq_some_iff.1 h
    cases same
    rcases List.mem_cons.1 mem with same | mem
    · cases same
      exact ⟨first, List.mem_cons_self, isFirst⟩
    · obtain ⟨φ, isOther, formula⟩ := ih isOthers mem
      exact ⟨φ, List.mem_cons_of_mem _ isOther, formula⟩

/-- All leaves on a path and below it stand in the formula of the path. -/
theorem LeafBelow.mem_atoms {path : List String} {v : Value} {leaf : Leaf}
    (h : LeafBelow config path v leaf) {φ : Formula Leaf}
    (formula : pathFormula config path v = some φ) : leaf ∈ φ.atoms := by
  induction h generalizing φ with
  | here parsed operation =>
    cases (pathFormula_of_operation parsed operation).symm.trans formula
    exact List.mem_singleton_self _
  | child parsed mem _ ih =>
    rw [pathFormula, Spec.of?_eq_some parsed] at formula
    obtain ⟨φs, formulas, rfl⟩ := Option.map_eq_some_iff.1 formula
    obtain ⟨ψ, isChild, ofChild⟩ := mem_childFormulas formulas mem
    rw [Formula.atoms_joinAll]
    exact List.mem_flatMap.2 ⟨ψ, isChild, ih ofChild⟩

/-- What stands in the first of two related lists is related to something in the second. -/
theorem exists_of_forall₂ {α β : Type} {R : α → β → Prop} {xs : List α} {ys : List β}
    (related : List.Forall₂ R xs ys) {x : α} (mem : x ∈ xs) : ∃ y ∈ ys, R x y := by
  induction related with
  | nil => cases mem
  | cons first _ ih =>
    rcases List.mem_cons.1 mem with rfl | mem
    · exact ⟨_, List.mem_cons_self, first⟩
    · obtain ⟨y, isOther, related⟩ := ih mem
      exact ⟨y, List.mem_cons_of_mem _ isOther, related⟩

/-- The formula of each entry is among those that are joined for all entries. -/
theorem entryFormula_of_mem {entries : List (String × Value)} {φ : Formula Leaf}
    (h : entriesFormula config entries = some φ) {key : String} {v : Value}
    (mem : (key, v) ∈ entries) : ∃ ψ, entryFormula config key v = some ψ ∧ ψ.atoms ⊆ φ.atoms := by
  obtain ⟨groups, isGroups, h⟩ := Option.bind_eq_some_iff.1 h
  obtain ⟨fields, isFields, same⟩ := Option.bind_eq_some_iff.1 h
  cases same
  obtain ⟨φs, written, perm⟩ := forall₂_entryFormula isGroups isFields
  obtain ⟨ψ, isWritten, formula⟩ := exists_of_forall₂ written mem
  refine ⟨ψ, formula, fun leaf isAtom => ?_⟩
  rw [Formula.atoms_joinAll]
  exact List.mem_flatMap.2 ⟨ψ, perm.mem_iff.1 isWritten, isAtom⟩

/-- Each element of a group has a formula among those that the group joins. -/
theorem mem_elementFormulas {items : List Value} {φs : List (Formula Leaf)}
    (h : elementFormulas config items = some φs) {sub : List (String × Value)}
    (item : .object sub ∈ items) : ∃ φ ∈ φs, entriesFormula config sub = some φ := by
  induction items generalizing φs with
  | nil => cases item
  | cons first rest ih =>
    cases first with
    | object entries =>
      rw [elementFormulas] at h
      obtain ⟨groups, isGroups, h⟩ := Option.bind_eq_some_iff.1 h
      obtain ⟨fields, isFields, h⟩ := Option.bind_eq_some_iff.1 h
      obtain ⟨others, isOthers, same⟩ := Option.bind_eq_some_iff.1 h
      cases same
      rcases List.mem_cons.1 item with same | item
      · cases same
        refine ⟨_, List.mem_cons_self, ?_⟩
        rw [entriesFormula, isGroups, isFields]
        rfl
      · obtain ⟨φ, isOther, formula⟩ := ih isOthers item
        exact ⟨φ, List.mem_cons_of_mem _ isOther, formula⟩
    | _ =>
      rw [elementFormulas] at h
      · cases h
      · exact fun _ same => by cases same

/-- All leaves of a filter stand in its formula. -/
theorem LeafOf.mem_atoms {entries : List (String × Value)} {leaf : Leaf}
    (h : LeafOf config entries leaf) {φ : Formula Leaf}
    (formula : entriesFormula config entries = some φ) : leaf ∈ φ.atoms := by
  induction h generalizing φ with
  | @field entries key v target spec o operand mem isField addressed plain parsed operation =>
    obtain ⟨ψ, ofEntry, sub⟩ := entryFormula_of_mem formula mem
    rw [entryFormula, if_neg (by simp [isField]),
      fieldFormula_of_operation addressed plain parsed operation] at ofEntry
    cases ofEntry
    exact sub (List.mem_singleton_self _)
  | @metadata entries key v path leaf mem isField addressed below =>
    obtain ⟨ψ, ofEntry, sub⟩ := entryFormula_of_mem formula mem
    rw [entryFormula, if_neg (by simp [isField]), fieldFormula_of_metadata addressed] at ofEntry
    exact sub (below.mem_atoms ofEntry)
  | @group entries key items inner leaf mem isGroup item _ ih =>
    obtain ⟨ψ, ofEntry, sub⟩ := entryFormula_of_mem formula mem
    rw [entryFormula, if_pos isGroup] at ofEntry
    split at ofEntry
    · rw [groupFormula] at ofEntry
      obtain ⟨φs, elements, rfl⟩ := Option.map_eq_some_iff.1 ofEntry
      obtain ⟨χ, isElement, ofInner⟩ := mem_elementFormulas elements item
      apply sub
      rw [Formula.atoms_joinAll]
      exact List.mem_flatMap.2 ⟨χ, isElement, ih ofInner⟩
    · cases ofEntry

/-! ## The parameters of all leaves -/

/-- A condition is made from leaves with a property if all leaves of the formula have it, and the
parameters of the condition are theirs, one leaf after another. -/
def MadeFrom (config : Config) (P : Leaf → Prop) (φ : Formula Leaf) (c : Fragment) : Prop :=
  (∀ leaf ∈ φ.atoms, P leaf) ∧ c.values = φ.atoms.flatMap (Leaf.params config)

/-- A condition with the parameters of several is made from the leaves of all of them. -/
theorem madeFrom_joinAll {P : Leaf → Prop} (k : Connective) {φs : List (Formula Leaf)}
    {cs : List Fragment} (made : List.Forall₂ (MadeFrom config P) φs cs) {c : Fragment}
    (joined : c.values = cs.flatMap Condition.values) : MadeFrom config P (.joinAll k φs) c := by
  rw [MadeFrom, joined, Formula.atoms_joinAll]
  clear joined
  induction made with
  | nil => exact ⟨List.forall_mem_nil _, rfl⟩
  | cons first _ ih =>
    rw [List.flatMap_cons, List.flatMap_cons, List.flatMap_append, List.forall_mem_append, first.2,
      ih.2]
    exact ⟨⟨first.1, ih.1⟩, rfl⟩

/-- The condition of a filter has the parameters of the leaves of its formula, one leaf after
another. They are the leaves of the filter, and none of them is refused. -/
theorem filterCondition_params {f : Filter} {c : Fragment} (h : filterCondition config f = .ok c) :
    ∃ φ, entriesFormula config f.entries = some φ ∧
      (∀ leaf, leaf ∈ φ.atoms ↔ LeafOf config f.entries leaf) ∧
      (∀ leaf ∈ φ.atoms, Succeeds (leaf.fragment config)) ∧
      c.values = φ.atoms.flatMap (Leaf.params config) := by
  let P leaf := LeafOf config f.entries leaf ∧ Succeeds (leaf.fragment config)
  have compositional : Compositional (MadeFrom config P) :=
    ⟨fun made => madeFrom_joinAll .and made (Condition.values_all _),
      fun k _ _ made => madeFrom_joinAll k made (Condition.values_group k _)⟩
  have leaves : RelatesLeaves config (MadeFrom config P) (LeafOf config f.entries) := by
    intro leaf ofFilter c built
    refine ⟨by simpa [Formula.atoms, P] using ⟨ofFilter, c, built⟩, ?_⟩
    rw [Formula.atoms, List.flatMap_singleton, Leaf.params_of_ok built]
  obtain ⟨φ, formula, ofFilter, values⟩ := filterCondition_formula compositional h leaves
  refine ⟨φ, formula, fun leaf => ⟨fun mem => (ofFilter leaf mem).1, fun isLeaf => ?_⟩,
    fun leaf mem => (ofFilter leaf mem).2, values⟩
  exact isLeaf.mem_atoms formula

end

end Compile

open Compile

section

variable {compiler : Compiler} {f : Filter} {given : ParamList} {mode : Mode} {s : Statement}

/-- A compiled filter has, behind the given parameters, those of the leaves of its formula. -/
theorem compile_formula_params (h : compiler.compile f given mode = .ok s) :
    ∃ φ, entriesFormula compiler.config f.entries = some φ ∧
      (∀ leaf, leaf ∈ φ.atoms ↔ LeafOf compiler.config f.entries leaf) ∧
      (∀ leaf ∈ φ.atoms, Succeeds (leaf.fragment compiler.config)) ∧
      s.params.items = given.items ++ φ.atoms.flatMap (Leaf.params compiler.config) := by
  obtain ⟨c, condition, -, params⟩ := compile_ok h
  obtain ⟨φ, formula, ofFilter, built, values⟩ := filterCondition_params condition
  exact ⟨φ, formula, ofFilter, built, params.trans (congrArg _ values)⟩

/-- A compiled filter has, behind the given parameters, those of its leaves, one leaf after
another. -/
theorem compile_params (h : compiler.compile f given mode = .ok s) :
    ∃ leaves : List Leaf, (∀ leaf, leaf ∈ leaves ↔ LeafOf compiler.config f.entries leaf) ∧
      (∀ leaf ∈ leaves, Succeeds (leaf.fragment compiler.config)) ∧
      s.params.items = given.items ++ leaves.flatMap (Leaf.params compiler.config) := by
  obtain ⟨φ, -, ofFilter, built, params⟩ := compile_formula_params h
  exact ⟨φ.atoms, ofFilter, built, params⟩

end

end FilterSql
