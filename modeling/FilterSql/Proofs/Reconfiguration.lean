import FilterSql.Proofs.Compile.Leaf

/-!
# One filter under two configurations

A configuration decides what field names address, how deep a filter may nest, and what is written
for each leaf. So a filter has the same condition under two configurations that look up its field
names alike, have the same limit, and write its leaves alike (`filterCondition_congr`). Which leaves
stand in a filter, and in which order, is decided by the names alone (`entriesFormula_congr`).
-/

set_option autoImplicit false

namespace FilterSql

open Compile Sql

/-- The keys at field positions: those of the entries themselves, and those of the elements of
groups to any depth. The keys below a field are not among them. -/
inductive FieldOf : List (String × Value) → String → Prop
  | here {entries : List (String × Value)} {key : String} {v : Value} (mem : (key, v) ∈ entries)
      (isField : isKeywordKey key = false) : FieldOf entries key
  | group {entries : List (String × Value)} {key field : String} {k : Connective}
      {items : List Value} {sub : List (String × Value)} (mem : (key, .list items) ∈ entries)
      (isGroup : Keyword.ofKey? key = some (.connective k)) (item : .object sub ∈ items)
      (below : FieldOf sub field) : FieldOf entries field

/-- A field of some of the entries is a field of all of them. -/
theorem FieldOf.mono {entries entries' : List (String × Value)} {field : String}
    (h : FieldOf entries field) (sub : entries ⊆ entries') : FieldOf entries' field := by
  cases h with
  | here mem isField => exact .here (sub mem) isField
  | group mem isGroup item below => exact .group (sub mem) isGroup item below

namespace Compile

variable {config config' : Config}

/-! ## The same formula -/

section

variable (jsonColumn : config.jsonColumn = config'.jsonColumn)

include jsonColumn

/-- The name of the JSON column is all that the formula of a path takes from a configuration. -/
theorem pathFormula_congr (path : List String) (v : Value) :
    pathFormula config path v = pathFormula config' path v := by
  have leaf : ∀ path spec, pathLeaf config path spec = pathLeaf config' path spec := by
    intro path spec
    rw [pathLeaf, pathLeaf, jsonColumn]
  refine (pathFormula.mutual_induct
    (fun path v => pathFormula config path v = pathFormula config' path v)
    (fun path entries => childFormulas config path entries = childFormulas config' path entries)
    ?continues ?operation ?refused ?bare ?noEntries ?entries).1 path v
  case continues =>
    intro path entries entries' shape children
    simp only [pathFormula, shape, children]
  case operation =>
    intro path entries spec notPath shape
    simp only [pathFormula, shape, leaf]
  case refused =>
    intro path entries noShape
    simp only [pathFormula, noShape]
  case bare =>
    intro path v notObject
    rw [pathFormula, pathFormula, leaf]
    · exact notObject
    · exact notObject
  case noEntries => exact fun path => rfl
  case entries =>
    intro path key v rest first others
    rw [childFormulas, childFormulas, first, others]

variable (target : ∀ key, config.target? key = config'.target? key)

include target

/-- A field has the same formula under both configurations. -/
theorem fieldFormula_congr (key : String) (v : Value) :
    fieldFormula config key v = fieldFormula config' key v := by
  unfold fieldFormula
  rw [target]
  congr 1
  funext target
  cases target with
  | metadata path => exact pathFormula_congr jsonColumn path v
  | _ => rfl

/-- Fields have the same formulas under both configurations. -/
theorem fieldFormulas_congr (entries : List (String × Value)) :
    fieldFormulas config entries = fieldFormulas config' entries := by
  induction entries with
  | nil => rfl
  | cons entry rest ih =>
    rw [fieldFormulas, fieldFormulas, fieldFormula_congr jsonColumn target, ih]

/-- Groups have the same formulas under both configurations. -/
theorem groupFormulas_congr (entries : List (String × Value)) :
    groupFormulas config entries = groupFormulas config' entries := by
  refine (groupFormula.mutual_induct
    (fun k v => groupFormula config k v = groupFormula config' k v)
    (fun items => elementFormulas config items = elementFormulas config' items)
    (fun entries => groupFormulas config entries = groupFormulas config' entries)
    ?list ?notList ?noItems ?object ?notObject ?noEntries ?connective ?keyword ?field).2.2 entries
  case list =>
    intro k items elements
    rw [groupFormula, groupFormula, elements]
  case notList =>
    intro v k notList
    rw [groupFormula, groupFormula]
    · exact notList
    · exact notList
  case noItems => rw [elementFormulas, elementFormulas]
  case object =>
    intro entries rest groups others
    rw [elementFormulas, elementFormulas, groups, others, fieldFormulas_congr jsonColumn target]
  case notObject =>
    intro v rest notObject
    rw [elementFormulas, elementFormulas]
    · exact notObject
    · exact notObject
  case noEntries => rw [groupFormulas, groupFormulas]
  case connective =>
    intro key v rest isGroup k isConnective first others
    simp only [groupFormulas, isConnective, first, others]
  case keyword =>
    intro key v rest isGroup notConnective
    rw [groupFormulas, groupFormulas, if_pos isGroup, if_pos isGroup]
    split
    · rename_i k isConnective
      exact absurd isConnective (notConnective k)
    · rfl
  case field =>
    intro key v rest isField others
    rw [groupFormulas, groupFormulas, if_neg isField, if_neg isField, others]

/-- A filter has the same leaves in the same order under configurations that look up names alike. -/
theorem entriesFormula_congr (entries : List (String × Value)) :
    entriesFormula config entries = entriesFormula config' entries := by
  rw [entriesFormula, entriesFormula, groupFormulas_congr jsonColumn target,
    fieldFormulas_congr jsonColumn target]

end

/-! ## The same condition -/

/-- Leaves of a kind are written alike under two configurations. -/
def SameLeaves (config config' : Config) (kind : Leaf → Prop) : Prop :=
  ∀ leaf, kind leaf → leaf.fragment config = leaf.fragment config'

/-- What both configurations make of all leaves of a kind they make of those of a narrower kind. -/
theorem SameLeaves.mono {kind kind' : Leaf → Prop} (same : SameLeaves config config' kind)
    (sub : ∀ leaf, kind' leaf → kind leaf) : SameLeaves config config' kind' :=
  fun leaf isKind => same leaf (sub leaf isKind)

/-- Steps that are the same on what a first step gives are the same behind it. -/
theorem bind_congr_of_ok {α β : Type} {x : Except CompileError α} {f g : α → Except CompileError β}
    (same : ∀ a, x = .ok a → f a = g a) : x >>= f = x >>= g := by
  cases x with
  | ok a => exact same a rfl
  | error e => rfl

section

variable (jsonColumn : config.jsonColumn = config'.jsonColumn)

include jsonColumn

/-- Keys below a path have the same conditions under both configurations, or the same refusal, if
their values do. -/
theorem childConditions_congr {levels : Nat}
    (value : ∀ {label : String} {path : List String} {v : Value},
      SameLeaves config config' (LeafBelow config path v) →
      metadataCondition config levels label path v = metadataCondition config' levels label path v)
    {path : List String} {entries : List (String × Value)}
    (leaves : ∀ entry ∈ entries,
      SameLeaves config config' (LeafBelow config (path ++ segments entry.1) entry.2)) :
    childConditions config levels path entries = childConditions config' levels path entries := by
  induction entries with
  | nil => rfl
  | cons entry rest ih =>
    obtain ⟨key, v⟩ := entry
    obtain ⟨first, others⟩ := List.forall_mem_cons.1 leaves
    rw [childConditions, childConditions, ← jsonColumn, ih others]
    apply bind_congr_of_ok
    intro child isChild
    obtain ⟨rfl, -⟩ := childPath_ok isChild
    rw [value first]

variable (maxDepth : config.maxDepth = config'.maxDepth)

include maxDepth

/-- A value on a path has the same condition under both configurations, or the same refusal, if they
make the same of its leaves. -/
theorem metadataCondition_congr {levels : Nat} {label : String} {path : List String} {v : Value}
    (leaves : SameLeaves config config' (LeafBelow config path v)) :
    metadataCondition config levels label path v =
      metadataCondition config' levels label path v := by
  -- An operator is a leaf itself. A continuation takes one level, and the induction is on these.
  induction levels generalizing label path v with
  | zero =>
    rw [metadataCondition_eq, metadataCondition_eq]
    apply bind_congr_of_ok
    intro spec parsed
    cases spec with
    | path entries => rw [shapeCondition, shapeCondition, pathCondition, pathCondition, maxDepth]
    | _ => exact leaves _ (.here parsed rfl)
  | succ levels ih =>
    rw [metadataCondition_eq, metadataCondition_eq]
    apply bind_congr_of_ok
    intro spec parsed
    cases spec with
    | path entries =>
      obtain ⟨rfl, -, -⟩ := Spec.parse_path_iff.1 parsed
      have children := childConditions_congr jsonColumn ih fun entry mem =>
        leaves.mono fun leaf below => .child parsed mem below
      rw [shapeCondition, shapeCondition, pathCondition, pathCondition, children]
    | _ => exact leaves _ (.here parsed rfl)

/-- A field is compiled alike if it is looked up alike, and its leaves are written alike. -/
theorem fieldCondition_congr {levels : Nat} {key : String} {v : Value}
    (isField : isKeywordKey key = false) (target : config.target? key = config'.target? key)
    (leaves : SameLeaves config config' (LeafOf config [(key, v)])) :
    fieldCondition config levels key v = fieldCondition config' levels key v := by
  cases addressed : config.target? key with
  | none => rw [fieldCondition, fieldCondition, ← target, addressed]
  | some addressee =>
    cases addressee with
    | metadata path =>
      rw [fieldCondition, fieldCondition, ← target, addressed]
      exact metadataCondition_congr jsonColumn maxDepth
        (leaves.mono fun leaf below => .metadata List.mem_cons_self isField addressed below)
    | collection => rw [fieldCondition, fieldCondition, ← target, addressed]
    | parent => rw [fieldCondition, fieldCondition, ← target, addressed]
    | column name =>
      rw [fieldCondition, fieldCondition, ← target, addressed]
      apply bind_congr_of_ok
      intro spec parsed
      cases spec with
      | path entries => rfl
      | _ => exact leaves _ (.field List.mem_cons_self isField addressed (by simp) parsed rfl)

/-- Fields have the same conditions under both configurations, or the same refusal. -/
theorem fieldConditions_congr {levels : Nat} {entries : List (String × Value)}
    (target : ∀ key, FieldOf entries key → config.target? key = config'.target? key)
    (leaves : SameLeaves config config' (LeafOf config entries)) :
    fieldConditions config levels entries = fieldConditions config' levels entries := by
  induction entries with
  | nil => rfl
  | cons entry rest ih =>
    obtain ⟨key, v⟩ := entry
    have others := ih (fun key ofRest => target key (ofRest.mono (List.subset_cons_self _ _)))
      (leaves.mono fun leaf ofRest => ofRest.mono (List.subset_cons_self _ _))
    rw [fieldConditions, fieldConditions, others]
    cases keyword : isKeywordKey key with
    | true => rfl
    | false =>
      have leavesFirst : SameLeaves config config' (LeafOf config [(key, v)]) :=
        leaves.mono fun leaf ofFirst => ofFirst.mono (by simp)
      rw [fieldCondition_congr jsonColumn maxDepth keyword
        (target key (.here List.mem_cons_self keyword)) leavesFirst]

/-- What compiles the groups of each list of entries alike compiles the elements of a group alike.
-/
theorem elementConditions_congr {levels : Nat}
    (groups : ∀ {entries : List (String × Value)},
      (∀ key, FieldOf entries key → config.target? key = config'.target? key) →
      SameLeaves config config' (LeafOf config entries) →
      groupConditions config levels entries = groupConditions config' levels entries)
    {k : Connective} {items : List Value}
    (target : ∀ entries, .object entries ∈ items →
      ∀ key, FieldOf entries key → config.target? key = config'.target? key)
    (leaves : ∀ entries, .object entries ∈ items →
      SameLeaves config config' (LeafOf config entries)) :
    elementConditions config levels k items = elementConditions config' levels k items := by
  induction items with
  | nil => rw [elementConditions, elementConditions]
  | cons item rest ih =>
    have others := ih (fun entries mem => target entries (List.mem_cons_of_mem _ mem))
      (fun entries mem => leaves entries (List.mem_cons_of_mem _ mem))
    cases item with
    | object entries =>
      have sameTarget := target entries List.mem_cons_self
      have sameLeaves := leaves entries List.mem_cons_self
      rw [elementConditions, elementConditions, groups sameTarget sameLeaves, others,
        fieldConditions_congr jsonColumn maxDepth sameTarget sameLeaves]
    | _ => rw [elementConditions_of_not_object (by simp), elementConditions_of_not_object (by simp)]

/-- Groups have the same conditions under both configurations, or the same refusal. -/
theorem groupConditions_congr {levels : Nat} {entries : List (String × Value)}
    (target : ∀ key, FieldOf entries key → config.target? key = config'.target? key)
    (leaves : SameLeaves config config' (LeafOf config entries)) :
    groupConditions config levels entries = groupConditions config' levels entries := by
  -- The elements of a group are compiled with one level less, the groups beside it with as many.
  induction levels using Nat.strongRecOn generalizing entries with
  | ind levels below =>
    induction entries with
    | nil => rw [groupConditions, groupConditions]
    | cons entry rest ih =>
      obtain ⟨key, v⟩ := entry
      have others := ih (fun key ofRest => target key (ofRest.mono (List.subset_cons_self _ _)))
        (leaves.mono fun leaf ofRest => ofRest.mono (List.subset_cons_self _ _))
      rw [groupConditions, groupConditions, others]
      cases keyword : isKeywordKey key with
      | false => rfl
      | true =>
        have group {k : Connective} (isGroup : Keyword.ofKey? key = some (.connective k)) :
            groupCondition config levels k v = groupCondition config' levels k v := by
          cases levels with
          | zero => rw [groupCondition_zero, groupCondition_zero, maxDepth]
          | succ levels =>
            cases v with
            | list items =>
              have elements := elementConditions_congr (k := k) jsonColumn maxDepth
                (below levels (Nat.lt_succ_self levels))
                (fun sub item key ofSub =>
                  target key (.group List.mem_cons_self isGroup item ofSub))
                fun sub item => leaves.mono fun leaf ofSub =>
                  .group List.mem_cons_self keyword item ofSub
              rw [groupCondition, groupCondition, elements]
            | _ => rw [groupCondition_of_not_list (by simp), groupCondition_of_not_list (by simp)]
        rw [if_pos rfl, if_pos rfl]
        apply bind_congr_of_ok
        intro k isConnective
        rw [group (connectiveOfKey_eq_ok_iff.1 isConnective)]

/-- A filter has the same condition, or the same refusal, under configurations that look up its
field names alike, have the same limit of nesting, and write its leaves alike. -/
theorem filterCondition_congr {f : Filter}
    (target : ∀ key, FieldOf f.entries key → config.target? key = config'.target? key)
    (leaves : SameLeaves config config' (LeafOf config f.entries)) :
    filterCondition config f = filterCondition config' f := by
  rw [filterCondition, filterCondition, entriesCondition, entriesCondition, ← maxDepth,
    groupConditions_congr jsonColumn maxDepth target leaves,
    fieldConditions_congr jsonColumn maxDepth target leaves]

end

end Compile

end FilterSql
