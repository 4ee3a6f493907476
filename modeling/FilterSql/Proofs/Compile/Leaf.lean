import FilterSql.Compile.Filter
import FilterSql.Proofs.Filter.Spec
import FilterSql.Proofs.Result
import FilterSql.Proofs.Sql.Formula
import Mathlib.Data.List.Forall2

/-!
# The leaves of a filter

A leaf is one operator with its operand on one target. `LeafOf` says which leaves stand in a
filter, under groups and along paths to any depth. The formula of a filter says how its leaves
are joined: a list of entries is a conjunction, a group is what its connective says, and so are
the keys that continue a path. Last come the inversions of the compiler: what each of its steps
can do.
-/

set_option autoImplicit false

namespace FilterSql.Compile

open Sql

/-- An operator with its operand on a target. Refusals name it by its field. -/
structure Leaf where
  field : String
  target : Target
  operator : Operator
  operand : Value

/-- What a bare list asks of a target. -/
def listOperator : Target → Operator
  | .collection => .overlap
  | _ => .within

/-- The fragment of a leaf. -/
def Leaf.fragment (config : Config) (leaf : Leaf) : Except CompileError Fragment :=
  match leaf.target with
  | .column name => columnOperation config leaf.field name leaf.operator leaf.operand
  | .collection => collectionOperation leaf.field leaf.operator leaf.operand
  | .parent => parentOperation leaf.field leaf.operator leaf.operand
  | .metadata path => metadataOperation config path leaf.operator leaf.operand

/-- The leaves of a value that is given for a path inside the JSON column: the value itself, or
what stands under the keys that continue the path. -/
inductive LeafBelow (config : Config) : List String → Value → Leaf → Prop
  | here {path : List String} {label : String} {v : Value} {spec : Spec} {o : Operator}
      {operand : Value} (parsed : Spec.parse label v = .ok spec)
      (operation : spec.operation? .within = some (o, operand)) :
      LeafBelow config path v ⟨pathName config.jsonColumn path, .metadata path, o, operand⟩
  | child {path : List String} {label : String} {entries : List (String × Value)} {key : String}
      {v : Value} {leaf : Leaf} (parsed : Spec.parse label (.object entries) = .ok (.path entries))
      (mem : (key, v) ∈ entries) (below : LeafBelow config (path ++ segments key) v leaf) :
      LeafBelow config path (.object entries) leaf

/-- The leaves of a list of entries. -/
inductive LeafOf (config : Config) : List (String × Value) → Leaf → Prop
  | field {entries : List (String × Value)} {key : String} {v : Value} {target : Target}
      {spec : Spec} {o : Operator} {operand : Value} (mem : (key, v) ∈ entries)
      (isField : isKeywordKey key = false) (addressed : config.target? key = some target)
      (plain : ∀ path, target ≠ .metadata path) (parsed : Spec.parse key v = .ok spec)
      (operation : spec.operation? (listOperator target) = some (o, operand)) :
      LeafOf config entries ⟨key, target, o, operand⟩
  | metadata {entries : List (String × Value)} {key : String} {v : Value} {path : List String}
      {leaf : Leaf} (mem : (key, v) ∈ entries) (isField : isKeywordKey key = false)
      (addressed : config.target? key = some (.metadata path))
      (below : LeafBelow config path v leaf) : LeafOf config entries leaf
  | group {entries : List (String × Value)} {key : String} {items : List Value}
      {sub : List (String × Value)} {leaf : Leaf} (mem : (key, .list items) ∈ entries)
      (isGroup : isKeywordKey key = true) (item : .object sub ∈ items)
      (below : LeafOf config sub leaf) : LeafOf config entries leaf

/-- A filter contains the leaves of any part of its entries. -/
theorem LeafOf.mono {config : Config} {entries entries' : List (String × Value)} {leaf : Leaf}
    (h : LeafOf config entries leaf) (sub : entries ⊆ entries') : LeafOf config entries' leaf := by
  cases h with
  | field mem isField addressed plain parsed operation =>
    exact .field (sub mem) isField addressed plain parsed operation
  | metadata mem isField addressed below => exact .metadata (sub mem) isField addressed below
  | group mem isGroup item below => exact .group (sub mem) isGroup item below

/-! ## How leaves are joined -/

/-- The formula of a shape on a path, unless the shape continues the path. -/
def pathLeaf (config : Config) (path : List String) (spec : Spec) : Option (Formula Leaf) :=
  (spec.operation? .within).map fun (o, operand) =>
    .atom ⟨pathName config.jsonColumn path, .metadata path, o, operand⟩

mutual

/-- The formula of a value on a path: a leaf, or the conjunction over the keys that continue
the path. -/
def pathFormula (config : Config) (path : List String) : Value → Option (Formula Leaf)
  | .object entries =>
    match Spec.of? (.object entries) with
    | some (.path _) => (childFormulas config path entries).map (.joinAll .and)
    | some spec => pathLeaf config path spec
    | none => none
  | v => pathLeaf config path (.literal v)

/-- The formulas of the keys that continue a path. -/
def childFormulas (config : Config) (path : List String) :
    List (String × Value) → Option (List (Formula Leaf))
  | [] => some []
  | (key, v) :: rest => do
    let first ← pathFormula config (path ++ segments key) v
    let others ← childFormulas config path rest
    return first :: others

end

/-- The formula of a field. -/
def fieldFormula (config : Config) (key : String) (v : Value) : Option (Formula Leaf) := do
  match ← config.target? key with
  | .metadata path => pathFormula config path v
  | target =>
    let (o, operand) ← (← Spec.of? v).operation? (listOperator target)
    return .atom ⟨key, target, o, operand⟩

/-- The formulas of the entries that are fields. -/
def fieldFormulas (config : Config) : List (String × Value) → Option (List (Formula Leaf))
  | [] => some []
  | (key, v) :: rest =>
    if isKeywordKey key then fieldFormulas config rest
    else do
      let first ← fieldFormula config key v
      let others ← fieldFormulas config rest
      return first :: others

mutual

/-- The formula of a group. -/
def groupFormula (config : Config) (k : Connective) : Value → Option (Formula Leaf)
  | .list items => (elementFormulas config items).map (.joinAll k)
  | _ => none

/-- The formulas of the elements of a group. Each of them is a list of entries. -/
def elementFormulas (config : Config) : List Value → Option (List (Formula Leaf))
  | [] => some []
  | .object entries :: rest => do
    let groups ← groupFormulas config entries
    let fields ← fieldFormulas config entries
    let others ← elementFormulas config rest
    return .joinAll .and (groups ++ fields) :: others
  | _ :: _ => none

/-- The formulas of the entries that are groups. -/
def groupFormulas (config : Config) : List (String × Value) → Option (List (Formula Leaf))
  | [] => some []
  | (key, v) :: rest =>
    if isKeywordKey key then
      match Keyword.ofKey? key with
      | some (.connective k) => do
        let first ← groupFormula config k v
        let others ← groupFormulas config rest
        return first :: others
      | _ => none
    else groupFormulas config rest

end

/-- The formula of an entry, which is a group or a field. -/
def entryFormula (config : Config) (key : String) (v : Value) : Option (Formula Leaf) :=
  if isKeywordKey key then
    match Keyword.ofKey? key with
    | some (.connective k) => groupFormula config k v
    | _ => none
  else fieldFormula config key v

/-- The formula of a list of entries: the conjunction over all of them. Groups stand before
fields, as their placeholders do. What the order is does not matter to its truth value. -/
def entriesFormula (config : Config) (entries : List (String × Value)) :
    Option (Formula Leaf) := do
  let groups ← groupFormulas config entries
  let fields ← fieldFormulas config entries
  return .joinAll .and (groups ++ fields)

/-- The formulas of groups and of fields are together those of the entries as they are written. -/
theorem forall₂_entryFormula {config : Config} {entries : List (String × Value)}
    {groups fields : List (Formula Leaf)} (isGroups : groupFormulas config entries = some groups)
    (isFields : fieldFormulas config entries = some fields) :
    ∃ φs, List.Forall₂ (fun entry φ => entryFormula config entry.1 entry.2 = some φ) entries φs ∧
      φs.Perm (groups ++ fields) := by
  induction entries generalizing groups fields with
  | nil =>
    rw [groupFormulas] at isGroups
    cases isGroups
    cases isFields
    exact ⟨[], .nil, .nil⟩
  | cons entry rest ih =>
    obtain ⟨key, v⟩ := entry
    rw [groupFormulas] at isGroups
    rw [fieldFormulas] at isFields
    cases keyword : isKeywordKey key with
    | true =>
      rw [if_pos keyword] at isGroups isFields
      split at isGroups
      · rename_i k isConnective
        obtain ⟨first, isFirst, isGroups⟩ := Option.bind_eq_some_iff.1 isGroups
        obtain ⟨others, isOthers, same⟩ := Option.bind_eq_some_iff.1 isGroups
        cases same
        obtain ⟨φs, written, perm⟩ := ih isOthers isFields
        refine ⟨first :: φs, .cons ?_ written, perm.cons first⟩
        simp only [entryFormula, keyword, isConnective, if_true, isFirst]
      · cases isGroups
    | false =>
      rw [if_neg (by simp [keyword])] at isGroups isFields
      obtain ⟨first, isFirst, isFields⟩ := Option.bind_eq_some_iff.1 isFields
      obtain ⟨others, isOthers, same⟩ := Option.bind_eq_some_iff.1 isFields
      cases same
      obtain ⟨φs, written, perm⟩ := ih isGroups isOthers
      -- The formulas of groups stand first, so that of a field moves behind them.
      refine ⟨first :: φs, .cons ?_ written, (perm.cons first).trans List.perm_middle.symm⟩
      simp only [entryFormula, keyword, Bool.false_eq_true, if_false, isFirst]

/-- The formula of a list of entries has the truth value of the conjunction of the entries in the
order in which they are written. -/
theorem entriesFormula_written {config : Config} {entries : List (String × Value)}
    {φ : Formula Leaf} (h : entriesFormula config entries = some φ) :
    ∃ φs, List.Forall₂ (fun entry φ => entryFormula config entry.1 entry.2 = some φ) entries φs ∧
      ∀ v, φ.eval v = (Formula.joinAll .and φs).eval v := by
  obtain ⟨groups, isGroups, h⟩ := Option.bind_eq_some_iff.1 h
  obtain ⟨fields, isFields, same⟩ := Option.bind_eq_some_iff.1 h
  cases same
  obtain ⟨φs, written, perm⟩ := forall₂_entryFormula isGroups isFields
  exact ⟨φs, written, fun v => Formula.eval_joinAll_perm v .and perm.symm⟩

/-! ## What each step of the compiler can do -/

/-- A child path is the path with the segments of the key behind it, none of them empty. -/
theorem childPath_ok {column : String} {path child : List String} {key : String}
    (h : childPath column path key = .ok child) :
    child = path ++ segments key ∧ ∀ s ∈ segments key, s ≠ "" := by
  unfold childPath at h
  split at h
  · rename_i nonempty
    cases h
    simpa using nonempty
  · cases h

/-- The condition of entries that continue a path, with `levels` levels of nesting left. -/
def pathCondition (config : Config) (levels : Nat) (path : List String)
    (entries : List (String × Value)) : Except CompileError Fragment :=
  match levels with
  | 0 => .error (.tooDeep config.maxDepth)
  | levels + 1 => do return .all (← childConditions config levels path entries)

/-- The condition of a shape on a path inside the JSON column. -/
def shapeCondition (config : Config) (levels : Nat) (path : List String) :
    Spec → Except CompileError Fragment
  | .literal v =>
    metadataOperation config path (if v.isScalar then .compare .eq else .within) v
  | .operator o operand => metadataOperation config path o operand
  | .path entries => pathCondition config levels path entries

/-- A value on a path is compiled as its shape. -/
theorem metadataCondition_eq {config : Config} {levels : Nat} {label : String}
    {path : List String} {v : Value} :
    metadataCondition config levels label path v =
      Spec.parse label v >>= shapeCondition config levels path := by
  cases v with
  | object entries =>
    rw [metadataCondition.eq_def]
    cases parsed : Spec.ofEntries label entries with
    | error e =>
      simp only [Spec.parse, parsed]
      rfl
    | ok spec =>
      simp only [Spec.parse, parsed]
      obtain ⟨rfl, -, -⟩ | ⟨_, _, _, -, -, rfl⟩ := Spec.ofEntries_ok parsed
      · cases levels <;> rfl
      · rfl
  | list items =>
    rw [metadataCondition]
    rfl
  | _ =>
    rw [metadataCondition]
    · rfl
    · exact fun _ same => by cases same
    · exact fun _ same => by cases same

/-- A condition on a path is the fragment of an operator, or the conjunction of the conditions
of the keys that continue the path. -/
theorem metadataCondition_ok {config : Config} {levels : Nat} {label : String}
    {path : List String} {v : Value} {c : Fragment}
    (h : metadataCondition config levels label path v = .ok c) :
    (∃ spec o operand, Spec.parse label v = .ok spec ∧
      spec.operation? .within = some (o, operand) ∧
      metadataOperation config path o operand = .ok c) ∨
    ∃ entries rest cs, v = .object entries ∧ Spec.parse label v = .ok (.path entries) ∧
      levels = rest + 1 ∧ childConditions config rest path entries = .ok cs ∧ c = .all cs := by
  rw [metadataCondition_eq] at h
  obtain ⟨spec, parsed, built⟩ := bind_eq_ok_iff.1 h
  cases spec with
  | literal w => exact .inl ⟨_, _, _, parsed, rfl, built⟩
  | operator o operand => exact .inl ⟨_, o, operand, parsed, rfl, built⟩
  | path entries =>
    obtain ⟨rfl, -, -⟩ := Spec.parse_path_iff.1 parsed
    cases levels with
    | zero => cases built
    | succ rest =>
      obtain ⟨cs, children, joined⟩ := bind_eq_ok_iff.1 built
      cases joined
      exact .inr ⟨entries, rest, cs, rfl, parsed, rfl, children, rfl⟩

/-- A shape that does not continue the path has the condition of its operator. -/
theorem shapeCondition_of_operation {config : Config} {levels : Nat} {path : List String}
    {spec : Spec} {o : Operator} {operand : Value}
    (operation : spec.operation? .within = some (o, operand)) :
    shapeCondition config levels path spec = metadataOperation config path o operand := by
  cases spec with
  | path entries => cases operation
  | _ =>
    cases operation
    rfl

/-- A value with an operator is compiled as that operator on the path. -/
theorem metadataCondition_of_operation {config : Config} {levels : Nat} {label : String}
    {path : List String} {v : Value} {spec : Spec} {o : Operator} {operand : Value}
    (parsed : Spec.parse label v = .ok spec)
    (operation : spec.operation? .within = some (o, operand)) :
    metadataCondition config levels label path v = metadataOperation config path o operand := by
  rw [metadataCondition_eq, parsed]
  exact shapeCondition_of_operation operation

/-- An object that continues a path has the conditions of its children, on one level less. -/
theorem metadataCondition_of_path {config : Config} {levels : Nat} {label : String}
    {path : List String} {entries : List (String × Value)}
    (parsed : Spec.parse label (.object entries) = .ok (.path entries)) :
    metadataCondition config (levels + 1) label path (.object entries) =
      (childConditions config levels path entries >>= fun cs => pure (.all cs)) := by
  rw [metadataCondition_eq, parsed]
  rfl

/-- The children of a path have the conditions of the keys, each on its child path. -/
theorem childConditions_cons_ok {config : Config} {levels : Nat} {path : List String}
    {key : String} {v : Value} {rest : List (String × Value)} {cs : List Fragment}
    (h : childConditions config levels path ((key, v) :: rest) = .ok cs) :
    ∃ first others, childPath config.jsonColumn path key = .ok (path ++ segments key) ∧
      metadataCondition config levels (joinSegments (path ++ segments key)) (path ++ segments key) v
        = .ok first ∧
      childConditions config levels path rest = .ok others ∧ cs = first :: others := by
  rw [childConditions] at h
  obtain ⟨child, isChild, h⟩ := bind_eq_ok_iff.1 h
  obtain ⟨first, condition, h⟩ := bind_eq_ok_iff.1 h
  obtain ⟨others, conditions, h⟩ := bind_eq_ok_iff.1 h
  cases h
  obtain ⟨rfl, -⟩ := childPath_ok isChild
  exact ⟨first, others, isChild, condition, conditions, rfl⟩

/-- A builder that is given the operator of a shape has one to be given. -/
theorem shape_ok {label : String} {onList : Operator}
    {build : Operator → Value → Except CompileError Fragment} {refusal : CompileError} {v : Value}
    {c : Fragment}
    (h : (Spec.parse label v >>= fun spec =>
      match spec.operation? onList with
      | some (o, operand) => build o operand
      | none => .error refusal) = .ok c) :
    ∃ spec o operand, Spec.parse label v = .ok spec ∧
      spec.operation? onList = some (o, operand) ∧ build o operand = .ok c := by
  obtain ⟨spec, parsed, h⟩ := bind_eq_ok_iff.1 h
  split at h
  · rename_i o operand operation
    exact ⟨spec, o, operand, parsed, operation, h⟩
  · cases h

/-- A condition on a field is one on a path inside the JSON column, or the fragment of a leaf. -/
theorem fieldCondition_ok {config : Config} {levels : Nat} {key : String} {v : Value}
    {c : Fragment} (h : fieldCondition config levels key v = .ok c) :
    (∃ path, config.target? key = some (.metadata path) ∧
      metadataCondition config levels key path v = .ok c) ∨
    ∃ target spec o operand, config.target? key = some target ∧ (∀ path, target ≠ .metadata path) ∧
      Spec.parse key v = .ok spec ∧ spec.operation? (listOperator target) = some (o, operand) ∧
      Leaf.fragment config ⟨key, target, o, operand⟩ = .ok c := by
  unfold fieldCondition at h
  split at h
  · cases h
  · rename_i name addressed
    obtain ⟨spec, o, operand, parsed, operation, built⟩ := shape_ok h
    exact .inr ⟨_, spec, o, operand, addressed, by simp, parsed, operation, built⟩
  · rename_i addressed
    obtain ⟨spec, o, operand, parsed, operation, built⟩ := shape_ok h
    exact .inr ⟨_, spec, o, operand, addressed, by simp, parsed, operation, built⟩
  · rename_i addressed
    obtain ⟨spec, o, operand, parsed, operation, built⟩ := shape_ok h
    exact .inr ⟨_, spec, o, operand, addressed, by simp, parsed, operation, built⟩
  · rename_i path addressed
    exact .inl ⟨path, addressed, h⟩

/-- A key is accepted for a group if it is that of a connective. -/
theorem connectiveOfKey_eq_ok_iff {key : String} {k : Connective} :
    connectiveOfKey key = .ok k ↔ Keyword.ofKey? key = some (.connective k) := by
  unfold connectiveOfKey
  split <;> simp_all

/-- A keyword among the entries of a filter is a connective, and what it joins is a list. -/
theorem groupConditions_cons_ok {config : Config} {levels : Nat} {key : String} {v : Value}
    {rest : List (String × Value)} {cs : List Fragment} (isGroup : isKeywordKey key = true)
    (h : groupConditions config levels ((key, v) :: rest) = .ok cs) :
    ∃ k first others, Keyword.ofKey? key = some (.connective k) ∧
      groupCondition config levels k v = .ok first ∧
      groupConditions config levels rest = .ok others ∧ cs = first :: others := by
  rw [groupConditions, if_pos isGroup] at h
  obtain ⟨k, isConnective, h⟩ := bind_eq_ok_iff.1 h
  obtain ⟨first, condition, h⟩ := bind_eq_ok_iff.1 h
  obtain ⟨others, conditions, h⟩ := bind_eq_ok_iff.1 h
  cases h
  have found := connectiveOfKey_eq_ok_iff.1 isConnective
  exact ⟨k, first, others, found, condition, conditions, rfl⟩

/-- Where no level is left, a group is refused before its value is looked at. -/
theorem groupCondition_zero {config : Config} {k : Connective} {v : Value} :
    groupCondition config 0 k v = .error (.tooDeep config.maxDepth) := by
  rw [groupCondition.eq_def]
  cases v <;> rfl

/-- A group whose value is no list is refused under the name of its connective. -/
theorem groupCondition_of_not_list {config : Config} {levels : Nat} {k : Connective} {v : Value}
    (notList : ∀ items, v ≠ .list items) :
    groupCondition config (levels + 1) k v = .error (.groupNotList k) := by
  rw [groupCondition.eq_def]
  cases v with
  | list items => exact absurd rfl (notList items)
  | _ => rfl

/-- A group is a list of filters, joined, and takes one level. -/
theorem groupCondition_ok {config : Config} {levels : Nat} {k : Connective} {v : Value}
    {c : Fragment} (h : groupCondition config levels k v = .ok c) :
    ∃ items rest cs, v = .list items ∧ levels = rest + 1 ∧
      elementConditions config rest k items = .ok cs ∧ c = .group k cs := by
  rw [groupCondition.eq_def] at h
  cases v with
  | list items =>
    cases levels with
    | zero => cases h
    | succ rest =>
      obtain ⟨cs, elements, h⟩ := bind_eq_ok_iff.1 h
      cases h
      exact ⟨items, rest, cs, rfl, rfl, elements, rfl⟩
  | _ => cases levels <;> cases h

/-- The first element of a group that is no object is refused with its kind. -/
theorem elementConditions_of_not_object {config : Config} {levels : Nat} {k : Connective}
    {v : Value} {rest : List Value} (notObject : ∀ entries, v ≠ .object entries) :
    elementConditions config levels k (v :: rest) =
      .error (.invalidForm (.groupElement k v.kind)) := by
  rw [elementConditions]
  exact notObject

/-- An element of a group is an object, and is compiled like a filter. -/
theorem elementConditions_cons_ok {config : Config} {levels : Nat} {k : Connective} {v : Value}
    {rest : List Value} {cs : List Fragment}
    (h : elementConditions config levels k (v :: rest) = .ok cs) :
    ∃ entries groups fields others, v = .object entries ∧
      groupConditions config levels entries = .ok groups ∧
      fieldConditions config levels entries = .ok fields ∧
      elementConditions config levels k rest = .ok others ∧
      cs = .all (groups ++ fields) :: others := by
  cases v with
  | object entries =>
    rw [elementConditions] at h
    obtain ⟨groups, isGroups, h⟩ := bind_eq_ok_iff.1 h
    obtain ⟨fields, isFields, h⟩ := bind_eq_ok_iff.1 h
    obtain ⟨others, isOthers, h⟩ := bind_eq_ok_iff.1 h
    cases h
    exact ⟨entries, groups, fields, others, rfl, isGroups, isFields, isOthers, rfl⟩
  | _ =>
    rw [elementConditions_of_not_object (by simp)] at h
    cases h

end FilterSql.Compile
