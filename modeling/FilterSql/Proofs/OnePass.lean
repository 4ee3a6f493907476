import FilterSql.Proofs.Allocation

/-!
# Compiling in one pass

The compiler finds the condition of a filter first, and numbers its placeholders when it is written.
The same statement comes out of one pass over the filter, in which each leaf collects its parameters
on the way and every text is put together at once (`compile_in_one_pass`).
-/

set_option autoImplicit false

namespace FilterSql

open Sql Compile Build

namespace Compile

/-- What the condition of a field is about. -/
def Subject.ofTarget (config : Config) (levels : Nat) (key : String) : Target → Subject
  | .column name => .column key name
  | .collection => .collection key Target.collectionColumn
  | .parent => .parent key Target.parentField
  | .metadata path => .metadata levels config.jsonColumn path

/-- The condition of one field. -/
def buildField (config : Config) (levels : Nat) (key : String) (value : Value) : Build String :=
  match config.target? key with
  | none => refuse (.invalidField key)
  | some target => do
    let spec ← check (Spec.parse key value)
    (Subject.ofTarget config levels key target).build config spec

/-- The conditions of entries, groups first, given what builds the condition of a group. -/
def buildEntries (config : Config) (levels : Nat) (group : Connective → Value → Build String)
    (entries : List (String × Value)) : Build String := do
  let groups ← (entries.filter fun entry => isKeywordKey entry.1).mapM fun (key, value) => do
    let k ← check (connectiveOfKey key)
    group k value
  let fields ← (entries.filter fun entry => !isKeywordKey entry.1).mapM fun (key, value) =>
    buildField config levels key value
  return conjunctionText (groups ++ fields)

/-- Conditions under a connective. -/
def groupText (k : Connective) : List String → String
  | [] => match k with
    | .and => "TRUE"
    | .or => "FALSE"
  | texts => joinTexts k texts

/-- The condition of a group with `levels` levels of nesting left. -/
def buildGroup (config : Config) : Nat → Connective → Value → Build String
  | 0, _, _ => refuse (.tooDeep config.maxDepth)
  | levels + 1, k, .list items => do
    let texts ← items.mapM fun
      | .object entries => buildEntries config levels (buildGroup config levels) entries
      | v => refuse (.invalidForm (.groupElement k v.kind))
    return groupText k texts
  | _ + 1, k, _ => refuse (.groupNotList k)

/-- The condition of a filter, built in one pass. -/
def buildFilter (config : Config) (f : Filter) : Build String :=
  buildEntries config config.maxDepth (buildGroup config config.maxDepth) f.entries

/-! ## Fields -/

/-- The collections are the column of every condition on them. -/
theorem collectionOperation_about (field : String) (o : Operator) (operand : Value) :
    Gives (collectionOperation field o operand) fun c => c.about collectionTerm = c := by
  have orConstant (truth : Bool) {c : Fragment} (same : c.about collectionTerm = c)
      (ids : List Uuid) : (if ids.isEmpty then .constant truth else c).about collectionTerm =
        if ids.isEmpty then .constant truth else c := by
    split
    · rfl
    · exact same
  unfold collectionOperation
  split
  · exact gives_ok rfl
  · exact gives_ok rfl
  · exact gives_bind_of_forall fun ids => gives_pure rfl
  · exact gives_bind_of_forall fun ids => gives_pure rfl
  · exact gives_bind_of_forall fun id => gives_pure rfl
  · exact gives_bind_of_forall fun id => gives_pure rfl
  · exact gives_bind_of_forall fun items => gives_bind_of_forall fun ids =>
      gives_pure (orConstant false rfl ids)
  · exact gives_bind_of_forall fun items => gives_bind_of_forall fun ids =>
      gives_pure (orConstant false rfl ids)
  · exact gives_bind_of_forall fun items => gives_bind_of_forall fun ids =>
      gives_pure (orConstant true rfl ids)
  · exact gives_bind_of_forall fun ids => gives_pure (orConstant true rfl ids)
  · exact gives_bind_of_forall fun id => gives_pure rfl
  · exact gives_error _
  · exact gives_error _

/-- The parent is the column of every condition on it. -/
theorem parentOperation_about (field : String) (o : Operator) (operand : Value) :
    Gives (parentOperation field o operand) fun c => c.about parentTerm = c := by
  unfold parentOperation
  split
  · exact gives_ite (gives_ok rfl) (gives_bind_of_forall fun term => gives_pure rfl)
  · exact gives_ite (gives_ok rfl) (gives_bind_of_forall fun term => gives_pure rfl)
  · exact gives_bind_of_forall fun items =>
      gives_ite (gives_pure rfl) (gives_bind_of_forall fun array => gives_pure rfl)
  · exact gives_bind_of_forall fun items =>
      gives_ite (gives_pure rfl) (gives_bind_of_forall fun array => gives_pure rfl)
  · exact gives_error _

/-- Whatever shape a condition on the collections has, they are its column. -/
theorem collectionCondition_about (field : String) (spec : Spec) :
    Gives (collectionCondition field spec) fun c => c.about collectionTerm = c := by
  unfold collectionCondition
  split
  · exact collectionOperation_about _ _ _
  · exact gives_error _

/-- Whatever shape a condition on the parent has, it is its column. -/
theorem parentCondition_about (field : String) (spec : Spec) :
    Gives (parentCondition field spec) fun c => c.about parentTerm = c := by
  unfold parentCondition
  split
  · exact parentOperation_about _ _ _
  · exact gives_error _

/-- A build that settles on conditions of their own column writes them as they are. -/
theorem settles_of_about (column : String) {b : Build String} {x : Except CompileError Fragment}
    (h : Settles (rowOn column) b x) (own : Gives x fun c => c.about (.column column) = c) :
    Settles Condition.pieces b x := by
  constructor
  · exact h.refused
  · intro c found
    have written := h.written c found
    rwa [rowOn, own c found] at written

/-- A field is built like its condition is bound. -/
theorem buildField_reaches (config : Config) (levels : Nat) (key : String) (v : Value) :
    Reaches Condition.bindTo (buildField config levels key v)
      (fieldCondition config levels key v) := by
  unfold buildField fieldCondition
  cases config.target? key with
  | none => exact reaches_refuse _
  | some target =>
    cases target with
    | column name =>
      refine reaches_check fun spec _ => ?_
      exact (Subject.build_settles config (.column key name) (by simp)).reaches
    | collection =>
      refine reaches_check fun spec _ => Settles.reaches ?_
      apply settles_of_about Target.collectionColumn
      · exact Subject.build_settles config (.collection key Target.collectionColumn) (by simp)
      · exact collectionCondition_about key spec
    | parent =>
      refine reaches_check fun spec _ => Settles.reaches ?_
      apply settles_of_about Target.parentField
      · exact Subject.build_settles config (.parent key Target.parentField) (by simp)
      · exact parentCondition_about key spec
    | metadata path =>
      dsimp only
      rw [metadataCondition_eq]
      exact reaches_check fun spec _ => buildShape_reaches config config.jsonColumn levels path spec

/-! ## Groups -/

/-- Conditions behind others are bound where those have ended. -/
theorem bindInTurn_append (cs ds : List Fragment) (given : ParamList) :
    bindInTurn given (cs ++ ds) =
      ((bindInTurn given cs).1 ++ (bindInTurn (bindInTurn given cs).2 ds).1,
        (bindInTurn (bindInTurn given cs).2 ds).2) := by
  induction cs generalizing given with
  | nil => rfl
  | cons c rest ih =>
    rw [List.cons_append, bindInTurn, ih]
    rfl

/-- Binding puts parameters behind those that are there. -/
theorem prefix_bindInTurn (cs : List Fragment) (given : ParamList) :
    given.items <+: (bindInTurn given cs).2.items := by
  induction cs generalizing given with
  | nil => exact List.prefix_rfl
  | cons c rest ih => exact (List.prefix_append _ _).trans (ih (c.bindTo given).2)

/-- A group is bound by binding its conditions in turn and joining their texts. -/
theorem bindTo_groupText (k : Connective) (cs : List Fragment) (given : ParamList) :
    (Condition.group k cs).bindTo given =
      (groupText k (bindInTurn given cs).1, (bindInTurn given cs).2) := by
  cases cs with
  | nil => cases k <;> simp [Condition.group, Condition.unit, Condition.bindTo, bindPieces,
      Condition.pieces, charsFrom, holeValues, bindInTurn, groupText]
  | cons c rest => exact bindTo_group k (List.cons_ne_nil c rest) given

section

variable {config : Config} {levels : Nat}

/-- The fields of entries are built like their conditions are bound in turn. -/
theorem buildFields_reaches (entries : List (String × Value)) :
    ReachesEach ((entries.filter fun entry => !isKeywordKey entry.1).mapM fun (key, value) =>
      buildField config levels key value) (fieldConditions config levels entries) := by
  rw [fieldConditions_eq_mapM]
  apply reachesEach_mapM
  rintro ⟨key, v⟩ mem
  have isField : ¬ isKeywordKey key = true := by simpa using (List.mem_filter.1 mem).2
  rw [entriesCondition_field config levels isField]
  exact buildField_reaches config levels key v

variable {group : Connective → Value → Build String}
  (each : ∀ k v, Reaches Condition.bindTo (group k v) (groupCondition config levels k v))

include each

/-- The groups of entries are built like their conditions are bound in turn, if each is. -/
theorem buildGroups_reaches (entries : List (String × Value)) :
    ReachesEach ((entries.filter fun entry => isKeywordKey entry.1).mapM fun (key, value) => do
      let k ← check (connectiveOfKey key)
      group k value) (groupConditions config levels entries) := by
  rw [groupConditions_eq_mapM]
  apply reachesEach_mapM
  rintro ⟨key, v⟩ mem
  have isGroup : isKeywordKey key = true := (List.mem_filter.1 mem).2
  rw [entriesCondition_keyword config levels isGroup]
  exact reaches_check fun k _ => each k v

/-- Entries are built like their conjunction is bound, if each group is. -/
theorem buildEntries_reaches (entries : List (String × Value)) :
    Reaches Condition.bindTo (buildEntries config levels group entries)
      (entriesCondition config levels entries) := by
  unfold buildEntries entriesCondition
  refine (buildGroups_reaches each entries).seq (buildFields_reaches entries) prefix_bindInTurn ?_
  intro cs ds given
  rw [bindTo_all, bindInTurn_append]

/-- The elements of a group are built like their conditions are bound in turn, if each group below
is. -/
theorem buildElements_reaches (k : Connective) (items : List Value) :
    ReachesEach (items.mapM fun
        | .object entries => buildEntries config levels group entries
        | v => refuse (.invalidForm (.groupElement k v.kind)))
      (elementConditions config levels k items) := by
  induction items with
  | nil =>
    rw [elementConditions]
    exact reachesEach_nil
  | cons item rest ih =>
    rw [List.mapM_cons]
    cases item with
    | object entries =>
      rw [elementConditions]
      have element := Reaches.cons (buildEntries_reaches each entries) ih
      rw [entriesCondition] at element
      simpa only [bind_assoc, pure_bind] using element
    | _ =>
      rw [elementConditions_of_not_object (by simp)]
      exact reaches_refuse _

end

/-- A group is built like its condition is bound, whatever number of levels is left. -/
theorem buildGroup_reaches (config : Config) (levels : Nat) (k : Connective) (v : Value) :
    Reaches Condition.bindTo (buildGroup config levels k v) (groupCondition config levels k v) := by
  induction levels generalizing k v with
  | zero =>
    rw [buildGroup, groupCondition_zero]
    exact reaches_refuse _
  | succ levels ih =>
    cases v with
    | list items =>
      rw [buildGroup, groupCondition.eq_def]
      exact (buildElements_reaches ih k items).map (bindTo_groupText k)
    | _ =>
      rw [groupCondition_of_not_list (by simp)]
      exact reaches_refuse _

/-- A filter is built like its condition is bound. -/
theorem buildFilter_reaches (config : Config) (f : Filter) :
    Reaches Condition.bindTo (buildFilter config f) (filterCondition config f) :=
  buildEntries_reaches (buildGroup_reaches config config.maxDepth) f.entries

end Compile

/-- What a compiler says of a filter is what one pass over the filter builds on an accumulator of
the given parameters. -/
theorem compile_in_one_pass (compiler : Compiler) (f : Filter) (given : ParamList) (mode : Mode) :
    compiler.compile f given mode =
      match (buildFilter compiler.config f).on (.ofGiven given.items) with
      | (.ok text, acc) => .ok ⟨Compiler.inMode mode f text, ⟨acc.params⟩⟩
      | (.error e, _) => .error e := by
  have reaches := buildFilter_reaches compiler.config f
  cases found : filterCondition compiler.config f with
  | error e =>
    obtain ⟨new, left⟩ := reaches.refused e found given
    rw [left, Compiler.compile, found]
    rfl
  | ok c =>
    rw [reaches.bound c found given, Compiler.compile, found]
    rfl

end FilterSql
