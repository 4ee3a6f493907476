import FilterSql.Filter.Builder
import FilterSql.Proofs.Acceptance
import FilterSql.Proofs.Continuation
import FilterSql.Proofs.Field.Addressing

/-!
# Spellings

The filter language has several spellings for one thing. A bare scalar stands for equality with it,
and a bare list for what its field makes of lists; an operator may have several keys, and the
collections have two names; and a path inside the JSON column may be named with the column before it
or without. Entries may be respelled at any number of places at once, in groups and along paths, and
the filter compiles to the same statement (`compile_respelled`). Refusals repeat keys as they are
spelled, and may differ.
-/

set_option autoImplicit false

namespace FilterSql

open Compile

/-! ## Other spellings -/

/-- Keys that are the same or spell the same operator. -/
def SameKey (key key' : String) : Prop := key = key' ∨ ∃ o : Operator, key ∈ o.keys ∧ key' ∈ o.keys

/-- An entry of an object that is the condition of a field. It is respelled in its key, if that is
the key of an operator, or else in its value, which is given for a continued path. -/
inductive PartSpelling (S : Value → Value → Prop) : String × Value → String × Value → Prop
  | key {key key' : String} (same : SameKey key key') (operand : Value) :
    PartSpelling S (key, operand) (key', operand)
  | value {key : String} (isField : isKeywordKey key = false) {v w : Value} (respelled : S v w) :
    PartSpelling S (key, v) (key, w)

/-- A condition in another spelling: a bare scalar with the operator for equality, a bare list with
the operator `onList`, or an object whose entries are respelled. -/
inductive ConditionSpelling (onList : Operator) : Value → Value → Prop
  | same (v : Value) : ConditionSpelling onList v v
  | scalar {v : Value} (isScalar : v.isScalar = true) :
    ConditionSpelling onList v ((Operator.compare .eq).condition v)
  | list (items : List Value) :
    ConditionSpelling onList (.list items) (onList.condition (.list items))
  | object {xs ys : List (String × Value)}
    (parts : List.Forall₂ (PartSpelling (ConditionSpelling onList)) xs ys) :
    ConditionSpelling onList (.object xs) (.object ys)

/-- The name of a field in another spelling: another name of the collections, or the JSON column
before a path that stands alone. -/
inductive NameSpelling (config : Config) : String → String → Prop
  | same (key : String) : NameSpelling config key key
  | collection {key key' : String} (isCollection : key ∈ Target.collectionFields)
    (isCollection' : key' ∈ Target.collectionFields) : NameSpelling config key key'
  | column {key : String} {path : List String} (nonempty : key ≠ "")
    (addressed : config.target? key = some (.metadata path))
    (alone : (segments key).head? ≠ some config.jsonColumn) :
    NameSpelling config key (config.jsonColumn ++ "." ++ key)

/-- An element of a group whose entries are respelled. -/
inductive ElementSpelling (S : String × Value → String × Value → Prop) : Value → Value → Prop
  | same (v : Value) : ElementSpelling S v v
  | object {xs ys : List (String × Value)} (entries : List.Forall₂ S xs ys) :
    ElementSpelling S (.object xs) (.object ys)

/-- An entry of a filter in another spelling: a field, in its name and in its condition as its
target asks for it, or a group, in its elements. -/
inductive EntrySpelling (config : Config) : String × Value → String × Value → Prop
  | same (entry : String × Value) : EntrySpelling config entry entry
  | field {key key' : String} {v w : Value} (isField : isKeywordKey key = false)
    (name : NameSpelling config key key')
    (condition : ∀ target, config.target? key = some target →
      ConditionSpelling (listOperator target) v w) :
    EntrySpelling config (key, v) (key', w)
  | group {key : String} {items items' : List Value} (isGroup : isKeywordKey key = true)
    (elements : List.Forall₂ (ElementSpelling (EntrySpelling config)) items items') :
    EntrySpelling config (key, .list items) (key, .list items')

/-! ## Keys -/

/-- Which of two spellings of a key comes first does not matter. -/
theorem SameKey.symm {key key' : String} (h : SameKey key key') : SameKey key' key := by
  rcases h with rfl | ⟨o, left, right⟩
  · exact .inl rfl
  · exact .inr ⟨o, right, left⟩

/-- Two spellings of a key are the same keyword, or none. -/
theorem SameKey.ofKey?_eq {key key' : String} (h : SameKey key key') :
    Keyword.ofKey? key = Keyword.ofKey? key' := by
  rcases h with rfl | ⟨o, left, right⟩
  · rfl
  · rw [ofKey?_eq_operator_iff.2 left, ofKey?_eq_operator_iff.2 right]

/-- Two spellings of a key are keywords both or neither. -/
theorem SameKey.isKeywordKey_eq {key key' : String} (h : SameKey key key') :
    isKeywordKey key = isKeywordKey key' := by
  rcases h with rfl | ⟨o, left, right⟩
  · rfl
  · rw [isKeywordKey_of_ofKey? (ofKey?_eq_operator_iff.2 left),
      isKeywordKey_of_ofKey? (ofKey?_eq_operator_iff.2 right)]

/-- A key without the form of a keyword has no other spelling. -/
theorem SameKey.eq_of_isField {key key' : String} (h : SameKey key key')
    (isField : isKeywordKey key = false) : key = key' := by
  rcases h with rfl | ⟨o, left, -⟩
  · rfl
  · rw [isKeywordKey_of_ofKey? (ofKey?_eq_operator_iff.2 left)] at isField
    cases isField

/-! ## Shapes -/

section

variable {S : Value → Value → Prop}

/-- Which of two spellings of a part comes first does not matter, if their values are turned around
as well. -/
theorem PartSpelling.symm {part part' : String × Value} (h : PartSpelling S part part') :
    PartSpelling (flip S) part' part := by
  cases h with
  | key same operand => exact .key same.symm operand
  | value isField respelled => exact .value isField respelled

/-- Two spellings of a part have keywords for keys both or neither. -/
theorem PartSpelling.isKeywordKey_eq {part part' : String × Value} (h : PartSpelling S part part') :
    isKeywordKey part.1 = isKeywordKey part'.1 := by
  cases h with
  | key same operand => exact same.isKeywordKey_eq
  | value isField respelled => rfl

/-- Parts without keywords are respelled in their values. -/
theorem entryLike_of_parts (refl : ∀ v, S v v) {xs ys : List (String × Value)}
    (parts : List.Forall₂ (PartSpelling S) xs ys)
    (isField : ∀ entry ∈ xs, isKeywordKey entry.1 = false) :
    List.Forall₂ (EntryLike S) xs ys ∧ ∀ entry ∈ ys, isKeywordKey entry.1 = false := by
  induction parts with
  | nil => exact ⟨.nil, List.forall_mem_nil _⟩
  | cons first _ ih =>
    obtain ⟨isFirst, areOthers⟩ := List.forall_mem_cons.1 isField
    obtain ⟨others, areOthers'⟩ := ih areOthers
    have isFirst' := first.isKeywordKey_eq.symm.trans isFirst
    refine ⟨.cons ?_ others, List.forall_mem_cons.2 ⟨isFirst', areOthers'⟩⟩
    cases first with
    | key same operand =>
      obtain rfl := same.eq_of_isField isFirst
      exact .mk _ (refl operand)
    | value _ respelled => exact .mk _ respelled

/-- Shapes that ask for the same operator with the same operand, or that continue a path by the same
keys with related values. -/
inductive Spec.Equivalent (S : Value → Value → Prop) (onList : Operator) : Spec → Spec → Prop
  | operation {spec spec' : Spec} {o : Operator} {operand : Value}
    (left : spec.operation? onList = some (o, operand))
    (right : spec'.operation? onList = some (o, operand)) : Equivalent S onList spec spec'
  | path {xs ys : List (String × Value)} (related : List.Forall₂ (EntryLike S) xs ys) :
    Equivalent S onList (.path xs) (.path ys)

/-- A shape is equivalent to itself. -/
theorem Spec.Equivalent.refl (refl : ∀ v, S v v) (onList : Operator) (spec : Spec) :
    Equivalent S onList spec spec := by
  cases spec with
  | path xs => exact .path (List.forall₂_same.2 fun entry _ => .mk entry.1 (refl entry.2))
  | _ => exact .operation rfl rfl

/-- An object whose parts are respelled has an equivalent shape. -/
theorem Spec.parse_parts_ok (refl : ∀ v, S v v) (onList : Operator) {label : String}
    (label' : String) {xs ys : List (String × Value)}
    (parts : List.Forall₂ (PartSpelling S) xs ys) {spec : Spec}
    (parsed : Spec.parse label (.object xs) = .ok spec) :
    ∃ spec', Spec.parse label' (.object ys) = .ok spec' ∧
      Spec.Equivalent S onList spec spec' := by
  rcases Spec.ofEntries_ok parsed with
    ⟨rfl, nonempty, isField⟩ | ⟨key, operand, o, rfl, found, rfl⟩
  · obtain ⟨related, isField'⟩ := entryLike_of_parts refl parts isField
    have nonempty' : ys ≠ [] := by
      rintro rfl
      cases related
      exact nonempty rfl
    exact ⟨.path ys, Spec.parse_path_iff.2 ⟨rfl, nonempty', isField'⟩, .path related⟩
  · obtain ⟨part, rest, first, others, rfl⟩ := List.forall₂_cons_left_iff.1 parts
    obtain rfl := List.forall₂_nil_left_iff.1 others
    cases first with
    | key same =>
      have found' := same.ofKey?_eq.symm.trans found
      exact ⟨_, Spec.parse_operator_iff.2 ⟨_, rfl, found'⟩, .operation rfl rfl⟩
    | value isField _ =>
      rw [isKeywordKey_of_ofKey? found] at isField
      cases isField

end

/-- A condition with one operator has the shape of this operator. -/
theorem Spec.parse_condition (label : String) (o : Operator) (operand : Value) :
    Spec.parse label (o.condition operand) = .ok (.operator o operand) := by
  have isKey : Keyword.ofKey? o.key = some (.operator o) := by
    cases o with
    | compare c => cases c <;> rfl
    | pattern p => cases p <;> rfl
    | _ => rfl
  exact Spec.parse_operator_iff.2 ⟨_, rfl, isKey⟩

/-- A condition in another spelling has an equivalent shape, or both have none. -/
theorem Spec.parse_respelled (label label' : String) {onList : Operator}
    {v w : Value} (h : ConditionSpelling onList v w) :
    Agree (fun _ _ => True) (Spec.Equivalent (ConditionSpelling onList) onList)
      (Spec.parse label v) (Spec.parse label' w) := by
  have refl := @ConditionSpelling.same onList
  cases h with
  | same =>
    apply agree_of_ok
    · intro spec parsed
      exact ⟨spec, Spec.parse_ok_relabel parsed, .refl refl onList spec⟩
    · rintro ⟨spec, parsed⟩
      exact ⟨spec, Spec.parse_ok_relabel parsed⟩
  | scalar isScalar =>
    have bare : Spec.parse label v = .ok (.literal v) :=
      Spec.parse_literal_iff.2 ⟨rfl, Value.ne_object_of_isScalar isScalar⟩
    have operation : (Spec.literal v).operation? onList = some (.compare .eq, v) := by
      rw [Spec.operation?, if_pos isScalar]
    rw [bare, Spec.parse_condition]
    exact .ok (.operation operation rfl)
  | list items =>
    rw [Spec.parse_condition]
    exact .ok (.operation rfl rfl)
  | object parts =>
    apply agree_of_ok
    · intro spec parsed
      exact Spec.parse_parts_ok refl onList label' parts parsed
    · rintro ⟨spec, parsed⟩
      -- That the second spelling is refused where the first is follows from the first part, with
      -- the spellings turned around.
      have parts' := (parts.imp fun _ _ => PartSpelling.symm).flip
      obtain ⟨spec', parsed', -⟩ :=
        Spec.parse_parts_ok (S := flip _) refl onList label parts' parsed
      exact ⟨spec', parsed'⟩

/-! ## Names -/

/-- The names of the collections address them, under every configuration. -/
theorem Config.target?_of_collection {config : Config} {key : String}
    (isCollection : key ∈ Target.collectionFields) : config.target? key = some .collection := by
  rw [Config.target?, Target.ofField?, if_pos (by simpa using isCollection)]

/-- The names of a field in its spellings address the same. -/
theorem NameSpelling.target?_eq {config : Config} (valid : config.Valid) {key key' : String}
    (h : NameSpelling config key key') : config.target? key = config.target? key' := by
  cases h with
  | same => rfl
  | collection isCollection isCollection' =>
    rw [config.target?_of_collection isCollection, config.target?_of_collection isCollection']
  | column nonempty addressed alone =>
    have noDot := dot_notMem_of_isIdentifier valid.1
    obtain ⟨-, hasPath⟩ := Target.ofField?_eq_metadata_iff.1 addressed
    have segmented := (Target.metadataPath?_of_head? noDot alone nonempty).1 hasPath
    have hasPath' : Target.metadataPath? config.jsonColumn (config.jsonColumn ++ "." ++ key) =
        some _ := Target.metadataPath?_column_dot.2 segmented
    have left := Target.isLeft_column_dot config.columns noDot key
    exact addressed.trans (Target.ofField?_eq_metadata_iff.2 ⟨left, hasPath'⟩).symm

/-- Only the collections and paths inside the JSON column have names with several spellings. -/
theorem NameSpelling.eq_of_target? {config : Config} {key key' : String} {target : Target}
    (h : NameSpelling config key key') (addressed : config.target? key = some target)
    (notCollection : target ≠ .collection) (notMetadata : ∀ path, target ≠ .metadata path) :
    key = key' := by
  cases h with
  | same => rfl
  | collection isCollection _ =>
    rw [config.target?_of_collection isCollection] at addressed
    exact absurd (Option.some.inj addressed).symm notCollection
  | column _ addressed' _ =>
    rw [addressed'] at addressed
    exact absurd (Option.some.inj addressed).symm (notMetadata _)

/-- No spelling of the name of a field has the form of a keyword. -/
theorem NameSpelling.isField {config : Config} (valid : config.Valid) {key key' : String}
    (h : NameSpelling config key key') (isField : isKeywordKey key = false) :
    isKeywordKey key' = false := by
  have notKeyword : ∀ key ∈ Target.collectionFields, isKeywordKey key = false := by decide
  cases h with
  | same => exact isField
  | collection _ isCollection' => exact notKeyword key' isCollection'
  | column _ _ _ =>
    rw [isKeywordKey_append_dot (isSegment_of_isIdentifier valid.1).1]
    exact isKeywordKey_of_isIdentifier valid.1

namespace Compile

variable {config : Config} {levels : Nat}

/-! ## Conditions -/

/-- The name that is given to refusals does not matter for an identifier. -/
theorem uuidOperand_relabel (field field' : String) (v : Value) :
    SameResult (uuidOperand field v) (uuidOperand field' v) := by
  unfold uuidOperand
  split
  · split
    · exact .refl _
    · exact sameResult_error _ _
  · exact sameResult_error _ _

/-- The name that is given to refusals does not matter for a list. -/
theorem listOperand_relabel (field field' : String) (o : Operator) (v : Value) :
    SameResult (listOperand field o v) (listOperand field' o v) := by
  unfold listOperand
  split
  · exact .refl _
  · exact sameResult_error _ _

/-- The condition of an operator on the collections does not depend on the name that is given to
refusals. -/
theorem collectionOperation_relabel (field field' : String) (o : Operator) (v : Value) :
    SameResult (collectionOperation field o v) (collectionOperation field' o v) := by
  have single {v : Value} {make : Uuid → Fragment} :
      SameResult (uuidOperand field v >>= fun id => pure (make id))
        (uuidOperand field' v >>= fun id => pure (make id)) :=
    (uuidOperand_relabel field field' v).bind fun id => .refl _
  have list {items : List Value} {make : List Uuid → Fragment} :
      SameResult (items.mapM (uuidOperand field) >>= fun ids => pure (make ids))
        (items.mapM (uuidOperand field') >>= fun ids => pure (make ids)) :=
    (sameResult_mapM (uuidOperand_relabel field field') items).bind fun ids => .refl _
  have within {o : Operator} {make : List Uuid → Fragment} :
      SameResult (listOperand field o v >>= fun items =>
          items.mapM (uuidOperand field) >>= fun ids => pure (make ids))
        (listOperand field' o v >>= fun items =>
          items.mapM (uuidOperand field') >>= fun ids => pure (make ids)) :=
    (listOperand_relabel field field' o v).bind fun items => list
  cases o with
  | compare c =>
    cases c with
    | eq =>
      cases v with
      | null => exact .refl _
      | list items => exact list
      | _ => exact single
    | ne =>
      cases v with
      | null => exact .refl _
      | list items => exact list
      | _ => exact single
    | _ => cases v <;> exact sameResult_error _ _
  | pattern p => cases v <;> exact sameResult_error _ _
  | within => exact within
  | without => exact within
  | overlap => exact within
  | contains =>
    cases v with
    | list items => exact list
    | _ => exact single

/-- The keys below a path have the same conditions if their values do. -/
theorem childConditions_respelled {path : List String} {S : Value → Value → Prop}
    (value : ∀ (label : String) (path : List String) {v w : Value}, S v w →
      SameResult (metadataCondition config levels label path v)
        (metadataCondition config levels label path w))
    {xs ys : List (String × Value)} (related : List.Forall₂ (EntryLike S) xs ys) :
    SameResult (childConditions config levels path xs) (childConditions config levels path ys) := by
  induction related with
  | nil => exact .refl _
  | cons first _ ih =>
    obtain ⟨key, related⟩ := first
    rw [childConditions, childConditions]
    refine (SameResult.refl (childPath config.jsonColumn path key)).bind fun child => ?_
    exact (value _ child related).bind fun c => ih.bind fun cs => .refl _

/-- A condition on a path inside the JSON column is the same in another spelling. -/
theorem metadataCondition_respelled (label label' : String) (path : List String) {v w : Value}
    (h : ConditionSpelling .within v w) :
    SameResult (metadataCondition config levels label path v)
      (metadataCondition config levels label' path w) := by
  -- Keys that continue the path take one level, so their values are those of the induction
  -- hypothesis.
  induction levels generalizing label label' path v w with
  | zero =>
    rw [metadataCondition_eq, metadataCondition_eq]
    refine (Spec.parse_respelled label label' h).bind_sameResult fun spec spec' equivalent => ?_
    cases equivalent with
    | operation left right =>
      rw [shapeCondition_of_operation left, shapeCondition_of_operation right]
      exact .refl _
    | path related => exact sameResult_error _ _
  | succ levels ih =>
    rw [metadataCondition_eq, metadataCondition_eq]
    refine (Spec.parse_respelled label label' h).bind_sameResult fun spec spec' equivalent => ?_
    cases equivalent with
    | operation left right =>
      rw [shapeCondition_of_operation left, shapeCondition_of_operation right]
      exact .refl _
    | @path xs ys related =>
      have children : SameResult (childConditions config levels path xs)
          (childConditions config levels path ys) :=
        childConditions_respelled (fun label path => ih label label path) related
      exact children.bind fun cs => .refl _

/-- A condition outside the JSON column is the same in another spelling, if each operator has the
same condition for both names. -/
theorem shape_respelled {key key' : String} {onList : Operator}
    {build build' : Operator → Value → Except CompileError Fragment}
    {refusal refusal' : CompileError}
    (each : ∀ o operand, SameResult (build o operand) (build' o operand))
    {v w : Value} (h : ConditionSpelling onList v w) :
    SameResult
      (Spec.parse key v >>= fun spec =>
        match spec.operation? onList with
        | some (o, operand) => build o operand
        | none => .error refusal)
      (Spec.parse key' w >>= fun spec =>
        match spec.operation? onList with
        | some (o, operand) => build' o operand
        | none => .error refusal') := by
  refine (Spec.parse_respelled key key' h).bind_sameResult fun spec spec' equivalent => ?_
  cases equivalent with
  | operation left right =>
    rw [left, right]
    exact each _ _
  | path related => exact sameResult_error _ _

/-! ## Entries -/

/-- A field has the same condition in another spelling. -/
theorem fieldCondition_respelled (valid : config.Valid) {key key' : String} {v w : Value}
    (name : NameSpelling config key key')
    (condition : ∀ target, config.target? key = some target →
      ConditionSpelling (listOperator target) v w) :
    SameResult (fieldCondition config levels key v) (fieldCondition config levels key' w) := by
  have sameTarget := name.target?_eq valid
  unfold fieldCondition
  rw [← sameTarget]
  cases addressed : config.target? key with
  | none => exact sameResult_error _ _
  | some target =>
    have respelled := condition target addressed
    cases target with
    | metadata path => exact metadataCondition_respelled key key' path respelled
    | collection => exact shape_respelled (collectionOperation_relabel key key') respelled
    | column column =>
      obtain rfl := name.eq_of_target? addressed nofun nofun
      exact shape_respelled (fun o operand => .refl _) respelled
    | parent =>
      obtain rfl := name.eq_of_target? addressed nofun nofun
      exact shape_respelled (fun o operand => .refl _) respelled

/-- Entries have the same fields in another spelling. -/
theorem fieldConditions_respelled (valid : config.Valid) {xs ys : List (String × Value)}
    (respelled : List.Forall₂ (EntrySpelling config) xs ys) :
    SameResult (fieldConditions config levels xs) (fieldConditions config levels ys) := by
  induction respelled with
  | nil => exact .refl _
  | @cons entry _ _ _ first _ ih =>
    cases first with
    | same =>
      obtain ⟨key, v⟩ := entry
      rw [fieldConditions, fieldConditions]
      refine sameResult_ite Iff.rfl ih ?_
      exact (SameResult.refl _).bind fun c => ih.bind fun cs => .refl _
    | field isField name condition =>
      have isField' := name.isField valid isField
      rw [fieldConditions, fieldConditions, if_neg (by simp [isField]), if_neg (by simp [isField'])]
      exact (fieldCondition_respelled valid name condition).bind fun c =>
        ih.bind fun cs => .refl _
    | group isGroup _ =>
      rw [fieldConditions, fieldConditions, if_pos isGroup, if_pos isGroup]
      exact ih

/-- The elements of a group have the same conditions in another spelling, if their groups do. -/
theorem elementConditions_respelled (valid : config.Valid) (k : Connective)
    (groups : ∀ {xs ys : List (String × Value)}, List.Forall₂ (EntrySpelling config) xs ys →
      SameResult (groupConditions config levels xs) (groupConditions config levels ys))
    {items items' : List Value}
    (respelled : List.Forall₂ (ElementSpelling (EntrySpelling config)) items items') :
    SameResult (elementConditions config levels k items)
      (elementConditions config levels k items') := by
  induction respelled with
  | nil => exact .refl _
  | @cons v _ _ _ first _ ih =>
    cases first with
    | same =>
      cases v with
      | object entries =>
        rw [elementConditions, elementConditions]
        exact (SameResult.refl _).bind fun gs => (SameResult.refl _).bind fun fs =>
          ih.bind fun cs => .refl _
      | _ =>
        rw [elementConditions_of_not_object (by simp), elementConditions_of_not_object (by simp)]
        exact .refl _
    | object entries =>
      rw [elementConditions, elementConditions]
      exact (groups entries).bind fun gs => (fieldConditions_respelled valid entries).bind fun fs =>
        ih.bind fun cs => .refl _

/-- Entries have the same groups in another spelling. -/
theorem groupConditions_respelled (valid : config.Valid) {xs ys : List (String × Value)}
    (respelled : List.Forall₂ (EntrySpelling config) xs ys) :
    SameResult (groupConditions config levels xs) (groupConditions config levels ys) := by
  -- The elements of a group are compiled with one level less, the groups beside it with as many.
  induction levels using Nat.strongRecOn generalizing xs ys with
  | ind levels below =>
    induction respelled with
    | nil => exact .refl _
    | @cons entry _ _ _ first _ ih =>
      cases first with
      | same =>
        obtain ⟨key, v⟩ := entry
        rw [groupConditions, groupConditions]
        refine sameResult_ite Iff.rfl ?_ ih
        exact (SameResult.refl _).bind fun k => (SameResult.refl _).bind fun c =>
          ih.bind fun cs => .refl _
      | field isField name _ =>
        have isField' := name.isField valid isField
        rw [groupConditions, groupConditions, if_neg (by simp [isField]),
          if_neg (by simp [isField'])]
        exact ih
      | group isGroup elements =>
        rw [groupConditions, groupConditions, if_pos isGroup, if_pos isGroup]
        refine (SameResult.refl _).bind fun k => SameResult.bind ?_ fun c =>
          ih.bind fun cs => .refl _
        cases levels with
        | zero =>
          rw [groupCondition_zero, groupCondition_zero]
          exact .refl _
        | succ rest =>
          have inside := elementConditions_respelled valid k (below rest (Nat.lt_succ_self rest))
            elements
          rw [groupCondition, groupCondition]
          exact inside.bind fun cs => .refl _

end Compile

/-- Spellings are interchangeable: a filter that is respelled at any number of places compiles to
the same statement, and is refused if the other is. -/
theorem compile_respelled {compiler : Compiler} {f f' : Filter}
    (respelled : List.Forall₂ (EntrySpelling compiler.config) f.entries f'.entries)
    (given : ParamList) (mode : Mode) (s : Statement) :
    compiler.compile f given mode = .ok s ↔ compiler.compile f' given mode = .ok s := by
  have conditions : SameResult (filterCondition compiler.config f)
      (filterCondition compiler.config f') :=
    (groupConditions_respelled compiler.valid respelled).bind fun gs =>
      (fieldConditions_respelled compiler.valid respelled).bind fun fs => .refl _
  have sameMode : statementOf mode f given = statementOf mode f' given := by
    funext c
    apply statementOf_congr
    obtain ⟨xs⟩ := f
    obtain ⟨ys⟩ := f'
    cases respelled <;> rfl
  rw [compile_eq, compile_eq, sameMode]
  exact conditions.map s

/-- A filter in short spellings: a bare list, a path without the JSON column, and bare values below
a path. -/
def terse : Filter :=
  ⟨[("collection_id", .list [.string "550e8400-e29b-41d4-a716-446655440000"]),
    ("$or", .list [.object [("tags", .object [("$contains", .string "new")])],
      .object [("author", .object [("age", .signed 30), ("name", .list [.string "Ann"])])]])]⟩

/-- The same filter in long spellings. -/
def verbose : Filter :=
  ⟨[("collection_ids",
      .object [("$overlap", .list [.string "550e8400-e29b-41d4-a716-446655440000"])]),
    ("$or", .list [.object [("metadata.tags", .object [("$array_contains", .string "new")])],
      .object [("author", .object [("age", .object [("$eq", .signed 30)]),
        ("name", .object [("$in", .list [.string "Ann"])])])]])]⟩

/-- The long spellings compile to the same statement. -/
theorem verbose_compiles :
    List.Forall₂ (EntrySpelling Compiler.default.config) terse.entries verbose.entries ∧
      Compiler.default.compile terse ⟨[.null]⟩ .whereClause =
        .ok ⟨"WHERE ((metadata->'tags' @> $2::jsonb) OR " ++
          "(((metadata->'author'->>'age')::numeric = $3) AND " ++
          "((metadata->'author'->>'name') IN ($4)))) AND " ++
          "(collection_ids && ARRAY[$5]::uuid[])",
          ⟨[.null, .json "\"new\"", .signed 30, .text "Ann",
            .text "550e8400-e29b-41d4-a716-446655440000"]⟩⟩ ∧
      Compiler.default.compile verbose ⟨[.null]⟩ .whereClause =
        Compiler.default.compile terse ⟨[.null]⟩ .whereClause := by
  have collections : EntrySpelling Compiler.default.config
      ("collection_id", .list [.string "550e8400-e29b-41d4-a716-446655440000"])
      ("collection_ids",
        .object [("$overlap", .list [.string "550e8400-e29b-41d4-a716-446655440000"])]) := by
    refine .field (by decide) (.collection (by decide) (by decide)) fun target addressed => ?_
    rw [Config.target?_of_collection (by decide)] at addressed
    cases addressed
    exact .list _
  have tags : EntrySpelling Compiler.default.config
      ("tags", .object [("$contains", .string "new")])
      ("metadata.tags", .object [("$array_contains", .string "new")]) := by
    have addressed : Compiler.default.config.target? "tags" = some (.metadata ["tags"]) := by
      decide +kernel
    have name : NameSpelling Compiler.default.config "tags" "metadata.tags" :=
      .column (by decide) addressed (by decide)
    have sameKey : SameKey "$contains" "$array_contains" := .inr ⟨.contains, by decide, by decide⟩
    exact .field (by decide) name fun _ _ => .object (.cons (.key sameKey _) .nil)
  have author : EntrySpelling Compiler.default.config
      ("author", .object [("age", .signed 30), ("name", .list [.string "Ann"])])
      ("author", .object [("age", .object [("$eq", .signed 30)]),
        ("name", .object [("$in", .list [.string "Ann"])])]) := by
    have addressed : Compiler.default.config.target? "author" = some (.metadata ["author"]) := by
      decide +kernel
    refine .field (by decide) (.same _) fun target addressed' => ?_
    cases addressed.symm.trans addressed'
    exact .object (.cons (.value (by decide) (.scalar rfl))
      (.cons (.value (by decide) (.list _)) .nil))
  have respelled : List.Forall₂ (EntrySpelling Compiler.default.config) terse.entries
      verbose.entries :=
    .cons collections (.cons (.group (by decide)
      (.cons (.object (.cons tags .nil)) (.cons (.object (.cons author .nil)) .nil))) .nil)
  have compiled : Compiler.default.compile terse ⟨[.null]⟩ .whereClause =
      .ok ⟨"WHERE ((metadata->'tags' @> $2::jsonb) OR (((metadata->'author'->>'age')::numeric = " ++
        "$3) AND ((metadata->'author'->>'name') IN ($4)))) AND " ++
        "(collection_ids && ARRAY[$5]::uuid[])",
        ⟨[.null, .json "\"new\"", .signed 30, .text "Ann",
          .text "550e8400-e29b-41d4-a716-446655440000"]⟩⟩ := by
    decide +kernel
  have respelledCompiled := (compile_respelled respelled ⟨[.null]⟩ .whereClause _).1 compiled
  exact ⟨respelled, compiled, respelledCompiled.trans compiled.symm⟩

end FilterSql
