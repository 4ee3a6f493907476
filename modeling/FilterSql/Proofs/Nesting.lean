import FilterSql.Proofs.Acceptance
import FilterSql.Proofs.Compile.Refusal
import FilterSql.Proofs.Compile.Text

/-!
# Levels of nesting

Groups and continuations of paths nest. The level of one of them is one more than the number of
those around it; dots in keys and objects behind operators make no level. The limit of a
configuration is exact: a filter that compiles has no level beyond it, and a filter that is
refused for its depth is refused with that limit and has a level beyond it (`depth_ceiling`).
-/

set_option autoImplicit false

namespace FilterSql

open Compile

/-! ## The levels of a filter -/

/-- The levels of the continuations in a value that is given for a path, `enclosing` groups and
continuations standing around it. A value continues the path if it is an object with keys, none of
which has the form of a keyword. -/
inductive HasContinuation : (enclosing : Nat) → Value → (level : Nat) → Prop
  | here {enclosing : Nat} {entries : List (String × Value)} (nonempty : entries ≠ [])
      (plain : ∀ entry ∈ entries, isKeywordKey entry.1 = false) :
      HasContinuation enclosing (.object entries) (enclosing + 1)
  | under {enclosing level : Nat} {entries : List (String × Value)} {key : String} {v : Value}
      (plain : ∀ entry ∈ entries, isKeywordKey entry.1 = false) (mem : (key, v) ∈ entries)
      (inner : HasContinuation (enclosing + 1) v level) :
      HasContinuation enclosing (.object entries) level

/-- The levels of the groups and continuations in a list of entries, `enclosing` of them standing
around it. An entry under a connective is a group, whatever stands behind the key. -/
inductive HasLevel (config : Config) :
    (enclosing : Nat) → List (String × Value) → (level : Nat) → Prop
  | group {enclosing : Nat} {entries : List (String × Value)} {key : String} {v : Value}
      (mem : (key, v) ∈ entries) (isGroup : key ∈ ["$and", "$or"]) :
      HasLevel config enclosing entries (enclosing + 1)
  | inGroup {enclosing level : Nat} {entries : List (String × Value)} {key : String}
      {items : List Value} {sub : List (String × Value)} (mem : (key, .list items) ∈ entries)
      (isGroup : key ∈ ["$and", "$or"]) (element : .object sub ∈ items)
      (inner : HasLevel config (enclosing + 1) sub level) : HasLevel config enclosing entries level
  | onPath {enclosing level : Nat} {entries : List (String × Value)} {key : String} {v : Value}
      {path : List String} (mem : (key, v) ∈ entries) (isField : isKeywordKey key = false)
      (addressed : config.target? key = some (.metadata path))
      (inner : HasContinuation enclosing v level) : HasLevel config enclosing entries level

/-- A level that some of the entries have is one that all of them have. -/
theorem HasLevel.mono {config : Config} {enclosing level : Nat}
    {entries entries' : List (String × Value)} (h : HasLevel config enclosing entries level)
    (sub : entries ⊆ entries') : HasLevel config enclosing entries' level := by
  cases h with
  | group mem isGroup => exact .group (sub mem) isGroup
  | inGroup mem isGroup element inner => exact .inGroup (sub mem) isGroup element inner
  | onPath mem isField addressed inner => exact .onPath (sub mem) isField addressed inner

/-! ## What compiles stays within the limit -/

section

variable {config : Config} {depth level : Nat}

/-- An object that continues a path is no operand, and has no operator. -/
theorem not_conforms_of_plain {onList : Operator} {Operand : Operator → Value → Prop}
    {entries : List (String × Value)} (plain : ∀ entry ∈ entries, isKeywordKey entry.1 = false) :
    ¬ Conforms onList Operand (.object entries) := by
  intro conforms
  cases conforms with
  | scalar isScalar operand => cases isScalar
  | operator isKey operand =>
    have keyword := isKeywordKey_of_ofKey? (ofKey?_eq_operator_iff.2 isKey)
    rw [plain _ List.mem_cons_self] at keyword
    cases keyword

/-- The grammar of values on paths keeps within the limit. -/
theorem MetadataGrammar.level_le {v : Value} (h : MetadataGrammar config depth v)
    (hasLevel : HasContinuation depth v level) : level ≤ config.maxDepth := by
  induction hasLevel with
  | here nonempty plain =>
    cases h with
    | operand conforms => exact absurd conforms (not_conforms_of_plain plain)
    | path within _ _ _ _ => exact within
  | under plain mem inner ih =>
    cases h with
    | operand conforms => exact absurd conforms (not_conforms_of_plain plain)
    | path _ _ _ _ children => exact ih (children _ mem)

/-- The grammar of filters keeps within the limit. -/
theorem EntryGrammar.level_le {entries : List (String × Value)}
    (h : ∀ entry ∈ entries, EntryGrammar config depth entry.1 entry.2)
    (hasLevel : HasLevel config depth entries level) : level ≤ config.maxDepth := by
  have keyword : ∀ {key}, key ∈ ["$and", "$or"] → ¬ isKeywordKey key = false := by
    intro key isGroup isField
    obtain ⟨k, isConnective⟩ := exists_connective_iff.2 isGroup
    rw [isKeywordKey_of_ofKey? isConnective] at isField
    cases isField
  induction hasLevel with
  | group mem isGroup =>
    cases h _ mem with
    | field isField _ => exact absurd isField (keyword isGroup)
    | group _ within _ _ => exact within
  | inGroup mem isGroup element inner ih =>
    cases h _ mem with
    | field isField _ => exact absurd isField (keyword isGroup)
    | group _ _ _ elements => exact ih (elements _ element)
  | onPath mem isField addressed inner =>
    cases h _ mem with
    | field _ grammar =>
      rw [FieldGrammar, addressed] at grammar
      exact grammar.level_le inner
    | group isGroup _ _ _ => exact absurd isField (keyword isGroup)

end

/-! ## What is refused for its depth exceeds the limit -/

/-- A refusal that, if it is for the depth, gives the limit, and there is a level beyond it. -/
def JustifiedBy (maxDepth : Nat) (hasLevel : Nat → Prop) (e : CompileError) : Prop :=
  ∀ d, e = .tooDeep d → d = maxDepth ∧ ∃ level, hasLevel level ∧ maxDepth < level

section

variable {config : Config} {levels enclosing : Nat}

/-- More levels justify more refusals. -/
theorem Refuses.justified_mono {α : Type} {x : Except CompileError α} {maxDepth : Nat}
    {hasLevel hasLevel' : Nat → Prop} (h : Refuses x (JustifiedBy maxDepth hasLevel))
    (more : ∀ level, hasLevel level → hasLevel' level) :
    Refuses x (JustifiedBy maxDepth hasLevel') := by
  intro e refused d isDepth
  obtain ⟨same, level, has, beyond⟩ := h e refused d isDepth
  exact ⟨same, level, more level has, beyond⟩

/-- A refusal for anything else than the depth needs no level. -/
theorem justifiedBy_of_ne {maxDepth : Nat} {hasLevel : Nat → Prop} {e : CompileError}
    (other : ∀ d, e ≠ .tooDeep d) : JustifiedBy maxDepth hasLevel e :=
  fun d isDepth => absurd isDepth (other d)

/-- What is refused for its operator or its operand is not refused for its depth. -/
theorem CompileError.OnOperand.ne_tooDeep {field : String} {e : CompileError}
    (h : e.OnOperand field) (d : Nat) : e ≠ .tooDeep d := by
  rintro rfl
  cases h

/-- A value without a shape is refused for its form. -/
theorem parse_refuses {label : String} {v : Value} {hasLevel : Nat → Prop} :
    Refuses (Spec.parse label v) (JustifiedBy config.maxDepth hasLevel) := by
  unfold Spec.parse
  split
  · simp only [Spec.ofEntries]
    split
    · exact refuses_error (justifiedBy_of_ne (by simp))
    · exact refuses_ok _
    · split
      · exact refuses_error (justifiedBy_of_ne (by simp))
      · exact refuses_error (justifiedBy_of_ne (by simp))
      · exact refuses_ok _
    · split
      · exact refuses_error (justifiedBy_of_ne (by simp))
      · exact refuses_error (justifiedBy_of_ne (by simp))
  · exact refuses_ok _

/-- What justifies refusing the value of each key justifies refusing the children of a path. -/
theorem childConditions_refuses {path : List String} {entries : List (String × Value)}
    {hasLevel : Nat → Prop}
    (each : ∀ entry ∈ entries, ∀ label path,
      Refuses (metadataCondition config levels label path entry.2)
        (JustifiedBy config.maxDepth hasLevel)) :
    Refuses (childConditions config levels path entries)
      (JustifiedBy config.maxDepth hasLevel) := by
  induction entries with
  | nil => exact refuses_ok _
  | cons entry rest ih =>
    obtain ⟨key, v⟩ := entry
    obtain ⟨first, others⟩ := List.forall_mem_cons.1 each
    rw [childConditions]
    refine Refuses.bind ?_ fun child _ => (first _ child).bind fun c _ => (ih others).bind
      fun cs _ => refuses_pure _
    unfold childPath
    exact refuses_ite (refuses_ok _) (refuses_error (justifiedBy_of_ne (by simp)))

/-- What justifies refusing a continuation of a path justifies refusing a value given for it. -/
theorem metadataCondition_refuses_of {label : String} {path : List String} {v : Value}
    {hasLevel : Nat → Prop}
    (continued : ∀ entries, v = .object entries → entries ≠ [] →
      (∀ entry ∈ entries, isKeywordKey entry.1 = false) →
      Refuses (pathCondition config levels path entries) (JustifiedBy config.maxDepth hasLevel)) :
    Refuses (metadataCondition config levels label path v)
      (JustifiedBy config.maxDepth hasLevel) := by
  rw [metadataCondition_eq]
  refine parse_refuses.bind fun spec parsed => ?_
  cases spec with
  | literal w => exact metadataOperation_refuses.mono fun e h => justifiedBy_of_ne h.ne_tooDeep
  | operator o operand =>
    exact metadataOperation_refuses.mono fun e h => justifiedBy_of_ne h.ne_tooDeep
  | path entries =>
    obtain ⟨isObject, nonempty, plain⟩ := Spec.parse_path_iff.1 parsed
    exact continued entries isObject nonempty plain

/-- A value on a path is refused for its depth only if a continuation is beyond the limit. -/
theorem metadataCondition_refuses (total : levels + enclosing = config.maxDepth) {label : String}
    {path : List String} {v : Value} :
    Refuses (metadataCondition config levels label path v)
      (JustifiedBy config.maxDepth (HasContinuation enclosing v)) := by
  -- A level that is used up is one that stands around what is inside, so the total stays.
  induction levels generalizing enclosing label path v with
  | zero =>
    apply metadataCondition_refuses_of
    rintro entries rfl nonempty plain
    refine refuses_error fun d isDepth => ?_
    cases isDepth
    exact ⟨rfl, enclosing + 1, .here nonempty plain, by omega⟩
  | succ levels ih =>
    apply metadataCondition_refuses_of
    rintro entries rfl nonempty plain
    have below : levels + (enclosing + 1) = config.maxDepth := by omega
    have children : Refuses (childConditions config levels path entries)
        (JustifiedBy config.maxDepth (HasContinuation enclosing (.object entries))) := by
      apply childConditions_refuses
      intro entry mem label path
      exact (ih below).justified_mono fun level inner => .under plain mem inner
    exact children.bind fun cs _ => refuses_pure _

/-- A builder that is given the operator of a shape is refused for no depth, unless it is for one
by itself. -/
theorem shape_refuses {label : String} {onList : Operator}
    {build : Operator → Value → Except CompileError Fragment} {refusal : CompileError} {v : Value}
    {hasLevel : Nat → Prop}
    (operation : ∀ o operand, Refuses (build o operand) (CompileError.OnOperand label))
    (other : ∀ d, refusal ≠ .tooDeep d) :
    Refuses (Spec.parse label v >>= fun spec =>
      match spec.operation? onList with
      | some (o, operand) => build o operand
      | none => .error refusal) (JustifiedBy config.maxDepth hasLevel) := by
  refine parse_refuses.bind fun spec _ => ?_
  split
  · rename_i o operand _
    exact (operation o operand).mono fun e h => justifiedBy_of_ne h.ne_tooDeep
  · exact refuses_error (justifiedBy_of_ne other)

/-- A field is refused for its depth only if a continuation in it is beyond the limit. -/
theorem fieldCondition_refuses (total : levels + enclosing = config.maxDepth) {key : String}
    {v : Value} (isField : isKeywordKey key = false) :
    Refuses (fieldCondition config levels key v)
      (JustifiedBy config.maxDepth (HasLevel config enclosing [(key, v)])) := by
  unfold fieldCondition
  split
  · exact refuses_error (justifiedBy_of_ne (by simp))
  · exact shape_refuses (fun o operand => columnOperation_refuses) (by simp)
  · exact shape_refuses (fun o operand => collectionOperation_refuses) (by simp)
  · exact shape_refuses (fun o operand => parentOperation_refuses) (by simp)
  · rename_i path addressed
    apply Refuses.justified_mono (metadataCondition_refuses total)
    exact fun level inner => .onPath List.mem_cons_self isField addressed inner

/-- Fields are refused for their depth only if a continuation in one of them is beyond the limit. -/
theorem fieldConditions_refuses (total : levels + enclosing = config.maxDepth)
    {entries : List (String × Value)} :
    Refuses (fieldConditions config levels entries)
      (JustifiedBy config.maxDepth (HasLevel config enclosing entries)) := by
  induction entries with
  | nil => exact refuses_ok _
  | cons entry rest ih =>
    obtain ⟨key, v⟩ := entry
    have others : Refuses (fieldConditions config levels rest)
        (JustifiedBy config.maxDepth (HasLevel config enclosing ((key, v) :: rest))) :=
      ih.justified_mono fun level has => has.mono (List.subset_cons_self _ _)
    rw [fieldConditions]
    split
    · exact others
    · rename_i notKeyword
      have first : Refuses (fieldCondition config levels key v)
          (JustifiedBy config.maxDepth (HasLevel config enclosing ((key, v) :: rest))) := by
        apply Refuses.justified_mono (fieldCondition_refuses total (by simpa using notKeyword))
        exact fun level has => has.mono (by simp)
      exact first.bind fun c _ => others.bind fun cs _ => refuses_pure _

/-- What justifies refusing the entries of each object among the elements of a group justifies
refusing the elements. -/
theorem elementConditions_refuses {k : Connective} {items : List Value} {hasLevel : Nat → Prop}
    (each : ∀ entries, .object entries ∈ items →
      Refuses (groupConditions config levels entries) (JustifiedBy config.maxDepth hasLevel) ∧
        Refuses (fieldConditions config levels entries)
          (JustifiedBy config.maxDepth hasLevel)) :
    Refuses (elementConditions config levels k items) (JustifiedBy config.maxDepth hasLevel) := by
  induction items with
  | nil =>
    rw [elementConditions]
    exact refuses_ok _
  | cons item rest ih =>
    cases item with
    | object entries =>
      obtain ⟨groups, fields⟩ := each entries List.mem_cons_self
      have others := ih fun sub mem => each sub (List.mem_cons_of_mem _ mem)
      rw [elementConditions]
      exact groups.bind fun _ _ => fields.bind fun _ _ => others.bind fun _ _ => refuses_pure _
    | _ =>
      rw [elementConditions_of_not_object (by simp)]
      exact refuses_error (justifiedBy_of_ne (by simp))

/-- A group is refused for its depth if it is beyond the limit itself, or something in one of its
elements is. -/
theorem groupCondition_refuses (total : levels + enclosing = config.maxDepth)
    (elements : ∀ rest, levels = rest + 1 → ∀ entries : List (String × Value),
      Refuses (groupConditions config rest entries)
          (JustifiedBy config.maxDepth (HasLevel config (enclosing + 1) entries)) ∧
        Refuses (fieldConditions config rest entries)
          (JustifiedBy config.maxDepth (HasLevel config (enclosing + 1) entries)))
    {key : String} {k : Connective} {v : Value} (isGroup : key ∈ ["$and", "$or"]) :
    Refuses (groupCondition config levels k v)
      (JustifiedBy config.maxDepth (HasLevel config enclosing [(key, v)])) := by
  cases levels with
  | zero =>
    rw [groupCondition_zero]
    refine refuses_error fun d isDepth => ?_
    cases isDepth
    exact ⟨rfl, enclosing + 1, .group List.mem_cons_self isGroup, by omega⟩
  | succ rest =>
    cases v with
    | list items =>
      rw [groupCondition]
      refine Refuses.bind (elementConditions_refuses fun entries mem => ?_) fun _ _ =>
        refuses_pure _
      have inside : ∀ level, HasLevel config (enclosing + 1) entries level →
          HasLevel config enclosing [(key, .list items)] level :=
        fun level inner => .inGroup List.mem_cons_self isGroup mem inner
      obtain ⟨groups, fields⟩ := elements rest rfl entries
      exact ⟨groups.justified_mono inside, fields.justified_mono inside⟩
    | _ =>
      rw [groupCondition_of_not_list (by simp)]
      exact refuses_error (justifiedBy_of_ne (by simp))

/-- Groups are refused for their depth only if one of them, or something in one of them, is beyond
the limit. -/
theorem groupConditions_refuses (total : levels + enclosing = config.maxDepth)
    {entries : List (String × Value)} :
    Refuses (groupConditions config levels entries)
      (JustifiedBy config.maxDepth (HasLevel config enclosing entries)) := by
  -- One level less is left in the elements of a group, and one group more stands around them.
  induction levels using Nat.strongRecOn generalizing enclosing entries with
  | ind levels below =>
    have elements : ∀ rest, levels = rest + 1 → ∀ sub : List (String × Value),
        Refuses (groupConditions config rest sub)
            (JustifiedBy config.maxDepth (HasLevel config (enclosing + 1) sub)) ∧
          Refuses (fieldConditions config rest sub)
            (JustifiedBy config.maxDepth (HasLevel config (enclosing + 1) sub)) := by
      intro rest same sub
      have total' : rest + (enclosing + 1) = config.maxDepth := by omega
      exact ⟨below rest (by omega) total', fieldConditions_refuses total'⟩
    induction entries with
    | nil =>
      rw [groupConditions]
      exact refuses_ok _
    | cons entry rest ih =>
      obtain ⟨key, v⟩ := entry
      have others : Refuses (groupConditions config levels rest)
          (JustifiedBy config.maxDepth (HasLevel config enclosing ((key, v) :: rest))) :=
        ih.justified_mono fun level has => has.mono (List.subset_cons_self _ _)
      rw [groupConditions]
      split
      · refine Refuses.bind ?_ fun k isConnective => Refuses.bind ?_ fun _ _ =>
          others.bind fun _ _ => refuses_pure _
        · unfold connectiveOfKey
          split
          · exact refuses_ok _
          · exact refuses_error (justifiedBy_of_ne (by simp))
          · exact refuses_error (justifiedBy_of_ne (by simp))
        · have isGroup : key ∈ ["$and", "$or"] :=
            exists_connective_iff.1 ⟨k, connectiveOfKey_eq_ok_iff.1 isConnective⟩
          apply Refuses.justified_mono (groupCondition_refuses total elements isGroup)
          exact fun level has => has.mono (by simp)
      · exact others

end

/-! ## The limit -/

/-- The limit of nesting is exact. No group and no continuation of a filter that compiles has a
level beyond the limit; and if a filter is refused for its depth, the refusal gives the limit, and
some group or continuation has a level beyond it. -/
theorem depth_ceiling {compiler : Compiler} {f : Filter} {given : ParamList} {mode : Mode} :
    (Succeeds (compiler.compile f given mode) →
      ∀ level, HasLevel compiler.config 0 f.entries level → level ≤ compiler.config.maxDepth) ∧
    ∀ d, compiler.compile f given mode = .error (.tooDeep d) →
      d = compiler.config.maxDepth ∧
        ∃ level, HasLevel compiler.config 0 f.entries level ∧ compiler.config.maxDepth < level := by
  have total := Nat.add_zero compiler.config.maxDepth
  rw [compile_eq]
  constructor
  · rintro ⟨s, h⟩ level hasLevel
    obtain ⟨c, condition, -⟩ := map_eq_ok_iff.1 h
    obtain ⟨groups, isGroups, fields⟩ := bind_eq_ok_iff.1 condition
    obtain ⟨fields, isFields, -⟩ := bind_eq_ok_iff.1 fields
    have grammar := (entries_succeed_iff total f.entries).1 ⟨⟨groups, isGroups⟩, fields, isFields⟩
    exact EntryGrammar.level_le grammar hasLevel
  · intro d h
    have refuses : Refuses (filterCondition compiler.config f)
        (JustifiedBy compiler.config.maxDepth (HasLevel compiler.config 0 f.entries)) :=
      (groupConditions_refuses total).bind fun _ _ =>
        (fieldConditions_refuses total).bind fun _ _ => refuses_pure _
    exact refuses _ (map_eq_error_iff.1 h) d rfl

/-- The default configuration with two levels of nesting. -/
def twoLevels : Compiler := ⟨Config.withMaxDepth {} 2, by decide⟩

/-- A group with a field whose path is continued by the dotted key `b.c`. -/
def continuedInGroup (v : Value) : Filter :=
  ⟨[("$or", .list [.object [("a", .object [("b.c", v)])]])]⟩

/-- The group and the continuation take the two levels that there are. An object behind an operator
takes none, and one that continues the path once more takes the third. -/
theorem continuedInGroup_ceiling :
    Succeeds (twoLevels.compile (continuedInGroup (.object [("$eq", .object [("d", .null)])]))
        ⟨[]⟩ .condition) ∧
      (∀ level, HasLevel twoLevels.config 0
        (continuedInGroup (.object [("$eq", .object [("d", .null)])])).entries level → level ≤ 2) ∧
      twoLevels.compile (continuedInGroup (.object [("d", .null)])) ⟨[]⟩ .condition =
        .error (.tooDeep 2) ∧
      ∃ level, HasLevel twoLevels.config 0
        (continuedInGroup (.object [("d", .null)])).entries level ∧ 2 < level := by
  have within : twoLevels.compile (continuedInGroup (.object [("$eq", .object [("d", .null)])]))
      ⟨[]⟩ .condition =
        .ok ⟨"(metadata->'a'->'b'->'c' = $1::jsonb)", ⟨[.json (Sql.braced "\"d\":null")]⟩⟩ := by
    decide +kernel
  have beyond : twoLevels.compile (continuedInGroup (.object [("d", .null)])) ⟨[]⟩ .condition =
      .error (.tooDeep 2) := by
    decide +kernel
  exact ⟨⟨_, within⟩, depth_ceiling.1 ⟨_, within⟩, beyond, (depth_ceiling.2 2 beyond).2⟩

end FilterSql
