import FilterSql.Proofs.Composition
import FilterSql.Proofs.Field.Target

/-!
# Continued paths

A path inside the JSON column can be written key by key, each object continuing the path of the
field that it is given for, or in one name with dots. Both ways compile to the same statement
(`compile_dotted`). A continuation takes one level of nesting, a dot takes none, so the first way is
compiled with one level more. Refusals name the field, and may differ.
-/

set_option autoImplicit false

namespace FilterSql

/-- Entries whose keys stand behind the name of a field and a dot. -/
def dotted (field : String) (entries : List (String × Value)) : List (String × Value) :=
  entries.map fun (key, v) => (field ++ "." ++ key, v)

/-- Whether a key has the form of a keyword shows at its beginning. -/
theorem isKeywordKey_append_dot {field : String} (nonempty : field ≠ "") (key : String) :
    isKeywordKey (field ++ "." ++ key) = isKeywordKey field := by
  have chars : field.toList ≠ [] := by simpa using nonempty
  rw [isKeywordKey, isKeywordKey, String.append_assoc, String.toList_append,
    List.head?_append_of_ne_nil _ chars]

namespace Compile

section

variable {config : Config} {levels : Nat}

/-- The condition of a value on a path does not depend on the name that is given to refusals. -/
theorem metadataCondition_relabel (label label' : String) (path : List String) (v : Value) :
    SameResult (metadataCondition config levels label path v)
      (metadataCondition config levels label' path v) := by
  have sameShape : SameResult (Spec.parse label v) (Spec.parse label' v) :=
    fun spec => ⟨Spec.parse_ok_relabel, Spec.parse_ok_relabel⟩
  rw [metadataCondition_eq, metadataCondition_eq]
  exact sameShape.bind fun spec => .refl _

/-- A field that addresses a path is compiled as a condition on that path. -/
theorem fieldCondition_of_metadata {key : String} {path : List String}
    (addressed : config.target? key = some (.metadata path)) (v : Value) :
    fieldCondition config levels key v = metadataCondition config levels key path v := by
  rw [fieldCondition, addressed]

/-- A field that addresses nothing is refused, whatever its value is. -/
theorem fieldCondition_of_none {key : String} (unaddressed : config.target? key = none)
    (v : Value) : fieldCondition config levels key v = .error (.invalidField key) := by
  rw [fieldCondition, unaddressed]

/-- Entries without keywords have no groups. -/
theorem groupConditions_of_fields {entries : List (String × Value)}
    (fields : ∀ entry ∈ entries, isKeywordKey entry.1 = false) :
    groupConditions config levels entries = .ok [] := by
  have noGroups : (entries.filter fun entry => isKeywordKey entry.1) = [] := by
    rw [List.filter_eq_nil_iff]
    intro entry mem
    rw [fields entry mem]
    exact Bool.false_ne_true
  rw [groupConditions_eq_mapM, noGroups]
  rfl

/-- The conditions of keys that continue the path of a field are those of the fields with dotted
names. -/
theorem childConditions_dotted (valid : config.Valid) {field : String} {path : List String}
    (nonempty : field ≠ "") (isField : isKeywordKey field = false)
    (addressed : config.target? field = some (.metadata path)) (entries : List (String × Value)) :
    SameResult (childConditions config levels path entries)
      (fieldConditions config levels (dotted field entries)) := by
  induction entries with
  | nil => exact .refl _
  | cons entry rest ih =>
    obtain ⟨key, v⟩ := entry
    have target := valid.target?_append_dot nonempty addressed key
    have notKeyword : ¬ isKeywordKey (field ++ "." ++ key) = true := by
      rw [isKeywordKey_append_dot nonempty, isField]
      exact Bool.false_ne_true
    rw [childConditions, dotted, List.map_cons, fieldConditions, if_neg notKeyword, childPath]
    by_cases nonempties : (segments key).all (· ≠ "") = true
    · rw [if_pos nonempties] at target ⊢
      rw [fieldCondition_of_metadata target]
      exact (metadataCondition_relabel _ _ _ v).bind fun c => ih.bind fun cs => .refl _
    · rw [if_neg nonempties] at target ⊢
      rw [fieldCondition_of_none target]
      exact sameResult_error _ _

end

end Compile

open Compile

/-- Keys that continue the path of a field in the JSON column compile to the same statement as
fields with dotted names. The continuation takes one level of nesting. -/
theorem compile_dotted {compiler : Compiler} {field : String} {path : List String}
    {entries : List (String × Value)} {given : ParamList} {mode : Mode} (nonempty : field ≠ "")
    (isField : isKeywordKey field = false)
    (addressed : compiler.config.target? field = some (.metadata path)) (continued : entries ≠ [])
    (plain : ∀ entry ∈ entries, isKeywordKey entry.1 = false) (s : Statement) :
    compiler.deepen.compile ⟨[(field, .object entries)]⟩ given mode = .ok s ↔
      compiler.compile ⟨dotted field entries⟩ given mode = .ok s := by
  have notKeyword : ¬ isKeywordKey field = true := by simp [isField]
  have parsed : Spec.parse field (.object entries) = .ok (.path entries) :=
    Spec.parse_path_iff.2 ⟨rfl, continued, plain⟩
  have dottedPlain : ∀ entry ∈ dotted field entries, isKeywordKey entry.1 = false := by
    intro entry mem
    obtain ⟨⟨key, v⟩, -, rfl⟩ := List.mem_map.1 mem
    exact (isKeywordKey_append_dot nonempty key).trans isField
  -- The continuation takes the one level that the first compiler has more.
  have onPath : entriesCondition compiler.config (compiler.config.maxDepth + 1)
      [(field, .object entries)] =
        childConditions compiler.config compiler.config.maxDepth path entries >>=
          fun cs => pure (.all cs) := by
    rw [entriesCondition_field _ _ notKeyword, fieldCondition_of_metadata addressed,
      metadataCondition_of_path parsed]
  have inNames : filterCondition compiler.config ⟨dotted field entries⟩ =
      fieldConditions compiler.config compiler.config.maxDepth (dotted field entries) >>=
        fun cs => pure (.all cs) := by
    rw [filterCondition, entriesCondition, groupConditions_of_fields dottedPlain]
    rfl
  have limit : SameResult (entriesCondition compiler.config (compiler.config.maxDepth + 1)
      [(field, .object entries)])
      (filterCondition compiler.deepen.config ⟨[(field, .object entries)]⟩) :=
    (entriesCondition_withMaxDepth _ _ _ _).sameResult
  have conditions : SameResult (filterCondition compiler.deepen.config ⟨[(field, .object entries)]⟩)
      (filterCondition compiler.config ⟨dotted field entries⟩) := by
    refine limit.symm.trans ?_
    rw [onPath, inNames]
    exact (childConditions_dotted compiler.valid nonempty isField addressed entries).bind
      fun cs => .refl _
  have sameMode : statementOf mode ⟨[(field, .object entries)]⟩ given =
      statementOf mode ⟨dotted field entries⟩ given := by
    funext c
    apply statementOf_congr
    cases entries with
    | nil => exact absurd rfl continued
    | cons first rest => rfl
  rw [compile_eq, compile_eq, sameMode]
  exact conditions.map s

/-- Keys below `a`: one with a dot, and one with a quote that continues the path once more. -/
def keysBelow : List (String × Value) :=
  [("b.c", .signed 1), ("it's", .object [("d", .list [.string "x"])])]

/-- The keys below `a` compile like names that begin with `a` and a dot, on one level less. -/
theorem keysBelow_dotted :
    oneLevel.config.target? "a" = some (.metadata ["a"]) ∧
      (∀ entry ∈ keysBelow, isKeywordKey entry.1 = false) ∧
      dotted "a" keysBelow =
        [("a.b.c", .signed 1), ("a.it's", .object [("d", .list [.string "x"])])] ∧
      oneLevel.compile ⟨dotted "a" keysBelow⟩ ⟨[]⟩ .condition =
        .ok ⟨"((metadata->'a'->'b'->>'c')::numeric = $1) AND " ++
          "((metadata->'a'->'it''s'->>'d') IN ($2))", ⟨[.signed 1, .text "x"]⟩⟩ ∧
      oneLevel.deepen.compile ⟨[("a", .object keysBelow)]⟩ ⟨[]⟩ .condition =
        .ok ⟨"((metadata->'a'->'b'->>'c')::numeric = $1) AND " ++
          "((metadata->'a'->'it''s'->>'d') IN ($2))", ⟨[.signed 1, .text "x"]⟩⟩ := by
  have addressed : oneLevel.config.target? "a" = some (.metadata ["a"]) := by decide +kernel
  have plain : ∀ entry ∈ keysBelow, isKeywordKey entry.1 = false := by
    simp only [keysBelow, List.forall_mem_cons]
    decide
  have compiled : oneLevel.compile ⟨dotted "a" keysBelow⟩ ⟨[]⟩ .condition =
      .ok ⟨"((metadata->'a'->'b'->>'c')::numeric = $1) AND " ++
        "((metadata->'a'->'it''s'->>'d') IN ($2))", ⟨[.signed 1, .text "x"]⟩⟩ := by
    decide +kernel
  have nested := (compile_dotted (by decide) (by decide) addressed (List.cons_ne_nil _ _) plain
    _).2 compiled
  exact ⟨addressed, plain, rfl, compiled, nested⟩

end FilterSql
