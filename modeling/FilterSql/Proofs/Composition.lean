import FilterSql.Proofs.Limit
import FilterSql.Proofs.Sql.Token

/-!
# Filters made of filters

A group compiles to what its elements compile to one after another, each behind the parameters of
those before it: their texts in parentheses, joined by the connective (`compile_joined`). A list of
entries compiles to the conjunction of its entries, each of them a filter of its own, groups before
fields (`compile_parts`). The group takes one level of nesting, so it is compiled with one level
more than its elements.
-/

set_option autoImplicit false

namespace FilterSql

open Sql Compile

/-- The filter with one group that joins filters. -/
def Filter.joined (k : Connective) (fs : List Filter) : Filter :=
  ⟨[(k.key, .list (fs.map Filter.toValue))]⟩

/-- The filters of single entries, those of groups before those of fields, in their order. -/
def Filter.parts (f : Filter) : List Filter :=
  (f.entries.filter fun entry => isKeywordKey entry.1).map (fun entry => ⟨[entry]⟩) ++
    (f.entries.filter fun entry => !isKeywordKey entry.1).map fun entry => ⟨[entry]⟩

/-- The filters of single entries are as many as the entries. -/
theorem Filter.length_parts (f : Filter) : f.parts.length = f.size := by
  rw [Filter.parts, List.length_append, List.length_map, List.length_map]
  exact (List.length_eq_length_filter_add _).symm

/-- Texts in parentheses, joined by the keyword of a connective. -/
def joinTexts (k : Connective) (texts : List String) : String :=
  (connectiveCode k).intercalate (texts.map fun text => "(" ++ text ++ ")")

/-- Compiles filters one after another, each behind the parameters of those before it. Gives their
texts and all parameters, or the first refusal. -/
def Compiler.compileInTurn (compiler : Compiler) (given : ParamList) :
    List Filter → Except CompileError (List String × ParamList)
  | [] => .ok ([], given)
  | f :: rest => do
    let s ← compiler.compile f given .condition
    let (texts, params) ← compiler.compileInTurn s.params rest
    return (s.sql :: texts, params)

/-! ## The text of a group -/

/-- The first of several texts stands in parentheses before the others. -/
theorem joinTexts_cons_cons (k : Connective) (text text' : String) (texts : List String) :
    joinTexts k (text :: text' :: texts) =
      "(" ++ text ++ ")" ++ connectiveCode k ++ joinTexts k (text' :: texts) :=
  String.intercalate_cons_cons

/-- Binds conditions one after another, each behind the parameters of those before it. -/
def bindInTurn (given : ParamList) : List Fragment → List String × ParamList
  | [] => ([], given)
  | c :: rest =>
    let first := c.bindTo given
    let others := bindInTurn first.2 rest
    (first.1 :: others.1, others.2)

/-- Filters that are compiled in turn have their conditions bound in turn. -/
theorem compileInTurn_eq (compiler : Compiler) (given : ParamList) (fs : List Filter) :
    compiler.compileInTurn given fs =
      (fs.mapM (filterCondition compiler.config)).map (bindInTurn given) := by
  induction fs generalizing given with
  | nil => rfl
  | cons f rest ih =>
    rw [Compiler.compileInTurn, compile_eq, List.mapM_cons]
    cases filterCondition compiler.config f with
    | error e => rfl
    | ok c =>
      have others : compiler.compileInTurn (statementOf .condition f given c).params rest =
          (rest.mapM (filterCondition compiler.config)).map (bindInTurn (c.bindTo given).2) :=
        ih (c.bindTo given).2
      simp only [Except.map, bind, Except.bind, others]
      cases rest.mapM (filterCondition compiler.config) <;> rfl

/-- Parentheses around a condition stand around its text, and bind nothing. -/
theorem bindTo_paren (c : Fragment) (given : ParamList) :
    (Condition.paren c).bindTo given = ("(" ++ (c.bindTo given).1 ++ ")", (c.bindTo given).2) := by
  simp [Condition.bindTo, bindPieces, Condition.pieces, charsFrom, charsFrom_append, holeValues,
    holeValues_append, String.ext_iff]

/-- The right side of a connective is bound behind the left. -/
theorem bindTo_join (k : Connective) (left right : Fragment) (given : ParamList) :
    (Condition.join k left right).bindTo given =
      ((left.bindTo given).1 ++ connectiveCode k ++ (right.bindTo (left.bindTo given).2).1,
        (right.bindTo (left.bindTo given).2).2) := by
  have next : (⟨given.items ++ holeValues left.pieces⟩ : ParamList).next =
      given.next + (holeValues left.pieces).length := by
    simp only [ParamList.next, ParamList.size, List.length_append]
    omega
  simp [Condition.bindTo, bindPieces, Condition.pieces, charsFrom, charsFrom_append, holeValues,
    holeValues_append, next, String.ext_iff]

/-- A group is bound like its conditions in turn. -/
theorem bindTo_group (k : Connective) {cs : List Fragment} (nonempty : cs ≠ [])
    (given : ParamList) :
    (Condition.group k cs).bindTo given =
      (joinTexts k (bindInTurn given cs).1, (bindInTurn given cs).2) := by
  induction cs generalizing given with
  | nil => exact absurd rfl nonempty
  | cons c rest ih =>
    cases rest with
    | nil =>
      rw [Condition.group, bindTo_paren]
      rfl
    | cons c' rest =>
      -- The other conditions stand right of a connective, so they are bound behind the first.
      have others := ih (List.cons_ne_nil c' rest) (c.bindTo given).2
      have join : Condition.group k (c :: c' :: rest) =
          .join k (.paren c) (Condition.group k (c' :: rest)) := rfl
      rw [join, bindTo_join, bindTo_paren, others]
      simp only [bindInTurn, joinTexts_cons_cons]

namespace Compile

variable (config : Config) (levels : Nat)

/-! ## The conditions of groups -/

/-- The elements of a group are compiled like the filters that they are. -/
theorem elementConditions_toValue (k : Connective) (fs : List Filter) :
    elementConditions config levels k (fs.map Filter.toValue) =
      fs.mapM fun f => entriesCondition config levels f.entries := by
  induction fs with
  | nil =>
    rw [List.map_nil, elementConditions]
    rfl
  | cons f rest ih =>
    rw [List.map_cons, Filter.toValue, elementConditions, ih, List.mapM_cons, entriesCondition]
    simp only [bind_assoc, pure_bind]

/-- A filter with one group only has the condition of that group. -/
theorem entriesCondition_keyword {key : String} (isGroup : isKeywordKey key = true) (v : Value) :
    entriesCondition config levels [(key, v)] =
      connectiveOfKey key >>= fun k => groupCondition config levels k v := by
  have noField : fieldConditions config levels [(key, v)] = .ok [] := by
    rw [fieldConditions, if_pos isGroup, fieldConditions]
  have noOther : groupConditions config levels [] = .ok [] := by rw [groupConditions]
  rw [entriesCondition, groupConditions, if_pos isGroup, noField, noOther]
  cases connectiveOfKey key with
  | error e => rfl
  | ok k =>
    cases condition : groupCondition config levels k v with
    | error e => simp [condition, bind, Except.bind]
    | ok c => simp [condition, bind, Except.bind, pure, Except.pure, Condition.all]

/-- A filter with one field only has the condition of that field. -/
theorem entriesCondition_field {key : String} (isField : ¬ isKeywordKey key = true) (v : Value) :
    entriesCondition config levels [(key, v)] = fieldCondition config levels key v := by
  have noGroup : groupConditions config levels [(key, v)] = .ok [] := by
    rw [groupConditions, if_neg isField, groupConditions]
  have noOther : fieldConditions config levels [] = .ok [] := rfl
  rw [entriesCondition, fieldConditions, if_neg isField, noGroup, noOther]
  cases fieldCondition config levels key v <;> rfl

/-- A group takes one level, and joins what its elements compile to. -/
theorem entriesCondition_joined (k : Connective) (fs : List Filter) :
    entriesCondition config (levels + 1) (Filter.joined k fs).entries =
      (fs.mapM fun f => entriesCondition config levels f.entries).map (Condition.group k) := by
  have isGroup : isKeywordKey k.key = true := by cases k <;> decide
  have isConnective : connectiveOfKey k.key = .ok k := by cases k <;> rfl
  rw [Filter.joined, entriesCondition_keyword config _ isGroup, isConnective]
  change groupCondition config (levels + 1) k (.list (fs.map Filter.toValue)) = _
  rw [groupCondition, elementConditions_toValue]
  cases fs.mapM fun f => entriesCondition config levels f.entries <;> rfl

/-- The groups among entries have the conditions of filters with one group each. -/
theorem groupConditions_eq_mapM (entries : List (String × Value)) :
    groupConditions config levels entries =
      (entries.filter fun entry => isKeywordKey entry.1).mapM fun entry =>
        entriesCondition config levels [entry] := by
  induction entries with
  | nil =>
    rw [groupConditions]
    rfl
  | cons entry rest ih =>
    obtain ⟨key, v⟩ := entry
    rw [groupConditions]
    by_cases isGroup : isKeywordKey key = true
    · rw [if_pos isGroup, List.filter_cons_of_pos (by simp [isGroup]), List.mapM_cons,
        entriesCondition_keyword config levels isGroup, ih, bind_assoc]
    · rw [if_neg isGroup, List.filter_cons_of_neg (by simp [isGroup]), ih]

/-- The fields among entries have the conditions of filters with one field each. -/
theorem fieldConditions_eq_mapM (entries : List (String × Value)) :
    fieldConditions config levels entries =
      (entries.filter fun entry => !isKeywordKey entry.1).mapM fun entry =>
        entriesCondition config levels [entry] := by
  induction entries with
  | nil => rfl
  | cons entry rest ih =>
    obtain ⟨key, v⟩ := entry
    rw [fieldConditions]
    by_cases isGroup : isKeywordKey key = true
    · rw [if_pos isGroup, List.filter_cons_of_neg (by simp [isGroup]), ih]
    · rw [if_neg isGroup, List.filter_cons_of_pos (by simp [isGroup]), List.mapM_cons,
        entriesCondition_field config levels isGroup, ih]

/-- Entries are compiled like the filters of single entries. -/
theorem entriesCondition_parts (f : Filter) :
    entriesCondition config levels f.entries =
      (f.parts.mapM fun part => entriesCondition config levels part.entries).map
        Condition.all := by
  rw [entriesCondition, groupConditions_eq_mapM, fieldConditions_eq_mapM, Filter.parts,
    List.mapM_append, List.mapM_map, List.mapM_map]
  simp only [Function.comp_def]
  generalize (f.entries.filter fun entry => isKeywordKey entry.1).mapM
    (fun entry => entriesCondition config levels [entry]) = groups
  generalize (f.entries.filter fun entry => !isKeywordKey entry.1).mapM
    (fun entry => entriesCondition config levels [entry]) = fields
  cases groups with
  | error e => rfl
  | ok gs => cases fields <;> rfl

end Compile

/-! ## Statements -/

section

variable {compiler : Compiler} {given : ParamList}

/-- Filters have the same conditions one level deeper, if there is one level more. -/
theorem mapM_deepen (fs : List Filter) :
    Agree SameButLimit (fun cs cs' => cs = cs' ∧ cs.length = fs.length)
      (fs.mapM (filterCondition compiler.config))
      (fs.mapM fun f => entriesCondition compiler.deepen.config compiler.config.maxDepth
        f.entries) := by
  have same : List.Forall₂ Eq fs fs := List.forall₂_same.2 fun _ _ => rfl
  have each : ∀ f f' : Filter, f = f' → Agree SameButLimit Eq (filterCondition compiler.config f)
      (entriesCondition compiler.deepen.config compiler.config.maxDepth f'.entries) := by
    rintro f _ rfl
    exact entriesCondition_withMaxDepth _ _ _ f.entries
  have conditions := (agree_mapM same each).and_gives (gives_mapM_length _ fs)
  rwa [List.forall₂_eq_eq_eq] at conditions

/-- What is made of the conditions of filters agrees with their group, one level higher, if it does
for any conditions, one for each filter. -/
theorem agree_joined {α : Type} {T : α → Fragment → Prop} {make : List Fragment → α}
    {k : Connective} {fs : List Filter}
    (each : ∀ cs : List Fragment, cs.length = fs.length → T (make cs) (.group k cs)) :
    Agree SameButLimit T ((fs.mapM (filterCondition compiler.config)).map make)
      (filterCondition compiler.deepen.config (.joined k fs)) := by
  have group : filterCondition compiler.deepen.config (.joined k fs) =
      (fs.mapM fun f => entriesCondition compiler.deepen.config compiler.config.maxDepth
        f.entries).map (Condition.group k) :=
    entriesCondition_joined compiler.deepen.config compiler.config.maxDepth k fs
  rw [group]
  refine (mapM_deepen fs).map ?_
  rintro cs _ ⟨rfl, length⟩
  exact each cs length

/-- A group is compiled like its filters in turn, each behind the parameters of those before it: its
text is theirs, in parentheses and joined by the connective, its parameters are those behind the
last of them, and it is refused like the first of them that is. The group takes one level. -/
theorem compile_joined {k : Connective} {fs : List Filter} (nonempty : fs ≠ []) :
    Agree SameButLimit Eq
      ((compiler.compileInTurn given fs).map fun r => ⟨joinTexts k r.1, r.2⟩)
      (compiler.deepen.compile (.joined k fs) given .condition) := by
  have bound : Agree SameButLimit (fun r c => c.bindTo given = (joinTexts k r.1, r.2))
      ((fs.mapM (filterCondition compiler.config)).map (bindInTurn given))
      (filterCondition compiler.deepen.config (.joined k fs)) := by
    apply agree_joined
    intro cs length
    apply bindTo_group k
    rintro rfl
    exact nonempty (List.length_eq_zero_iff.1 length.symm)
  rw [compileInTurn_eq, compile_eq]
  refine bound.map fun r c bound => ?_
  have statement : statementOf .condition (.joined k fs) given c =
      ⟨(c.bindTo given).1, (c.bindTo given).2⟩ := rfl
  rw [statement, bound]

/-- A flag in the metadata that is not set, and a choice between no filters. -/
def unread : Filter := ⟨[("read", .bool false), ("$or", .list [])]⟩

/-- One of two values in a plain column. -/
def pending : Filter := ⟨[("status", .list [.string "new", .string "old"])]⟩

/-- Two filters in turn, behind one parameter, and the choice between them. -/
theorem unread_or_pending :
    [unread, pending] ≠ [] ∧
      Compiler.default.compileInTurn ⟨[.null]⟩ [unread, pending] =
        .ok (["(FALSE) AND ((metadata->>'read')::boolean = $2)", "status IN ($3, $4)"],
          ⟨[.null, .bool false, .text "new", .text "old"]⟩) ∧
      Compiler.default.deepen.compile (.joined .or [unread, pending]) ⟨[.null]⟩ .condition =
        .ok ⟨"((FALSE) AND ((metadata->>'read')::boolean = $2)) OR (status IN ($3, $4))",
          ⟨[.null, .bool false, .text "new", .text "old"]⟩⟩ := by
  have nonempty : [unread, pending] ≠ [] := List.cons_ne_nil _ _
  have inTurn : Compiler.default.compileInTurn ⟨[.null]⟩ [unread, pending] =
      .ok (["(FALSE) AND ((metadata->>'read')::boolean = $2)", "status IN ($3, $4)"],
        ⟨[.null, .bool false, .text "new", .text "old"]⟩) := by
    decide +kernel
  have joined : joinTexts .or
      ["(FALSE) AND ((metadata->>'read')::boolean = $2)", "status IN ($3, $4)"] =
      "((FALSE) AND ((metadata->>'read')::boolean = $2)) OR (status IN ($3, $4))" := by
    decide +kernel
  have agree : Agree SameButLimit Eq
      ((Compiler.default.compileInTurn ⟨[.null]⟩ [unread, pending]).map
        fun r => ⟨joinTexts .or r.1, r.2⟩)
      (Compiler.default.deepen.compile (.joined .or [unread, pending]) ⟨[.null]⟩ .condition) :=
    compile_joined nonempty
  rw [inTurn, Except.map, joined] at agree
  exact ⟨nonempty, inTurn, agree.eq_ok⟩

/-- A filter with several entries is compiled like the conjunction of the filters of its entries,
one for each, groups before fields. The conjunction takes one level more. -/
theorem compile_parts {f : Filter} {mode : Mode} (several : 2 ≤ f.size) :
    Agree SameButLimit Eq (compiler.compile f given mode)
      (compiler.deepen.compile (.joined .and f.parts) given mode) := by
  have parts : filterCondition compiler.config f =
      (f.parts.mapM (filterCondition compiler.config)).map Condition.all :=
    entriesCondition_parts compiler.config compiler.config.maxDepth f
  have conditions : Agree SameButLimit Eq (filterCondition compiler.config f)
      (filterCondition compiler.deepen.config (.joined .and f.parts)) := by
    rw [parts]
    apply agree_joined
    intro cs length
    apply Condition.all_eq_group
    rw [length, f.length_parts]
    exact several
  have isEmpty : f.isEmpty = (Filter.joined .and f.parts).isEmpty := by
    cases entries : f.entries with
    | nil => simp [Filter.size, entries] at several
    | cons first rest => simp [Filter.isEmpty, Filter.joined, entries]
  rw [compile_eq, compile_eq]
  refine conditions.map ?_
  rintro c _ rfl
  exact statementOf_congr mode given isEmpty c

end

/-- Two fields of one name, and a group between them. -/
def sameField : Filter :=
  ⟨[("status", .string "new"), ("$or", .list []), ("status", .object [("$ne", .null)])]⟩

/-- The same name stays twice in the conjunction, and the group comes first. -/
theorem sameField_parts :
    2 ≤ sameField.size ∧
      Compiler.default.compile sameField ⟨[]⟩ .whereClause =
        .ok ⟨"WHERE (FALSE) AND (status = $1) AND (status IS NOT NULL)", ⟨[.text "new"]⟩⟩ ∧
      Filter.joined .and sameField.parts =
        ⟨[("$and", .list [.object [("$or", .list [])], .object [("status", .string "new")],
          .object [("status", .object [("$ne", .null)])]])]⟩ ∧
      Compiler.default.deepen.compile (.joined .and sameField.parts) ⟨[]⟩ .whereClause =
        .ok ⟨"WHERE (FALSE) AND (status = $1) AND (status IS NOT NULL)", ⟨[.text "new"]⟩⟩ := by
  have several : 2 ≤ sameField.size := by decide
  have compiled : Compiler.default.compile sameField ⟨[]⟩ .whereClause =
      .ok ⟨"WHERE (FALSE) AND (status = $1) AND (status IS NOT NULL)", ⟨[.text "new"]⟩⟩ := by
    decide +kernel
  have agree : Agree SameButLimit Eq (Compiler.default.compile sameField ⟨[]⟩ .whereClause)
      (Compiler.default.deepen.compile (.joined .and sameField.parts) ⟨[]⟩ .whereClause) :=
    compile_parts several
  rw [compiled] at agree
  exact ⟨several, compiled, rfl, agree.eq_ok⟩

end FilterSql
