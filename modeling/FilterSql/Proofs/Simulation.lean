import FilterSql.Proofs.Agreement
import FilterSql.Proofs.Compile.Leaf

/-!
# Two runs of the compiler

Two runs, on related filters and under related configurations, agree if they agree on leaves. The
relation of the values must look through lists and objects, down to the kinds of scalars, and the
relation of the fragments must be kept by conjunctions and groups (`filterCondition_agree`). The
second run may have more levels of nesting; then the first may be refused for its depth where the
second is not, and such refusals must be excused (`filterCondition_follows`).
-/

set_option autoImplicit false

namespace FilterSql

/-- Entries under the same key, with related values. -/
inductive EntryLike (S : Value → Value → Prop) : String × Value → String × Value → Prop
  | mk (key : String) {v w : Value} (related : S v w) : EntryLike S (key, v) (key, w)

/-- A relation of values of the same kind that also relates the elements of lists and the entries of
objects. -/
structure Structural (S : Value → Value → Prop) : Prop where
  kind : ∀ {v w}, S v w → v.kind = w.kind
  list : ∀ {xs ys}, S (.list xs) (.list ys) → List.Forall₂ S xs ys
  object : ∀ {xs ys}, S (.object xs) (.object ys) → List.Forall₂ (EntryLike S) xs ys

/-- The elements and entries of related values. -/
theorem Structural.cases {S : Value → Value → Prop} (structural : Structural S) {v w : Value}
    (related : S v w) :
    (∃ xs ys, v = .list xs ∧ w = .list ys ∧ List.Forall₂ S xs ys) ∨
    (∃ xs ys, v = .object xs ∧ w = .object ys ∧ List.Forall₂ (EntryLike S) xs ys) ∨
    v.isScalar = true ∧ w.isScalar = true := by
  have kind := structural.kind related
  cases v with
  | list xs =>
    cases w with
    | list ys => exact .inl ⟨xs, ys, rfl, rfl, structural.list related⟩
    | _ => cases kind
  | object xs =>
    cases w with
    | object ys => exact .inr (.inl ⟨xs, ys, rfl, rfl, structural.object related⟩)
    | _ => cases kind
  | _ =>
    cases w with
    | list ys => cases kind
    | object ys => cases kind
    | _ => exact .inr (.inr ⟨rfl, rfl⟩)

/-- Related entries have the same keys in the same order. -/
theorem keys_eq_of_forall₂ {S : Value → Value → Prop} {entries entries' : List (String × Value)}
    (h : List.Forall₂ (EntryLike S) entries entries') :
    entries.map Prod.fst = entries'.map Prod.fst := by
  induction h with
  | nil => rfl
  | cons first _ ih =>
    obtain ⟨key, related⟩ := first
    rw [List.map_cons, List.map_cons, ih]

/-! ## Shapes -/

/-- Shapes of the same form, with related values. -/
inductive Spec.Like (S : Value → Value → Prop) : Spec → Spec → Prop
  | literal {v w : Value} (related : S v w) : Like S (.literal v) (.literal w)
  | operator (o : Operator) {v w : Value} (related : S v w) : Like S (.operator o v) (.operator o w)
  | path {xs ys : List (String × Value)} (related : List.Forall₂ (EntryLike S) xs ys) :
    Like S (.path xs) (.path ys)

/-- Objects with the same keys have shapes of the same form, or none for the same cause. -/
theorem Spec.ofEntries_agree {S : Value → Value → Prop} (field : String)
    {xs ys : List (String × Value)} (related : List.Forall₂ (EntryLike S) xs ys) :
    Agree Eq (Spec.Like S) (Spec.ofEntries field xs) (Spec.ofEntries field ys) := by
  have sameKeys := keys_eq_of_forall₂ related
  have sameLength := related.length_eq
  simp only [Spec.ofEntries, sameKeys, sameLength]
  generalize (ys.map Prod.fst).filter isKeywordKey = keys
  cases related with
  | nil => exact .error rfl
  | cons first rest =>
    cases keys with
    | nil => exact .ok (.path (.cons first rest))
    | cons key keys =>
      cases rest with
      | nil =>
        obtain ⟨name, related⟩ := first
        simp only
        split
        · exact .error rfl
        · exact .error rfl
        · exact .ok (.operator _ related)
      | cons second rest =>
        simp only
        exact agree_ite Iff.rfl (.error rfl) (.error rfl)

/-- Related values have shapes of the same form, or none for the same cause. -/
theorem Spec.parse_agree {S : Value → Value → Prop} (structural : Structural S) (field : String)
    {v w : Value} (related : S v w) :
    Agree Eq (Spec.Like S) (Spec.parse field v) (Spec.parse field w) := by
  rcases structural.cases related with
    ⟨xs, ys, rfl, rfl, items⟩ | ⟨xs, ys, rfl, rfl, entries⟩ | ⟨isScalar, isScalar'⟩
  · exact .ok (.literal related)
  · exact Spec.ofEntries_agree field entries
  · have bare : Spec.parse field v = .ok (.literal v) :=
      Spec.parse_literal_iff.2 ⟨rfl, Value.ne_object_of_isScalar isScalar⟩
    have bare' : Spec.parse field w = .ok (.literal w) :=
      Spec.parse_literal_iff.2 ⟨rfl, Value.ne_object_of_isScalar isScalar'⟩
    rw [bare, bare']
    exact .ok (.literal related)

/-- Shapes of the same form ask for the same operator, with related operands, or for none. -/
theorem Spec.Like.operation {S : Value → Value → Prop} (structural : Structural S)
    {spec spec' : Spec} (h : Spec.Like S spec spec') (onList : Operator) :
    (∃ o v w, spec.operation? onList = some (o, v) ∧ spec'.operation? onList = some (o, w) ∧
      S v w) ∨ spec.operation? onList = none ∧ spec'.operation? onList = none := by
  cases h with
  | literal related =>
    rename_i v w
    have isScalar : w.isScalar = v.isScalar := by
      simp only [Value.isScalar, structural.kind related]
    refine .inl ⟨_, v, w, rfl, ?_, related⟩
    rw [Spec.operation?, isScalar]
  | operator o related => exact .inl ⟨o, _, _, rfl, rfl, related⟩
  | path related => exact .inr ⟨rfl, rfl⟩

/-! ## Conditions -/

namespace Compile

/-- What two runs need for agreeing on all filters: they read field names alike, are refused alike
where no level is left, and agree on leaves, in a sense that conjunctions and groups keep. -/
structure Simulates (config config' : Config) (S : Value → Value → Prop)
    (E : CompileError → CompileError → Prop) (R : Fragment → Fragment → Prop) : Prop where
  structural : Structural S
  refl : ∀ e, E e e
  jsonColumn : config.jsonColumn = config'.jsonColumn
  target : ∀ key, config.target? key = config'.target? key
  tooDeep : E (.tooDeep config.maxDepth) (.tooDeep config'.maxDepth)
  leaf : ∀ field target o {v w}, S v w →
    Agree E R (Leaf.fragment config ⟨field, target, o, v⟩)
      (Leaf.fragment config' ⟨field, target, o, w⟩)
  all : ∀ {cs cs'}, List.Forall₂ R cs cs' → R (.all cs) (.all cs')
  group : ∀ k {cs cs'}, List.Forall₂ R cs cs' → R (.group k cs) (.group k cs')

/-- The second of two runs has as many levels left as the first, or it has more, and refusals of
the first for its depth are excused. -/
structure Deepens (X : CompileError → Prop) (config : Config) (levels levels' : Nat) : Prop where
  le : levels ≤ levels'
  excuse : levels < levels' → X (.tooDeep config.maxDepth)

/-- A run has as many levels left as itself, so there is nothing to excuse. -/
theorem Deepens.refl {X : CompileError → Prop} {config : Config} (levels : Nat) :
    Deepens X config levels levels :=
  ⟨Nat.le_refl levels, fun lt => absurd lt (Nat.lt_irrefl levels)⟩

/-- A level that the first run uses up is there in the second. -/
theorem Deepens.pred {X : CompileError → Prop} {config : Config} {levels levels' : Nat}
    (h : Deepens X config (levels + 1) levels') :
    ∃ rest, levels' = rest + 1 ∧ Deepens X config levels rest := by
  obtain ⟨le, excuse⟩ := h
  cases levels' with
  | zero => omega
  | succ rest =>
    exact ⟨rest, rfl, Nat.le_of_succ_le_succ le, fun lt => excuse (Nat.succ_lt_succ lt)⟩

variable {config config' : Config} {S : Value → Value → Prop} {X : CompileError → Prop}
  {E : CompileError → CompileError → Prop} {R : Fragment → Fragment → Prop}
  (sim : Simulates config config' S E R)

include sim

/-- Related values are parsed to related shapes, or both are refused for the same cause. -/
theorem Simulates.parse (label : String) {v w : Value} (related : S v w) :
    Follows X E (Spec.Like S) (Spec.parse label v) (Spec.parse label w) := by
  have agree := Spec.parse_agree sim.structural label related
  generalize Spec.parse label v = x at agree
  generalize Spec.parse label w = y at agree
  cases agree with
  | ok like => exact .ok like
  | error same => exact .error (same ▸ sim.refl _)

/-- A step follows itself, since each refusal is related to itself. -/
theorem Simulates.self {α : Type} (x : Except CompileError α) : Follows X E Eq x x :=
  .agree (.of_refl sim.refl x)

/-- Where the first run has no level left, it is refused alike by a second run without levels, and
excused before one with levels. -/
theorem Simulates.follows_tooDeep {α : Type} {T : α → α → Prop} {levels : Nat}
    (deepens : Deepens X config 0 levels) {y : Except CompileError α}
    (refused : levels = 0 → y = .error (.tooDeep config'.maxDepth)) :
    Follows X E T (.error (.tooDeep config.maxDepth)) y := by
  cases levels with
  | zero =>
    rw [refused rfl]
    exact .error sim.tooDeep
  | succ rest => exact .excused (deepens.excuse (Nat.succ_pos rest)) y

/-- Runs that agree on the value of each key agree on the children of a path. -/
theorem childConditions_follows {levels levels' : Nat} {path : List String}
    (value : ∀ (label : String) (path : List String) {v w : Value}, S v w →
      Follows X E R (metadataCondition config levels label path v)
        (metadataCondition config' levels' label path w))
    {xs ys : List (String × Value)} (related : List.Forall₂ (EntryLike S) xs ys) :
    Follows X E (List.Forall₂ R) (childConditions config levels path xs)
      (childConditions config' levels' path ys) := by
  induction related with
  | nil => exact .ok .nil
  | cons first _ ih =>
    obtain ⟨key, related⟩ := first
    rw [childConditions, childConditions, ← sim.jsonColumn]
    refine (sim.self (childPath config.jsonColumn path key)).bind ?_
    rintro child _ rfl
    exact (value _ child related).bind fun c c' head => ih.bind fun cs cs' tail =>
      .ok (.cons head tail)

/-- Runs that agree on continuations of a path agree on shapes given for it. -/
theorem shapeCondition_follows {levels levels' : Nat} {path : List String}
    (continued : ∀ {xs ys : List (String × Value)}, List.Forall₂ (EntryLike S) xs ys →
      Follows X E R (pathCondition config levels path xs) (pathCondition config' levels' path ys))
    {spec spec' : Spec} (like : Spec.Like S spec spec') :
    Follows X E R (shapeCondition config levels path spec)
      (shapeCondition config' levels' path spec') := by
  cases like with
  | literal related =>
    rw [shapeCondition, shapeCondition, Value.isScalar, sim.structural.kind related]
    exact .agree (sim.leaf "" (.metadata path) _ related)
  | operator o related => exact .agree (sim.leaf "" (.metadata path) o related)
  | path related => exact continued related

/-- Runs agree on values for a path inside the JSON column. -/
theorem metadataCondition_follows {levels levels' : Nat} (deepens : Deepens X config levels levels')
    (label : String) (path : List String) {v w : Value} (related : S v w) :
    Follows X E R (metadataCondition config levels label path v)
      (metadataCondition config' levels' label path w) := by
  -- A continuation takes one level, so its children are those of the induction hypothesis.
  induction levels generalizing levels' label path v w with
  | zero =>
    rw [metadataCondition_eq, metadataCondition_eq]
    refine (sim.parse label related).bind fun spec spec' like => ?_
    refine shapeCondition_follows sim (fun _ => sim.follows_tooDeep deepens ?_) like
    rintro rfl
    rfl
  | succ levels ih =>
    obtain ⟨rest, rfl, below⟩ := deepens.pred
    rw [metadataCondition_eq, metadataCondition_eq]
    refine (sim.parse label related).bind fun spec spec' like => ?_
    refine shapeCondition_follows sim (fun children => ?_) like
    exact (childConditions_follows sim (ih below) children).bind fun cs cs' conditions =>
      .ok (sim.all conditions)

/-- Runs agree on shapes for a target outside the JSON column. -/
theorem shape_follows {key : String} (target : Target) (onList : Operator) {refusal : CompileError}
    {v w : Value} (related : S v w) :
    Follows X E R
      (Spec.parse key v >>= fun spec =>
        match spec.operation? onList with
        | some (o, operand) => Leaf.fragment config ⟨key, target, o, operand⟩
        | none => .error refusal)
      (Spec.parse key w >>= fun spec =>
        match spec.operation? onList with
        | some (o, operand) => Leaf.fragment config' ⟨key, target, o, operand⟩
        | none => .error refusal) := by
  refine (sim.parse key related).bind fun spec spec' like => ?_
  rcases like.operation sim.structural onList with ⟨o, v, w, left, right, related⟩ | ⟨left, right⟩
  · rw [left, right]
    exact .agree (sim.leaf key target o related)
  · rw [left, right]
    exact .error (sim.refl refusal)

/-- Runs agree on fields. -/
theorem fieldCondition_follows {levels levels' : Nat} (deepens : Deepens X config levels levels')
    (key : String) {v w : Value} (related : S v w) :
    Follows X E R (fieldCondition config levels key v) (fieldCondition config' levels' key w) := by
  unfold fieldCondition
  rw [← sim.target]
  split
  · exact .error (sim.refl _)
  · rename_i name _
    exact shape_follows sim (.column name) _ related
  · exact shape_follows sim .collection _ related
  · exact shape_follows sim .parent _ related
  · exact metadataCondition_follows sim deepens key _ related

/-- Related fields have conditions that follow one another, field by field. -/
theorem fieldConditions_follows {levels levels' : Nat} (deepens : Deepens X config levels levels')
    {xs ys : List (String × Value)} (related : List.Forall₂ (EntryLike S) xs ys) :
    Follows X E (List.Forall₂ R) (fieldConditions config levels xs)
      (fieldConditions config' levels' ys) := by
  induction related with
  | nil => exact .ok .nil
  | cons first _ ih =>
    obtain ⟨key, related⟩ := first
    rw [fieldConditions, fieldConditions]
    refine follows_ite Iff.rfl ih ?_
    exact (fieldCondition_follows sim deepens key related).bind fun c c' head =>
      ih.bind fun cs cs' tail => .ok (.cons head tail)

/-- Runs that agree on the groups of each list of entries agree on the elements of a group. -/
theorem elementConditions_follows {levels levels' : Nat} (k : Connective)
    (deepens : Deepens X config levels levels')
    (groups : ∀ {xs ys : List (String × Value)}, List.Forall₂ (EntryLike S) xs ys →
      Follows X E (List.Forall₂ R) (groupConditions config levels xs)
        (groupConditions config' levels' ys))
    {items items' : List Value} (related : List.Forall₂ S items items') :
    Follows X E (List.Forall₂ R) (elementConditions config levels k items)
      (elementConditions config' levels' k items') := by
  induction related with
  | nil =>
    rw [elementConditions, elementConditions]
    exact .ok .nil
  | @cons v w _ _ first _ ih =>
    have refused (notObject : ∀ xs, v ≠ .object xs) (notObject' : ∀ ys, w ≠ .object ys)
        (rest rest' : List Value) :
        Follows X E (List.Forall₂ R) (elementConditions config levels k (v :: rest))
          (elementConditions config' levels' k (w :: rest')) := by
      rw [elementConditions_of_not_object notObject, elementConditions_of_not_object notObject',
        sim.structural.kind first]
      exact .error (sim.refl _)
    rcases sim.structural.cases first with
      ⟨xs, ys, rfl, rfl, -⟩ | ⟨xs, ys, rfl, rfl, entries⟩ | ⟨isScalar, isScalar'⟩
    · exact refused (by simp) (by simp) _ _
    · rw [elementConditions, elementConditions]
      exact (groups entries).bind fun gs gs' ofGroups =>
        (fieldConditions_follows sim deepens entries).bind fun fs fs' ofFields =>
          ih.bind fun cs cs' tail => .ok (.cons (sim.all (List.rel_append ofGroups ofFields)) tail)
    · exact refused (Value.ne_object_of_isScalar isScalar)
        (Value.ne_object_of_isScalar isScalar') _ _

/-- Runs that agree on the groups of each list of entries, one level deeper, agree on groups. -/
theorem groupCondition_follows {levels levels' : Nat} (k : Connective)
    (deepens : Deepens X config levels levels')
    (groups : ∀ rest, levels = rest + 1 → ∀ {rest' : Nat}, Deepens X config rest rest' →
      ∀ {xs ys : List (String × Value)}, List.Forall₂ (EntryLike S) xs ys →
      Follows X E (List.Forall₂ R) (groupConditions config rest xs)
        (groupConditions config' rest' ys))
    {v w : Value} (related : S v w) :
    Follows X E R (groupCondition config levels k v) (groupCondition config' levels' k w) := by
  cases levels with
  | zero =>
    rw [groupCondition_zero]
    apply sim.follows_tooDeep deepens
    rintro rfl
    exact groupCondition_zero
  | succ levels =>
    obtain ⟨levels', rfl, below⟩ := deepens.pred
    have refused (notList : ∀ xs, v ≠ .list xs) (notList' : ∀ ys, w ≠ .list ys) :
        Follows X E R (groupCondition config (levels + 1) k v)
          (groupCondition config' (levels' + 1) k w) := by
      rw [groupCondition_of_not_list notList, groupCondition_of_not_list notList']
      exact .error (sim.refl _)
    rcases sim.structural.cases related with
      ⟨xs, ys, rfl, rfl, items⟩ | ⟨xs, ys, rfl, rfl, -⟩ | ⟨isScalar, isScalar'⟩
    · rw [groupCondition, groupCondition]
      exact (elementConditions_follows sim k below (groups levels rfl below) items).bind
        fun cs cs' conditions => .ok (sim.group k conditions)
    · exact refused (by simp) (by simp)
    · exact refused (Value.ne_list_of_isScalar isScalar) (Value.ne_list_of_isScalar isScalar')

/-- Related groups have conditions that follow one another, group by group. -/
theorem groupConditions_follows {levels levels' : Nat} (deepens : Deepens X config levels levels')
    {xs ys : List (String × Value)} (related : List.Forall₂ (EntryLike S) xs ys) :
    Follows X E (List.Forall₂ R) (groupConditions config levels xs)
      (groupConditions config' levels' ys) := by
  -- The elements of a group are compiled with one level less, the groups beside it with as many.
  induction levels using Nat.strongRecOn generalizing levels' xs ys with
  | ind levels below =>
    induction related with
    | nil =>
      rw [groupConditions, groupConditions]
      exact .ok .nil
    | cons first _ ih =>
      obtain ⟨key, related⟩ := first
      rw [groupConditions, groupConditions]
      refine follows_ite Iff.rfl ?_ ih
      refine (sim.self (connectiveOfKey key)).bind ?_
      rintro k _ rfl
      have group : Follows X E R (groupCondition config levels k _)
          (groupCondition config' levels' k _) :=
        groupCondition_follows sim k deepens
          (fun rest same _ deepens => below rest (by omega) deepens) related
      exact group.bind fun c c' head => ih.bind fun cs cs' tail => .ok (.cons head tail)

/-- Runs agree on lists of entries. -/
theorem entriesCondition_follows {levels levels' : Nat} (deepens : Deepens X config levels levels')
    {xs ys : List (String × Value)} (related : List.Forall₂ (EntryLike S) xs ys) :
    Follows X E R (entriesCondition config levels xs) (entriesCondition config' levels' ys) := by
  rw [entriesCondition, entriesCondition]
  exact (groupConditions_follows sim deepens related).bind fun gs gs' ofGroups =>
    (fieldConditions_follows sim deepens related).bind fun fs fs' ofFields =>
      .ok (sim.all (List.rel_append ofGroups ofFields))

/-- Runs agree on filters, apart from what is excused of the first where the second may nest
deeper. -/
theorem filterCondition_follows (deepens : Deepens X config config.maxDepth config'.maxDepth)
    {f f' : Filter} (related : List.Forall₂ (EntryLike S) f.entries f'.entries) :
    Follows X E R (filterCondition config f) (filterCondition config' f') :=
  entriesCondition_follows sim deepens related

/-- Runs with as many levels left agree on lists of entries. -/
theorem entriesCondition_agree (levels : Nat) {xs ys : List (String × Value)}
    (related : List.Forall₂ (EntryLike S) xs ys) :
    Agree E R (entriesCondition config levels xs) (entriesCondition config' levels ys) := by
  have follows : Follows (fun _ => False) E R (entriesCondition config levels xs)
      (entriesCondition config' levels ys) := entriesCondition_follows sim (.refl levels) related
  exact follows.agrees fun _ => id

/-- Runs with the same limit of nesting agree on filters. -/
theorem filterCondition_agree (limit : config.maxDepth = config'.maxDepth) {f f' : Filter}
    (related : List.Forall₂ (EntryLike S) f.entries f'.entries) :
    Agree E R (filterCondition config f) (filterCondition config' f') := by
  rw [filterCondition, filterCondition, ← limit]
  exact entriesCondition_agree sim _ related

end Compile

end FilterSql
