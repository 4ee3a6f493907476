import FilterSql.Proofs.Compile.Operand
import FilterSql.Proofs.Contexts
import FilterSql.Proofs.Parameters
import FilterSql.Proofs.Value.Document

/-!
# JSON parameters

A path inside the JSON column is compared with documents, and a document is bound as its text. Every
JSON parameter of a filter is the text of the operand of one leaf, and from this text the operand is
read back in its normal form (`json_params_decode`).
-/

set_option autoImplicit false

namespace FilterSql

open Sql

namespace Compile

/-- The operators on paths that take their operand as a document: equality takes lists and objects
so, containment takes any operand, and membership takes a list with elements, if it is written with
a JSON array. -/
def TakesDocument (strategy : MetadataIn) : Operator → Value → Prop
  | .compare .eq, v | .compare .ne, v => v.isScalar = false
  | .contains, _ => True
  | .within, v | .without, v => strategy = .jsonArrayElements ∧ v ≠ .list []
  | _, _ => False

/-- A leaf on a path inside the JSON column whose operand is taken as a document. -/
def Leaf.TakesDocument (config : Config) (leaf : Leaf) : Prop :=
  (∃ path, leaf.target = .metadata path) ∧
    Compile.TakesDocument config.metadataIn leaf.operator leaf.operand

/-- A parameter other than the text of a document. -/
def NoDocument (p : Param) : Prop := ∀ text, p ≠ .json text

/-- A condition in which one document is bound, that of the operand. -/
def BindsDocument (v : Value) (c : Fragment) : Prop :=
  ∃ field p, jsonOperand field v = .ok p ∧ c.values = [p]

/-- A condition in which no documents are bound. -/
def BindsNoDocument (c : Fragment) : Prop := ∀ p ∈ c.values, NoDocument p

section

variable {config : Config} {field : String} {o : Operator} {v : Value}

/-! ## Columns, collections and the parent -/

/-- A constant may stand in place of a condition. -/
theorem BindsNoDocument.orConstant {c : Fragment} (h : BindsNoDocument c) (truth : Bool) {p : Prop}
    [Decidable p] : BindsNoDocument (if p then .constant truth else c) := by
  split
  · simp [BindsNoDocument]
  · exact h

/-- A scalar is not bound as a document. -/
theorem scalarOperand_noDocument : Gives (scalarOperand field o v) NoDocument := by
  intro p given
  exact (scalarOperand_gives p given).2.ne.2.1

/-- No documents are bound for plain columns. -/
theorem columnOperation_bindsNoDocument {name : String} :
    Gives (columnOperation config field name o v) BindsNoDocument := by
  cases o with
  | compare c =>
    rw [columnOperation]
    refine gives_ite (gives_ok ?_) ?_
    · split <;> simp [BindsNoDocument]
    · refine gives_bind scalarOperand_noDocument fun p noDocument => gives_pure ?_
      simpa [BindsNoDocument] using noDocument
  | pattern p =>
    refine gives_bind_of_forall fun text => gives_pure ?_
    simp [BindsNoDocument, NoDocument]
  | within =>
    refine gives_bind_of_forall fun items => ?_
    refine gives_bind (gives_mapM (fun _ => scalarOperand_noDocument) items) ?_
    refine fun ps noDocuments => gives_pure (BindsNoDocument.orConstant ?_ false)
    simpa [BindsNoDocument] using noDocuments
  | without =>
    refine gives_bind_of_forall fun items => ?_
    refine gives_bind (gives_mapM (fun _ => scalarOperand_noDocument) items) ?_
    refine fun ps noDocuments => gives_pure (BindsNoDocument.orConstant ?_ true)
    simpa [BindsNoDocument] using noDocuments
  | overlap => exact gives_error _
  | contains => exact gives_error _

/-- An array of identifiers binds no documents. -/
theorem uuidArray_noDocument (ids : List Uuid) : ∀ p ∈ (uuidArray ids).values, NoDocument p := by
  unfold uuidArray
  split <;> simp [NoDocument]

/-- No documents are bound for the collections. -/
theorem collectionOperation_bindsNoDocument :
    Gives (collectionOperation field o v) BindsNoDocument := by
  have relation : ∀ r ids,
      BindsNoDocument (.test (.relation collectionTerm r (uuidArray ids))) := by
    intro r ids
    simpa [BindsNoDocument, collectionTerm] using uuidArray_noDocument ids
  have negated : ∀ ids, BindsNoDocument (.not (overlapTest ids)) := by
    intro ids
    rw [BindsNoDocument, Condition.values_not]
    exact relation .overlaps ids
  unfold collectionOperation
  split
  · exact gives_ok (by simp [BindsNoDocument, collectionTerm])
  · exact gives_ok (by simp [BindsNoDocument, collectionTerm])
  · exact gives_bind_of_forall fun ids => gives_pure (relation _ ids)
  · exact gives_bind_of_forall fun ids => gives_pure (relation _ ids)
  · exact gives_bind_of_forall fun id => gives_pure (relation _ [id])
  · exact gives_bind_of_forall fun id => gives_pure (negated [id])
  · refine gives_bind_of_forall fun items => gives_bind_of_forall fun ids => gives_pure ?_
    exact (relation _ ids).orConstant false
  · refine gives_bind_of_forall fun items => gives_bind_of_forall fun ids => gives_pure ?_
    exact (relation _ ids).orConstant false
  · refine gives_bind_of_forall fun items => gives_bind_of_forall fun ids => gives_pure ?_
    exact (negated ids).orConstant true
  · exact gives_bind_of_forall fun ids => gives_pure ((relation _ ids).orConstant true)
  · exact gives_bind_of_forall fun id => gives_pure (relation _ [id])
  · exact gives_error _
  · exact gives_error _

/-- The parent is compared with no documents. -/
theorem parentOperand_noDocument :
    Gives (parentOperand field o v) fun term => ∀ p ∈ term.values, NoDocument p := by
  unfold parentOperand
  split
  · exact gives_ok (by simp [NoDocument])
  · refine gives_bind scalarOperand_noDocument fun p noDocument => gives_pure ?_
    simpa using noDocument

/-- An array for the parent is no document. -/
theorem parentArray_noDocument {items : List Value} :
    Gives (parentArray field o items) fun term => ∀ p ∈ term.values, NoDocument p := by
  unfold parentArray
  split
  · exact gives_ok (by simp [NoDocument])
  · exact gives_bind_of_forall fun texts => gives_pure (by simp [NoDocument])

/-- No documents are bound for the parent. -/
theorem parentOperation_bindsNoDocument : Gives (parentOperation field o v) BindsNoDocument := by
  have constant : ∀ truth, BindsNoDocument (.constant truth) := by simp [BindsNoDocument]
  unfold parentOperation
  split
  · refine gives_ite (gives_ok (by simp [BindsNoDocument, parentTerm])) ?_
    refine gives_bind parentOperand_noDocument fun term noDocument => gives_pure ?_
    simpa [BindsNoDocument, parentTerm] using noDocument
  · refine gives_ite (gives_ok (by simp [BindsNoDocument, parentTerm])) ?_
    refine gives_bind parentOperand_noDocument fun term noDocument => gives_pure ?_
    simpa [BindsNoDocument, parentTerm] using noDocument
  · refine gives_bind_of_forall fun items => gives_ite (gives_pure (constant false)) ?_
    refine gives_bind parentArray_noDocument fun term noDocument => gives_pure ?_
    simpa [BindsNoDocument, parentTerm] using noDocument
  · refine gives_bind_of_forall fun items => gives_ite (gives_pure (constant true)) ?_
    refine gives_bind parentArray_noDocument fun term noDocument => gives_pure ?_
    simpa [BindsNoDocument, parentTerm] using noDocument
  · exact gives_error _

/-! ## Paths inside the JSON column -/

/-- A condition binds the document of an operand that is taken as one, and otherwise none. -/
def BindsAsTaken (strategy : MetadataIn) (o : Operator) (v : Value) (c : Fragment) : Prop :=
  (TakesDocument strategy o v → BindsDocument v c) ∧
    (¬ TakesDocument strategy o v → BindsNoDocument c)

/-- An operand that is taken as a document is bound as one. -/
theorem BindsDocument.asTaken {strategy : MetadataIn} {c : Fragment} (h : BindsDocument v c)
    (takes : TakesDocument strategy o v) : BindsAsTaken strategy o v c :=
  ⟨fun _ => h, fun not => absurd takes not⟩

/-- An operand that is not taken as a document is not bound as one. -/
theorem BindsNoDocument.asTaken {strategy : MetadataIn} {c : Fragment} (h : BindsNoDocument c)
    (not : ¬ TakesDocument strategy o v) : BindsAsTaken strategy o v c :=
  ⟨fun takes => absurd takes not, fun _ => h⟩

/-- The accessor of a document binds nothing. -/
theorem values_jsonAccessor (name : String) (path : List String) :
    (jsonAccessor name path : Term Param).values = [] := closed_jsonAccessor

/-- The accessor of a text binds nothing. -/
theorem values_textAccessor (name : String) (path : List String) :
    (textAccessor name path : Term Param).values = [] := closed_textAccessor

/-- The accessor that is cast for an operand binds nothing. -/
theorem values_typedAccessor (name : String) (path : List String) :
    (typedAccessor name path v : Term Param).values = [] := closed_typedAccessor

/-- A membership in a list with elements binds the list as a document under one strategy, and its
elements under the other. -/
theorem metadataMembership_bindsAsTaken {path : List String} {negated : Bool}
    {items : List Value} (nonempty : items ≠ []) (member : o = .within ∨ o = .without) :
    Gives (metadataMembership config field path o negated items)
      (BindsAsTaken config.metadataIn o (.list items)) := by
  unfold metadataMembership
  cases config.metadataIn with
  | placeholderList =>
    refine gives_bind_of_forall fun texts => gives_pure (BindsNoDocument.asTaken ?_ ?_)
    · split <;> simp [BindsNoDocument, NoDocument, values_textAccessor]
    · rcases member with rfl | rfl <;> simp [TakesDocument]
  | jsonArrayElements =>
    intro c h
    obtain ⟨p, document, h⟩ := bind_eq_ok_iff.1 h
    cases h
    refine BindsDocument.asTaken ⟨field, p, document, ?_⟩ ?_
    · split <;> simp [values_jsonAccessor]
    · rcases member with rfl | rfl <;> simpa [TakesDocument] using nonempty

/-- A comparison takes its operand as a document if it asks for equality with a list or an object.
-/
theorem takesDocument_compare_iff {strategy : MetadataIn} {c : Comparison} :
    TakesDocument strategy (.compare c) v ↔ c.isEquality = true ∧ v.isScalar = false := by
  cases c <;> simp [TakesDocument, Comparison.isEquality]

/-- Null is not taken as a document: it is compared with the JSON null. -/
theorem isJsonNull_bindsAsTaken {c : Comparison} (null : v = .null) (accessor : Term Param)
    (closed : accessor.values = []) :
    BindsAsTaken config.metadataIn (.compare c) v
      (if c = .ne then isNotJsonNull accessor else isJsonNull accessor) := by
  refine BindsNoDocument.asTaken ?_ ?_
  · split <;> simp [BindsNoDocument, isJsonNull, isNotJsonNull, jsonNull, closed]
  · rw [takesDocument_compare_iff, null]
    exact fun taken => by cases taken.2

/-- A comparison with a scalar binds no document. -/
theorem scalarComparison_bindsAsTaken {path : List String} {c : Comparison}
    (not : ¬ TakesDocument config.metadataIn o v) :
    Gives (scalarOperand field o v >>= fun p => pure (.test
      (.relation (typedAccessor config.jsonColumn path v) (.compare c) (.param p))))
      (BindsAsTaken config.metadataIn o v) := by
  refine gives_bind scalarOperand_noDocument fun p noDocument => gives_pure ?_
  exact BindsNoDocument.asTaken (by simpa [BindsNoDocument, values_typedAccessor] using noDocument)
    not

/-- A relation to a document binds the operand as one. -/
theorem documentRelation_bindsAsTaken {path : List String} {r : Relation}
    (takes : TakesDocument config.metadataIn o v) :
    Gives (jsonOperand field v >>= fun p => pure (.test
      (.relation (jsonAccessor config.jsonColumn path) r (.cast (.param p) .jsonb))))
      (BindsAsTaken config.metadataIn o v) := by
  intro c h
  obtain ⟨p, isDocument, h⟩ := bind_eq_ok_iff.1 h
  cases h
  exact BindsDocument.asTaken ⟨field, p, isDocument, by simp [values_jsonAccessor]⟩ takes

/-- A membership binds nothing for the empty list, and else what the strategy asks for. -/
theorem listMembership_bindsAsTaken {path : List String} {truth negated : Bool}
    (member : o = .within ∨ o = .without) :
    Gives (listOperand field o v >>= fun items =>
      if items.isEmpty = true then pure (.constant truth)
      else metadataMembership config field path o negated items)
      (BindsAsTaken config.metadataIn o v) := by
  intro c h
  cases v with
  | list items =>
    cases items with
    | nil =>
      cases h
      refine BindsNoDocument.asTaken (by simp [BindsNoDocument]) ?_
      rcases member with rfl | rfl <;> simp [TakesDocument]
    | cons item rest =>
      exact metadataMembership_bindsAsTaken (List.cons_ne_nil item rest) member c h
  | _ => cases h

/-- The builder for paths binds a document exactly where the operand is taken as one. -/
theorem metadataOperation_bindsAsTaken {path : List String} :
    Gives (metadataOperation config path o v) (BindsAsTaken config.metadataIn o v) := by
  cases o with
  | compare c =>
    rw [metadataOperation]
    split
    · rename_i null
      rw [Bool.and_eq_true, isNull_iff] at null
      exact gives_ok (isJsonNull_bindsAsTaken null.2 _ (values_jsonAccessor _ _))
    · split
      · rename_i isDocument
        rw [Bool.and_eq_true, Bool.not_eq_true'] at isDocument
        exact documentRelation_bindsAsTaken (takesDocument_compare_iff.2 isDocument)
      · rename_i notDocument
        rw [Bool.and_eq_true, Bool.not_eq_true'] at notDocument
        exact scalarComparison_bindsAsTaken (mt takesDocument_compare_iff.1 notDocument)
  | pattern p =>
    refine gives_bind_of_forall fun text => gives_pure (BindsNoDocument.asTaken ?_ id)
    simp [BindsNoDocument, NoDocument, values_textAccessor]
  | within => exact listMembership_bindsAsTaken (.inl rfl)
  | without => exact listMembership_bindsAsTaken (.inr rfl)
  | overlap => exact gives_error _
  | contains => exact documentRelation_bindsAsTaken trivial

/-- A leaf binds a document exactly where its operand is taken as one. -/
theorem Leaf.params_document {leaf : Leaf} (built : Succeeds (leaf.fragment config)) :
    (leaf.TakesDocument config → ∃ field p, jsonOperand field leaf.operand = .ok p ∧
      leaf.params config = [p]) ∧
    (¬ leaf.TakesDocument config → ∀ p ∈ leaf.params config, NoDocument p) := by
  obtain ⟨c, built⟩ := built
  rw [Leaf.params_of_ok built]
  obtain ⟨field, target, o, operand⟩ := leaf
  have outside (notPath : ∀ path, target ≠ .metadata path) (noDocuments : BindsNoDocument c) :
      (Leaf.TakesDocument config ⟨field, target, o, operand⟩ → BindsDocument operand c) ∧
        (¬ Leaf.TakesDocument config ⟨field, target, o, operand⟩ → BindsNoDocument c) := by
    refine ⟨?_, fun _ => noDocuments⟩
    rintro ⟨⟨path, isPath⟩, -⟩
    exact absurd isPath (notPath path)
  cases target with
  | metadata path =>
    obtain ⟨document, noDocument⟩ := metadataOperation_bindsAsTaken c built
    refine ⟨fun takes => document takes.2, fun notTaken => noDocument ?_⟩
    exact fun takes => notTaken ⟨⟨path, rfl⟩, takes⟩
  | column name =>
    exact outside (fun _ same => by cases same) (columnOperation_bindsNoDocument c built)
  | collection =>
    exact outside (fun _ same => by cases same) (collectionOperation_bindsNoDocument c built)
  | parent =>
    exact outside (fun _ same => by cases same) (parentOperation_bindsNoDocument c built)

end

end Compile

open Compile

/-- JSON parameters are read back. The parameters of a compiled filter are, behind the given ones,
those of its leaves, one leaf after another; a leaf whose operand is taken as a document has one
JSON parameter, and no other leaf has any. If the operand has no floating point numbers and is not
nested deeper than the reader goes, it is read back from the text of the parameter, in its normal
form. -/
theorem json_params_decode {compiler : Compiler} {f : Filter} {given : ParamList} {mode : Mode}
    {s : Statement} (h : compiler.compile f given mode = .ok s) :
    ∃ leaves : List Leaf, (∀ leaf, leaf ∈ leaves ↔ LeafOf compiler.config f.entries leaf) ∧
      s.params.items = given.items ++ leaves.flatMap (Leaf.params compiler.config) ∧
      (∀ leaf ∈ leaves, leaf.TakesDocument compiler.config →
        ∃ text, leaf.params compiler.config = [.json text] ∧
          (leaf.operand.floats = [] → leaf.operand.nesting ≤ Json.nestingLimit →
            (Json.ofText? text).map Value.ofJson = some leaf.operand.normal)) ∧
      ∀ leaf ∈ leaves, ¬ leaf.TakesDocument compiler.config →
        ∀ text, .json text ∉ leaf.params compiler.config := by
  obtain ⟨leaves, ofFilter, built, params⟩ := compile_params h
  refine ⟨leaves, ofFilter, params, fun leaf mem takes => ?_, fun leaf mem not text isParam => ?_⟩
  · obtain ⟨field, p, document, same⟩ := (Leaf.params_document (built leaf mem)).1 takes
    obtain ⟨text, rfl, decodes⟩ := jsonOperand_decodes document
    exact ⟨text, same, decodes⟩
  · exact (Leaf.params_document (built leaf mem)).2 not _ isParam text rfl

/-- A document with a repeated key, the greatest number, and characters that are escaped. -/
def repeatedKey : Value :=
  .object [("n", .signed 1), ("s", .string "a \"b\"\n\x01/é"), ("n", .list
    [.unsigned 18446744073709551615, .unsigned 5])]

/-- The document behind an operator, next to another leaf. -/
def repeatedKeyFilter : Filter :=
  ⟨[("m.k", .object [("$contains", repeatedKey)]), ("status", .string "new")]⟩

/-- Its text, in which the key stands once:
`{"n":[18446744073709551615,5],"s":"a \"b\"\n\u0001/é"}`. -/
def repeatedKeyText : String :=
  braced "\"n\":[18446744073709551615,5],\"s\":\"a \\\"b\\\"\\n\\u0001/é\""

/-- The document is bound as its text, and read back with the number five signed. -/
theorem repeatedKey_decodes :
    Compiler.default.compile repeatedKeyFilter ⟨[]⟩ .condition =
        .ok ⟨"(metadata->'m'->'k' @> $1::jsonb) AND (status = $2)",
          ⟨[.json repeatedKeyText, .text "new"]⟩⟩ ∧
      (Json.ofText? repeatedKeyText).map Value.ofJson =
        some (.object [("n", .list [.unsigned 18446744073709551615, .signed 5]),
          ("s", .string "a \"b\"\n\x01/é")]) := by
  have compiled : Compiler.default.compile repeatedKeyFilter ⟨[]⟩ .condition =
      .ok ⟨"(metadata->'m'->'k' @> $1::jsonb) AND (status = $2)",
        ⟨[.json repeatedKeyText, .text "new"]⟩⟩ := by
    decide +kernel
  have addressed : Compiler.default.config.target? "m.k" = some (.metadata ["m", "k"]) := by
    decide +kernel
  have parsed : Spec.parse "m.k" (.object [("$contains", repeatedKey)]) =
      .ok (.operator .contains repeatedKey) := Spec.parse_operator_iff.2 ⟨"$contains", rfl, rfl⟩
  let leaf : Leaf :=
    ⟨pathName "metadata" ["m", "k"], .metadata ["m", "k"], .contains, repeatedKey⟩
  have ofFilter : LeafOf Compiler.default.config repeatedKeyFilter.entries leaf :=
    .metadata List.mem_cons_self (by decide) addressed (.here parsed rfl)
  have params : leaf.params Compiler.default.config = [.json repeatedKeyText] := by
    decide +kernel
  obtain ⟨leaves, isLeaf, -, documents, -⟩ := json_params_decode compiled
  obtain ⟨text, same, decodes⟩ := documents leaf ((isLeaf leaf).2 ofFilter) ⟨⟨_, rfl⟩, trivial⟩
  have sameText := same.symm.trans params
  simp only [List.cons.injEq, Param.json.injEq, and_true] at sameText
  subst sameText
  exact ⟨compiled, decodes rfl (by decide)⟩

end FilterSql
