import FilterSql.Proofs.Documents
import FilterSql.Proofs.Json.Text
import FilterSql.Proofs.ParentLists
import FilterSql.Proofs.Reconfiguration
import FilterSql.Proofs.SingleField

/-!
# Membership on metadata

Membership in a list on a path inside the JSON column is written in one of two ways: every element
is bound as a text of its own, or the list is bound as one JSON array. Both take the same scalars
and bind the same texts for them, and nothing but these conditions depends on which way is chosen
(`membership_strategies`).
-/

set_option autoImplicit false

namespace FilterSql

open Sql

/-- What asks for membership in a list: the list itself, or an operator before it. -/
inductive AsksMembership (items : List Value) : Value → Prop
  | bare : AsksMembership items (.list items)
  | within : AsksMembership items (Operator.within.condition (.list items))
  | without : AsksMembership items (Operator.without.condition (.list items))

/-- How a scalar with a given text is spelled in a JSON array: a string as a literal, any other
scalar as its text. -/
def Value.spelled : Value → String → String
  | .string _, text => (Json.string text).text
  | _, text => text

/-- The text of the JSON array of scalars with given texts. -/
def arrayText (items : List Value) (texts : List String) : String :=
  "[" ++ ",".intercalate (List.zipWith Value.spelled items texts) ++ "]"

namespace Value

/-! ## Scalars in arrays -/

/-- A scalar with a finite number becomes a document, which is written as the scalar is spelled. -/
theorem toJson_spelled {v : Value} {text : String} (finite : v.IsFinite)
    (isText : v.toText? = some text) : ∃ j, v.toJson = .ok j ∧ j.text = v.spelled text := by
  cases v with
  | null => cases isText
  | list items => cases isText
  | object entries => cases isText
  | bool b => cases b <;> cases isText <;> exact ⟨_, rfl, rfl⟩
  | signed n =>
    cases isText
    exact ⟨_, rfl, rfl⟩
  | unsigned n =>
    cases isText
    exact ⟨_, rfl, rfl⟩
  | string s =>
    cases isText
    exact ⟨_, rfl, rfl⟩
  | float x =>
    cases isText
    have isFinite : x.isFinite = true := finite x (List.mem_singleton_self x)
    refine ⟨.number (.float x isFinite), ?_, rfl⟩
    simp only [toJson, Json.Number.ofFloat?, isFinite, dite_true]

/-- Elements that have texts become documents as they are spelled, one by one. -/
theorem itemsToJson_spelled {items : List Value} {texts : List String}
    (areTexts : List.Forall₂ (fun item text => item.toText? = some text) items texts)
    (finite : ∀ item ∈ items, item.IsFinite) :
    ∃ js, itemsToJson items = .ok js ∧
      js.map Json.text = List.zipWith Value.spelled items texts := by
  induction areTexts with
  | nil => exact ⟨[], rfl, rfl⟩
  | cons isText _ ih =>
    obtain ⟨first, others⟩ := List.forall_mem_cons.1 finite
    obtain ⟨j, document, spelled⟩ := toJson_spelled first isText
    obtain ⟨js, documents, allSpelled⟩ := ih others
    refine ⟨j :: js, ?_, ?_⟩
    · rw [itemsToJson, document, documents]
      rfl
    · rw [List.map_cons, spelled, allSpelled, List.zipWith_cons_cons]

/-- The list becomes the array of its elements as they are spelled. -/
theorem toJson_arrayText {items : List Value} {texts : List String}
    (areTexts : List.Forall₂ (fun item text => item.toText? = some text) items texts)
    (finite : ∀ item ∈ items, item.IsFinite) :
    ∃ j, (Value.list items).toJson = .ok j ∧ j.text = arrayText items texts := by
  obtain ⟨js, documents, spelled⟩ := itemsToJson_spelled areTexts finite
  refine ⟨.array js, ?_, ?_⟩
  · rw [toJson, documents]
    rfl
  · rw [Json.text_array, spelled, arrayText]

end Value

namespace Compile

section

variable {config : Config} {field : String} {path : List String} {o : Operator} {negated : Bool}
  {items : List Value} {texts : List String}

/-! ## The two ways -/

/-- Scalars other than null have texts. -/
theorem forall₂_toText (plain : ∀ item ∈ items, item.IsPlainScalar) :
    ∃ texts, List.Forall₂ (fun item text => item.toText? = some text) items texts := by
  obtain ⟨texts, given⟩ := succeeds_mapM_iff.2 fun item mem =>
    (@textOperand_succeeds_iff "" .within item).2 (plain item mem)
  exact ⟨texts, (gives_mapM_forall₂ _ _ texts given).imp fun item text => textOperand_ok⟩

/-- With a placeholder for each element, the texts of the elements are bound. -/
theorem metadataMembership_placeholders (strategy : config.metadataIn = .placeholderList)
    (areTexts : List.Forall₂ (fun item text => item.toText? = some text) items texts) :
    ∃ c, metadataMembership config field path o negated items = .ok c ∧
      c.values = texts.map .text := by
  have given : items.mapM (textOperand field o) = .ok texts := by
    induction areTexts with
    | nil => rfl
    | cons isText _ ih =>
      rw [List.mapM_cons, ih, textOperand, isText]
      rfl
  rw [metadataMembership, strategy]
  simp only [given]
  refine ⟨_, rfl, ?_⟩
  split <;> simp [values_textAccessor]

/-- With one JSON array, its text is bound. -/
theorem metadataMembership_elements (strategy : config.metadataIn = .jsonArrayElements)
    (areTexts : List.Forall₂ (fun item text => item.toText? = some text) items texts)
    (finite : ∀ item ∈ items, item.IsFinite) :
    ∃ c, metadataMembership config field path o negated items = .ok c ∧
      c.values = [.json (arrayText items texts)] := by
  obtain ⟨j, document, spelled⟩ := Value.toJson_arrayText areTexts finite
  have given : jsonOperand field (.list items) = .ok (.json (arrayText items texts)) := by
    simp only [jsonOperand, document, spelled]
  rw [metadataMembership, strategy]
  simp only [given]
  refine ⟨_, rfl, ?_⟩
  split <;> simp [values_jsonAccessor]

/-- What asks for membership in a list that is not empty is written as membership, under the
operator for membership or for its negation. -/
theorem metadataCondition_asksMembership (nonempty : items ≠ []) {v : Value}
    (asks : AsksMembership items v) : ∃ o negated, ∀ (config : Config) (levels : Nat)
      (label : String) (path : List String), metadataCondition config levels label path v =
        metadataMembership config (pathName config.jsonColumn path) path o negated items := by
  cases items with
  | nil => exact absurd rfl nonempty
  | cons item rest =>
    cases asks with
    | bare =>
      refine ⟨.within, false, fun config levels label path => ?_⟩
      have parsed : Spec.parse label (.list (item :: rest)) = .ok (.literal _) := rfl
      rw [metadataCondition_of_operation parsed rfl]
      rfl
    | within =>
      refine ⟨.within, false, fun config levels label path => ?_⟩
      rw [metadataCondition_of_operation (Spec.parse_condition label _ _) rfl]
      rfl
    | without =>
      refine ⟨.without, true, fun config levels label path => ?_⟩
      rw [metadataCondition_of_operation (Spec.parse_condition label _ _) rfl]
      rfl

end

/-! ## Everything else -/

/-- A leaf that asks for membership in a list that is not empty, on a path inside the JSON column.
-/
def Leaf.AsksMembership (leaf : Leaf) : Prop :=
  (∃ path, leaf.target = .metadata path) ∧
    (leaf.operator = .within ∨ leaf.operator = .without) ∧
    ∃ items, items ≠ [] ∧ leaf.operand = .list items

/-- Only leaves that ask for membership look at how membership is written. -/
theorem Leaf.fragment_withMetadataIn (config : Config) (strategy : MetadataIn) {leaf : Leaf}
    (other : ¬ leaf.AsksMembership) :
    leaf.fragment config = leaf.fragment (config.withMetadataIn strategy) := by
  obtain ⟨field, target, o, operand⟩ := leaf
  cases target with
  | metadata path =>
    have notMember (member : o = .within ∨ o = .without) :
        Leaf.fragment config ⟨field, .metadata path, o, operand⟩ =
          Leaf.fragment (config.withMetadataIn strategy) ⟨field, .metadata path, o, operand⟩ := by
      cases operand with
      | list items =>
        cases items with
        | nil => rcases member with rfl | rfl <;> rfl
        | cons item rest =>
          exact absurd ⟨⟨path, rfl⟩, member, _, List.cons_ne_nil item rest, rfl⟩ other
      | _ => rcases member with rfl | rfl <;> rfl
    cases o with
    | within => exact notMember (.inl rfl)
    | without => exact notMember (.inr rfl)
    | _ => rfl
  | _ => rfl

end Compile

open Compile

/-- The two ways to write membership on metadata agree. A list with elements, all of them scalars
other than null with finite numbers, is compiled under both, wherever it stands and however
membership is asked for: one binds the texts of the elements, one after another, and the other one
document, which is the array of the same texts with strings as literals. A filter in which nothing
asks for membership on metadata in a list with elements is compiled to the same statement, or
refused for the same cause. -/
theorem membership_strategies {listed elements : Compiler}
    (isListed : listed.config.metadataIn = .placeholderList)
    (differ : elements.config = listed.config.withMetadataIn .jsonArrayElements) :
    (∀ items : List Value, items ≠ [] → (∀ item ∈ items, item.IsPlainScalar ∧ item.IsFinite) →
      ∃ texts, List.Forall₂ (fun item text => item.toText? = some text) items texts ∧
        ∀ v, AsksMembership items v →
          (∀ levels label path, ∃ c c',
            metadataCondition listed.config levels label path v = .ok c ∧
            metadataCondition elements.config levels label path v = .ok c' ∧
            c.values = texts.map .text ∧ c'.values = [.json (arrayText items texts)]) ∧
          ∀ key path given mode, isKeywordKey key = false →
            listed.config.target? key = some (.metadata path) →
            ∃ s s', listed.compile (.single key v) given mode = .ok s ∧
              elements.compile (.single key v) given mode = .ok s' ∧
              s.params.items = given.items ++ texts.map .text ∧
              s'.params.items = given.items ++ [.json (arrayText items texts)]) ∧
    ∀ f : Filter, (∀ leaf, LeafOf listed.config f.entries leaf → ¬ leaf.AsksMembership) →
      ∀ given mode, listed.compile f given mode = elements.compile f given mode := by
  -- The two configurations differ in the strategy alone, so names and the limit are read alike.
  have isElements : elements.config.metadataIn = .jsonArrayElements := by
    rw [differ, Config.withMetadataIn]
  have sameTarget (key : String) : listed.config.target? key = elements.config.target? key := by
    rw [differ]
    rfl
  have sameLimit : listed.config.maxDepth = elements.config.maxDepth := by
    rw [differ, Config.withMetadataIn]
  constructor
  · intro items nonempty each
    obtain ⟨texts, areTexts⟩ := forall₂_toText fun item mem => (each item mem).1
    refine ⟨texts, areTexts, fun v asks => ?_⟩
    obtain ⟨o, negated, written⟩ := metadataCondition_asksMembership nonempty asks
    have onPath (levels : Nat) (label : String) (path : List String) : ∃ c c',
        metadataCondition listed.config levels label path v = .ok c ∧
        metadataCondition elements.config levels label path v = .ok c' ∧
        c.values = texts.map .text ∧ c'.values = [.json (arrayText items texts)] := by
      rw [written, written]
      obtain ⟨c, built, values⟩ := metadataMembership_placeholders isListed areTexts
      obtain ⟨c', built', values'⟩ :=
        metadataMembership_elements isElements areTexts fun item mem => (each item mem).2
      exact ⟨c, c', built, built', values, values'⟩
    refine ⟨onPath, fun key path given mode isField addressed => ?_⟩
    obtain ⟨c, c', condition, condition', values, values'⟩ :=
      onPath listed.config.maxDepth key path
    have addressed' := (sameTarget key).symm.trans addressed
    rw [← fieldCondition_of_metadata addressed] at condition
    rw [sameLimit, ← fieldCondition_of_metadata addressed'] at condition'
    obtain ⟨s, compiled, params⟩ := compile_single_ok isField condition
    obtain ⟨s', compiled', params'⟩ := compile_single_ok isField condition'
    exact ⟨s, s', compiled, compiled', values ▸ params, values' ▸ params'⟩
  · intro f others given mode
    have sameLeaves :
        SameLeaves listed.config elements.config (LeafOf listed.config f.entries) := by
      intro leaf ofFilter
      rw [differ]
      exact Leaf.fragment_withMetadataIn listed.config .jsonArrayElements (others leaf ofFilter)
    have sameColumn : listed.config.jsonColumn = elements.config.jsonColumn := by
      rw [differ, Config.withMetadataIn]
    rw [compile_eq, compile_eq,
      filterCondition_congr sameColumn sameLimit (fun key _ => sameTarget key) sameLeaves]

/-- The default configuration, with JSON arrays for membership on metadata. -/
def arrayCompiler : Compiler := ⟨Config.withMetadataIn {} .jsonArrayElements, by decide⟩

/-- Scalars of all kinds, with the greatest number and a string that needs an escape. -/
def mixedItems : List Value :=
  [.signed (-1), .unsigned 18446744073709551615, .bool true, .float 0.5, .string "a\"b"]

/-- Outside of `mixedItems`, on a path. -/
def notMixed : Filter := .single "m.k" (Operator.without.condition (.list mixedItems))

/-- Both ways bind the texts of the elements, in the array only the string differs, and membership
on a column is not concerned. -/
theorem mixedItems_membership :
    (∃ s s', Compiler.default.compile notMixed ⟨[.null]⟩ .condition = .ok s ∧
      arrayCompiler.compile notMixed ⟨[.null]⟩ .condition = .ok s' ∧
      s.params.items = [.null, .text "-1", .text "18446744073709551615", .text "true",
        .text "0.5", .text "a\"b"] ∧
      s'.params.items =
        [.null, .json "[-1,18446744073709551615,true,0.5,\"a\\\"b\"]"]) ∧
    Compiler.default.compile (.single "status" (.list mixedItems)) ⟨[]⟩ .whereClause =
      arrayCompiler.compile (.single "status" (.list mixedItems)) ⟨[]⟩ .whereClause := by
  obtain ⟨agree, others⟩ := @membership_strategies Compiler.default arrayCompiler rfl rfl
  constructor
  · have finite : (0.5 : Float).isFinite = true := by decide +kernel
    have each : ∀ item ∈ mixedItems, item.IsPlainScalar ∧ item.IsFinite := by
      simp [mixedItems, Value.IsPlainScalar, Value.isScalar, Value.kind, Value.IsFinite,
        Value.floats, finite]
    obtain ⟨texts, areTexts, asked⟩ := agree mixedItems (List.cons_ne_nil _ _) each
    obtain ⟨s, s', compiled, compiled', params, params'⟩ := (asked _ .without).2 "m.k" ["m", "k"]
      ⟨[.null]⟩ .condition (by decide) (by decide +kernel)
    obtain rfl : texts = ["-1", "18446744073709551615", "true", "0.5", "a\"b"] := by
      obtain _ | ⟨⟨⟩, _ | ⟨⟨⟩, _ | ⟨⟨⟩, _ | ⟨⟨⟩, _ | ⟨⟨⟩, ⟨⟩⟩⟩⟩⟩⟩ := areTexts
      decide +kernel
    refine ⟨s, s', compiled, compiled', params, params'.trans ?_⟩
    decide
  · have addressed : Compiler.default.config.target? "status" = some (.column "status") := by
      decide +kernel
    refine others (.single "status" (.list mixedItems)) (fun leaf ofFilter asks => ?_) _ _
    obtain ⟨⟨path, onPath⟩, -⟩ := asks
    cases ofFilter with
    | field _ _ _ plain => exact plain path onPath
    | metadata mem _ addressed' =>
      cases List.mem_singleton.1 mem
      cases addressed.symm.trans addressed'
    | group mem isGroup =>
      cases List.mem_singleton.1 mem
      cases isGroup

end FilterSql
