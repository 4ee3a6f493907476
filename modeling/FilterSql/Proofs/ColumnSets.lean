import FilterSql.Proofs.Compile.Text
import FilterSql.Proofs.Reconfiguration

/-!
# What the set of plain columns decides

A configuration names the plain columns, and the default columns stand in for an empty set. The
compiler asks one thing of that set: whether it holds the first segment of a field name. So a filter
is compiled alike under two sets that hold the same first segments of its field names, and nothing
below a path inside the JSON column depends on the set at all (`compile_of_same_columns`).
-/

set_option autoImplicit false

namespace FilterSql

/-- What stands before the first dot of a name, or the whole name. -/
def firstSegment (name : String) : String := String.ofList (name.toList.takeWhile (· ≠ '.'))

/-- Replaces the set of plain columns. It may be empty. -/
def Config.withColumnSet (config : Config) (columns : ColumnSet) : Config :=
  { config with columns := columns }

/-- Two configurations hold the same of some names to be plain columns. -/
def Config.SameColumns (config config' : Config) (names : String → Prop) : Prop :=
  ∀ name, names name →
    config.columns.orDefault.contains name = config'.columns.orDefault.contains name

/-- The first of the segments is what stands before the first dot. -/
theorem headD_segments (name : String) : (segments name).headD "" = firstSegment name := by
  have split : ∀ cs : List Char, ∃ others, splitDots cs = cs.takeWhile (· ≠ '.') :: others := by
    intro cs
    induction cs with
    | nil => exact ⟨[], rfl⟩
    | cons c rest ih =>
      obtain ⟨others, split⟩ := ih
      unfold splitDots
      by_cases dot : c = '.'
      · exact ⟨splitDots rest, by simp [dot]⟩
      · exact ⟨others, by simp [dot, split]⟩
  obtain ⟨others, split⟩ := split name.toList
  unfold segments firstSegment
  rw [split]
  rfl

/-- A field name is looked up by its first segment. -/
theorem Target.ofField?_congr {columns columns' : ColumnSet} (jsonColumn : String) {field : String}
    (same : columns.orDefault.contains (firstSegment field) =
      columns'.orDefault.contains (firstSegment field)) :
    ofField? columns jsonColumn field = ofField? columns' jsonColumn field := by
  unfold ofField?
  simp only [headD_segments, same]

namespace Compile

/-- No leaf is written with an eye to the plain columns: its target has been looked up before. -/
theorem Leaf.fragment_withColumnSet (config : Config) (columns : ColumnSet) (leaf : Leaf) :
    leaf.fragment (config.withColumnSet columns) = leaf.fragment config := by
  obtain ⟨field, target, o, operand⟩ := leaf
  cases target <;> rfl

end Compile

open Compile

/-- Two sets of plain columns make no difference to a filter if they hold the same first segments of
its field names, those of the elements of groups included: it has the same statement under both, or
is refused for the same cause. The keys below a path inside the JSON column are looked up in neither
set. -/
theorem compile_of_same_columns {given other : Compiler}
    (differ : other.config = given.config.withColumnSet other.config.columns) :
    (∀ f : Filter,
      given.config.SameColumns other.config
        (fun name => ∃ key, FieldOf f.entries key ∧ name = firstSegment key) →
      ∀ params mode, given.compile f params mode = other.compile f params mode) ∧
    ∀ levels label path v, metadataCondition given.config levels label path v =
      metadataCondition other.config levels label path v := by
  have jsonColumn : given.config.jsonColumn = other.config.jsonColumn := by
    rw [differ, Config.withColumnSet]
  have maxDepth : given.config.maxDepth = other.config.maxDepth := by
    rw [differ, Config.withColumnSet]
  have leaves (kind : Leaf → Prop) : SameLeaves given.config other.config kind := by
    intro leaf _
    rw [differ, Leaf.fragment_withColumnSet]
  constructor
  · intro f same params mode
    have target : ∀ key, FieldOf f.entries key →
        given.config.target? key = other.config.target? key := by
      intro key ofFilter
      unfold Config.target?
      rw [← jsonColumn]
      apply Target.ofField?_congr
      exact same _ ⟨key, ofFilter, rfl⟩
    rw [compile_eq, compile_eq, filterCondition_congr jsonColumn maxDepth target (leaves _)]
  · intro levels label path v
    exact metadataCondition_congr jsonColumn maxDepth (leaves _)

/-- Where no value is a list there are no groups, and only the keys themselves are field names. -/
theorem FieldOf.mem_keys {entries : List (String × Value)} {field : String}
    (h : FieldOf entries field) (noLists : ∀ entry ∈ entries, ∀ items, entry.2 ≠ .list items) :
    field ∈ entries.map Prod.fst := by
  cases h with
  | here mem _ => exact List.mem_map_of_mem mem
  | group mem _ _ _ => exact absurd rfl (noLists _ mem _)

/-- Two plain columns. One of them is a default column. -/
def fewColumns : Compiler :=
  ⟨Config.withColumnSet {} (.ofList ["status", "tag"]), by decide⟩

/-- No plain columns, in place of which the default columns stand. -/
def noColumns : Compiler := ⟨Config.withColumnSet {} .empty, by decide⟩

/-- A field under a column that both sets hold, and paths inside the JSON column with keys that only
one of them holds. -/
def columnLikeKeys : Filter :=
  ⟨[("$or", .list [.object [("status.code", .string "new")],
      .object [("note", .object [("title", .string "a"), ("tag", .string "b")])]]),
    ("m.title", .string "c")]⟩

/-- The statement of `columnLikeKeys`. -/
def columnLikeStatement : Statement :=
  ⟨"((status.code = $1) OR ((metadata->'note'->>'title' = $2) AND " ++
      "(metadata->'note'->>'tag' = $3))) AND (metadata->'m'->>'title' = $4)",
    ⟨[.text "new", .text "a", .text "b", .text "c"]⟩⟩

/-- Both sets hold the same first segments, and both statements are the same. Names that only one of
the sets holds stay keys of paths there, though they are looked up differently as field names. -/
theorem columnLikeKeys_statement :
    fewColumns.config.SameColumns noColumns.config
        (fun name => ∃ key, FieldOf columnLikeKeys.entries key ∧ name = firstSegment key) ∧
      fewColumns.compile columnLikeKeys ⟨[]⟩ .condition = .ok columnLikeStatement ∧
      noColumns.compile columnLikeKeys ⟨[]⟩ .condition = .ok columnLikeStatement ∧
      fewColumns.config.target? "title" ≠ noColumns.config.target? "title" := by
  -- These are the keys that are looked up. The values below them are no lists.
  have names : ∀ key, FieldOf columnLikeKeys.entries key →
      key ∈ ["status.code", "note", "m.title"] := by
    intro key ofFilter
    cases ofFilter with
    | here mem isField =>
      simp only [columnLikeKeys, List.mem_cons, Prod.mk.injEq] at mem
      rcases mem with ⟨rfl, -⟩ | ⟨rfl, -⟩ | none
      · cases isField
      · decide
      · cases none
    | group mem isGroup item below =>
      simp only [columnLikeKeys, List.mem_cons, Prod.mk.injEq] at mem
      rcases mem with ⟨-, same⟩ | ⟨-, same⟩ | none
      · cases same
        simp only [List.mem_cons, Value.object.injEq] at item
        rcases item with rfl | rfl | none
        · obtain rfl := List.mem_singleton.1 (below.mem_keys (by simp))
          decide
        · obtain rfl := List.mem_singleton.1 (below.mem_keys (by simp))
          decide
        · cases none
      · cases same
      · cases none
  have same : fewColumns.config.SameColumns noColumns.config
      (fun name => ∃ key, FieldOf columnLikeKeys.entries key ∧ name = firstSegment key) := by
    rintro _ ⟨key, ofFilter, rfl⟩
    have each : ∀ key ∈ ["status.code", "note", "m.title"],
        fewColumns.config.columns.orDefault.contains (firstSegment key) =
          noColumns.config.columns.orDefault.contains (firstSegment key) := by decide +kernel
    exact each key (names key ofFilter)
  have few : fewColumns.compile columnLikeKeys ⟨[]⟩ .condition = .ok columnLikeStatement := by
    decide +kernel
  have alike := (@compile_of_same_columns fewColumns noColumns rfl).1 columnLikeKeys same ⟨[]⟩
    .condition
  exact ⟨same, few, alike ▸ few, by decide +kernel⟩

end FilterSql
