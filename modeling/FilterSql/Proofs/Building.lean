import FilterSql.Compile.Statement
import FilterSql.Filter.Builder
import FilterSql.Proofs.Value.RoundTrip

/-!
# Building and decoding

The steps that build a filter can be written down as a document, each as the member that it stands
for. If no filter among them is given a key twice, and what is compared with loses nothing as a
document, then that document is decoded to the filter that the steps build (`document_decodes`).
-/

set_option autoImplicit false

namespace FilterSql

/-- A value that loses nothing as a document: its floating point numbers are finite, its unsigned
numbers are beyond the signed ones, and its objects have different keys. -/
inductive Value.IsNormal : Value → Prop
  | null : IsNormal .null
  | bool (b : Bool) : IsNormal (.bool b)
  | signed (n : Int64) : IsNormal (.signed n)
  | unsigned {n : UInt64} (large : 0x8000000000000000 ≤ n.toNat) : IsNormal (.unsigned n)
  | float {x : Float} (finite : x.isFinite = true) : IsNormal (.float x)
  | string (s : String) : IsNormal (.string s)
  | list {items : List Value} (each : ∀ item ∈ items, IsNormal item) : IsNormal (.list items)
  | object {entries : List (String × Value)} (nodup : (Members.keys entries).Nodup)
    (each : ∀ entry ∈ entries, IsNormal entry.2) : IsNormal (.object entries)

/-- A document reads as a value, and repeats no key. -/
def Json.ReadsAs (j : Json) (v : Value) : Prop := Value.ofJson j = v ∧ j.KeysDistinct

/-! ## Writing down what is built -/

namespace BuildStep

/-- The member that asks for one operator on a field. -/
def written (key operator : String) (operand : Value) : Except NonFinite (String × Json) := do
  return (key, .object [(operator, ← operand.toJson)])

mutual

/-- The member that stands for a step. -/
def member : BuildStep → Except NonFinite (String × Json)
  | .field key value => do return (key, ← value.toJson)
  | .compare .eq key value => written key "$eq" value
  | .compare .ne key value => written key "$ne" value
  | .compare .lt key value => written key "$lt" value
  | .compare .lte key value => written key "$lte" value
  | .compare .gt key value => written key "$gt" value
  | .compare .gte key value => written key "$gte" value
  | .pattern .like key text => written key "$like" (.string text)
  | .pattern .ilike key text => written key "$ilike" (.string text)
  | .inList key values => written key "$in" (.list values)
  | .notInList key values => written key "$nin" (.list values)
  | .overlap key values => written key "$overlap" (.list values)
  | .contains key value => written key "$contains" value
  | .isNull key => written key "$eq" .null
  | .isNotNull key => written key "$ne" .null
  | .group .and filters => do return ("$and", .array (← documents filters))
  | .group .or filters => do return ("$or", .array (← documents filters))

/-- The members that stand for steps, in their order. -/
def members : List BuildStep → Except NonFinite (List (String × Json))
  | [] => .ok []
  | step :: rest => do
    let first ← member step
    let others ← members rest
    return first :: others

/-- The documents of the filters that a group joins. -/
def documents : List (List BuildStep) → Except NonFinite (List Json)
  | [] => .ok []
  | steps :: rest => do
    let first ← members steps
    let others ← documents rest
    return .object first :: others

end

/-- The document that writes steps down. -/
def document (steps : List BuildStep) : Except NonFinite Json := do
  return .object (← members steps)

/-- What a step compares with, as the value that it is given. Groups and tests for null are given
none. -/
def operand? : BuildStep → Option Value
  | .field _ value | .compare _ _ value | .contains _ value => some value
  | .pattern _ _ text => some (.string text)
  | .inList _ values | .notInList _ values | .overlap _ values => some (.list values)
  | .isNull _ | .isNotNull _ | .group _ _ => none

end BuildStep

/-- Steps that give no filter a key twice, neither the one they build nor one that it joins, and
whose operands lose nothing as documents. -/
inductive WellKeyed : List BuildStep → Prop
  | mk {steps : List BuildStep} (nodup : (Members.keys (BuildStep.entries steps)).Nodup)
    (normal : ∀ step ∈ steps, ∀ v ∈ step.operand?, v.IsNormal)
    (below : ∀ c filters, .group c filters ∈ steps → ∀ sub ∈ filters, WellKeyed sub) :
    WellKeyed steps

/-! ## Operands -/

namespace Value

/-- Decoding keeps the keys and their order. -/
theorem keys_ofMembers (members : List (String × Json)) :
    Members.keys (ofMembers members) = Members.keys members := by
  simp [ofMembers_eq, Members.mapValues, Members.keys, Function.comp_def]

/-- A list of normal values is in normal form. -/
theorem normalItems_of_each {items : List Value} (each : ∀ item ∈ items, item.normal = item) :
    normalItems items = items := by
  induction items with
  | nil => rfl
  | cons item rest ih =>
    obtain ⟨first, others⟩ := List.forall_mem_cons.1 each
    rw [normalItems, first, ih others]

/-- Entries whose values are normal are in normal form. -/
theorem normalEntries_of_each {entries : List (String × Value)}
    (each : ∀ entry ∈ entries, entry.2.normal = entry.2) : normalEntries entries = entries := by
  induction entries with
  | nil => rfl
  | cons entry rest ih =>
    obtain ⟨key, v⟩ := entry
    obtain ⟨first, others⟩ := List.forall_mem_cons.1 each
    rw [normalEntries, first, ih others]

namespace IsNormal

variable {v : Value} (h : v.IsNormal)

include h

/-- A value that loses nothing is its own normal form. -/
theorem normal_eq : v.normal = v := by
  induction h with
  | null => rfl
  | bool b => rfl
  | signed n => rfl
  | unsigned large => rw [normal, ofUInt64, if_neg (Nat.not_lt.2 large)]
  | float finite => rfl
  | string s => rfl
  | list _ ih => rw [normal, normalItems_of_each ih]
  | object nodup _ ih => rw [normal, normalEntries_of_each ih, Members.collapse_of_nodup nodup]

/-- A normal value holds no number that documents cannot hold. -/
theorem isFinite : v.IsFinite := by
  induction h with
  | @float x finite =>
    intro y mem
    rwa [List.mem_singleton.1 mem]
  | list _ ih => exact Compile.isFinite_list_iff.2 ih
  | object _ _ ih => exact Compile.isFinite_object_iff.2 ih
  | _ => exact List.forall_mem_nil _

/-- A value that loses nothing is read back from its document. -/
theorem toJson_readsAs : ∃ j, v.toJson = .ok j ∧ j.ReadsAs v := by
  obtain ⟨j, document⟩ := (Compile.toJson_succeeds_iff.1 v).2 h.isFinite
  have shows := toJson_shows.1 v j document
  refine ⟨j, document, shows.value.trans h.normal_eq, ?_⟩
  rw [← shows.collapsed]
  exact Json.keysDistinct_collapse.1 j

end IsNormal

end Value

namespace BuildStep

/-- A member reads as an entry: it has the same key, and its document reads as the value. -/
def ReadsAsEntry (member : String × Json) (entry : String × Value) : Prop :=
  member.1 = entry.1 ∧ member.2.ReadsAs entry.2

/-! ## Steps -/

/-- What asks for an operator reads as the condition with that operator. -/
theorem written_readsAs {key operator : String} {operand : Value} (normal : operand.IsNormal) :
    ∃ m, written key operator operand = .ok m ∧
      ReadsAsEntry m (key, .object [(operator, operand)]) := by
  obtain ⟨j, document, reads, distinct⟩ := normal.toJson_readsAs
  refine ⟨(key, .object [(operator, j)]), ?_, rfl, ?_, ?_⟩
  · rw [written, document]
    rfl
  · simp only [Value.ofJson, Value.ofMembers, reads]
  · exact .object (List.nodup_singleton operator) (by simpa using distinct)

/-- Members that each read as the entry of their step read as the entries of all steps. -/
theorem members_readAs {steps : List BuildStep}
    (each : ∀ step ∈ steps, ∃ m, member step = .ok m ∧ ReadsAsEntry m (entry step)) :
    ∃ ms, members steps = .ok ms ∧ Value.ofMembers ms = entries steps ∧
      ∀ m ∈ ms, m.2.KeysDistinct := by
  induction steps with
  | nil => exact ⟨[], rfl, rfl, List.forall_mem_nil _⟩
  | cons step rest ih =>
    obtain ⟨⟨m, isMember, sameKey, reads, distinct⟩, others⟩ := List.forall_mem_cons.1 each
    obtain ⟨ms, areMembers, allRead, allDistinct⟩ := ih others
    refine ⟨m :: ms, ?_, ?_, List.forall_mem_cons.2 ⟨distinct, allDistinct⟩⟩
    · rw [members, isMember, areMembers]
      rfl
    · rw [entries, Value.ofMembers, sameKey, reads, allRead]

/-- The document of steps with different keys reads as the object of their entries. -/
theorem object_readsAs {steps : List BuildStep} (nodup : (Members.keys (entries steps)).Nodup)
    {ms : List (String × Json)} (allRead : Value.ofMembers ms = entries steps)
    (distinct : ∀ m ∈ ms, m.2.KeysDistinct) :
    (Json.object ms).ReadsAs (.object (entries steps)) := by
  refine ⟨congrArg Value.object allRead, .object ?_ distinct⟩
  rwa [← Value.keys_ofMembers, allRead]

/-- A group reads as the list of what its filters read as. -/
theorem documents_readAs {filters : List (List BuildStep)}
    (each : ∀ sub ∈ filters, ∃ ms, members sub = .ok ms ∧
      (Json.object ms).ReadsAs (.object (entries sub))) :
    ∃ js, documents filters = .ok js ∧ (Json.array js).ReadsAs (.list (groupValues filters)) := by
  induction filters with
  | nil => exact ⟨[], rfl, rfl, .array (List.forall_mem_nil _)⟩
  | cons sub rest ih =>
    obtain ⟨⟨ms, areMembers, reads, distinct⟩, others⟩ := List.forall_mem_cons.1 each
    obtain ⟨js, areDocuments, allRead, allDistinct⟩ := ih others
    rw [Value.ofJson, Value.list.injEq] at allRead
    cases allDistinct with
    | array eachDistinct =>
      refine ⟨.object ms :: js, ?_, ?_, .array (List.forall_mem_cons.2 ⟨distinct, eachDistinct⟩)⟩
      · rw [documents, areMembers, areDocuments]
        rfl
      · rw [Value.ofJson, Value.ofItems, reads, allRead, groupValues]

/-- A step whose operand loses nothing, and whose filters are read back, is read back. -/
theorem member_readsAs {step : BuildStep} (normal : ∀ v ∈ step.operand?, v.IsNormal)
    (below : ∀ c filters, step = .group c filters → ∃ js, documents filters = .ok js ∧
      (Json.array js).ReadsAs (.list (groupValues filters))) :
    ∃ m, member step = .ok m ∧ ReadsAsEntry m (entry step) := by
  cases step with
  | field key value =>
    obtain ⟨j, document, reads⟩ := (normal value rfl).toJson_readsAs
    refine ⟨(key, j), ?_, rfl, reads⟩
    rw [member, document]
    rfl
  | compare c key value => cases c <;> exact written_readsAs (normal value rfl)
  | pattern p key text => cases p <;> exact written_readsAs (.string text)
  | inList key values => exact written_readsAs (normal _ rfl)
  | notInList key values => exact written_readsAs (normal _ rfl)
  | overlap key values => exact written_readsAs (normal _ rfl)
  | contains key value => exact written_readsAs (normal value rfl)
  | isNull key => exact written_readsAs .null
  | isNotNull key => exact written_readsAs .null
  | group c filters =>
    obtain ⟨js, areDocuments, reads⟩ := below c filters rfl
    cases c with
    | and =>
      refine ⟨("$and", .array js), ?_, rfl, reads⟩
      rw [member, areDocuments]
      rfl
    | or =>
      refine ⟨("$or", .array js), ?_, rfl, reads⟩
      rw [member, areDocuments]
      rfl

end BuildStep

open BuildStep Sql

/-- Steps are read back from their members, and so are those of all filters that are joined. -/
theorem WellKeyed.members_readAs {steps : List BuildStep} (h : WellKeyed steps) :
    ∃ ms, members steps = .ok ms ∧ (Json.object ms).ReadsAs (.object (entries steps)) := by
  induction h with
  | mk nodup normal _ ih =>
    obtain ⟨ms, areMembers, allRead, distinct⟩ := BuildStep.members_readAs fun step mem =>
      member_readsAs (normal step mem) fun c filters isGroup =>
        documents_readAs (ih c filters (isGroup ▸ mem))
    exact ⟨ms, areMembers, object_readsAs nodup allRead distinct⟩

/-- What is built step by step is what is decoded from the document that writes the steps down, if
no filter is given a key twice and the operands lose nothing as documents. So both are compiled
alike, by every compiler, behind all parameters and in both modes. -/
theorem document_decodes {steps : List BuildStep} (h : WellKeyed steps) :
    ∃ j, document steps = .ok j ∧ j.KeysDistinct ∧ Filter.ofJson j = .ok (.ofSteps steps) ∧
      ∀ (compiler : Compiler) (given : ParamList) (mode : Mode),
        (Filter.ofJson j >>= fun f => compiler.compile f given mode) =
          compiler.compile (.ofSteps steps) given mode := by
  obtain ⟨ms, areMembers, reads, distinct⟩ := h.members_readAs
  have decoded : Filter.ofJson (.object ms) = .ok (.ofSteps steps) := by
    rw [Filter.ofJson, reads]
    rfl
  refine ⟨.object ms, ?_, distinct, decoded, fun compiler given mode => ?_⟩
  · rw [document, areMembers]
    rfl
  · rw [decoded]
    rfl

/-- A group over filters of which one holds a group, beside a field whose value continues the path.
-/
def nestedSteps : List BuildStep :=
  [.group .or [[.compare .lt "m.size" (.unsigned 18446744073709551615), .isNull "parent_id"],
      [.notInList "status" [.string "old"], .group .and [[.pattern .ilike "m.title" "a%"]]]],
    .field "m" (.object [("k", .bool true)])]

/-- The text of the document that writes `nestedSteps` down:
`{"$or":[{"m.size":{"$lt":18446744073709551615},"parent_id":{"$eq":null}},`
`{"status":{"$nin":["old"]},"$and":[{"m.title":{"$ilike":"a%"}}]}],"m":{"k":true}}`. -/
def nestedText : String :=
  braced ("\"$or\":[" ++
    braced ("\"m.size\":" ++ braced "\"$lt\":18446744073709551615" ++ "," ++
      "\"parent_id\":" ++ braced "\"$eq\":null") ++ "," ++
    braced ("\"status\":" ++ braced "\"$nin\":[\"old\"]" ++ "," ++
      "\"$and\":[" ++ braced ("\"m.title\":" ++ braced "\"$ilike\":\"a%\"") ++ "]") ++ "]," ++
    "\"m\":" ++ braced "\"k\":true")

/-- The steps are read back from their document and compiled. -/
theorem nestedSteps_decode :
    WellKeyed nestedSteps ∧ ∃ j, document nestedSteps = .ok j ∧ j.text = nestedText ∧
      Filter.ofJson j = .ok (.ofSteps nestedSteps) ∧
      (Filter.ofJson j >>= fun f => Compiler.default.compile f ⟨[]⟩ .condition) =
        .ok ⟨"((((metadata->'m'->>'size')::numeric < $1) AND (parent_id IS NULL)) OR " ++
            "(((metadata->'m'->>'title' ILIKE $2)) AND (status NOT IN ($3)))) AND " ++
            "((metadata->'m'->>'k')::boolean = $4)",
          ⟨[.unsigned 18446744073709551615, .text "a%", .text "old", .bool true]⟩⟩ := by
  have inner : WellKeyed [.pattern .ilike "m.title" "a%"] :=
    .mk (by decide) (by simp [operand?, Value.IsNormal.string]) (by simp)
  have first : WellKeyed
      [.compare .lt "m.size" (.unsigned 18446744073709551615), .isNull "parent_id"] := by
    refine .mk (by decide) ?_ (by simp)
    have large : (Value.unsigned 18446744073709551615).IsNormal := .unsigned (by decide)
    simpa [operand?] using large
  have second : WellKeyed [.notInList "status" [.string "old"],
      .group .and [[.pattern .ilike "m.title" "a%"]]] := by
    refine .mk (by decide) ?_ (by simpa using inner)
    have list : (Value.list [.string "old"]).IsNormal := .list (by simp [Value.IsNormal.string])
    simpa [operand?] using list
  have all : WellKeyed nestedSteps := by
    refine .mk (by decide) ?_ ?_
    · have object : (Value.object [("k", .bool true)]).IsNormal :=
        .object (by decide) (by simp [Value.IsNormal.bool])
      simpa [nestedSteps, operand?] using object
    · simpa [nestedSteps] using ⟨first, second⟩
  have text : (document nestedSteps).map Json.text = .ok nestedText := by decide +kernel
  obtain ⟨j, isDocument, -, decoded, compiled⟩ := document_decodes all
  rw [isDocument] at text
  refine ⟨all, j, isDocument, Except.ok.inj text, decoded, (compiled _ _ _).trans ?_⟩
  decide +kernel

end FilterSql
