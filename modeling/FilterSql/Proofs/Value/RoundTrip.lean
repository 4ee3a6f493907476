import FilterSql.Proofs.Compile.Operand
import FilterSql.Proofs.Value.Document

/-!
# Values to documents and back

A value becomes a document unless one of its numbers is not finite, also where a later entry with
the same key would take its place. Read as a value again, the document is the normal form of the
value. The other way nothing is lost: a document without repeated keys, taken as a value, is the
same document again (`json_roundTrip`).
-/

set_option autoImplicit false

namespace FilterSql

/-- A document in which no object has a key twice. -/
inductive Json.KeysDistinct : Json → Prop
  | null : KeysDistinct .null
  | bool (b : Bool) : KeysDistinct (.bool b)
  | number (n : Json.Number) : KeysDistinct (.number n)
  | string (s : String) : KeysDistinct (.string s)
  | array {items : List Json} (each : ∀ item ∈ items, KeysDistinct item) :
    KeysDistinct (.array items)
  | object {members : List (String × Json)} (nodup : (Members.keys members).Nodup)
    (each : ∀ member ∈ members, KeysDistinct member.2) : KeysDistinct (.object members)

/-- What is left when repeated keys are collapsed has none. -/
theorem Json.keysDistinct_collapse :
    (∀ j : Json, j.collapse.KeysDistinct) ∧
      (∀ members : List (String × Json),
        ∀ member ∈ collapseMembers members, member.2.KeysDistinct) ∧
      ∀ items : List Json, ∀ item ∈ collapseItems items, item.KeysDistinct := by
  refine Json.collapse.mutual_induct _ _ _ ?array ?object ?null ?bool ?number ?string ?noItems
    ?items ?noMembers ?members
  case array =>
    intro items each
    rw [collapse]
    exact .array each
  case object =>
    intro members each
    rw [collapse]
    exact .object (Members.nodup_keys_collapse _) fun member mem =>
      each member (Members.collapse_subset _ mem)
  case null => exact .null
  case bool => exact .bool
  case number => exact .number
  case string => exact .string
  case noItems => exact List.forall_mem_nil _
  case items => exact fun item rest first others => List.forall_mem_cons.2 ⟨first, others⟩
  case noMembers => exact List.forall_mem_nil _
  case members => exact fun key j rest first others => List.forall_mem_cons.2 ⟨first, others⟩

namespace Value

/-- A number of a document is written as it was read, whether it is held signed or unsigned. -/
theorem toJson_ofNumber (n : Json.Number) : (ofNumber n).toJson = .ok (.number n) := by
  cases n with
  | whole n least below =>
    rw [ofNumber]
    split
    · rename_i fits
      have same : (Int64.ofInt n).toInt = n := Int64.toInt_ofInt_of_le least fits
      simp only [toJson, Json.Number.ofInt64, same]
    · rename_i large
      have same : ((UInt64.ofNat n.toNat).toNat : Int) = n := by
        have size : UInt64.size = 0x10000000000000000 := rfl
        rw [UInt64.toNat_ofNat_of_lt' (by omega)]
        omega
      simp only [toJson, Json.Number.ofUInt64, same]
  | float x finite => simp [ofNumber, toJson, Json.Number.ofFloat?, finite]

/-- Elements are written as they were read, if each is. -/
theorem itemsToJson_ofItems {items : List Json}
    (each : ∀ item ∈ items, (ofJson item).toJson = .ok item) :
    itemsToJson (ofItems items) = .ok items := by
  induction items with
  | nil => rfl
  | cons item rest ih =>
    obtain ⟨first, others⟩ := List.forall_mem_cons.1 each
    rw [ofItems, itemsToJson, first, ih others]
    rfl

/-- Members are written as they were read, if the value of each is. -/
theorem entriesToJson_ofMembers {members : List (String × Json)}
    (each : ∀ member ∈ members, (ofJson member.2).toJson = .ok member.2) :
    entriesToJson (ofMembers members) = .ok members := by
  induction members with
  | nil => rfl
  | cons member rest ih =>
    obtain ⟨key, j⟩ := member
    obtain ⟨first, others⟩ := List.forall_mem_cons.1 each
    rw [ofMembers, entriesToJson, first, ih others]
    rfl

/-- A document without repeated keys is a value, and that value is the document. -/
theorem toJson_ofJson {j : Json} (distinct : j.KeysDistinct) : (ofJson j).toJson = .ok j := by
  induction distinct with
  | null => rfl
  | bool b => rfl
  | number n => exact toJson_ofNumber n
  | string s => rfl
  | array each ih =>
    rw [ofJson, toJson, itemsToJson_ofItems ih]
    rfl
  | object nodup each ih =>
    rw [ofJson, toJson, entriesToJson_ofMembers ih]
    exact congrArg (fun members => Except.ok (Json.object members))
      (Members.collapse_of_nodup nodup)

/-- A value is refused as a document exactly if one of its floating point numbers is not finite. -/
theorem toJson_refused_iff {v : Value} :
    (∃ e, v.toJson = .error e) ↔ ∃ x ∈ v.floats, x.isFinite = false := by
  have refused : (∃ e, v.toJson = .error e) ↔ ¬ Succeeds v.toJson := by
    cases v.toJson <;> simp
  rw [refused, Compile.toJson_succeeds_iff.1 v]
  simp

end Value

/-- Documents and values are the same up to normal form. A value is refused exactly if it has a
number that is not finite; else its document has no repeated keys, and read as a value it is the
normal form. In the normal form of an object each key stands where it stood first, with the value it
had last. A document without repeated keys is taken as a value that becomes the same document. -/
theorem json_roundTrip :
    (∀ v : Value, ((∃ e, v.toJson = .error e) ↔ ∃ x ∈ v.floats, x.isFinite = false) ∧
      ∀ j, v.toJson = .ok j → j.KeysDistinct ∧ Value.ofJson j = v.normal) ∧
    (∀ entries : List (String × Value),
      Members.keys (Members.collapse entries) = (Members.keys entries).eraseDups ∧
      ∀ key, (Members.collapse entries).lookup key = entries.reverse.lookup key) ∧
    ∀ j : Json, j.KeysDistinct → (Value.ofJson j).toJson = .ok j := by
  refine ⟨fun v => ⟨Value.toJson_refused_iff, fun j document => ?_⟩, fun entries => ?_, ?_⟩
  · have shows := Value.toJson_shows.1 v j document
    exact ⟨shows.collapsed ▸ Json.keysDistinct_collapse.1 j, shows.value⟩
  · exact ⟨Members.keys_collapse entries, Members.lookup_collapse entries⟩
  · exact fun j distinct => Value.toJson_ofJson distinct

/-- A value in which a number that is not finite stands under a key that is repeated behind it. -/
def overwritten (x : Float) : Value :=
  .object [("a", .float x), ("b", .list [.null]), ("a", .unsigned 7)]

/-- The document of such a value. -/
def overwrittenDocument : Json :=
  .object [("a", .number (.ofUInt64 7)), ("b", .array [.null])]

/-- A number that is not finite is refused even though it would be replaced. Otherwise the last
value of the key stands in the first place, a signed word in the normal form, and its document is
taken as a value that becomes the same document. -/
theorem overwritten_roundTrip :
    (∃ e, (overwritten (0 / 0)).toJson = .error e) ∧
      (overwritten 0.5).toJson = .ok overwrittenDocument ∧
      Value.ofJson overwrittenDocument = .object [("a", .signed 7), ("b", .list [.null])] ∧
      overwrittenDocument.KeysDistinct ∧
      (Value.ofJson overwrittenDocument).toJson = .ok overwrittenDocument := by
  have refused := (json_roundTrip.1 (overwritten (0 / 0))).1.2
    ⟨0 / 0, List.mem_cons_self, by decide +kernel⟩
  have document : (overwritten 0.5).toJson = .ok overwrittenDocument := by rfl
  obtain ⟨distinct, normal⟩ := (json_roundTrip.1 (overwritten 0.5)).2 _ document
  exact ⟨refused, document, normal, distinct, json_roundTrip.2.2 _ distinct⟩

end FilterSql
