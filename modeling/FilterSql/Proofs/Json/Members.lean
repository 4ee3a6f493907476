import FilterSql.Json.Basic
import Mathlib.Data.List.Induction
import Mathlib.Data.List.Nodup

/-!
# Members with a key each

Collapsing members leaves each key once, at its first position (`keys_collapse`) with its last value
(`lookup_collapse`). What is done to values may be done before or after.
-/

set_option autoImplicit false

namespace FilterSql.Members

variable {α β : Type}

/-- Members whose values are changed. -/
def mapValues (f : α → β) (members : List (String × α)) : List (String × β) :=
  members.map fun member => (member.1, f member.2)

/-- The keys of members. -/
def keys (members : List (String × α)) : List String := members.map Prod.fst

/-! ## Setting one key -/

/-- A member of what is left after a key is set is the new one, or stood there before. -/
theorem mem_set {key : String} {value : α} {members : List (String × α)} {member : String × α}
    (mem : member ∈ set key value members) : member = (key, value) ∨ member ∈ members := by
  induction members with
  | nil => exact .inl (List.mem_singleton.1 mem)
  | cons first rest ih =>
    obtain ⟨k, v⟩ := first
    rw [set] at mem
    split at mem
    · rename_i same
      rcases List.mem_cons.1 mem with rfl | mem
      · exact .inl (by rw [same])
      · exact .inr (List.mem_cons_of_mem _ mem)
    · rcases List.mem_cons.1 mem with rfl | mem
      · exact .inr List.mem_cons_self
      · exact (ih mem).imp_right (List.mem_cons_of_mem _)

/-- A key may be set before the values are changed as well as after. -/
theorem set_mapValues (f : α → β) (key : String) (value : α) (members : List (String × α)) :
    set key (f value) (mapValues f members) = mapValues f (set key value members) := by
  induction members with
  | nil => rfl
  | cons first rest ih =>
    obtain ⟨k, v⟩ := first
    simp only [mapValues, List.map_cons] at ih ⊢
    rw [set, set]
    split
    · rfl
    · rw [ih, List.map_cons]

/-- Setting a key leaves the keys as they are, with the new one behind them if it is new. -/
theorem keys_set (key : String) (value : α) (members : List (String × α)) :
    keys (set key value members) =
      if key ∈ keys members then keys members else keys members ++ [key] := by
  induction members with
  | nil => rfl
  | cons first rest ih =>
    obtain ⟨k, v⟩ := first
    rw [set]
    by_cases same : k = key
    · simp [keys, same]
    · simp only [keys, List.map_cons, List.mem_cons] at ih ⊢
      rw [if_neg same, List.map_cons, ih]
      by_cases mem : key ∈ rest.map Prod.fst
      · simp [mem]
      · simp [mem, Ne.symm same]

/-- A key that is not there is set at the end. -/
theorem set_of_notMem {key : String} {value : α} {members : List (String × α)}
    (notMem : key ∉ keys members) : set key value members = members ++ [(key, value)] := by
  induction members with
  | nil => rfl
  | cons first rest ih =>
    obtain ⟨k, v⟩ := first
    simp only [keys, List.map_cons, List.mem_cons, not_or] at notMem
    rw [set, if_neg (Ne.symm notMem.1), ih notMem.2]
    rfl

/-! ## Looking up a key -/

/-- A key is looked up in the first member before it is in the others. -/
theorem lookup_cons (member : String × α) (rest : List (String × α)) (key : String) :
    (member :: rest).lookup key = if key = member.1 then some member.2 else rest.lookup key := by
  rw [List.lookup_cons]
  cases same : key == member.1 with
  | true => rw [if_pos (eq_of_beq same)]
  | false => rw [if_neg (ne_of_beq_false same)]

/-- A key that is set has its new value, and the other keys keep theirs. -/
theorem lookup_set (key : String) (value : α) (members : List (String × α)) (k : String) :
    (set key value members).lookup k = if k = key then some value else members.lookup k := by
  induction members with
  | nil => exact lookup_cons (key, value) [] k
  | cons member rest ih =>
    obtain ⟨first, v⟩ := member
    rw [set, lookup_cons]
    by_cases same : first = key
    · rw [if_pos same, lookup_cons, same]
      by_cases found : k = key <;> simp [found]
    · rw [if_neg same, lookup_cons, ih]
      by_cases found : k = first
      · simp [found, same]
      · simp [found]

/-! ## Collapsing -/

/-- Collapsing keeps some of the members. -/
theorem collapse_subset (members : List (String × α)) : collapse members ⊆ members := by
  refine List.foldlRecOn (motive := (· ⊆ members)) members _ (List.nil_subset members) ?_
  intro kept inside member mem other isKept
  rcases mem_set isKept with rfl | isKept
  · exact mem
  · exact inside isKept

/-- Each key stands once among the members that are kept. -/
theorem nodup_keys_collapse (members : List (String × α)) : (keys (collapse members)).Nodup := by
  refine List.foldlRecOn (motive := fun kept => (keys kept).Nodup) members _ List.nodup_nil ?_
  intro kept nodup member _
  rw [keys_set]
  split
  · exact nodup
  · rename_i notMem
    rw [← List.concat_eq_append]
    exact nodup.concat notMem

/-- Members whose keys are different are left as they are. -/
theorem collapse_of_nodup {members : List (String × α)} (nodup : (keys members).Nodup) :
    collapse members = members := by
  have all : ∀ kept rest : List (String × α), (keys (kept ++ rest)).Nodup →
      rest.foldl (fun kept member => set member.1 member.2 kept) kept = kept ++ rest := by
    intro kept rest
    induction rest generalizing kept with
    | nil => exact fun _ => (List.append_nil kept).symm
    | cons member rest ih =>
      intro nodup
      have notMem : member.1 ∉ keys kept := by
        intro mem
        simp only [keys, List.map_append, List.map_cons] at nodup mem
        exact (List.nodup_append.1 nodup).2.2 _ mem _ List.mem_cons_self rfl
      rw [List.foldl_cons, set_of_notMem notMem, ih]
      · simp
      · simpa using nodup
  exact all [] members nodup

/-- Members are not reduced any further the second time. -/
theorem collapse_collapse (members : List (String × α)) :
    collapse (collapse members) = collapse members :=
  collapse_of_nodup (nodup_keys_collapse members)

/-- Values may be changed before the members are reduced as well as after. -/
theorem collapse_mapValues (f : α → β) (members : List (String × α)) :
    collapse (mapValues f members) = mapValues f (collapse members) := by
  rw [collapse, collapse, mapValues, List.foldl_map]
  change List.foldl _ (mapValues f []) members = _
  apply List.foldl_hom
  intro kept member
  exact set_mapValues f member.1 member.2 kept

/-- A last member sets its key among the members that are kept. -/
theorem collapse_concat (members : List (String × α)) (member : String × α) :
    collapse (members ++ [member]) = set member.1 member.2 (collapse members) := by
  rw [collapse, List.foldl_append]
  rfl

/-! ### One member among the others -/

/-- Where a key is set does not depend on the value it is set to. -/
theorem set_around (key : String) (members : List (String × α)) :
    ∃ xs ys, ∀ value, set key value members = xs ++ (key, value) :: ys := by
  induction members with
  | nil => exact ⟨[], [], fun value => rfl⟩
  | cons first rest ih =>
    obtain ⟨k, v⟩ := first
    by_cases same : k = key
    · refine ⟨[], rest, fun value => ?_⟩
      rw [set, if_pos same, same]
      rfl
    · obtain ⟨xs, ys, around⟩ := ih
      refine ⟨(k, v) :: xs, ys, fun value => ?_⟩
      rw [set, if_neg same, around]
      rfl

/-- Setting another key leaves a member among others, which do not depend on its value. -/
theorem set_other_around {key other : String} (ne : key ≠ other) (value : α)
    (before after : List (String × α)) :
    ∃ xs ys, ∀ v, set other value (before ++ (key, v) :: after) = xs ++ (key, v) :: ys := by
  induction before with
  | nil =>
    refine ⟨[], set other value after, fun v => ?_⟩
    rw [List.nil_append, set, if_neg ne]
    rfl
  | cons first rest ih =>
    obtain ⟨k, w⟩ := first
    by_cases same : k = other
    · refine ⟨(k, value) :: rest, after, fun v => ?_⟩
      rw [List.cons_append, set, if_pos same]
      rfl
    · obtain ⟨xs, ys, around⟩ := ih
      refine ⟨(k, w) :: xs, ys, fun v => ?_⟩
      rw [List.cons_append, set, if_neg same, around]
      rfl

/-- The last member with a key is kept with its value, among others that do not depend on it. -/
theorem collapse_around (before after : List (String × α)) {key : String}
    (last : key ∉ keys after) :
    ∃ xs ys, ∀ v, collapse (before ++ (key, v) :: after) = xs ++ (key, v) :: ys := by
  induction after using List.reverseRecOn with
  | nil =>
    obtain ⟨xs, ys, around⟩ := set_around key (collapse before)
    exact ⟨xs, ys, fun v => (collapse_concat before (key, v)).trans (around v)⟩
  | append_singleton after member ih =>
    have append : keys (after ++ [member]) = keys after ++ [member.1] := List.map_append
    rw [append, List.mem_append, not_or, List.mem_singleton] at last
    obtain ⟨xs, ys, around⟩ := ih last.1
    obtain ⟨xs', ys', around'⟩ := set_other_around last.2 member.2 xs ys
    refine ⟨xs', ys', fun v => ?_⟩
    rw [← List.cons_append, ← List.append_assoc, collapse_concat, around, around']

/-- Every key stays where it stands first. -/
theorem keys_collapse (members : List (String × α)) :
    keys (collapse members) = (keys members).eraseDups := by
  induction members using List.reverseRecOn with
  | nil => rfl
  | append_singleton members member ih =>
    have append : keys (members ++ [member]) = keys members ++ [member.1] := List.map_append
    rw [collapse_concat, keys_set, ih, append, List.eraseDups_append]
    simp only [List.mem_eraseDups]
    split
    · rename_i mem
      simp [List.removeAll, mem]
    · rename_i notMem
      simp only [List.removeAll, List.filter_cons, List.filter_nil, List.elem_eq_mem, notMem]
      rfl

/-- Every key has the value that stands last. -/
theorem lookup_collapse (members : List (String × α)) (key : String) :
    (collapse members).lookup key = members.reverse.lookup key := by
  induction members using List.reverseRecOn with
  | nil => rfl
  | append_singleton members member ih =>
    rw [collapse_concat, lookup_set, ih, List.reverse_append, List.reverse_singleton,
      List.singleton_append, lookup_cons]

end FilterSql.Members
