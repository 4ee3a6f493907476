import FilterSql.Uuid
import Mathlib.Algebra.GroupWithZero.Nat
import Mathlib.Data.List.Basic
import Mathlib.Data.List.Forall2
import Mathlib.Tactic.Set

/-!
# The spellings of identifiers

An identifier is always written in the same way: five groups of lowercase hexadecimal digits
between hyphens. It is read from exactly four spellings, in digits of either case
(`ofText?_eq_some_iff`); what is written is one of them, so it is read as the identifier that was
written (`ofText?_text`).
-/

set_option autoImplicit false

namespace FilterSql.Uuid

/-- The digits of the canonical spelling. -/
def lowerDigits : List Char := "0123456789abcdef".toList

/-- The spelling with lowercase digits in groups of 8, 4, 4, 4 and 12 between hyphens. -/
def IsCanonical (text : String) : Prop :=
  ∃ groups : List (List Char), groups.map List.length = [8, 4, 4, 4, 12] ∧
    (∀ group ∈ groups, ∀ c ∈ group, c ∈ lowerDigits) ∧
    text.toList = ['-'].intercalate groups

/-- The text of an identifier is its canonical spelling. -/
theorem isCanonical_text (id : Uuid) : IsCanonical id.text := by
  obtain ⟨digits, length⟩ := id
  have lower : ∀ d : Fin 16, Nat.digitChar d.val ∈ lowerDigits := by decide
  set cs := digits.map fun d => Nat.digitChar d.val with isChars
  have size : cs.length = 32 := by rw [isChars, List.length_map, length]
  have allLower : ∀ c ∈ cs, c ∈ lowerDigits := by
    intro c mem
    obtain ⟨d, -, rfl⟩ := List.mem_map.1 mem
    exact lower d
  refine ⟨[cs.take 8, (cs.drop 8).take 4, (cs.drop 12).take 4, (cs.drop 16).take 4, cs.drop 20],
    ?_, ?_, ?_⟩
  · simp [size]
  · simp only [List.forall_mem_cons]
    refine ⟨?_, ?_, ?_, ?_, ?_, List.forall_mem_nil _⟩
    · exact fun c mem => allLower c (List.mem_of_mem_take mem)
    · exact fun c mem => allLower c (List.mem_of_mem_drop (List.mem_of_mem_take mem))
    · exact fun c mem => allLower c (List.mem_of_mem_drop (List.mem_of_mem_take mem))
    · exact fun c mem => allLower c (List.mem_of_mem_drop (List.mem_of_mem_take mem))
    · exact fun c mem => allLower c (List.mem_of_mem_drop mem)
  · rw [text, String.toList_ofList, chars, ← isChars]
    simp [groupLengths, hyphenate, List.intercalate, List.intersperse]

/-! ## What is read -/

/-- A character is the digit of a value, in either case. -/
def IsDigit (c : Char) (d : Fin 16) : Prop :=
  c = Nat.digitChar d.val ∨ c = (Nat.digitChar d.val).toUpper

/-- It can be decided whether a character is the digit of a value. -/
instance (c : Char) (d : Fin 16) : Decidable (IsDigit c d) := inferInstanceAs (Decidable (_ ∨ _))

/-- Characters spell the digits of an identifier, without hyphens. -/
def SpellsDigits (id : Uuid) (cs : List Char) : Prop := List.Forall₂ IsDigit cs id.digits

/-- The four spellings of an identifier: its digits alone, its digits in groups between hyphens, and
the latter in braces or behind the name space. -/
inductive Spells (id : Uuid) : List Char → Prop
  | plain {cs : List Char} (digits : SpellsDigits id cs) : Spells id cs
  | hyphenated {cs : List Char} (digits : SpellsDigits id cs) :
    Spells id (hyphenate groupLengths cs)
  | braced {cs : List Char} (digits : SpellsDigits id cs) :
    Spells id ('{' :: hyphenate groupLengths cs ++ ['}'])
  | named {space cs : List Char} (isSpace : space.map Char.toLower = nameSpace)
    (digits : SpellsDigits id cs) : Spells id (space ++ hyphenate groupLengths cs)

/-- What has a value as a digit does not lie beyond the letter `f`. -/
theorem toNat_lt_of_digit? {c : Char} {d : Fin 16} (h : digit? c = some d) : c.toNat < 103 := by
  unfold digit? at h
  simp only [Char.le_def, UInt32.le_iff_toNat_le] at h
  have code : c.toNat = c.val.toNat := rfl
  have nine : ('9' : Char).val.toNat = 57 := rfl
  have lastLower : ('f' : Char).val.toNat = 102 := rfl
  have lastUpper : ('F' : Char).val.toNat = 70 := rfl
  split at h
  · omega
  · split at h
    · omega
    · split at h
      · omega
      · cases h

/-- Exactly the digits in either case have a value. -/
theorem digit?_eq_some_iff {c : Char} {d : Fin 16} : digit? c = some d ↔ IsDigit c d := by
  constructor
  · intro h
    have small : ∀ n < 103, ∀ d : Fin 16, digit? (Char.ofNat n) = some d →
        IsDigit (Char.ofNat n) d := by decide +kernel
    have isDigit := small c.toNat (toNat_lt_of_digit? h) d
    rw [Char.ofNat_toNat] at isDigit
    exact isDigit h
  · have either : ∀ d : Fin 16, digit? (Nat.digitChar d.val) = some d ∧
        digit? (Nat.digitChar d.val).toUpper = some d := by decide
    rintro (rfl | rfl)
    · exact (either d).1
    · exact (either d).2

/-- Characters are read as digits exactly if each is a digit of its value. -/
theorem mapM_digit?_eq_some_iff {cs : List Char} {ds : List (Fin 16)} :
    cs.mapM digit? = some ds ↔ List.Forall₂ IsDigit cs ds := by
  induction cs generalizing ds with
  | nil => simp [eq_comm]
  | cons c rest ih =>
    rw [List.mapM_cons, List.forall₂_cons_left_iff]
    constructor
    · intro h
      obtain ⟨d, first, h⟩ := Option.bind_eq_some_iff.1 h
      obtain ⟨ds', others, same⟩ := Option.bind_eq_some_iff.1 h
      cases same
      exact ⟨d, ds', digit?_eq_some_iff.1 first, ih.1 others, rfl⟩
    · rintro ⟨d, ds', first, others, rfl⟩
      rw [digit?_eq_some_iff.2 first, ih.2 others]
      rfl

/-- Digits alone are read as an identifier exactly if they spell it. -/
theorem ofPlain?_eq_some_iff {cs : List Char} {id : Uuid} :
    ofPlain? cs = some id ↔ SpellsDigits id cs := by
  obtain ⟨digits, length⟩ := id
  constructor
  · intro h
    obtain ⟨ds, read, h⟩ := Option.bind_eq_some_iff.1 h
    unfold ofDigits? at h
    split at h
    · cases h
      exact mapM_digit?_eq_some_iff.1 read
    · cases h
  · intro h
    rw [ofPlain?, mapM_digit?_eq_some_iff.2 h]
    exact dif_pos length

/-! ### Hyphens -/

/-- Each group of digits has one hyphen before the next. -/
theorem length_hyphenate {lengths : List Nat} {cs : List Char} (enough : lengths.sum ≤ cs.length) :
    (hyphenate lengths cs).length = cs.length + lengths.length := by
  induction lengths generalizing cs with
  | nil => rfl
  | cons length lengths ih =>
    rw [List.sum_cons] at enough
    have behind : lengths.sum ≤ (cs.drop length).length := by
      rw [List.length_drop]
      omega
    simp only [hyphenate, List.length_append, List.length_take, List.length_cons, ih behind,
      List.length_drop]
    omega

/-- Hyphens are taken out exactly where they are put. -/
theorem dropHyphens_eq_some_iff {lengths : List Nat} {cs plain : List Char} :
    dropHyphens lengths cs = some plain ↔
      cs = hyphenate lengths plain ∧ lengths.sum ≤ plain.length := by
  induction lengths generalizing cs plain with
  | nil => simp [dropHyphens, hyphenate]
  | cons length lengths ih =>
    constructor
    · intro h
      rw [dropHyphens] at h
      split at h
      · rename_i rest behind
        obtain ⟨plain', dropped, rfl⟩ := Option.map_eq_some_iff.1 h
        obtain ⟨rfl, enough⟩ := ih.1 dropped
        -- A hyphen stands behind the group, so the group is complete.
        have size := congrArg List.length behind
        rw [List.length_drop, List.length_cons] at size
        have group : (cs.take length).length = length := by
          rw [List.length_take]
          omega
        constructor
        · rw [hyphenate, List.take_left' group, List.drop_left' group, ← behind,
            List.take_append_drop]
        · rw [List.sum_cons, List.length_append, group]
          omega
      · cases h
    · rintro ⟨rfl, enough⟩
      rw [List.sum_cons] at enough
      have group : (plain.take length).length = length := by
        rw [List.length_take]
        omega
      have behind : lengths.sum ≤ (plain.drop length).length := by
        rw [List.length_drop]
        omega
      rw [hyphenate, dropHyphens, List.drop_left' group, List.take_left' group]
      simp only [ih.2 ⟨rfl, behind⟩, Option.map_some, List.take_append_drop]

section

variable {id : Uuid} {cs : List Char}

/-- An identifier is spelled with 32 digits. -/
theorem SpellsDigits.length_eq (h : SpellsDigits id cs) : cs.length = 32 := by
  rw [List.Forall₂.length_eq h, id.length_eq]

/-- There are digits for all groups. -/
theorem SpellsDigits.enough (h : SpellsDigits id cs) : groupLengths.sum ≤ cs.length := by
  rw [h.length_eq]
  decide

/-- With the four hyphens there are 36 characters. -/
theorem SpellsDigits.length_hyphenate (h : SpellsDigits id cs) :
    (hyphenate groupLengths cs).length = 36 := by
  rw [Uuid.length_hyphenate h.enough, h.length_eq]
  rfl

/-- Groups of digits are read as an identifier exactly if their digits spell it. -/
theorem ofHyphenated?_eq_some_iff :
    ofHyphenated? cs = some id ↔
      ∃ plain, cs = hyphenate groupLengths plain ∧ SpellsDigits id plain := by
  constructor
  · intro h
    obtain ⟨plain, dropped, read⟩ := Option.bind_eq_some_iff.1 h
    exact ⟨plain, (dropHyphens_eq_some_iff.1 dropped).1, ofPlain?_eq_some_iff.1 read⟩
  · rintro ⟨plain, rfl, digits⟩
    rw [ofHyphenated?, dropHyphens_eq_some_iff.2 ⟨rfl, digits.enough⟩]
    exact ofPlain?_eq_some_iff.2 digits

/-- Digits that spell an identifier are read as it with their hyphens, too. -/
theorem SpellsDigits.ofHyphenated?_eq (h : SpellsDigits id cs) :
    ofHyphenated? (hyphenate groupLengths cs) = some id :=
  ofHyphenated?_eq_some_iff.2 ⟨cs, rfl, h⟩

/-! ### The four spellings -/

/-- What is read is one of the four spellings. -/
theorem spells_of_ofChars? (h : ofChars? cs = some id) : Spells id cs := by
  -- The number of characters tells the spellings apart.
  rw [ofChars?] at h
  split at h
  · exact .plain (ofPlain?_eq_some_iff.1 h)
  · split at h
    · obtain ⟨plain, rfl, digits⟩ := ofHyphenated?_eq_some_iff.1 h
      exact .hyphenated digits
    · split at h
      · split at h
        · rename_i braces
          obtain ⟨inner, rfl⟩ := List.head?_eq_some_iff.1 braces.1
          have closed : inner.getLast? = some '}' := by
            cases inner with
            | nil => cases braces.2
            | cons c rest => rw [← braces.2, List.getLast?_cons_cons]
          obtain ⟨between, rfl⟩ := List.getLast?_eq_some_iff.1 closed
          rw [List.drop_one, List.tail_cons, List.dropLast_concat] at h
          obtain ⟨plain, rfl, digits⟩ := ofHyphenated?_eq_some_iff.1 h
          exact .braced digits
        · cases h
      · split at h
        · split at h
          · rename_i isSpace
            obtain ⟨plain, behind, digits⟩ := ofHyphenated?_eq_some_iff.1 h
            rw [← List.take_append_drop 9 cs, behind]
            exact .named isSpace digits
          · cases h
        · cases h

/-- Each of the four spellings is read. Their lengths tell them apart. -/
theorem Spells.ofChars?_eq (h : Spells id cs) : ofChars? cs = some id := by
  cases h with
  | plain digits =>
    rw [ofChars?, if_pos digits.length_eq]
    exact ofPlain?_eq_some_iff.2 digits
  | hyphenated digits => simp [ofChars?, digits.length_hyphenate, digits.ofHyphenated?_eq]
  | @braced plain digits =>
    have closed : ('{' :: (hyphenate groupLengths plain ++ ['}'])).getLast? = some '}' :=
      List.getLast?_concat (l := '{' :: hyphenate groupLengths plain)
    simp [ofChars?, digits.length_hyphenate, digits.ofHyphenated?_eq, closed]
  | @named space plain isSpace digits =>
    have size : space.length = 9 := by
      rw [← List.length_map (f := Char.toLower), isSpace]
      rfl
    simp [ofChars?, digits.length_hyphenate, digits.ofHyphenated?_eq, size, isSpace,
      List.take_left' size, List.drop_left' size]

end

/-- A text is read as an identifier exactly if it is one of the spellings of it. -/
theorem ofText?_eq_some_iff {text : String} {id : Uuid} :
    ofText? text = some id ↔ Spells id text.toList :=
  ⟨spells_of_ofChars?, Spells.ofChars?_eq⟩

/-- The digits as they are written spell the identifier. -/
theorem spellsDigits_map (id : Uuid) :
    SpellsDigits id (id.digits.map fun d => Nat.digitChar d.val) := by
  rw [SpellsDigits, List.forall₂_map_left_iff]
  exact List.forall₂_same.2 fun _ _ => .inl rfl

/-- What is written is read as the identifier that was written. -/
theorem ofText?_text (id : Uuid) : ofText? id.text = some id := by
  rw [ofText?_eq_some_iff, text, String.toList_ofList]
  exact .hyphenated (spellsDigits_map id)

/-- The canonical text has 36 characters. -/
theorem length_text (id : Uuid) : id.text.length = 36 := by
  rw [text, String.length_ofList]
  exact (spellsDigits_map id).length_hyphenate

end FilterSql.Uuid
