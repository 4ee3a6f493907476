import FilterSql.Proofs.Compile.Text

/-!
# What keys can do to a statement

Keys of a filter are arbitrary texts, and some of them stand in the statement. The text of a
statement always ends outside literals. Outside literals it holds only letters, digits and a
few signs, and a dash only in an arrow, so it has no comment and no second statement. What its
literals stand for is a whole segment of a path that the filter addresses, or one of two
constants. All this is `quoting_safe`, and holds for every filter that compiles.
-/

set_option autoImplicit false

namespace FilterSql

open Sql Compile

/-- A character that may stand outside literals: an ASCII letter, a digit, or one of a few signs. -/
def isOutsideChar (c : Char) : Bool :=
  c.isAlphanum || ['_', '.', ',', ' ', '(', ')', '[', ']', '=', '!', '<', '>', '&', '@', ':', '-',
    '$'].contains c

/-- The characters of lexemes outside literals. -/
def outside : List Lexeme → List Char
  | [] => []
  | .plain c :: rest => c :: outside rest
  | .placeholder digits :: rest => '$' :: digits ++ outside rest
  | .literal _ :: rest => outside rest

/-- Whether every `x` in a list has a `y` immediately behind it. -/
def followed {β : Type} [DecidableEq β] (x y : β) : List β → Bool
  | [] => true
  | a :: rest => (a ≠ x || rest.head? = some y) && followed x y rest

section

variable {β : Type} [DecidableEq β] {x y : β}

/-- If every `x` has its `y` in two lists, it has it in both together. -/
theorem followed_append {as bs : List β} (ha : followed x y as = true)
    (hb : followed x y bs = true) : followed x y (as ++ bs) = true := by
  induction as with
  | nil => exact hb
  | cons a rest ih =>
    simp only [followed, Bool.and_eq_true, Bool.or_eq_true, decide_eq_true_eq] at ha
    obtain ⟨behind, ha⟩ := ha
    simp only [List.cons_append, followed, Bool.and_eq_true, Bool.or_eq_true, decide_eq_true_eq]
    refine ⟨behind.imp_right fun head => ?_, ih ha⟩
    rw [List.head?_append, head, Option.some_or]

/-- A list without `x` needs no `y`. -/
theorem followed_of_notMem {as : List β} (h : x ∉ as) : followed x y as = true := by
  induction as with
  | nil => rfl
  | cons a rest ih =>
    rw [List.mem_cons, not_or] at h
    simp [followed, ih h.2, Ne.symm h.1]

end

/-- An arrow in code is an arrow among its lexemes. -/
theorem followed_map_plain {x y : Char} {cs : List Char} (h : followed x y cs = true) :
    followed (.plain x) (.plain y) (cs.map Lexeme.plain) = true := by
  induction cs with
  | nil => rfl
  | cons c rest ih =>
    simp only [followed, Bool.and_eq_true, Bool.or_eq_true, decide_eq_true_eq] at h
    obtain ⟨behind, h⟩ := h
    simp only [List.map_cons, followed, Bool.and_eq_true, Bool.or_eq_true, decide_eq_true_eq]
    refine ⟨?_, ih h⟩
    rcases behind with other | head
    · left
      intro same
      exact other (Lexeme.plain.inj same)
    · right
      rw [List.head?_map, head, Option.map_some]

section

variable {α : Type} {literal : String → Prop}

/-- All characters of a template or of the name of a column may stand outside literals. -/
theorem isOutsideChar_of_over {text : String}
    (h : (Piece.code text : Piece α).Over IsColumnName literal) :
    ∀ c ∈ text.toList, isOutsideChar c = true := by
  rcases h with template | column
  · have allowed : templates.all (fun text => text.toList.all isOutsideChar) = true := by decide
    exact List.all_eq_true.1 (List.all_eq_true.1 allowed text template)
  · intro c mem
    have word := column.2 c mem
    simp only [isWordChar, Bool.or_eq_true, decide_eq_true_eq] at word
    rcases word with (alphanum | rfl) | rfl
    · simp [isOutsideChar, alphanum]
    · rfl
    · rfl

/-- A dash in a template or in the name of a column begins an arrow. -/
theorem followed_of_over {text : String}
    (h : (Piece.code text : Piece α).Over IsColumnName literal) :
    followed '-' '>' text.toList = true := by
  rcases h with template | column
  · have arrows : ∀ text ∈ templates, followed '-' '>' text.toList = true := by decide
    exact arrows text template
  · refine followed_of_notMem fun dash => ?_
    cases column.2 '-' dash

/-- Code is outside literals as it stands. -/
theorem outside_plain_append (code : List Char) (rest : List Lexeme) :
    outside (code.map .plain ++ rest) = code ++ outside rest := by
  induction code with
  | nil => rfl
  | cons c cs ih => exact congrArg (c :: ·) ih

variable {pieces : List (Piece α)}

/-- Outside the literals of such pieces stand only characters that may stand there. -/
theorem isOutsideChar_lexemesFrom (isOver : ∀ piece ∈ pieces, piece.Over IsColumnName literal)
    (next : Nat) : ∀ c ∈ outside (lexemesFrom next pieces), isOutsideChar c = true := by
  induction pieces generalizing next with
  | nil => exact List.forall_mem_nil _
  | cons piece rest ih =>
    obtain ⟨first, others⟩ := List.forall_mem_cons.1 isOver
    cases piece with
    | code text =>
      rw [lexemesFrom, outside_plain_append, List.forall_mem_append]
      exact ⟨isOutsideChar_of_over first, ih others next⟩
    | quoted text => exact ih others next
    | hole value =>
      have digits : ∀ c ∈ Nat.toDigits 10 next, isOutsideChar c = true := by
        intro c mem
        have digit := Nat.isDigit_of_mem_toDigits (by decide) (by decide) mem
        simp [isOutsideChar, Char.isAlphanum, digit]
      rw [lexemesFrom, outside, List.cons_append, List.forall_mem_cons, List.forall_mem_append]
      exact ⟨rfl, digits, ih others (next + 1)⟩

/-- Dashes outside the literals of such pieces stand in arrows. -/
theorem followed_lexemesFrom (isOver : ∀ piece ∈ pieces, piece.Over IsColumnName literal)
    (next : Nat) : followed (.plain '-') (.plain '>') (lexemesFrom next pieces) = true := by
  induction pieces generalizing next with
  | nil => rfl
  | cons piece rest ih =>
    obtain ⟨first, others⟩ := List.forall_mem_cons.1 isOver
    cases piece with
    | code text =>
      exact followed_append (followed_map_plain (followed_of_over first)) (ih others next)
    | quoted text => simpa [lexemesFrom, followed] using ih others next
    | hole value => simpa [lexemesFrom, followed] using ih others (next + 1)

/-- The literals of such pieces stand for their quoted texts. -/
theorem literal_of_mem_lexemesFrom (isOver : ∀ piece ∈ pieces, piece.Over IsColumnName literal)
    (next : Nat) {text : List Char} (mem : .literal text ∈ lexemesFrom next pieces) :
    literal (String.ofList text) := by
  induction pieces generalizing next with
  | nil => cases mem
  | cons piece rest ih =>
    obtain ⟨first, others⟩ := List.forall_mem_cons.1 isOver
    cases piece with
    | code code =>
      rcases List.mem_append.1 mem with inCode | mem
      · obtain ⟨_, _, same⟩ := List.mem_map.1 inCode
        cases same
      · exact ih others next mem
    | quoted quoted =>
      rcases List.mem_cons.1 mem with same | mem
      · cases same
        rw [String.ofList_toList]
        exact first
      · exact ih others next mem
    | hole value =>
      rcases List.mem_cons.1 mem with same | mem
      · cases same
      · exact ih others (next + 1) mem

end

/-- The text of a statement ends outside literals; outside them it holds only characters that may
stand there, and dashes only in arrows; and its literals stand for whole segments of paths that
the filter addresses, or for one of two constants. -/
theorem quoting_safe {compiler : Compiler} {f : Filter} {given : ParamList} {mode : Mode}
    {s : Statement} (h : compiler.compile f given mode = .ok s) :
    ∃ lexemes, scan s.sql.toList = some lexemes ∧
      (∀ c ∈ outside lexemes, isOutsideChar c = true) ∧
      followed (.plain '-') (.plain '>') lexemes = true ∧
      ∀ text, .literal text ∈ lexemes →
        (∃ path, Addresses compiler.config f path ∧ String.ofList text ∈ path) ∨
          String.ofList text = "null" ∨ text = ['{', '}'] := by
  obtain ⟨pieces, scanned, -, isOver⟩ := compile_scan h
  refine ⟨lexemesFrom given.next pieces, scanned, isOutsideChar_lexemesFrom isOver _,
    followed_lexemesFrom isOver _, ?_⟩
  intro text mem
  rcases literal_of_mem_lexemesFrom isOver _ mem with segment | null | empty
  · exact .inl segment
  · exact .inr (.inl null)
  · exact .inr (.inr (String.ofList_injective empty))

/-- A filter whose keys hold quotes, a semicolon, a comment and a placeholder. -/
def hostileKeys : Filter :=
  ⟨[("it's; --.'->$1", .null), ("collection_ids", .object [("$eq", .list [])])]⟩

/-- The statement of `hostileKeys`. -/
def hostileKeysStatement : Statement :=
  ⟨"((metadata->'it''s; --'->'''->$1' IS NOT NULL AND " ++
      "metadata->'it''s; --'->'''->$1' = 'null'::jsonb)) AND " ++
      "(collection_ids = '" ++ noElements ++ "'::uuid[])",
    ⟨[]⟩⟩

/-- The literals of `hostileKeys` are the two segments of its path and the two constants. -/
theorem hostileKeys_quoting :
    Compiler.default.compile hostileKeys ⟨[]⟩ .condition = .ok hostileKeysStatement ∧
      ∃ lexemes, scan hostileKeysStatement.sql.toList = some lexemes ∧
        (∀ c ∈ outside lexemes, isOutsideChar c = true) ∧
        followed (.plain '-') (.plain '>') lexemes = true ∧
        ∀ text, .literal text ∈ lexemes →
          (∃ path, Addresses {} hostileKeys path ∧ String.ofList text ∈ path) ∨
            String.ofList text = "null" ∨ text = ['{', '}'] := by
  have compiled : Compiler.default.compile hostileKeys ⟨[]⟩ .condition =
      .ok hostileKeysStatement := by decide +kernel
  exact ⟨compiled, quoting_safe compiled⟩

end FilterSql
