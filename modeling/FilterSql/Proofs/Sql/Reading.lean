import FilterSql.Proofs.Sql.Formula
import FilterSql.Proofs.Sql.Token

/-!
# Reading conditions

SQL text is read by precedence. Outside all parentheses `OR` binds weakest, then `AND`, then
`NOT`; parentheses around everything are dropped; and a row of tokens that has none of these is
a constant or an atomic comparison. The parentheses of lists, arrays and casts belong to their
comparison. The reader knows nothing of how the text was written.
-/

set_option autoImplicit false

namespace FilterSql.Sql

/-! ## The reader -/

/-- Whether characters spell a word, in letters of either case. -/
def spells (word : String) (cs : List Char) : Bool := cs.map Char.toUpper = word.toList

/-- The words that the reader goes by. -/
def reservedWords : List String := ["AND", "OR", "NOT", "TRUE", "FALSE"]

/-- Whether characters spell a word that the reader goes by. -/
def isReserved (cs : List Char) : Bool := reservedWords.any fun word => spells word cs

/-- Whether a token is the given word. -/
def Token.isWord (word : String) : Token → Bool
  | .word cs => spells word cs
  | _ => false

/-- The number of parentheses that are open behind a token. -/
def Token.depth (d : Nat) : Token → Nat
  | .mark '(' => d + 1
  | .mark ')' => d - 1
  | _ => d

/-- What a row of tokens is split at. -/
inductive Delimiter
  | connective (k : Connective)
  | close
deriving Repr, DecidableEq

/-- Whether a token is the delimiter. -/
def Delimiter.isAt : Delimiter → Token → Bool
  | .connective .and, t => t.isWord "AND"
  | .connective .or, t => t.isWord "OR"
  | .close, t => t = .mark ')'

/-- Splits tokens at the first delimiter outside parentheses, `d` parentheses being open. -/
def splitTop (δ : Delimiter) : Nat → List Token → Option (List Token × List Token)
  | _, [] => none
  | d, t :: rest =>
    if d = 0 ∧ δ.isAt t = true then some ([], rest)
    else (splitTop δ (t.depth d) rest).map (Prod.map (t :: ·) id)

/-- The outermost construct of a row of tokens. -/
inductive Shape
  | join (k : Connective) (left right : List Token)
  | not (rest : List Token)
  | paren (inner : List Token)
  | constant (truth : Bool)
  | atom
deriving Repr, DecidableEq

/-- The construct of a row without connectives outside parentheses. -/
def unitShape : List Token → Shape
  | [] => .atom
  | t :: rest =>
    if t.isWord "NOT" then .not rest
    else if t = .mark '(' then
      match splitTop .close 0 rest with
      | some (inner, []) => .paren inner
      | _ => .atom
    else if rest = [] ∧ t.isWord "TRUE" = true then .constant true
    else if rest = [] ∧ t.isWord "FALSE" = true then .constant false
    else .atom

/-- The outermost construct of a row of tokens: a disjunction before a conjunction, and a
conjunction before anything else. -/
def shape (ts : List Token) : Shape :=
  match splitTop (.connective .or) 0 ts with
  | some (left, right) => .join .or left right
  | none =>
    match splitTop (.connective .and) 0 ts with
    | some (left, right) => .join .and left right
    | none => unitShape ts

/-- The rows inside a construct, which are read on. -/
def Shape.parts : Shape → List (List Token)
  | .join _ left right => [left, right]
  | .not rest => [rest]
  | .paren inner => [inner]
  | .constant _ | .atom => []

/-- Both sides of a split are shorter than the row. -/
theorem splitTop_length {δ : Delimiter} {d : Nat} {ts left right : List Token}
    (h : splitTop δ d ts = some (left, right)) : left.length + right.length < ts.length := by
  induction ts generalizing d left with
  | nil => cases h
  | cons t rest ih =>
    rw [splitTop] at h
    split at h
    · cases h
      simp
    · obtain ⟨⟨left', right'⟩, split, same⟩ := Option.map_eq_some_iff.1 h
      cases same
      have shorter := ih split
      simp only [List.length_cons]
      omega

/-- What is read on is shorter than the row. -/
theorem length_lt_of_mem_parts {ts part : List Token} (mem : part ∈ (shape ts).parts) :
    part.length < ts.length := by
  -- Both splits leave two shorter sides.
  have sides : ∀ {δ : Delimiter} {left right : List Token}, splitTop δ 0 ts = some (left, right) →
      part ∈ [left, right] → part.length < ts.length := by
    intro δ left right split mem
    have shorter := splitTop_length split
    simp only [List.mem_cons, List.not_mem_nil, or_false] at mem
    rcases mem with rfl | rfl <;> omega
  unfold shape at mem
  split at mem
  · rename_i split
    exact sides split mem
  · split at mem
    · rename_i split
      exact sides split mem
    · unfold unitShape at mem
      split at mem
      · cases mem
      · rename_i t rest _ _
        split at mem
        · cases List.mem_singleton.1 mem
          simp
        · split at mem
          · split at mem
            · rename_i split
              cases List.mem_singleton.1 mem
              have shorter := splitTop_length split
              simp only [List.length_nil, List.length_cons] at shorter ⊢
              omega
            · cases mem
          · split at mem
            · cases mem
            · split at mem <;> cases mem

/-- Reads a row of tokens. What is no construct is an atomic comparison, named by its tokens. -/
def read (ts : List Token) : Formula (List Token) :=
  match _outer : shape ts with
  | .join k left right => .join k (read left) (read right)
  | .not rest => .not (read rest)
  | .paren inner => read inner
  | .constant truth => .constant truth
  | .atom => .atom ts
termination_by ts.length
decreasing_by
  all_goals
    apply length_lt_of_mem_parts
    simp [_outer, Shape.parts]

/-- Reading goes by the outermost construct. -/
theorem read_eq (ts : List Token) :
    read ts =
      match shape ts with
      | .join k left right => .join k (read left) (read right)
      | .not rest => .not (read rest)
      | .paren inner => read inner
      | .constant truth => .constant truth
      | .atom => .atom ts := by
  rw [read]
  split <;> rename_i outer <;> rw [outer]

/-- Reads SQL text as a formula over its atomic comparisons. A text that ends inside a literal
has no reading. -/
def readText (cs : List Char) : Option (Formula (List Token)) :=
  (scan cs).map fun lexemes => read (tokens lexemes)

end FilterSql.Sql
