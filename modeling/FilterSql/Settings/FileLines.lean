import FilterSql.Character.WhiteSpace

/-!
# Lines of a file of variables

A line ends at a line feed outside quotes, so a quoted part may hold line feeds. Within both
kinds of quotes, and outside of them, a backslash takes the next character with it. A comment
begins with a number sign and goes on to the end of the line. The sign counts as such where only
white space stands before it, and behind an odd number of white space characters: what
follows such a character is read as an ordinary one, even if it is white space itself.

The last line may lack its line feed. It is then unfinished if a quote is open, or if it ends
with a backslash or with white space behind which a comment could begin.
-/

set_option autoImplicit false

namespace FilterSql

/-- The characters of a file. A byte order mark in front of them is not part of the text. -/
def fileChars (text : String) : List Char :=
  match text.toList with
  | '\uFEFF' :: rest => rest
  | cs => cs

namespace FileLines

/-- Where the reader of a line stands: behind nothing but white space, behind a character of the
line, behind white space, behind a backslash, inside single or double quotes, behind a backslash
there, or inside a comment. -/
inductive Place
  | start
  | word
  | blank
  | escape
  | single
  | singleEscape
  | double
  | doubleEscape
  | comment
deriving Repr, DecidableEq

/-- Whether a line feed belongs to the line at this place. -/
def Place.isQuoted : Place → Bool
  | .single | .singleEscape | .double | .doubleEscape => true
  | .start | .word | .blank | .escape | .comment => false

/-- The place behind a character that opens quotes or escapes, or is an ordinary one. -/
def Place.behind (c : Char) : Place :=
  if c = '\\' then .escape
  else if c = '\"' then .double
  else if c = '\'' then .single
  else .word

/-- The place behind a character that does not end the line. -/
def Place.step (place : Place) (c : Char) : Place :=
  match place with
  | .start =>
    if Character.isWhite c then .start else if c = '#' then .comment else .behind c
  | .word => if Character.isWhite c && c ≠ '\r' then .blank else .behind c
  | .blank => if c = '#' then .comment else .behind c
  | .escape => .word
  | .single => if c = '\\' then .singleEscape else if c = '\'' then .word else .single
  | .singleEscape => .single
  | .double => if c = '\\' then .doubleEscape else if c = '\"' then .word else .double
  | .doubleEscape => .double
  | .comment => .comment

/-- The lines that begin with what has been read of the first one, which is kept in reverse.
Comments are left out. An unfinished line is `none`, and it can only be the last. -/
def linesFrom (place : Place) (read : List Char) : List Char → List (Option (List Char))
  | [] =>
    match place with
    | .word | .comment => [some read.reverse]
    | .start => []
    | _ => [none]
  | c :: rest =>
    if c = '\n' && !place.isQuoted then some read.reverse :: linesFrom .start [] rest
    else
      let next := place.step c
      linesFrom next (if next = .comment then read else c :: read) rest

end FileLines

/-- The lines of a file of variables. -/
def fileLines (text : String) : List (Option (List Char)) :=
  FileLines.linesFrom .start [] (fileChars text)

end FilterSql
