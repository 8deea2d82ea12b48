/-
# FreshBuild.Toml.Blanks — what stands between the tokens of a document.

Blanks are spaces and tabs. A line ends with a line feed or with a carriage return and a line feed;
a carriage return alone is nothing at all, so it is never skipped and every reader stops at it. A
comment runs to the end of its line and holds no control character but the tab.
-/

namespace FreshBuild.Toml

/-- A reader takes a value off the front of the text, or finds none. -/
abbrev Reader (α : Type) := List Char → Option (α × List Char)

def isBlank (c : Char) : Bool := c == ' ' || c == '\t'

/-- A character that may stand for itself in comments and in quoted text: the tab and everything
that is no ASCII control character. -/
def isPlain (c : Char) : Bool := c == '\t' || (' ' ≤ c && c != '\x7F')

def skipBlanks (s : List Char) : List Char := s.dropWhile isBlank

/-- The text after one line end. -/
def newline? : List Char → Option (List Char)
  | '\n' :: rest => some rest
  | '\r' :: '\n' :: rest => some rest
  | _ => none

/-- The text after blanks and line ends. -/
def skipBlankLines : List Char → List Char
  | '\r' :: '\n' :: rest => skipBlankLines rest
  | c :: rest => if isBlank c || c == '\n' then skipBlankLines rest else c :: rest
  | [] => []

/-- The text after blanks, line ends and comments, as they may stand between the items of an array.
The flag says that the reader is inside a comment. -/
def skipFiller : Bool → List Char → List Char
  | _, '\r' :: '\n' :: rest => skipFiller false rest
  | _, '\n' :: rest => skipFiller false rest
  | true, c :: rest => if isPlain c then skipFiller true rest else c :: rest
  | false, c :: rest =>
    if isBlank c then skipFiller false rest
    else if c = '#' then skipFiller true rest
    else c :: rest
  | _, [] => []

/-- The text after the end of a statement: blanks, at most one comment, and then a line end or the
end of the document. -/
def lineEnd? (s : List Char) : Option (List Char) :=
  let rest := match skipBlanks s with
    | '#' :: comment => comment.dropWhile isPlain
    | other => other
  match rest with
  | [] => some []
  | _ => newline? rest

end FreshBuild.Toml
