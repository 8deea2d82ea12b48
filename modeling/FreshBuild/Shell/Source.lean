/-
# FreshBuild.Shell.Source — a script being read.

A script is read from the front, one token at a time, and a token that was read may be put back once.
A document that a redirection promises starts on the line after it, so the promises of a line are kept
until its end. Documents have numbers, and a node of the tree refers to a document by its number.
-/
import FreshBuild.Shell.Script

namespace FreshBuild.Shell

/-! ## Tokens -/

/-- The sign of a redirection. -/
inductive RedirectionSign where
  | file (mode : Mode)
  | duplicate
  /-- A document in the script; tabs in front of its lines may not count. -/
  | document (dropTabs : Bool)
deriving DecidableEq

inductive Token where
  | finish
  | newline
  | semicolon
  | background
  | both
  | either
  | bar
  | opening
  | closing
  | endOfArm
  | redirection (descriptor : Nat) (sign : RedirectionSign)
  | word (w : Word) (quoted : Bool)
  | keyword (name : String)

namespace Token

/-- The words that mean something at the front of a command. -/
def keywords : List String :=
  ["!", "case", "do", "done", "elif", "else", "esac", "fi", "for", "if", "in", "then", "until",
    "while", "\x7b", "\x7d"]

/-- How a token is called in complaints. -/
def name : Token → String
  | .finish => "end of file"
  | .newline => "newline"
  | .semicolon => "\";\""
  | .background => "\"&\""
  | .both => "\"&&\""
  | .either => "\"||\""
  | .bar => "\"|\""
  | .opening => "\"(\""
  | .closing => "\")\""
  | .endOfArm => "\";;\""
  | .redirection .. => "redirection"
  | .word .. => "word"
  | .keyword name => "\"" ++ name ++ "\""

/-- A list of commands ends before the token. -/
def endsList : Token → Bool
  | .finish | .closing | .endOfArm => true
  | .keyword name =>
    ["do", "done", "elif", "else", "esac", "fi", "then", "\x7d"].contains name
  | _ => false

def isKeyword (t : Token) (name : String) : Bool :=
  match t with
  | .keyword n => n == name
  | _ => false

end Token

/-! ## Flaws -/

/-- Why a text is no script. -/
inductive Flaw where
  | unexpected (found : String) (expected : Option String)
  | openQuote
  | openBrace
  | openArithmetic
  | openBackquote
  | badLoopVariable
  | badFunctionName
  | badDescriptor
deriving DecidableEq

/-- The words for a flaw. -/
def Flaw.text : Flaw → String
  | .unexpected found none => found ++ " unexpected"
  | .unexpected found (some expected) => found ++ " unexpected (expecting " ++ expected ++ ")"
  | .openQuote => "Unterminated quoted string"
  | .openBrace => "Missing '\x7d'"
  | .openArithmetic => "Missing '))'"
  | .openBackquote => "EOF in backquote substitution"
  | .badLoopVariable => "Bad for loop variable"
  | .badFunctionName => "Bad function name"
  | .badDescriptor => "Bad fd number"

/-! ## Sources -/

/-- A document that a redirection has promised. A literal one has no pieces but text. -/
structure Promise where
  number : Nat
  mark : Text
  dropTabs : Bool
  isLiteral : Bool

/-- What is left of a script, the line it is on, and the token that was put back. -/
structure Source where
  rest : Text
  line : Nat
  held : Option Token
  promises : List Promise
  documents : List (Nat × Word)
  nextDocument : Nat
  /-- The words that stand for other texts at the front of a command. -/
  aliases : List (Text × Text)
  /-- The aliases being read, each with the length of the text behind it. -/
  opened : List (Text × Nat)

/-- A source at the start of a text. -/
def Source.ofText (text : Text) (nextDocument : Nat) (aliases : List (Text × Text)) : Source :=
  ⟨text, 1, none, [], [], nextDocument, aliases, []⟩

/-- Reading a part of a script. -/
abbrev Reading := EStateM Flaw Source

namespace Reading

/-- Goes ahead to a rest of the text, with so many line breaks on the way. -/
def advance (rest : Text) (breaks : Nat) : Reading Unit :=
  modify fun s => { s with rest, line := s.line + breaks }

/-- Backslashes that join lines, dropped from the front of a text, and their number. -/
def withoutJoins : Text → Nat → Text × Nat
  | '\\' :: '\n' :: rest, n => withoutJoins rest (n + 1)
  | s, n => (s, n)

/-- The next character, behind joins of lines. -/
def peek : Reading (Option Char) := do
  let s ← get
  let (rest, breaks) := withoutJoins s.rest 0
  advance rest breaks
  return rest.head?

/-- Goes over one character. -/
def skip : Reading Unit := do
  match (← get).rest with
  | c :: rest => advance rest (if c = '\n' then 1 else 0)
  | [] => return

/-- Goes over a character if it is the next one. -/
def skipIf (c : Char) : Reading Bool := do
  if (← peek) = some c then
    skip
    return true
  else return false

/-- The characters that pass a test, each behind joins of lines. -/
def span (test : Char → Bool) : Nat → Reading Text
  | 0 => return []
  | fuel + 1 => do
    match ← peek with
    | some c =>
      if test c then
        skip
        return c :: (← span test fuel)
      else return []
    | none => return []

/-- Puts a token back. -/
def hold (t : Token) : Reading Unit := modify fun s => { s with held := some t }

/-- Something else was expected. -/
def unexpected {α : Type} (t : Token) (expected : Option Token) : Reading α :=
  throw (.unexpected t.name (expected.map Token.name))

/-- Replaces an alias that was just read by its text, unless the text is being read already. -/
def openAlias (name : Text) : Reading Bool := do
  let s ← get
  let behind := s.rest.length
  let opened := s.opened.filter (·.2 < behind)
  match s.aliases.lookup name with
  | some value =>
    if (opened.lookup name).isSome then return false
    else
      set { s with
        rest := value ++ s.rest
        opened := (name, behind) :: opened }
      return true
  | none => return false

/-- As many steps as reading the rest can take. -/
def fuel : Reading Nat := return (← get).rest.length + 2

end Reading

/-- Promises a document and gives its number. -/
def promise (mark : Text) (dropTabs isLiteral : Bool) : Reading Nat := do
  let s ← get
  let p : Promise := ⟨s.nextDocument, mark, dropTabs, isLiteral⟩
  set { s with
    promises := s.promises ++ [p]
    nextDocument := s.nextDocument + 1 }
  return s.nextDocument

/-- The lines of a document up to its mark, and the rest behind the mark. A text without the mark is
all document. -/
def documentLines (mark : Text) (dropTabs : Bool) : Nat → Text → Text × Text
  | 0, s => (s, [])
  | fuel + 1, s =>
    if s = [] then ([], [])
    else
      let s := if dropTabs then s.dropWhile (· == '\t') else s
      let line := s.takeWhile (· != '\n')
      let rest := s.drop line.length
      if line = mark then ([], rest.drop 1)
      else
        let (more, after) := documentLines mark dropTabs fuel (rest.drop 1)
        (line ++ rest.take 1 ++ more, after)

end FreshBuild.Shell
