/-
# FreshBuild.Shell.Script — scripts of the command language.

A script is a tree of commands. A word of a command is a list of pieces: text, and what stands for
text that is known only when the command runs. Words and commands contain each other, because a word
can hold the command whose output it stands for.

A text is a list of characters here, each standing for one byte.
-/
import FreshBuild.Text.Utf8

namespace FreshBuild.Shell

/-- Characters that each stand for one byte. -/
abbrev Text := List Char

/-- The text that bytes spell. -/
def Text.ofBytes (s : Bytes) : Text := s.map fun b => Char.ofNat b.toNat

/-- The bytes of a text. -/
def Text.bytes (s : Text) : Bytes := s.map Char.toUInt8

/-! ## Redirections -/

/-- How a file is opened for a redirection. -/
inductive Mode where
  | read
  | write
  /-- Written even if files are protected. -/
  | overwrite
  | append
  | update
deriving DecidableEq

/-- What a word has to be for a parameter to be replaced by it. -/
inductive Default where
  /-- The word stands in for a missing value. -/
  | instead
  /-- The word becomes the value. -/
  | assign
  /-- The word is the complaint about a missing value. -/
  | complain
  /-- The word replaces a value that is there. -/
  | alternative
deriving DecidableEq

/-! ## The tree -/

mutual

/-- A piece of a word. Quoted pieces are never cut at blanks, and their signs have no meaning. -/
inductive Piece where
  | text (quoted : Bool) (chars : Text)
  | parameter (quoted : Bool) (name : Text) (use : Use)
  /-- The output of commands. -/
  | output (quoted : Bool) (body : Option Node)
  | arithmetic (quoted : Bool) (body : List Piece)

/-- What is wanted of a parameter. -/
inductive Use where
  | value
  | length
  /-- `orEmpty` lets an empty value count as missing. -/
  | default (kind : Default) (orEmpty : Bool) (word : List Piece)
  /-- The value without the part at its front or its end that a pattern matches. -/
  | trim (atEnd longest : Bool) (pattern : List Piece)
  /-- A use that makes no sense. -/
  | senseless

/-- A redirection of a descriptor. -/
inductive Redirection where
  | file (descriptor : Nat) (mode : Mode) (target : List Piece)
  | duplicate (descriptor : Nat) (target : List Piece)
  /-- The input is a document in the script itself, known by its number. -/
  | document (descriptor : Nat) (number : Nat)

/-- A command. -/
inductive Node where
  | simple (line : Nat) (assignments : List (Text × List Piece)) (words : List (List Piece))
      (redirections : List Redirection)
  | pipe (parts : List Node)
  | not (body : Node)
  | and (left right : Node)
  | or (left right : Node)
  | sequence (items : List Node)
  | background (body : Node)
  | redirected (line : Nat) (body : Node) (redirections : List Redirection)
  | subshell (line : Nat) (body : Node) (redirections : List Redirection)
  | choice (test body : Node) (other : Option Node)
  | loop (until_ : Bool) (test body : Node)
  | each (line : Nat) (name : Text) (words : Option (List (List Piece))) (body : Node)
  | select (line : Nat) (word : List Piece) (arms : List (List (List Piece) × Option Node))
  | define (line : Nat) (name : Text) (body : Node)

end

abbrev Word := List Piece

/-! ## Characters with a meaning -/

def isNameStart (c : Char) : Bool := c.isAlpha || c == '_'

def isNameChar (c : Char) : Bool := c.isAlphanum || c == '_'

/-- A text that can name a variable or a function. -/
def isName (s : Text) : Bool := s.head?.any isNameStart && s.all isNameChar

/-- The parameters that are a single sign. -/
def isSpecialParameter (c : Char) : Bool :=
  ['@', '*', '#', '?', '-', '$', '!'].contains c || c.isDigit

/-- The text of a word, if it is nothing but text without quotes. -/
def Word.plain? : Word → Option Text
  | [] => some []
  | .text false chars :: rest => (Word.plain? rest).map (chars ++ ·)
  | _ => none

/-- Neighbouring texts of one kind put together. -/
def Word.joined : Word → Word
  | [] => []
  | .text quoted chars :: rest =>
    match Word.joined rest with
    | .text quoted' chars' :: more =>
      if quoted = quoted' then .text quoted (chars ++ chars') :: more
      else .text quoted chars :: .text quoted' chars' :: more
    | more => .text quoted chars :: more
  | piece :: rest => piece :: Word.joined rest

end FreshBuild.Shell
