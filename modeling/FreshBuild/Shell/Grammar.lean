/-
# FreshBuild.Shell.Grammar — reading commands.

Commands contain lists of commands, and words contain them too. A grammar is what is known of the
commands one level further in; from it the grammar of the next level is built, and a script is read
with a grammar of as many levels as it could have.

Whether a word is a keyword, and whether line breaks count, depends on what may come next, so a reader
asks for a token with these two things in mind.
-/
import FreshBuild.Shell.Quoting

namespace FreshBuild.Shell

/-- What a list of commands is part of. -/
inductive Extent where
  /-- A line of the script: it ends with the line. -/
  | line
  /-- A part of a compound command: it ends before a keyword and is not empty. -/
  | body
  /-- A list that may be empty. -/
  | optional
deriving DecidableEq

/-- The readers of what commands contain. -/
structure Grammar where
  list : Extent → Reading (Option Node)
  command : Reading Node

/-- The commands in words, by a grammar. A list of commands puts the token behind it back. -/
def Grammar.inner (g : Grammar) : Inner where
  whole := g.list .optional
  enclosed := do
    let body ← g.list .optional
    let behind := (← get).held.getD .finish
    modify fun s => { s with held := none }
    match behind with
    | .closing => return body
    | other => Reading.unexpected other (some .closing)

/-! ## Tokens -/

/-- Goes over blanks and a comment. -/
def skipBlanks : Nat → Reading Unit
  | 0 => return
  | fuel + 1 => do
    match ← Reading.peek with
    | some ' ' | some '\t' =>
      Reading.skip
      skipBlanks fuel
    | some '#' =>
      let s ← get
      Reading.advance (s.rest.dropWhile (· != '\n')) 0
    | _ => return

/-- The sign of a redirection and the descriptor it is for, if none is named. -/
def redirectionSign : Reading (Nat × RedirectionSign) := do
  if ← Reading.skipIf '>' then
    if ← Reading.skipIf '>' then return (1, .file .append)
    else if ← Reading.skipIf '|' then return (1, .file .overwrite)
    else if ← Reading.skipIf '&' then return (1, .duplicate)
    else return (1, .file .write)
  else
    Reading.skip
    if ← Reading.skipIf '<' then return (0, .document (← Reading.skipIf '-'))
    else if ← Reading.skipIf '&' then return (0, .duplicate)
    else if ← Reading.skipIf '>' then return (0, .file .update)
    else return (0, .file .read)

/-- A word, or a redirection whose descriptor was all of the word. -/
def wordToken (inner : Inner) : Reading Token := do
  let w := Word.joined (← pieces inner (← Reading.fuel) .plain 0)
  let isSign := match (← get).rest.head? with
    | some c => c == '<' || c == '>'
    | none => false
  match isSign, w with
  | true, [] =>
    let (descriptor, sign) ← redirectionSign
    return .redirection descriptor sign
  | true, [.text false [d]] =>
    if d.isDigit then
      let (_, sign) ← redirectionSign
      return .redirection (d.toNat - '0'.toNat) sign
    else return .word w false
  | _, _ => return .word w (Word.plain? w).isNone

/-- The next token of the text. -/
def freshToken (inner : Inner) : Reading Token := do
  skipBlanks (← Reading.fuel)
  match ← Reading.peek with
  | none => return .finish
  | some '\n' =>
    Reading.skip
    return .newline
  | some '&' =>
    Reading.skip
    return if ← Reading.skipIf '&' then .both else .background
  | some '|' =>
    Reading.skip
    return if ← Reading.skipIf '|' then .either else .bar
  | some ';' =>
    Reading.skip
    return if ← Reading.skipIf ';' then .endOfArm else .semicolon
  | some '(' =>
    Reading.skip
    return .opening
  | some ')' =>
    Reading.skip
    return .closing
  | some _ => wordToken inner

/-- The token that was put back, or else the next one. -/
def anyToken (inner : Inner) : Reading Token := do
  match (← get).held with
  | some t =>
    modify fun s => { s with held := none }
    return t
  | none => freshToken inner

/-- The next token that is no line break. Documents are read where their lines start. -/
def beyondBreaks (inner : Inner) : Nat → Reading Token
  | 0 => return .finish
  | fuel + 1 => do
    match ← anyToken inner with
    | .newline =>
      readDocuments inner
      beyondBreaks inner fuel
    | t => return t

/-- The next token where it may be a keyword or an alias. -/
def commandToken (inner : Inner) (overBreaks keywords : Bool) : Nat → Reading Token
  | 0 => return .finish
  | fuel + 1 => do
    let t ← if overBreaks then beyondBreaks inner (← Reading.fuel) else anyToken inner
    match t with
    | .word w false =>
      match Word.plain? w with
      | some name =>
        let text := String.ofList name
        if keywords && Token.keywords.contains text then return .keyword text
        else if ← Reading.openAlias name then commandToken inner overBreaks keywords fuel
        else return t
      | none => return t
    | _ => return t

/-- How often an alias may stand for another one. -/
def maxAliases : Nat := 100

/-- The next token; `overBreaks` passes over line breaks, and `keywords` looks for keywords and
aliases. -/
def nextToken (inner : Inner) (overBreaks keywords : Bool) : Reading Token := do
  if keywords then commandToken inner overBreaks keywords maxAliases
  else if overBreaks then beyondBreaks inner (← Reading.fuel)
  else anyToken inner

/-- The next token has to be a certain keyword. -/
def expectKeyword (inner : Inner) (name : String) : Reading Unit := do
  let t ← nextToken inner false false
  if t.isKeyword name then return else Reading.unexpected t (some (.keyword name))

/-! ## Simple commands -/

/-- The name and the value, if a word is an assignment. -/
def assignment? (w : Word) : Option (Text × Word) :=
  match w with
  | .text false chars :: rest =>
    let name := chars.takeWhile isNameChar
    match chars.drop name.length with
    | '=' :: value =>
      if isName name then some (name, (if value = [] then rest else .text false value :: rest)) else none
    | _ => none
  | _ => none

/-- A redirection behind its sign. -/
def redirection (inner : Inner) (descriptor : Nat) (sign : RedirectionSign) :
    Reading Redirection := do
  match sign with
  | .document dropTabs =>
    skipBlanks (← Reading.fuel)
    let s ← get
    match s.held, s.rest.head? with
    | none, some c =>
      if ['\n', ';', '&', '|', '<', '>', '(', ')'].contains c then
        Reading.unexpected (← anyToken inner) none
      else
        let (mark, quoted) ← markText (← Reading.fuel)
        return .document descriptor (← promise mark dropTabs quoted)
    | _, _ => Reading.unexpected (← anyToken inner) none
  | .file mode =>
    match ← anyToken inner with
    | .word w _ => return .file descriptor mode w
    | t => Reading.unexpected t none
  | .duplicate =>
    match ← anyToken inner with
    | .word w _ => return .duplicate descriptor w
    | t => Reading.unexpected t none

/-- The commands that a function cannot be named for. -/
def specialNames : List String :=
  [".", ":", "break", "continue", "eval", "exec", "exit", "export", "local", "readonly", "return",
    "set", "shift", "times", "trap", "unset"]

/-- The parts of a simple command. -/
structure Parts where
  assignments : List (Text × Word)
  words : List Word
  redirections : List Redirection

/-- Reads the parts of a simple command, or a function whose name was taken for its first word. -/
def simpleCommand (g : Grammar) (inner : Inner) (line : Nat) : Nat → Parts → Reading Node
  | 0, p => return .simple line p.assignments p.words p.redirections
  | fuel + 1, p => do
    let mayBeAlias := p.words.isEmpty && !(p.assignments.isEmpty && p.redirections.isEmpty)
    match ← if mayBeAlias then commandToken inner false false maxAliases else anyToken inner with
    | .word w _ =>
      match (if p.words.isEmpty then assignment? w else none) with
      | some a => simpleCommand g inner line fuel { p with assignments := p.assignments ++ [a] }
      | none => simpleCommand g inner line fuel { p with words := p.words ++ [w] }
    | .redirection descriptor sign =>
      let r ← redirection inner descriptor sign
      simpleCommand g inner line fuel { p with redirections := p.redirections ++ [r] }
    | t =>
      match t, p.words, p.assignments, p.redirections with
      | .opening, [w], [], [] =>
        match ← anyToken inner with
        | .closing =>
          let name := (Word.plain? w).getD []
          if !isName name || specialNames.contains (String.ofList name) then throw .badFunctionName
          else
            let line := (← get).line
            let first ← nextToken inner true true
            Reading.hold first
            return .define line name (← g.command)
        | other => Reading.unexpected other (some .closing)
      | _, _, _, _ =>
        Reading.hold t
        return .simple line p.assignments p.words p.redirections

/-! ## Compound commands -/

/-- The commands of a part that must not be empty. -/
def body (g : Grammar) : Reading Node := do
  return ((← g.list .body).getD (.simple 1 [] [] []))

/-- The rest of a choice, behind its first keyword. -/
def choice (g : Grammar) (inner : Inner) : Nat → Reading Node
  | 0 => body g
  | fuel + 1 => do
    let test ← body g
    expectKeyword inner "then"
    let yes ← body g
    match ← nextToken inner false false with
    | .keyword "elif" => return .choice test yes (some (← choice g inner fuel))
    | .keyword "else" => return .choice test yes (some (← body g))
    | t =>
      Reading.hold t
      return .choice test yes none

/-- Words up to the end of their line. -/
def wordsOfLine (inner : Inner) : Nat → Reading (List Word)
  | 0 => return []
  | fuel + 1 => do
    match ← anyToken inner with
    | .word w _ => return w :: (← wordsOfLine inner fuel)
    | .newline =>
      readDocuments inner
      return []
    | .semicolon => return []
    | t => Reading.unexpected t none

/-- The patterns of an arm, up to the parenthesis behind them. -/
def patterns (inner : Inner) : Nat → Token → Reading (List Word)
  | 0, _ => return []
  | fuel + 1, t => do
    let w : Word := match t with
      | .word w _ => w
      | .keyword name => [.text false name.toList]
      | _ => []
    match ← anyToken inner with
    | .bar => return w :: (← patterns inner fuel (← anyToken inner))
    | .closing => return [w]
    | other => Reading.unexpected other (some .closing)

/-- The arms of a selection. -/
def arms (g : Grammar) (inner : Inner) : Nat → Reading (List (List Word × Option Node))
  | 0 => return []
  | fuel + 1 => do
    let t ← nextToken inner true true
    if t.isKeyword "esac" then return []
    else
      let first ← match t with
        | .opening => anyToken inner
        | t => pure t
      let ps ← patterns inner (← Reading.fuel) first
      let arm := (ps, ← g.list .optional)
      match ← nextToken inner true true with
      | .endOfArm => return arm :: (← arms g inner fuel)
      | t =>
        if t.isKeyword "esac" then return [arm]
        else Reading.unexpected t (some .endOfArm)

/-- Redirections behind a compound command. Only right behind the command there may be a keyword
instead. -/
def trailingRedirections (inner : Inner) : Nat → Bool → Reading (List Redirection)
  | 0, _ => return []
  | fuel + 1, isFirst => do
    match ← nextToken inner false isFirst with
    | .redirection descriptor sign =>
      let r ← redirection inner descriptor sign
      return r :: (← trailingRedirections inner fuel false)
    | t =>
      Reading.hold t
      return []

/-- The part of a loop between its keywords. -/
def loopBody (g : Grammar) (inner : Inner) : Reading Node := do
  expectKeyword inner "do"
  let n ← body g
  expectKeyword inner "done"
  return n

/-- Reads one command. -/
def readCommand (g : Grammar) (inner : Inner) : Reading Node := do
  let line := (← get).line
  let fuel ← Reading.fuel
  let redirectable (n : Node) : Reading Node := do
    match n, ← trailingRedirections inner fuel true with
    | n, [] => return n
    | .subshell line body _, rs => return .subshell line body rs
    | n, rs => return .redirected line n rs
  let t ← anyToken inner
  match t with
  | .word .. | .redirection .. =>
    Reading.hold t
    simpleCommand g inner line fuel ⟨[], [], []⟩
  | .opening =>
    let n ← body g
    match ← anyToken inner with
    | .closing => redirectable (.subshell line n [])
    | other => Reading.unexpected other (some .closing)
  | .keyword "\x7b" =>
    let n ← body g
    expectKeyword inner "\x7d"
    redirectable n
  | .keyword "if" =>
    let n ← choice g inner fuel
    expectKeyword inner "fi"
    redirectable n
  | .keyword "while" | .keyword "until" =>
    let test ← body g
    redirectable (.loop (t.isKeyword "until") test (← loopBody g inner))
  | .keyword "for" =>
    match ← anyToken inner with
    | .word w false =>
      let name := (Word.plain? w).getD []
      if !isName name then throw .badLoopVariable
      else
        let t ← nextToken inner true true
        let words ←
          if t.isKeyword "in" then
            let words ← wordsOfLine inner fuel
            pure (some words)
          else
            match t with
            | .semicolon => pure none
            | t =>
              Reading.hold t
              pure none
        let first ← nextToken inner true true
        Reading.hold first
        redirectable (.each line name words (← loopBody g inner))
    | _ => throw .badLoopVariable
  | .keyword "case" =>
    match ← anyToken inner with
    | .word w _ =>
      let t ← nextToken inner true true
      if t.isKeyword "in" then redirectable (.select line w (← arms g inner fuel))
      else Reading.unexpected t (some (.keyword "in"))
    | other => Reading.unexpected other (some (.word [] false))
  | t => Reading.unexpected t none

/-! ## Lists -/

/-- The commands behind one that is piped into them. -/
def pipeParts (g : Grammar) (inner : Inner) : Nat → Reading (List Node)
  | 0 => return []
  | fuel + 1 => do
    match ← nextToken inner false false with
    | .bar =>
      let t ← nextToken inner true true
      Reading.hold t
      let n ← readCommand g inner
      return n :: (← pipeParts g inner fuel)
    | t =>
      Reading.hold t
      return []

/-- A pipeline, perhaps negated. -/
def pipeline (g : Grammar) (inner : Inner) : Reading Node := do
  let t ← anyToken inner
  let negated := t.isKeyword "!"
  let first ← if negated then nextToken inner false true else pure t
  Reading.hold first
  let n ← readCommand g inner
  let n ← match ← pipeParts g inner (← Reading.fuel) with
    | [] => pure n
    | parts => pure (.pipe (n :: parts))
  return if negated then .not n else n

/-- Pipelines behind one that decides about them. -/
def decided (g : Grammar) (inner : Inner) : Nat → Node → Reading Node
  | 0, n => return n
  | fuel + 1, n => do
    let next : Reading Node := do
      let t ← nextToken inner true true
      Reading.hold t
      pipeline g inner
    match ← nextToken inner false false with
    | .both => decided g inner fuel (.and n (← next))
    | .either => decided g inner fuel (.or n (← next))
    | t =>
      Reading.hold t
      return n

/-- Commands in a row, behind those that were read, the latest first. -/
def commands (g : Grammar) (inner : Inner) (extent : Extent) : Nat → List Node →
    Reading (List Node)
  | 0, done => return done
  | fuel + 1, done => do
    let t ← nextToken inner (extent != .line) true
    match t with
    | .newline =>
      readDocuments inner
      return done
    | .finish =>
      readDocuments inner
      Reading.hold t
      return done
    | t =>
      Reading.hold t
      if t.endsList && (extent == .optional || extent == .body && !done.isEmpty) then return done
      else
        let n ← decided g inner (← Reading.fuel) (← pipeline g inner)
        let t ← nextToken inner false false
        let n := match t with
          | .background => .background n
          | _ => n
        let done := n :: done
        match t with
        | .background | .semicolon => commands g inner extent fuel done
        | .newline | .finish =>
          Reading.hold t
          commands g inner extent fuel done
        | t =>
          if extent = .line then Reading.unexpected t none
          else
            Reading.hold t
            return done

/-- Commands in a row as one command. -/
def inRow : List Node → Option Node
  | [] => none
  | [n] => some n
  | ns => some (.sequence ns)

/-- The grammar one level further out. -/
def Grammar.next (g : Grammar) : Grammar where
  list extent := do return inRow (← commands g g.inner extent (← Reading.fuel) []).reverse
  command := readCommand g g.inner

/-- A grammar of so many levels. -/
def grammar : Nat → Grammar
  | 0 => ⟨fun _ => return none, return .simple 1 [] [] []⟩
  | levels + 1 => (grammar levels).next

/-! ## Scripts -/

/-- How deep commands can be nested. -/
def maxLevels : Nat := 60

/-- Reads the commands up to the end of a line. Nothing is left if the answer is none; a line without
commands has no node. -/
def readLine : Reading (Option (Option Node)) := do
  let g := grammar maxLevels
  let done ← g.list .line
  match done, (← get).held with
  | none, some .finish => return none
  | done, _ => return some done

end FreshBuild.Shell
