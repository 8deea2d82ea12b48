/-
# FreshBuild.Shell.Quoting — reading words.

A word goes on until a blank or an operator that stands outside of all quotes. What a character means
depends on what it stands in: plain text, double quotes, the braces of a parameter, an arithmetic
expression or a document.
-/
import FreshBuild.Shell.Source

namespace FreshBuild.Shell

/-- The commands in a word, as somebody else reads them. -/
structure Inner where
  /-- The commands up to a closing parenthesis. -/
  enclosed : Reading (Option Node)
  /-- All commands of a text. -/
  whole : Reading (Option Node)

/-- What a character stands in. -/
inductive Context where
  | plain
  | quotes
  | braces (quoted : Bool)
  | arithmetic
  | document
deriving DecidableEq

namespace Context

/-- Text in the context counts as quoted. -/
def quotes? : Context → Bool
  | .plain | .braces false => false
  | _ => true

/-- The character has no meaning in the context. -/
def isOrdinary (context : Context) (c : Char) : Bool :=
  match c with
  | '\\' | '$' | '\x60' => false
  | '\'' => context.quotes?
  | '"' => context == .arithmetic || context == .document
  | '\x7d' => match context with
    | .braces _ => false
    | _ => true
  | '(' | ')' => context != .plain && context != .arithmetic
  | ' ' | '\t' | '\n' | ';' | '&' | '|' | '<' | '>' => context != .plain
  | _ => true

/-- The complaint about a text that ends in the context. -/
def atFinish : Context → Option Flaw
  | .plain | .document => none
  | .quotes => some .openQuote
  | .braces _ => some .openBrace
  | .arithmetic => some .openArithmetic

/-- What a backslash in front of a character stands for. -/
def escaped (context : Context) (c : Char) : Text :=
  let isKept : Bool := match context with
    | .quotes | .document | .arithmetic | .braces true =>
      c != '\\' && c != '\x60' && c != '$' && !(c == '"' && context != .document) &&
        !(c == '\x7d' && context == .braces true)
    | _ => false
  if isKept then ['\\', c] else [c]

end Context

/-! ## Parameters -/

/-- The name of a parameter between braces and what is wanted of it so far. -/
inductive Opening where
  | named (name : Text)
  | length (name : Text)
  | senseless

/-- The name at the front of the braces. -/
def braceName : Reading Opening := do
  let nameOrNumber : Reading Text := do
    match ← Reading.peek with
    | some c => Reading.span (if c.isDigit then Char.isDigit else isNameChar) (← Reading.fuel)
    | none => return []
  match ← Reading.peek with
  | none => return .senseless
  | some '\x7d' => return .senseless
  | some c =>
    if isNameStart c || c.isDigit then return .named (← nameOrNumber)
    else
      Reading.skip
      if c = '#' then
        match ← Reading.peek with
        | none => return .named [c]
        | some d =>
          if isNameChar d then
            let name ← nameOrNumber
            return if (← Reading.peek) = some '\x7d' then .length name else .senseless
          else
            let isAlone : Bool := match (← get).rest with
              | [_] => true
              | _ :: '\x7d' :: _ => d == '\x7d'
              | _ => true
            if isAlone then return .named [c]
            else
              Reading.skip
              return if isSpecialParameter d then .length [d] else .senseless
      else if isSpecialParameter c then return .named [c]
      else return .senseless

/-- What the sign behind the name asks for. -/
inductive Asked where
  | value
  | default (kind : Default) (orEmpty : Bool)
  | trim (atEnd longest : Bool)
  | senseless

def defaultKind? : Char → Option Default
  | '-' => some .instead
  | '+' => some .alternative
  | '?' => some .complain
  | '=' => some .assign
  | _ => none

/-- The sign behind the name between braces. -/
def braceSign : Reading Asked := do
  match ← Reading.peek with
  | none => return .senseless
  | some c =>
    Reading.skip
    if c = '\x7d' then return .value
    else if c = '#' || c = '%' then
      let doubled ← Reading.skipIf c
      return .trim (c == '%') doubled
    else if c = ':' then
      match ← Reading.peek with
      | some '\x7d' =>
        Reading.skip
        return .value
      | some d =>
        Reading.skip
        return match defaultKind? d with
          | some kind => .default kind true
          | none => .senseless
      | none => return .senseless
    else return match defaultKind? c with
      | some kind => .default kind false
      | none => .senseless

/-! ## Backquotes -/

/-- The text between backquotes, read behind the first, without its backslashes. -/
def backquoted (quoted : Bool) : Nat → Reading Text
  | 0 => throw .openBackquote
  | fuel + 1 => do
    match (← get).rest with
    | [] => throw .openBackquote
    | '\x60' :: rest =>
      Reading.advance rest 0
      return []
    | '\\' :: '\n' :: rest =>
      Reading.advance rest 1
      backquoted quoted fuel
    | '\\' :: c :: rest =>
      Reading.advance rest 0
      let isDropped := c == '\\' || c == '\x60' || c == '$' || quoted && c == '"'
      return (if isDropped then [c] else ['\\', c]) ++ (← backquoted quoted fuel)
    | c :: rest =>
      Reading.advance rest (if c = '\n' then 1 else 0)
      return c :: (← backquoted quoted fuel)

/-- Reads something from another text and comes back. -/
def Reading.elsewhere {α : Type} (text : Text) (line : Nat) (act : Reading α) : Reading α := do
  let s ← get
  set { s with rest := text, line, held := none, promises := [] }
  let a ← act
  modify fun t => { t with rest := s.rest, line := s.line, held := s.held, promises := s.promises }
  return a

/-! ## Words -/

/-- The pieces of a word up to the end of their context. `depth` counts the parentheses that are open
in an arithmetic expression. -/
def pieces (inner : Inner) : Nat → Context → Nat → Reading Word
  | 0, _, _ => return []
  | fuel + 1, context, depth => do
    let quoted := context.quotes?
    let s ← get
    let onward (front : Word) : Reading Word := return front ++ (← pieces inner fuel context depth)
    match s.rest with
    | [] =>
      match context.atFinish with
      | some flaw => throw flaw
      | none => return []
    | c :: rest =>
      if context.isOrdinary c then
        let run := s.rest.takeWhile context.isOrdinary
        Reading.advance (s.rest.drop run.length) (run.count '\n')
        onward [.text quoted run]
      else match c with
        | '\\' =>
          match rest with
          | [] =>
            Reading.advance [] 0
            onward [.text true ['\\']]
          | '\n' :: rest =>
            Reading.advance rest 1
            onward []
          | d :: rest =>
            Reading.advance rest 0
            onward [.text true (context.escaped d)]
        | '\'' =>
          let body := rest.takeWhile (· != '\'')
          match rest.drop body.length with
          | [] => throw .openQuote
          | _ :: rest =>
            Reading.advance rest (body.count '\n')
            onward [.text true body]
        | '"' =>
          Reading.advance rest 0
          if context = .quotes then return []
          else
            let body ← pieces inner fuel .quotes 0
            onward (if body.isEmpty then [.text true []] else body)
        | '\x60' =>
          Reading.advance rest 0
          let text ← backquoted quoted (← Reading.fuel)
          onward [.output quoted (← Reading.elsewhere text 1 inner.whole)]
        | '\x7d' =>
          Reading.advance rest 0
          return []
        | '$' =>
          Reading.advance rest 0
          match ← Reading.peek with
          | some '(' =>
            Reading.skip
            if ← Reading.skipIf '(' then
              onward [.arithmetic quoted (← pieces inner fuel .arithmetic 0)]
            else
              let promises := (← get).promises
              modify fun s => { s with promises := [] }
              let body ← inner.enclosed
              modify fun s => { s with promises }
              onward [.output quoted body]
          | some '\x7b' =>
            Reading.skip
            let opening ← braceName
            let within := context.quotes?
            match opening with
            | .senseless =>
              let _ ← pieces inner fuel (.braces within) 0
              onward [.parameter quoted [] .senseless]
            | .length name =>
              Reading.skip
              onward [.parameter quoted name .length]
            | .named name =>
              match ← braceSign with
              | .value => onward [.parameter quoted name .value]
              | .default kind orEmpty =>
                let body ← pieces inner fuel (.braces within) 0
                onward [.parameter quoted name (.default kind orEmpty body)]
              | .trim atEnd longest =>
                let body ← pieces inner fuel (.braces false) 0
                onward [.parameter quoted name (.trim atEnd longest body)]
              | .senseless =>
                let _ ← pieces inner fuel (.braces within) 0
                onward [.parameter quoted [] .senseless]
          | some d =>
            if isNameStart d then
              onward [.parameter quoted (← Reading.span isNameChar (← Reading.fuel)) .value]
            else if isSpecialParameter d then
              Reading.skip
              onward [.parameter quoted [d] .value]
            else onward [.text quoted ['$']]
          | none => onward [.text quoted ['$']]
        | '(' =>
          if context = .arithmetic then
            Reading.advance rest 0
            return .text quoted [c] :: (← pieces inner fuel context (depth + 1))
          else return []
        | ')' =>
          if context = .arithmetic then
            Reading.advance rest 0
            if 0 < depth then
              return .text quoted [c] :: (← pieces inner fuel context (depth - 1))
            else if ← Reading.skipIf ')' then return []
            else onward [.text quoted [c]]
          else return []
        | _ => return []

/-- The mark of a document, and whether any of it is quoted. Nothing in it stands for anything else. -/
def markText : Nat → Reading (Text × Bool)
  | 0 => return ([], false)
  | fuel + 1 => do
    let onward (front : Text) (quoted : Bool) : Reading (Text × Bool) := do
      let (more, quoted') ← markText fuel
      return (front ++ more, quoted || quoted')
    match (← get).rest with
    | [] => return ([], false)
    | '\\' :: '\n' :: rest =>
      Reading.advance rest 1
      onward [] false
    | '\\' :: c :: rest =>
      Reading.advance rest 0
      onward [c] true
    | '\'' :: rest =>
      let body := rest.takeWhile (· != '\'')
      match rest.drop body.length with
      | [] => throw .openQuote
      | _ :: rest =>
        Reading.advance rest (body.count '\n')
        onward body true
    | '"' :: rest =>
      let body := rest.takeWhile (· != '"')
      match rest.drop body.length with
      | [] => throw .openQuote
      | _ :: rest =>
        Reading.advance rest (body.count '\n')
        onward body true
    | c :: rest =>
      if [' ', '\t', '\n', ';', '&', '|', '<', '>', '(', ')'].contains c then return ([], false)
      else
        Reading.advance rest 0
        onward [c] false

/-- Reads the documents that were promised. They start here. -/
def readDocuments (inner : Inner) : Reading Unit := do
  let promises := (← get).promises
  modify fun s => { s with promises := [] }
  for p in promises do
    let s ← get
    let (body, rest) := documentLines p.mark p.dropTabs (s.rest.length + 1) s.rest
    let breaks := (s.rest.count '\n') - (rest.count '\n')
    let word ←
      if p.isLiteral then pure [.text true body]
      else Reading.elsewhere body s.line (pieces inner (body.length + 2) .document 0)
    Reading.advance rest breaks
    modify fun s => { s with documents := (p.number, word) :: s.documents }

end FreshBuild.Shell
