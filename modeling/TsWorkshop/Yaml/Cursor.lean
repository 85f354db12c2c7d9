import TsWorkshop.Yaml.Scalar

/-!
Places in a YAML document, and the scalars that start at them.
-/

namespace TsWorkshop.Yaml

/-- What is left of a document, and the column of its first character. -/
structure Cursor where
  column : Nat
  rest : List Char
  /-- Nothing but blanks stands before it on its line. -/
  fresh : Bool := false

namespace Cursor

/-- The start of a line. -/
def atLine (rest : List Char) : Cursor := { column := 0, rest, fresh := true }

/-- The place behind a token of the same line, where only `rest` is left. -/
def advance (c : Cursor) (rest : List Char) : Cursor :=
  { column := c.column + (c.rest.length - rest.length), rest }

/-- Whether a character is one that ends a token, or there is none. -/
def endsToken : List Char → Bool
  | [] => true
  | c :: _ => isBlank c || c = '\n'

/-- The marks between documents stand at the start of a line. -/
def isDocumentMark (c : Cursor) : Bool :=
  c.column = 0 &&
    match c.rest with
    | '-' :: '-' :: '-' :: rest | '.' :: '.' :: '.' :: rest => endsToken rest
    | _ => false

/-- Nothing more of the document is left. -/
def isAtEnd (c : Cursor) : Bool := c.rest.isEmpty || c.isDocumentMark

/-- Whether an item of a block list starts here. -/
def isItem (c : Cursor) : Bool :=
  match c.rest with
  | '-' :: rest => endsToken rest
  | _ => false

end Cursor

/-- Skips blanks, line ends and comments. A comment starts the line or stands behind a blank. Unless
`tabs` are allowed, none may stand at the start of a line. -/
def skipGap (tabs inComment spaced fresh : Bool) (column : Nat) : List Char → Cursor
  | [] => { column, rest := [], fresh }
  | c :: rest =>
    if c = '\n' then skipGap tabs false true true 0 rest
    else if inComment then skipGap tabs true spaced fresh (column + 1) rest
    else if c = ' ' || (c = '\t' && (tabs || !fresh)) then
      skipGap tabs false true fresh (column + 1) rest
    else if c = '#' && spaced then skipGap tabs true spaced fresh (column + 1) rest
    else { column, rest := c :: rest, fresh }

namespace Cursor

/-- The next token of block context. -/
def next (c : Cursor) : Cursor := skipGap false false c.fresh c.fresh c.column c.rest

/-- The next token of flow context. -/
def nextInFlow (c : Cursor) : Cursor := skipGap true false true false c.column c.rest

end Cursor

/-! ### Plain scalars -/

def isFlowMark (c : Char) : Bool :=
  c = ',' || c = '[' || c = ']' || c = '\x7b' || c = '\x7d'

/-- Characters that no plain scalar starts with. -/
def indicators : List Char := "-?:,[]\x7b\x7d#&*!|>'\"%@\x60".toList

/-- Whether a plain scalar starts here. -/
def startsPlain (flow : Bool) : List Char → Bool
  | [] => false
  | c :: rest =>
    if c = '-' then !Cursor.endsToken rest
    else if c = '?' || c = ':' then !flow && !Cursor.endsToken rest
    else !indicators.contains c && !isBlank c

/-- Whether a colon with `rest` behind it ends a key. -/
def endsKey (flow : Bool) (rest : List Char) : Bool :=
  Cursor.endsToken rest ||
    (flow && match rest with
      | [] => true
      | c :: _ => isFlowMark c)

/-- The part of a plain scalar on one line, without blanks behind it, and what follows. -/
def plainLine (flow spaced : Bool) : List Char → List Char × List Char
  | [] => ([], [])
  | c :: rest =>
    if c = '\n' || (c = '#' && spaced) || (c = ':' && endsKey flow rest) || (flow && isFlowMark c)
    then ([], c :: rest)
    else
      match plainLine flow (isBlank c) rest with
      | ([], behind) => if isBlank c then ([], c :: rest) else ([c], behind)
      | (more, behind) => (c :: more, behind)

/-- Whether a tab stands in column `parent` or before it, on this line or on one of the blank lines
that follow. -/
def hasTabWithin (parent : Int) (column : Nat) : List Char → Bool
  | '\n' :: rest => hasTabWithin parent 0 rest
  | ' ' :: rest => hasTabWithin parent (column + 1) rest
  | '\t' :: rest => (column : Int) ≤ parent || hasTabWithin parent (column + 1) rest
  | _ => false

/-- The further lines of a plain scalar. In block context they are indented by more than `parent`,
without a tab up to there. Each step reads a line. -/
def plainLines (flow : Bool) (parent : Int) : Nat → List Char →
    Except Fault (List Char × List Char)
  | 0, cs => .ok ([], cs)
  | steps + 1, cs =>
    match cs.dropWhile isBlank with
    | '\n' :: rest =>
      let (breaks, width, line) := nextLine 0 0 cs
      let cursor : Cursor := { column := width, rest := line }
      if !flow && hasTabWithin parent 0 rest then .error .misplacedTab
      else if cursor.isAtEnd || line.head? = some '#' || (!flow && (width : Int) ≤ parent) then
        .ok ([], cs)
      else
        match plainLine flow true line with
        | ([], _) => .ok ([], cs)
        | (content, behind) => do
          let (more, behind) ← plainLines flow parent steps behind
          return (folded breaks ++ content ++ more, behind)
    | _ => .ok ([], cs)

/-- A plain scalar and the place behind it. -/
def plain (flow : Bool) (parent : Int) (c : Cursor) : Except Fault (String × Cursor) := do
  let (content, behind) := plainLine flow false c.rest
  let (more, behind) ← plainLines flow parent c.rest.length behind
  return (String.ofList (content ++ more), c.advance behind)

/-! ### Quoted scalars -/

/-- Escapes of a single character. -/
def simpleEscapes : List (Char × Char) :=
  [('0', '\x00'), ('a', '\x07'), ('b', '\x08'), ('t', '\t'), ('\t', '\t'), ('n', '\n'),
   ('v', '\x0b'), ('f', '\x0c'), ('r', '\r'), ('e', '\x1b'), (' ', ' '), ('"', '"'),
   ('/', '/'), ('\\', '\\'), ('N', '\u0085'), ('_', '\u00a0'), ('L', '\u2028'), ('P', '\u2029')]

/-- Escapes of a code, with the number of its digits. -/
def codeEscapes : List (Char × Nat) := [('x', 2), ('u', 4), ('U', 8)]

/-- The character behind a backslash, and what follows. -/
def escape : List Char → Except Fault (Char × List Char)
  | [] => .error .openQuote
  | c :: rest =>
    match simpleEscapes.lookup c, codeEscapes.lookup c with
    | some meaning, _ => .ok (meaning, rest)
    | none, none => .error .badEscape
    | none, some count =>
      match inBase? 16 (rest.take count) with
      | some code =>
        if (rest.take count).length = count &&
            (code < 0xD800 || (0xDFFF < code && code < 0x110000)) then
          .ok (Char.ofNat code, rest.drop count)
        else .error .badCode
      | none => .error .badCode

/-- The content of a quoted scalar up to the closing quote, and what follows it. Blanks around line
ends are dropped, and the ends are folded. Each step consumes a character. -/
def quotedContent (double : Bool) : Nat → List Char → Except Fault (List Char × List Char)
  | 0, _ | _ + 1, [] => .error .openQuote
  | steps + 1, c :: rest =>
    match double, c, rest with
    | false, '\'', '\'' :: rest => do
      let (content, behind) ← quotedContent double steps rest
      return ('\'' :: content, behind)
    | false, '\'', rest | true, '"', rest => .ok ([], rest)
    | true, '\\', '\n' :: rest => do
      let (breaks, _, line) := nextLine 0 0 rest
      let (content, behind) ← quotedContent double steps line
      return (List.replicate breaks '\n' ++ content, behind)
    | true, '\\', rest => do
      let (meaning, rest) ← escape rest
      let (content, behind) ← quotedContent double steps rest
      return (meaning :: content, behind)
    | _, c, rest =>
      let behindBlanks := (c :: rest).dropWhile isBlank
      match behindBlanks with
      | '\n' :: _ => do
        let (breaks, _, line) := nextLine 0 0 behindBlanks
        let (content, behind) ← quotedContent double steps line
        return (folded breaks ++ content, behind)
      | _ => do
        let (content, behind) ← quotedContent double steps rest
        return (c :: content, behind)

/-- A quoted scalar behind its opening quote, and the place behind the closing one. -/
def quoted (double : Bool) (c : Cursor) (inside : List Char) : Except Fault (String × Cursor) := do
  let (content, behind) ← quotedContent double (inside.length + 1) inside
  return (String.ofList content, c.advance behind)

/-- The quoted or plain scalar that stands on one line here, and the place behind it. -/
def lineScalar? (flow : Bool) (c : Cursor) : Option (String × Cursor) :=
  let onLine (scalar : String × Cursor) : Option (String × Cursor) :=
    if (c.rest.take (c.rest.length - scalar.2.rest.length)).contains '\n' then none else some scalar
  match c.rest with
  | '"' :: rest => (quoted true c rest).toOption.bind onLine
  | '\'' :: rest => (quoted false c rest).toOption.bind onLine
  | cs =>
    if startsPlain flow cs then
      let (content, behind) := plainLine flow false cs
      some (String.ofList content, c.advance behind)
    else none

/-- The key that starts here, and the place behind its colon. -/
def key? (flow : Bool) (c : Cursor) : Option (String × Cursor) := do
  let (name, behind) ← lineScalar? flow c
  match behind.rest.dropWhile isBlank with
  | ':' :: rest => if flow || endsKey flow rest then some (name, c.advance rest) else none
  | _ => none

/-! ### Block scalars -/

/-- What to do with the line ends at the end of a block scalar. -/
inductive Chomping where
  | strip | clip | keep
  deriving DecidableEq, Repr

/-- The header of a block scalar: chomping, the stated width of the indentation, and what
follows. -/
def header : Nat → Chomping → Option Nat → List Char → Chomping × Option Nat × List Char
  | 0, chomping, width, cs => (chomping, width, cs)
  | steps + 1, chomping, width, cs =>
    match cs with
    | '-' :: rest => header steps .strip width rest
    | '+' :: rest => header steps .keep width rest
    | c :: rest =>
      if '1' ≤ c && c ≤ '9' then header steps chomping (Text.digitValue? c) rest
      else (chomping, width, cs)
    | [] => (chomping, width, [])

/-- The lines of a block scalar, those that are blank or indented by at least `width`, without the
indentation; and what follows them. -/
def blockLines (width : Nat) : List (List Char) → List (List Char) × List (List Char)
  | [] => ([], [])
  | line :: rest =>
    let indent := (line.takeWhile (· == ' ')).length
    let isMark : Bool := (Cursor.atLine line).isDocumentMark
    if (indent = line.length || width ≤ indent) && !isMark then
      let (more, behind) := blockLines width rest
      (line.drop width :: more, behind)
    else ([], line :: rest)

/-- Joins the lines of a folded scalar: a single end between two lines that start with no blank
becomes a space. `ends` counts the line ends since the last line that was not blank. -/
def foldLines (lastIndented : Bool) (ends : Nat) : List (List Char) → List Char
  | [] => List.replicate ends '\n'
  | [] :: rest => foldLines lastIndented (ends + 1) rest
  | (c :: line) :: rest =>
    let gap :=
      if lastIndented || isBlank c || ends = 0 then List.replicate ends '\n' else folded ends
    gap ++ (c :: line) ++ foldLines (isBlank c) 1 rest

/-- The content of a block scalar with its last line ends treated as asked for. -/
def chomped (chomping : Chomping) (content : List Char) : List Char :=
  let body := Text.dropEndWhile (· == '\n') content
  match chomping with
  | .strip => body
  | .clip => if body.isEmpty || body.length = content.length then body else body ++ ['\n']
  | .keep => content

/-- A block scalar behind its indicator, and the place behind it. -/
def blockScalar (foldsLines : Bool) (parent : Int) (inside : List Char) :
    Except Fault (String × Cursor) :=
  let (chomping, stated, behind) := header 2 .clip none inside
  let cursor := skipGap true false false false 1 (behind.takeWhile (· != '\n'))
  if !cursor.rest.isEmpty then .error .badHeader
  else
    let lines := Text.splitChars '\n' ((behind.dropWhile (· != '\n')).drop 1)
    let base := (parent.toNat : Nat)
    let width := match stated with
      | some n => base + n
      | none =>
        match lines.find? fun line => !line.all (· == ' ') with
        | some line => max (line.takeWhile (· == ' ')).length (parent + 1).toNat
        | none => (parent + 1).toNat
    let (content, rest) := blockLines width lines
    -- the piece behind the last line end is no line
    let ended := !rest.isEmpty || content.getLast? = some []
    let content := if rest.isEmpty && ended then content.dropLast else content
    let text :=
      if foldsLines then foldLines false 0 content
      else content.flatMap fun line => line ++ ['\n']
    let text := if ended then text else text.dropLast
    .ok (String.ofList (chomped chomping text), .atLine (Text.joinChars '\n' rest))

end TsWorkshop.Yaml
