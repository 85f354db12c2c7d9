import TsWorkshop.Script.Syntax

/-!
Reading scripts. A script is read one complete command at a time, so that what stands before a fault
has run by then.
-/

namespace TsWorkshop.Script

/-- What is left of a script, and the number of the current line. -/
structure Cursor where
  line : Nat
  rest : List Char

/-- Reads a part of a script. -/
abbrev Reader (α : Type) := StateT Cursor (Except LocatedFault) α

namespace Reader

/-- The characters that are left. -/
def rest : Reader (List Char) := do return (← get).rest

/-- Skips characters, counting the lines among them. -/
def skip (n : Nat) : Reader Unit :=
  modify fun c => ⟨c.line + (c.rest.take n).count '\n', c.rest.drop n⟩

/-- Takes the characters at the front that satisfy `p`. -/
def takeWhile (p : Char → Bool) : Reader (List Char) := do
  let found := (← rest).takeWhile p
  skip found.length
  return found

def isBlank (c : Char) : Bool := c = ' ' || c = '\t'

/-- How many characters at the front separate tokens on a line: blanks and continued line ends. -/
def gapLength : List Char → Nat
  | '\\' :: '\n' :: rest => gapLength rest + 2
  | c :: rest => if isBlank c then gapLength rest + 1 else 0
  | [] => 0

/-- Skips blanks, and the comment behind them. -/
def skipBlanks : Reader Unit := do
  skip (gapLength (← rest))
  match ← rest with
  | '#' :: _ => let _ ← takeWhile (· != '\n')
  | _ => pure ()

/-- How many characters at the front belong to blank lines and comments. -/
def blankLines (inComment : Bool) : List Char → Nat
  | [] => 0
  | c :: rest =>
    if c = '\n' then blankLines false rest + 1
    else if inComment || isBlank c then blankLines inComment rest + 1
    else if c = '#' then blankLines true rest + 1
    else 0

/-- Skips blanks, comments and line ends. -/
def skipLines : Reader Unit := do skip (blankLines false (← rest))

/-- Whether the rest starts with a text; then it is skipped. -/
def accept (s : String) : Reader Bool := do
  if (Text.stripStart s.toList (← rest)).isSome then
    skip s.toList.length
    return true
  else return false

/-- Ends with a fault on the current line. -/
def refuse {α : Type} (fault : SyntaxFault) : Reader α := do throw ⟨(← get).line, fault⟩

end Reader

open Reader

/-- The characters that end a word. -/
def endsWord (c : Char) : Bool := " \t\n;&|<>()".toList.contains c

/-- Words with a meaning of their own where a command may stand. -/
def reservedWords : List String :=
  ["if", "then", "elif", "else", "fi", "for", "in", "do", "done", "while", "until", "case", "esac",
   "\x7b", "\x7d", "!"]

/-- The reserved word at the front. -/
def reservedWord? (cs : List Char) : Option String :=
  let word := String.ofList (cs.takeWhile fun c => !endsWord c)
  if reservedWords.contains word then some word else none

/-- The token at the front, as a fault shows it. -/
def token (cs : List Char) : String :=
  match cs, reservedWord? cs with
  | [], _ => "end of file"
  | '\n' :: _, _ => "newline"
  | ';' :: ';' :: _, _ => "\";;\""
  | '&' :: '&' :: _, _ => "\"&&\""
  | '|' :: '|' :: _, _ => "\"||\""
  | c :: _, none => if endsWord c then "\"" ++ c.toString ++ "\"" else "word"
  | _, some word => "\"" ++ word ++ "\""

/-- Refuses the token at the front. -/
def unexpected {α : Type} (expected : Option String := none) : Reader α := do
  refuse (.unexpected (token (← rest)) expected)

def isNameStart (c : Char) : Bool := c.isAlpha || c = '_'

def isNamePart (c : Char) : Bool := c.isAlphanum || c = '_'

/-- Parameters with a single character for their name. -/
def isSpecial (c : Char) : Bool := c.isDigit || "@*#?$!-".toList.contains c

/-- The use that stands behind the name of a parameter in braces, and the length of its mark. -/
def useOf : List Char → ParameterUse × Nat
  | ':' :: '-' :: _ => (.orElse true, 2)
  | ':' :: '=' :: _ => (.orAssign true, 2)
  | ':' :: '?' :: _ => (.orFail true, 2)
  | ':' :: '+' :: _ => (.ifSet true, 2)
  | '-' :: _ => (.orElse false, 1)
  | '=' :: _ => (.orAssign false, 1)
  | '?' :: _ => (.orFail false, 1)
  | '+' :: _ => (.ifSet false, 1)
  | '#' :: '#' :: _ => (.cutStart true, 2)
  | '#' :: _ => (.cutStart false, 1)
  | '%' :: '%' :: _ => (.cutEnd true, 2)
  | '%' :: _ => (.cutEnd false, 1)
  | _ => (.value, 0)

/-- The name of a parameter in braces. -/
def bracedName : Reader String := do
  match ← rest with
  | c :: _ =>
    if isNameStart c then return String.ofList (← takeWhile isNamePart)
    else if c.isDigit then return String.ofList (← takeWhile Char.isDigit)
    else if isSpecial c then
      skip 1
      return c.toString
    else refuse .openBrace
  | [] => refuse .openBrace

/-- Skips a reserved word. -/
def expect (word : String) : Reader Unit := do
  if reservedWord? (← rest) = some word then skip word.toList.length else unexpected (some word)

/-- Skips a closing bracket. -/
def expectBracket : Reader Unit := do
  if ← accept ")" then return () else unexpected (some ")")

/-- The name and the operator of an assignment at the front: `name=`. -/
def assignment? (cs : List Char) : Option String :=
  match cs with
  | c :: _ =>
    if isNameStart c then
      let name := cs.takeWhile isNamePart
      match cs.drop name.length with
      | '=' :: _ => some (String.ofList name)
      | _ => none
    else none
  | [] => none

/-- The name of a function whose definition starts here, and the length of the text up to and with
the opening bracket. -/
def definition? (cs : List Char) : Option (String × Nat) :=
  let name := cs.takeWhile isNamePart
  let behind := cs.drop name.length
  match name, behind.drop (gapLength behind) with
  | c :: _, '(' :: _ =>
    if isNameStart c then some (String.ofList name, name.length + gapLength behind + 1) else none
  | _, _ => none

mutual

/-- The pieces of a word up to a character that ends it. In quotes only `"` ends it, in braces only
`\x7d`, in an arithmetic expression two closing brackets. Each step is one piece. -/
def pieces : Nat → (ending : List Char → Bool) → (inQuotes : Bool) → Reader (List Piece)
  | 0, _, _ => refuse .openQuote
  | steps + 1, ending, inQuotes => do
    let cs ← rest
    if ending cs then return []
    else
      match inQuotes, cs with
      | _, [] => refuse .openQuote
      | _, '\\' :: '\n' :: _ => do
        skip 2
        pieces steps ending inQuotes
      | false, '\\' :: c :: _ => do
        skip 2
        return .text c.toString true :: (← pieces steps ending inQuotes)
      | true, '\\' :: c :: _ => do
        skip 2
        let s := if "$\x60\"\\".toList.contains c then c.toString else String.ofList ['\\', c]
        return .text s true :: (← pieces steps ending inQuotes)
      | false, '\'' :: _ => do
        skip 1
        let s ← takeWhile (· != '\'')
        if ← accept "'" then
          return .text (String.ofList s) true :: (← pieces steps ending inQuotes)
        else refuse .openQuote
      | _, '"' :: _ => do
        skip 1
        let inside ← pieces steps (fun cs => cs.head? = some '"') true
        skip 1
        let inside := if inside.isEmpty then [.text "" true] else inside
        return inside ++ (← pieces steps ending inQuotes)
      | _, '$' :: _ => do
        skip 1
        let piece ← dollar steps inQuotes
        return piece :: (← pieces steps ending inQuotes)
      | _, '\x60' :: _ => do
        skip 1
        let line := (← get).line
        let body ← takeWhile (· != '\x60')
        if ← accept "\x60" then
          let behind ← get
          set (Cursor.mk line body)
          let command ← commands steps []
          set behind
          return .output command inQuotes :: (← pieces steps ending inQuotes)
        else refuse .openQuote
      | _, c :: _ => do
        skip 1
        return .text c.toString inQuotes :: (← pieces steps ending inQuotes)

/-- What stands behind a dollar sign. -/
def dollar : Nat → Bool → Reader Piece
  | 0, _ => refuse .openQuote
  | steps + 1, inQuotes => do
    match ← rest with
    | '(' :: '(' :: _ => do
      skip 2
      let inside ← pieces steps (fun cs => cs.take 2 = [')', ')']) true
      skip 2
      return .arithmetic inside inQuotes
    | '(' :: _ => do
      skip 1
      let body ← commands steps [')']
      skipLines
      expectBracket
      return .output body inQuotes
    | '\x7b' :: '#' :: '\x7d' :: _ => do
      skip 3
      return .parameter "#" .value [] inQuotes
    | '\x7b' :: '#' :: _ => do
      skip 2
      let name ← bracedName
      if ← accept "\x7d" then return .parameter name .length [] inQuotes
      else refuse .openBrace
    | '\x7b' :: _ => do
      skip 1
      let name ← bracedName
      let (use, length) := useOf (← rest)
      skip length
      let word ← pieces steps (fun cs => cs.head? = some '\x7d') false
      skip 1
      match use, word with
      | .value, _ :: _ => refuse .openBrace
      | use, word => return .parameter name use word inQuotes
    | c :: _ =>
      if isNameStart c then
        let name ← takeWhile isNamePart
        return .parameter (String.ofList name) .value [] inQuotes
      else if isSpecial c then
        skip 1
        return .parameter c.toString .value [] inQuotes
      else return .text "$" inQuotes
    | [] => return .text "$" inQuotes

/-- A word. -/
def word : Nat → Reader (List Piece)
  | 0 => refuse .openQuote
  | steps + 1 =>
    pieces steps (fun cs => match cs with
      | [] => true
      | c :: _ => endsWord c) false

/-- The redirection at the front, if there is one. -/
def redirect? : Nat → Reader (Option Redirect)
  | 0 => return none
  | steps + 1 => do
    let cs ← rest
    let digits := cs.takeWhile Char.isDigit
    match cs.drop digits.length with
    | '<' :: '<' :: _ => if digits.length ≤ 1 then unexpected else return none
    | c :: _ =>
      if (c = '<' || c = '>') && digits.length ≤ 1 then do
        skip digits.length
        let (mode, length) := (match c, (← rest).drop 1 with
          | '>', '>' :: _ => (RedirectMode.append, 2)
          | '>', '&' :: _ | '<', '&' :: _ => (.duplicate, 2)
          | '>', '|' :: _ => (.replace, 2)
          | '>', _ => (.replace, 1)
          | _, _ => (.read, 1))
        skip length
        skipBlanks
        let target ← word steps
        if target.isEmpty then unexpected
        else
          let stream :=
            if digits.isEmpty then (if c = '>' then 1 else 0) else Text.digitsValue 0 digits
          return some (.mk stream mode target)
      else return none
    | [] => return none

/-- The redirections behind a compound command. -/
def redirects : Nat → Reader (List Redirect)
  | 0 => return []
  | steps + 1 => do
    skipBlanks
    match ← redirect? steps with
    | some r => return r :: (← redirects steps)
    | none => return []

/-- The parts of a simple command: assignments, words and redirections. -/
def simpleParts : Nat → List (String × List Piece) → List (List Piece) → List Redirect →
    Reader (List (String × List Piece) × List (List Piece) × List Redirect)
  | 0, _, _, _ => refuse .openQuote
  | steps + 1, assignments, words, redirects => do
    skipBlanks
    match ← redirect? steps with
    | some r => simpleParts steps assignments words (redirects ++ [r])
    | none => do
      match ← rest with
      | [] => return (assignments, words, redirects)
      | c :: cs =>
        if endsWord c then return (assignments, words, redirects)
        else
          match words, assignment? (c :: cs) with
          | [], some name => do
            skip (name.toList.length + 1)
            let value ← word steps
            simpleParts steps (assignments ++ [(name, value)]) words redirects
          | words, _ => do
            let w ← word steps
            simpleParts steps assignments (words ++ [w]) redirects

/-- The words behind `in`. -/
def wordList : Nat → Reader (List (List Piece))
  | 0 => return []
  | steps + 1 => do
    skipBlanks
    match ← rest with
    | [] => return []
    | c :: _ =>
      if endsWord c then return []
      else
        let w ← word steps
        return w :: (← wordList steps)

/-- The patterns of an arm up to the closing bracket. -/
def patterns : Nat → Reader (List (List Piece))
  | 0 => unexpected
  | steps + 1 => do
    skipBlanks
    let w ← word steps
    skipBlanks
    if ← accept "|" then return w :: (← patterns steps)
    else
      expectBracket
      return [w]

/-- The arms of a choice by patterns, up to its end. -/
def arms : Nat → Reader (List (List (List Piece) × Command))
  | 0 => unexpected
  | steps + 1 => do
    skipLines
    if reservedWord? (← rest) = some "esac" then
      expect "esac"
      return []
    else
      let _ ← accept "("
      let ps ← patterns steps
      let body ← commands steps [';']
      skipLines
      if ← accept ";;" then return (ps, body) :: (← arms steps)
      else if reservedWord? (← rest) = some "esac" then
        expect "esac"
        return [(ps, body)]
      else unexpected (some ";;")

/-- What stands behind the body of a choice. -/
def elseBranch : Nat → Reader Command
  | 0 => unexpected
  | steps + 1 => do
    skipLines
    match reservedWord? (← rest) with
    | some "elif" => do
      expect "elif"
      ifBranch steps
    | some "else" => do
      expect "else"
      let body ← commands steps []
      skipLines
      expect "fi"
      return body
    | _ => do
      expect "fi"
      return .skip

/-- A choice behind `if` or `elif`. -/
def ifBranch : Nat → Reader Command
  | 0 => unexpected
  | steps + 1 => do
    let condition ← commands steps []
    skipLines
    expect "then"
    let body ← commands steps []
    return .choice condition body (← elseBranch steps)

/-- A command up to its redirections. -/
def command : Nat → Reader Command
  | 0 => unexpected
  | steps + 1 => do
    skipBlanks
    let cs ← rest
    let line := (← get).line
    match cs, reservedWord? cs with
    | '(' :: _, _ => do
      skip 1
      let body ← commands steps [')']
      skipLines
      expectBracket
      return .redirected line true body (← redirects steps)
    | _, some "\x7b" => do
      expect "\x7b"
      let body ← commands steps []
      skipLines
      expect "\x7d"
      return .redirected line false body (← redirects steps)
    | _, some "if" => do
      expect "if"
      let body ← ifBranch steps
      return .redirected line false body (← redirects steps)
    | _, some "while" => do
      expect "while"
      let condition ← commands steps []
      let body ← doBody steps
      return .redirected line false (.loop false condition body) (← redirects steps)
    | _, some "until" => do
      expect "until"
      let condition ← commands steps []
      let body ← doBody steps
      return .redirected line false (.loop true condition body) (← redirects steps)
    | _, some "for" => do
      expect "for"
      skipBlanks
      let name ← takeWhile isNamePart
      if !(name.head?.any isNameStart) then refuse .badVariable
      skipLines
      let words ← (if reservedWord? (← rest) = some "in" then do
          expect "in"
          return some (← wordList steps)
        else return none)
      skipBlanks
      let _ ← accept ";"
      let body ← doBody steps
      return .redirected line false (.forEach (String.ofList name) words body) (← redirects steps)
    | _, some "case" => do
      expect "case"
      skipBlanks
      let w ← word steps
      skipLines
      expect "in"
      let body := Command.caseOf w (← arms steps)
      return .redirected line false body (← redirects steps)
    | _, some _ => unexpected
    | _, none =>
      match definition? cs with
      | some (name, length) => do
        skip length
        skipBlanks
        expectBracket
        skipLines
        return .define name (← command steps)
      | none => do
        let (assignments, words, rs) ← simpleParts steps [] [] []
        if assignments.isEmpty && words.isEmpty && rs.isEmpty then unexpected
        else return .simple line assignments words rs

/-- The body of a loop. -/
def doBody : Nat → Reader Command
  | 0 => unexpected
  | steps + 1 => do
    skipLines
    expect "do"
    let body ← commands steps []
    skipLines
    expect "done"
    return body

/-- Commands with pipes between them, perhaps negated. -/
def pipeline : Nat → Reader Command
  | 0 => unexpected
  | steps + 1 => do
    skipBlanks
    if reservedWord? (← rest) = some "!" then
      expect "!"
      return .negated (← pipeline steps)
    else
      let first ← command steps
      skipBlanks
      match ← rest with
      | '|' :: '|' :: _ => return first
      | '|' :: _ => do
        skip 1
        skipLines
        return .pipe first (← pipeline steps)
      | _ => return first

/-- Pipelines with `&&` and `||` between them, `first` being what stands before. -/
def conditional : Nat → Command → Reader Command
  | 0, _ => unexpected
  | steps + 1, first => do
    skipBlanks
    if ← accept "&&" then
      skipLines
      conditional steps (.andThen first (← pipeline steps))
    else if ← accept "||" then
      skipLines
      conditional steps (.orElse first (← pipeline steps))
    else return first

/-- Commands up to the end, a reserved word that closes a construct, or one of the given
characters. -/
def commands : Nat → List Char → Reader Command
  | 0, _ => unexpected
  | steps + 1, closing => do
    skipLines
    let cs ← rest
    let closed := match cs, reservedWord? cs with
      | [], _ => true
      | ';' :: ';' :: _, _ => closing.contains ';'
      | c :: _, none => c != ';' && closing.contains c
      | _, some w => ["then", "elif", "else", "fi", "do", "done", "esac", "\x7d"].contains w
    if closed then return .skip
    else
      let first ← conditional steps (← pipeline steps)
      skipBlanks
      match ← rest with
      | ';' :: ';' :: _ => return first
      | ';' :: _ | '&' :: _ => do
        skip 1
        return .sequence first (← commands steps closing)
      | '\n' :: _ => return .sequence first (← commands steps closing)
      | _ => return first

end

/-- The commands up to the end of the line, and the place behind them; `none` at the end. -/
def nextLine (c : Cursor) : Except LocatedFault (Option (Command × Cursor)) := do
  let steps := 8 * c.rest.length + 64
  let line : Reader (Option Command) := do
    skipLines
    if (← rest).isEmpty then return none
    else
      let first ← conditional steps (← pipeline steps)
      skipBlanks
      match ← rest with
      | [] => return some first
      | ';' :: ';' :: _ => unexpected
      | ';' :: _ | '&' :: _ | '\n' :: _ => do
        skip 1
        return some first
      | _ => unexpected
  let (read, behind) ← line.run c
  return read.map fun command => (command, behind)

end TsWorkshop.Script
