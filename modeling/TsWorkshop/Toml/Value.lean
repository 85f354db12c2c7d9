import TsWorkshop.Number.Word
import TsWorkshop.Config.Inline
import TsWorkshop.Toml.Moment
import TsWorkshop.Toml.Table

/-!
Values of TOML documents: strings, numbers, dates, arrays and inline tables.
-/

namespace TsWorkshop.Toml

def isBlank (c : Char) : Bool := c = ' ' || c = '\t'

def dropBlank (cs : List Char) : List Char := cs.dropWhile isBlank

/-- Control characters, which must be written as escapes in strings and do not belong to
comments. -/
def isControl (c : Char) : Bool := (c.toNat < 0x20 && c ≠ '\t') || c.toNat = 0x7f

/-- Skips blanks, line ends and comments. -/
def dropGap (inComment : Bool) : List Char → List Char
  | [] => []
  | c :: rest =>
    if c = '\n' then dropGap false rest
    else if isBlank c || (inComment && !isControl c) then dropGap inComment rest
    else if c = '#' then dropGap true rest
    else c :: rest

/-! ### Strings -/

/-- The character with a code of so many digits. -/
def codedChar (count : Nat) (cs : List Char) : Except Fault (Char × List Char) :=
  match Inline.codedChar? count cs with
  | some read => .ok read
  | none =>
    if (cs.take count).length = count && (cs.take count).all fun c => (Text.hexValue? c).isSome then
      fault (.unknownCode count) cs
    else fault (.badCode count) cs

/-- The character that an escape stands for, and what follows. -/
def escape (cs : List Char) : Except Fault (Char × List Char) :=
  match cs, Inline.escape? cs with
  | _, some read => .ok read
  | 'u' :: rest, none => codedChar 4 rest
  | 'U' :: rest, none => codedChar 8 rest
  | cs, none => fault .badEscape (cs.drop 1)

/-- The content of a basic string on one line. -/
def basic : Nat → List Char → Except Fault (List Char × List Char)
  | 0, cs => fault (.badString "basic string") cs
  | steps + 1, cs =>
    match cs with
    | '"' :: rest => .ok ([], rest)
    | '\\' :: c :: rest => do
      let (c, rest) ← escape (c :: rest)
      let (content, rest) ← basic steps rest
      return (c :: content, rest)
    | c :: rest =>
      if isControl c || c = '\\' then fault (.badString "basic string") cs
      else do
        let (content, rest) ← basic steps rest
        return (c :: content, rest)
    | [] => fault (.badString "basic string") cs

/-- The name of a string of several lines. -/
def longKind (quote : Char) : String :=
  if quote = '"' then "multiline basic string" else "multiline literal string"

/-- The content of a string of several lines up to three quotes. Up to two more quotes may belong to
the content. A backslash at the end of a line drops the blanks and line ends behind it. -/
def long (quote : Char) : Nat → List Char → Except Fault (List Char × List Char)
  | 0, cs => fault (.badString (longKind quote)) cs
  | _, [] => fault (.badString (longKind quote)) []
  | steps + 1, c :: rest =>
    if c = quote && rest.take 2 = [quote, quote] then
      let more := ((rest.drop 2).takeWhile (· == quote)).take 2
      .ok (more, rest.drop (2 + more.length))
    else if c = '\\' && quote = '"' then
      match dropBlank rest with
      | '\n' :: behind => long quote steps (behind.dropWhile fun c => isBlank c || c = '\n')
      | [] => fault (.badString (longKind quote)) (c :: rest)
      | _ => do
        let (c, rest) ← escape rest
        let (content, rest) ← long quote steps rest
        return (c :: content, rest)
    else if isControl c && c ≠ '\n' then fault (.badString (longKind quote)) (c :: rest)
    else do
      let (content, rest) ← long quote steps rest
      return (c :: content, rest)

/-- The content of a literal string on one line. -/
def literal (cs : List Char) : Except Fault (List Char × List Char) :=
  match cs.dropWhile fun c => c != '\'' && !isControl c with
  | '\'' :: rest => .ok (cs.takeWhile (· != '\''), rest)
  | rest => fault (.badString "literal string") rest

/-- Long strings start behind a line end that follows the quotes. -/
def dropFirstEnd : List Char → List Char
  | '\n' :: rest => rest
  | cs => cs

/-- The string that starts here, if one does. -/
def string? (cs : List Char) : Option (Except Fault (List Char × List Char)) :=
  match cs with
  | '"' :: '"' :: '"' :: rest => some (long '"' cs.length (dropFirstEnd rest))
  | '\'' :: '\'' :: '\'' :: rest => some (long '\'' cs.length (dropFirstEnd rest))
  | '"' :: rest => some (basic cs.length rest)
  | '\'' :: rest => some (literal rest)
  | _ => none

/-! ### Keys -/

/-- One part of a key. -/
def keyPart (cs : List Char) : Except Fault (String × List Char) :=
  match cs with
  | '"' :: rest => do
    let (content, rest) ← basic cs.length rest
    return (String.ofList content, rest)
  | '\'' :: rest => do
    let (content, rest) ← literal rest
    return (String.ofList content, rest)
  | _ =>
    let name := cs.takeWhile Inline.isKeyChar
    if name.isEmpty then fault .badKey cs
    else .ok (String.ofList name, cs.dropWhile Inline.isKeyChar)

/-- The parts of a key behind its first one. A point that no part follows does not belong to the
key. -/
def keyParts : Nat → List Char → Except Fault (List String × List Char)
  | 0, cs => .ok ([], cs)
  | steps + 1, cs =>
    match cs with
    | '.' :: rest =>
      match keyPart (dropBlank rest) with
      | .ok (part, rest) => do
        let (parts, rest) ← keyParts steps (dropBlank rest)
        return (part :: parts, rest)
      | .error f => if f.cause = .badKey then .ok ([], cs) else .error f
    | cs => .ok ([], cs)

/-- A key: all parts but the last one, and the last one; and what follows the blanks behind it. -/
def key (cs : List Char) : Except Fault (List String × String × List Char) := do
  let (first, rest) ← keyPart (dropBlank cs)
  let (more, rest) ← keyParts cs.length (dropBlank rest)
  let parts := first :: more
  return (parts.dropLast, parts.getLast?.getD first, rest)

/-! ### Bare values -/

/-- Digits of a base with single underscores between them, and what follows. -/
def digitRun (isDigit : Char → Bool) : List Char → List Char × List Char
  | '_' :: c :: rest =>
    if isDigit c then
      let (more, behind) := digitRun isDigit rest
      (c :: more, behind)
    else ([], '_' :: c :: rest)
  | c :: rest =>
    if isDigit c then
      let (more, behind) := digitRun isDigit rest
      (c :: more, behind)
    else ([], c :: rest)
  | [] => ([], [])

def isDigitOf (base : Nat) (c : Char) : Bool := (Text.hexValue? c).any (· < base)

/-- A whole number without sign behind the mark of its base. -/
def based (base : Nat) (kind : String) (start cs : List Char) :
    Except Fault (Value × List Char) :=
  match cs with
  | '_' :: _ => fault (.badNumber kind) cs
  | _ =>
    let (digits, rest) := digitRun (isDigitOf base) cs
    let n := digits.foldl (fun n c => base * n + (Text.hexValue? c).getD 0) 0
    if digits.isEmpty then fault (.badNumber kind) cs
    else
      match rest with
      | '_' :: rest => fault (.badNumber kind) rest
      | _ =>
        if n ≤ Word.signedMax then .ok (⟨.integer, .scalar (.signed n)⟩, rest)
        else fault .numberTooLarge start

/-- Decimal digits of a number: a zero alone, or digits without a zero at the front. -/
def wholeDigits : List Char → List Char × List Char
  | '0' :: rest => (['0'], rest)
  | cs => digitRun Char.isDigit cs

/-- The part of a number behind its whole part: the point with the digits behind it, and the
exponent. -/
def fractionDigits (cs : List Char) : Except Fault (List Char × List Char) :=
  match cs with
  | '.' :: rest =>
    let (digits, behind) := digitRun Char.isDigit rest
    if digits.isEmpty then fault (.badNumber "floating-point number") rest
    else .ok ('.' :: digits, behind)
  | cs => .ok ([], cs)

def exponentDigits (cs : List Char) : Except Fault (List Char × List Char) :=
  match cs with
  | e :: rest =>
    if e = 'e' || e = 'E' then
      let (sign, digits) := match rest with
        | '+' :: rest => ([], rest)
        | '-' :: rest => (['-'], rest)
        | rest => ([], rest)
      let (read, behind) := digitRun Char.isDigit digits
      if read.isEmpty then fault (.badNumber "floating-point number") digits
      else .ok ('e' :: sign ++ read, behind)
    else .ok ([], cs)
  | [] => .ok ([], cs)

/-- A number in decimal notation. -/
def decimal (start : List Char) : Except Fault (Value × List Char) := do
  let (negative, cs) := DecimalLiteral.splitSign start
  match Text.stripStart "inf".toList cs, Text.stripStart "nan".toList cs with
  | some rest, _ =>
    return (⟨.float, .scalar (.notFinite (if negative then "-inf" else "inf"))⟩, rest)
  | none, some rest => return (⟨.float, .scalar (.notFinite "NaN")⟩, rest)
  | none, none => do
    let (whole, rest) := wholeDigits cs
    if whole.isEmpty then fault (.badNumber "integer") cs
    else
      match rest with
      | '_' :: rest => fault (.badNumber "integer") rest
      | _ => do
        let (fraction, rest) ← fractionDigits rest
        let (exponent, rest) ← exponentDigits rest
        if fraction.isEmpty && exponent.isEmpty then
          let n := Text.digitsValue 0 whole
          let n : Int := if negative then -(n : Int) else n
          if Word.isSigned n then return (⟨.integer, .scalar (.signed n)⟩, rest)
          else fault .numberTooLarge rest
        else
          let sign := if negative then ['-'] else []
          match (DecimalLiteral.ofChars? (sign ++ whole ++ fraction ++ exponent)).bind
              DecimalLiteral.value with
          | some x => return (⟨.float, .scalar (.float x)⟩, rest)
          | none => fault .notFinite rest

/-- The key under which a date or a time is handed on. -/
def momentKey : String := "$__toml_private_datetime"

/-- The value of a date or a time, which is its text. -/
def moment (text : List Char) : Value :=
  ⟨.datetime, .dict [(momentKey, .scalar (.text (String.ofList text)))]⟩

/-- A value that is neither quoted nor in brackets. -/
def bareValue (cs : List Char) : Except Fault (Value × List Char) :=
  match Text.stripStart "true".toList cs, Text.stripStart "false".toList cs, Moment.after? cs with
  | some rest, _, _ => .ok (⟨.boolean, .scalar (.bool true)⟩, rest)
  | none, some rest, _ => .ok (⟨.boolean, .scalar (.bool false)⟩, rest)
  | none, none, some after => do
    let rest ← after
    return (moment (cs.take (cs.length - rest.length)), rest)
  | none, none, none =>
    match cs with
    | '0' :: 'x' :: rest => based 16 "hexadecimal integer" cs rest
    | '0' :: 'o' :: rest => based 8 "octal integer" cs rest
    | '0' :: 'b' :: rest => based 2 "binary integer" cs rest
    | '.' :: _ => fault (.noLeadingDigit "floating-point number") cs
    | '_' :: _ => fault (.noLeadingDigit "integer") cs
    | c :: _ =>
      if c.isDigit || c = '+' || c = '-' || (Text.stripStart "inf".toList cs).isSome ||
          (Text.stripStart "nan".toList cs).isSome then decimal cs
      else fault .badValue cs
    | [] => fault .badValue cs

/-! ### Values in brackets -/

mutual

/-- Reads a value. Each step is one value, item or member. -/
def value : Nat → List Char → Except Fault (Value × List Char)
  | 0, cs => fault .badValue cs
  | steps + 1, cs =>
    match cs, string? cs with
    | '[' :: rest, _ => do
      let (items, rest) ← items steps (dropGap false rest)
      return (⟨.array, .list items⟩, rest)
    | '\x7b' :: rest, _ => do
      let (members, rest) ← members steps rest [] (dropBlank rest)
      return (⟨.inlineTable, .dict (membersToData members)⟩, rest)
    | _, some read => do
      let (content, rest) ← read
      return (⟨.string, .scalar (.text (String.ofList content))⟩, rest)
    | cs, none => bareValue cs

/-- Reads the items of an array up to its end. A comma may stand behind the last one. -/
def items : Nat → List Char → Except Fault (List Data × List Char)
  | 0, cs => fault (.notClosed "array" ']') cs
  | steps + 1, cs =>
    match cs with
    | ']' :: rest => .ok ([], rest)
    | cs =>
      match value steps cs with
      | .error f =>
        if f = { cause := .badValue, left := cs.length } then fault (.notClosed "array" ']') cs
        else .error f
      | .ok (item, rest) =>
        match dropGap false rest with
        | ',' :: rest => do
          let (more, rest) ← items steps (dropGap false rest)
          return (item.data :: more, rest)
        | ']' :: rest => .ok ([item.data], rest)
        | rest => fault (.notClosed "array" ']') rest

/-- Reads the members of an inline table up to its end, `before` holding those already read and
`start` being where the first one stands. -/
def members : Nat → List Char → Table → List Char → Except Fault (Table × List Char)
  | 0, _, _, cs => fault (.notClosed "inline table" '\x7d') cs
  | steps + 1, start, before, cs =>
    match cs with
    | '\x7d' :: rest => if before.isEmpty then .ok (before, rest) else member steps start before cs
    | cs => member steps start before cs

/-- Reads one member of an inline table, and those behind it. -/
def member : Nat → List Char → Table → List Char → Except Fault (Table × List Char)
  | 0, _, _, cs => fault (.notClosed "inline table" '\x7d') cs
  | steps + 1, start, before, cs =>
    match key cs with
    | .error f =>
      if f.cause = .badKey then fault (.notClosed "inline table" '\x7d') cs else .error f
    | .ok (path, last, '=' :: rest) => do
      let (v, rest) ← value steps (dropBlank rest)
      match Table.set none path last v before with
      | .error cause => fault cause start
      | .ok table =>
        match dropBlank rest with
        | ',' :: rest => members steps start table (dropBlank rest)
        | '\x7d' :: rest => return (table, rest)
        | rest => fault (.notClosed "inline table" '\x7d') rest
    | .ok (_, _, rest) => fault .expectedEquals rest

end

end TsWorkshop.Toml
