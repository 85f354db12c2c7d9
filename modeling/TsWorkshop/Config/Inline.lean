import TsWorkshop.Number.Word
import TsWorkshop.Config.Setting
import TsWorkshop.Number.Literal

/-!
Values on one line, as variables of the environment hold them: `true`, numbers, quoted texts, lists
`[a, b]` and dictionaries `{k=v}`. Whatever does not follow this form as a whole is a text.
-/

namespace TsWorkshop.Inline

/-- The characters between the parts of a value. -/
def isGap (c : Char) : Bool := c = ' ' || c = '\t' || c = '\n' || c = '\x0c' || c = '\r'

def dropGap (cs : List Char) : List Char := cs.dropWhile isGap

/-- The characters that end a bare word. -/
def isMark (c : Char) : Bool := c = ',' || c = '\x7b' || c = '\x7d' || c = '[' || c = ']'

def isKeyChar (c : Char) : Bool := c.isAlphanum || c = '_' || c = '-'

/-- A whole number, perhaps with a sign. -/
def whole? (word : List Char) : Option Scalar :=
  let (negative, digits) := DecimalLiteral.splitSign word
  if digits.isEmpty || !digits.all Char.isDigit then none
  else
    let n := Text.digitsValue 0 digits
    if negative then if Word.signedMin ≤ -(n : Int) then some (.signed (-(n : Int))) else none
    else if n ≤ Word.unsignedMax then some (.unsigned n) else none

/-- A number with a decimal point. -/
def fraction? (word : List Char) : Option Scalar :=
  if word.contains '.' then
    (DecimalLiteral.ofChars? word).map fun d =>
      match d.value with
      | some x => .float x
      | none => .notFinite (if d.negative then "-inf" else "inf")
  else none

/-- The value of a bare word. -/
def ofWord (word : List Char) : Scalar :=
  ((fraction? word).or (whole? word)).getD (.text (String.ofList word))

/-- The character with a code of so many hexadecimal digits, and what follows them. -/
def codedChar? (count : Nat) (cs : List Char) : Option (Char × List Char) :=
  let digits := cs.take count
  if digits.length < count then none
  else do
    let code ← digits.foldlM (fun n c => (Text.hexValue? c).map fun d => 16 * n + d) 0
    if code < 0xD800 ∨ (0xDFFF < code ∧ code < 0x110000) then
      return (Char.ofNat code, cs.drop count)
    else none

/-- The character that an escape stands for, and what follows. -/
def escape? : List Char → Option (Char × List Char)
  | '"' :: rest => some ('"', rest)
  | '\\' :: rest => some ('\\', rest)
  | 'b' :: rest => some ('\x08', rest)
  | 'f' :: rest => some ('\x0c', rest)
  | 'n' :: rest => some ('\n', rest)
  | 'r' :: rest => some ('\r', rest)
  | 't' :: rest => some ('\t', rest)
  | 'u' :: rest => codedChar? 4 rest
  | 'U' :: rest => codedChar? 8 rest
  | _ => none

/-- The content of a quoted text up to the closing quote, and what follows it. Each step consumes a
character, so that as many steps suffice. -/
def quoted? : Nat → List Char → Option (List Char × List Char)
  | 0, _ | _, [] => none
  | _ + 1, '"' :: rest => some ([], rest)
  | steps + 1, '\\' :: rest => do
    let (c, rest) ← escape? rest
    let (content, rest) ← quoted? steps rest
    return (c :: content, rest)
  | steps + 1, c :: rest =>
    if c = '\t' || (0x20 ≤ c.toNat && c.toNat ≠ 0x7f) then do
      let (content, rest) ← quoted? steps rest
      return (c :: content, rest)
    else none

/-- The key of a member. -/
def key? (cs : List Char) : Option (String × List Char) :=
  match cs with
  | '"' :: rest => (quoted? cs.length rest).map fun (content, rest) => (String.ofList content, rest)
  | _ =>
    let name := cs.takeWhile isKeyChar
    if name.isEmpty then none else some (String.ofList name, cs.dropWhile isKeyChar)

mutual

/-- Reads a value and the gaps around it. Each step is one value or member. -/
def value? : Nat → List Char → Option (Data × List Char)
  | 0, _ => none
  | steps + 1, cs => do
    let (data, rest) ← bareValue? steps (dropGap cs)
    return (data, dropGap rest)

def bareValue? (steps : Nat) (cs : List Char) : Option (Data × List Char) :=
  match Text.stripStart "true".toList cs, Text.stripStart "false".toList cs, cs with
  | some rest, _, _ => some (.scalar (.bool true), rest)
  | none, some rest, _ => some (.scalar (.bool false), rest)
  | none, none, '\x7b' :: rest => do
    let (members, rest) ← members? steps rest
    return (.dict members, rest)
  | none, none, '[' :: rest => do
    let (items, rest) ← items? steps rest
    return (.list items, rest)
  | none, none, '"' :: rest => do
    let (content, rest) ← quoted? cs.length rest
    return (.scalar (.text (String.ofList content)), rest)
  | none, none, '\'' :: c :: '\'' :: rest => some (.scalar (.char c), rest)
  | none, none, '\'' :: _ => none
  | none, none, cs =>
    let word := cs.takeWhile fun c => !isMark c
    some (.scalar (ofWord (Text.trimBlank word)), cs.dropWhile fun c => !isMark c)

/-- Reads the items of a list up to its end. A comma may stand behind the last item. -/
def items? : Nat → List Char → Option (List Data × List Char)
  | _, ']' :: rest => some ([], rest)
  | 0, _ => none
  | steps + 1, cs => do
    let (item, rest) ← value? steps cs
    match rest with
    | ',' :: rest => do
      let (items, rest) ← items? steps rest
      return (item :: items, rest)
    | ']' :: rest => return ([item], rest)
    | _ => none

/-- Reads the members of a dictionary up to its end. A comma may stand behind the last one. -/
def members? : Nat → List Char → Option (List (String × Data) × List Char)
  | _, '\x7d' :: rest => some ([], rest)
  | 0, _ => none
  | steps + 1, cs => do
    let (key, rest) ← key? (dropGap cs)
    match dropGap rest with
    | '=' :: rest => do
      let (item, rest) ← value? steps rest
      match rest with
      | ',' :: rest => do
        let (members, rest) ← members? steps rest
        return ((key, item) :: members, rest)
      | '\x7d' :: rest => return ([(key, item)], rest)
      | _ => none
    | _ => none

end

/-- Reads a whole text as a value. -/
def ofText (text : String) : Data :=
  match value? (2 * text.toList.length + 2) text.toList with
  | some (data, []) => data
  | _ => .scalar (.text text)

end TsWorkshop.Inline
