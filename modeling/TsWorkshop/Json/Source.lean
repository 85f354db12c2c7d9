import TsWorkshop.Number.Word
import TsWorkshop.Json.Complaint
import TsWorkshop.Text.Utf8

/-!
A JSON text as far as it can be read. What a reader complains about first depends on what it asks
for: a value that it skips may hold unpaired surrogates, huge numbers and any depth, and a member of
the wrong type is refused before a later slip of the grammar is seen. So a text is first read into a
`Source`, which keeps the faults at their places; `Source.value` then reads all of it, and
`Source.skip` passes over it.
-/

namespace TsWorkshop

/-- How the list of an array's items ends. -/
inductive ListEnd where
  | closed
  /-- The text ends where a comma or a bracket should be. -/
  | missing
  /-- Something else stands where a comma or a bracket should be. -/
  | junk
  /-- A comma stands before the closing bracket. -/
  | comma
  deriving DecidableEq, Repr

/-- How the list of an object's members ends: closed, or broken with the complaint of a reader and
the complaint of a reader that skips. -/
inductive ObjectEnd where
  | closed
  | broken (reading skipping : Complaint)
  deriving DecidableEq, Repr

/-- A JSON text as far as it can be read. -/
inductive Source where
  | null
  | bool (b : Bool)
  | num (n : Except Complaint JsonNumber)
  | str (s : Except Complaint String)
  | arr (items : List Source) (ending : ListEnd)
  | obj (members : List (Except Complaint String × Source)) (ending : ObjectEnd)
  /-- No value can be read here. -/
  | stop (reading skipping : Complaint)

namespace Source

/-- Whether the value is `null`. -/
def isNull : Source → Bool
  | null => true
  | _ => false

/-- The first complaint of two readings of the same piece of text. -/
structure Fault where
  reading : Complaint
  skipping : Complaint

def Fault.both (c : Complaint) : Fault := ⟨c, c⟩

/-- The characters that separate parts of a JSON text. -/
def isGap (c : Char) : Bool := c = ' ' || c = '\n' || c = '\t' || c = '\r'

def dropGap (cs : List Char) : List Char := cs.dropWhile isGap

/-! ### Strings -/

/-- Reads the four digits of a `\u` escape. Fewer than four bytes left is an early end. -/
def hexCode (cs : List Char) : Except Complaint (Nat × List Char) :=
  match cs with
  | a :: b :: c :: d :: rest =>
    match Text.hexValue? a, Text.hexValue? b, Text.hexValue? c, Text.hexValue? d with
    | some a, some b, some c, some d => .ok (((a * 16 + b) * 16 + c) * 16 + d, rest)
    | _, _, _, _ => .error .invalidEscape
  | cs =>
    if (String.ofList cs).utf8ByteSize < 4 then .error .endInString else .error .invalidEscape

def isLeading (n : Nat) : Bool := 0xD800 ≤ n && n ≤ 0xDBFF
def isTrailing (n : Nat) : Bool := 0xDC00 ≤ n && n ≤ 0xDFFF

/-- What a reader takes a `\u` escape with the code `n` for, the text going on with `rest`: a
character and the rest behind it. A leading surrogate needs a trailing one behind it. -/
def unicodeEscape (n : Nat) (rest : List Char) : Except Complaint (Char × List Char) :=
  if isTrailing n then .error .loneSurrogate
  else if isLeading n then
    match rest with
    | [] => .error .endInString
    | '\\' :: [] => .error .endInString
    | '\\' :: 'u' :: rest => do
      let (low, rest) ← hexCode rest
      if isTrailing low then
        return (Char.ofNat (0x10000 + (n - 0xD800) * 0x400 + (low - 0xDC00)), rest)
      else throw .loneSurrogate
    | _ => .error .unfinishedSurrogate
  else .ok (Char.ofNat n, rest)

/-- The character that a one-letter escape stands for. -/
def simpleEscape? : Char → Option Char
  | '"' => some '"'
  | '\\' => some '\\'
  | '/' => some '/'
  | 'b' => some '\x08'
  | 'f' => some '\x0c'
  | 'n' => some '\n'
  | 'r' => some '\r'
  | 't' => some '\t'
  | _ => none

/-- The content of a string behind its opening quote, most recent character first in `acc`. -/
def stringContent : Nat → List Char → List Char → Except Complaint String
  | 0, _, _ => .error .endInString
  | fuel + 1, acc, cs =>
    match cs with
    | [] => .error .endInString
    | '"' :: _ => .ok (String.ofList acc.reverse)
    | '\\' :: [] => .error .endInString
    | '\\' :: 'u' :: rest => do
      let (n, rest) ← hexCode rest
      let (c, rest) ← unicodeEscape n rest
      stringContent fuel (c :: acc) rest
    | '\\' :: c :: rest =>
      match simpleEscape? c with
      | some c => stringContent fuel (c :: acc) rest
      | none => .error .invalidEscape
    | c :: rest =>
      if c.toNat < 0x20 then .error .controlCharacter else stringContent fuel (c :: acc) rest

/-- The text behind a string's closing quote, for a reader that does not look at the content. -/
def skipString : Nat → List Char → Except Complaint (List Char)
  | 0, _ => .error .endInString
  | fuel + 1, cs =>
    match cs with
    | [] => .error .endInString
    | '"' :: rest => .ok rest
    | '\\' :: [] => .error .endInString
    | '\\' :: 'u' :: rest => do
      let (_, rest) ← hexCode rest
      skipString fuel rest
    | '\\' :: c :: rest =>
      if (simpleEscape? c).isSome then skipString fuel rest else .error .invalidEscape
    | c :: rest => if c.toNat < 0x20 then .error .controlCharacter else skipString fuel rest

/-- Reads a string behind its opening quote. The text goes on where skipping ends; if skipping
fails, nothing behind the string can be read. -/
def lexString (cs : List Char) : Except Fault (Except Complaint String × List Char) :=
  let content := stringContent (cs.length + 1) [] cs
  match skipString (cs.length + 1) cs, content with
  | .ok rest, content => .ok (content, rest)
  | .error skipping, .error reading => .error ⟨reading, skipping⟩
  | .error skipping, .ok _ => .error (.both skipping)

/-! ### Numbers -/

def isDigit (c : Char) : Bool := '0' ≤ c && c ≤ '9'

/-- Appends digits to a significand as long as it stays within bounds: the significand, and how many
digits at the end were dropped. -/
def accumulate (significand : Nat) : List Char → Nat × Nat
  | [] => (significand, 0)
  | c :: rest =>
    let next := 10 * significand + (Text.digitValue? c).getD 0
    if Word.unsignedMax < next then (significand, rest.length + 1) else accumulate next rest

/-- The parts of a number's spelling. -/
structure Spelling where
  negative : Bool
  whole : List Char
  /-- The digits behind the point. -/
  fraction : Option (List Char)
  /-- Whether the exponent is negative, and its digits. -/
  exponent : Option (Bool × List Char)

/-- The value of a spelled number. A significand that does not fit is cut; the exponent is then
applied in one step, so the result need not be the nearest number. -/
def Spelling.value (s : Spelling) : Except Complaint JsonNumber :=
  let (head, dropped) := accumulate 0 s.whole
  match s.fraction, s.exponent with
  | none, none =>
    if dropped ≠ 0 then scaled head dropped
    else if s.negative then
      if head ≠ 0 ∧ Word.signedMin ≤ -(head : Int) then .ok (.whole (-(head : Int)))
      else scaled head 0
    else .ok (.whole head)
  | _, _ =>
    -- digits behind the point still join a significand that has room for them
    let fraction := s.fraction.getD []
    let (significand, cut) := accumulate head fraction
    let kept := fraction.length - cut
    let start : Int := (dropped : Int) - (kept : Int)
    match s.exponent with
    | none => scaled significand start
    | some (down, digits) =>
      let size := Text.digitsValue 0 digits
      if 2147483647 < size then
        if significand ≠ 0 ∧ ¬ down then .error .numberOutOfRange
        else .ok (.float ⟨s.negative, 0, -1074⟩)
      else scaled significand (if down then start - size else start + size)
where
  scaled (significand : Nat) (exponent : Int) : Except Complaint JsonNumber :=
    match Binary64.scaled s.negative significand exponent with
    | some x => .ok (.float x)
    | none => .error .numberOutOfRange

/-- Reads a number; `cs` stands behind a minus sign if there is one. -/
def lexNumber (negative : Bool) (cs : List Char) :
    Except Fault (Except Complaint JsonNumber × List Char) := do
  let (whole, rest) ← wholePart cs
  let (fraction, rest) ← fractionPart rest
  let (exponent, rest) ← exponentPart rest
  let spelling : Spelling := ⟨negative, whole, fraction, exponent⟩
  return (spelling.value, rest)
where
  wholePart (cs : List Char) : Except Fault (List Char × List Char) :=
    match cs with
    | [] => .error ⟨.endInValue, .invalidNumber⟩
    | '0' :: rest =>
      match rest with
      | c :: _ => if isDigit c then .error (.both .invalidNumber) else .ok (['0'], rest)
      | [] => .ok (['0'], rest)
    | c :: _ =>
      if isDigit c then .ok (cs.takeWhile isDigit, cs.dropWhile isDigit)
      else .error (.both .invalidNumber)
  fractionPart (cs : List Char) : Except Fault (Option (List Char) × List Char) :=
    match cs with
    | '.' :: rest =>
      match rest with
      | [] => .error ⟨.endInValue, .invalidNumber⟩
      | c :: _ =>
        if isDigit c then .ok (some (rest.takeWhile isDigit), rest.dropWhile isDigit)
        else .error (.both .invalidNumber)
    | cs => .ok (none, cs)
  exponentPart (cs : List Char) : Except Fault (Option (Bool × List Char) × List Char) :=
    match cs with
    | c :: rest =>
      if c = 'e' ∨ c = 'E' then
        let (down, rest) := match rest with
          | '+' :: rest => (false, rest)
          | '-' :: rest => (true, rest)
          | rest => (false, rest)
        match rest with
        | [] => .error ⟨.endInValue, .invalidNumber⟩
        | d :: _ =>
          if isDigit d then .ok (some (down, rest.takeWhile isDigit), rest.dropWhile isDigit)
          else .error (.both .invalidNumber)
      else .ok (none, cs)
    | [] => .ok (none, [])

/-! ### Values -/

/-- Reads the remaining letters of `null`, `true` or `false`. -/
def lexWord : List Char → List Char → Except Fault (List Char)
  | [], cs => .ok cs
  | _ :: _, [] => .error (.both .endInValue)
  | w :: word, c :: cs => if w = c then lexWord word cs else .error (.both .expectedIdent)

mutual

/-- Reads a value as far as possible; `none` for the rest if nothing behind it can be read. -/
def lexValue : Nat → List Char → Source × Option (List Char)
  | 0, _ => (stop .expectedValue .expectedValue, none)
  | fuel + 1, cs =>
    match dropGap cs with
    | [] => (stop .endInValue .endInValue, none)
    | 'n' :: rest => lexed null (lexWord "ull".toList rest)
    | 't' :: rest => lexed (bool true) (lexWord "rue".toList rest)
    | 'f' :: rest => lexed (bool false) (lexWord "alse".toList rest)
    | '"' :: rest =>
      match lexString rest with
      | .ok (content, rest) => (str content, some rest)
      | .error fault => (stop fault.reading fault.skipping, none)
    | '-' :: rest => number (lexNumber true rest)
    | '[' :: rest =>
      match dropGap rest with
      | [] => (arr [] .missing, none)
      | ']' :: rest => (arr [] .closed, some rest)
      | rest =>
        let (items, ending, rest) := lexItems fuel rest
        (arr items ending, rest)
    | '\x7b' :: rest =>
      let (members, ending, rest) := lexMembers fuel true rest
      (obj members ending, rest)
    | c :: rest =>
      if isDigit c then number (lexNumber false (c :: rest))
      else (stop .expectedValue .expectedValue, none)
where
  lexed (value : Source) : Except Fault (List Char) → Source × Option (List Char)
    | .ok rest => (value, some rest)
    | .error fault => (stop fault.reading fault.skipping, none)
  number : Except Fault (Except Complaint JsonNumber × List Char) → Source × Option (List Char)
    | .ok (n, rest) => (num n, some rest)
    | .error fault => (stop fault.reading fault.skipping, none)

/-- Reads the items of an array, from the start of an item on. -/
def lexItems : Nat → List Char → List Source × ListEnd × Option (List Char)
  | 0, _ => ([], .junk, none)
  | fuel + 1, cs =>
    match lexValue fuel cs with
    | (item, none) => ([item], .closed, none)
    | (item, some rest) =>
      match dropGap rest with
      | [] => ([item], .missing, none)
      | ']' :: rest => ([item], .closed, some rest)
      | ',' :: rest =>
        match dropGap rest with
        | ']' :: _ => ([item], .comma, none)
        | rest =>
          let (items, ending, rest) := lexItems fuel rest
          (item :: items, ending, rest)
      | _ => ([item], .junk, none)

/-- Reads the members of an object, from behind its brace (`first`) or behind a member on. -/
def lexMembers : Nat → Bool → List Char →
    List (Except Complaint String × Source) × ObjectEnd × Option (List Char)
  | 0, _, _ => ([], .broken .endInObject .endInObject, none)
  | fuel + 1, first, cs =>
    match dropGap cs with
    | [] => ([], .broken .endInObject .endInObject, none)
    | '\x7d' :: rest => ([], .closed, some rest)
    | c :: rest =>
      if first then lexMember fuel (c :: rest)
      else if c = ',' then
        match dropGap rest with
        | [] => ([], .broken .endInValue .endInObject, none)
        | '\x7d' :: _ => ([], .broken .trailingComma .keyNotText, none)
        | rest => lexMember fuel rest
      else ([], .broken .expectedCommaOrBrace .expectedCommaOrBrace, none)

/-- Reads a member and those behind it. -/
def lexMember : Nat → List Char →
    List (Except Complaint String × Source) × ObjectEnd × Option (List Char)
  | 0, _ => ([], .broken .endInObject .endInObject, none)
  | fuel + 1, cs =>
    match cs with
    | '"' :: rest =>
      match lexString rest with
      | .error fault => ([], .broken fault.reading fault.skipping, none)
      | .ok (key, rest) =>
        match dropGap rest with
        | ':' :: rest =>
          match lexValue fuel rest with
          | (value, none) => ([(key, value)], .closed, none)
          | (value, some rest) =>
            let (members, ending, rest) := lexMembers fuel false rest
            ((key, value) :: members, ending, rest)
        | [] => ([(key, stop .endInObject .endInObject)], .closed, none)
        | _ => ([(key, stop .expectedColon .expectedColon)], .closed, none)
    | _ => ([], .broken .keyNotText .keyNotText, none)

end

/-- A text's value as far as it can be read, and whether anything but gaps follows it. -/
def ofText (text : String) : Source × Bool :=
  let cs := text.toList
  match lexValue (4 * cs.length + 8) cs with
  | (value, none) => (value, false)
  | (value, some rest) => (value, !(dropGap rest).isEmpty)

/-- A string in which a character must not occur. -/
def unmarked (mark : Char) (s : Except Complaint String) : Except Complaint String := do
  let s ← s
  if s.toList.contains mark then throw .notUnicode else return s

mutual

/-- Refuses the strings in which a character occurs. -/
def refusing (mark : Char) : Source → Source
  | str s => str (unmarked mark s)
  | arr items ending => arr (refusingItems mark items) ending
  | obj members ending => obj (refusingMembers mark members) ending
  | null => null
  | bool b => bool b
  | num n => num n
  | stop reading skipping => stop reading skipping

def refusingItems (mark : Char) : List Source → List Source
  | [] => []
  | item :: rest => refusing mark item :: refusingItems mark rest

def refusingMembers (mark : Char) :
    List (Except Complaint String × Source) → List (Except Complaint String × Source)
  | [] => []
  | (key, value) :: rest => (unmarked mark key, refusing mark value) :: refusingMembers mark rest

end

/-- The value of bytes as far as it can be read. Only a string that is looked into has to be UTF-8:
a broken piece is read as a character that occurs nowhere else, and strings with it are refused. -/
def ofBytes (bytes : ByteArray) : Source × Bool :=
  match String.fromUTF8? bytes with
  | some text => ofText text
  | none =>
    let mark := Text.unusedChar (Text.ofBytes bytes)
    let (source, more) := ofText (Text.ofMarkedBytes mark bytes)
    (source.refusing mark, more)

/-! ### Reading and skipping -/

/-- The complaint of a reader of an array about the end of the items. -/
def listEndComplaint? : ListEnd → Option Complaint
  | .closed => none
  | .missing => some .endInList
  | .junk => some .expectedCommaOrBracket
  | .comma => some .trailingComma

/-- The complaint of a skipping reader about the end of the items. -/
def skippedListEnd? : ListEnd → Option Complaint
  | .comma => some .expectedValue
  | ending => listEndComplaint? ending

/-- How many open arrays and objects a reader refuses. -/
def depthLimit : Nat := 128

mutual

/-- The complete value. `room` is the number of arrays and objects that may still be opened, plus
one. -/
def value (room : Nat) : Source → Except Complaint Json
  | null => .ok .null
  | bool b => .ok (.bool b)
  | num n => n.map .num
  | str s => s.map .str
  | arr items ending =>
    if room ≤ 1 then .error .tooDeep
    else do
      let items ← valueItems (room - 1) items
      match listEndComplaint? ending with
      | some complaint => throw complaint
      | none => return .arr items
  | obj members ending =>
    if room ≤ 1 then .error .tooDeep
    else do
      let members ← valueMembers (room - 1) members
      match ending with
      | .broken reading _ => throw reading
      | .closed => return .obj members
  | stop reading _ => .error reading

def valueItems (room : Nat) : List Source → Except Complaint (List Json)
  | [] => .ok []
  | item :: rest => do
    let item ← item.value room
    let rest ← valueItems room rest
    return item :: rest

def valueMembers (room : Nat) :
    List (Except Complaint String × Source) → Except Complaint (List (String × Json))
  | [] => .ok []
  | (key, item) :: rest => do
    let key ← key
    let item ← item.value room
    let rest ← valueMembers room rest
    return (key, item) :: rest

end

mutual

/-- The complaint of a reader that skips the value. -/
def skip : Source → Option Complaint
  | null | bool _ | num _ | str _ => none
  | arr items ending => (skipItems items).or (skippedListEnd? ending)
  | obj members ending =>
    (skipMembers members).or (match ending with
      | .closed => none
      | .broken _ skipping => some skipping)
  | stop _ skipping => some skipping

def skipItems : List Source → Option Complaint
  | [] => none
  | item :: rest => item.skip.or (skipItems rest)

def skipMembers : List (Except Complaint String × Source) → Option Complaint
  | [] => none
  | (_, item) :: rest => item.skip.or (skipMembers rest)

end

mutual

/-- A value as a source without faults. -/
def ofJson : Json → Source
  | .null => null
  | .bool b => bool b
  | .num n => num (.ok n)
  | .str s => str (.ok s)
  | .arr items => arr (ofItems items) .closed
  | .obj members => obj (ofMembers members) .closed

def ofItems : List Json → List Source
  | [] => []
  | item :: rest => ofJson item :: ofItems rest

def ofMembers : List (String × Json) → List (Except Complaint String × Source)
  | [] => []
  | (key, item) :: rest => (.ok key, ofJson item) :: ofMembers rest

end

end Source

/-- Reads a text as a JSON value, members in their order. -/
def Json.ofText (text : String) : Except Complaint Json := do
  let (source, more) := Source.ofText text
  let value ← source.value Source.depthLimit
  if more then throw .trailingCharacters else return value

/-- Reads a text as a JSON value for its content alone. -/
def Json.contentOfText (text : String) : Except Complaint Json :=
  (Json.ofText text).map Json.canonical

end TsWorkshop
