import TsWorkshop.Text.Basic

/-!
Bytes as text. Bytes that are not UTF-8 are read with a mark for every longest piece that could
still have begun a character.
-/

namespace TsWorkshop.Text

/-- Whether a byte continues a character. -/
def isContinuation (b : UInt8) : Bool := 0x80 ≤ b && b ≤ 0xBF

/-- Whether a byte may stand second behind the first byte of a character of more than one byte. -/
def mayFollow (first second : UInt8) : Bool :=
  if first = 0xE0 then 0xA0 ≤ second && second ≤ 0xBF
  else if first = 0xED then 0x80 ≤ second && second ≤ 0x9F
  else if first = 0xF0 then 0x90 ≤ second && second ≤ 0xBF
  else if first = 0xF4 then 0x80 ≤ second && second ≤ 0x8F
  else isContinuation second

/-- How many bytes follow the first byte of a character; `none` if no character starts with it. -/
def followers? (first : UInt8) : Option Nat :=
  if first < 0x80 then some 0
  else if 0xC2 ≤ first && first ≤ 0xDF then some 1
  else if 0xE0 ≤ first && first ≤ 0xEF then some 2
  else if 0xF0 ≤ first && first ≤ 0xF4 then some 3
  else none

/-- The character that `bytes` spell, the payload bits of the first one given. -/
def charOf (start : Nat) (bytes : List UInt8) : Char :=
  Char.ofNat (bytes.foldl (fun n b => n * 64 + (b.toNat - 0x80)) start)

/-- The payload bits of the first of several bytes. -/
def payload (first : UInt8) (followers : Nat) : Nat :=
  if followers = 0 then first.toNat
  else if followers = 1 then first.toNat - 0xC0
  else if followers = 2 then first.toNat - 0xE0
  else first.toNat - 0xF0

/-- The character that starts with `first`, if there is one, and how many bytes of `rest` belong to
it or to its broken piece. -/
def scanChar (first : UInt8) (rest : List UInt8) : Option Char × Nat :=
  match followers? first with
  | none => (none, 0)
  | some 0 => (some (Char.ofNat first.toNat), 0)
  | some n =>
    match rest with
    | [] => (none, 0)
    | second :: more =>
      if mayFollow first second then
        let behind := (more.take (n - 1)).takeWhile isContinuation
        if behind.length + 1 = n then
          (some (charOf (payload first n) (second :: behind)), n)
        else (none, behind.length + 1)
      else (none, 0)

/-- The characters that bytes spell, with a mark for each broken piece. -/
def markedChars (mark : Char) : List UInt8 → List Char
  | [] => []
  | first :: rest =>
    let (c, n) := scanChar first rest
    c.getD mark :: markedChars mark (rest.drop n)
termination_by bytes => bytes.length
decreasing_by simp only [List.length_drop, List.length_cons]; omega

/-- The text that bytes spell, with a mark for each broken piece. -/
def ofMarkedBytes (mark : Char) (bytes : ByteArray) : String :=
  match String.fromUTF8? bytes with
  | some text => text
  | none => String.ofList (markedChars mark bytes.toList)

/-- The text that bytes spell, broken pieces shown by the replacement character. -/
def ofBytes (bytes : ByteArray) : String := ofMarkedBytes '\ufffd' bytes

/-- The `n`-th character that is set aside for private use. -/
def privateChar (n : Nat) : Char := Char.ofNat (0xF0000 + n)

/-- A character for private use that does not occur in a text. -/
def unusedChar (s : String) : Char :=
  let cs := s.toList
  (((List.range (cs.length + 1)).map privateChar).find? fun c => !cs.contains c).getD '\ufffd'

end TsWorkshop.Text
