import TsWorkshop.Text.Basic
import TsWorkshop.Text.Unicode.Unprintable

/-!
A text between quotes as messages show it: quotes, backslashes and line breaks are escaped, and a
character without a printed form is shown by its code.
-/

namespace TsWorkshop.Text

/-- One character of a shown text. -/
def shownChar (c : Char) : List Char :=
  match c with
  | '\x00' => ['\\', '0']
  | '\t' => ['\\', 't']
  | '\n' => ['\\', 'n']
  | '\r' => ['\\', 'r']
  | '"' => ['\\', '"']
  | '\\' => ['\\', '\\']
  | c =>
    if 0x20 ≤ c.toNat && c.toNat < 0x7f then [c]
    else if Unicode.isUnprintable c || Unicode.isExtending c then
      ['\\', 'u', '\x7b'] ++ shortHex c.toNat ++ ['\x7d']
    else [c]

/-- A text as a message shows it. -/
def shown (s : String) : String := String.ofList ('"' :: s.toList.flatMap shownChar ++ ['"'])

end TsWorkshop.Text
