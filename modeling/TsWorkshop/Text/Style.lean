import TsWorkshop.Text.Basic

/-!
Colours of terminal text: a piece is put between the code that starts a style and the code that ends
it. Without colours every style leaves the text as it is.
-/

namespace TsWorkshop

/-- A style of terminal text. -/
inductive Style where
  | bold | dim | red | green | yellow | blue
  deriving DecidableEq, Repr

namespace Style

/-- The number that starts a style. -/
def start : Style → String
  | bold => "1"
  | dim => "2"
  | red => "31"
  | green => "32"
  | yellow => "33"
  | blue => "34"

/-- The number that ends a style. -/
def stop : Style → String
  | bold | dim => "0"
  | _ => "39"

/-- A control sequence with the given number. -/
def code (number : String) : String := "\x1b[" ++ number ++ "m"

/-- A text in a style. -/
def paint (style : Style) (colors : Bool) (text : String) : String :=
  if colors then code style.start ++ text ++ code style.stop else text

end Style

end TsWorkshop
