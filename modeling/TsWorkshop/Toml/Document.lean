import TsWorkshop.Toml.Value

/-!
TOML documents: lines with keys and values below the headers of their tables.
-/

namespace TsWorkshop.Toml

/-- Skips a comment, if one starts here. -/
def dropComment : List Char → List Char
  | '#' :: rest => rest.dropWhile fun c => !isControl c
  | cs => cs

/-- Nothing but a comment may stand behind a statement on its line. -/
def endOfLine (cs : List Char) : Except Fault (List Char) :=
  match dropComment (dropBlank cs) with
  | [] => .ok []
  | '\n' :: rest => .ok rest
  | rest => fault .expectedNewline rest

/-- A header behind its opening bracket: the path, the name, and what follows its line. -/
def header (closing : List Char) (cs : List Char) :
    Except Fault (List String × String × List Char) := do
  let (path, name, rest) ← key cs
  match Text.stripStart closing rest with
  | some rest => return (path, name, ← endOfLine rest)
  | none => fault (.badHeader (String.ofList closing)) rest

/-- A fault in a header. -/
def inHeader {α : Type} (result : Except Fault α) : Except Fault α :=
  result.mapError fun f => { f with inHeader := true }

/-- The outcome of a change of tables by a statement that starts where `cs` is left. -/
def located {α : Type} (cs : List Char) (result : Except Cause α) : Except Fault α :=
  result.mapError fun cause => { cause, left := cs.length }

/-- Reads statements, `path` being the path of the header above them. Each step is one statement. -/
def statements : Nat → List String → Table → List Char → Except Fault Table
  | 0, _, members, _ => .ok members
  | steps + 1, path, members, cs =>
    match dropGap false cs with
    | [] => .ok members
    | '[' :: '[' :: rest => do
      let (parents, name, behind) ← inHeader (header [']', ']'] rest)
      let members ← inHeader (located ('[' :: '[' :: rest) (Table.addTable parents name members))
      statements steps (parents ++ [name]) members behind
    | '[' :: rest => do
      let (parents, name, behind) ← inHeader (header [']'] rest)
      let members ← inHeader (located ('[' :: rest) (Table.openTable parents name members))
      statements steps (parents ++ [name]) members behind
    | cs => do
      let (parents, name, rest) ← key cs
      match rest with
      | '=' :: rest => do
        let (v, rest) ← value (2 * rest.length + 2) (dropBlank rest)
        let behind ← endOfLine rest
        let members ← located cs (Table.within path (Table.set (some path) parents name v) members)
        statements steps path members behind
      | rest => fault .expectedEquals rest

/-- Writes every line end as a newline alone. -/
def plainLines : List Char → List Char
  | '\r' :: '\n' :: rest => '\n' :: plainLines rest
  | c :: rest => c :: plainLines rest
  | [] => []

/-- Text with one kind of line end and no mark at its start. -/
def normalized (text : String) : String :=
  match plainLines text.toList with
  | '\ufeff' :: rest => String.ofList rest
  | cs => String.ofList cs

/-- Reads a text as a table, or tells what is wrong with it. -/
def membersOfText (text : String) : Except String (List (String × Data)) :=
  let text := normalized text
  let cs := text.toList
  match statements (cs.length + 1) [] [] cs with
  | .ok members => .ok (membersToData members)
  | .error f => .error (f.message text)

end TsWorkshop.Toml
