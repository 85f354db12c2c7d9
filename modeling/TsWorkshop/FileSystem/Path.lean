import TsWorkshop.Text.Basic

/-!
Paths as texts. A path is kept as it was written; its components are found by splitting at slashes,
where empty pieces and pieces `.` that do not stand first are no components.
-/

namespace TsWorkshop

/-- A path, as it was written. -/
abbrev Path := String

namespace Path

/-- The pieces between slashes. For an absolute path the first piece is empty. -/
def pieces (path : Path) : List (List Char) := Text.splitChars '/' path.toList

def isAbsoluteChars : List Char → Bool
  | '/' :: _ => true
  | _ => false

/-- A path that starts at the root. -/
def isAbsolute (path : Path) : Bool := isAbsoluteChars path.toList

/-- `rest` below `base`: an absolute `rest` stands for itself. -/
def join (base rest : Path) : Path :=
  if rest.isAbsolute then rest
  else if base.toList.isEmpty ∨ base.toList.getLast? = some '/' then base ++ rest
  else base ++ "/" ++ rest

/-- Pieces that are no components when they stand behind the first. -/
def isFiller (piece : List Char) : Bool := piece.isEmpty || piece == ['.']

/-- The pieces less the fillers at the end, the first piece always kept. -/
def dropFillers : List (List Char) → List (List Char)
  | [] => []
  | first :: rest => first :: (rest.reverse.dropWhile isFiller).reverse

/-- The pieces of a path up to its last component. -/
def trimmed (path : Path) : List (List Char) := dropFillers path.pieces

/-- Pieces with slashes between them. -/
def ofPieces (pieces : List (List Char)) : Path := String.ofList (Text.joinChars '/' pieces)

/-- The path less its last component; `none` for the root and the empty path. -/
def parent? (path : Path) : Option Path :=
  match path.trimmed with
  | [] => none
  | [only] => if only.isEmpty then none else some ""
  | pieces =>
    match dropFillers pieces.dropLast with
    | [[]] => some "/"
    | kept => some (ofPieces kept)

/-- The last component, if it is a name. -/
def fileName? (path : Path) : Option String :=
  match path.trimmed.getLast? with
  | some piece => if isFiller piece || piece == ['.', '.'] then none else some (String.ofList piece)
  | none => none

/-- The part of the file name behind its last dot, unless the dot stands first. -/
def extension? (path : Path) : Option String := do
  let name ← path.fileName?
  let cs := name.toList.reverse
  let after := cs.takeWhile (· != '.')
  match cs.drop after.length with
  | [] | ['.'] => none
  | _ => some (String.ofList after.reverse)

/-- The path and its parents, at most `fuel` of them. -/
def ancestorsFrom : Nat → Path → List Path
  | 0, _ => []
  | fuel + 1, path =>
    match path.parent? with
    | some parent => path :: ancestorsFrom fuel parent
    | none => [path]

/-- The path, its parent, the parent's parent, and so on. -/
def ancestors (path : Path) : List Path := ancestorsFrom (path.toList.length + 2) path

/-- The components of a path, the root among them. -/
def components (path : Path) : List String :=
  match path.pieces with
  | [] => []
  | first :: rest =>
    (if path.isAbsolute then ["/"] else if first.isEmpty then [] else [String.ofList first]) ++
      (rest.filter fun piece => !isFiller piece).map String.ofList

/-- The path that components make. -/
def ofComponents (components : List String) : Path := components.foldl join ""

/-- The components without those that both paths start with. -/
def dropCommon : List String → List String → List String × List String
  | a :: as, b :: bs => if a = b then dropCommon as bs else (a :: as, b :: bs)
  | as, bs => (as, bs)

/-- The way from a directory to a path; `none` if the directory's own path goes up. -/
def fromDirectory? (base path : Path) : Option Path :=
  let (ahead, back) := dropCommon path.components base.components
  if back.contains ".." then none
  else some (ofComponents (back.map (fun _ => "..") ++ ahead))

/-- The path as it is shown to a user in a directory: the way from there, if it is shorter. -/
def shownFrom (base path : Path) : Path :=
  match fromDirectory? base path with
  | some way => if way.components.length < path.components.length then way else path
  | none => path

end Path

end TsWorkshop
