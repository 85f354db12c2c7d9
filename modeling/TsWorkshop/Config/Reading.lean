import TsWorkshop.Config.Setting

/-!
Reading a configuration from settings. The members of a dictionary are read in increasing order of
their keys, those of a list in the order of the section's fields; the first refusal is the answer.
A refusal knows the path of the setting and the layer that it comes from.
-/

namespace TsWorkshop

/-- What is wrong with a setting. -/
inductive Objection where
  | wrongType (found expected : String)
  | unknownVariant (name : String) (known : List String)
  | noVariant (name : String)
  /-- A complaint about a whole layer, in its own words. -/
  | unreadable (message : String)
  deriving DecidableEq, Repr

def Objection.message : Objection → String
  | wrongType found expected => "invalid type: found " ++ found ++ ", expected " ++ expected
  | unknownVariant name known =>
    "unknown variant: found \x60" ++ name ++ "\x60, expected \x60" ++
      Complaint.alternatives known ++ "\x60"
  | noVariant name => "data did not match any variant of untagged enum " ++ name
  | unreadable message => message

/-- An objection, where it arose, and the layer that it is about. -/
structure Refusal where
  objection : Objection
  path : List String := []
  origin : Option Origin := none
  deriving DecidableEq, Repr

namespace Refusal

/-- The refusal of a part, seen from the whole: a refusal of no layer is one of the whole's. -/
def within (origin : Origin) (key : String) (r : Refusal) : Refusal :=
  { r with path := key :: r.path, origin := r.origin.or (some origin) }

/-- The wording of a refusal. -/
def message (r : Refusal) : String :=
  match r.origin with
  | none => r.objection.message
  | some origin =>
    r.objection.message ++
      (if r.path.isEmpty then "" else " for key " ++ Text.shown (origin.key r.path)) ++
      origin.phrase

end Refusal

/-- The way a value is shown in a message. -/
def Scalar.shown : Scalar → String
  | empty => "unit"
  | bool b => "bool " ++ (if b then "true" else "false")
  | signed n => "signed int \x60" ++ toString n ++ "\x60"
  | unsigned n => "unsigned int \x60" ++ toString n ++ "\x60"
  | float x => "float \x60" ++ x.plain "" ++ "\x60"
  | notFinite name => "float \x60" ++ name ++ "\x60"
  | char c => "string " ++ Text.shown c.toString
  | text s => "string " ++ Text.shown s

namespace Setting

def shown : Setting → String
  | scalar _ s => s.shown
  | list _ _ => "sequence"
  | dict _ _ => "map"

/-- The refusal of a setting of another type. -/
def refusal (s : Setting) (expected : String) : Refusal :=
  { objection := .wrongType s.shown expected, origin := some s.origin }

/-- Reads a part of a whole. -/
def readPart {α : Type} (origin : Origin) (key : String) (read : Setting → Except Refusal α)
    (part : Setting) : Except Refusal α :=
  (read part).mapError (Refusal.within origin key)

/-- Reads the member of a dictionary with the given key; without one, the default holds. -/
def readMember {α : Type} (origin : Origin) (members : Assoc Setting) (key : String)
    (read : Setting → Except Refusal α) (default : α) : Except Refusal α :=
  match members.get? key with
  | some part => readPart origin key read part
  | none => .ok default

/-- Reads the item of a list at the given place; without one, the default holds. -/
def readItem {α : Type} (origin : Origin) (items : List Setting) (place : Nat)
    (read : Setting → Except Refusal α) (default : α) : Except Refusal α :=
  match items[place]? with
  | some part => readPart origin (toString place) read part
  | none => .ok default

def flag : Setting → Except Refusal Bool
  | scalar _ (.bool b) => .ok b
  | s => .error (s.refusal "a boolean")

/-- A text, or a single character. -/
def textAs (expected : String) : Setting → Except Refusal String
  | scalar _ (.text t) => .ok t
  | scalar _ (.char c) => .ok c.toString
  | s => .error (s.refusal expected)

def text : Setting → Except Refusal String := textAs "a string"

def path : Setting → Except Refusal Path := textAs "path string"

def optionalPath : Setting → Except Refusal (Option Path)
  | scalar _ .empty => .ok none
  | s => s.path.map some

/-- Reads the items of a list from the given place on. -/
def textItems (origin : Origin) (place : Nat) : List Setting → Except Refusal (List String)
  | [] => .ok []
  | item :: rest => do
    let first ← readPart origin (toString place) text item
    return first :: (← textItems origin (place + 1) rest)

def texts : Setting → Except Refusal (List String)
  | list origin items => textItems origin 0 items
  | s => .error (s.refusal "a sequence")

def unit : Setting → Except Refusal Unit
  | scalar _ .empty => .ok ()
  | s => .error (s.refusal "unit")

/-- One of some words, given as a text, or as a dictionary whose first key is the word and whose
first value is empty. -/
def word {α : Type} (name : String) (known : List String) (meaning : Assoc α) :
    Setting → Except Refusal α
  | scalar origin (.text t) =>
    match meaning.get? t with
    | some a => .ok a
    | none => .error { objection := .unknownVariant t known, origin := some origin }
  | dict origin ((key, value) :: _) =>
    match meaning.get? key with
    | some a => do
      readPart origin key unit value
      return a
    | none =>
      .error { objection := .unknownVariant key known, path := [key], origin := some origin }
  | dict origin [] => .error ((dict origin []).refusal "enum")
  | s => .error (s.refusal ("enum " ++ name))

/-- The texts of a list that holds nothing else; single characters are not taken for texts. -/
def plainTexts? : List Setting → Option (List String)
  | [] => some []
  | scalar _ (.text t) :: rest => (plainTexts? rest).map (t :: ·)
  | _ => none

end Setting

namespace BuildMode

/-- The words for the modes. -/
def meaning : Assoc BuildMode :=
  [("app", app), ("application", app), ("library", library), ("lib", library)]

/-- The words that a message offers. -/
def known : List String := ["app", "application", "lib", "library"]

def ofSetting : Setting → Except Refusal BuildMode := Setting.word "BuildMode" known meaning

end BuildMode

namespace Uploader

def meaning : Assoc Uploader := [("fs", fs), ("s3", s3)]

def known : List String := ["fs", "s3"]

def ofSetting : Setting → Except Refusal Uploader := Setting.word "Uploader" known meaning

end Uploader

/-- A switch or a list of texts; a refusal is about the section. -/
def Workspaces.ofSetting : Setting → Except Refusal Workspaces
  | .scalar _ (.bool on) => .ok (enabled on)
  | .list _ items =>
    match Setting.plainTexts? items with
    | some names => .ok (packages names)
    | none => .error { objection := .noVariant "Workspaces" }
  | _ => .error { objection := .noVariant "Workspaces" }

def BuildSettings.ofSetting : Setting → Except Refusal BuildSettings
  | .dict origin members => do
    let esm ← Setting.readMember origin members "esm" Setting.flag false
    let minify ← Setting.readMember origin members "minify" Setting.flag false
    let mode ← Setting.readMember origin members "mode" BuildMode.ofSetting .app
    let provideDocs ← Setting.readMember origin members "provideDocs" Setting.flag false
    let uploader ← Setting.readMember origin members "uploader" Uploader.ofSetting .fs
    return { esm, minify, provideDocs, uploader, mode }
  | .list origin items => do
    let esm ← Setting.readItem origin items 0 Setting.flag false
    let minify ← Setting.readItem origin items 1 Setting.flag false
    let provideDocs ← Setting.readItem origin items 2 Setting.flag false
    let uploader ← Setting.readItem origin items 3 Uploader.ofSetting .fs
    let mode ← Setting.readItem origin items 4 BuildMode.ofSetting .app
    return { esm, minify, provideDocs, uploader, mode }
  | s => .error (s.refusal "struct BuildArtifactsConfig")

def LintSettings.ofSetting : Setting → Except Refusal LintSettings
  | .dict origin members => do
    let extensions ← Setting.readMember origin members "extensions" Setting.texts
      ({} : LintSettings).extensions
    let fix ← Setting.readMember origin members "fix" Setting.flag true
    return { fix, extensions }
  | .list origin items => do
    let fix ← Setting.readItem origin items 0 Setting.flag true
    let extensions ← Setting.readItem origin items 1 Setting.texts ({} : LintSettings).extensions
    return { fix, extensions }
  | s => .error (s.refusal "struct EslintConfig")

def DocsSettings.ofSetting : Setting → Except Refusal DocsSettings
  | .dict origin members => do
    let entryPoints ← Setting.readMember origin members "entryPoints" Setting.texts
      ({} : DocsSettings).entryPoints
    let findTypedocFile ← Setting.readMember origin members "findTypedocFile" Setting.flag false
    let out ← Setting.readMember origin members "out" Setting.path ({} : DocsSettings).out
    let workspaces ← Setting.readMember origin members "workspaces" Workspaces.ofSetting
      (.enabled false)
    return { workspaces, findTypedocFile, entryPoints, out }
  | .list origin items => do
    let workspaces ← Setting.readItem origin items 0 Workspaces.ofSetting (.enabled false)
    let findTypedocFile ← Setting.readItem origin items 1 Setting.flag false
    let entryPoints ← Setting.readItem origin items 2 Setting.texts ({} : DocsSettings).entryPoints
    let out ← Setting.readItem origin items 3 Setting.path ({} : DocsSettings).out
    return { workspaces, findTypedocFile, entryPoints, out }
  | s => .error (s.refusal "struct TypedocConfig")

namespace Config

/-- Reads a configuration; what it does not set has its default. -/
def ofSetting : Setting → Except Refusal Config
  | .dict origin members => do
    let build ← Setting.readMember origin members "build" BuildSettings.ofSetting {}
    let eslint ← Setting.readMember origin members "eslint" LintSettings.ofSetting {}
    let name ← Setting.readMember origin members "name" Setting.text ({} : Config).name
    let tsconfig ← Setting.readMember origin members "tsconfig" Setting.optionalPath none
    let typedoc ← Setting.readMember origin members "typedoc" DocsSettings.ofSetting {}
    return { name, build, eslint, tsconfig, typedoc }
  | s => .error (s.refusal "struct TanukiConfig")

/-- Reads a configuration from a JSON value. -/
def ofJson? (value : Json) : Option Config :=
  (ofSetting (Setting.ofJson .package value)).toOption

end Config

end TsWorkshop
