import TsWorkshop.Config.Reading
import TsWorkshop.Json.Shape

/-!
Configurations as JSON texts: the shapes of the sections, in the order of their fields.
-/

namespace TsWorkshop.Config

/-- The sections of a configuration. -/
inductive RecordName where
  | config | build | eslint | typedoc
  deriving DecidableEq, Repr

/-- A field that need not be there. -/
def optionalField (name : String) (shape : Shape RecordName) : Field RecordName :=
  { name, shape, optional := true }

def texts : Shape RecordName := .list (.text "a string")

/-- One of some words, each read as the name of its meaning. -/
def word {α : Type} (known : List String) (meaning : Assoc α) (name : α → String) :
    Shape RecordName :=
  .word known (meaning.map fun (key, value) => (key, name value))

def isText (value : Json) : Bool := value.text?.isSome

/-- A switch or a list of texts. -/
def isWorkspaces : Json → Bool
  | .bool _ => true
  | .arr items => items.all isText
  | _ => false

def grammar : Grammar RecordName
  | .config =>
    { title := "struct TanukiConfig"
      fields :=
        [optionalField "name" (.text "a string"), optionalField "build" (.record .build),
         optionalField "eslint" (.record .eslint),
         { name := "tsconfig", shape := .text "path string", nullable := true, optional := true },
         optionalField "typedoc" (.record .typedoc)] }
  | .build =>
    { title := "struct BuildArtifactsConfig"
      fields :=
        [optionalField "esm" .flag, optionalField "minify" .flag, optionalField "provideDocs" .flag,
         optionalField "uploader" (word Uploader.known Uploader.meaning Uploader.name),
         optionalField "mode" (word BuildMode.known BuildMode.meaning BuildMode.name)] }
  | .eslint =>
    { title := "struct EslintConfig"
      fields := [optionalField "fix" .flag, optionalField "extensions" texts] }
  | .typedoc =>
    { title := "struct TypedocConfig"
      fields :=
        [optionalField "workspaces" (.choice "Workspaces" isWorkspaces),
         optionalField "findTypedocFile" .flag, optionalField "entryPoints" texts,
         optionalField "out" (.text "path string")] }

/-- Reads a configuration. A text in shape is never refused afterwards. -/
def ofText (text : String) : Except Complaint Config := do
  match ofJson? (← (Shape.record RecordName.config).ofText grammar text) with
  | some config => return config
  | none => throw .expectedValue

end TsWorkshop.Config
