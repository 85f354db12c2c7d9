import TsWorkshop.Config.Loading
import TsWorkshop.Proofs.Config.Schema
import TsWorkshop.Proofs.Config.Sections

/-!
The defaults of a configuration are stated twice: each reader knows what holds where a member is
missing, and the lowest layer of settings holds the written form of the default configuration. The
sections and the configuration itself are lawful schemas, so that the two agree (`defaults_agree`).
-/

namespace TsWorkshop.Config

/-! ### Elements without parts -/

section Elements

variable {β : Type} (room : Nat)

/-- A switch. -/
def flagElement (name : String) (default : Bool) (get : β → Bool) : Element β where
  field := optionalField name .flag
  read := Setting.flag
  write b := some (.bool b)
  default := default
  get := get

theorem lawful_flag (name : String) (default : Bool) (get : β → Bool) :
    (flagElement name default get).Lawful room :=
  Element.lawful_of_shaped room Json.bool (fun _ => rfl) rfl (fun _ => rfl) (fun _ _ => rfl) rfl

/-- A text; `expected` is the phrase of a complaint. -/
def textElement (name expected default : String) (get : β → String) : Element β where
  field := optionalField name (.text expected)
  read := Setting.textAs expected
  write s := some (.str s)
  default := default
  get := get

theorem lawful_text (name expected default : String) (get : β → String) :
    (textElement name expected default get).Lawful room :=
  Element.lawful_of_shaped room Json.str (fun _ => rfl) rfl (fun _ => rfl) (fun _ _ => rfl) rfl

/-- The compiler's configuration file. -/
def tsconfigElement (get : β → Option Path) : Element β where
  field := { name := "tsconfig", shape := .text "path string", nullable := true, optional := true }
  read := Setting.optionalPath
  write path := path.map .str
  default := none
  get := get

theorem lawful_tsconfig (get : β → Option Path) : (tsconfigElement get).Lawful room := by
  refine Element.lawful_of_not_isObject room (fun path => ?_) (fun origin path => ?_) ?_
  · cases path <;> rfl
  · cases path with
    | none => exact Setting.Answers.absent
    | some path => exact Setting.Answers.part _ _ rfl
  · intro d wrote
    cases wrote

/-- One of some words. -/
def wordElement {α : Type} (name title : String) (known : List String) (meaning : Assoc α)
    (spelled : α → String) (default : α) (get : β → α) : Element β where
  field := optionalField name (word known meaning spelled)
  read := Setting.word title known meaning
  write a := some (.str (spelled a))
  default := default
  get := get

/-- Words whose spellings have their meaning are lawful. -/
theorem lawful_word {α : Type} (name title : String) (known : List String) (meaning : Assoc α)
    (spelled : α → String) (default : α) (get : β → α)
    (means : ∀ a, meaning.get? (spelled a) = some a) :
    (wordElement name title known meaning spelled default get).Lawful room := by
  refine Element.lawful_of_shaped room (fun a : α => Json.str (spelled a)) (fun _ => rfl) rfl
    (fun (a : α) => ?_) (fun origin (a : α) => ?_) rfl
  · change Shape.readText grammar (word known meaning spelled) (spelled a) = _
    unfold word
    rw [Shape.readText, Assoc.get?_map, means, Option.map_some]
  · change Setting.word title known meaning (.scalar origin (.text (spelled a))) = _
    rw [Setting.word, means]
    rfl

/-! ### Lists of texts -/

theorem readItems_texts (names : List String) :
    Shape.readItems grammar (.text "a string") room (Source.ofItems (names.map .str)) =
      .ok (names.map .str) := by
  induction names with
  | nil => rfl
  | cons name rest ih =>
    rw [List.map_cons, Source.ofItems, Shape.readItems, ih]
    rfl

theorem textItems_texts (origin : Origin) (place : Nat) (names : List String) :
    Setting.textItems origin place
      (Setting.ofDataItems origin (Data.ofJsonItems (names.map .str))) = .ok names := by
  induction names generalizing place with
  | nil => rfl
  | cons name rest ih =>
    rw [List.map_cons, Data.ofJsonItems, Setting.ofDataItems, Setting.textItems, ih]
    rfl

theorem valueItems_texts (names : List String) :
    Source.valueItems room (Source.ofItems (names.map .str)) = .ok (names.map .str) := by
  induction names with
  | nil => rfl
  | cons name rest ih =>
    rw [List.map_cons, Source.ofItems, Source.valueItems, ih]
    rfl

theorem plainTexts?_texts (origin : Origin) (names : List String) :
    Setting.plainTexts? (Setting.ofDataItems origin (Data.ofJsonItems (names.map .str))) =
      some names := by
  induction names with
  | nil => rfl
  | cons name rest ih =>
    rw [List.map_cons, Data.ofJsonItems, Setting.ofDataItems]
    change (Setting.plainTexts? _).map _ = _
    rw [ih, Option.map_some]

/-- A list of texts. -/
def textsElement (name : String) (default : List String) (get : β → List String) : Element β where
  field := optionalField name texts
  read := Setting.texts
  write names := some (textsToJson names)
  default := default
  get := get

theorem lawful_texts (some_ : 1 < room) (name : String) (default : List String)
    (get : β → List String) : (textsElement name default get).Lawful room := by
  refine Element.lawful_of_shaped room textsToJson (fun _ => rfl) rfl
    (fun (names : List String) => ?_) (fun origin names => textItems_texts origin 0 names) rfl
  change Shape.read grammar (.list (.text "a string")) room
    (.arr (Source.ofItems (names.map .str)) .closed) = .ok (.arr (names.map .str))
  rw [Shape.read, if_neg (by omega), readItems_texts]
  rfl

/-- The packages that are documented. -/
def workspacesElement (get : β → Workspaces) : Element β where
  field := optionalField "workspaces" (.choice "Workspaces" isWorkspaces)
  read := Workspaces.ofSetting
  write w := some w.toJson
  default := .enabled false
  get := get

theorem lawful_workspaces (some_ : 1 < room) (get : β → Workspaces) :
    (workspacesElement get).Lawful room := by
  refine Element.lawful_of_shaped room Workspaces.toJson (fun _ => rfl) rfl
    (fun (w : Workspaces) => ?_) (fun origin (w : Workspaces) => ?_) rfl
  · cases w with
    | enabled on => rfl
    | packages names =>
      have accepted : isWorkspaces (.arr (names.map .str)) = true := by
        simp [isWorkspaces, isText, Json.text?]
      change Shape.read grammar (.choice "Workspaces" isWorkspaces) room
        (.arr (Source.ofItems (names.map .str)) .closed) = .ok (.arr (names.map .str))
      rw [Shape.read, Source.value, if_neg (by omega), valueItems_texts]
      change (if isWorkspaces (.arr (names.map .str)) then _ else _) = _
      rw [if_pos accepted]
      rfl
  · cases w with
    | enabled on => rfl
    | packages names =>
      change Workspaces.ofSetting (.list origin
        (Setting.ofDataItems origin (Data.ofJsonItems (names.map .str)))) = _
      rw [Workspaces.ofSetting, plainTexts?_texts]
      rfl

end Elements

/-! ### Sections -/

def buildSchema : Schema BuildSettings where
  name := .build
  read := BuildSettings.ofSetting
  write := BuildSettings.toJson
  default := {}
  elements :=
    [flagElement "esm" false BuildSettings.esm, flagElement "minify" false BuildSettings.minify,
     flagElement "provideDocs" false BuildSettings.provideDocs,
     wordElement "uploader" "Uploader" Uploader.known Uploader.meaning Uploader.name .fs
       BuildSettings.uploader,
     wordElement "mode" "BuildMode" BuildMode.known BuildMode.meaning BuildMode.name .app
       BuildSettings.mode]

def lintSchema : Schema LintSettings where
  name := .eslint
  read := LintSettings.ofSetting
  write := LintSettings.toJson
  default := {}
  elements :=
    [flagElement "fix" true LintSettings.fix,
     textsElement "extensions" ({} : LintSettings).extensions LintSettings.extensions]

def docsSchema : Schema DocsSettings where
  name := .typedoc
  read := DocsSettings.ofSetting
  write := DocsSettings.toJson
  default := {}
  elements :=
    [workspacesElement DocsSettings.workspaces,
     flagElement "findTypedocFile" false DocsSettings.findTypedocFile,
     textsElement "entryPoints" ({} : DocsSettings).entryPoints DocsSettings.entryPoints,
     textElement "out" "path string" ({} : DocsSettings).out DocsSettings.out]

/-- The configuration itself. -/
def schema : Schema Config where
  name := .config
  read := ofSetting
  write := toJson
  default := {}
  elements :=
    [textElement "name" "a string" ({} : Config).name Config.name,
     buildSchema.element "build" Config.build, lintSchema.element "eslint" Config.eslint,
     tsconfigElement Config.tsconfig, docsSchema.element "typedoc" Config.typedoc]

theorem lenient (name : RecordName) : (grammar name).Lenient := by
  cases name <;> exact ⟨by decide, by simp [grammar, optionalField], rfl, rfl⟩

variable (room : Nat)

theorem lawful_buildSchema : buildSchema.Lawful room where
  fields := rfl
  lenient := lenient .build
  reads origin members b := by
    simp only [buildSchema, List.forall_mem_cons, List.not_mem_nil, false_implies, implies_true,
      and_true]
    exact Setting.build_eq_ok_iff origin members b
  writes _ := rfl
  defaults := by simp [buildSchema, flagElement, wordElement]
  elements := by
    simp only [buildSchema, List.forall_mem_cons, List.not_mem_nil, false_implies, implies_true,
      and_true]
    exact ⟨lawful_flag room _ _ _, lawful_flag room _ _ _, lawful_flag room _ _ _,
      lawful_word room _ _ _ _ _ _ _ fun uploader => by cases uploader <;> rfl,
      lawful_word room _ _ _ _ _ _ _ fun mode => by cases mode <;> rfl⟩

theorem lawful_lintSchema (some_ : 1 < room) : lintSchema.Lawful room where
  fields := rfl
  lenient := lenient .eslint
  reads origin members b := by
    simp only [lintSchema, List.forall_mem_cons, List.not_mem_nil, false_implies, implies_true,
      and_true]
    exact Setting.eslint_eq_ok_iff origin members b
  writes _ := rfl
  defaults := by simp [lintSchema, flagElement, textsElement]
  elements := by
    simp only [lintSchema, List.forall_mem_cons, List.not_mem_nil, false_implies, implies_true,
      and_true]
    exact ⟨lawful_flag room _ _ _, lawful_texts room some_ _ _ _⟩

theorem lawful_docsSchema (some_ : 1 < room) : docsSchema.Lawful room where
  fields := rfl
  lenient := lenient .typedoc
  reads origin members b := by
    simp only [docsSchema, List.forall_mem_cons, List.not_mem_nil, false_implies, implies_true,
      and_true]
    exact Setting.typedoc_eq_ok_iff origin members b
  writes _ := rfl
  defaults := by simp [docsSchema, workspacesElement, flagElement, textsElement, textElement]
  elements := by
    simp only [docsSchema, List.forall_mem_cons, List.not_mem_nil, false_implies, implies_true,
      and_true]
    exact ⟨lawful_workspaces room some_ _, lawful_flag room _ _ _, lawful_texts room some_ _ _ _,
      lawful_text room _ _ _ _⟩

theorem lawful_schema (some_ : 1 < room) : schema.Lawful (room + 1) where
  fields := rfl
  lenient := lenient .config
  reads origin members c := by
    simp only [schema, List.forall_mem_cons, List.not_mem_nil, false_implies, implies_true,
      and_true]
    refine (Setting.config_eq_ok_iff origin members c).trans ?_
    constructor
    · rintro ⟨name, tsconfig, build, eslint, typedoc⟩
      exact ⟨name, build, eslint, tsconfig, typedoc⟩
    · rintro ⟨name, build, eslint, tsconfig, typedoc⟩
      exact ⟨name, tsconfig, build, eslint, typedoc⟩
  writes c := by
    obtain ⟨_, _, _, tsconfig, _⟩ := c
    cases tsconfig <;> rfl
  defaults := by
    simp [schema, textElement, Schema.element, buildSchema, lintSchema, tsconfigElement, docsSchema]
  elements := by
    have first : 0 < room := by omega
    simp only [schema, List.forall_mem_cons, List.not_mem_nil, false_implies, implies_true,
      and_true]
    exact ⟨lawful_text _ _ _ _ _, (lawful_buildSchema room).element first _ _,
      (lawful_lintSchema room some_).element first _ _, lawful_tsconfig _ _,
      (lawful_docsSchema room some_).element first _ _⟩

/-! ### Configurations -/

/-- Reads a configuration from a text as far as that can be read. -/
def ofSource (source : Source × Bool) : Except Complaint Config := do
  match ofJson? (← (Shape.record RecordName.config).ofSource grammar source) with
  | some config => return config
  | none => throw .expectedValue

theorem ofText_eq_ofSource (text : String) : ofText text = ofSource (Source.ofText text) := rfl

/-- Reads a configuration from a JSON value, as from any text of it. -/
def ofValue (v : Json) : Except Complaint Config := ofSource (Source.ofJson v, false)

theorem toOption_ofValue (v : Json) :
    (ofValue v).toOption = schema.readJson Source.depthLimit v := by
  unfold ofValue ofSource Shape.ofSource Schema.readJson
  rw [toOption_bind, toOption_bind, Option.bind_assoc]
  apply congrArg
  funext w
  change (match ofJson? w with
    | some config => (Except.ok config : Except Complaint Config)
    | none => .error .expectedValue).toOption = ofJson? w
  cases ofJson? w <;> rfl

/-- A configuration reads the same from a value and from the value laid over the written default,
and from a layer of settings alone and over the layer of defaults: both are refused, or the same
configuration is read. And each configuration is read back from its written form. -/
theorem defaults_agree (v : Json) (unique : v.uniqueKeys = true) :
    (ofValue (({} : Config).toJson.overlaid v)).toOption = (ofValue v).toOption ∧
    (∀ origin, (ofSetting (defaultLayer.overlaid (.ofJson origin v))).toOption =
      (ofSetting (.ofJson origin v)).toOption) ∧
    ∀ c : Config, ofValue c.toJson = .ok c ∧
      ∀ origin, ofSetting (.ofJson origin c.toJson) = .ok c := by
  have lawful : schema.Lawful 127 := lawful_schema 126 (by decide)
  refine ⟨?_, fun origin => ?_, fun c => ⟨?_, fun origin => ?_⟩⟩
  · rw [toOption_ofValue, toOption_ofValue]
    exact lawful.readJson_overlaid (by decide) v unique
  · exact lawful.read_overlaid .defaults _ (Setting.ordered_ofData origin _)
  · rw [← toOption_eq_some_iff, toOption_ofValue]
    exact lawful.readJson_write (by decide) c
  · exact lawful.read_write origin c

/-- A library with a list of packages. -/
def libraryText : String :=
  "\x7b\"build\":\x7b\"mode\":\"lib\"\x7d,\"tsconfig\":null,\"author\":\"me\"," ++
    "\"typedoc\":\x7b\"workspaces\":[\"core\"]\x7d\x7d"

def libraryValue : Json :=
  .obj [("build", .obj [("mode", .str "lib")]), ("tsconfig", .null), ("author", .str "me"),
    ("typedoc", .obj [("workspaces", .arr [.str "core"])])]

theorem ofText_libraryText : Source.ofText libraryText = (Source.ofJson libraryValue, false) := by
  cbv

def libraryConfig : Config :=
  { build := { mode := .library }, typedoc := { workspaces := .packages ["core"] } }

/-- What the text does not set holds its default, whether this is laid under the text or not. -/
theorem defaults_agree_library :
    libraryValue.uniqueKeys = true ∧ ofText libraryText = .ok libraryConfig ∧
      (ofValue (({} : Config).toJson.overlaid libraryValue)).toOption = some libraryConfig ∧
      (ofSetting (defaultLayer.overlaid (.ofJson .package libraryValue))).toOption =
        some libraryConfig := by
  have unique : libraryValue.uniqueKeys = true := by decide +kernel
  have read : ofValue libraryValue = .ok libraryConfig := by decide +kernel
  have set : ofSetting (.ofJson .package libraryValue) = .ok libraryConfig := by decide +kernel
  obtain ⟨texts, layers, -⟩ := defaults_agree libraryValue unique
  refine ⟨unique, ?_, ?_, ?_⟩
  · rw [ofText_eq_ofSource, ofText_libraryText]
    exact read
  · rw [texts, read]
    rfl
  · rw [layers, set]
    rfl

end TsWorkshop.Config
