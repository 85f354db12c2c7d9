import TsWorkshop.Config.Reading
import TsWorkshop.Proofs.Config.Setting
import TsWorkshop.Proofs.Except

/-!
The leaves of a configuration, each with the keys that lead to it, the way it is read and the place
where it is kept. A configuration that is read from a setting has for each leaf what the part there
reads as, and the built-in value where there is no part (`answers_of_ofSetting`).
-/

namespace TsWorkshop

/-- What can be set on its own. -/
inductive Leaf where
  | name | tsconfig
  | esm | minify | provideDocs | uploader | mode
  | fix | extensions
  | workspaces | findTypedocFile | entryPoints | out
  deriving DecidableEq

namespace Leaf

/-- The type of a leaf's values. -/
def Value : Leaf → Type
  | name => String
  | tsconfig => Option Path
  | esm | minify | provideDocs | fix | findTypedocFile => Bool
  | uploader => Uploader
  | mode => BuildMode
  | extensions | entryPoints => List String
  | workspaces => Workspaces
  | out => Path

instance : (leaf : Leaf) → DecidableEq leaf.Value
  | name | out => inferInstanceAs (DecidableEq String)
  | tsconfig => inferInstanceAs (DecidableEq (Option Path))
  | esm | minify | provideDocs | fix | findTypedocFile => inferInstanceAs (DecidableEq Bool)
  | uploader => inferInstanceAs (DecidableEq Uploader)
  | mode => inferInstanceAs (DecidableEq BuildMode)
  | extensions | entryPoints => inferInstanceAs (DecidableEq (List String))
  | workspaces => inferInstanceAs (DecidableEq Workspaces)

/-- The keys that lead to a leaf. -/
def keys : Leaf → List String
  | name => ["name"]
  | tsconfig => ["tsconfig"]
  | esm => ["build", "esm"]
  | minify => ["build", "minify"]
  | provideDocs => ["build", "provideDocs"]
  | uploader => ["build", "uploader"]
  | mode => ["build", "mode"]
  | fix => ["eslint", "fix"]
  | extensions => ["eslint", "extensions"]
  | workspaces => ["typedoc", "workspaces"]
  | findTypedocFile => ["typedoc", "findTypedocFile"]
  | entryPoints => ["typedoc", "entryPoints"]
  | out => ["typedoc", "out"]

def read : (leaf : Leaf) → Setting → Except Refusal leaf.Value
  | name => Setting.text
  | tsconfig => Setting.optionalPath
  | esm | minify | provideDocs | fix | findTypedocFile => Setting.flag
  | uploader => Uploader.ofSetting
  | mode => BuildMode.ofSetting
  | extensions | entryPoints => Setting.texts
  | workspaces => Workspaces.ofSetting
  | out => Setting.path

def get : (leaf : Leaf) → Config → leaf.Value
  | name, config => config.name
  | tsconfig, config => config.tsconfig
  | esm, config => config.build.esm
  | minify, config => config.build.minify
  | provideDocs, config => config.build.provideDocs
  | uploader, config => config.build.uploader
  | mode, config => config.build.mode
  | fix, config => config.eslint.fix
  | extensions, config => config.eslint.extensions
  | workspaces, config => config.typedoc.workspaces
  | findTypedocFile, config => config.typedoc.findTypedocFile
  | entryPoints, config => config.typedoc.entryPoints
  | out, config => config.typedoc.out

/-- The configuration with another value of a leaf. -/
def set : (leaf : Leaf) → leaf.Value → Config → Config
  | name, value, config => { config with name := value }
  | tsconfig, value, config => { config with tsconfig := value }
  | esm, value, config => { config with build.esm := value }
  | minify, value, config => { config with build.minify := value }
  | provideDocs, value, config => { config with build.provideDocs := value }
  | uploader, value, config => { config with build.uploader := value }
  | mode, value, config => { config with build.mode := value }
  | fix, value, config => { config with eslint.fix := value }
  | extensions, value, config => { config with eslint.extensions := value }
  | workspaces, value, config => { config with typedoc.workspaces := value }
  | findTypedocFile, value, config => { config with typedoc.findTypedocFile := value }
  | entryPoints, value, config => { config with typedoc.entryPoints := value }
  | out, value, config => { config with typedoc.out := value }

@[simp] theorem get_set (leaf : Leaf) (value : leaf.Value) (config : Config) :
    leaf.get (leaf.set value config) = value := by
  cases leaf <;> rfl

/-- One of some words, which may also be spelled as a dictionary. -/
def isWord : Leaf → Bool
  | uploader | mode => true
  | _ => false

/-- Nothing but a word is read from a dictionary. -/
theorem isDictionary_of_read (leaf : Leaf) (part : Setting) (value : leaf.Value)
    (h : leaf.read part = .ok value) (plain : leaf.isWord = false) : part.isDictionary = false := by
  cases part with
  | scalar => rfl
  | list => rfl
  | dict =>
    cases leaf with
    | uploader => cases plain
    | mode => cases plain
    | _ => cases h

end Leaf

namespace Setting

variable {α β : Type}

/-- A part stands for what it reads as, and the absence of one for the default. -/
inductive Answers (read : Setting → Except Refusal α) (default : α) : Option Setting → α → Prop
  | part (part : Setting) (value : α) (h : read part = .ok value) :
      Answers read default (some part) value
  | absent : Answers read default none default

section Answers

variable {read : Setting → Except Refusal α} {default value value' : α}

theorem answers_some_iff (part : Setting) :
    Answers read default (some part) value ↔ read part = .ok value := by
  constructor
  · intro h
    cases h with
    | part _ _ h => exact h
  · exact Answers.part part value

theorem answers_none_iff : Answers read default none value ↔ value = default := by
  constructor
  · intro h
    cases h
    rfl
  · rintro rfl
    exact Answers.absent

instance [DecidableEq α] (part : Option Setting) : Decidable (Answers read default part value) :=
  match part with
  | some part => decidable_of_iff' _ (answers_some_iff part)
  | none => decidable_of_iff' _ answers_none_iff

theorem Answers.unique {part : Option Setting} (h : Answers read default part value)
    (h' : Answers read default part value') : value = value' := by
  cases h with
  | part part _ h => exact Except.ok.inj (h.symm.trans ((answers_some_iff part).mp h'))
  | absent => exact (answers_none_iff.mp h').symm

theorem answers_of_readMember (origin : Origin) (members : Assoc Setting) (key : String)
    (h : readMember origin members key read default = .ok value) :
    Answers read default (members.get? key) value := by
  unfold readMember at h
  split at h
  · rename_i part there
    rw [there]
    exact Answers.part part value ((mapError_eq_ok_iff _ _ _).mp h)
  · rename_i missing
    rw [missing]
    cases h
    exact Answers.absent

end Answers

/-- A part of a section, seen from the whole: `get` is where the section keeps it. -/
theorem answers_in_section {s : Setting} {name key : String}
    {readSection : Setting → Except Refusal β} {settings default : β}
    {read : Setting → Except Refusal α} (get : β → α)
    (h : Answers readSection default (s.members.get? name) settings)
    (inside : ∀ part, s.members.get? name = some part → readSection part = .ok settings →
      Answers read (get default) (part.members.get? key) (get settings)) :
    Answers read (get default) (s.at? [name, key]) (get settings) := by
  cases there : s.members.get? name with
  | none =>
    rw [there] at h
    rw [answers_none_iff.mp h, at?, there]
    exact Answers.absent
  | some part =>
    rw [there] at h
    rw [at?, there, Option.bind_some, at?_singleton]
    exact inside part there ((answers_some_iff part).mp h)

/-! ### Sections -/

/-- A build section that is read has for each key what the part there reads as. -/
theorem answers_build (part : Setting) (settings : BuildSettings) (dictionary : part.isDictionary)
    (h : BuildSettings.ofSetting part = .ok settings) :
    Answers flag false (part.members.get? "esm") settings.esm ∧
      Answers flag false (part.members.get? "minify") settings.minify ∧
      Answers flag false (part.members.get? "provideDocs") settings.provideDocs ∧
      Answers Uploader.ofSetting .fs (part.members.get? "uploader") settings.uploader ∧
      Answers BuildMode.ofSetting .app (part.members.get? "mode") settings.mode := by
  cases part with
  | scalar => cases dictionary
  | list => cases dictionary
  | dict origin members =>
    obtain ⟨esm, esmRead, h⟩ := (bind_eq_ok_iff _ _ _).mp h
    obtain ⟨minify, minifyRead, h⟩ := (bind_eq_ok_iff _ _ _).mp h
    obtain ⟨mode, modeRead, h⟩ := (bind_eq_ok_iff _ _ _).mp h
    obtain ⟨provideDocs, provideDocsRead, h⟩ := (bind_eq_ok_iff _ _ _).mp h
    obtain ⟨uploader, uploaderRead, h⟩ := (bind_eq_ok_iff _ _ _).mp h
    cases h
    exact ⟨answers_of_readMember _ _ _ esmRead, answers_of_readMember _ _ _ minifyRead,
      answers_of_readMember _ _ _ provideDocsRead,
      answers_of_readMember _ _ _ uploaderRead, answers_of_readMember _ _ _ modeRead⟩

theorem answers_eslint (part : Setting) (settings : LintSettings) (dictionary : part.isDictionary)
    (h : LintSettings.ofSetting part = .ok settings) :
    Answers flag true (part.members.get? "fix") settings.fix ∧
      Answers texts ({} : LintSettings).extensions (part.members.get? "extensions")
        settings.extensions := by
  cases part with
  | scalar => cases dictionary
  | list => cases dictionary
  | dict origin members =>
    obtain ⟨extensions, extensionsRead, h⟩ := (bind_eq_ok_iff _ _ _).mp h
    obtain ⟨fix, fixRead, h⟩ := (bind_eq_ok_iff _ _ _).mp h
    cases h
    exact ⟨answers_of_readMember _ _ _ fixRead,
      answers_of_readMember _ _ _ extensionsRead⟩

theorem answers_typedoc (part : Setting) (settings : DocsSettings) (dictionary : part.isDictionary)
    (h : DocsSettings.ofSetting part = .ok settings) :
    Answers Workspaces.ofSetting (.enabled false) (part.members.get? "workspaces")
        settings.workspaces ∧
      Answers flag false (part.members.get? "findTypedocFile") settings.findTypedocFile ∧
      Answers texts ({} : DocsSettings).entryPoints (part.members.get? "entryPoints")
        settings.entryPoints ∧
      Answers path ({} : DocsSettings).out (part.members.get? "out") settings.out := by
  cases part with
  | scalar => cases dictionary
  | list => cases dictionary
  | dict origin members =>
    obtain ⟨entryPoints, entryPointsRead, h⟩ := (bind_eq_ok_iff _ _ _).mp h
    obtain ⟨findTypedocFile, findTypedocFileRead, h⟩ := (bind_eq_ok_iff _ _ _).mp h
    obtain ⟨out, outRead, h⟩ := (bind_eq_ok_iff _ _ _).mp h
    obtain ⟨workspaces, workspacesRead, h⟩ := (bind_eq_ok_iff _ _ _).mp h
    cases h
    exact ⟨answers_of_readMember _ _ _ workspacesRead,
      answers_of_readMember _ _ _ findTypedocFileRead,
      answers_of_readMember _ _ _ entryPointsRead, answers_of_readMember _ _ _ outRead⟩

theorem answers_config (s : Setting) (config : Config) (dictionary : s.isDictionary)
    (h : Config.ofSetting s = .ok config) :
    Answers text ({} : Config).name (s.members.get? "name") config.name ∧
      Answers optionalPath none (s.members.get? "tsconfig") config.tsconfig ∧
      Answers BuildSettings.ofSetting {} (s.members.get? "build") config.build ∧
      Answers LintSettings.ofSetting {} (s.members.get? "eslint") config.eslint ∧
      Answers DocsSettings.ofSetting {} (s.members.get? "typedoc") config.typedoc := by
  cases s with
  | scalar => cases dictionary
  | list => cases dictionary
  | dict origin members =>
    obtain ⟨build, buildRead, h⟩ := (bind_eq_ok_iff _ _ _).mp h
    obtain ⟨eslint, eslintRead, h⟩ := (bind_eq_ok_iff _ _ _).mp h
    obtain ⟨name, nameRead, h⟩ := (bind_eq_ok_iff _ _ _).mp h
    obtain ⟨tsconfig, tsconfigRead, h⟩ := (bind_eq_ok_iff _ _ _).mp h
    obtain ⟨typedoc, typedocRead, h⟩ := (bind_eq_ok_iff _ _ _).mp h
    cases h
    exact ⟨answers_of_readMember _ _ _ nameRead,
      answers_of_readMember _ _ _ tsconfigRead, answers_of_readMember _ _ _ buildRead,
      answers_of_readMember _ _ _ eslintRead, answers_of_readMember _ _ _ typedocRead⟩

/-- A configuration that is read from a setting whose sections are dictionaries has for each leaf
what the part there reads as. -/
theorem answers_of_ofSetting (s : Setting) (config : Config) (h : Config.ofSetting s = .ok config)
    (leaf : Leaf) (opened : s.Open leaf.keys) :
    Answers leaf.read (leaf.get {}) (s.at? leaf.keys) (leaf.get config) := by
  have whole : s.isDictionary := by
    cases leaf <;> exact opened.1
  obtain ⟨name, tsconfig, build, eslint, typedoc⟩ := answers_config s config whole h
  cases leaf with
  | name =>
    rw [Leaf.keys, at?_singleton]
    exact name
  | tsconfig =>
    rw [Leaf.keys, at?_singleton]
    exact tsconfig
  | esm =>
    exact answers_in_section BuildSettings.esm build fun part there read =>
      (answers_build part _ (opened.2 part there).1 read).1
  | minify =>
    exact answers_in_section BuildSettings.minify build fun part there read =>
      (answers_build part _ (opened.2 part there).1 read).2.1
  | provideDocs =>
    exact answers_in_section BuildSettings.provideDocs build fun part there read =>
      (answers_build part _ (opened.2 part there).1 read).2.2.1
  | uploader =>
    exact answers_in_section BuildSettings.uploader build fun part there read =>
      (answers_build part _ (opened.2 part there).1 read).2.2.2.1
  | mode =>
    exact answers_in_section BuildSettings.mode build fun part there read =>
      (answers_build part _ (opened.2 part there).1 read).2.2.2.2
  | fix =>
    exact answers_in_section LintSettings.fix eslint fun part there read =>
      (answers_eslint part _ (opened.2 part there).1 read).1
  | extensions =>
    exact answers_in_section LintSettings.extensions eslint fun part there read =>
      (answers_eslint part _ (opened.2 part there).1 read).2
  | workspaces =>
    exact answers_in_section DocsSettings.workspaces typedoc fun part there read =>
      (answers_typedoc part _ (opened.2 part there).1 read).1
  | findTypedocFile =>
    exact answers_in_section DocsSettings.findTypedocFile typedoc fun part there read =>
      (answers_typedoc part _ (opened.2 part there).1 read).2.1
  | entryPoints =>
    exact answers_in_section DocsSettings.entryPoints typedoc fun part there read =>
      (answers_typedoc part _ (opened.2 part there).1 read).2.2.1
  | out =>
    exact answers_in_section DocsSettings.out typedoc fun part there read =>
      (answers_typedoc part _ (opened.2 part there).1 read).2.2.2

end Setting

end TsWorkshop
