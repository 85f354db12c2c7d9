import TsWorkshop.Proofs.Config.Leaves
import TsWorkshop.Proofs.Config.Placing

/-!
When a configuration can be read. A dictionary is read as a section, or as a whole configuration, if
and only if each of its parts is read, the absent ones having their defaults. So a part that is laid
over a readable setting where the keys of a leaf lead is what the leaf reads as, and the rest stays
readable (`ofSetting_overlaid_leaf`).
-/

namespace TsWorkshop

namespace Setting

section Members

variable {α : Type} {read : Setting → Except Refusal α} {default value : α}

theorem readMember_eq_ok_iff (origin : Origin) (members : Assoc Setting) (key : String) :
    readMember origin members key read default = .ok value ↔
      Answers read default (members.get? key) value := by
  unfold readMember
  cases members.get? key with
  | none =>
    rw [answers_none_iff]
    exact ⟨fun h => (Except.ok.inj h).symm, fun h => h ▸ rfl⟩
  | some part =>
    rw [answers_some_iff]
    exact mapError_eq_ok_iff _ _ _

end Members

/-! ### Sections -/

theorem build_eq_ok_iff (origin : Origin) (members : Assoc Setting) (b : BuildSettings) :
    BuildSettings.ofSetting (.dict origin members) = .ok b ↔
      Answers flag false (members.get? "esm") b.esm ∧
      Answers flag false (members.get? "minify") b.minify ∧
      Answers flag false (members.get? "provideDocs") b.provideDocs ∧
      Answers Uploader.ofSetting .fs (members.get? "uploader") b.uploader ∧
      Answers BuildMode.ofSetting .app (members.get? "mode") b.mode := by
  refine ⟨answers_build (.dict origin members) b rfl, ?_⟩
  rintro ⟨esm, minify, provideDocs, uploader, mode⟩
  rw [← readMember_eq_ok_iff origin] at esm minify provideDocs uploader mode
  simp only [BuildSettings.ofSetting, esm, minify, provideDocs, uploader, mode]
  rfl

theorem eslint_eq_ok_iff (origin : Origin) (members : Assoc Setting) (l : LintSettings) :
    LintSettings.ofSetting (.dict origin members) = .ok l ↔
      Answers flag true (members.get? "fix") l.fix ∧
      Answers texts ({} : LintSettings).extensions (members.get? "extensions") l.extensions := by
  refine ⟨answers_eslint (.dict origin members) l rfl, ?_⟩
  rintro ⟨fix, extensions⟩
  rw [← readMember_eq_ok_iff origin] at fix extensions
  simp only [LintSettings.ofSetting, fix, extensions]
  rfl

theorem typedoc_eq_ok_iff (origin : Origin) (members : Assoc Setting) (d : DocsSettings) :
    DocsSettings.ofSetting (.dict origin members) = .ok d ↔
      Answers Workspaces.ofSetting (.enabled false) (members.get? "workspaces") d.workspaces ∧
      Answers flag false (members.get? "findTypedocFile") d.findTypedocFile ∧
      Answers texts ({} : DocsSettings).entryPoints (members.get? "entryPoints") d.entryPoints ∧
      Answers path ({} : DocsSettings).out (members.get? "out") d.out := by
  refine ⟨answers_typedoc (.dict origin members) d rfl, ?_⟩
  rintro ⟨workspaces, findTypedocFile, entryPoints, out⟩
  rw [← readMember_eq_ok_iff origin] at workspaces findTypedocFile entryPoints out
  simp only [DocsSettings.ofSetting, workspaces, findTypedocFile, entryPoints, out]
  rfl

theorem config_eq_ok_iff (origin : Origin) (members : Assoc Setting) (config : Config) :
    Config.ofSetting (.dict origin members) = .ok config ↔
      Answers text ({} : Config).name (members.get? "name") config.name ∧
      Answers optionalPath none (members.get? "tsconfig") config.tsconfig ∧
      Answers BuildSettings.ofSetting {} (members.get? "build") config.build ∧
      Answers LintSettings.ofSetting {} (members.get? "eslint") config.eslint ∧
      Answers DocsSettings.ofSetting {} (members.get? "typedoc") config.typedoc := by
  refine ⟨answers_config (.dict origin members) config rfl, ?_⟩
  rintro ⟨name, tsconfig, build, eslint, typedoc⟩
  rw [← readMember_eq_ok_iff origin] at name tsconfig build eslint typedoc
  simp only [Config.ofSetting, name, tsconfig, build, eslint, typedoc]
  rfl

end Setting

/-- What a configuration has under a key of its own and reads from a dictionary. -/
inductive ConfigSection where
  | build | eslint | typedoc

namespace ConfigSection

open Setting (Answers membersOf isDictionary build_eq_ok_iff eslint_eq_ok_iff typedoc_eq_ok_iff
  config_eq_ok_iff)

/-- The type of a section's values. -/
abbrev Value : ConfigSection → Type
  | build => BuildSettings
  | eslint => LintSettings
  | typedoc => DocsSettings

def key : ConfigSection → String
  | build => "build"
  | eslint => "eslint"
  | typedoc => "typedoc"

def read : (part : ConfigSection) → Setting → Except Refusal part.Value
  | build => BuildSettings.ofSetting
  | eslint => LintSettings.ofSetting
  | typedoc => DocsSettings.ofSetting

def default : (part : ConfigSection) → part.Value
  | build | eslint | typedoc => {}

def get : (part : ConfigSection) → Config → part.Value
  | build, config => config.build
  | eslint, config => config.eslint
  | typedoc, config => config.typedoc

def put : (part : ConfigSection) → part.Value → Config → Config
  | build, b, config => { config with build := b }
  | eslint, l, config => { config with eslint := l }
  | typedoc, d, config => { config with typedoc := d }

variable (part : ConfigSection) (origin : Origin)

theorem read_empty : part.read (.dict origin []) = .ok part.default := by
  cases part <;> rfl

/-- Who set a section does not matter for what it reads as. -/
theorem read_origin (origin' : Origin) (members : Assoc Setting) (value : part.Value)
    (h : part.read (.dict origin members) = .ok value) :
    part.read (.dict origin' members) = .ok value := by
  cases part with
  | build => exact (build_eq_ok_iff _ _ _).mpr ((build_eq_ok_iff _ _ _).mp h)
  | eslint => exact (eslint_eq_ok_iff _ _ _).mpr ((eslint_eq_ok_iff _ _ _).mp h)
  | typedoc => exact (typedoc_eq_ok_iff _ _ _).mpr ((typedoc_eq_ok_iff _ _ _).mp h)

/-- A section that is read stays readable as a dictionary of its members. One that lists its fields
has none, so that the defaults hold; any other section reads the same. -/
theorem read_members (old : Option Setting) (value : part.Value)
    (h : Answers part.read part.default old value) :
    ∃ value', part.read (.dict origin (membersOf old)) = .ok value' ∧
      (old.all isDictionary → value' = value) := by
  cases h with
  | absent => exact ⟨_, part.read_empty origin, fun _ => rfl⟩
  | part s _ h =>
    cases s with
    | scalar => exact ⟨_, part.read_empty origin, fun dictionary => by cases dictionary⟩
    | list => exact ⟨_, part.read_empty origin, fun dictionary => by cases dictionary⟩
    | dict origin' members => exact ⟨value, part.read_origin _ _ _ _ h, fun _ => rfl⟩

variable (members : Assoc Setting) (config : Config)
  (h : Config.ofSetting (.dict origin members) = .ok config)

include h

theorem answers : Answers part.read part.default (members.get? part.key) (part.get config) := by
  obtain ⟨-, -, build, eslint, typedoc⟩ := (config_eq_ok_iff _ _ _).mp h
  cases part with
  | build => exact build
  | eslint => exact eslint
  | typedoc => exact typedoc

/-- Another section in its place, if it can be read, is what the configuration then has. -/
theorem ofSetting_insertSorted (s : Setting) (value : part.Value)
    (found : part.read s = .ok value) :
    Config.ofSetting (.dict origin (members.insertSorted part.key s)) =
      .ok (part.put value config) := by
  obtain ⟨name, tsconfig, build, eslint, typedoc⟩ := (config_eq_ok_iff _ _ _).mp h
  rw [config_eq_ok_iff]
  cases part <;> simp only [key, Assoc.get?_insertSorted]
  · exact ⟨name, tsconfig, .part _ _ found, eslint, typedoc⟩
  · exact ⟨name, tsconfig, build, .part _ _ found, typedoc⟩
  · exact ⟨name, tsconfig, build, eslint, .part _ _ found⟩

end ConfigSection

namespace Setting

/-! ### A part laid over a readable setting -/

theorem laidOver_plain (old : Option Setting) (part : Setting)
    (plain : part.isDictionary = false) : laidOver old part = part := by
  cases old with
  | none => rfl
  | some s => exact overlaid_of_not_isDictionary s part plain

/-- A part laid over a section takes the place of the member with its key, and the whole holds what
the section then reads as. -/
theorem ofSetting_overlaid_section (name : ConfigSection) (origin : Origin) {origin' : Origin}
    {members : Assoc Setting} {config : Config}
    (h : Config.ofSetting (.dict origin' members) = .ok config) {part : Setting}
    (plain : part.isDictionary = false) :
    ∃ value, name.read (.dict origin (membersOf (members.get? name.key))) = .ok value ∧
      ((members.get? name.key).all isDictionary → value = name.get config) ∧
      ∀ key value', name.read (.dict origin
          ((membersOf (members.get? name.key)).insertSorted key part)) = .ok value' →
        Config.ofSetting ((dict origin' members).overlaid (along origin part [name.key, key])) =
          .ok (name.put value' config) := by
  obtain ⟨value, read, same⟩ :=
    name.read_members origin _ _ (name.answers origin' members config h)
  refine ⟨value, read, same, fun key value' read' => ?_⟩
  have whole := name.ofSetting_insertSorted origin' members config h _ value' read'
  rw [along, along, along, overlaid_singleton, laidOver_singleton, laidOver_plain _ _ plain]
  exact (config_eq_ok_iff _ _ _).mpr ((config_eq_ok_iff _ _ _).mp whole)

/-- A part laid over a readable setting where the keys of a leaf lead is what the leaf reads as, and
everything else can still be read. -/
theorem ofSetting_overlaid_leaf (s : Setting) (config : Config)
    (h : Config.ofSetting s = .ok config) (origin : Origin) (leaf : Leaf) (part : Setting)
    (plain : part.isDictionary = false) (value : leaf.Value)
    (reads : leaf.read part = .ok value) :
    ∃ config', Config.ofSetting (s.overlaid (along origin part leaf.keys)) = .ok config' ∧
      leaf.get config' = value := by
  cases s with
  | scalar => cases h
  | list => cases h
  | dict origin' members =>
    have found : Answers leaf.read (leaf.get {}) (some part) value := .part part value reads
    -- in each section the part is found under its own key, and the other fields as before
    cases leaf with
    | name | tsconfig =>
      obtain ⟨name, tsconfig, build, eslint, typedoc⟩ := (config_eq_ok_iff _ _ _).mp h
      refine ⟨Leaf.set _ value config, ?_, Leaf.get_set _ value config⟩
      rw [Leaf.keys, along, along, overlaid_singleton, laidOver_plain _ _ plain, config_eq_ok_iff]
      simp only [Setting.members, Assoc.get?_insertSorted]
      refine ⟨?_, ?_, build, eslint, typedoc⟩ <;> first | exact found | assumption
    | esm | minify | provideDocs | uploader | mode =>
      obtain ⟨b, read, -, whole⟩ := ofSetting_overlaid_section .build origin h plain
      obtain ⟨esm, minify, provideDocs, uploader, mode⟩ := (build_eq_ok_iff _ _ _).mp read
      refine ⟨_, whole _ (Leaf.set _ value { config with build := b }).build
        ((build_eq_ok_iff _ _ _).mpr ?_), rfl⟩
      simp only [Assoc.get?_insertSorted]
      refine ⟨?_, ?_, ?_, ?_, ?_⟩ <;> first | exact found | assumption
    | fix | extensions =>
      obtain ⟨l, read, -, whole⟩ := ofSetting_overlaid_section .eslint origin h plain
      obtain ⟨fix, extensions⟩ := (eslint_eq_ok_iff _ _ _).mp read
      refine ⟨_, whole _ (Leaf.set _ value { config with eslint := l }).eslint
        ((eslint_eq_ok_iff _ _ _).mpr ?_), rfl⟩
      simp only [Assoc.get?_insertSorted]
      refine ⟨?_, ?_⟩ <;> first | exact found | assumption
    | workspaces | findTypedocFile | entryPoints | out =>
      obtain ⟨d, read, -, whole⟩ := ofSetting_overlaid_section .typedoc origin h plain
      obtain ⟨workspaces, findTypedocFile, entryPoints, out⟩ := (typedoc_eq_ok_iff _ _ _).mp read
      refine ⟨_, whole _ (Leaf.set _ value { config with typedoc := d }).typedoc
        ((typedoc_eq_ok_iff _ _ _).mpr ?_), rfl⟩
      simp only [Assoc.get?_insertSorted]
      refine ⟨?_, ?_, ?_, ?_⟩ <;> first | exact found | assumption

/-- Who set a dictionary does not matter for what it reads as. -/
theorem ofSetting_members (s : Setting) (config : Config) (h : Config.ofSetting s = .ok config)
    (origin : Origin) : Config.ofSetting (.dict origin s.members) = .ok config := by
  cases s with
  | scalar => cases h
  | list => cases h
  | dict origin' members => exact (config_eq_ok_iff _ _ _).mpr ((config_eq_ok_iff _ _ _).mp h)

/-- A part under a key that no section reads changes nothing, unless it takes the place of a section
that lists its fields. -/
theorem ofSetting_overlaid_unread (s : Setting) (config : Config)
    (h : Config.ofSetting s = .ok config) (origin : Origin) (part : Setting)
    (plain : part.isDictionary = false) (name key : String)
    (dictionary : (s.members.get? name).all isDictionary)
    (unread : name = "build" ∧ key ∉ ["esm", "minify", "provideDocs", "uploader", "mode"] ∨
      name = "typedoc" ∧ key ∉ ["workspaces", "findTypedocFile", "entryPoints", "out"]) :
    Config.ofSetting (s.overlaid (along origin part [name, key])) = .ok config := by
  cases s with
  | scalar => cases h
  | list => cases h
  | dict origin' members =>
    rcases unread with ⟨rfl, unread⟩ | ⟨rfl, unread⟩
    · obtain ⟨b, read, same, whole⟩ := ofSetting_overlaid_section .build origin h plain
      obtain rfl := same dictionary
      refine whole key config.build ((build_eq_ok_iff _ _ _).mpr ?_)
      simp only [List.mem_cons, List.not_mem_nil, or_false, not_or] at unread
      simp only [Assoc.get?_insertSorted, unread, if_false]
      exact (build_eq_ok_iff _ _ _).mp read
    · obtain ⟨d, read, same, whole⟩ := ofSetting_overlaid_section .typedoc origin h plain
      obtain rfl := same dictionary
      refine whole key config.typedoc ((typedoc_eq_ok_iff _ _ _).mpr ?_)
      simp only [List.mem_cons, List.not_mem_nil, or_false, not_or] at unread
      simp only [Assoc.get?_insertSorted, unread, if_false]
      exact (typedoc_eq_ok_iff _ _ _).mp read

end Setting

end TsWorkshop
