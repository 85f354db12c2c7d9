import TsWorkshop.Proofs.Config.Inline
import TsWorkshop.Proofs.Config.Layers
import TsWorkshop.Proofs.Config.Sections

/-!
Setting one leaf from the environment. The variable of a leaf is laid over everything else that the
environment sets (`layer_insert`), so a readable value in it is what the leaf has, if the path that
the variable sets is the path that the leaf is read from. Variables set paths in lower case, which
leaves out the leaves with a capital letter in a key: their variables change nothing
(`Leaf.overridable_iff`).
-/

namespace TsWorkshop

/-! ### The layer of the environment -/

namespace Environment

/-- What a variable lays over the layer, at the end of its path. -/
def variableSetting (text : String) (path : List String) : Setting :=
  .along .environment (.ofData .environment (Inline.ofText text)) path

theorem ordered_variableSetting (text : String) (path : List String) :
    (variableSetting text path).Ordered :=
  Setting.ordered_along _ _ (Setting.ordered_ofData _ _) path

/-- What one more variable makes of the layer. -/
theorem layer_concat (environment : Environment) (name text : String) :
    layer (environment ++ [(name, text)]) =
      match leafPath? name with
      | some path => environment.layer.overlaid (variableSetting text path)
      | none => environment.layer := by
  rw [layer, List.foldl_append]
  cases path : leafPath? name with
  | none => simp [leaf?, path, layer]
  | some path' => simp [leaf?, path, layer, variableSetting, Setting.ofData_nested]

/-- No variable sets a part at the path, below it, or around it. -/
def Spares (environment : Environment) (path : List String) : Prop :=
  ∀ name ∈ environment.keys, ∀ path', leafPath? name = some path' → Setting.Parted path' path

theorem Spares.of_append (left right : Environment) (path : List String)
    (spared : Spares (left ++ right) path) : left.Spares path ∧ right.Spares path := by
  refine ⟨fun name inside => spared name ?_, fun name inside => spared name ?_⟩
  · simp [inside]
  · simp [inside]

/-- A path that is spared stays open. -/
theorem open_layer (environment : Environment) (path : List String)
    (spared : environment.Spares path) : environment.layer.Open path := by
  induction environment using List.reverseRecOn with
  | nil =>
    cases path with
    | nil => trivial
    | cons key rest => exact ⟨rfl, fun _ there => by cases there⟩
  | append_singleton environment entry ih =>
    obtain ⟨name, text⟩ := entry
    obtain ⟨earlier, last⟩ := spared.of_append
    rw [layer_concat]
    cases sets : leafPath? name with
    | none => exact ih earlier
    | some path' =>
      exact Setting.open_overlaid _ _ path (ih earlier) (ordered_variableSetting text path')
        (Setting.open_along _ _ path' path (last name (by simp) path' sets))

/-- A variable whose path the later ones spare can be laid over all of them. -/
theorem layer_insert (before after : Environment) (name text : String) (path : List String)
    (sets : leafPath? name = some path) (spared : after.Spares path) :
    layer (before ++ (name, text) :: after) =
      (layer (before ++ after)).overlaid (variableSetting text path) := by
  induction after using List.reverseRecOn with
  | nil => rw [layer_concat, sets, List.append_nil]
  | append_singleton after entry ih =>
    obtain ⟨name', text'⟩ := entry
    obtain ⟨earlier, last⟩ := spared.of_append
    rw [← List.cons_append, ← List.append_assoc, ← List.append_assoc, layer_concat, layer_concat,
      ih earlier]
    cases sets' : leafPath? name' with
    | none => rfl
    | some path' =>
      have parted := last name' (by simp) path' sets'
      have ordered := (Config.layered_environment (before ++ after)).1
      exact (Setting.laidOver_along_comm .environment _ _ path' path parted
        (some (layer (before ++ after))) fun s same => Option.some.inj same ▸ ordered).symm

end Environment

/-! ### Layers below the command line -/

namespace Config

variable (fs : FileSystem) (cwd : Path) (source : Option ConfigSource)

/-- The built-in values with the file's layer over them. -/
def baseLayer : Setting :=
  .stacked defaultLayer (source.bind fun source => (source.layer fs cwd).toOption).toList

theorem stacked_layers (environment : Environment) :
    Setting.stacked defaultLayer (layers fs cwd environment source {}) =
      .dict .overrides ((baseLayer fs cwd source).overlaid environment.layer).members := rfl

theorem layered_baseLayer : Layered (baseLayer fs cwd source) := by
  unfold baseLayer
  cases there : source.bind fun source => (source.layer fs cwd).toOption with
  | none => exact layered_defaultLayer
  | some layer =>
    have listed : layer ∈ layers fs cwd [] source {} := by simp [layers, there]
    exact layered_overlaid _ _ layered_defaultLayer
      (layered_of_mem_layers fs cwd [] source {} layer listed)

/-- Whether a configuration can be loaded depends on the environment through its layer alone. -/
theorem load_of_ofSetting (environment environment' : Environment) (overrides : Overrides)
    (config config' : Config) (loaded : load fs cwd environment source overrides = .ok config)
    (read : ofSetting (.stacked defaultLayer (layers fs cwd environment' source overrides)) =
      .ok config') : load fs cwd environment' source overrides = .ok config' := by
  unfold load layers at *
  cases source with
  | none => exact (mapError_eq_ok_iff _ _ _).mpr read
  | some source =>
    dsimp only at loaded ⊢
    cases outcome : source.layer fs cwd with
    | error e =>
      rw [outcome] at loaded
      cases e <;> cases loaded
    | ok layer =>
      rw [Option.bind_some, outcome] at read
      exact (mapError_eq_ok_iff _ _ _).mpr read

/-- A configuration that is loaded is read from the environment's layer over the file's. -/
theorem ofSetting_overlaid_environment (environment : Environment) (config : Config)
    (loaded : load fs cwd environment source {} = .ok config) :
    ofSetting ((baseLayer fs cwd source).overlaid environment.layer) = .ok config := by
  have read := ofSetting_of_load fs cwd environment source {} config loaded
  have dictionary := (layered_overlaid _ _ (layered_baseLayer fs cwd source)
    (layered_environment environment)).2
  rw [stacked_layers] at read
  cases whole : (baseLayer fs cwd source).overlaid environment.layer with
  | scalar | list =>
    rw [whole] at dictionary
    cases dictionary
  | dict origin members =>
    rw [whole] at read
    exact Setting.ofSetting_members _ config read origin

/-- One more variable is laid over what the configuration is read from without it. -/
theorem load_variable (before after : Environment) (config config' : Config) (name text : String)
    (path : List String) (sets : Environment.leafPath? name = some path)
    (spared : Environment.Spares (before ++ after) path)
    (loaded : load fs cwd (before ++ after) source {} = .ok config)
    (plain : (Setting.ofData .environment (Inline.ofText text)).isDictionary = false)
    (read : ofSetting (((baseLayer fs cwd source).overlaid
        (Environment.layer (before ++ after))).overlaid
      (Environment.variableSetting text path)) = .ok config') :
    load fs cwd (before ++ (name, text) :: after) source {} = .ok config' := by
  refine load_of_ofSetting fs cwd source _ _ {} config config' loaded ?_
  have base := layered_baseLayer fs cwd source
  have layer := layered_environment (before ++ after)
  rw [stacked_layers, Environment.layer_insert before after name text path sets
      spared.of_append.2, Environment.variableSetting,
    Setting.overlaid_along_assoc _ _ plain path _ _ base.1 layer.1
      (Environment.open_layer _ path spared)]
  exact Setting.ofSetting_members _ config' read .overrides

end Config

/-! ### The variable of a leaf -/

namespace Leaf

/-- The name of the variable for a leaf: its keys in upper case behind the mark. -/
def variableName (leaf : Leaf) : String :=
  Environment.leafMark ++ Text.join "__" (leaf.keys.map Text.asciiUpper)

/-- The path that the variable for a leaf sets. -/
def variablePath (leaf : Leaf) : List String := leaf.keys.map Text.asciiLower

/-- Only a capital letter in a key keeps the variable of a leaf from the leaf's own path. -/
theorem variablePath_eq (leaf : Leaf) :
    leaf.variablePath = match leaf with
      | provideDocs => ["build", "providedocs"]
      | findTypedocFile => ["typedoc", "findtypedocfile"]
      | entryPoints => ["typedoc", "entrypoints"]
      | other => other.keys := by
  cases leaf <;> rfl

theorem leafPath?_variableName (leaf : Leaf) :
    Environment.leafPath? leaf.variableName = some leaf.variablePath := by
  cases leaf <;> decide +kernel

/-- Whatever the file sets, and whatever the environment sets elsewhere, the leaf has the value that
its variable is set to, if a configuration can be loaded without the variable. -/
def Overridable (leaf : Leaf) : Prop :=
  ∀ (fs : FileSystem) (cwd : Path) (source : Option ConfigSource) (before after : Environment)
    (config : Config) (text : String) (value : leaf.Value),
    Environment.Spares (before ++ after) leaf.variablePath →
    Config.load fs cwd (before ++ after) source {} = .ok config →
    leaf.read (.ofData .environment (Inline.ofText text)) = .ok value →
    ∃ config', Config.load fs cwd (before ++ (leaf.variableName, text) :: after) source {} =
        .ok config' ∧ leaf.get config' = value

/-- The variable of the leaf changes nothing, if no layer sets a section other than by a dictionary
and a configuration can be loaded without the variable. -/
def Unheeded (leaf : Leaf) : Prop :=
  ∀ (fs : FileSystem) (cwd : Path) (source : Option ConfigSource) (before after : Environment)
    (config : Config) (text : String) (value : leaf.Value),
    Environment.Spares (before ++ after) leaf.variablePath →
    Config.load fs cwd (before ++ after) source {} = .ok config →
    leaf.read (.ofData .environment (Inline.ofText text)) = .ok value →
    (∀ layer ∈ Config.layers fs cwd (before ++ after) source {}, Config.Sectioned layer) →
    Config.load fs cwd (before ++ (leaf.variableName, text) :: after) source {} = .ok config

theorem overridable_of_variablePath (leaf : Leaf) (same : leaf.variablePath = leaf.keys) :
    leaf.Overridable := by
  intro fs cwd source before after config text value spared loaded reads
  have plain := leaf.isDictionary_of_read_inline .environment text value reads
  obtain ⟨config', read, got⟩ := Setting.ofSetting_overlaid_leaf _ config
    (Config.ofSetting_overlaid_environment fs cwd source _ config loaded) .environment leaf _ plain
    value reads
  refine ⟨config', ?_, got⟩
  refine Config.load_variable fs cwd source before after config config' _ text leaf.variablePath
    leaf.leafPath?_variableName spared loaded plain ?_
  rw [Environment.variableSetting, same]
  exact read

theorem unheeded_of_variablePath (leaf : Leaf) (other : leaf.variablePath ≠ leaf.keys) :
    leaf.Unheeded := by
  intro fs cwd source before after config text value spared loaded reads sectioned
  have plain := leaf.isDictionary_of_read_inline .environment text value reads
  refine Config.load_variable fs cwd source before after config config _ text leaf.variablePath
    leaf.leafPath?_variableName spared loaded plain ?_
  have read := Config.ofSetting_overlaid_environment fs cwd source _ config loaded
  have opened : ((Config.baseLayer fs cwd source).overlaid
      (Environment.layer (before ++ after))).Open leaf.keys := by
    let files := (source.bind fun source => (source.layer fs cwd).toOption).toList
    have base := Config.open_of_sectioned _ Config.layered_defaultLayer
      Config.sectioned_defaultLayer leaf
    suffices usable : ∀ layer ∈ Environment.layer (before ++ after) :: files,
        layer.Ordered ∧ layer.Open leaf.keys from Setting.open_stacked base usable
    intro layer inside
    have listed : layer ∈ Config.layers fs cwd (before ++ after) source {} := by
      simp only [Config.layers, List.mem_append, List.mem_cons] at inside ⊢
      tauto
    have layered := Config.layered_of_mem_layers fs cwd _ source {} layer listed
    exact ⟨layered.1, Config.open_of_sectioned layer layered (sectioned layer listed) leaf⟩
  have dictionary (name key : String) (keys : leaf.keys = [name, key]) :
      (((Config.baseLayer fs cwd source).overlaid
        (Environment.layer (before ++ after))).members.get? name).all Setting.isDictionary := by
    rw [keys] at opened
    rw [Option.all_eq_true]
    exact fun part there => (opened.2 part there).1
  rw [Environment.variableSetting]
  cases leaf with
  | provideDocs =>
    rw [variablePath_eq]
    exact Setting.ofSetting_overlaid_unread _ config read _ _ plain "build" "providedocs"
      (dictionary _ _ rfl) (.inl ⟨rfl, by decide⟩)
  | findTypedocFile =>
    rw [variablePath_eq]
    exact Setting.ofSetting_overlaid_unread _ config read _ _ plain "typedoc" "findtypedocfile"
      (dictionary _ _ rfl) (.inr ⟨rfl, by decide⟩)
  | entryPoints =>
    rw [variablePath_eq]
    exact Setting.ofSetting_overlaid_unread _ config read _ _ plain "typedoc" "entrypoints"
      (dictionary _ _ rfl) (.inr ⟨rfl, by decide⟩)
  | _ => exact absurd (variablePath_eq _) other

/-- The leaves with a capital letter in a key. -/
theorem variablePath_eq_keys_iff (leaf : Leaf) :
    leaf.variablePath = leaf.keys ↔
      leaf ∉ [Leaf.provideDocs, Leaf.findTypedocFile, Leaf.entryPoints] := by
  rw [variablePath_eq]
  cases leaf <;> decide

theorem ofText_true : Inline.ofText "true" = .scalar (.bool true) := by
  simp [Inline.ofText, Inline.value?, Inline.bareValue?, Inline.dropGap, Inline.isGap,
    Text.stripStart]

theorem ofText_brackets : Inline.ofText "[]" = .list [] := by
  simp [Inline.ofText, Inline.value?, Inline.bareValue?, Inline.items?, Inline.dropGap,
    Inline.isGap, Text.stripStart]

/-- A value other than the built-in one that the variable of a leaf can hold. -/
theorem exists_text (leaf : Leaf)
    (listed : leaf ∈ [Leaf.provideDocs, Leaf.findTypedocFile, Leaf.entryPoints]) :
    ∃ text value, leaf.read (.ofData .environment (Inline.ofText text)) = .ok value ∧
      value ≠ leaf.get {} := by
  simp only [List.mem_cons, List.not_mem_nil, or_false] at listed
  rcases listed with rfl | rfl | rfl
  · exact ⟨"true", true, by rw [ofText_true]; rfl, fun same => by cases same⟩
  · exact ⟨"true", true, by rw [ofText_true]; rfl, fun same => by cases same⟩
  · exact ⟨"[]", [], by rw [ofText_brackets]; rfl, fun same => by cases same⟩

/-- A leaf can be set by its own variable, whatever the file says, exactly if its keys are written
in lower case. The variables of the other leaves are not heeded. -/
theorem overridable_iff (leaf : Leaf) :
    (leaf.Overridable ↔
      leaf ∉ [Leaf.provideDocs, Leaf.findTypedocFile, Leaf.entryPoints]) ∧
    (leaf ∈ [Leaf.provideDocs, Leaf.findTypedocFile, Leaf.entryPoints] → leaf.Unheeded) := by
  have unheeded (listed : leaf ∈ [Leaf.provideDocs, Leaf.findTypedocFile, Leaf.entryPoints]) :
      leaf.Unheeded :=
    leaf.unheeded_of_variablePath fun same => leaf.variablePath_eq_keys_iff.mp same listed
  refine ⟨⟨fun overridable listed => ?_, fun other => ?_⟩, unheeded⟩
  · obtain ⟨text, value, reads, different⟩ := leaf.exists_text listed
    have spared : Environment.Spares ([] ++ []) leaf.variablePath := by simp [Environment.Spares]
    have loaded : Config.load {} "/" ([] ++ []) none {} = .ok {} := by rfl
    have sectioned : ∀ layer ∈ Config.layers {} "/" ([] ++ []) none {},
        Config.Sectioned layer := by decide
    obtain ⟨config, changed, set⟩ := overridable {} "/" none [] [] {} text value spared loaded reads
    have same := unheeded listed {} "/" none [] [] {} text value spared loaded reads sectioned
    obtain rfl := Except.ok.inj (changed.symm.trans same)
    exact different set.symm
  · exact leaf.overridable_of_variablePath (leaf.variablePath_eq_keys_iff.mpr other)

/-- The variable of a leaf whose key has a capital letter, with a value that fits the leaf. -/
theorem provideDocs_not_overridden :
    Leaf.provideDocs.variableName = "TANUKI_BUILD__PROVIDEDOCS" ∧
      Leaf.provideDocs.read (.ofData .environment (Inline.ofText "true")) = .ok true ∧
      ∃ config, Config.load {} "/" [("TANUKI_BUILD__PROVIDEDOCS", "true")] none {} = .ok config ∧
        config.build.provideDocs = false := by
  have layer : Environment.layer [("TANUKI_BUILD__PROVIDEDOCS", "true")] =
      .dict .environment [("build", .dict .environment
        [("providedocs", .scalar .environment (.bool true))])] := by
    have path : Environment.leafPath? "TANUKI_BUILD__PROVIDEDOCS" =
        some ["build", "providedocs"] := by
      decide +kernel
    rw [Config.layer_singleton _ _ _ path, ofText_true]
    rfl
  refine ⟨by rfl, by rw [ofText_true]; rfl, {}, ?_, rfl⟩
  unfold Config.load
  rw [layer]
  rfl

end Leaf

end TsWorkshop
