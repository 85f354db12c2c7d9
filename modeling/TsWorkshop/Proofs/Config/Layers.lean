import Mathlib.Data.List.Basic
import TsWorkshop.Config.Loading
import TsWorkshop.Proofs.Config.Leaves
import TsWorkshop.Proofs.FileSystem.Path

/-!
Where the leaves of a loaded configuration come from. Settings that are laid over each other have
along keys what the first of them has (`at?_stacked_of_some`), unless several spell it as
dictionaries, which are combined. Every leaf of a loaded configuration is therefore what the first
layer that sets it says, and the built-in value if none does (`load_resolves_leaves`).
-/

namespace TsWorkshop

namespace Setting

/-- Settings laid over a first one, the uppermost given first. -/
def stacked (base : Setting) (layers : List Setting) : Setting :=
  layers.foldr (fun layer below => below.overlaid layer) base

/-- Whether a dictionary stands where keys lead to. -/
def hasDictionary (keys : List String) (s : Setting) : Bool := (s.at? keys).any isDictionary

theorem open_overlaid (earlier later : Setting) (keys : List String) (he : earlier.Open keys)
    (ordered : Ordered later) (hl : later.Open keys) : (earlier.overlaid later).Open keys := by
  induction keys generalizing earlier later with
  | nil => trivial
  | cons key rest ih =>
    obtain ⟨dictionary, inside⟩ := hl
    refine ⟨by rw [isDictionary_overlaid, dictionary], fun part there => ?_⟩
    rw [members_overlaid earlier later dictionary,
      get?_overlaidMembers _ _ ordered.ascending.nodup_keys] at there
    cases new : later.members.get? key with
    | none =>
      rw [new, laid_none] at there
      exact he.2 part there
    | some upper =>
      rw [new] at there
      cases old : earlier.members.get? key with
      | none =>
        rw [old, none_laid] at there
        cases there
        exact inside part new
      | some lower =>
        rw [old] at there
        cases there
        exact ih lower upper (he.2 lower old) (ordered.part key upper new) (inside upper new)

variable {base : Setting} {layers : List Setting} {keys : List String}

theorem open_stacked (hb : base.Open keys)
    (usable : ∀ layer ∈ layers, Ordered layer ∧ layer.Open keys) :
    (stacked base layers).Open keys := by
  induction layers with
  | nil => exact hb
  | cons layer rest ih =>
    have here := usable layer (by simp)
    have below := ih fun other inside => usable other (List.mem_cons_of_mem _ inside)
    exact open_overlaid _ layer keys below here.1 here.2

theorem at?_stacked_cons (layer : Setting) (ordered : Ordered layer) (opened : layer.Open keys) :
    (stacked base (layer :: layers)).at? keys =
      laid ((stacked base layers).at? keys) (layer.at? keys) :=
  at?_overlaid _ layer keys ordered opened

/-- What no layer sets is as it was. -/
theorem at?_stacked_of_none (usable : ∀ layer ∈ layers, Ordered layer ∧ layer.Open keys)
    (unset : layers.findSome? (fun layer => layer.at? keys) = none) :
    (stacked base layers).at? keys = base.at? keys := by
  induction layers with
  | nil => rfl
  | cons layer rest ih =>
    have here := usable layer (by simp)
    have below := ih fun other inside => usable other (List.mem_cons_of_mem _ inside)
    rw [List.findSome?_cons] at unset
    rw [at?_stacked_cons layer here.1 here.2]
    cases there : layer.at? keys with
    | none =>
      rw [there] at unset
      rw [laid_none, below unset]
    | some part =>
      rw [there] at unset
      cases unset

/-- A dictionary comes of dictionaries only. -/
theorem isDictionary_stacked (usable : ∀ layer ∈ layers, Ordered layer ∧ layer.Open keys)
    (part : Setting) (first : layers.findSome? (fun layer => layer.at? keys) = some part) :
    ∃ whole, (stacked base layers).at? keys = some whole ∧
      whole.isDictionary = part.isDictionary := by
  induction layers with
  | nil => cases first
  | cons layer rest ih =>
    have here := usable layer (by simp)
    have below := ih fun other inside => usable other (List.mem_cons_of_mem _ inside)
    rw [List.findSome?_cons] at first
    rw [at?_stacked_cons layer here.1 here.2]
    cases there : layer.at? keys with
    | none =>
      rw [there] at first
      rw [laid_none]
      exact below first
    | some upper =>
      rw [there] at first
      cases first
      cases (stacked base rest).at? keys with
      | none => exact ⟨part, rfl, rfl⟩
      | some lower => exact ⟨_, rfl, isDictionary_overlaid lower part⟩

theorem hasDictionary_stacked (usable : ∀ layer ∈ layers, Ordered layer ∧ layer.Open keys)
    (plain : base.hasDictionary keys = false) (others : layers.countP (hasDictionary keys) = 0) :
    (stacked base layers).hasDictionary keys = false := by
  unfold hasDictionary
  cases first : layers.findSome? (fun layer => layer.at? keys) with
  | none =>
    rw [at?_stacked_of_none usable first]
    exact plain
  | some part =>
    obtain ⟨whole, there, same⟩ := isDictionary_stacked usable part first
    obtain ⟨layer, inside, here⟩ := List.exists_of_findSome?_eq_some first
    have bare := List.countP_eq_zero.mp others layer inside
    rw [hasDictionary, here] at bare
    rw [there, Option.any_some, same]
    simpa using bare

/-- The uppermost layer that sets a part replaces it as a whole, unless it sets a dictionary where
another layer does so too. -/
theorem at?_stacked_of_some (usable : ∀ layer ∈ layers, Ordered layer ∧ layer.Open keys)
    (plain : base.hasDictionary keys = false) (part : Setting)
    (first : layers.findSome? (fun layer => layer.at? keys) = some part)
    (alone : part.isDictionary → layers.countP (hasDictionary keys) ≤ 1) :
    (stacked base layers).at? keys = some part := by
  induction layers with
  | nil => cases first
  | cons layer rest ih =>
    have here := usable layer (by simp)
    have later : ∀ other ∈ rest, Ordered other ∧ other.Open keys :=
      fun other inside => usable other (List.mem_cons_of_mem _ inside)
    rw [List.findSome?_cons] at first
    rw [at?_stacked_cons layer here.1 here.2]
    cases there : layer.at? keys with
    | none =>
      rw [there] at first
      rw [laid_none]
      refine ih later first fun dictionary => ?_
      have few := alone dictionary
      rw [List.countP_cons] at few
      omega
    | some upper =>
      rw [there] at first
      cases first
      cases old : (stacked base rest).at? keys with
      | none => rfl
      | some lower =>
        rw [laid]
        congr 1
        cases shape : part.isDictionary with
        | false => exact overlaid_of_not_isDictionary lower part shape
        | true =>
          -- no layer further down has a dictionary here, so there is nothing to combine with
          have few := alone shape
          have counts : hasDictionary keys layer = true := by simp [hasDictionary, there, shape]
          rw [List.countP_cons, if_pos counts] at few
          have bare := hasDictionary_stacked later plain (by omega)
          rw [hasDictionary, old] at bare
          exact overlaid_of_earlier lower part (here.1.at? keys part there) (by simpa using bare)

end Setting

/-! ### The layers of a configuration -/

namespace Config

/-- A layer whose keys increase and which is a dictionary. -/
def Layered (layer : Setting) : Prop := layer.Ordered ∧ layer.isDictionary

theorem layered_dict (origin : Origin) (members : List (String × Data)) :
    Layered (.ofData origin (.dict members)) :=
  ⟨Setting.ordered_ofData origin _, rfl⟩

theorem layered_overlaid (earlier later : Setting) (he : Layered earlier) (hl : Layered later) :
    Layered (earlier.overlaid later) :=
  ⟨Setting.Ordered.overlaid earlier he.1 later hl.1, by
    rw [Setting.isDictionary_overlaid]
    exact hl.2⟩

theorem layered_overrides (overrides : Overrides) : Layered overrides.layer :=
  ⟨Setting.ordered_ofData _ _, rfl⟩

/-- Every variable that sets something sets it below the top. -/
theorem layered_leaf (name value : String) (data : Data)
    (h : Environment.leaf? name value = some data) :
    Layered (.ofData .environment data) := by
  obtain ⟨path, named, rfl⟩ := Option.map_eq_some_iff.mp h
  cases path with
  | cons key rest =>
    exact layered_dict .environment [(key, Environment.nested (Inline.ofText value) rest)]
  | nil =>
    unfold Environment.leafPath? at named
    obtain ⟨rest, -, parts⟩ := Option.bind_eq_some_iff.mp named
    dsimp only at parts
    split at parts
    · cases parts
    · simp [Text.split, Text.splitChars_ne_nil] at parts

theorem layered_environment (environment : Environment) : Layered environment.layer := by
  have nothing : Layered (.dict .environment []) :=
    ⟨Setting.Ordered.dict _ _ List.Pairwise.nil (by simp), rfl⟩
  unfold Environment.layer
  refine List.foldlRecOn environment _ nothing fun layer layered entry _ => ?_
  obtain ⟨name, value⟩ := entry
  dsimp only
  split
  · rename_i data set
    exact layered_overlaid layer _ layered (layered_leaf name value data set)
  · exact layered

theorem layered_source (fs : FileSystem) (cwd : Path) (source : ConfigSource) (layer : Setting)
    (h : source.layer fs cwd = .ok layer) : Layered layer := by
  unfold ConfigSource.layer at h
  split at h
  · split at h
    · cases h
    · have h := (mapError_eq_ok_iff _ _ _).mp h
      unfold ConfigSource.packageLayer at h
      split at h
      · rename_i value _ origin members same
        cases h
        exact ⟨same ▸ Setting.ordered_ofData .package _, rfl⟩
      · cases h
  · have h := (mapError_eq_ok_iff _ _ _).mp h
    unfold ConfigSource.fileLayer at h
    split at h
    · cases h
    · split at h
      · cases h
        exact layered_dict _ _
      · cases h

/-- A layer in which each section that appears is a dictionary. -/
def Sectioned (layer : Setting) : Prop :=
  ∀ name ∈ ["build", "eslint", "typedoc"], (layer.at? [name]).all Setting.isDictionary

instance (layer : Setting) : Decidable (Sectioned layer) :=
  inferInstanceAs (Decidable (∀ name ∈ _, _))

theorem open_of_sectioned (layer : Setting) (layered : Layered layer) (sectioned : Sectioned layer)
    (leaf : Leaf) : layer.Open leaf.keys := by
  have inside (name key : String) (known : name ∈ ["build", "eslint", "typedoc"]) :
      layer.Open [name, key] := by
    refine ⟨layered.2, fun part there => ⟨?_, by simp [Setting.Open]⟩⟩
    have dictionary := sectioned name known
    rwa [Setting.at?_singleton, there, Option.all_some] at dictionary
  cases leaf with
  | name => exact ⟨layered.2, by simp [Setting.Open]⟩
  | tsconfig => exact ⟨layered.2, by simp [Setting.Open]⟩
  | _ => exact inside _ _ (by simp)

theorem layered_defaultLayer : Layered defaultLayer := ⟨Setting.ordered_ofData _ _, rfl⟩

theorem sectioned_defaultLayer : Sectioned defaultLayer := by decide

theorem hasDictionary_defaultLayer (leaf : Leaf) :
    defaultLayer.hasDictionary leaf.keys = false := by
  cases leaf <;> rfl

theorem ofSetting_defaultLayer : ofSetting defaultLayer = .ok {} := by rfl

/-! ### Loading -/

/-- The layers above the built-in values, the one that counts most given first. -/
def layers (fs : FileSystem) (cwd : Path) (environment : Environment)
    (source : Option ConfigSource) (overrides : Overrides) : List Setting :=
  [overrides.layer, environment.layer] ++
    (source.bind fun source => (source.layer fs cwd).toOption).toList

variable (fs : FileSystem) (cwd : Path) (environment : Environment) (source : Option ConfigSource)
  (overrides : Overrides)

theorem layered_of_mem_layers :
    ∀ layer ∈ layers fs cwd environment source overrides, Layered layer := by
  intro layer inside
  simp only [layers, List.mem_append, List.mem_cons, List.not_mem_nil, or_false,
    Option.mem_toList] at inside
  rcases inside with (rfl | rfl) | file
  · exact layered_overrides overrides
  · exact layered_environment environment
  · obtain ⟨source, -, read⟩ := Option.bind_eq_some_iff.mp file
    cases outcome : source.layer fs cwd with
    | error e =>
      rw [outcome] at read
      cases read
    | ok layer' =>
      rw [outcome] at read
      cases read
      exact layered_source fs cwd source layer outcome

/-- A configuration that is loaded is read from the layers, laid over the built-in values. -/
theorem ofSetting_of_load (config : Config)
    (loaded : load fs cwd environment source overrides = .ok config) :
    ofSetting (Setting.stacked defaultLayer (layers fs cwd environment source overrides)) =
      .ok config := by
  unfold load at loaded
  cases source with
  | none => exact (mapError_eq_ok_iff _ _ _).mp loaded
  | some source =>
    dsimp only at loaded
    unfold layers
    cases outcome : source.layer fs cwd with
    | error e =>
      rw [outcome] at loaded
      cases e <;> cases loaded
    | ok layer =>
      rw [outcome] at loaded
      rw [Option.bind_some, outcome]
      exact (mapError_eq_ok_iff _ _ _).mp loaded

/-- Where the layers' sections are dictionaries, each leaf of a loaded configuration is what the
first layer that sets it says, as a whole, and has its built-in value if none does. Words that are
spelled as dictionaries are the exception: two layers that do so are combined key by key. -/
theorem load_resolves_leaves (config : Config)
    (loaded : load fs cwd environment source overrides = .ok config)
    (sectioned : ∀ layer ∈ layers fs cwd environment source overrides, Sectioned layer)
    (leaf : Leaf)
    (alone : leaf.isWord →
      ((layers fs cwd environment source overrides).findSome? fun layer =>
        layer.at? leaf.keys).any Setting.isDictionary →
      (layers fs cwd environment source overrides).countP (Setting.hasDictionary leaf.keys) ≤ 1) :
    Setting.Answers leaf.read (leaf.get {})
      ((layers fs cwd environment source overrides).findSome? fun layer => layer.at? leaf.keys)
      (leaf.get config) := by
  have layered := layered_of_mem_layers fs cwd environment source overrides
  have read := ofSetting_of_load fs cwd environment source overrides config loaded
  generalize layers fs cwd environment source overrides = above at *
  have usable : ∀ layer ∈ above, layer.Ordered ∧ layer.Open leaf.keys := fun layer inside =>
    ⟨(layered layer inside).1,
      open_of_sectioned layer (layered layer inside) (sectioned layer inside) leaf⟩
  have base := open_of_sectioned defaultLayer layered_defaultLayer sectioned_defaultLayer leaf
  have answers := Setting.answers_of_ofSetting _ config read leaf (Setting.open_stacked base usable)
  cases first : above.findSome? (fun layer => layer.at? leaf.keys) with
  | none =>
    have unset := Setting.answers_of_ofSetting _ {} ofSetting_defaultLayer leaf base
    rw [Setting.at?_stacked_of_none usable first] at answers
    rw [answers.unique unset]
    exact Setting.Answers.absent
  | some part =>
    have plain := hasDictionary_defaultLayer leaf
    obtain ⟨whole, there, shape⟩ :
        ∃ whole, (Setting.stacked defaultLayer above).at? leaf.keys = some whole ∧
          whole.isDictionary = part.isDictionary :=
      Setting.isDictionary_stacked usable part first
    rw [there] at answers
    have single : part.isDictionary → above.countP (Setting.hasDictionary leaf.keys) ≤ 1 := by
      intro dictionary
      cases word : leaf.isWord with
      | true =>
        refine alone word ?_
        rw [first, Option.any_some, dictionary]
      | false =>
        have reads := (Setting.answers_some_iff whole).mp answers
        have bare := leaf.isDictionary_of_read whole _ reads word
        rw [shape, dictionary] at bare
        cases bare
    have same := Setting.at?_stacked_of_some usable plain part first single
    rw [there] at same
    cases same
    exact answers

/-- A project with nothing but a configuration file. -/
def written (text : String) : FileSystem :=
  { entries := [([".tanukirc.json"], .file text.toUTF8 false)] }

def writtenSource : Option ConfigSource := some { format := .json, path := "/.tanukirc.json" }

def minified : FileSystem := written "\x7b\"build\":\x7b\"minify\":true,\"mode\":\"app\"\x7d\x7d"

def modeByWord : Environment := [("TANUKI_BUILD__MODE", "lib")]

/-- The layer of a single variable that sets a leaf. -/
theorem layer_singleton (name text : String) (path : List String)
    (sets : Environment.leafPath? name = some path) :
    Environment.layer [(name, text)] = (Setting.dict .environment []).overlaid
      (.ofData .environment (Environment.nested (Inline.ofText text) path)) := by
  simp [Environment.layer, Environment.leaf?, sets]

theorem leafPath?_mode : Environment.leafPath? "TANUKI_BUILD__MODE" = some ["build", "mode"] := by
  decide +kernel

theorem ofWord_lib : Inline.ofWord (Text.trimBlank ['l', 'i', 'b']) = .text "lib" := by
  decide +kernel

theorem layer_modeByWord : modeByWord.layer =
    .dict .environment [("build", .dict .environment
      [("mode", .scalar .environment (.text "lib"))])] := by
  have value : Inline.ofText "lib" = .scalar (.text "lib") := by
    simp [Inline.ofText, Inline.value?, Inline.bareValue?, Inline.dropGap, Inline.isGap,
      Inline.isMark, Text.stripStart, ofWord_lib]
  rw [modeByWord, layer_singleton _ _ _ leafPath?_mode, value]
  rfl

def minifiedLibrary : Config := { build := { minify := true, mode := .library } }

/-- The environment chooses the mode, and what the file has beside it stays. -/
theorem load_resolves_leaves_siblings :
    ∃ config, load minified "/" modeByWord writtenSource {} = .ok config ∧
      config.build.mode = .library ∧ config.build.minify = true := by
  obtain ⟨config, loaded⟩ : ∃ config,
      load minified "/" modeByWord writtenSource {} = .ok config := by
    refine ⟨minifiedLibrary, ?_⟩
    unfold load
    rw [layer_modeByWord]
    decide +kernel
  have sectioned : ∀ layer ∈ layers minified "/" modeByWord writtenSource {}, Sectioned layer := by
    rw [layers, layer_modeByWord]
    decide +kernel
  have few : (layers minified "/" modeByWord writtenSource {}).countP
      (Setting.hasDictionary Leaf.mode.keys) ≤ 1 := by
    rw [layers, layer_modeByWord]
    decide +kernel
  have leaves := load_resolves_leaves minified "/" modeByWord writtenSource {} config loaded
    sectioned
  have mode := leaves .mode fun _ _ => few
  have minify := leaves .minify fun word => by cases word
  rw [layers, layer_modeByWord] at mode minify
  have library : Leaf.mode.get config = Leaf.mode.get minifiedLibrary :=
    mode.unique (by decide +kernel)
  have on : Leaf.minify.get config = Leaf.minify.get minifiedLibrary :=
    minify.unique (by decide +kernel)
  exact ⟨config, loaded, library, on⟩

def modeByFile : FileSystem :=
  written "\x7b\"build\":\x7b\"mode\":\x7b\"library\":null\x7d\x7d\x7d"

def modeByDictionary : Environment := [("TANUKI_BUILD__MODE", "\x7bx=lib\x7d")]

theorem layer_modeByDictionary : modeByDictionary.layer =
    .dict .environment [("build", .dict .environment [("mode", .dict .environment
      [("x", .scalar .environment (.text "lib"))])])] := by
  have key : Inline.key? ['x', '=', 'l', 'i', 'b', '\x7d'] =
      some ("x", ['=', 'l', 'i', 'b', '\x7d']) := by
    decide +kernel
  have value : Inline.ofText "\x7bx=lib\x7d" = .dict [("x", .scalar (.text "lib"))] := by
    simp [Inline.ofText, Inline.value?, Inline.bareValue?, Inline.members?, Inline.dropGap,
      Inline.isGap, Inline.isMark, Text.stripStart, ofWord_lib, key]
  rw [modeByDictionary, layer_singleton _ _ _ leafPath?_mode, value]
  rfl

/-- Two layers that spell the mode as dictionaries are combined, so that what the environment says
is never read. -/
theorem load_combines_words :
    (∀ layer ∈ layers modeByFile "/" modeByDictionary writtenSource {}, Sectioned layer) ∧
    ∃ config, load modeByFile "/" modeByDictionary writtenSource {} = .ok config ∧
      ¬ Setting.Answers Leaf.mode.read (Leaf.mode.get {})
        ((layers modeByFile "/" modeByDictionary writtenSource {}).findSome? fun layer =>
          layer.at? Leaf.mode.keys) (Leaf.mode.get config) := by
  unfold load layers
  rw [layer_modeByDictionary]
  exact ⟨by decide +kernel, { build := { mode := .library } }, by decide +kernel,
    by decide +kernel⟩

end Config

end TsWorkshop
