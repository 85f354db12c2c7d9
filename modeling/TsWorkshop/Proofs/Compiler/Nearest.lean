import TsWorkshop.Proofs.Compiler.Run
import TsWorkshop.Proofs.FileSystem.Ancestors

/-!
What is found by going up from a directory, and where a build puts its output for it. The first
ancestor with a file is the deepest directory that has it (`nearest_firstFile?`): the ancestors come
in the order of their depth, and where a directory's path has a second spelling, the same files
stand below both. The output directory of a configuration file that was found is reckoned from the
directory that the file stands in (`buildsIn_buildDir`).
-/

namespace TsWorkshop

/-- How a search in a directory and in those above it ends: with the file of the deepest directory
that has it, or with none, exactly if there is none. `place directory` is where a directory is
looked into. -/
structure Nearest (fs : FileSystem) (start : Path) (place : Path → Path) (found : Option Path) :
    Prop where
  deepest : ∀ file, found = some file → ∃ directory : Path, directory.IsAbove start ∧
    file = place directory ∧ fs.isFile file = true ∧
      ∀ other : Path, other.IsAbove start → fs.isFile (place other) = true →
        other.steps <+: directory.steps
  missing : found = none ↔
    ∀ directory : Path, directory.IsAbove start → fs.isFile (place directory) = false

namespace Tool

theorem nearest_firstFile? (fs : FileSystem) (start : Path) (place : Path → Path)
    (absolute : start.isAbsolute = true)
    (congr : ∀ directory other : Path, directory.isAbsolute = true → other.isAbsolute = true →
      directory.steps = other.steps → fs.isFile (place directory) = fs.isFile (place other)) :
    Nearest fs start place (firstFile? fs (start.ancestors.map place)) := by
  unfold firstFile?
  constructor
  · intro file found
    obtain ⟨isFile, before, behind, parts, none⟩ := List.find?_eq_some_iff_append.mp found
    obtain ⟨below, rest, ancestors, rfl, later⟩ := List.map_eq_append_iff.mp parts
    obtain ⟨directory, above, rfl, rfl, -⟩ := List.map_eq_cons_iff.mp later
    have inside : directory ∈ start.ancestors := by simp [ancestors]
    refine ⟨directory, start.isAbove_of_mem_ancestors directory absolute inside, rfl, isFile, ?_⟩
    intro other h there
    obtain ⟨ancestor, listed, same⟩ := start.exists_ancestor other absolute h
    have root := (start.isAbove_of_mem_ancestors ancestor absolute listed).isAbsolute
    rw [← congr ancestor other root h.isAbsolute same] at there
    rw [← same]
    rw [ancestors, List.mem_append, List.mem_cons] at listed
    rcases listed with deeper | rfl | higher
    · have absent := none (place ancestor) (List.mem_map_of_mem deeper)
      simp [there] at absent
    · exact List.prefix_refl _
    · have ordered := start.pairwise_ancestors absolute
      rw [ancestors] at ordered
      exact List.rel_of_pairwise_cons (List.pairwise_append.mp ordered).2.1 higher
  · rw [List.find?_eq_none, List.forall_mem_map]
    constructor
    · intro none directory h
      obtain ⟨ancestor, listed, same⟩ := start.exists_ancestor directory absolute h
      have root := (start.isAbove_of_mem_ancestors ancestor absolute listed).isAbsolute
      rw [← congr ancestor directory root h.isAbsolute same]
      simpa using none ancestor listed
    · intro none ancestor listed
      simpa using none ancestor (start.isAbove_of_mem_ancestors ancestor absolute listed)

theorem nearest_findLocal? (fs : FileSystem) (start : Path) (name : String)
    (absolute : start.isAbsolute = true) :
    Nearest fs start (fun directory => localBin directory name) (findLocal? fs start name) := by
  apply nearest_firstFile? fs start _ absolute
  intro directory other root root' same
  apply fs.isFile_join_congr
  · simp [Path.isAbsolute_join, root]
  · simp [Path.isAbsolute_join, root']
  · have modules : Path.isAbsolute "node_modules" = false := by decide +kernel
    have programs : Path.isAbsolute ".bin" = false := by decide +kernel
    simp only [Path.steps_join, modules, programs, same]

end Tool

namespace CompilerOptions

/-- Where the options of a configuration file in a directory send the output of a build. -/
structure BuildsIn (options : CompilerOptions) (root directory build : Path) : Prop where
  isAbsolute : build.isAbsolute = true
  absolute : ∀ outDir, options.outDir = some outDir → outDir.isAbsolute = true → build = outDir
  relative : ∀ outDir, options.outDir = some outDir → outDir.isAbsolute = false →
    build = directory.join outDir
  unset : options.outDir = none → build = root.join "build"

end CompilerOptions

namespace Compiler

theorem nearest_configPath (fs : FileSystem) (root : Path) (absolute : root.isAbsolute = true) :
    Nearest fs root (fun directory => directory.join configName)
      (configPath fs root none).toOption := by
  have found : (configPath fs root none).toOption = nearestConfig? fs root := by
    unfold configPath
    cases nearestConfig? fs root <;> rfl
  rw [found]
  exact Tool.nearest_firstFile? fs root _ absolute fun directory other =>
    fs.isFile_join_congr directory other configName

theorem isAbsolute_of_configPath (fs : FileSystem) (root config : Path) (configured : Option Path)
    (absolute : root.isAbsolute = true) (h : configPath fs root configured = .ok config) :
    config.isAbsolute = true := by
  cases configured with
  | none =>
    obtain ⟨directory, above, rfl, -, -⟩ :=
      (nearest_configPath fs root absolute).deepest config (by rw [h]; rfl)
    simp [Path.isAbsolute_join, above.isAbsolute]
  | some path =>
    unfold configPath at h
    split at h
    · rename_i same
      cases same
      split at h
      · cases h
        simp [Path.isAbsolute_join, absolute]
      · cases h
    · rename_i other
      cases other

theorem buildsIn_buildDir (options : CompilerOptions) (root directory : Path)
    (parent : options.path.parent? = some directory) (absolute : root.isAbsolute = true)
    (absolute' : directory.isAbsolute = true) :
    options.BuildsIn root directory (options.buildDir root) := by
  constructor
  · unfold CompilerOptions.buildDir
    split
    · split
      · rename_i rooted
        exact rooted
      · simp [Path.isAbsolute_join, parent, absolute']
    · simp [Path.isAbsolute_join, absolute]
  · intro outDir output rooted
    simp [CompilerOptions.buildDir, output, rooted]
  · intro outDir output relative
    simp [CompilerOptions.buildDir, output, relative, parent]
  · intro unset
    simp [CompilerOptions.buildDir, unset, CompilerOptions.defaultOutDir]

/-- A local program and a configuration file are those of the deepest directory, among the start and
its ancestors, that has one. Where the start never goes up, these directories are the places from
the start's own up to the root. The output of a build for a configuration file that was found,
configured or not, goes to an absolute path that is reckoned from the file's own directory. -/
theorem nearest_and_buildDir (fs : FileSystem) (start : Path)
    (absolute : start.isAbsolute = true) :
    (∀ name, Nearest fs start (fun directory => Tool.localBin directory name)
      (Tool.findLocal? fs start name)) ∧
    Nearest fs start (fun directory => directory.join configName)
      (configPath fs start none).toOption ∧
    (".." ∉ start.steps →
      (∀ above : Path, above.IsAbove start → above.place = above.steps) ∧
      ∀ place, place <+: start.place → ∃ above : Path, above.IsAbove start ∧ above.place = place) ∧
    ∀ configured config, configPath fs start configured = .ok config →
      ∃ directory name, config.parent? = some directory ∧
        config.place = directory.place ++ [name] ∧
        ∀ options : CompilerOptions, options.path = config →
          options.BuildsIn start directory (options.buildDir start) := by
  refine ⟨fun name => Tool.nearest_findLocal? fs start name absolute,
    nearest_configPath fs start absolute, fun down => ⟨fun above h => h.place_eq_steps down,
      start.exists_isAbove_of_prefix absolute down⟩, fun configured config found => ?_⟩
  have root := isAbsolute_of_configPath fs start config configured absolute found
  have file := isFile_of_configPath fs start config configured found
  obtain ⟨directory, parent, absolute', name, -, place⟩ :=
    fs.exists_directory_of_isFile config root file
  refine ⟨directory, name, parent, place, ?_⟩
  rintro options rfl
  exact buildsIn_buildDir options start directory parent absolute absolute'

/-- Packages with a configuration file for all and the compiler installed above them. -/
def packageFiles : FileSystem :=
  { entries :=
      [(["work"], .directory), (["work", "node_modules"], .directory),
       (["work", "node_modules", ".bin"], .directory),
       (["work", "node_modules", ".bin", "tsc"], .file .empty true),
       (["work", "tsconfig.json"], .file .empty false), (["work", "packages"], .directory),
       (["work", "packages", "tsconfig.json"], .file .empty false),
       (["work", "packages", "core"], .directory)] }

/-- A start whose path has a `.` on the way and a slash at its end. -/
theorem nearest_and_buildDir_packages :
    Path.isAbsolute "/work/./packages//core/" = true ∧
      Nearest packageFiles "/work/./packages//core/"
        (fun directory => Tool.localBin directory "tsc") (some "/work/node_modules/.bin/tsc") ∧
      Nearest packageFiles "/work/./packages//core/" (fun directory => directory.join configName)
        (some "/work/./packages/tsconfig.json") ∧
      CompilerOptions.BuildsIn ⟨"/work/./packages/tsconfig.json", some "dist", false⟩
        "/work/./packages//core/" "/work/./packages" "/work/./packages/dist" := by
  have absolute : Path.isAbsolute "/work/./packages//core/" = true := by decide +kernel
  obtain ⟨tools, configs, -, outputs⟩ :=
    nearest_and_buildDir packageFiles "/work/./packages//core/" absolute
  have tool : Tool.findLocal? packageFiles "/work/./packages//core/" "tsc" =
      some "/work/node_modules/.bin/tsc" := by decide +kernel
  have nearest : nearestConfig? packageFiles "/work/./packages//core/" =
      some "/work/./packages/tsconfig.json" := by decide +kernel
  have config : configPath packageFiles "/work/./packages//core/" none =
      .ok "/work/./packages/tsconfig.json" := by
    unfold configPath
    rw [nearest]
  have program := tools "tsc"
  rw [tool] at program
  rw [config] at configs
  refine ⟨absolute, program, configs, ?_⟩
  obtain ⟨directory, -, parent, -, builds⟩ := outputs none _ config
  have known : Path.parent? "/work/./packages/tsconfig.json" = some "/work/./packages" := by
    decide +kernel
  obtain rfl := Option.some.inj (known.symm.trans parent)
  have build : CompilerOptions.buildDir ⟨"/work/./packages/tsconfig.json", some "dist", false⟩
      "/work/./packages//core/" = "/work/./packages/dist" := by decide +kernel
  rw [← build]
  exact builds _ rfl

end Compiler

end TsWorkshop
