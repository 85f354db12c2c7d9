import TsWorkshop.FileSystem.Path

/-!
The arguments that external programs are started with, and the paths of the files that they make.
-/

namespace TsWorkshop

/-- What a bundler is asked for: a CommonJS bundle for Node. -/
structure BundleOptions where
  entry : Path
  outfile : Path
  minify : Bool := false
  deriving DecidableEq, Repr

namespace BundleOptions

def args (options : BundleOptions) : List String :=
  [options.entry, "--bundle", "--outfile=" ++ options.outfile, "--format=cjs", "--platform=node",
   "--target=node14"] ++ (if options.minify then ["--minify"] else [])

end BundleOptions

/-- The path of an artifact in the build directory. -/
def artifactPath (buildDir : Path) (name extension : String) : Path :=
  buildDir.join (name ++ "." ++ extension)

/-- The arguments of a lint run. -/
def lintArgs (fix : Bool) (extensions files : List String) : List String :=
  ["--format", "json"] ++
    (if extensions.isEmpty then [] else ["--ext", Text.join "," extensions]) ++
    (if fix then ["--fix"] else []) ++ files

/-- What is reflected: entry points, and the files that configure it. -/
structure ReflectionOptions where
  entryPoints : List String
  tsconfig : Option Path := none
  optionsFile : Option Path := none
  deriving DecidableEq, Repr

namespace ReflectionOptions

/-- The arguments of a run that writes its reflection to `out`. -/
def args (options : ReflectionOptions) (out : Path) : List String :=
  ["--json", out, "--excludeInternal", "--excludePrivate", "--excludeProtected"] ++
    options.entryPoints.flatMap (fun entry => ["--entryPoints", entry]) ++
    (match options.tsconfig with
    | some path => ["--tsconfig", path]
    | none => []) ++
    (match options.optionsFile with
    | some path => ["--options", path]
    | none => [])

end ReflectionOptions

end TsWorkshop
