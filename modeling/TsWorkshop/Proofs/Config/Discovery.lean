import Mathlib.Data.List.Basic
import TsWorkshop.Config.Loading
import TsWorkshop.Proofs.Except
import TsWorkshop.Proofs.FileSystem.Components

/-!
Which file a project's configuration is taken from. A place is usable if a file stands there that is
no script and, for a package description, has a configuration in it. The search takes the first
usable place and warns of the scripts before it (`find_first_usable`); what stands at later places
is never looked at, and the file that was found is read alike when it is named.
-/

namespace TsWorkshop

namespace Path

/-- A name below a directory is the last piece of the path. -/
theorem exists_pieces_join (base : Path) (name : String) (plain : '/' ∉ name.toList) :
    ∃ front, (base.join name).pieces = front ++ [name.toList] := by
  have relative : isAbsolute name = false := by
    rw [← Bool.not_eq_true, isAbsolute_iff_head?]
    exact fun slash => plain (List.mem_of_head? slash)
  have alone : Text.splitChars '/' name.toList = [name.toList] :=
    Text.splitChars_of_not_mem '/' _ plain
  have behind (front : List Char) :
      Text.splitChars '/' (front ++ '/' :: name.toList) =
        Text.splitChars '/' front ++ [name.toList] := by
    rw [Text.splitChars_append_sep, alone]
  unfold join pieces
  rw [relative, if_neg (by simp)]
  split
  · rename_i open_
    rcases open_ with empty | slash
    · obtain rfl : base = "" := by simpa using empty
      exact ⟨[], by simpa using alone⟩
    · obtain ⟨initial, same⟩ := List.getLast?_eq_some_iff.mp slash
      refine ⟨Text.splitChars '/' initial, ?_⟩
      rw [String.toList_append, same, List.append_assoc, List.singleton_append, behind]
  · refine ⟨Text.splitChars '/' base.toList, ?_⟩
    rw [String.toList_append, String.toList_append, List.append_assoc]
    exact behind base.toList

/-- A name below a directory is the path's file name. -/
theorem fileName?_join (base : Path) (name : String) (plain : '/' ∉ name.toList)
    (named : isFiller name.toList = false) (down : name.toList ≠ ['.', '.']) :
    (base.join name).fileName? = some name := by
  obtain ⟨front, pieces⟩ := base.exists_pieces_join name plain
  rw [fileName?_eq_some _ front _ pieces named down, String.ofList_toList]

end Path

namespace ConfigSource

/-! ### Places -/

/-- A place for a script, which is not run. -/
def isScript (place : String) : Bool :=
  ".ts".toList.isSuffixOf place.toList || ".js".toList.isSuffixOf place.toList

/-- The formats of the places that are no scripts. -/
def formats : Assoc ConfigFormat :=
  [("package.json", .package), (".tanukirc", .yaml), (".tanukirc.json", .json),
   (".tanukirc.yaml", .yaml), (".tanukirc.yml", .yaml), ("tanuki.toml", .toml)]

/-- What is asked of a place: a file stands there, which is no script and, if it is a package
description, can be read and has a field with a configuration. -/
structure Usable (fs : FileSystem) (root : Path) (place : String) : Prop where
  file : fs.isFile (root.join place) = true
  plain : isScript place = false
  field : place = "package.json" → ∃ text package value,
    fs.readText (root.join place) = .ok text ∧ Json.contentOfText text = .ok package ∧
      package.field? packageFieldName = some value ∧ value ≠ .null

theorem formatOf?_congr (path other : Path) (same : path.fileName? = other.fileName?) :
    formatOf? path = formatOf? other := by
  unfold formatOf? Path.extension?
  rw [same]

/-- Below every root the name of a place tells its format. -/
theorem formatOf?_join (root : Path) (place : String) (listed : place ∈ places) :
    formatOf? (root.join place) = formats.get? place := by
  have name : ∀ place ∈ places, '/' ∉ place.toList ∧ Path.isFiller place.toList = false ∧
      place.toList ≠ ['.', '.'] ∧ Path.fileName? place = some place ∧
      formatOf? place = formats.get? place := by
    decide +kernel
  obtain ⟨plain, named, down, alone, format⟩ := name place listed
  rw [← format]
  apply formatOf?_congr
  rw [root.fileName?_join place plain named down, alone]

/-- A place has no format exactly if it is for a script. -/
theorem isScript_iff (place : String) (listed : place ∈ places) :
    isScript place = true ↔ formats.get? place = none := by
  have each : ∀ place ∈ places, isScript place = true ↔ formats.get? place = none := by
    decide +kernel
  exact each place listed

/-! ### Package descriptions -/

variable {fs fs' : FileSystem} {root : Path} {place : String}

theorem bne_null_iff (value : Json) : (value != .null) = true ↔ value ≠ .null := by
  cases value <;> simp [bne, BEq.beq, Json.equal]

theorem fieldOf?_eq_some_iff (package value : Json) :
    fieldOf? package = some value ↔
      package.field? packageFieldName = some value ∧ value ≠ .null := by
  rw [fieldOf?, Option.filter_eq_some_iff, bne_null_iff]

theorem packageField?_eq_some_iff (path : Path) (value : Json) :
    packageField? fs path = some value ↔ ∃ text package, fs.readText path = .ok text ∧
      Json.contentOfText text = .ok package ∧ package.field? packageFieldName = some value ∧
        value ≠ .null := by
  unfold packageField?
  simp only [Option.bind_eq_bind, Option.bind_eq_some_iff, toOption_eq_some_iff,
    fieldOf?_eq_some_iff, exists_and_left]

/-- Where the search has seen a configuration, reading that must find one succeeds with it. -/
theorem packageField_eq_ok (path : Path) (value : Json)
    (seen : packageField? fs path = some value) : packageField fs path = .ok value := by
  obtain ⟨text, package, read, parsed, field⟩ := (packageField?_eq_some_iff path value).mp seen
  have found := (fieldOf?_eq_some_iff package value).mpr field
  simp only [packageField, read, parsed, found, bind, Except.bind, Except.mapError, pure,
    Except.pure]

/-! ### What a place shows -/

theorem isFile_congr (path : Path) (same : fs'.entry path = fs.entry path) :
    fs'.isFile path = fs.isFile path := by
  unfold FileSystem.isFile
  rw [same]

theorem readText_congr (path : Path) (same : fs'.entry path = fs.entry path) :
    fs'.readText path = fs.readText path := by
  unfold FileSystem.readText FileSystem.read
  rw [same]

/-- Whether a place is usable shows in what stands there. -/
theorem usable_congr (same : fs'.entry (root.join place) = fs.entry (root.join place)) :
    Usable fs' root place ↔ Usable fs root place := by
  constructor
  · rintro ⟨file, plain, field⟩
    rw [isFile_congr _ same] at file
    rw [readText_congr _ same] at field
    exact ⟨file, plain, field⟩
  · rintro ⟨file, plain, field⟩
    rw [← isFile_congr _ same] at file
    rw [← readText_congr _ same] at field
    exact ⟨file, plain, field⟩

/-! ### The search -/

/-- The warnings of the scripts that stand at places. -/
def warnings (fs : FileSystem) (root : Path) (places : List String) : List Event :=
  (places.filter fun place => isScript place && fs.isFile (root.join place)).map
    fun place => skipped (root.join place)

/-- The report of the file that is taken. -/
def taken (root : Path) (place : String) : Event :=
  found (if place = "package.json" then "using package.json field" else "found config file")
    (root.join place)

theorem ofPath_eq_ok (format : ConfigFormat) (usable : Usable fs root place)
    (listed : place ∈ places) (known : formats.get? place = some format) :
    ofPath fs (root.join place) = .ok { format, path := root.join place } := by
  unfold ofPath
  rw [usable.file, formatOf?_join root place listed, known]
  rfl

/-- One step of the search. -/
theorem findAmong_cons (rest : List String) :
    findAmong fs root (place :: rest) =
      if !fs.isFile (root.join place) then findAmong fs root rest
      else if place = "package.json" then
        if (packageField? fs (root.join place)).isSome then
          ([found "using package.json field" (root.join place)],
            some { format := .package, path := root.join place })
        else findAmong fs root rest
      else
        match ofPath fs (root.join place) with
        | .ok source => ([found "found config file" (root.join place)], some source)
        | .error _ =>
          (skipped (root.join place) :: (findAmong fs root rest).1,
            (findAmong fs root rest).2) := by
  exact rfl

/-- A usable place ends the search. -/
theorem findAmong_usable (format : ConfigFormat) (rest : List String)
    (usable : Usable fs root place) (listed : place ∈ places)
    (known : formats.get? place = some format) :
    findAmong fs root (place :: rest) =
      ([taken root place], some { format, path := root.join place }) := by
  have accepted := ofPath_eq_ok format usable listed known
  rw [findAmong_cons, usable.file]
  unfold taken
  by_cases package : place = "package.json"
  · obtain ⟨text, package', value, read, parsed, field⟩ := usable.field package
    have seen := (packageField?_eq_some_iff _ value).mpr ⟨text, package', read, parsed, field⟩
    have format' : format = .package := by
      rw [package] at known
      exact (Option.some.inj known).symm
    simp [package] at seen ⊢
    simp [seen, format']
  · simp [package, accepted]

/-- A place that is not usable is passed over, with a warning if a script stands there. -/
theorem findAmong_unusable (rest : List String) (unusable : ¬ Usable fs root place)
    (listed : place ∈ places) :
    findAmong fs root (place :: rest) =
      (warnings fs root [place] ++ (findAmong fs root rest).1, (findAmong fs root rest).2) := by
  have script := isScript_iff place listed
  have format := formatOf?_join root place listed
  rw [findAmong_cons]
  unfold warnings
  cases file : fs.isFile (root.join place) with
  | false => simp [file]
  | true =>
    by_cases package : place = "package.json"
    · have plain : isScript place = false := by rw [package]; decide
      have unseen : packageField? fs (root.join place) = none := by
        rw [Option.eq_none_iff_forall_ne_some]
        intro value seen
        obtain ⟨text, package', field⟩ := (packageField?_eq_some_iff _ value).mp seen
        exact unusable ⟨file, plain, fun _ => ⟨text, package', value, field⟩⟩
      subst package
      simp [file, plain, unseen]
    · have scripted : isScript place = true := by
        rw [← Bool.not_eq_false]
        exact fun plain => unusable ⟨file, plain, fun same => absurd same package⟩
      have refused : ofPath fs (root.join place) = .error (.unsupported (root.join place)) := by
        unfold ofPath
        rw [file, format, script.mp scripted]
        rfl
      simp [file, package, scripted, refused]

/-- Places that are not usable are passed over one after the other. -/
theorem findAmong_append (before after : List String) (listed : ∀ place ∈ before, place ∈ places)
    (unusable : ∀ place ∈ before, ¬ Usable fs root place) :
    findAmong fs root (before ++ after) =
      (warnings fs root before ++ (findAmong fs root after).1, (findAmong fs root after).2) := by
  induction before with
  | nil => rfl
  | cons place rest ih =>
    obtain ⟨here, listed⟩ := List.forall_mem_cons.mp listed
    obtain ⟨passed, unusable⟩ := List.forall_mem_cons.mp unusable
    rw [List.cons_append, findAmong_unusable _ passed here, ih listed unusable]
    have split : warnings fs root (place :: rest) =
        warnings fs root [place] ++ warnings fs root rest := by
      unfold warnings
      rw [← List.map_append, ← List.filter_append]
      rfl
    rw [split, List.append_assoc]

theorem warnings_congr {before : List String}
    (same : ∀ place ∈ before, fs'.entry (root.join place) = fs.entry (root.join place)) :
    warnings fs' root before = warnings fs root before := by
  refine congrArg (List.map _) (List.filter_congr fun place inside => ?_)
  rw [isFile_congr _ (same place inside)]

/-- If some place is usable, there is a first one. -/
theorem exists_first (somewhere : ¬ ∀ place ∈ places, ¬ Usable fs root place) :
    ∃ before place after, places = before ++ place :: after ∧ Usable fs root place ∧
      ∀ earlier ∈ before, ¬ Usable fs root earlier := by
  classical
  cases first : places.find? fun place => decide (Usable fs root place) with
  | none => exact absurd (by simpa using first) somewhere
  | some place =>
    obtain ⟨usable, before, after, split, unusable⟩ := List.find?_eq_some_iff_append.mp first
    exact ⟨before, place, after, split, by simpa using usable, by simpa using unusable⟩

/-- The search takes the first usable place with its format, and reports the scripts before it and
then the file; without a usable place it takes none. What stands at later places does not matter.
The file is taken alike when it is named, and the configuration that was seen in a package
description is found when it is read. -/
theorem find_first_usable (fs : FileSystem) (root : Path) :
    (∀ place ∈ places, ¬ Usable fs root place) ∧ find fs root = (warnings fs root places, none) ∨
    ∃ before place after format, places = before ++ place :: after ∧
      formats.get? place = some format ∧ Usable fs root place ∧
      (∀ earlier ∈ before, ¬ Usable fs root earlier) ∧
      find fs root = (warnings fs root before ++ [taken root place],
        some { format, path := root.join place }) ∧
      (∀ fs' : FileSystem,
        (∀ seen ∈ before ++ [place], fs'.entry (root.join seen) = fs.entry (root.join seen)) →
          find fs' root = find fs root) ∧
      ofPath fs (root.join place) = .ok { format, path := root.join place } ∧
      (root.isAbsolute = true → Project.source fs root (some (root.join place)) =
        ([], .ok (some { format, path := root.join place }))) ∧
      (place = "package.json" → ∃ value, value ≠ .null ∧
        packageField? fs (root.join place) = some value ∧
          packageField fs (root.join place) = .ok value) := by
  by_cases nowhere : ∀ place ∈ places, ¬ Usable fs root place
  · refine .inl ⟨nowhere, ?_⟩
    have passed := findAmong_append places [] (fun _ inside => inside) nowhere
    have ends : findAmong fs root [] = ([], none) := by exact rfl
    rwa [ends, List.append_nil, List.append_nil] at passed
  · obtain ⟨before, place, after, split, usable, unusable⟩ := exists_first nowhere
    have inside : place ∈ places ∧ ∀ earlier ∈ before, earlier ∈ places := by
      rw [split]
      exact ⟨by simp, fun earlier first => by simp [first]⟩
    obtain ⟨listed, earlierListed⟩ := inside
    obtain ⟨format, known⟩ : ∃ format, formats.get? place = some format := by
      rw [← Option.isSome_iff_exists, Option.isSome_iff_ne_none, Ne,
        ← isScript_iff place listed, usable.plain]
      simp
    have result (fs' : FileSystem) (usable : Usable fs' root place)
        (unusable : ∀ earlier ∈ before, ¬ Usable fs' root earlier) :
        find fs' root = (warnings fs' root before ++ [taken root place],
          some { format, path := root.join place }) := by
      rw [find, split, findAmong_append before _ earlierListed unusable,
        findAmong_usable format after usable listed known]
    have named := ofPath_eq_ok format usable listed known
    refine .inr ⟨before, place, after, format, split, known, usable, unusable,
      result fs usable unusable, fun fs' same => ?_, named, fun absolute => ?_, fun package => ?_⟩
    · have here := same place (by simp)
      have above : ∀ earlier ∈ before, fs'.entry (root.join earlier) =
          fs.entry (root.join earlier) := fun earlier first => same earlier (by simp [first])
      rw [result fs usable unusable, result fs' ((usable_congr here).mpr usable)
        fun earlier first => (usable_congr (above earlier first)).not.mpr (unusable earlier first),
        warnings_congr above]
    · have whole : (root.join place).isAbsolute = true := by simp [Path.isAbsolute_join, absolute]
      have itself : root.join (root.join place) = root.join place := by
        rw [Path.join, if_pos whole]
      rw [Project.source, itself, named]
      rfl
    · obtain ⟨text, package', value, field⟩ := usable.field package
      have seen := (packageField?_eq_some_iff _ value).mpr ⟨text, package', field⟩
      exact ⟨value, field.2.2.2, seen, packageField_eq_ok _ value seen⟩

end ConfigSource

end TsWorkshop
