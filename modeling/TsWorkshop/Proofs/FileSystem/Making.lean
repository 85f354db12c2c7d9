import Mathlib.Data.List.TakeWhile
import TsWorkshop.Proofs.FileSystem.Components
import TsWorkshop.Proofs.FileSystem.Access

/-!
Directories that are made with the missing ones above them. A path is followed to its end exactly
if every place on the way is a directory's (`follow_eq_ok_iff`), so a path is a directory's exactly
if it reaches (`isDirectory_iff_reaches`). Where making directories succeeds the path reaches
(`reaches_of_provideDirectory`); for an absolute path whose last name is not `.` it succeeds unless
a file is in the way (`exists_provideDirectory`). The induction goes up the parents of the path,
each with at least one name less (`exists_parent?_of_names`).
-/

namespace TsWorkshop

namespace Text

theorem length_splitChars_le (sep : Char) (cs : List Char) :
    (splitChars sep cs).length ≤ cs.length + 1 := by
  induction cs with
  | nil => simp [splitChars]
  | cons c rest ih =>
    unfold splitChars
    split
    · simpa using ih
    · split
      · simp
      · rename_i pieces
        rw [pieces, List.length_cons] at ih
        rw [List.length_cons, List.length_cons]
        omega

end Text

namespace Path

theorem length_names_le (path : Path) : path.names.length ≤ path.toList.length + 1 := by
  unfold names
  rw [List.length_map]
  apply (List.length_filter_le _ _).trans
  exact Text.length_splitChars_le '/' path.toList

theorem mem_waypoints_iff (path : Path) (place : Place) :
    place ∈ path.waypoints ↔ ∃ front, front <+: path.names ∧ placeOf front = place := by
  simp only [waypoints, List.mem_map, List.mem_inits]

theorem placeOf_append (front back : List String) :
    placeOf (front ++ back) = back.foldl turn (placeOf front) := by
  simp only [placeOf, List.foldl_append]

theorem exists_ancestorsFrom (fuel : Nat) (path : Path) :
    ∃ parents, ancestorsFrom (fuel + 1) path = path :: parents := by
  unfold ancestorsFrom
  split <;> exact ⟨_, rfl⟩

/-- Names that stay where they are. -/
theorem placeOf_append_dots (front dots : List String) (stay : ∀ name ∈ dots, name = ".") :
    placeOf (front ++ dots) = placeOf front := by
  rw [placeOf_append]
  induction dots with
  | nil => rfl
  | cons name rest ih =>
    rw [List.foldl_cons, turn, if_pos (stay name (by simp))]
    exact ih fun other later => stay other (List.mem_cons_of_mem _ later)

/-! ### Parents of absolute paths -/

theorem toList_ne_nil_of_isAbsolute (path : Path) (absolute : path.isAbsolute = true) :
    path.toList ≠ [] := by
  rw [isAbsolute_iff_head?] at absolute
  intro empty
  rw [empty] at absolute
  cases absolute

/-- What is dropped from the end of pieces are fillers, and no filler is left there. -/
theorem exists_dropFillers (first : List Char) (rest : List (List Char)) :
    ∃ kept fillers, rest = kept ++ fillers ∧ dropFillers (first :: rest) = first :: kept ∧
      (∀ piece ∈ fillers, isFiller piece = true) ∧
      ∀ piece, kept.getLast? = some piece → isFiller piece = false := by
  refine ⟨(rest.reverse.dropWhile isFiller).reverse, (rest.reverse.takeWhile isFiller).reverse,
    ?_, rfl, fun piece inside => ?_, fun piece last => ?_⟩
  · rw [← List.reverse_append, List.takeWhile_append_dropWhile, List.reverse_reverse]
  · exact List.mem_takeWhile_imp (List.mem_reverse.mp inside)
  · rw [List.getLast?_reverse] at last
    have stops := List.head?_dropWhile_not isFiller rest.reverse
    rw [last] at stops
    simpa using stops

theorem eq_dot_of_mem_namesOf (fillers : List (List Char))
    (h : ∀ piece ∈ fillers, isFiller piece = true) : ∀ name ∈ namesOf fillers, name = "." := by
  intro name inside
  obtain ⟨piece, kept, rfl⟩ := List.mem_map.mp inside
  obtain ⟨among, nonempty⟩ := List.mem_filter.mp kept
  have filler := h piece among
  rw [isFiller, Bool.or_eq_true, beq_iff_eq] at filler
  rcases filler with empty | rfl
  · simp [empty] at nonempty
  · rfl

theorem ne_dot_of_not_filler (piece : List Char) (h : isFiller piece = false) :
    String.ofList piece ≠ "." := by
  intro same
  rw [← String.toList_inj, String.toList_ofList] at same
  rw [same] at h
  simp [isFiller] at h

/-- The last name among pieces that end in no filler is no `.`. -/
theorem getLast?_namesOf (kept : List (List Char))
    (h : ∀ piece, kept.getLast? = some piece → isFiller piece = false) :
    (namesOf kept).getLast? ≠ some "." := by
  rcases kept.eq_nil_or_concat with rfl | ⟨front, last, rfl⟩
  · simp [namesOf]
  · rw [List.concat_eq_append] at h ⊢
    have named := h last (by simp)
    have some_ : last.isEmpty = false := by
      rw [isFiller, Bool.or_eq_false_iff] at named
      exact named.1
    rw [namesOf_append]
    have single : namesOf [last] = [String.ofList last] := by simp [namesOf, some_]
    rw [single, List.getLast?_concat]
    simpa using ne_dot_of_not_filler last named

/-- The pieces of an absolute path that ends in a name. -/
theorem exists_trimmed (path : Path) (absolute : path.isAbsolute = true)
    (some_ : path.names ≠ []) (named : path.names.getLast? ≠ some ".") :
    ∃ front last, path.trimmed = [] :: (front ++ [last]) ∧
      path.names = namesOf front ++ [String.ofList last] ∧ ∀ piece ∈ front, '/' ∉ piece := by
  obtain ⟨next, more, pieces⟩ := path.isAbsolute_iff.mp absolute
  obtain ⟨kept, fillers, parts, trimmed, filling, ends⟩ := exists_dropFillers [] (next :: more)
  have names : path.names = namesOf kept ++ namesOf fillers := by
    rw [← namesOf_append, ← parts]
    unfold Path.names
    rw [pieces]
    simp [namesOf]
  -- a filler with a name would be a `.` at the end
  have nothing : namesOf fillers = [] := by
    rcases List.eq_nil_or_concat (namesOf fillers) with empty | ⟨front, last, same⟩
    · exact empty
    · rw [List.concat_eq_append] at same
      rw [names, same, ← List.append_assoc, List.getLast?_concat] at named
      have stays := eq_dot_of_mem_namesOf fillers filling last (by simp [same])
      exact absurd (congrArg some stays) named
  rw [nothing, List.append_nil] at names
  rcases kept.eq_nil_or_concat with rfl | ⟨front, last, rfl⟩
  · exact absurd names some_
  rw [List.concat_eq_append] at parts trimmed names ends
  have stands := ends last (by simp)
  rw [isFiller, Bool.or_eq_false_iff] at stands
  refine ⟨front, last, ?_, ?_, fun piece inside => path.slash_not_mem piece ?_⟩
  · unfold Path.trimmed
    rw [pieces, trimmed]
  · rw [names, namesOf_append]
    simp [namesOf, stands.1]
  · rw [pieces, parts]
    simp [inside]

/-- The parent of an absolute path with a name at its end is an absolute path with the names before
that one, up to names that stay. -/
theorem exists_parent?_of_names (path : Path) (absolute : path.isAbsolute = true)
    (some_ : path.names ≠ []) (named : path.names.getLast? ≠ some ".") :
    ∃ parent : Path, path.parent? = some parent ∧ parent.isAbsolute = true ∧
      parent.names.getLast? ≠ some "." ∧
      ∃ dots last, (∀ name ∈ dots, name = ".") ∧ path.names = parent.names ++ dots ++ [last] := by
  obtain ⟨front, last, trimmed, names, plain⟩ := path.exists_trimmed absolute some_ named
  obtain ⟨parent, found, root, above⟩ :=
    path.exists_parent?_of_trimmed [] last front trimmed (by simpa using plain)
  obtain ⟨kept, fillers, rfl, dropped, filling, ends⟩ := exists_dropFillers [] front
  have first : namesOf ([] :: kept) = namesOf kept := by simp [namesOf]
  rw [dropped, first] at above
  rw [namesOf_append, ← above] at names
  refine ⟨parent, found, root.mpr rfl, ?_, namesOf fillers, String.ofList last,
    eq_dot_of_mem_namesOf fillers filling, names⟩
  rw [above]
  exact getLast?_namesOf kept ends

end Path

namespace FileSystem

variable (fs : FileSystem)

/-! ### Following to the end -/

/-- A directory with nothing but directories above it. -/
def Standing (place : Place) : Prop := ∀ above, above <+: place → fs.get? above = some .directory

theorem standing_root : fs.Standing [] := by
  intro above initial
  rw [List.prefix_nil.mp initial]
  exact fs.get?_root

variable {fs}

theorem Standing.get? {place : Place} (h : fs.Standing place) :
    fs.get? place = some .directory :=
  h place (List.prefix_refl _)

theorem Standing.dropLast {place : Place} (h : fs.Standing place) : fs.Standing place.dropLast :=
  fun above initial => h above (initial.trans (List.dropLast_prefix place))

theorem Standing.concat {place : Place} {name : String} (h : fs.Standing place)
    (there : fs.get? (place ++ [name]) = some .directory) : fs.Standing (place ++ [name]) := by
  intro above initial
  rcases List.prefix_concat_iff.mp initial with rfl | before
  · exact there
  · exact h above before

variable (fs)

/-- What a statement about the proper initial parts of names says of the first of them and of those
behind it. -/
theorem forall_initial_cons_iff (holds : List String → Prop) (name : String) (rest : List String) :
    (∀ front, front <+: name :: rest → front ≠ name :: rest → holds front) ↔
      holds [] ∧ ∀ front, front <+: rest → front ≠ rest → holds (name :: front) := by
  constructor
  · intro h
    refine ⟨h [] List.nil_prefix (by simp), fun front initial proper => ?_⟩
    exact h (name :: front) (List.prefix_cons_inj name |>.mpr initial) (by simpa using proper)
  · rintro ⟨first, later⟩ front initial proper
    cases front with
    | nil => exact first
    | cons name' front =>
      obtain ⟨rfl, behind⟩ := List.cons_prefix_cons.mp initial
      exact later front behind fun same => proper (by rw [same])

/-- Names are followed to their end exactly if each place before the last one is a directory's. -/
theorem follow_eq_ok_iff (start p : Place) (names : List String) (open_ : fs.Standing start) :
    fs.follow start names = .ok p ↔
      p = names.foldl Path.turn start ∧
        ∀ front, front <+: names → front ≠ names →
          fs.get? (front.foldl Path.turn start) = some .directory := by
  induction names generalizing start with
  | nil =>
    constructor
    · intro h
      cases h
      refine ⟨rfl, fun front initial proper => ?_⟩
      exact absurd (List.prefix_nil.mp initial) proper
    · rintro ⟨rfl, -⟩
      rfl
  | cons name rest ih =>
    rw [forall_initial_cons_iff fun front =>
      fs.get? (front.foldl Path.turn start) = some .directory]
    simp only [List.foldl_cons, List.foldl_nil, open_.get?, true_and]
    unfold follow
    split
    · rename_i stays
      rw [ih start open_, Path.turn, if_pos stays]
    · rename_i moves
      split
      · rename_i up
        rw [ih _ open_.dropLast, Path.turn, if_neg moves, if_pos up]
      · rename_i down
        have turned : Path.turn start name = start ++ [name] := by
          rw [Path.turn, if_neg moves, if_neg down]
        rw [turned]
        split
        · rename_i last
          obtain rfl := List.isEmpty_iff.mp last
          constructor
          · intro h
            cases h
            refine ⟨rfl, fun front initial proper => ?_⟩
            exact absurd (List.prefix_nil.mp initial) proper
          · rintro ⟨rfl, -⟩
            rfl
        · rename_i more
          have proper : [] ≠ rest := fun none => more (by simp [← none])
          split
          · rename_i there
            exact ih _ (open_.concat there)
          · rename_i there
            constructor
            · intro h
              cases h
            · rintro ⟨-, reached⟩
              have there' := reached [] List.nil_prefix proper
              rw [List.foldl_nil, there] at there'
              cases there'
          · rename_i missing
            constructor
            · intro h
              cases h
            · rintro ⟨-, reached⟩
              have there' := reached [] List.nil_prefix proper
              rw [List.foldl_nil, missing] at there'
              cases there'

/-- Names that are not followed to their end come to a place where nothing is, or to a file before
the end. -/
theorem follow_eq_error (start : Place) (names : List String) (e : IoError)
    (h : fs.follow start names = .error e) :
    e = .notFound ∨ ∃ front content executable, front <+: names ∧ front ≠ names ∧
      fs.get? (front.foldl Path.turn start) = some (.file content executable) := by
  induction names generalizing start with
  | nil => cases h
  | cons name rest ih =>
    have later (stop : fs.follow (Path.turn start name) rest = .error e) :
        e = .notFound ∨ ∃ front content executable, front <+: name :: rest ∧
          front ≠ name :: rest ∧
          fs.get? (front.foldl Path.turn start) = some (.file content executable) := by
      rcases ih _ stop with missing | ⟨front, content, executable, initial, proper, stands⟩
      · exact Or.inl missing
      · exact Or.inr ⟨name :: front, content, executable,
          (List.prefix_cons_inj name).mpr initial, by simpa using proper, stands⟩
    unfold follow at h
    split at h
    · rename_i stays
      rw [Path.turn, if_pos stays] at later
      exact later h
    · rename_i moves
      split at h
      · rename_i up
        rw [Path.turn, if_neg moves, if_pos up] at later
        exact later h
      · rename_i down
        have turned : Path.turn start name = start ++ [name] := by
          rw [Path.turn, if_neg moves, if_neg down]
        split at h
        · cases h
        · rename_i more
          split at h
          · rw [turned] at later
            exact later h
          · rename_i content executable there
            refine Or.inr ⟨[name], content, executable, ?_, ?_, ?_⟩
            · exact (List.prefix_cons_inj name).mpr List.nil_prefix
            · intro whole
              exact more (by simp [← (List.cons.inj whole).2])
            · rw [List.foldl_cons, List.foldl_nil, turned]
              exact there
          · cases h
            exact Or.inl rfl

/-! ### Paths that reach -/

/-- Directories stand all along a path and at its end. -/
def Reaches (path : Path) : Prop := ∀ place ∈ path.waypoints, fs.get? place = some .directory

/-- No file stands on a path or at its end. -/
def Clear (path : Path) : Prop :=
  ∀ place ∈ path.waypoints, ∀ content executable,
    fs.get? place ≠ some (.file content executable)

theorem reaches_iff (path : Path) :
    fs.Reaches path ↔
      ∀ front, front <+: path.names → fs.get? (Path.placeOf front) = some .directory := by
  constructor
  · exact fun reaches front initial => reaches _ (path.placeOf_mem_waypoints front initial)
  · rintro reaches place inside
    obtain ⟨front, initial, rfl⟩ := (path.mem_waypoints_iff place).mp inside
    exact reaches front initial

theorem locate_eq_ok_iff (path : Path) (nonempty : path.toList ≠ []) (p : Place) :
    fs.locate path = .ok p ↔
      p = path.place ∧ ∀ front, front <+: path.names → front ≠ path.names →
        fs.get? (Path.placeOf front) = some .directory := by
  unfold locate
  rw [if_neg (by simpa using nonempty)]
  exact fs.follow_eq_ok_iff [] p path.names fs.standing_root

theorem names_ne_nil_of_locate (path : Path) (nonempty : path.toList ≠ []) {e : IoError}
    (lost : fs.locate path = .error e) : path.names ≠ [] := by
  intro none
  unfold locate at lost
  rw [if_neg (by simpa using nonempty), none] at lost
  cases lost

/-- A path reaches exactly if it is followed to a place where a directory stands. -/
theorem reaches_iff_locate (path : Path) (nonempty : path.toList ≠ []) :
    fs.Reaches path ↔
      fs.locate path = .ok path.place ∧ fs.get? path.place = some .directory := by
  rw [fs.reaches_iff, fs.locate_eq_ok_iff path nonempty]
  constructor
  · intro reaches
    exact ⟨⟨rfl, fun front initial _ => reaches front initial⟩,
      reaches path.names (List.prefix_refl _)⟩
  · rintro ⟨⟨-, before⟩, there⟩ front initial
    by_cases whole : front = path.names
    · rw [whole]
      exact there
    · exact before front initial whole

theorem isDirectory_iff_reaches (path : Path) (nonempty : path.toList ≠ []) :
    fs.isDirectory path = true ↔ fs.Reaches path := by
  rw [fs.reaches_iff_locate path nonempty]
  unfold isDirectory entry
  cases located : fs.locate path with
  | error e => simp [bind, Except.bind]
  | ok p =>
    obtain rfl := fs.locate_eq path p located
    cases stood : fs.get? path.place with
    | none => simp [stood, bind, Except.bind, throw, throwThe, MonadExceptOf.throw]
    | some e =>
      cases e with
      | directory => simp [stood, bind, Except.bind, pure, Except.pure, Entry.isDirectory]
      | file content executable =>
        cases path.demandsDirectory <;>
          simp [stood, bind, Except.bind, pure, Except.pure, Entry.isDirectory, throw, throwThe,
            MonadExceptOf.throw]

theorem pathExists_of_isDirectory (path : Path) (h : fs.isDirectory path = true) :
    fs.pathExists path = true := by
  unfold isDirectory at h
  unfold pathExists
  split at h
  · rename_i e there
    rw [there]
    rfl
  · cases h

/-! ### Making directories -/

variable {fs}

theorem Grown.reaches {places : List Place} {after : FileSystem} (grown : Grown places fs after)
    (path : Path) (reaches : fs.Reaches path) : after.Reaches path :=
  fun place inside => grown.get?_of_some place .directory (reaches place inside)

theorem Grown.clear {places : List Place} {after : FileSystem} (grown : Grown places fs after)
    (path : Path) (clear : fs.Clear path) : after.Clear path := by
  intro place inside content executable stands
  exact clear place inside content executable
    ((grown.file_iff place content executable).mp stands)

variable (fs)

theorem reaches_of_makeDirectory (after : FileSystem) (path : Path) (nonempty : path.toList ≠ [])
    (h : fs.makeDirectory path = .ok after) : after.Reaches path := by
  have grown : Grown [path.place] fs after := grown_makeDirectory path (by simp) h
  obtain ⟨p, located, h⟩ := (bind_eq_ok_iff _ _ _).mp h
  obtain ⟨rfl, before⟩ := (fs.locate_eq_ok_iff path nonempty p).mp located
  split at h
  · cases h
  · rename_i missing
    cases h
    have below : path.place ≠ [] := by
      intro root
      rw [root, get?_root] at missing
      cases missing
    rw [reaches_iff]
    intro front initial
    by_cases whole : front = path.names
    · rw [whole]
      exact get?_put_self fs path.place .directory below
    · exact grown.get?_of_some _ _ (before front initial whole)

/-- Where making directories succeeds, the first of the paths reaches. -/
theorem reaches_of_makeDirectoriesOf (after : FileSystem) (path : Path) (parents : List Path)
    (nonempty : path.toList ≠ [])
    (h : fs.makeDirectoriesOf (path :: parents) = (.ok (), after)) : after.Reaches path := by
  have kept (fs : FileSystem) (e : IoError)
      (h : (if fs.isDirectory path then .ok () else .error e, fs) =
        ((.ok (), after) : Except IoError Unit × FileSystem)) : after.Reaches path := by
    obtain ⟨fine, rfl⟩ := Prod.mk.inj h
    split at fine
    · rename_i there
      exact (fs.isDirectory_iff_reaches path nonempty).mp there
    · cases fine
  unfold makeDirectoriesOf at h
  rw [if_neg (by simpa using nonempty)] at h
  split at h
  · rename_i made
    cases h
    exact fs.reaches_of_makeDirectory after path nonempty made
  · split at h
    · cases h
    · rename_i middle provided
      split at h
      · rename_i made
        cases h
        exact middle.reaches_of_makeDirectory after path nonempty made
      · exact kept _ _ h
  · exact kept _ _ h

theorem reaches_of_provideDirectory (after : FileSystem) (path : Path)
    (nonempty : path.toList ≠ []) (h : fs.provideDirectory path = (.ok (), after)) :
    after.Reaches path := by
  obtain ⟨parents, chain⟩ := Path.exists_ancestorsFrom (path.toList.length + 1) path
  unfold provideDirectory Path.ancestors at h
  rw [chain] at h
  exact fs.reaches_of_makeDirectoriesOf after path parents nonempty h

/-- With no file in the way, a directory is made or is there, unless something above it is
missing. -/
theorem makeDirectory_cases (path : Path) (nonempty : path.toList ≠ []) (clear : fs.Clear path) :
    (∃ after, fs.makeDirectory path = .ok after) ∨
      (fs.makeDirectory path = .error .notFound ∧ fs.locate path = .error .notFound) ∨
      fs.makeDirectory path = .error .alreadyExists ∧ fs.isDirectory path = true := by
  unfold makeDirectory
  cases located : fs.locate path with
  | error e =>
    right
    left
    have stopped := located
    unfold locate at stopped
    rw [if_neg (by simpa using nonempty)] at stopped
    rcases fs.follow_eq_error [] path.names e stopped with
      rfl | ⟨front, content, executable, initial, -, stands⟩
    · exact ⟨rfl, rfl⟩
    · have inside := path.placeOf_mem_waypoints front initial
      exact absurd stands (clear _ inside content executable)
  | ok p =>
    obtain rfl := fs.locate_eq path p located
    cases stood : fs.get? path.place with
    | none => exact Or.inl ⟨_, by simp only [bind, Except.bind, stood]; rfl⟩
    | some e =>
      have inside := path.placeOf_mem_waypoints path.names (List.prefix_refl _)
      cases e with
      | file content executable => exact absurd stood (clear _ inside content executable)
      | directory =>
        right
        right
        constructor
        · simp only [bind, Except.bind, stood]
          rfl
        · rw [fs.isDirectory_iff_reaches path nonempty, fs.reaches_iff_locate path nonempty]
          exact ⟨located, stood⟩

/-- Making directories succeeds if no file is in the way and, where something above the path is
missing, the paths above it are made and lead to it. -/
theorem exists_makeDirectoriesOf_cons (path : Path) (parents : List Path)
    (nonempty : path.toList ≠ []) (clear : fs.Clear path)
    (above : fs.locate path = .error .notFound →
      ∃ middle, fs.makeDirectoriesOf parents = (.ok (), middle) ∧ middle.Clear path ∧
        middle.locate path = .ok path.place) :
    ∃ after, fs.makeDirectoriesOf (path :: parents) = (.ok (), after) := by
  unfold makeDirectoriesOf
  rw [if_neg (by simpa using nonempty)]
  rcases fs.makeDirectory_cases path nonempty clear with
    ⟨after, made⟩ | ⟨refused, lost⟩ | ⟨refused, there⟩
  · exact ⟨after, by rw [made]⟩
  · obtain ⟨middle, provided, clear', found⟩ := above lost
    rw [refused, provided]
    rcases middle.makeDirectory_cases path nonempty clear' with
      ⟨after, made⟩ | ⟨-, lost'⟩ | ⟨refused', there⟩
    · exact ⟨after, by simp only [made]⟩
    · rw [found] at lost'
      cases lost'
    · exact ⟨middle, by simp only [refused', there, if_true]⟩
  · exact ⟨fs, by simp only [refused, there, if_true]⟩

/-- Once the parent reaches, nothing above the path is missing. -/
theorem locate_of_reaches_parent (path parent : Path) (nonempty : path.toList ≠ [])
    (dots : List String) (last : String) (stay : ∀ name ∈ dots, name = ".")
    (names : path.names = parent.names ++ dots ++ [last]) (reaches : fs.Reaches parent) :
    fs.locate path = .ok path.place := by
  rw [fs.locate_eq_ok_iff path nonempty]
  refine ⟨rfl, fun front initial proper => ?_⟩
  rw [fs.reaches_iff] at reaches
  rw [names] at initial proper
  rcases List.prefix_concat_iff.mp initial with whole | ⟨behind, before⟩
  · exact absurd whole proper
  rcases List.append_eq_append_iff.mp before with ⟨more, same, -⟩ | ⟨more, rfl, same⟩
  · exact reaches front ⟨more, same.symm⟩
  · rw [Path.placeOf_append_dots _ _ fun name inside => stay name (by simp [same, inside])]
    exact reaches _ (List.prefix_refl _)

/-- The induction is on the fuel that a path has for its parents. Each parent has fewer names, so it
suffices. -/
theorem exists_makeDirectoriesOf (fuel : Nat) (path : Path) (enough : path.names.length ≤ fuel)
    (absolute : path.isAbsolute = true) (named : path.names.getLast? ≠ some ".")
    (clear : fs.Clear path) :
    ∃ after, fs.makeDirectoriesOf (Path.ancestorsFrom (fuel + 1) path) = (.ok (), after) := by
  have nonempty := path.toList_ne_nil_of_isAbsolute absolute
  induction fuel generalizing path with
  | zero =>
    obtain ⟨parents, chain⟩ := Path.exists_ancestorsFrom 0 path
    rw [chain]
    apply fs.exists_makeDirectoriesOf_cons path parents nonempty clear
    intro lost
    exact absurd (List.length_eq_zero_iff.mp (by omega))
      (fs.names_ne_nil_of_locate path nonempty lost)
  | succ fuel ih =>
    obtain ⟨parents, chain⟩ := Path.exists_ancestorsFrom (fuel + 1) path
    rw [chain]
    apply fs.exists_makeDirectoriesOf_cons path parents nonempty clear
    intro lost
    obtain ⟨parent, known, absolute', named', dots, last, stay, names⟩ :=
      path.exists_parent?_of_names absolute (fs.names_ne_nil_of_locate path nonempty lost) named
    obtain rfl : parents = Path.ancestorsFrom (fuel + 1) parent := by
      rw [Path.ancestorsFrom, known] at chain
      exact (List.cons.inj chain).2.symm
    have above : parent.names <+: path.names := by
      rw [names, List.append_assoc]
      exact List.prefix_append _ _
    have shorter : parent.names.length ≤ fuel := by
      rw [names, List.length_append, List.length_append, List.length_singleton] at enough
      omega
    have nonempty' := parent.toList_ne_nil_of_isAbsolute absolute'
    have clear' : fs.Clear parent := by
      intro place inside
      obtain ⟨front, initial, rfl⟩ := (parent.mem_waypoints_iff place).mp inside
      exact clear _ (path.placeOf_mem_waypoints front (initial.trans above))
    obtain ⟨middle, provided⟩ := ih parent shorter absolute' named' clear' nonempty'
    have grown : Grown path.waypoints fs
        (fs.makeDirectoriesOf (Path.ancestorsFrom (fuel + 1) parent)).2 :=
      fs.grown_makeDirectoriesOf _ fun other inside => path.placeOf_mem_waypoints _
        ((Path.prefix_names_of_mem_ancestorsFrom _ parent other inside).trans above)
    have reaches : middle.Reaches parent := by
      obtain ⟨parents, chain'⟩ := Path.exists_ancestorsFrom fuel parent
      rw [chain'] at provided
      exact fs.reaches_of_makeDirectoriesOf middle parent parents nonempty' provided
    rw [provided] at grown
    exact ⟨middle, provided, grown.clear path clear,
      middle.locate_of_reaches_parent path parent nonempty dots last stay names reaches⟩

/-- The directory at an absolute path is provided if no file is in the way. Only a path that ends in
`.` can be refused: its parent is the one of the path without it. -/
theorem exists_provideDirectory (path : Path) (absolute : path.isAbsolute = true)
    (named : path.names.getLast? ≠ some ".") (clear : fs.Clear path) :
    ∃ after, fs.provideDirectory path = (.ok (), after) :=
  fs.exists_makeDirectoriesOf _ path path.length_names_le absolute named clear

end FileSystem

end TsWorkshop
