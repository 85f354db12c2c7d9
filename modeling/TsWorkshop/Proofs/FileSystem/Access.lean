import TsWorkshop.Proofs.Except
import TsWorkshop.Proofs.FileSystem.Path

/-!
What the operations on files do to the entries. An operation that is not refused acts on the place
that its path leads to (`locate_eq`). Making a directory with the missing ones above it only adds
directories on the way (`grown_provideDirectory`), whether it is refused in the end or not; a file
that was written is read back (`read_of_write`); and erasing removes what lies at or below a place
and nothing else (`get?_erase`, `get?_eraseBelow`).
-/

namespace TsWorkshop

namespace FileSystem

@[simp] theorem get?_root (fs : FileSystem) : fs.get? [] = some .directory := by
  simp [get?]

theorem get?_put (fs : FileSystem) (p q : Place) (e : Entry) (below : p ≠ []) :
    (fs.put p e).get? q = if q = p then some e else fs.get? q := by
  by_cases same : q = p
  · subst same
    rw [if_pos rfl, get?_put_self fs q e below]
  · rw [if_neg same, get?_put_of_ne fs p q e same]

theorem find?_filter (keep : Place → Bool) (q : Place) (entries : List (Place × Entry)) :
    find? q (entries.filter fun entry => keep entry.1) =
      if keep q then find? q entries else none := by
  induction entries with
  | nil => simp [find?]
  | cons entry rest ih =>
    obtain ⟨p, e⟩ := entry
    by_cases same : p = q
    · subst same
      by_cases kept : keep p <;> simp [kept, ih, find?]
    · by_cases kept : keep p <;> simp [kept, ih, find?, same]

/-- What is left of the entries if only some places are kept, the root among them. -/
theorem get?_filter (fs : FileSystem) (keep : Place → Bool) (root : keep [] = true) (q : Place) :
    (FileSystem.mk (fs.entries.filter fun entry => keep entry.1)).get? q =
      if keep q then fs.get? q else none := by
  by_cases top : q = []
  · simp [top, root]
  · simp only [get?, top, if_false, find?_filter keep q fs.entries]

/-- Nothing but what lies below the place is removed. -/
theorem get?_eraseBelow (fs : FileSystem) (p q : Place) :
    (fs.eraseBelow p).get? q = if isBelow p q then none else fs.get? q := by
  have root : (!isBelow p []) = true := by cases p <;> simp [isBelow]
  have kept := fs.get?_filter (fun q => !isBelow p q) root q
  rw [eraseBelow, kept]
  cases isBelow p q <;> rfl

/-- Nothing but the place and what lies below it is removed. -/
theorem get?_erase (fs : FileSystem) (p q : Place) (below : p ≠ []) :
    (fs.erase p).get? q = if p <+: q then none else fs.get? q := by
  have root : (!p.isPrefixOf []) = true := by cases p <;> simp_all
  have kept := fs.get?_filter (fun q => !p.isPrefixOf q) root q
  rw [erase, kept]
  simp only [← List.isPrefixOf_iff_prefix]
  cases p.isPrefixOf q <;> rfl

/-! ### Following a path -/

theorem follow_eq (fs : FileSystem) (start p : Place) (names : List String)
    (h : fs.follow start names = .ok p) : p = names.foldl Path.turn start := by
  induction names generalizing start with
  | nil =>
    cases h
    rfl
  | cons name rest ih =>
    unfold follow at h
    rw [List.foldl_cons, Path.turn]
    split at h
    · rename_i stays
      rw [if_pos stays]
      exact ih start h
    · rename_i moves
      rw [if_neg moves]
      split at h
      · rename_i up
        rw [if_pos up]
        exact ih _ h
      · rename_i down
        rw [if_neg down]
        split at h
        · rename_i last
          cases h
          rw [List.isEmpty_iff.mp last, List.foldl_nil]
        · split at h
          · exact ih _ h
          · cases h
          · cases h

/-- A path leads nowhere but to its place. -/
theorem locate_eq (fs : FileSystem) (path : Path) (p : Place) (h : fs.locate path = .ok p) :
    p = path.place := by
  unfold locate at h
  split at h
  · cases h
  · exact fs.follow_eq [] p path.names h

/-- A file that is put where no directory stands is on the way of no path that led somewhere. -/
theorem follow_put (fs : FileSystem) (start p q : Place) (names : List String) (e : Entry)
    (below : q ≠ []) (vacant : fs.get? q ≠ some .directory) (h : fs.follow start names = .ok p) :
    (fs.put q e).follow start names = .ok p := by
  induction names generalizing start with
  | nil => exact h
  | cons name rest ih =>
    unfold follow at h ⊢
    split at h
    · rename_i stays
      rw [if_pos stays]
      exact ih start h
    · rename_i moves
      rw [if_neg moves]
      split at h
      · rename_i up
        rw [if_pos up]
        exact ih _ h
      · rename_i down
        rw [if_neg down]
        split at h
        · rename_i last
          rw [if_pos last]
          exact h
        · rename_i more
          rw [if_neg more]
          split at h
          · rename_i open_
            have other : start ++ [name] ≠ q := by
              rintro rfl
              exact vacant open_
            rw [get?_put_of_ne fs q _ e other, open_]
            exact ih _ h
          · cases h
          · cases h

/-! ### Writing -/

/-- What a successful write does: it puts a file at the path's place, where no directory stood. -/
theorem write_eq_ok (fs after : FileSystem) (path : Path) (content : ByteArray)
    (h : fs.write path content = .ok after) :
    fs.locate path = .ok path.place ∧ fs.get? path.place ≠ some .directory ∧
      path.demandsDirectory = false ∧
      ∃ executable, after = fs.put path.place (.file content executable) := by
  obtain ⟨p, located, h⟩ := (bind_eq_ok_iff _ _ _).mp h
  obtain rfl := fs.locate_eq path p located
  refine ⟨located, ?_⟩
  split at h
  · cases h
  · rename_i old executable stood
    split at h
    · cases h
    · rename_i plain
      cases h
      exact ⟨by simp [stood], by simpa using plain, executable, rfl⟩
  · rename_i missing
    split at h
    · cases h
    · rename_i plain
      cases h
      exact ⟨by simp [missing], by simpa using plain, false, rfl⟩

/-- A file that was written holds what was written, whatever it held before. -/
theorem read_of_write (fs after : FileSystem) (path : Path) (content : ByteArray)
    (h : fs.write path content = .ok after) : after.read path = .ok content := by
  obtain ⟨located, vacant, plain, executable, rfl⟩ := write_eq_ok fs after path content h
  have below : path.place ≠ [] := by
    intro root
    rw [root] at vacant
    exact vacant fs.get?_root
  have again : (fs.put path.place (.file content executable)).locate path = .ok path.place := by
    unfold locate at located ⊢
    split at located
    · cases located
    · rename_i named
      rw [if_neg named]
      exact fs.follow_put [] _ _ _ _ below vacant located
  have stands := get?_put_self fs path.place (.file content executable) below
  simp [read, entry, again, stands, plain, bind, Except.bind, pure, Except.pure]

/-- A write changes no other place. -/
theorem get?_of_write (fs after : FileSystem) (path : Path) (content : ByteArray)
    (h : fs.write path content = .ok after) (q : Place) (other : q ≠ path.place) :
    after.get? q = fs.get? q := by
  obtain ⟨-, -, -, executable, rfl⟩ := write_eq_ok fs after path content h
  exact get?_put_of_ne fs _ q _ other

/-! ### Making directories -/

/-- Nothing is different afterwards but that directories stand at some of the places, where nothing
stood before. -/
def Grown (places : List Place) (before after : FileSystem) : Prop :=
  ∀ q, after.get? q = before.get? q ∨
    q ∈ places ∧ before.get? q = none ∧ after.get? q = some .directory

variable {places : List Place} {before middle after : FileSystem}

theorem Grown.refl (places : List Place) (fs : FileSystem) : Grown places fs fs :=
  fun _ => Or.inl rfl

theorem Grown.trans (first : Grown places before middle) (second : Grown places middle after) :
    Grown places before after := by
  intro q
  rcases second q with same | ⟨inside, missing, made⟩
  · rw [same]
    exact first q
  · rcases first q with same | ⟨-, -, made'⟩
    · rw [same] at missing
      exact Or.inr ⟨inside, missing, made⟩
    · rw [made'] at missing
      cases missing

/-- What stood somewhere stands there still. -/
theorem Grown.get?_of_some (h : Grown places before after) (q : Place) (e : Entry)
    (stood : before.get? q = some e) : after.get? q = some e := by
  rcases h q with same | ⟨-, missing, -⟩
  · rw [same, stood]
  · rw [missing] at stood
    cases stood

/-- No file is made. -/
theorem Grown.file_iff (h : Grown places before after) (q : Place) (content : ByteArray)
    (executable : Bool) :
    after.get? q = some (.file content executable) ↔
      before.get? q = some (.file content executable) := by
  constructor
  · intro stands
    rcases h q with same | ⟨-, -, made⟩
    · rw [← same, stands]
    · rw [made] at stands
      cases stands
  · exact h.get?_of_some q _

theorem grown_makeDirectory (path : Path) (inside : path.place ∈ places)
    (h : before.makeDirectory path = .ok after) : Grown places before after := by
  obtain ⟨p, located, h⟩ := (bind_eq_ok_iff _ _ _).mp h
  obtain rfl := before.locate_eq path p located
  split at h
  · cases h
  · rename_i missing
    cases h
    have below : path.place ≠ [] := by
      intro root
      rw [root, get?_root] at missing
      cases missing
    intro q
    rw [get?_put before _ q _ below]
    by_cases here : q = path.place
    · subst here
      exact Or.inr ⟨inside, missing, by simp⟩
    · exact Or.inl (by simp [here])

/-- However making directories ends, it has only added directories at their places. -/
theorem grown_makeDirectoriesOf (fs : FileSystem) (paths : List Path)
    (inside : ∀ path ∈ paths, path.place ∈ places) :
    Grown places fs (fs.makeDirectoriesOf paths).2 := by
  induction paths generalizing fs with
  | nil => exact Grown.refl places fs
  | cons path parents ih =>
    have here := inside path (by simp)
    have above := ih fs fun other later => inside other (List.mem_cons_of_mem _ later)
    unfold makeDirectoriesOf
    split
    · exact Grown.refl places fs
    · split
      · rename_i made
        exact grown_makeDirectory path here made
      · split
        · rename_i failed
          rwa [failed] at above
        · rename_i provided
          rw [provided] at above
          split
          · rename_i made
            exact above.trans (grown_makeDirectory path here made)
          · exact above
      · exact Grown.refl places fs

/-- However providing a directory ends, it has only added directories on the way to it. -/
theorem grown_provideDirectory (fs : FileSystem) (path : Path) :
    Grown path.waypoints fs (fs.provideDirectory path).2 :=
  fs.grown_makeDirectoriesOf path.ancestors path.place_mem_waypoints

/-! ### Looking -/

theorem pathExists_of_isFile (fs : FileSystem) (path : Path) (h : fs.isFile path = true) :
    fs.pathExists path = true := by
  unfold isFile at h
  unfold pathExists
  split at h
  · rename_i e there
    rw [there]
    rfl
  · cases h

/-- A file is what a path leads to if a file stands there and the path demands no directory. -/
theorem isFile_iff (fs : FileSystem) (path : Path) :
    fs.isFile path = true ↔
      path.demandsDirectory = false ∧
        ∃ place content executable, fs.locate path = .ok place ∧
          fs.get? place = some (.file content executable) := by
  unfold isFile entry
  cases located : fs.locate path with
  | error e => simp [bind, Except.bind]
  | ok place =>
    cases stood : fs.get? place with
    | none => simp [stood, bind, Except.bind, throw, throwThe, MonadExceptOf.throw]
    | some e =>
      cases e with
      | directory => simp [stood, bind, Except.bind, pure, Except.pure, Entry.isFile]
      | file content executable =>
        cases path.demandsDirectory with
        | true => simp [stood, bind, Except.bind, throw, throwThe, MonadExceptOf.throw]
        | false =>
          simp only [bind, Except.bind, stood, Bool.false_eq_true, if_false, pure, Except.pure,
            Entry.isFile, true_and, true_iff]
          exact ⟨place, content, executable, rfl, stood⟩

theorem isBelow_iff (p q : Place) : isBelow p q = true ↔ p <+: q ∧ p ≠ q := by
  rw [isBelow, Bool.and_eq_true, List.isPrefixOf_iff_prefix, decide_eq_true_iff]

/-- What lies below a place and has one name more than another one lies below it or is its
child. -/
theorem isBelow_concat (p q : Place) (name : String) :
    isBelow p (q ++ [name]) = true ↔ p <+: q := by
  rw [isBelow_iff, List.prefix_concat_iff]
  constructor
  · rintro ⟨same | above, other⟩
    · exact absurd same other
    · exact above
  · intro above
    refine ⟨Or.inr above, ?_⟩
    rintro rfl
    have shorter := above.length_le
    rw [List.length_append, List.length_singleton] at shorter
    omega

end FileSystem

end TsWorkshop
