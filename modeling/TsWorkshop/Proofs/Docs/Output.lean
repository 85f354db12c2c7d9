import TsWorkshop.Docs.Output
import TsWorkshop.Docs.Source
import TsWorkshop.Proofs.FileSystem.Access

/-!
What a documentation run leaves behind. Writing a document ends in one of three ways (`Written`),
and a run that does not come to the writing leaves the files alone. `generate_all_or_nothing` puts
them together: the output holds the whole document, or every file is as it was.
-/

namespace TsWorkshop

namespace Document

/-- The places on the way to the directory of a file. -/
def parentPlaces (path : Path) : List Place := ((directory? path).map Path.waypoints).getD []

/-- The files once the directory of a file has been provided. -/
inductive Ready (path : Path) (before : FileSystem) : FileSystem → Prop
  | here (top : directory? path = none) : Ready path before before
  | provided (directory : Path) (after : FileSystem) (above : directory? path = some directory)
      (made : before.provideDirectory directory = (.ok (), after)) : Ready path before after

/-- The ways in which writing a document ends, with the outcome and the files afterwards. -/
inductive Written (path : Path) (content : ByteArray) (before : FileSystem) :
    Except DocsError Unit → FileSystem → Prop
  | refusedDirectory (directory : Path) (e : IoError) (after : FileSystem)
      (above : directory? path = some directory)
      (refused : before.provideDirectory directory = (.error e, after)) :
      Written path content before (.error (.io directory e)) after
  | refusedFile (base : FileSystem) (e : IoError) (ready : Ready path before base)
      (refused : base.write path content = .error e) :
      Written path content before (.error (.io path e)) base
  | written (base after : FileSystem) (ready : Ready path before base)
      (accepted : base.write path content = .ok after) : Written path content before (.ok ()) after

theorem Ready.grown {path : Path} {before after : FileSystem} (h : Ready path before after) :
    FileSystem.Grown (parentPlaces path) before after := by
  cases h with
  | here top => exact FileSystem.Grown.refl _ _
  | provided directory after above made =>
    have grown := before.grown_provideDirectory directory
    rw [made] at grown
    simpa [parentPlaces, above] using grown

/-- The second step of writing, once the directory is there. -/
theorem written_of_ready (document : Document) (path : Path) (before : FileSystem) (host : Host)
    (progress : Progress) (ready : Ready path before progress.files) :
    let run := (((Action.change fun fs => fs.write path document.text.toUTF8).mapError
      (.io path) : Action DocsError Unit)).run host progress
    Written path document.text.toUTF8 before run.1 run.2.files := by
  rw [Action.run_mapError]
  cases result : progress.files.write path document.text.toUTF8 with
  | error e =>
    rw [Action.run_change_error _ host progress e result]
    exact Written.refusedFile _ e ready result
  | ok after =>
    rw [Action.run_change_ok _ host progress after result]
    exact Written.written _ after ready result

theorem run_write (document : Document) (path : Path) (host : Host) (progress : Progress) :
    let run := (document.write path).run host progress
    Written path document.text.toUTF8 progress.files run.1 run.2.files := by
  unfold write
  cases above : directory? path with
  | none => exact written_of_ready document path _ host progress (Ready.here above)
  | some directory =>
    dsimp only
    have step := Action.run_mapError (DocsError.io directory)
      (Action.alter fun fs => fs.provideDirectory directory) host progress
    rw [Action.run_alter] at step
    rcases made : progress.files.provideDirectory directory with ⟨e | _, after⟩
    · rw [made] at step
      rw [Action.run_bind_error _ _ host progress _ _ step]
      exact Written.refusedDirectory directory e after above made
    · rw [made] at step
      rw [Action.run_bind_ok _ _ host progress _ () step]
      exact written_of_ready document path _ host _ (Ready.provided directory after above made)

/-- Where writing fails, nothing but directories was added. -/
theorem Written.grown_of_error (path : Path) (content : ByteArray) (before after : FileSystem)
    (error : DocsError) (h : Written path content before (.error error) after) :
    FileSystem.Grown (parentPlaces path) before after := by
  cases h with
  | refusedDirectory directory e _ above refused =>
    have grown := before.grown_provideDirectory directory
    rw [refused] at grown
    simpa [parentPlaces, above] using grown
  | refusedFile base e ready refused => exact ready.grown

/-- Where writing succeeds, the content is there, and nothing but directories was added. -/
theorem Written.read_of_ok (path : Path) (content : ByteArray) (before after : FileSystem)
    (h : Written path content before (.ok ()) after) :
    after.read path = .ok content ∧ ∀ q, q ≠ path.place →
      after.get? q = before.get? q ∨
        q ∈ parentPlaces path ∧ before.get? q = none ∧ after.get? q = some .directory := by
  cases h with
  | written base after ready accepted =>
    refine ⟨base.read_of_write after path content accepted, fun q other => ?_⟩
    rw [base.get?_of_write after path content accepted q other]
    exact ready.grown q

/-- A directory that cannot be provided is the reason that is given. -/
theorem Written.eq_refusedDirectory (path directory : Path) (content : ByteArray)
    (before after : FileSystem) (outcome : Except DocsError Unit) (e : IoError)
    (h : Written path content before outcome after) (above : directory? path = some directory)
    (refused : (before.provideDirectory directory).1 = .error e) :
    outcome = .error (.io directory e) := by
  have provided : ∀ base, ¬ Ready path before base := by
    intro base ready
    cases ready with
    | here top =>
      rw [top] at above
      cases above
    | provided directory' _ above' made =>
      obtain rfl : directory' = directory := by simpa [above] using above'.symm
      rw [made] at refused
      cases refused
  cases h with
  | refusedDirectory directory' e' after above' refused' =>
    obtain rfl : directory' = directory := by simpa [above] using above'.symm
    rw [refused'] at refused
    cases refused
    rfl
  | refusedFile _ _ ready _ => exact absurd ready (provided _)
  | written _ _ ready _ => exact absurd ready (provided _)

/-! ### A run -/

variable (request : DocsRequest) (registry : Registry) (source : Action DocsError Declaration)
  (host : Host) (progress : Progress)

/-- What the source of a run answers, and the progress that it leaves. -/
def answer : Except DocsError Declaration × Progress :=
  source.run host { progress with events := progress.events ++ [startReport] }

theorem run_generate_workspaces (several : request.workspaces = true) :
    (generate request registry source).run host progress =
      (.error .workspacesUnsupported,
        { progress with
          events := progress.events ++
            [{ level := .error, target
               message := "Workspaces are not supported at this given moment" }] }) := by
  unfold generate
  rw [if_pos several]
  rfl

theorem run_generate_error (single : request.workspaces = false) (e : DocsError)
    (middle : Progress) (answered : answer source host progress = (.error e, middle)) :
    (generate request registry source).run host progress = (.error e, middle) := by
  unfold generate
  rw [if_neg (by simp [single]), Action.run_bind_ok _ _ host progress _ () rfl]
  exact Action.run_bind_error _ _ host _ middle e answered

/-- The last steps of a run, from the writing on. -/
theorem run_write_report (document : Document) :
    let run := (do
      document.write request.output
      Action.report (writtenReport request.output document)
      return request.output : Action DocsError Path).run host progress
    ∃ outcome, run.1 = outcome.map (fun _ => request.output) ∧
      Written request.output document.text.toUTF8 progress.files outcome run.2.files := by
  have written := run_write document request.output host progress
  rcases result : (document.write request.output).run host progress with ⟨e | _, after⟩
  · rw [result] at written
    rw [Action.run_bind_error _ _ host progress after e result]
    exact ⟨_, rfl, written⟩
  · rw [result] at written
    rw [Action.run_bind_ok _ _ host progress after () result]
    exact ⟨_, rfl, written⟩

/-- Once a project was had, a run ends as the writing of its document ends. -/
theorem run_generate_ok (single : request.workspaces = false) (project : Declaration)
    (middle : Progress) (answered : answer source host progress = (.ok project, middle)) :
    let run := (generate request registry source).run host progress
    ∃ outcome, run.1 = outcome.map (fun _ => request.output) ∧
      Written request.output (assemble project registry host.now).text.toUTF8 middle.files outcome
        run.2.files := by
  unfold generate
  rw [if_neg (by simp [single]), Action.run_bind_ok _ _ host progress _ () rfl,
    Action.run_bind_ok _ _ host _ middle project answered,
    Action.run_bind_ok _ _ host middle middle host.now rfl]
  dsimp only
  rw [Action.run_bind_ok _ _ host middle _ () rfl]
  split
  · rw [Action.run_bind_ok _ _ host _ _ () rfl]
    exact run_write_report request host _ (assemble project registry host.now)
  · exact run_write_report request host _ (assemble project registry host.now)

/-- A source that reads a file leaves all files as they are. -/
theorem files_answer_fromFile (path : Path) :
    (answer (Reflection.fromFile path) host progress).2.files = progress.files := rfl

/-- A documentation run is all or nothing. What counts as before is what the source of the run has
left; a source that reads a file leaves everything alone (`files_answer_fromFile`).

In order: several packages are refused before the source is asked; the failure of a source is
passed on; a run that succeeds has put the whole document in the place of whatever the output was,
and has otherwise only made missing directories above it; a directory that cannot be provided is
reported, and no file is touched; and whatever the failure, what stood somewhere stands there
still. -/
theorem generate_all_or_nothing :
    let run := (generate request registry source).run host progress
    let before := answer source host progress
    (request.workspaces = true →
      run.1 = .error .workspacesUnsupported ∧ run.2.files = progress.files ∧
        ∀ other, (generate request registry other).run host progress = run) ∧
    (request.workspaces = false → ∀ e, before.1 = .error e →
      run.1 = .error e ∧ run.2.files = before.2.files) ∧
    (∀ path, run.1 = .ok path →
      path = request.output ∧ ∃ project, before.1 = .ok project ∧
        run.2.files.read path = .ok (assemble project registry host.now).text.toUTF8 ∧
        ∀ q, q ≠ path.place →
          run.2.files.get? q = before.2.files.get? q ∨
            q ∈ parentPlaces path ∧ before.2.files.get? q = none ∧
              run.2.files.get? q = some .directory) ∧
    (request.workspaces = false → ∀ project directory e, before.1 = .ok project →
      directory? request.output = some directory →
      (before.2.files.provideDirectory directory).1 = .error e →
        run.1 = .error (.io directory e) ∧
          ∀ q content executable,
            run.2.files.get? q = some (.file content executable) ↔
              before.2.files.get? q = some (.file content executable)) ∧
    (request.workspaces = false → ∀ e, run.1 = .error e → ∀ q entry,
      before.2.files.get? q = some entry → run.2.files.get? q = some entry) := by
  intro run before
  cases several : request.workspaces with
  | true =>
    have refused (other : Action DocsError Declaration) :=
      run_generate_workspaces request registry other host progress several
    have here : run = _ := refused source
    refine ⟨fun _ => ⟨by rw [here], by rw [here], fun other => by rw [here, refused other]⟩,
      by simp, ?_, by simp, by simp⟩
    intro path accepted
    rw [here] at accepted
    cases accepted
  | false =>
    refine ⟨by simp, ?_⟩
    rcases answered : before with ⟨e | project, middle⟩
    · have here : run = _ :=
        run_generate_error request registry source host progress several e middle answered
      rw [here]
      refine ⟨?_, ?_, ?_, ?_⟩
      · rintro _ e' ⟨⟩
        exact ⟨rfl, rfl⟩
      · rintro path accepted
        cases accepted
      · rintro _ project _ _ accepted
        cases accepted
      · rintro _ _ _ q entry stood
        exact stood
    · obtain ⟨outcome, ends, written⟩ :=
        run_generate_ok request registry source host progress several project middle answered
      have ends : run.1 = outcome.map (fun _ => request.output) := ends
      have written : Written request.output _ middle.files outcome run.2.files := written
      refine ⟨by simp, ?_, ?_, ?_⟩
      · intro path accepted
        obtain ⟨⟨⟩, rfl, rfl⟩ := (map_eq_ok_iff _ _ _).mp (ends.symm.trans accepted)
        exact ⟨rfl, project, rfl, written.read_of_ok⟩
      · intro _ project' directory e _ above refused
        obtain rfl := written.eq_refusedDirectory _ _ _ _ _ _ e above refused
        exact ⟨ends, (written.grown_of_error _ _ _ _ _).file_iff⟩
      · intro _ e failed q entry stood
        cases outcome with
        | ok => simp [ends, Except.map] at failed
        | error e' => exact (written.grown_of_error _ _ _ _ _).get?_of_some q entry stood

/-- A host on which no program can be started. -/
def bareHost : Host :=
  { cwd := "/", launch := fun _ files => (.error .notFound, files), now := ⟨0, 0⟩ }

/-- Files with an older output among them. -/
def outdated : Progress :=
  { files := { entries :=
      [(["docs"], .directory), (["docs", "docs.json"], .file "stale".toUTF8 false)] } }

/-- The source of a project without members. -/
def emptyProject : Action DocsError Declaration := pure { name := "demo" }

/-- An older output is kept where the source fails and replaced where it does not; several packages
are refused; and a directory is not made below a file. -/
theorem generate_all_or_nothing_outdated :
    ((generate { workspaces := true } .default emptyProject).run bareHost outdated).1 =
        .error .workspacesUnsupported ∧
      ((generate {} .default (Action.fail (.noReflection "gone"))).run bareHost outdated).2.files =
        outdated.files ∧
      ((generate {} .default emptyProject).run bareHost outdated).2.files.read "docs/docs.json" =
        .ok (assemble { name := "demo" } .default ⟨0, 0⟩).text.toUTF8 ∧
      ((generate { output := "docs/docs.json/a.json" } .default emptyProject).run bareHost
        outdated).1 = .error (.io "docs/docs.json" .alreadyExists) ∧
      ((generate { output := "docs/docs.json/a.json" } .default emptyProject).run bareHost
        outdated).2.files.get? ["docs", "docs.json"] = some (.file "stale".toUTF8 false) := by
  refine ⟨?_, ?_, ?_, ?_⟩
  · have refused := generate_all_or_nothing { workspaces := true } .default emptyProject bareHost
      outdated
    exact (refused.1 rfl).1
  · have failed := generate_all_or_nothing {} .default (Action.fail (.noReflection "gone")) bareHost
      outdated
    exact (failed.2.1 rfl _ rfl).2
  · have written := generate_all_or_nothing {} .default emptyProject bareHost outdated
    obtain ⟨_, project, same, content, _⟩ := written.2.2.1 "docs/docs.json" (by decide +kernel)
    cases same
    exact content
  · have blocked := (generate_all_or_nothing { output := "docs/docs.json/a.json" } .default
      emptyProject bareHost outdated).2.2.2.1 rfl _ "docs/docs.json" .alreadyExists rfl
      (by decide +kernel) (by decide +kernel)
    exact ⟨blocked.1, (blocked.2 _ _ _).mpr rfl⟩

end Document

end TsWorkshop
