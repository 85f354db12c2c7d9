import TsWorkshop.Proofs.Except
import TsWorkshop.Terminal

/-!
Actions that leave the files alone, and actions to which nothing but the files makes a difference.
What reads, calculates and reports does both. A program that is started leaves the files alone on a
host where programs change no file; whatever it does, it knows neither the events nor the screen.
-/

namespace TsWorkshop

namespace Action

variable {ε ε' α β : Type} {host : Host}

/-- However the action ends on the host, the files are as they were. -/
def KeepsFiles (host : Host) (action : Action ε α) : Prop :=
  ∀ progress, (action.run host progress).2.files = progress.files

theorem keepsFiles_pure (a : α) : KeepsFiles host (pure a : Action ε α) := fun _ => rfl

theorem keepsFiles_fail (e : ε) : KeepsFiles host (fail e : Action ε α) := fun _ => rfl

theorem keepsFiles_ofExcept (result : Except ε α) : KeepsFiles host (ofExcept result) :=
  fun _ => rfl

theorem keepsFiles_asks (f : Host → α) : KeepsFiles host (asks f : Action ε α) := fun _ => rfl

theorem keepsFiles_files : KeepsFiles host (files : Action ε FileSystem) := fun _ => rfl

theorem keepsFiles_report (event : Event) : KeepsFiles host (report event : Action ε Unit) :=
  fun _ => rfl

theorem KeepsFiles.mapError {action : Action ε α} (h : KeepsFiles host action) (f : ε → ε') :
    KeepsFiles host (action.mapError f) := by
  intro progress
  rw [run_mapError]
  exact h progress

/-- What begins with an action that leaves the files alone fails with it, or goes on from files that
are the same. -/
theorem KeepsFiles.run_bind_cases {action : Action ε α} (h : KeepsFiles host action)
    (next : α → Action ε β) (progress : Progress) :
    (∃ e after, (action >>= next).run host progress = (.error e, after) ∧
        after.files = progress.files) ∨
      ∃ a middle, action.run host progress = (.ok a, middle) ∧ middle.files = progress.files ∧
        (action >>= next).run host progress = (next a).run host middle := by
  have kept := h progress
  rcases result : action.run host progress with ⟨e | a, middle⟩
  · rw [result] at kept
    exact Or.inl ⟨e, middle, run_bind_error action next host progress middle e result, kept⟩
  · rw [result] at kept
    exact Or.inr ⟨a, middle, rfl, kept, run_bind_ok action next host progress middle a result⟩

theorem KeepsFiles.bind {action : Action ε α} {next : α → Action ε β} (h : KeepsFiles host action)
    (later : ∀ a, KeepsFiles host (next a)) : KeepsFiles host (action >>= next) := by
  intro progress
  rcases h.run_bind_cases next progress with ⟨e, after, failed, kept⟩ | ⟨a, middle, -, kept, goes⟩
  · rw [failed, kept]
  · rw [goes, later a middle, kept]

/-! ### What makes a difference -/

/-- What an action makes of files: its outcome, and the files afterwards. -/
def onFiles (action : Action ε α) (host : Host) (files : FileSystem) : Except ε α × FileSystem :=
  ((action.run host { files }).1, (action.run host { files }).2.files)

/-- What was reported and shown before makes no difference to the outcome or to the files. -/
def ReadsFiles (host : Host) (action : Action ε α) : Prop :=
  ∀ progress, ((action.run host progress).1, (action.run host progress).2.files) =
    action.onFiles host progress.files

theorem readsFiles_pure (a : α) : ReadsFiles host (pure a : Action ε α) := fun _ => rfl

theorem readsFiles_fail (e : ε) : ReadsFiles host (fail e : Action ε α) := fun _ => rfl

theorem readsFiles_ofExcept (result : Except ε α) : ReadsFiles host (ofExcept result) :=
  fun _ => rfl

theorem readsFiles_asks (f : Host → α) : ReadsFiles host (asks f : Action ε α) := fun _ => rfl

theorem readsFiles_files : ReadsFiles host (files : Action ε FileSystem) := fun _ => rfl

theorem readsFiles_report (event : Event) : ReadsFiles host (report event : Action ε Unit) :=
  fun _ => rfl

@[simp] theorem run_launch (l : Launch) (progress : Progress) :
    (launch l).run host progress =
      ((host.launch l progress.files).1,
        { progress with files := (host.launch l progress.files).2 }) := rfl

theorem readsFiles_launch (l : Launch) : ReadsFiles host (launch l) := fun _ => rfl

theorem onFiles_mapError (f : ε → ε') (action : Action ε α) (files : FileSystem) :
    (action.mapError f).onFiles host files =
      ((action.onFiles host files).1.mapError f, (action.onFiles host files).2) := by
  unfold onFiles
  rw [run_mapError]

theorem onFiles_mapError_ok (f : ε → ε') (action : Action ε α) (files after : FileSystem) (a : α)
    (h : action.onFiles host files = (.ok a, after)) :
    (action.mapError f).onFiles host files = (.ok a, after) := by
  rw [onFiles_mapError, h]
  rfl

theorem ReadsFiles.mapError {action : Action ε α} (h : ReadsFiles host action) (f : ε → ε') :
    ReadsFiles host (action.mapError f) := by
  intro progress
  rw [run_mapError, onFiles_mapError, ← h progress]

/-- A sequence goes on from the files that its first action leaves. -/
theorem ReadsFiles.run_bind_ok {action : Action ε α} (h : ReadsFiles host action)
    (next : α → Action ε β) (progress : Progress) (a : α) (files : FileSystem)
    (ends : action.onFiles host progress.files = (.ok a, files)) :
    ∃ middle, middle.files = files ∧
      (action >>= next).run host progress = (next a).run host middle := by
  rw [← h progress, Prod.mk.injEq] at ends
  exact ⟨_, ends.2, Action.run_bind_ok action next host progress _ a (Prod.ext ends.1 rfl)⟩

/-- A sequence fails with its first action. -/
theorem ReadsFiles.run_bind_error {action : Action ε α} (h : ReadsFiles host action)
    (next : α → Action ε β) (progress : Progress) (e : ε) (files : FileSystem)
    (ends : action.onFiles host progress.files = (.error e, files)) :
    ∃ after, after.files = files ∧ (action >>= next).run host progress = (.error e, after) := by
  rw [← h progress, Prod.mk.injEq] at ends
  exact ⟨_, ends.2, Action.run_bind_error action next host progress _ e (Prod.ext ends.1 rfl)⟩

theorem ReadsFiles.bind {action : Action ε α} {next : α → Action ε β} (h : ReadsFiles host action)
    (later : ∀ a, ReadsFiles host (next a)) : ReadsFiles host (action >>= next) := by
  intro progress
  rcases ends : action.onFiles host progress.files with ⟨e | a, files⟩
  · obtain ⟨after, rfl, fails⟩ := h.run_bind_error next progress e files ends
    obtain ⟨after', same, fails'⟩ := h.run_bind_error next { files := progress.files } e _ ends
    rw [onFiles, fails, fails', same]
  · obtain ⟨middle, rfl, goes⟩ := h.run_bind_ok next progress a files ends
    obtain ⟨middle', same, goes'⟩ := h.run_bind_ok next { files := progress.files } a _ ends
    rw [onFiles, goes, goes', later a middle, ← same, later a middle']

/-! ### What came before a success -/

theorem exists_of_run_eq_ok {action : Action ε α} {progress : Progress} {a : α}
    (h : (action.run host progress).1 = .ok a) :
    ∃ after, action.run host progress = (.ok a, after) :=
  ⟨_, Prod.ext h rfl⟩

/-- A sequence of two actions that succeeds has succeeded with the first one, and with the second
one from there. -/
theorem exists_of_run_bind {action : Action ε α} {next : α → Action ε β}
    {progress after : Progress} {b : β}
    (h : (action >>= next).run host progress = (.ok b, after)) :
    ∃ a middle, action.run host progress = (.ok a, middle) ∧
      (next a).run host middle = (.ok b, after) := by
  rcases result : action.run host progress with ⟨e | a, middle⟩
  · rw [run_bind_error action next host progress middle e result] at h
    cases h
  · rw [run_bind_ok action next host progress middle a result] at h
    exact ⟨a, middle, rfl, h⟩

end Action

/-! ### What is shown -/

namespace Terminal

variable (ε : Type) (host : Host)

theorem run_status (mark : Mark) (message : String) (progress : Progress) :
    ∃ after, after.files = progress.files ∧
      (status mark message : Action ε Unit).run host progress = (.ok (), after) :=
  ⟨((status mark message : Action ε Unit).run host progress).2, rfl, rfl⟩

theorem run_blocks (texts : List String) (progress : Progress) :
    ∃ after, after.files = progress.files ∧
      (blocks texts : Action ε Unit).run host progress = (.ok (), after) := by
  induction texts generalizing progress with
  | nil => exact ⟨progress, rfl, rfl⟩
  | cons text rest ih =>
    exact ih ((Action.print (text ++ "\n") : Action ε Unit).run host progress).2

end Terminal

end TsWorkshop
