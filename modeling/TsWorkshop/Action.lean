import TsWorkshop.Docs.Timestamp
import TsWorkshop.Event
import TsWorkshop.Number.Word
import TsWorkshop.Process.Launch
import TsWorkshop.Report.Measure
import TsWorkshop.Text.Style

/-!
Actions: what a command does on a host. An action succeeds or fails, and either way leaves the
progress made so far: the files as they are now, the events that were reported, and the text that
was shown to the user.
-/

namespace TsWorkshop

/-- Where a command runs. -/
structure Host where
  /-- The working directory. -/
  cwd : Path
  environment : Environment := []
  /-- How programs behave. -/
  launch : Launcher
  now : Timestamp
  /-- The time that a build is said to have taken. -/
  elapsed : Measure.Duration := ⟨0, 0⟩
  /-- What tells scratch directories of different runs apart. -/
  runMark : String := ""
  colors : Bool := false
  /-- How the program was built to treat sums that are no words. -/
  overflow : Word.Overflow := .stops

/-- What has been done so far. -/
structure Progress where
  files : FileSystem
  events : List Event := []
  screen : String := ""

/-- Something that is done on a host. -/
def Action (ε α : Type) : Type := Host → Progress → Except ε α × Progress

namespace Action

variable {ε ε' α β : Type}

def run (action : Action ε α) (host : Host) (progress : Progress) : Except ε α × Progress :=
  action host progress

instance : Monad (Action ε) where
  pure a := fun _ progress => (.ok a, progress)
  bind action next := fun host progress =>
    match action host progress with
    | (.ok a, progress) => next a host progress
    | (.error e, progress) => (.error e, progress)

/-- Ends with an error. -/
def fail (e : ε) : Action ε α := fun _ progress => (.error e, progress)

/-- The outcome of a calculation. -/
def ofExcept (result : Except ε α) : Action ε α := fun _ progress => (result, progress)

/-- What is read off the host. -/
def asks (f : Host → α) : Action ε α := fun host progress => (.ok (f host), progress)

/-- The files as they are now. -/
def files : Action ε FileSystem := fun _ progress => (.ok progress.files, progress)

/-- Changes the files, unless that is refused. -/
def change (f : FileSystem → Except ε FileSystem) : Action ε Unit :=
  fun _ progress =>
    match f progress.files with
    | .ok files => (.ok (), { progress with files })
    | .error e => (.error e, progress)

/-- Changes the files, also as far as it gets before a refusal. -/
def alter (f : FileSystem → Except ε Unit × FileSystem) : Action ε Unit :=
  fun _ progress =>
    match f progress.files with
    | (result, files) => (result, { progress with files })

/-- Reports an event. -/
def report (event : Event) : Action ε Unit :=
  fun _ progress => (.ok (), { progress with events := progress.events ++ [event] })

/-- Reports events in order. -/
def reportAll (events : List Event) : Action ε Unit :=
  fun _ progress => (.ok (), { progress with events := progress.events ++ events })

/-- Shows a line to the user. -/
def print (line : String) : Action ε Unit :=
  fun _ progress => (.ok (), { progress with screen := progress.screen ++ line ++ "\n" })

/-- Starts a program and waits for its end. -/
def launch (l : Launch) : Action IoError Output :=
  fun host progress =>
    match host.launch l progress.files with
    | (result, files) => (result, { progress with files })

/-- The same action with its error put into other words. -/
def mapError (f : ε → ε') (action : Action ε α) : Action ε' α :=
  fun host progress =>
    match action host progress with
    | (.ok a, progress) => (.ok a, progress)
    | (.error e, progress) => (.error (f e), progress)

/-- The outcome of an action, which itself does not fail. -/
def attempt (action : Action ε α) : Action ε' (Except ε α) :=
  fun host progress =>
    match action host progress with
    | (result, progress) => (.ok result, progress)

/-! ### Running step by step -/

@[simp] theorem run_pure (a : α) (host : Host) (progress : Progress) :
    (pure a : Action ε α).run host progress = (.ok a, progress) := rfl

theorem run_bind (action : Action ε α) (next : α → Action ε β) (host : Host)
    (progress : Progress) :
    (action >>= next).run host progress =
      match action.run host progress with
      | (.ok a, progress) => (next a).run host progress
      | (.error e, progress) => (.error e, progress) := rfl

@[simp] theorem run_fail (e : ε) (host : Host) (progress : Progress) :
    (fail e : Action ε α).run host progress = (.error e, progress) := rfl

@[simp] theorem run_report (event : Event) (host : Host) (progress : Progress) :
    (report event : Action ε Unit).run host progress =
      (.ok (), { progress with events := progress.events ++ [event] }) := rfl

@[simp] theorem run_ofExcept (result : Except ε α) (host : Host) (progress : Progress) :
    (ofExcept result).run host progress = (result, progress) := rfl

@[simp] theorem run_asks (f : Host → α) (host : Host) (progress : Progress) :
    (asks f : Action ε α).run host progress = (.ok (f host), progress) := rfl

@[simp] theorem run_files (host : Host) (progress : Progress) :
    (files : Action ε FileSystem).run host progress = (.ok progress.files, progress) := rfl

@[simp] theorem run_alter (f : FileSystem → Except ε Unit × FileSystem) (host : Host)
    (progress : Progress) :
    (alter f).run host progress =
      ((f progress.files).1, { progress with files := (f progress.files).2 }) := rfl

@[simp] theorem run_reportAll (events : List Event) (host : Host) (progress : Progress) :
    (reportAll events : Action ε Unit).run host progress =
      (.ok (), { progress with events := progress.events ++ events }) := rfl

theorem run_change_ok (f : FileSystem → Except ε FileSystem) (host : Host) (progress : Progress)
    (files : FileSystem) (h : f progress.files = .ok files) :
    (change f).run host progress = (.ok (), { progress with files }) := by
  simp [run, change, h]

theorem run_change_error (f : FileSystem → Except ε FileSystem) (host : Host) (progress : Progress)
    (e : ε) (h : f progress.files = .error e) :
    (change f).run host progress = (.error e, progress) := by
  simp [run, change, h]

/-- Putting an error into other words changes neither a result nor the progress. -/
theorem run_mapError (f : ε → ε') (action : Action ε α) (host : Host) (progress : Progress) :
    (mapError f action).run host progress =
      ((action.run host progress).1.mapError f, (action.run host progress).2) := by
  unfold run mapError
  rcases action host progress with ⟨_ | _, _⟩ <;> rfl

theorem run_bind_ok (action : Action ε α) (next : α → Action ε β) (host : Host)
    (progress middle : Progress) (a : α) (h : action.run host progress = (.ok a, middle)) :
    (action >>= next).run host progress = (next a).run host middle := by
  simp [run_bind, h]

theorem run_bind_error (action : Action ε α) (next : α → Action ε β) (host : Host)
    (progress middle : Progress) (e : ε) (h : action.run host progress = (.error e, middle)) :
    (action >>= next).run host progress = (.error e, middle) := by
  simp [run_bind, h]

end Action

end TsWorkshop
