import Mathlib.Logic.Function.Basic
import TsWorkshop.Proofs.Tool.Run

/-!
Which programs are started. A program is started by an action if it matters to the action what the
program does (`Action.Starts`). An action that awaits one program starts that program and no other
(`Awaits.starts_iff`), and it still does so with actions around it that start nothing.
-/

namespace TsWorkshop

/-- The host with programs that behave in another way. -/
def Host.behaving (host : Host) (launcher : Launcher) : Host := { host with launch := launcher }

namespace Action

variable {ε ε' α β : Type} {host : Host} {progress middle : Progress} {l : Launch}

/-- The action would go another way if just this program behaved in another way. -/
def Starts (action : Action ε α) (host : Host) (progress : Progress) (l : Launch) : Prop :=
  ∃ launcher : Launcher, (∀ other ≠ l, launcher other = host.launch other) ∧
    action.run (host.behaving launcher) progress ≠ action.run host progress

/-- No program makes a difference to the action. -/
def StartsNothing (host : Host) (action : Action ε α) : Prop :=
  ∀ launcher progress, action.run (host.behaving launcher) progress = action.run host progress

theorem StartsNothing.bind {action : Action ε α} {next : α → Action ε β}
    (h : StartsNothing host action) (later : ∀ a, StartsNothing host (next a)) :
    StartsNothing host (action >>= next) := by
  intro launcher progress
  rw [run_bind, run_bind, h launcher progress]
  rcases action.run host progress with ⟨e | a, middle⟩
  · rfl
  · exact later a launcher middle

theorem StartsNothing.mapError {action : Action ε α} (h : StartsNothing host action)
    (f : ε → ε') : StartsNothing host (action.mapError f) := by
  intro launcher progress
  rw [run_mapError, run_mapError, h launcher progress]

/-! ### Awaiting a program -/

/-- What the action does is decided by the outcome of one program, and the action tells if the
program cannot be started. -/
def Awaits (host : Host) (progress : Progress) (l : Launch) (action : Action ε α) : Prop :=
  ∃ (goesOn : Except IoError Output × FileSystem → Except ε α × Progress) (refusal : IoError → ε),
    (∀ launcher, action.run (host.behaving launcher) progress =
      goesOn (launcher l progress.files)) ∧
    Function.Injective refusal ∧ ∀ e files, (goesOn (.error e, files)).1 = .error (refusal e)

theorem awaits_launch (progress : Progress) (l : Launch) :
    Awaits host progress l (launch l) :=
  ⟨fun outcome => (outcome.1, { progress with files := outcome.2 }), id, fun _ => rfl,
    Function.injective_id, fun _ _ => rfl⟩

/-- An action that awaits a program starts it, and no other. -/
theorem Awaits.starts_iff {action : Action ε α} (awaits : Awaits host progress l action)
    (other : Launch) : action.Starts host progress other ↔ other = l := by
  obtain ⟨goesOn, refusal, goes, injective, tells⟩ := awaits
  have here : action.run host progress = goesOn (host.launch l progress.files) := goes host.launch
  constructor
  · rintro ⟨launcher, same, differs⟩
    by_contra away
    rw [goes, here, same l (Ne.symm away)] at differs
    exact differs rfl
  · rintro rfl
    -- of two refusals to start, at most one is what happens on the host
    have refused (e : IoError) (unlike : (action.run host progress).1 ≠ .error (refusal e)) :
        action.Starts host progress other := by
      refine ⟨Function.update host.launch other fun files => (.error e, files), fun _ away =>
        Function.update_of_ne away _ _, fun same => unlike ?_⟩
      rw [← same, goes, Function.update_self, tells]
    by_cases first : (action.run host progress).1 = .error (refusal .notFound)
    · refine refused .execFormat fun second => ?_
      have : IoError.notFound = .execFormat :=
        injective (Except.error.inj (first.symm.trans second))
      cases this
    · exact refused .notFound first

theorem Awaits.mapError {action : Action ε α} (awaits : Awaits host progress l action)
    (f : ε → ε') (injective : Function.Injective f) :
    Awaits host progress l (action.mapError f) := by
  obtain ⟨goesOn, refusal, goes, injective', tells⟩ := awaits
  refine ⟨fun outcome => ((goesOn outcome).1.mapError f, (goesOn outcome).2), f ∘ refusal,
    fun launcher => ?_, injective.comp injective', fun e files => ?_⟩
  · rw [run_mapError, goes]
  · dsimp only
    rw [tells]
    rfl

/-- An action that comes to an end that is known. -/
def ending (result : Except ε α × Progress) : Action ε α := fun _ _ => result

/-- What starts nothing may follow. -/
theorem Awaits.bind {action : Action ε α} {next : α → Action ε β}
    (awaits : Awaits host progress l action) (later : ∀ a, StartsNothing host (next a)) :
    Awaits host progress l (action >>= next) := by
  obtain ⟨goesOn, refusal, goes, injective, tells⟩ := awaits
  refine ⟨fun outcome => (ending (goesOn outcome) >>= next).run host progress, refusal,
    fun launcher => ?_, injective, fun e files => ?_⟩
  · dsimp only
    rcases went : goesOn (launcher l progress.files) with ⟨e | a, middle⟩
    · rw [run_bind_error action next _ progress middle e ((goes launcher).trans went),
        run_bind_error (ending _) next host progress middle e rfl]
    · rw [run_bind_ok action next _ progress middle a ((goes launcher).trans went),
        run_bind_ok (ending _) next host progress middle a rfl]
      exact later a launcher middle
  · have told := tells e files
    dsimp only
    rcases went : goesOn (.error e, files) with ⟨e' | a, middle⟩
    · rw [went] at told
      rw [run_bind_error (ending _) next host progress middle e' rfl]
      exact congrArg Except.error (Except.error.inj told)
    · rw [went] at told
      cases told

/-- What starts nothing and leaves the files alone may come before. -/
theorem Awaits.after {first : Action ε α} {next : α → Action ε β} {a : α}
    (awaits : Awaits host middle l (next a)) (nothing : StartsNothing host first)
    (ran : first.run host progress = (.ok a, middle)) (kept : middle.files = progress.files) :
    Awaits host progress l (first >>= next) := by
  obtain ⟨goesOn, refusal, goes, injective, tells⟩ := awaits
  refine ⟨goesOn, refusal, fun launcher => ?_, injective, tells⟩
  rw [run_bind_ok first next _ progress middle a ((nothing launcher progress).trans ran), goes,
    kept]

end Action

/-! ### Tools -/

namespace Tool

open TsWorkshop.Action

variable {host : Host}

theorem startsNothing_resolve (root : Path) (name : String) :
    StartsNothing host (Tool.resolve root name) := by
  refine StartsNothing.bind (fun _ _ => rfl) fun fs => ?_
  split
  · exact fun _ _ => rfl
  · refine StartsNothing.bind (fun _ _ => rfl) fun runner => ?_
    split <;> exact fun _ _ => rfl

/-- Before its arguments a tool is given nothing, or its name if the package runner gets it. -/
theorem leading_of_resolve (root : Path) (name : String) (progress : Progress) (tool : Invocation)
    (resolved : ((Tool.resolve root name).run host progress).1 = .ok tool) :
    tool.leading = [] ∨ tool.leading = [name] := by
  obtain ⟨after, ran⟩ := exists_of_run_eq_ok resolved
  unfold Tool.resolve at ran
  obtain ⟨fs, _, -, ran⟩ := exists_of_run_bind ran
  split at ran
  · obtain ⟨_, _, -, ran⟩ := exists_of_run_bind ran
    cases ran
    exact .inl rfl
  · obtain ⟨runner, _, -, ran⟩ := exists_of_run_bind ran
    split at ran
    · obtain ⟨_, _, -, ran⟩ := exists_of_run_bind ran
      cases ran
      exact .inr rfl
    · cases ran

/-- A tool that is run is the program that is awaited. -/
theorem awaits_output (progress : Progress) (root : Path) (tool : Invocation)
    (args : List String) :
    Awaits host progress (command host root tool args) (Tool.output root tool args) := by
  have spawn : Function.Injective (ToolError.spawn (tool.commandLine args)) := fun _ _ same =>
    (ToolError.spawn.inj same).2
  unfold Tool.output
  refine Awaits.after ?_ (fun _ _ => rfl) (Action.run_report _ host progress) rfl
  refine Awaits.after ?_ (fun _ _ => rfl) (Action.run_asks _ host _) rfl
  exact (awaits_launch _ _).mapError _ spawn

end Tool

end TsWorkshop
