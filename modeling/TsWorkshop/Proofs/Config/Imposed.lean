import TsWorkshop.Proofs.Config.Layers
import TsWorkshop.Proofs.Config.Placing

/-!
What the command line imposes. Its layer is laid over all others, so a configuration that can be
loaded has the value that the command line sets, whatever the other layers say (`load_imposed`).
-/

namespace TsWorkshop

namespace Setting

theorem at?_along (origin : Origin) (part : Setting) (path : List String) :
    (along origin part path).at? path = some part := by
  induction path with
  | nil => rfl
  | cons key rest ih => simp [along, at?, members, ih]

/-- The way to a part that is alone is made of dictionaries. -/
theorem open_along_self (origin : Origin) (part : Setting) (path : List String) :
    (along origin part path).Open path := by
  induction path with
  | nil => trivial
  | cons key rest ih =>
    refine ⟨rfl, fun next there => ?_⟩
    obtain rfl : along origin part rest = next := by simpa [along, members] using there
    exact ih

/-- Laying a part over a setting makes the way to it one of dictionaries, whatever stood there. -/
theorem open_overlaid_along (s : Setting) (origin : Origin) (part : Setting) (path : List String) :
    (s.overlaid (along origin part path)).Open path := by
  induction path generalizing s with
  | nil => trivial
  | cons key rest ih =>
    refine ⟨rfl, fun next there => ?_⟩
    rw [along, overlaid_singleton, members, Assoc.get?_insertSorted, if_pos rfl] at there
    obtain rfl := Option.some.inj there
    cases s.members.get? key with
    | none => exact open_along_self origin part rest
    | some old => exact ih old

theorem at?_overlaid_along (s : Setting) (origin : Origin) (part : Setting)
    (plain : part.isDictionary = false) (path : List String) :
    (s.overlaid (along origin part path)).at? path = some part := by
  rw [at?_overlaid s _ path
      (ordered_along origin part (ordered_of_not_isDictionary part plain) path)
      (open_along_self origin part path),
    at?_along, laid_some]
  cases s.at? path with
  | none => rfl
  | some old => rw [laidOver, overlaid_of_not_isDictionary old part plain]

end Setting

namespace Config

/-- A leaf that the command line sets has the value that is set there. -/
theorem load_imposed (fs : FileSystem) (cwd : Path) (environment : Environment)
    (source : Option ConfigSource) (overrides : Overrides) (config : Config) (leaf : Leaf)
    (part : Setting) (imposed : overrides.layer = .along .overrides part leaf.keys)
    (plain : part.isDictionary = false) (value : leaf.Value) (reads : leaf.read part = .ok value)
    (loaded : load fs cwd environment source overrides = .ok config) : leaf.get config = value := by
  have read := ofSetting_of_load fs cwd environment source overrides config loaded
  obtain ⟨below, stacked⟩ : ∃ below : Setting, Setting.stacked defaultLayer
      (layers fs cwd environment source overrides) =
        below.overlaid (.along .overrides part leaf.keys) := by
    rw [← imposed]
    exact ⟨_, rfl⟩
  rw [stacked] at read
  have answers := Setting.answers_of_ofSetting _ config read leaf
    (Setting.open_overlaid_along below .overrides part leaf.keys)
  rw [Setting.at?_overlaid_along below .overrides part plain] at answers
  exact answers.unique (.part part value reads)

/-- What the command line says about fixing holds for a project that is loaded. -/
theorem fix_of_load (fs : FileSystem) (cwd : Path) (environment : Environment) (root : Path)
    (explicit : Option Path) (fix : Bool) (events : List Event) (project : Project)
    (loaded : Project.load fs cwd environment root explicit { eslintFix := some fix } =
      (events, .ok project)) : project.config.eslint.fix = fix := by
  unfold Project.load at loaded
  split at loaded
  · cases loaded
  · rename_i events' source found
    cases outcome : load fs cwd environment source { eslintFix := some fix } with
    | error e =>
      rw [outcome] at loaded
      cases loaded
    | ok config =>
      rw [outcome] at loaded
      obtain ⟨-, checked⟩ := Prod.mk.inj loaded
      obtain ⟨-, -, rfl⟩ := (map_eq_ok_iff _ _ _).mp checked
      exact load_imposed fs cwd environment source _ config .fix (.scalar .overrides (.bool fix))
        rfl rfl fix rfl outcome

end Config

end TsWorkshop
