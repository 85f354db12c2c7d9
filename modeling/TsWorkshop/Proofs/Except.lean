/-!
Outcomes that are put together: when a result comes out, and of what. `outcome view` forgets the
complaint of a failure and all of a result that `view` does not show.
-/

namespace TsWorkshop

variable {ε ε' α β γ δ : Type}

theorem bind_eq_ok_iff (x : Except ε α) (next : α → Except ε β) (b : β) :
    (x >>= next) = .ok b ↔ ∃ a, x = .ok a ∧ next a = .ok b := by
  cases x with
  | error e =>
    constructor
    · intro h
      cases h
    · rintro ⟨a, h, -⟩
      cases h
  | ok a =>
    constructor
    · exact fun h => ⟨a, rfl, h⟩
    · rintro ⟨a', same, h⟩
      cases same
      exact h

theorem mapError_eq_ok_iff (x : Except ε α) (f : ε → ε') (a : α) :
    x.mapError f = .ok a ↔ x = .ok a := by
  cases x with
  | error e =>
    constructor <;>
    · intro h
      cases h
  | ok a' =>
    constructor <;>
    · intro h
      cases h
      rfl

theorem map_eq_ok_iff (x : Except ε α) (f : α → β) (b : β) :
    x.map f = .ok b ↔ ∃ a, x = .ok a ∧ f a = b := by
  cases x with
  | error e =>
    constructor
    · intro h
      cases h
    · rintro ⟨a, h, -⟩
      cases h
  | ok a =>
    constructor
    · intro h
      cases h
      exact ⟨a, rfl, rfl⟩
    · rintro ⟨a', same, rfl⟩
      cases same
      rfl

/-! ### Outcomes in part -/

theorem toOption_eq_some_iff (x : Except ε α) (a : α) : x.toOption = some a ↔ x = .ok a := by
  cases x <;> simp [Except.toOption]

theorem toOption_bind (x : Except ε α) (next : α → Except ε β) :
    (x >>= next).toOption = x.toOption.bind fun a => (next a).toOption := by
  cases x <;> rfl

/-- What `view` shows of a result; nothing if there is none. -/
def outcome (view : α → γ) (x : Except ε α) : Option γ := x.toOption.map view

theorem outcome_pure (view : α → γ) (a : α) :
    outcome view (pure a : Except ε α) = some (view a) := rfl

theorem exists_ok_iff (view : α → γ) (x : Except ε α) :
    (∃ a, x = .ok a) ↔ (outcome view x).isSome = true := by
  cases x <;> simp [outcome, Except.toOption]

theorem outcome_congr (view : α → γ) (x y : Except ε α) (same : ∀ a, x = .ok a ↔ y = .ok a) :
    outcome view x = outcome view y := by
  have results : x.toOption = y.toOption := Option.ext fun a => by
    rw [toOption_eq_some_iff, same, toOption_eq_some_iff]
  rw [outcome, results, outcome]

/-- A function of the result shows what the view of the result already shows. -/
theorem outcome_map (view : α → γ) (view' : β → δ) (f : α → β) (g : γ → δ)
    (shows : ∀ a, view' (f a) = g (view a)) (x : Except ε α) :
    outcome view' (x.map f) = (outcome view x).map g := by
  cases x with
  | error e => rfl
  | ok a => exact congrArg some (shows a)

/-- Two outcomes that look alike are two failures, or two results that look alike. -/
@[elab_as_elim]
theorem outcome_elim {motive : Except ε α → Except ε α → Prop} (view : α → γ) (x y : Except ε α)
    (same : outcome view x = outcome view y) (failed : ∀ e e', motive (.error e) (.error e'))
    (found : ∀ a b, view a = view b → motive (.ok a) (.ok b)) : motive x y := by
  cases x with
  | error e =>
    cases y with
    | error e' => exact failed e e'
    | ok b => cases same
  | ok a =>
    cases y with
    | error e => cases same
    | ok b => exact found a b (Option.some.inj same)

/-- What goes on from results that look alike looks alike if each step keeps it so. -/
theorem outcome_bind (view : α → γ) (view' : β → δ) (x y : Except ε α) (f g : α → Except ε β)
    (same : outcome view x = outcome view y)
    (next : ∀ a b, view a = view b → outcome view' (f a) = outcome view' (g b)) :
    outcome view' (x >>= f) = outcome view' (y >>= g) :=
  outcome_elim view x y same (fun _ _ => rfl) next

end TsWorkshop
