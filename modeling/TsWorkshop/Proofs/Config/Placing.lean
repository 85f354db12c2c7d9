import TsWorkshop.Config.Environment
import TsWorkshop.Proofs.Config.Setting

/-!
One part laid over a setting at the end of a path, as a variable of the environment does it. Parts
at the ends of two paths, neither of which leads through the end of the other, can be laid over in
either order (`laidOver_along_comm`). A part can be laid over an upper layer that leaves its path
open before that layer is laid over a lower one (`overlaid_along_assoc`).
-/

namespace TsWorkshop.Setting

/-- The setting that has nothing but a part at the end of a path. -/
def along (origin : Origin) (part : Setting) : List String → Setting
  | [] => part
  | key :: rest => .dict origin [(key, along origin part rest)]

theorem ofData_nested (origin : Origin) (data : Data) (path : List String) :
    ofData origin (Environment.nested data path) = along origin (ofData origin data) path := by
  induction path with
  | nil => rfl
  | cons key rest ih =>
    rw [along, ← ih]
    rfl

theorem ordered_along (origin : Origin) (part : Setting) (ordered : Ordered part)
    (path : List String) : Ordered (along origin part path) := by
  induction path with
  | nil => exact ordered
  | cons key rest ih => exact Ordered.dict origin _ (by simp [Assoc.Ascending]) (by simpa using ih)

theorem ordered_of_not_isDictionary (part : Setting) (plain : part.isDictionary = false) :
    Ordered part := by
  cases part with
  | scalar => exact Ordered.scalar _ _
  | list => exact Ordered.list _ _
  | dict => cases plain

/-! ### Laying a part over what may be there -/

/-- A part laid over what may be there. -/
def laidOver : Option Setting → Setting → Setting
  | some old, part => old.overlaid part
  | none, part => part

theorem laid_some (old : Option Setting) (part : Setting) :
    laid old (some part) = some (laidOver old part) := by
  cases old <;> rfl

/-- The members of a setting that may be there. -/
def membersOf (old : Option Setting) : Assoc Setting := (old.map members).getD []

@[simp] theorem membersOf_some (s : Setting) : membersOf (some s) = s.members := rfl

theorem laidOver_singleton (old : Option Setting) (part : Setting) (origin : Origin)
    (key : String) :
    laidOver old (.dict origin [(key, part)]) =
      .dict origin ((membersOf old).insertSorted key
        (laidOver ((membersOf old).get? key) part)) := by
  cases old with
  | none => rfl
  | some s =>
    rw [laidOver, overlaid, overlaidMembers, overlaidMembers, membersOf_some]
    cases s.members.get? key <;> rfl

theorem overlaid_singleton (s part : Setting) (origin : Origin) (key : String) :
    s.overlaid (.dict origin [(key, part)]) =
      .dict origin (s.members.insertSorted key (laidOver (s.members.get? key) part)) :=
  laidOver_singleton (some s) part origin key

/-- What is there, if anything is, has its keys in order. -/
def OrderedIfAny (old : Option Setting) : Prop := ∀ s, old = some s → Ordered s

theorem OrderedIfAny.ascending (old : Option Setting) (h : OrderedIfAny old) :
    (membersOf old).Ascending := by
  cases old with
  | none => exact List.Pairwise.nil
  | some s => exact (h s rfl).ascending

theorem OrderedIfAny.part (old : Option Setting) (h : OrderedIfAny old) (key : String) :
    OrderedIfAny ((membersOf old).get? key) := by
  intro part there
  cases old with
  | none => cases there
  | some s => exact (h s rfl).part key part there

/-! ### Two parts -/

/-- Neither path leads through the end of the other. -/
def Parted (path path' : List String) : Prop := ¬path <+: path' ∧ ¬path' <+: path

instance (path path' : List String) : Decidable (Parted path path') :=
  inferInstanceAs (Decidable (_ ∧ _))

/-- Two parted paths begin with different keys, or go on parted behind the same one. -/
theorem parted_cons_iff (key key' : String) (rest rest' : List String) :
    Parted (key :: rest) (key' :: rest') ↔ key ≠ key' ∨ Parted rest rest' := by
  by_cases same : key = key'
  · subst same
    simp [Parted, List.cons_prefix_cons]
  · simp [Parted, List.cons_prefix_cons, same, Ne.symm same]

/-- Parts at the ends of parted paths can be laid over a setting in either order. -/
theorem laidOver_along_comm (origin : Origin) (part part' : Setting) (path path' : List String)
    (parted : Parted path path') (old : Option Setting) (ordered : OrderedIfAny old) :
    (laidOver old (along origin part path)).overlaid (along origin part' path') =
      (laidOver old (along origin part' path')).overlaid (along origin part path) := by
  induction path generalizing path' old with
  | nil => exact absurd List.nil_prefix parted.1
  | cons key rest ih =>
    cases path' with
    | nil => exact absurd List.nil_prefix parted.2
    | cons key' rest' =>
      have ascending := ordered.ascending
      simp only [along, laidOver_singleton, overlaid_singleton, members, Assoc.get?_insertSorted]
      refine congrArg (dict origin) (Assoc.eq_of_get?_eq _ _ ?_ ?_ fun name => ?_)
      · exact (ascending.insertSorted _ _ _).insertSorted _ _ _
      · exact (ascending.insertSorted _ _ _).insertSorted _ _ _
      · simp only [Assoc.get?_insertSorted]
        by_cases same : key = key'
        · subst same
          have behind := ((parted_cons_iff key key rest rest').mp parted).resolve_left (by simp)
          have inner := ih rest' behind _ (ordered.part _ key)
          by_cases here : key = name
          · simpa [here, laidOver] using inner
          · simp [here]
        · by_cases here : key = name
          · have other : key' ≠ name := fun there => same (here.trans there.symm)
            simp [here, other]
          · simp [here, same]

/-- A part is laid over two layers, whichever of them are put together first, if the upper one
leaves its path open. -/
theorem overlaid_along_assoc (origin : Origin) (part : Setting) (plain : part.isDictionary = false)
    (path : List String) (base upper : Setting) (hb : Ordered base) (hu : Ordered upper)
    (opened : upper.Open path) :
    base.overlaid (upper.overlaid (along origin part path)) =
      (base.overlaid upper).overlaid (along origin part path) := by
  induction path generalizing base upper with
  | nil =>
    rw [along, overlaid_of_not_isDictionary upper part plain,
      overlaid_of_not_isDictionary base part plain,
      overlaid_of_not_isDictionary (base.overlaid upper) part plain]
  | cons key rest ih =>
    obtain ⟨dictionary, inside⟩ := opened
    have together := (Ordered.overlaid base hb upper hu).ascending
    have placed := hu.ascending.insertSorted key
      (laidOver (upper.members.get? key) (along origin part rest))
    have whole := (Ordered.overlaid base hb _ (Ordered.overlaid upper hu _
      (ordered_along origin part (ordered_of_not_isDictionary part plain) (key :: rest)))).ascending
    simp only [along, overlaid_singleton, overlaid] at whole ⊢
    refine congrArg (dict origin) (Assoc.eq_of_get?_eq _ _ ?_ ?_ fun name => ?_)
    · exact whole
    · exact together.insertSorted _ _ _
    · rw [get?_overlaidMembers _ _ placed.nodup_keys, Assoc.get?_insertSorted,
        Assoc.get?_insertSorted, members_overlaid base upper dictionary,
        get?_overlaidMembers _ _ hu.ascending.nodup_keys,
        get?_overlaidMembers _ _ hu.ascending.nodup_keys]
      by_cases here : key = name
      · subst here
        rw [if_pos rfl, if_pos rfl, laid_some, Option.some.injEq]
        cases there : upper.members.get? key with
        | none => rw [laid_none, laidOver]
        | some m =>
          cases below : base.members.get? key with
          | none => rfl
          | some b => exact ih b m (hb.part key b below) (hu.part key m there) (inside m there)
      · rw [if_neg here, if_neg here]

/-- What leads to the end of a path leaves a parted path open. -/
theorem open_along (origin : Origin) (part : Setting) (path path' : List String)
    (parted : Parted path path') : (along origin part path).Open path' := by
  induction path generalizing path' with
  | nil => exact absurd List.nil_prefix parted.1
  | cons key rest ih =>
    cases path' with
    | nil => exact absurd List.nil_prefix parted.2
    | cons key' rest' =>
      refine ⟨rfl, fun part' there => ?_⟩
      rw [along, members, Assoc.get?_cons, Assoc.get?_nil] at there
      obtain ⟨same, there⟩ := Option.ite_none_right_eq_some.mp there
      obtain rfl := Option.some.inj there
      exact ih rest' (((parted_cons_iff _ _ _ _).mp parted).resolve_left (not_not.mpr same))

end TsWorkshop.Setting
