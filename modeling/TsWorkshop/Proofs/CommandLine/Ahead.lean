import TsWorkshop.Proofs.CommandLine.Sides

/-!
Reading on a level that has options already. A level whose last option is still to be checked ends
as the one where it was (`endsAs_of_settle`). Options that stand ahead of those that are read change
nothing but the options that a level has, as long as none of them is read again (`read_after`,
`finish_after`).
-/

namespace TsWorkshop.CommandLine.Level

variable {rule : CommandRule} {program word : String} {words : List String}
  {level level' settled : Level} {next : Option (String × List String)}

theorem enter_eq_ok_iff (o : OptionRule) (value : String) :
    level.enter o value = .ok level' ↔
      level.has o.name = false ∧ (o.value.all fun (kind, _) => kind.accepts value) = true ∧
        level' = { level with given := level.given ++ [(o.name, value)] } := by
  unfold enter
  cases level.has o.name with
  | true => simp
  | false =>
    cases o.value.all fun (kind, _) => kind.accepts value with
    | true => simp [eq_comm]
    | false => simp

/-- How the option before the next word is checked: there is none, or it is entered. -/
theorem settle_eq_ok_iff :
    level.settle = .ok level' ↔
      level.pending = none ∧ level' = level ∨
        ∃ o value, level.pending = some (o, some value) ∧
          ({ level with pending := none } : Level).enter o value = .ok level' := by
  unfold settle
  rcases level.pending with _ | ⟨o, _ | value⟩
  · simp [eq_comm]
  · simp
  · constructor
    · exact fun entered => Or.inr ⟨o, value, rfl, entered⟩
    · rintro (⟨none, -⟩ | ⟨_, _, ⟨⟩, entered⟩)
      · cases none
      · exact entered

/-! ### Checked and unchecked -/

/-- Reads words and ends the level. -/
def readToEnd (rule : CommandRule) (program : String) (level : Level) (words : List String) :
    Except Stop Level := do
  let (level, _) ← level.read rule program words
  level.finish rule

theorem settle_of_settle (settles : level.settle = .ok settled) : settled.settle = .ok settled :=
  settle_eq_ok_iff.mpr (Or.inl ⟨(adds_of_settle settles).2, rfl⟩)

theorem settle_close (settles : level.settle = .ok settled) :
    ({ level with trailing := true } : Level).settle = .ok { settled with trailing := true } := by
  rw [settle_eq_ok_iff] at settles ⊢
  rcases settles with ⟨free, rfl⟩ | ⟨o, value, pending, entered⟩
  · exact Or.inl ⟨free, rfl⟩
  · rw [enter_eq_ok_iff] at entered
    obtain ⟨fresh, accepted, rfl⟩ := entered
    refine Or.inr ⟨o, value, pending, ?_⟩
    rw [enter_eq_ok_iff]
    exact ⟨fresh, accepted, rfl⟩

theorem awaitsValue_of_settle (settles : level.settle = .ok settled) :
    level.awaitsValue = false ∧ settled.awaitsValue = false := by
  constructor
  · unfold awaitsValue
    rcases settle_eq_ok_iff.mp settles with ⟨free, -⟩ | ⟨o, value, pending, -⟩
    · rw [free]
    · rw [pending]
  · unfold awaitsValue
    rw [(adds_of_settle settles).2]

/-- A word but the end of the options is read as if the option before it had been checked. -/
theorem readArg_of_settle (settles : level.settle = .ok settled)
    (further : level.trailing = true ∨ word ≠ "--") :
    level.readArg rule program word = settled.readArg rule program word := by
  have trailing := (adds_of_settle settles).1.trailing
  have again := settle_of_settle settles
  have flag (isLong : Bool) (o : OptionRule) :
      level.readFlag rule program isLong o = settled.readFlag rule program isLong o := by
    unfold readFlag
    rw [settles, again]
  have attached (o : OptionRule) (value : String) :
      level.readAttached o value = settled.readAttached o value := by
    unfold readAttached
    rw [settles, again]
  have detached (o : OptionRule) : level.readDetached o = settled.readDetached o := by
    unfold readDetached
    rw [settles, again]
  have plain : level.readPlain rule word = settled.readPlain rule word := by
    unfold readPlain
    rw [settles, again, trailing, (adds_of_settle settles).2]
    rcases settle_eq_ok_iff.mp settles with ⟨free, -⟩ | ⟨o, value, pending, -⟩
    · rw [free]
      cases level.trailing <;> rfl
    · rw [pending]
      cases level.trailing <;> rfl
  unfold readArg
  rw [trailing]
  split
  · exact plain
  · rename_i start
    split
    · rename_i chars
      exact absurd (String.toList_inj.mp chars) (further.resolve_left start)
    · unfold readLong
      simp only [flag, attached, detached]
    · unfold readShorts
      simp only [flag, attached, detached]
    · exact plain

/-- The rest of a level is read as if the option before it had been checked. Only the mark of the
end of the options keeps that option unchecked, hence the induction. -/
theorem readToEnd_of_settle (settles : level.settle = .ok settled) :
    level.readToEnd rule program words = settled.readToEnd rule program words := by
  have ends {level settled : Level} (settles : level.settle = .ok settled) :
      level.finish rule = settled.finish rule := by
    unfold finish
    rw [settles, settle_of_settle settles]
  induction words generalizing level settled with
  | nil => exact ends settles
  | cons word words ih =>
    have trailing := (adds_of_settle settles).1.trailing
    obtain ⟨awaits, awaits'⟩ := awaitsValue_of_settle settles
    unfold readToEnd read
    rw [awaits, awaits', trailing]
    split
    · exact ends settles
    · by_cases further : level.trailing = true ∨ word ≠ "--"
      · rw [readArg_of_settle settles further]
      · simp only [not_or, Bool.not_eq_true, not_not] at further
        obtain ⟨start, rfl⟩ := further
        have close (level : Level) (start : level.trailing = false) :
            level.readArg rule program "--" = .ok { level with trailing := true } := by
          simp [readArg, start]
        rw [close level start, close settled (trailing.trans start)]
        exact ih (settle_close settles)

/-! ### Options ahead -/

/-- A level with options ahead of its own. -/
def after (ahead : List (OptionName × String)) (level : Level) : Level :=
  { level with given := ahead ++ level.given }

variable {ahead : List (OptionName × String)}

theorem value?_of_not_has {name : OptionName} (absent : level.has name = false) :
    level.value? name = none := by
  unfold has at absent
  unfold value?
  rw [List.any_eq_false] at absent
  rw [Option.map_eq_none_iff, List.find?_eq_none]
  exact absent

theorem not_has_of_not_mem {name : OptionName} (fresh : name ∉ ahead.map Prod.fst) :
    ({ given := ahead } : Level).has name = false := by
  rw [← Bool.not_eq_true]
  intro given
  apply fresh
  simpa [has] using given

theorem has_after (name : OptionName) (fresh : name ∉ ahead.map Prod.fst) :
    (level.after ahead).has name = level.has name := by
  have absent := not_has_of_not_mem fresh
  unfold has at absent
  unfold has after
  rw [List.any_append, absent, Bool.false_or]

theorem value?_after (name : OptionName) (fresh : name ∉ ahead.map Prod.fst) :
    (level.after ahead).value? name = level.value? name := by
  have absent := value?_of_not_has (not_has_of_not_mem fresh)
  unfold value? at absent ⊢
  rw [Option.map_eq_none_iff] at absent
  unfold after
  rw [List.find?_append, absent, Option.none_or]

theorem enter_after (o : OptionRule) (value : String) (fresh : o.name ∉ ahead.map Prod.fst)
    (entered : level.enter o value = .ok level') :
    (level.after ahead).enter o value = .ok (level'.after ahead) := by
  rw [enter_eq_ok_iff] at entered ⊢
  obtain ⟨first, accepted, rfl⟩ := entered
  refine ⟨(has_after o.name fresh).trans first, accepted, ?_⟩
  simp [after]

/-- What is ahead of a level has none of its options. -/
def Apart (ahead : List (OptionName × String)) (level : Level) : Prop :=
  ∀ name ∈ level.options, name ∉ ahead.map Prod.fst

theorem Apart.of_adds {names : List OptionName} (adds : Adds level names level')
    (apart : Apart ahead level') : Apart ahead level := by
  intro name inside
  apply apart
  rw [adds.options]
  exact List.mem_append_left _ inside

theorem settle_after (apart : Apart ahead level) (settles : level.settle = .ok level') :
    (level.after ahead).settle = .ok (level'.after ahead) := by
  rw [settle_eq_ok_iff] at settles ⊢
  rcases settles with ⟨free, rfl⟩ | ⟨o, value, pending, entered⟩
  · exact Or.inl ⟨free, rfl⟩
  · refine Or.inr ⟨o, value, pending, ?_⟩
    apply enter_after o value (apart o.name ?_) entered
    simp [options, pending]

theorem readFlag_after (isLong : Bool) (o : OptionRule) (apart : Apart ahead level')
    (read : level.readFlag rule program isLong o = .ok level') :
    (level.after ahead).readFlag rule program isLong o = .ok (level'.after ahead) := by
  have adds := adds_of_readFlag isLong o read
  have fresh : o.name ∉ ahead.map Prod.fst := apart o.name (by simp [adds.options])
  obtain ⟨settled, settles, read⟩ := (bind_eq_ok_iff _ _ _).mp read
  unfold readFlag
  rw [settle_after (apart.of_adds adds) settles]
  split at read
  · cases read
  · cases read
  · exact enter_after o "" fresh read

theorem readAttached_after (o : OptionRule) (value : String) (apart : Apart ahead level')
    (read : level.readAttached o value = .ok level') :
    (level.after ahead).readAttached o value = .ok (level'.after ahead) := by
  have adds := adds_of_readAttached o value read
  have fresh : o.name ∉ ahead.map Prod.fst := apart o.name (by simp [adds.options])
  obtain ⟨settled, settles, read⟩ := (bind_eq_ok_iff _ _ _).mp read
  unfold readAttached
  rw [settle_after (apart.of_adds adds) settles]
  exact enter_after o value fresh read

theorem readDetached_after (o : OptionRule) (apart : Apart ahead level')
    (read : level.readDetached o = .ok level') :
    (level.after ahead).readDetached o = .ok (level'.after ahead) := by
  have adds := adds_of_readDetached o read
  obtain ⟨settled, settles, read⟩ := (bind_eq_ok_iff _ _ _).mp read
  unfold readDetached
  rw [settle_after (apart.of_adds adds) settles]
  cases read
  rfl

theorem readShorts_after (cluster : List Char) (apart : Apart ahead level')
    (read : level.readShorts rule program cluster = .ok level') :
    (level.after ahead).readShorts rule program cluster = .ok (level'.after ahead) := by
  induction cluster generalizing level with
  | nil =>
    cases read
    rfl
  | cons c rest ih =>
    unfold readShorts at read ⊢
    split at read
    · cases read
    · rename_i o found
      split at read
      · obtain ⟨middle, first, more⟩ := (bind_eq_ok_iff _ _ _).mp read
        rw [readFlag_after false o (apart.of_adds (adds_of_readShorts _ more)) first]
        exact ih more
      · exact readDetached_after o apart read
      · exact readAttached_after o _ apart read
      · exact readAttached_after o _ apart read

theorem readLong_after (spelling : List Char) (apart : Apart ahead level')
    (read : level.readLong rule program spelling = .ok level') :
    (level.after ahead).readLong rule program spelling = .ok (level'.after ahead) := by
  unfold readLong at read ⊢
  dsimp only at read ⊢
  split at read
  · cases read
  · rename_i o found
    split at read
    · exact readAttached_after o _ apart read
    · exact readDetached_after o apart read
    · cases read
    · exact readFlag_after true o apart read

theorem readPlain_after (apart : Apart ahead level')
    (read : level.readPlain rule word = .ok level') :
    (level.after ahead).readPlain rule word = .ok (level'.after ahead) := by
  unfold readPlain at read ⊢
  have same : (level.after ahead).pending = level.pending ∧
      (level.after ahead).trailing = level.trailing := ⟨rfl, rfl⟩
  rw [same.1, same.2]
  split at read
  · cases read
    rfl
  · split at read
    · rename_i takes
      rw [if_pos takes]
      obtain ⟨settled, settles, read⟩ := (bind_eq_ok_iff _ _ _).mp read
      cases read
      have apart' : Apart ahead settled := apart
      rw [settle_after (apart'.of_adds (adds_of_settle settles).1) settles]
      rfl
    · split at read
      · cases read
      · split at read <;> cases read

theorem readArg_after (apart : Apart ahead level')
    (read : level.readArg rule program word = .ok level') :
    (level.after ahead).readArg rule program word = .ok (level'.after ahead) := by
  unfold readArg at read ⊢
  have same : (level.after ahead).trailing = level.trailing := rfl
  rw [same]
  split at read
  · rename_i closed
    rw [if_pos closed]
    exact readPlain_after apart read
  · rename_i start
    rw [if_neg start]
    split at read
    · cases read
      rfl
    · exact readLong_after _ apart read
    · exact readShorts_after _ apart read
    · exact readPlain_after apart read

theorem Apart.of_read (apart : Apart ahead level')
    (read : level.read rule program words = .ok (level', next)) : Apart ahead level := by
  obtain ⟨taken, -, reads, -⟩ := readsAll_of_read words next read
  intro name inside
  apply apart
  rw [reads.options_eq]
  exact List.mem_append_left _ inside

/-- Words are read behind other options as they are without them. -/
theorem read_after (apart : Apart ahead level')
    (reads : level.read rule program words = .ok (level', next)) :
    (level.after ahead).read rule program words = .ok (level'.after ahead, next) := by
  induction words generalizing level with
  | nil =>
    cases reads
    rfl
  | cons word words ih =>
    unfold read at reads ⊢
    have same : (level.after ahead).trailing = level.trailing ∧
        (level.after ahead).awaitsValue = level.awaitsValue := ⟨rfl, rfl⟩
    rw [same.1, same.2]
    split at reads
    · rename_i command
      cases reads
      rw [if_pos command]
    · rename_i other
      obtain ⟨middle, first, more⟩ := (bind_eq_ok_iff _ _ _).mp reads
      rw [if_neg other, readArg_after (apart.of_read more) first]
      exact ih more

theorem settle_of_finish (ended : level.finish rule = .ok level') : level.settle = .ok level' := by
  obtain ⟨settled, settles, ended⟩ := (bind_eq_ok_iff _ _ _).mp ended
  split at ended
  · cases ended
  · cases ended
    exact settles

/-- A level with options ahead ends as it does without them if none of its options excludes one of
those. -/
theorem finish_after (apart : Apart ahead level')
    (peaceful : (level'.after ahead).conflicting rule = false)
    (ended : level.finish rule = .ok level') :
    (level.after ahead).finish rule = .ok (level'.after ahead) := by
  have settles := settle_of_finish ended
  unfold finish
  rw [settle_after (apart.of_adds (adds_of_settle settles).1) settles]
  simp only [bind, Except.bind, peaceful, Bool.false_eq_true, if_false]
  rfl

theorem readToEnd_after (apart : Apart ahead level')
    (peaceful : (level'.after ahead).conflicting rule = false)
    (read : level.readToEnd rule program words = .ok level') :
    (level.after ahead).readToEnd rule program words = .ok (level'.after ahead) := by
  obtain ⟨⟨middle, next⟩, first, ended⟩ := (bind_eq_ok_iff _ _ _).mp read
  have adds := (adds_of_settle (settle_of_finish ended)).1
  unfold readToEnd
  rw [read_after (apart.of_adds adds) first]
  exact finish_after apart peaceful ended

end TsWorkshop.CommandLine.Level
