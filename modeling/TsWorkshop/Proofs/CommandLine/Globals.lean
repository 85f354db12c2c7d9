import TsWorkshop.Proofs.CommandLine.Ahead

/-!
The options that hold for every command. Their words are read alike on the level of the program and
on that of a command (`Level.read_allWords`), where they are options ahead of those that the command
is given. So a line says the same whether they stand before the name of the command or behind it
(`parse_globals_either_side`).
-/

namespace TsWorkshop.CommandLine

/-- An option that holds for every command, with its value. -/
inductive GlobalOption where
  | verbose | quiet | noColor
  | config (file : Path)
  | cwd (directory : Path)

namespace GlobalOption

def rule : GlobalOption → OptionRule
  | verbose => .verbose
  | quiet => .quiet
  | noColor => .noColor
  | config _ => .config
  | cwd _ => .cwd

def name : GlobalOption → OptionName
  | verbose => .verbose
  | quiet => .quiet
  | noColor => .noColor
  | config _ => .config
  | cwd _ => .cwd

theorem rule_name (option : GlobalOption) : option.rule.name = option.name := by
  cases option <;> rfl

/-- The word that asks for an option. -/
def word : GlobalOption → String
  | verbose => "-v"
  | quiet => "-q"
  | noColor => "--no-color"
  | config _ => "-c"
  | cwd _ => "--cwd"

def value? : GlobalOption → Option String
  | config path | cwd path => some path
  | _ => none

/-- The words of an option, its value behind it. -/
def words (option : GlobalOption) : List String := option.word :: option.value?.toList

/-- A value may stand for a path, and is not taken for an option. -/
def Readable (option : GlobalOption) : Prop :=
  ∀ value, option.value? = some value → value ≠ "" ∧ value.toList.head? ≠ some '-'

/-- What an option says on a line. -/
def apply : GlobalOption → CommandLine → CommandLine
  | verbose, c => { c with verbose := true }
  | quiet, c => { c with quiet := true }
  | noColor, c => { c with noColor := true }
  | config file, c => { c with config := some file }
  | cwd directory, c => { c with cwd := some directory }

/-- An option as a level keeps it. -/
def given (option : GlobalOption) : OptionName × String := (option.name, option.value?.getD "")

/-- An option without a value is a flag. -/
theorem flag_of_value? (option : GlobalOption) (none : option.value? = .none) :
    option.rule.value = .none ∧ option.rule.name ≠ .help ∧ option.rule.name ≠ .version := by
  cases option with
  | verbose | quiet | noColor => exact ⟨rfl, by decide, by decide⟩
  | config | cwd => cases none

/-- An option with a value takes any path but the empty one. -/
theorem takes_of_value? (option : GlobalOption) (value : String)
    (valued : option.value? = some value) : ∃ shown, option.rule.value = some (.path, shown) := by
  cases option with
  | verbose | quiet | noColor => cases valued
  | config | cwd => exact ⟨_, rfl⟩

theorem name_mem_globals (option : GlobalOption) : option.name ∈ globals := by
  cases option <;> simp [name, globals]

end GlobalOption

/-! ### Reading the words of options -/

/-- A rule that has the options for every command, by the spellings of their words. -/
structure CommandRule.HasGlobals (rule : CommandRule) : Prop where
  verbose : rule.options.find? (fun o => o.short = some 'v') = some .verbose
  quiet : rule.options.find? (fun o => o.short = some 'q') = some .quiet
  noColor : rule.spelled? "no-color" = some .noColor
  config : rule.options.find? (fun o => o.short = some 'c') = some .config
  cwd : rule.spelled? "cwd" = some .cwd
  /-- Their words are no commands. -/
  options : ∀ word ∈ ["-v", "-q", "--no-color", "-c", "--cwd"],
    (rule.commands.any fun (name, _) => name = word) = false

theorem hasGlobals_programRule : programRule.HasGlobals :=
  ⟨rfl, rfl, rfl, rfl, rfl, by decide⟩

theorem hasGlobals_of_rule? (name : String) (rule : CommandRule) (known : rule? name = some rule) :
    rule.HasGlobals := by
  unfold rule? at known
  split at known <;> cases known <;> exact ⟨rfl, rfl, rfl, rfl, rfl, by decide⟩

namespace Level

variable {rule : CommandRule} {level settled : Level} (program : String)

/-- Reads the word of an option that stands alone. -/
def readOption (rule : CommandRule) (program : String) (isLong : Bool) (level : Level)
    (o : OptionRule) : Except Stop Level :=
  if o.value.isSome then level.readDetached o else level.readFlag rule program isLong o

theorem readArg_short (o : OptionRule) (c : Char) (single : c ≠ '-')
    (found : rule.options.find? (fun o => o.short = some c) = some o)
    (start : level.trailing = false) :
    level.readArg rule program (String.ofList ['-', c]) =
      level.readOption rule program false o := by
  have cluster : level.readArg rule program (String.ofList ['-', c]) =
      level.readShorts rule program [c] := by
    unfold readArg
    rw [start, if_neg (by simp), String.toList_ofList]
    split <;> simp_all
  rw [cluster]
  unfold readShorts readOption
  rw [found]
  dsimp only
  cases o.value with
  | none => cases level.readFlag rule program false o <;> rfl
  | some value => rfl

theorem readArg_long (o : OptionRule) (long : String) (plain : '=' ∉ long.toList)
    (named : long ≠ "") (found : rule.spelled? long = some o) (start : level.trailing = false) :
    level.readArg rule program ("--" ++ long) = level.readOption rule program true o := by
  have chars : ("--" ++ long).toList = '-' :: '-' :: long.toList := (eq_append_iff _ long).mp rfl
  have further : long.toList ≠ [] := by simpa using named
  have spelled : level.readArg rule program ("--" ++ long) =
      level.readLong rule program long.toList := by
    unfold readArg
    obtain ⟨c, rest, letters⟩ := List.exists_cons_of_ne_nil further
    rw [start, if_neg (by simp), chars, letters]
    rfl
  have bare : long.toList.dropWhile (· != '=') = [] := by
    rw [List.dropWhile_eq_nil_iff]
    intro c inside
    rw [bne_iff_ne]
    rintro rfl
    exact plain inside
  rw [spelled]
  unfold readLong readOption
  rw [takeWhile_of_plain _ plain, String.ofList_toList, bare]
  unfold CommandRule.spelled? at found
  dsimp only
  rw [found]
  dsimp only
  cases o.value <;> rfl

theorem readFlag_of_settle (o : OptionRule) (isLong : Bool) (settles : level.settle = .ok settled)
    (fresh : settled.has o.name = false) (flag : o.value = none)
    (plain : o.name ≠ .help ∧ o.name ≠ .version) :
    level.readFlag rule program isLong o =
      .ok { settled with given := settled.given ++ [(o.name, "")] } := by
  unfold readFlag
  rw [settles]
  simp only [bind, Except.bind]
  split
  · exact absurd ‹_› plain.1
  · exact absurd ‹_› plain.2
  · rw [enter_eq_ok_iff]
    exact ⟨fresh, by rw [flag]; rfl, rfl⟩

/-- The word of an option is read as one that stands alone. -/
theorem readArg_word (has : rule.HasGlobals) (option : GlobalOption)
    (start : level.trailing = false) :
    ∃ isLong, level.readArg rule program option.word =
      level.readOption rule program isLong option.rule := by
  cases option with
  | verbose => exact ⟨false, readArg_short program _ 'v' (by decide) has.verbose start⟩
  | quiet => exact ⟨false, readArg_short program _ 'q' (by decide) has.quiet start⟩
  | noColor =>
    exact ⟨true, readArg_long program _ "no-color" (by decide) (by decide) has.noColor start⟩
  | config => exact ⟨false, readArg_short program _ 'c' (by decide) has.config start⟩
  | cwd => exact ⟨true, readArg_long program _ "cwd" (by decide) (by decide) has.cwd start⟩

theorem read_word (has : rule.HasGlobals) (option : GlobalOption) (rest : List String) :
    level.read rule program (option.word :: rest) =
      (do (← level.readArg rule program option.word).read rule program rest) := by
  have other : (rule.commands.any fun (name, _) => name = option.word) = false := by
    apply has.options
    cases option <;> simp [GlobalOption.word]
  rw [read, other]
  simp

/-- A word that is no option is the value of the option before it. -/
theorem read_value (level : Level) (o : OptionRule) (value : String)
    (plain : value.toList.head? ≠ some '-') (start : level.trailing = false)
    (awaits : level.pending = some (o, none)) (rest : List String) :
    level.read rule program (value :: rest) =
      ({ level with pending := some (o, some value) } : Level).read rule program rest := by
  have awaiting : level.awaitsValue = true := by
    unfold awaitsValue
    rw [awaits]
  have taken : level.readArg rule program value =
      .ok { level with pending := some (o, some value) } := by
    have valued : level.readPlain rule value =
        .ok { level with pending := some (o, some value) } := by
      unfold readPlain
      rw [start, awaits]
    unfold readArg
    rw [if_neg (by simp [start]), ← valued]
    split <;> simp_all
  rw [read, awaiting, taken]
  simp [bind, Except.bind]

/-- The words of an option are read as one that is still to be checked. -/
theorem read_words (has : rule.HasGlobals) (option : GlobalOption)
    (start : level.trailing = false) (settles : level.settle = .ok settled)
    (fresh : settled.has option.name = false) (readable : option.Readable) :
    ∃ level' : Level,
      (∀ rest, level.read rule program (option.words ++ rest) = level'.read rule program rest) ∧
        level'.trailing = false ∧
        level'.settle = .ok { settled with given := settled.given ++ [option.given] } := by
  obtain ⟨isLong, asked⟩ := readArg_word program has option start
  obtain ⟨adds, free⟩ := adds_of_settle settles
  have start' : settled.trailing = false := adds.trailing.trans start
  unfold GlobalOption.words GlobalOption.given
  unfold readOption at asked
  rw [← option.rule_name] at fresh ⊢
  cases valued : option.value? with
  | none =>
    obtain ⟨flag, plain⟩ := option.flag_of_value? valued
    rw [flag, readFlag_of_settle program option.rule isLong settles fresh flag plain] at asked
    refine ⟨{ settled with given := settled.given ++ [(option.rule.name, "")] }, fun rest => ?_,
      start', settle_eq_ok_iff.mpr (Or.inl ⟨free, rfl⟩)⟩
    rw [List.cons_append, read_word program has, asked]
    rfl
  | some value =>
    obtain ⟨shown, takes⟩ := option.takes_of_value? value valued
    obtain ⟨some_, plain⟩ := readable value valued
    refine ⟨{ settled with pending := some (option.rule, some value) }, fun rest => ?_, start',
      settle_eq_ok_iff.mpr (Or.inr ⟨option.rule, value, rfl, ?_⟩)⟩
    · unfold readDetached at asked
      rw [takes, settles] at asked
      rw [List.cons_append, read_word program has, asked]
      exact read_value program { settled with pending := some (option.rule, none) } option.rule
        value plain start' rfl rest
    · rw [enter_eq_ok_iff]
      refine ⟨fresh, ?_, ?_⟩
      · rw [takes]
        simpa [ValueKind.accepts] using some_
      · rw [← free]
        rfl

theorem has_concat (level : Level) (name other : OptionName) (value : String)
    (fresh : level.has other = false) (differs : name ≠ other) :
    ({ level with given := level.given ++ [(name, value)] } : Level).has other = false := by
  unfold has at fresh ⊢
  simp [fresh, differs]

/-- Options that a level does not have are read one behind the other. -/
theorem read_allWords (level : Level) (has : rule.HasGlobals) (options : List GlobalOption)
    (once : (options.map GlobalOption.name).Nodup) (readable : ∀ option ∈ options, option.Readable)
    (start : level.trailing = false) (settles : level.settle = .ok settled)
    (fresh : ∀ option ∈ options, settled.has option.name = false) :
    ∃ level' : Level,
      (∀ rest, level.read rule program (options.flatMap GlobalOption.words ++ rest) =
        level'.read rule program rest) ∧
        level'.trailing = false ∧
        level'.settle =
          .ok { settled with given := settled.given ++ options.map GlobalOption.given } := by
  induction options generalizing level settled with
  | nil => exact ⟨level, fun _ => rfl, start, by simpa using settles⟩
  | cons option options ih =>
    obtain ⟨readable, readables⟩ := List.forall_mem_cons.mp readable
    obtain ⟨first, fresh⟩ := List.forall_mem_cons.mp fresh
    obtain ⟨other, once⟩ := List.nodup_cons.mp once
    obtain ⟨middle, read, start', settles'⟩ :=
      read_words program has option start settles first readable
    obtain ⟨level', reads, start'', settles''⟩ := ih middle once readables start' settles' (by
      intro later inside
      apply has_concat settled option.name later.name _ (fresh later inside)
      intro same
      exact other (same ▸ List.mem_map_of_mem inside))
    refine ⟨level', fun rest => ?_, start'', ?_⟩
    · rw [List.flatMap_cons, List.append_assoc, read, reads]
    · rw [settles'', List.map_cons, List.append_assoc]
      rfl

end Level

/-! ### Whole lines -/

open CommandLine.Level

variable {program name : String} {rule : CommandRule} {args : List String} {c : CommandLine}

theorem is_command_of_rule? (known : rule? name = some rule) :
    (programRule.commands.any fun (other, _) => other = name) = true := by
  unfold rule? at known
  split at known
  · decide
  · decide
  · decide
  · cases known

/-- A line whose first words leave a level of the program open is read on from there. -/
theorem parse_eq (program : String) (front args : List String) (outer settled : Level)
    (known : rule? name = some rule)
    (reads : ∀ rest,
      Level.read programRule program {} (front ++ rest) = outer.read programRule program rest)
    (start : outer.trailing = false) (settles : outer.settle = .ok settled) :
    parse program (front ++ name :: args) = do
      let inner ← readToEnd rule program {} args
      let outer ← outer.finish programRule
      return ofLevels outer inner (commandOf name inner) := by
  have command :
      outer.read programRule program (name :: args) = .ok (outer, some (name, args)) := by
    rw [Level.read, start, (awaitsValue_of_settle settles).1, is_command_of_rule? known]
    rfl
  unfold parse readToEnd
  rw [reads, command]
  simp only [bind, Except.bind, known]
  cases Level.read rule program {} args <;> rfl

/-! ### What options say -/

theorem has_after_cons (option : GlobalOption) (options : List GlobalOption) (level : Level)
    (name : OptionName) :
    (level.after ((option :: options).map GlobalOption.given)).has name =
      (decide (option.name = name) || (level.after (options.map GlobalOption.given)).has name) :=
  rfl

theorem value?_after_cons (option : GlobalOption) (options : List GlobalOption) (level : Level)
    (name : OptionName) :
    (level.after ((option :: options).map GlobalOption.given)).value? name =
      if option.name = name then some (option.value?.getD "")
      else (level.after (options.map GlobalOption.given)).value? name := by
  unfold value? after
  rw [List.map_cons, List.cons_append, List.find?_cons]
  split
  · rename_i same
    rw [if_pos (of_decide_eq_true same)]
    rfl
  · rename_i other
    rw [if_neg (of_decide_eq_false other)]

/-- Before the name of the command an option says what it says of a line if the command is not given
it. -/
theorem ofLevels_after_outer (options : List GlobalOption) (inner : Level) (command : Command)
    (fresh : ∀ option ∈ options, inner.has option.name = false) :
    ofLevels (after (options.map GlobalOption.given) {}) inner command =
      options.foldr GlobalOption.apply (ofLevels {} inner command) := by
  induction options with
  | nil => rfl
  | cons option options ih =>
    obtain ⟨first, later⟩ := List.forall_mem_cons.mp fresh
    rw [List.foldr_cons, ← ih later]
    have absent := value?_of_not_has first
    unfold ofLevels
    simp only [has_after_cons, value?_after_cons]
    cases option <;> simp_all [GlobalOption.apply, GlobalOption.name, GlobalOption.value?]

/-- Behind the name of the command an option says what it says of a line. -/
theorem ofLevels_after_inner (options : List GlobalOption) (inner : Level) (command : Command) :
    ofLevels {} (inner.after (options.map GlobalOption.given)) command =
      options.foldr GlobalOption.apply (ofLevels {} inner command) := by
  induction options with
  | nil => rfl
  | cons option options ih =>
    rw [List.foldr_cons, ← ih]
    unfold ofLevels
    simp only [has_after_cons, value?_after_cons]
    cases option <;> simp_all [GlobalOption.apply, GlobalOption.name, GlobalOption.value?]

theorem mem_globals_of_given (options : List GlobalOption) :
    ∀ name ∈ (options.map GlobalOption.given).map Prod.fst, name ∈ globals := by
  intro name inside
  rw [List.map_map, List.mem_map] at inside
  obtain ⟨option, -, rfl⟩ := inside
  exact option.name_mem_globals

theorem has_after_own (options : List GlobalOption) (level : Level) (name : OptionName)
    (own : name ∉ globals) :
    (level.after (options.map GlobalOption.given)).has name = level.has name :=
  has_after name fun inside => own (mem_globals_of_given options name inside)

theorem value?_after_own (options : List GlobalOption) (level : Level) (name : OptionName)
    (own : name ∉ globals) :
    (level.after (options.map GlobalOption.given)).value? name = level.value? name :=
  value?_after name fun inside => own (mem_globals_of_given options name inside)

/-- An option for every command is no argument of the command. -/
theorem commandOf_after (options : List GlobalOption) (level : Level) :
    commandOf name (level.after (options.map GlobalOption.given)) = commandOf name level := by
  have has := has_after_own options level
  have value := value?_after_own options level
  have files : (level.after (options.map GlobalOption.given)).files = level.files := rfl
  unfold commandOf modeOf
  split
  · simp only [has .cjs (by decide), has .esm (by decide), has .minify (by decide),
      has .docs (by decide), has .develop (by decide), value .mode (by decide)]
  · simp only [has .fix (by decide), has .noFix (by decide), files]
  · simp only [value .reflection (by decide), value .out (by decide)]

theorem has_after_iff (options : List GlobalOption) (level : Level) (name : OptionName) :
    (level.after (options.map GlobalOption.given)).has name = true ↔
      name ∈ options.map GlobalOption.name ∨ level.has name = true := by
  induction options with
  | nil => simp [after]
  | cons option options ih =>
    rw [has_after_cons, Bool.or_eq_true, ih, List.map_cons, List.mem_cons, or_assoc,
      decide_eq_true_iff, eq_comm]

/-- Of the options for every command only being verbose and being quiet exclude each other, and
they exclude no other option. -/
def CommandRule.Parted (rule : CommandRule) : Prop :=
  ∀ pair ∈ rule.conflicts, pair = (.quiet, .verbose) ∨ pair.1 ∉ globals ∧ pair.2 ∉ globals

theorem parted_programRule : programRule.Parted := by
  unfold CommandRule.Parted
  decide

theorem parted_of_rule? (known : rule? name = some rule) : rule.Parted := by
  unfold CommandRule.Parted
  unfold rule? at known
  split at known <;> cases known <;> decide

theorem conflicting_after (parted : rule.Parted) (options : List GlobalOption) (level : Level)
    (peaceful : level.conflicting rule = false)
    (exclusive : ¬ ((.verbose ∈ options.map GlobalOption.name ∨ level.has .verbose = true) ∧
      (.quiet ∈ options.map GlobalOption.name ∨ level.has .quiet = true))) :
    (level.after (options.map GlobalOption.given)).conflicting rule = false := by
  unfold conflicting at peaceful ⊢
  rw [List.any_eq_false] at peaceful ⊢
  rintro ⟨a, b⟩ excluded
  rcases parted _ excluded with same | ⟨first, second⟩
  · cases same
    rw [← has_after_iff, ← has_after_iff, and_comm] at exclusive
    simpa using exclusive
  · simpa only [has_after_own options level _ first, has_after_own options level _ second] using
      peaceful _ excluded

theorem finish_programRule (options : List GlobalOption) (outer : Level)
    (settles : outer.settle = .ok (after (options.map GlobalOption.given) {}))
    (exclusive : ¬ (.verbose ∈ options.map GlobalOption.name ∧
      .quiet ∈ options.map GlobalOption.name)) :
    outer.finish programRule = .ok (after (options.map GlobalOption.given) {}) := by
  have calm : (after (options.map GlobalOption.given) {}).conflicting programRule = false := by
    apply conflicting_after parted_programRule options {} rfl
    rintro ⟨verbose, quiet⟩
    exact exclusive ⟨verbose.resolve_right (by decide), quiet.resolve_right (by decide)⟩
  unfold finish
  rw [settles]
  simp only [bind, Except.bind, calm]
  rfl

theorem apart_of_not_has (options : List GlobalOption) (level : Level)
    (free : level.pending = none)
    (absent : ∀ option ∈ options, level.has option.name = false) :
    Apart (options.map GlobalOption.given) level := by
  intro name inside ahead
  have given : level.has name = true := by
    unfold Level.options at inside
    rw [free] at inside
    simpa [Level.has] using inside
  rw [List.map_map, List.mem_map] at ahead
  obtain ⟨option, among, rfl⟩ := ahead
  exact Bool.eq_false_iff.mp (absent option among) given

/-- What a level says at its end that was read from nothing, for the words that were given. -/
theorem ends_of_readToEnd {inner : Level} (known : rule? name = some rule)
    (read : readToEnd rule program {} args = .ok inner) :
    (∀ option, inner.has option = true ↔ option ∈ rule.givenBy args) ∧ inner.pending = none ∧
      inner.conflicting rule = false := by
  obtain ⟨⟨level, next⟩, reads, ended⟩ := (bind_eq_ok_iff _ _ _).mp read
  have reads := readsAll_of_childless (childless_of_rule? known) args next reads
  exact ⟨(has_iff_of_finish reads ended).1, (adds_of_settle (settle_of_finish ended)).2,
    (has_of_finish ended).2.2⟩

/-- Options for every command may stand on either side of its name: a line with them is accepted if
it is without them, unless one of them is given already or being verbose meets being quiet, and it
says the same as without them but for what they say. -/
theorem parse_globals_either_side (options : List GlobalOption) (known : rule? name = some rule)
    (accepted : parse program (name :: args) = .ok c)
    (once : (options.map GlobalOption.name).Nodup)
    (readable : ∀ option ∈ options, option.Readable)
    (fresh : ∀ option ∈ options, option.name ∉ rule.givenBy args)
    (exclusive : ¬ (.verbose ∈ options.map GlobalOption.name ++ rule.givenBy args ∧
      .quiet ∈ options.map GlobalOption.name ++ rule.givenBy args)) :
    parse program (options.flatMap GlobalOption.words ++ name :: args) =
        .ok (options.foldr GlobalOption.apply c) ∧
      parse program (name :: options.flatMap GlobalOption.words ++ args) =
        .ok (options.foldr GlobalOption.apply c) := by
  have bare (args : List String) :=
    parse_eq program [] args {} {} known (fun _ => rfl) rfl rfl
  have line := bare args
  rw [List.nil_append, accepted] at line
  obtain ⟨inner, behind, line⟩ := (bind_eq_ok_iff _ _ _).mp line.symm
  obtain rfl : ofLevels {} inner (commandOf name inner) = c := Except.ok.inj line
  obtain ⟨has, free, peaceful⟩ := ends_of_readToEnd known behind
  have absent : ∀ option ∈ options, inner.has option.name = false := by
    intro option inside
    rw [← Bool.not_eq_true, has]
    exact fresh option inside
  simp only [List.mem_append, ← has] at exclusive
  have ahead {rule : CommandRule} (globals : rule.HasGlobals) :=
    read_allWords program {} globals options once readable rfl rfl fun _ _ => rfl
  constructor
  · obtain ⟨outer, reads, start, settles⟩ := ahead hasGlobals_programRule
    have settles : outer.settle = .ok (after (options.map GlobalOption.given) {}) := by
      simpa [after] using settles
    have ended := finish_programRule options outer settles fun both =>
      exclusive ⟨.inl both.1, .inl both.2⟩
    rw [parse_eq program _ args outer _ known reads start settles, behind, ended]
    exact congrArg Except.ok (ofLevels_after_outer options inner _ absent)
  · obtain ⟨level, reads, -, settles⟩ := ahead (hasGlobals_of_rule? name rule known)
    have settles : level.settle = .ok (after (options.map GlobalOption.given) {}) := by
      simpa [after] using settles
    have apart := apart_of_not_has options inner free absent
    have calm := conflicting_after (parted_of_rule? known) options inner peaceful exclusive
    have read : readToEnd rule program {} (options.flatMap GlobalOption.words ++ args) =
        .ok (inner.after (options.map GlobalOption.given)) := by
      rw [← readToEnd_after apart calm behind, ← readToEnd_of_settle settles]
      unfold readToEnd
      rw [reads]
    have line := bare (options.flatMap GlobalOption.words ++ args)
    rw [read] at line
    refine line.trans (congrArg Except.ok ?_)
    rw [commandOf_after]
    exact ofLevels_after_inner options inner _

/-- A value that is spelled like a command, before a line that lints the files behind a mark. -/
theorem parse_globals_either_side_lint :
    let options : List GlobalOption := [.config "lint", .noColor]
    let c : CommandLine :=
      { verbose := true, noColor := true, config := some "lint"
        command := .lint { files := ["src", "-q"], fix := true } }
    (options.map GlobalOption.name).Nodup ∧
      parse programName ["-c", "lint", "--no-color", "lint", "-v", "src", "--fix", "--", "-q"] =
        .ok c ∧
      parse programName ["lint", "-c", "lint", "--no-color", "-v", "src", "--fix", "--", "-q"] =
        .ok c := by
  intro options c
  have once : (options.map GlobalOption.name).Nodup := by decide
  have accepted : parse programName ["lint", "-v", "src", "--fix", "--", "-q"] =
      .ok { verbose := true, command := .lint { files := ["src", "-q"], fix := true } } := by
    decide +kernel
  have readable : ∀ option ∈ options, option.Readable := by
    intro option inside value valued
    obtain rfl | rfl : option = .config "lint" ∨ option = .noColor := by
      simpa [options] using inside
    · cases valued
      decide
    · cases valued
  have fresh : ∀ option ∈ options,
      option.name ∉ lintRule.givenBy ["-v", "src", "--fix", "--", "-q"] := by
    rw [← List.forall_mem_map (f := GlobalOption.name)
      (P := fun option => option ∉ lintRule.givenBy ["-v", "src", "--fix", "--", "-q"])]
    decide +kernel
  exact ⟨once, parse_globals_either_side options rfl accepted once readable fresh
    (by decide +kernel)⟩

/-- An empty value is no path: a line with one is refused, on whichever side it stands. -/
theorem parse_globals_empty_value :
    let options : List GlobalOption := [.config ""]
    parse programName ["lint"] = .ok { command := .lint {} } ∧
      (options.map GlobalOption.name).Nodup ∧
      (∀ option ∈ options, ∀ value, option.value? = some value → value.toList.head? ≠ some '-') ∧
      lintRule.givenBy [] = [] ∧
      parse programName (options.flatMap GlobalOption.words ++ ["lint"]) = .error .invalidValue ∧
      parse programName ("lint" :: options.flatMap GlobalOption.words) = .error .invalidValue := by
  intro options
  refine ⟨by decide +kernel, by decide, ?_, by rfl, by decide +kernel, by decide +kernel⟩
  intro option inside value valued
  obtain rfl : option = .config "" := by simpa [options] using inside
  cases valued
  decide

end TsWorkshop.CommandLine
