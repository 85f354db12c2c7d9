import Mathlib.Data.List.TakeWhile
import Mathlib.Tactic.Tauto
import TsWorkshop.CommandLine.Parse
import TsWorkshop.Proofs.Except

/-!
What the words of a command line are taken for. `Level.Reads` says what one word does to a level of
options and files, and `Level.ReadsAll` what several words do. A flag is given by the word that
spells it if that stands before the first `--` (`ReadsAll.mem_options_iff`), and a file that is
spelled like an option is one of the words behind it (`ReadsAll.mem_files_iff`).
-/

namespace TsWorkshop.CommandLine

/-! ### Words -/

/-- The words before the first `--`. -/
def wordsBefore (args : List String) : List String := args.takeWhile (· ≠ "--")

/-- The words behind the first `--`. -/
def wordsBehind (args : List String) : List String := (args.dropWhile (· ≠ "--")).tail

/-- A word with a dash before other characters. -/
def Dashed (word : String) : Prop := ∃ c rest, word.toList = '-' :: c :: rest

theorem wordsBefore_cons (word : String) (args : List String) :
    wordsBefore (word :: args) = if word = "--" then [] else word :: wordsBefore args := by
  unfold wordsBefore
  rw [List.takeWhile_cons]
  by_cases same : word = "--" <;> simp [same]

theorem wordsBehind_cons (word : String) (args : List String) :
    wordsBehind (word :: args) = if word = "--" then args else wordsBehind args := by
  unfold wordsBehind
  rw [List.dropWhile_cons]
  by_cases same : word = "--" <;> simp [same]

theorem open_of_not_mem {words : List String} (opened : "--" ∉ words) :
    ∀ word ∈ words, decide (word ≠ "--") = true := by
  intro word inside
  rw [decide_eq_true_eq]
  rintro rfl
  exact opened inside

theorem wordsBefore_of_not_mem {words : List String} (opened : "--" ∉ words) :
    wordsBefore words = words :=
  List.takeWhile_eq_self_iff.mpr (open_of_not_mem opened)

theorem wordsBefore_append {front : List String} (back : List String) (opened : "--" ∉ front) :
    wordsBefore (front ++ back) = front ++ wordsBefore back :=
  List.takeWhile_append_of_pos (open_of_not_mem opened)

theorem wordsBehind_append {front : List String} (back : List String) (opened : "--" ∉ front) :
    wordsBehind (front ++ back) = wordsBehind back := by
  unfold wordsBehind
  rw [List.dropWhile_append_of_pos (open_of_not_mem opened)]

/-! ### Options of a rule -/

/-- The option that a long spelling stands for. -/
def CommandRule.spelled? (rule : CommandRule) (long : String) : Option OptionRule :=
  rule.options.find? fun o => o.long = long || o.aliases.contains long

/-- An option that is given by one word, and by no other. -/
structure CommandRule.Flag (rule : CommandRule) (name : OptionName) (long : String) : Prop where
  /-- The spelling stands for the option. -/
  spelled : (rule.spelled? long).map OptionRule.name = some name
  /-- The option has no other spelling and takes no value. -/
  alone : ∀ o ∈ rule.options, o.name = name →
    o.long = long ∧ o.aliases = [] ∧ o.short = none ∧ o.value = none
  plain : '=' ∉ long.toList ∧ long ≠ ""

/-- The options of a cluster of short ones, up to the first that takes a value. -/
def CommandRule.cluster (rule : CommandRule) : List Char → List OptionName
  | [] => []
  | c :: rest =>
    match rule.options.find? fun o => o.short = some c with
    | none => []
    | some o => o.name :: if o.value.isSome then [] else rule.cluster rest

theorem CommandRule.cluster_cons (rule : CommandRule) {c : Char} {rest : List Char}
    (o : OptionRule) (found : rule.options.find? (fun o => o.short = some c) = some o) :
    rule.cluster (c :: rest) = o.name :: if o.value.isSome then [] else rule.cluster rest := by
  rw [cluster, found]

theorem CommandRule.exists_short (rule : CommandRule) (cs : List Char) (name : OptionName)
    (given : name ∈ rule.cluster cs) : ∃ o ∈ rule.options, o.name = name ∧ o.short ≠ none := by
  induction cs with
  | nil => cases given
  | cons c rest ih =>
    unfold cluster at given
    split at given
    · cases given
    · rename_i o found
      rcases List.mem_cons.mp given with rfl | later
      · have short := List.find?_some found
        exact ⟨o, List.mem_of_find?_eq_some found, rfl, by simp_all⟩
      · split at later
        · cases later
        · exact ih later

namespace Level

variable {rule : CommandRule} {program word : String} {words : List String}
  {level middle level' : Level} {name : OptionName} {long : String}

/-- The options that were read, a pending one last. -/
def options (level : Level) : List OptionName :=
  level.given.map Prod.fst ++ level.pending.toList.map fun (o, _) => o.name

/-- Options were added to a level, and nothing else. -/
structure Adds (level : Level) (names : List OptionName) (level' : Level) : Prop where
  options : level'.options = level.options ++ names
  files : level'.files = level.files
  trailing : level'.trailing = level.trailing

theorem Adds.trans {names names' : List OptionName} (first : Adds level names middle)
    (second : Adds middle names' level') : Adds level (names ++ names') level' where
  options := by rw [second.options, first.options, List.append_assoc]
  files := second.files.trans first.files
  trailing := second.trailing.trans first.trailing

theorem adds_of_enter (o : OptionRule) (value : String) (free : level.pending = none)
    (read : level.enter o value = .ok level') :
    Adds level [o.name] level' ∧ level'.pending = none := by
  unfold enter at read
  split at read
  · cases read
  · split at read
    · cases read
      exact ⟨⟨by simp [options, free], rfl, rfl⟩, free⟩
    · cases read

/-- A pending option counts as one before and after it is settled. -/
theorem adds_of_settle (read : level.settle = .ok level') :
    Adds level [] level' ∧ level'.pending = none := by
  unfold settle at read
  split at read
  · rename_i free
    cases read
    exact ⟨⟨by simp, rfl, rfl⟩, free⟩
  · cases read
  · rename_i o value pending
    obtain ⟨entered, free⟩ := adds_of_enter o value rfl read
    exact ⟨⟨by rw [entered.options]; simp [options, pending], entered.files, entered.trailing⟩,
      free⟩

theorem adds_of_readFlag (isLong : Bool) (o : OptionRule)
    (read : level.readFlag rule program isLong o = .ok level') : Adds level [o.name] level' := by
  obtain ⟨settled, settles, read⟩ := (bind_eq_ok_iff _ _ _).mp read
  obtain ⟨same, free⟩ := adds_of_settle settles
  split at read
  · cases read
  · cases read
  · exact same.trans (adds_of_enter o "" free read).1

theorem adds_of_readAttached (o : OptionRule) (value : String)
    (read : level.readAttached o value = .ok level') : Adds level [o.name] level' := by
  obtain ⟨settled, settles, read⟩ := (bind_eq_ok_iff _ _ _).mp read
  obtain ⟨same, free⟩ := adds_of_settle settles
  exact same.trans (adds_of_enter o value free read).1

theorem adds_of_readDetached (o : OptionRule) (read : level.readDetached o = .ok level') :
    Adds level [o.name] level' := by
  obtain ⟨settled, settles, read⟩ := (bind_eq_ok_iff _ _ _).mp read
  obtain ⟨same, free⟩ := adds_of_settle settles
  cases read
  exact same.trans ⟨by simp [options, free], rfl, rfl⟩

/-! ### One word -/

/-- What reading a word does to a level. -/
inductive Reads (rule : CommandRule) (word : String) (level level' : Level) : Prop
  /-- The end of the options. -/
  | close (start : level.trailing = false) (mark : word = "--")
      (eq : level' = { level with trailing := true })
  | long (start : level.trailing = false) (spelling : List Char)
      (chars : word.toList = '-' :: '-' :: spelling) (further : spelling ≠ []) (o : OptionRule)
      (found : rule.spelled? (String.ofList (spelling.takeWhile (· != '='))) = some o)
      (whole : o.value = none → '=' ∉ spelling) (adds : Adds level [o.name] level')
  | shorts (start : level.trailing = false) (c : Char) (rest : List Char)
      (chars : word.toList = '-' :: c :: rest) (single : c ≠ '-')
      (adds : Adds level (rule.cluster (c :: rest)) level')
  /-- The value of the pending option. -/
  | value (start : level.trailing = false) (plain : ¬ Dashed word) (adds : Adds level [] level')
  | file (free : level.trailing = true ∨ ¬ Dashed word)
      (options : level'.options = level.options) (files : level'.files = level.files ++ [word])
      (trailing : level'.trailing = level.trailing)

theorem reads_of_readLong (start : level.trailing = false) (spelling : List Char)
    (chars : word.toList = '-' :: '-' :: spelling) (further : spelling ≠ [])
    (read : level.readLong rule program spelling = .ok level') : Reads rule word level level' := by
  unfold readLong at read
  dsimp only at read
  split at read
  · cases read
  · rename_i o found
    have reads (whole : o.value = none → '=' ∉ spelling) (adds : Adds level [o.name] level') :
        Reads rule word level level' := .long start spelling chars further o found whole adds
    split at read
    · rename_i takes _
      exact reads (fun flag => by simp [flag] at takes) (adds_of_readAttached o _ read)
    · rename_i takes _
      exact reads (fun flag => by simp [flag] at takes) (adds_of_readDetached o read)
    · cases read
    · rename_i bare
      refine reads (fun _ sign => ?_) (adds_of_readFlag true o read)
      rw [List.dropWhile_eq_nil_iff] at bare
      simpa using bare '=' sign

theorem adds_of_readShorts (cluster : List Char)
    (read : level.readShorts rule program cluster = .ok level') :
    Adds level (rule.cluster cluster) level' := by
  induction cluster generalizing level with
  | nil =>
    cases read
    exact ⟨by simp [CommandRule.cluster], rfl, rfl⟩
  | cons c rest ih =>
    unfold readShorts at read
    split at read
    · cases read
    · rename_i o found
      rw [rule.cluster_cons o found]
      split at read
      · rename_i flag
        obtain ⟨middle, first, more⟩ := (bind_eq_ok_iff _ _ _).mp read
        simpa [flag] using (adds_of_readFlag false o first).trans (ih more)
      · rename_i takes
        simpa [takes] using adds_of_readDetached o read
      · rename_i takes
        simpa [takes] using adds_of_readAttached o _ read
      · rename_i takes _ _
        simpa [takes] using adds_of_readAttached o _ read

theorem reads_of_readPlain (free : level.trailing = true ∨ ¬ Dashed word)
    (read : level.readPlain rule word = .ok level') : Reads rule word level level' := by
  unfold readPlain at read
  split at read
  · rename_i o start pending
    cases read
    refine .value start (free.resolve_left (by simp [start])) ⟨?_, rfl, rfl⟩
    simp [options, pending]
  · split at read
    · obtain ⟨settled, settles, read⟩ := (bind_eq_ok_iff _ _ _).mp read
      obtain ⟨same, -⟩ := adds_of_settle settles
      cases read
      exact .file free (same.options.trans (List.append_nil _)) (by rw [same.files]) same.trailing
    · split at read
      · cases read
      · split at read <;> cases read

/-- A word that is read does one of these things. -/
theorem reads_of_readArg (read : level.readArg rule program word = .ok level') :
    Reads rule word level level' := by
  unfold readArg at read
  split at read
  · rename_i closed
    exact reads_of_readPlain (.inl closed) read
  · rename_i start
    rw [Bool.not_eq_true] at start
    split at read
    · rename_i chars
      cases read
      exact .close start (String.toList_inj.mp chars) rfl
    · rename_i spelling further chars
      exact reads_of_readLong start spelling chars further read
    · rename_i c rest _ single chars
      exact .shorts start c rest chars single (adds_of_readShorts _ read)
    · rename_i plain
      refine reads_of_readPlain (.inr ?_) read
      rintro ⟨c, rest, chars⟩
      exact plain c rest chars

theorem takeWhile_of_plain (spelling : List Char) (plain : '=' ∉ spelling) :
    spelling.takeWhile (· != '=') = spelling := by
  rw [List.takeWhile_eq_self_iff]
  intro c inside
  rw [bne_iff_ne]
  rintro rfl
  exact plain inside

/-- Of a rule's options, the flag is the one that its spelling stands for. -/
theorem name_eq_iff (flag : rule.Flag name long) (spelling : List Char) (o : OptionRule)
    (found : rule.spelled? (String.ofList (spelling.takeWhile (· != '='))) = some o)
    (whole : o.value = none → '=' ∉ spelling) : o.name = name ↔ spelling = long.toList := by
  constructor
  · intro same
    obtain ⟨long_eq, aliases, -, flagged⟩ := flag.alone o (List.mem_of_find?_eq_some found) same
    have spelled := List.find?_some found
    rw [takeWhile_of_plain spelling (whole flagged), aliases, long_eq] at spelled
    have same : long = String.ofList spelling := by simpa using spelled
    rw [same, String.toList_ofList]
  · rintro rfl
    have spelled := flag.spelled
    rw [takeWhile_of_plain _ flag.plain.1, String.ofList_toList] at found
    rw [found] at spelled
    exact Option.some.inj spelled

theorem eq_append_iff (word long : String) :
    word = "--" ++ long ↔ word.toList = '-' :: '-' :: long.toList := by
  rw [← String.toList_inj, String.toList_append]
  rfl

/-- Among the options, a word that begins with two dashes is read as a long option. -/
theorem Reads.exists_of_long (reads : Reads rule word level level')
    (start : level.trailing = false) (spelling : List Char)
    (chars : word.toList = '-' :: '-' :: spelling) (further : spelling ≠ []) :
    ∃ o, rule.spelled? (String.ofList (spelling.takeWhile (· != '='))) = some o ∧
      (o.value = none → '=' ∉ spelling) ∧ Adds level [o.name] level' := by
  have dashed : Dashed word := ⟨_, _, chars⟩
  cases reads with
  | close _ mark _ =>
    rw [mark] at chars
    exact absurd (by simpa using chars) further
  | long _ spelling' chars' _ o found whole adds =>
    obtain rfl : spelling' = spelling := by simpa using chars'.symm.trans chars
    exact ⟨o, found, whole, adds⟩
  | shorts _ c rest chars' single _ =>
    exact absurd (List.cons.inj (List.cons.inj (chars'.symm.trans chars)).2).1 single
  | value _ plain _ => exact absurd dashed plain
  | file free _ _ _ => exact absurd dashed (free.resolve_left (by simp [start]))

/-- A flag is read where its spelling stands among the options. -/
theorem Reads.mem_options_iff (flag : rule.Flag name long) (reads : Reads rule word level level') :
    name ∈ level'.options ↔
      name ∈ level.options ∨ level.trailing = false ∧ word = "--" ++ long := by
  by_cases given : level.trailing = false ∧ word = "--" ++ long
  · have further : long.toList ≠ [] := by simpa using flag.plain.2
    obtain ⟨o, found, whole, adds⟩ := reads.exists_of_long given.1 long.toList
      ((eq_append_iff word long).mp given.2) further
    have same : o.name = name := (name_eq_iff flag long.toList o found whole).mpr rfl
    simp [adds.options, same, given]
  · rw [or_iff_left given]
    cases reads with
    | close _ _ eq => rw [eq]; rfl
    | long start spelling chars _ o found whole adds =>
      have other : name ≠ o.name := by
        intro same
        obtain rfl := (name_eq_iff flag spelling o found whole).mp same.symm
        exact given ⟨start, (eq_append_iff word long).mpr chars⟩
      simp [adds.options, other]
    | shorts _ c rest _ _ adds =>
      have fresh : name ∉ rule.cluster (c :: rest) := by
        intro inside
        obtain ⟨o, known, same, short⟩ := rule.exists_short _ name inside
        exact short (flag.alone o known same).2.2.1
      simp [adds.options, fresh]
    | value _ _ adds => simp [adds.options]
    | file _ options _ _ => rw [options]

/-- A word like an option is a file only behind the end of the options. -/
theorem Reads.mem_files_iff (path : String) (dashed : Dashed path)
    (reads : Reads rule word level level') :
    path ∈ level'.files ↔ path ∈ level.files ∨ level.trailing = true ∧ word = path := by
  have unread (start : level.trailing = false) (files : level'.files = level.files) :
      path ∈ level'.files ↔ path ∈ level.files ∨ level.trailing = true ∧ word = path := by
    simp [files, start]
  cases reads with
  | close start _ eq => exact unread start (by rw [eq])
  | long start _ _ _ _ _ _ adds => exact unread start adds.files
  | shorts start _ _ _ _ adds => exact unread start adds.files
  | value start _ adds => exact unread start adds.files
  | file free _ files _ =>
    rw [files, List.mem_append, List.mem_singleton]
    refine or_congr_right ⟨?_, fun behind => behind.2.symm⟩
    rintro rfl
    exact ⟨free.resolve_right (not_not_intro dashed), rfl⟩

theorem Reads.trailing_iff (reads : Reads rule word level level') :
    level'.trailing = false ↔ level.trailing = false ∧ word ≠ "--" := by
  have mark (chars : word = "--") : Dashed word ∧ word.toList = ['-', '-'] := by
    rw [chars]
    exact ⟨⟨'-', [], rfl⟩, rfl⟩
  have kept (trailing : level'.trailing = level.trailing)
      (other : level.trailing = false → word ≠ "--") :
      level'.trailing = false ↔ level.trailing = false ∧ word ≠ "--" := by
    rw [trailing]
    exact ⟨fun start => ⟨start, other start⟩, And.left⟩
  cases reads with
  | close _ same eq => simp [eq, same]
  | long _ spelling chars further _ _ _ adds =>
    refine kept adds.trailing fun _ same => further ?_
    simpa [chars] using (mark same).2
  | shorts _ c rest chars single adds =>
    refine kept adds.trailing fun _ same => single ?_
    have := (mark same).2
    rw [chars] at this
    exact (List.cons.inj (List.cons.inj this).2).1
  | value _ plain adds => exact kept adds.trailing fun _ same => plain (mark same).1
  | file free _ _ trailing =>
    exact kept trailing fun start same => free.resolve_left (by simp [start]) (mark same).1

/-- Among the options a spelling is not read if it stands for none. -/
theorem Reads.ne_of_unknown (unknown : rule.spelled? long = none) (plain : '=' ∉ long.toList)
    (named : long ≠ "") (start : level.trailing = false) (reads : Reads rule word level level') :
    word ≠ "--" ++ long := by
  intro same
  obtain ⟨o, found, -, -⟩ := reads.exists_of_long start long.toList
    ((eq_append_iff word long).mp same) (by simpa using named)
  rw [takeWhile_of_plain _ plain, String.ofList_toList, unknown] at found
  cases found

/-! ### Several words -/

/-- What reading words from left to right does to a level. -/
inductive ReadsAll (rule : CommandRule) : List String → Level → Level → Prop
  | nil (level : Level) : ReadsAll rule [] level level
  | cons (word : String) (words : List String) (level middle level' : Level)
      (first : Reads rule word level middle) (rest : ReadsAll rule words middle level') :
      ReadsAll rule (word :: words) level level'

/-- The name of the command that ends a level, and what follows it. -/
def unread : Option (String × List String) → List String
  | none => []
  | some (name, rest) => name :: rest

/-- A level is read up to its end, or up to the name of a command among the options. -/
theorem readsAll_of_read (args : List String) (next : Option (String × List String))
    (read : level.read rule program args = .ok (level', next)) :
    ∃ words, args = words ++ unread next ∧ ReadsAll rule words level level' ∧
      ∀ name rest, next = some (name, rest) →
        level'.trailing = false ∧ ∃ about, (name, about) ∈ rule.commands := by
  induction args generalizing level with
  | nil =>
    cases read
    exact ⟨[], rfl, .nil _, fun _ _ none => by cases none⟩
  | cons arg args ih =>
    unfold Level.read at read
    split at read
    · rename_i reached
      simp only [Bool.and_eq_true, Bool.not_eq_true', List.any_eq_true, decide_eq_true_eq]
        at reached
      obtain ⟨⟨start, -⟩, ⟨name, about⟩, listed, rfl⟩ := reached
      cases read
      refine ⟨[], rfl, .nil _, fun name rest same => ?_⟩
      cases same
      exact ⟨start, about, listed⟩
    · obtain ⟨middle, first, read⟩ := (bind_eq_ok_iff _ _ _).mp read
      obtain ⟨words, rfl, rest, ends⟩ := ih read
      exact ⟨arg :: words, rfl, .cons arg words _ middle _ (reads_of_readArg first) rest, ends⟩

theorem ReadsAll.trailing_iff (reads : ReadsAll rule words level level') :
    level'.trailing = false ↔ level.trailing = false ∧ "--" ∉ words := by
  induction reads with
  | nil => simp
  | cons word words level middle level' first rest ih =>
    rw [ih, first.trailing_iff, List.mem_cons, not_or, and_assoc, ne_comm]

theorem ReadsAll.mem_options_iff (flag : rule.Flag name long)
    (reads : ReadsAll rule words level level') :
    name ∈ level'.options ↔
      name ∈ level.options ∨ level.trailing = false ∧ "--" ++ long ∈ wordsBefore words := by
  induction reads with
  | nil => simp [wordsBefore]
  | cons word words level middle level' first rest ih =>
    rw [ih, first.mem_options_iff flag, first.trailing_iff, wordsBefore_cons]
    by_cases mark : word = "--"
    · have other : "--" ≠ "--" ++ long := fun same => flag.plain.2 <| by
        simpa using (eq_append_iff "--" long).mp same
      simp [mark, other]
    · rw [if_neg mark, List.mem_cons]
      tauto

theorem ReadsAll.mem_files_iff (path : String) (dashed : Dashed path)
    (reads : ReadsAll rule words level level') :
    path ∈ level'.files ↔
      path ∈ level.files ∨ path ∈ (if level.trailing then words else wordsBehind words) := by
  induction reads with
  | nil => simp [wordsBehind]
  | cons word words level middle level' first rest ih =>
    rw [ih, first.mem_files_iff path dashed, wordsBehind_cons]
    have closes := first.trailing_iff
    cases start : level.trailing with
    | true =>
      have closed : middle.trailing = true := by simpa [start] using closes
      simp [closed, eq_comm, or_assoc]
    | false =>
      by_cases mark : word = "--"
      · have closed : middle.trailing = true := by simpa [start, mark] using closes
        simp [closed, mark]
      · have opened : middle.trailing = false := by simpa [start, mark] using closes
        simp [opened, mark]

theorem ReadsAll.not_mem_of_unknown (unknown : rule.spelled? long = none)
    (plain : '=' ∉ long.toList) (named : long ≠ "") (start : level.trailing = false)
    (reads : ReadsAll rule words level level') : "--" ++ long ∉ wordsBefore words := by
  induction reads with
  | nil => simp [wordsBefore]
  | cons word words level middle level' first rest ih =>
    rw [wordsBefore_cons]
    split
    · exact List.not_mem_nil
    · rename_i open'
      rw [List.mem_cons, not_or]
      exact ⟨(first.ne_of_unknown unknown plain named start).symm,
        ih (first.trailing_iff.mpr ⟨start, open'⟩)⟩

/-- A level in which no command may stand is read to the end of the words. -/
theorem readsAll_of_childless (childless : rule.commands = []) (args : List String)
    (next : Option (String × List String))
    (read : level.read rule program args = .ok (level', next)) :
    ReadsAll rule args level level' := by
  obtain ⟨words, rfl, reads, reached⟩ := readsAll_of_read args next read
  cases next with
  | none => simpa [unread] using reads
  | some stop =>
    obtain ⟨-, about, listed⟩ := reached stop.1 stop.2 rfl
    rw [childless] at listed
    cases listed

/-- Ending a level settles its pending option. -/
theorem has_of_finish (ended : level.finish rule = .ok level') :
    (∀ name, level'.has name = true ↔ name ∈ level.options) ∧ level'.files = level.files ∧
      level'.conflicting rule = false := by
  obtain ⟨settled, settles, ended⟩ := (bind_eq_ok_iff _ _ _).mp ended
  obtain ⟨same, free⟩ := adds_of_settle settles
  split at ended
  · cases ended
  · rename_i peaceful
    cases ended
    refine ⟨fun name => ?_, same.files, by simpa using peaceful⟩
    rw [← List.append_nil level.options, ← same.options]
    simp [has, options, free]

end Level

/-! ### Command lines -/

variable {program : String} {args : List String} {c : CommandLine}

/-- A command has no commands of its own. -/
theorem childless_of_rule? {name : String} {rule : CommandRule} (known : rule? name = some rule) :
    rule.commands = [] := by
  unfold rule? at known
  split at known <;> cases known <;> rfl

/-- An accepted line has the options of the program, the name of a command, and a level of the
command's; both levels end in peace, and the line is what they are joined to. -/
theorem exists_of_parse (accepted : parse program args = .ok c) :
    ∃ (front rest : List String) (name : String) (rule : CommandRule)
      (outer outer' level inner : Level),
      args = front ++ name :: rest ∧ Level.ReadsAll programRule front {} outer ∧
        outer.trailing = false ∧ outer.finish programRule = .ok outer' ∧
        rule? name = some rule ∧ Level.ReadsAll rule rest {} level ∧
        level.finish rule = .ok inner ∧ c = ofLevels outer' inner (commandOf name inner) := by
  obtain ⟨⟨outer, next⟩, read, goes⟩ := (bind_eq_ok_iff _ _ _).mp accepted
  obtain ⟨front, rfl, before, reached⟩ := Level.readsAll_of_read args next read
  cases next with
  | none =>
    obtain ⟨settled, -, stops⟩ := (bind_eq_ok_iff _ _ _).mp goes
    split at stops <;> cases stops
  | some next =>
    obtain ⟨name, rest⟩ := next
    obtain ⟨start, -⟩ := reached name rest rfl
    dsimp only at goes
    cases known : rule? name with
    | none =>
      rw [known] at goes
      cases goes
    | some rule =>
      rw [known] at goes
      obtain ⟨⟨level, stop⟩, read', goes⟩ := (bind_eq_ok_iff _ _ _).mp goes
      obtain ⟨inner, ended, goes⟩ := (bind_eq_ok_iff _ _ _).mp goes
      obtain ⟨outer', ended', goes⟩ := (bind_eq_ok_iff _ _ _).mp goes
      cases goes
      exact ⟨front, rest, name, rule, outer, outer', level, inner, rfl, before, start, ended',
        known, Level.readsAll_of_childless (childless_of_rule? known) rest stop read', ended, rfl⟩

theorem flag_fix : lintRule.Flag .fix "fix" := ⟨by decide, by decide, by decide⟩

theorem flag_noFix : lintRule.Flag .noFix "no-fix" := ⟨by decide, by decide, by decide⟩

/-- What the words of a line with the command `lint` say: the two flags hold if they stand before
the first `--`, which not both of them do, and the files that are spelled like options are the words
behind it. -/
theorem lint_of_parse {lint : LintArgs} (accepted : parse program args = .ok c)
    (command : c.command = .lint lint) :
    (lint.fix = true ↔ "--fix" ∈ wordsBefore args) ∧
      (lint.noFix = true ↔ "--no-fix" ∈ wordsBefore args) ∧
      ¬ (lint.fix = true ∧ lint.noFix = true) ∧
      ∀ path, Dashed path → (path ∈ lint.files ↔ path ∈ wordsBehind args) := by
  obtain ⟨front, rest, name, rule, outer, outer', level, inner, rfl, before, start, -, known,
    behind, ended, joined⟩ := exists_of_parse accepted
  have asked : c.command = commandOf name inner := by rw [joined]; rfl
  obtain rfl : name = "lint" := by
    rw [asked] at command
    unfold commandOf at command
    split at command <;> first | rfl | cases command
  cases known
  cases asked.symm.trans command
  obtain ⟨has, files, peaceful⟩ := Level.has_of_finish ended
  have opened : "--" ∉ front := (before.trailing_iff.mp start).2
  have here : "lint" ≠ "--" := by decide
  have given (long : String) (name : OptionName) (flag : lintRule.Flag name long)
      (foreign : programRule.spelled? long = none) (other : "lint" ≠ "--" ++ long) :
      inner.has name = true ↔ "--" ++ long ∈ wordsBefore (front ++ "lint" :: rest) := by
    -- before the command the flag is unknown, and the line would have been refused
    have absent := before.not_mem_of_unknown foreign flag.plain.1 flag.plain.2 rfl
    rw [wordsBefore_of_not_mem opened] at absent
    rw [has, behind.mem_options_iff flag, wordsBefore_append _ opened, wordsBefore_cons,
      if_neg here]
    simp [absent, other.symm, Level.options]
  refine ⟨given "fix" .fix flag_fix (by decide) (by decide),
    given "no-fix" .noFix flag_noFix (by decide) (by decide), ?_, fun path dashed => ?_⟩
  · rintro ⟨fix, noFix⟩
    have excluded : (OptionName.fix, OptionName.noFix) ∈ lintRule.conflicts := by decide
    rw [Level.conflicting, List.any_eq_false] at peaceful
    exact peaceful _ excluded (by simpa using ⟨fix, noFix⟩)
  · have default : path ≠ "." := by
      rintro rfl
      obtain ⟨c, rest, chars⟩ := dashed
      exact absurd chars (by simp)
    have listed := behind.mem_files_iff path dashed
    rw [← files] at listed
    rw [wordsBehind_append _ opened, wordsBehind_cons, if_neg here]
    cases inside : inner.files with
    | nil => simpa [inside, default] using listed
    | cons first more => simpa [inside] using listed

end TsWorkshop.CommandLine
