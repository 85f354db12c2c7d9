import TsWorkshop.Proofs.CommandLine.Reading

/-!
The two sides of a command. The words before the name of a command and those behind it are read on
levels of their own, and each level has exactly the options that its words give
(`Level.ReadsAll.options_eq`). Options that exclude each other are looked for on each level alone,
so a line may be verbose and quiet at once if the two flags stand on different sides
(`exclusive_unless_apart`).
-/

namespace TsWorkshop.CommandLine

namespace CommandRule

/-- The options that a word gives if it stands before the end of the options. -/
def given (rule : CommandRule) (word : String) : List OptionName :=
  match word.toList with
  | ['-', '-'] => []
  | '-' :: '-' :: spelling =>
    ((rule.spelled? (String.ofList (spelling.takeWhile (· != '=')))).map OptionRule.name).toList
  | '-' :: c :: rest => rule.cluster (c :: rest)
  | _ => []

/-- The options that words give. -/
def givenBy (rule : CommandRule) (words : List String) : List OptionName :=
  (wordsBefore words).flatMap rule.given

theorem given_of_not_dashed (rule : CommandRule) (word : String) (plain : ¬ Dashed word) :
    rule.given word = [] := by
  unfold given
  split
  · rfl
  · rename_i spelling _ chars
    exact absurd ⟨'-', spelling, chars⟩ plain
  · rename_i c rest _ _ chars
    exact absurd ⟨c, rest, chars⟩ plain
  · rfl

theorem givenBy_cons (rule : CommandRule) (word : String) (words : List String) :
    rule.givenBy (word :: words) =
      if word = "--" then [] else rule.given word ++ rule.givenBy words := by
  unfold givenBy
  rw [wordsBefore_cons]
  split
  · rfl
  · rfl

end CommandRule

/-! ### The options of a level -/

namespace Level

variable {rule : CommandRule} {word : String} {words : List String} {level level' : Level}

/-- A word among the options gives the options that its spelling says. -/
theorem Reads.options_eq (reads : Reads rule word level level') (start : level.trailing = false) :
    level'.options = level.options ++ rule.given word := by
  cases reads with
  | close _ mark eq =>
    rw [eq, mark]
    exact (List.append_nil _).symm
  | long _ spelling chars further o found _ adds =>
    rw [adds.options]
    unfold CommandRule.given
    rw [chars]
    cases spelling with
    | nil => exact absurd rfl further
    | cons c rest => simp [found]
  | shorts _ c rest chars single adds =>
    rw [adds.options]
    unfold CommandRule.given
    rw [chars]
    split
    · rename_i same
      exact absurd (List.cons.inj (List.cons.inj same).2).1 single
    · rename_i same
      exact absurd (List.cons.inj (List.cons.inj same).2).1 single
    · rename_i same
      rw [(List.cons.inj same).2]
    · rename_i other
      exact absurd rfl (other c rest)
  | value _ plain adds => rw [adds.options, rule.given_of_not_dashed word plain]
  | file free options _ _ =>
    have plain : ¬ Dashed word := free.resolve_left (by simp [start])
    rw [options, rule.given_of_not_dashed word plain, List.append_nil]

/-- Behind the end of the options no word gives one. -/
theorem Reads.options_of_trailing (reads : Reads rule word level level')
    (closed : level.trailing = true) : level'.options = level.options := by
  cases reads with
  | file _ options _ _ => exact options
  | close start | long start | shorts start | value start => simp [closed] at start

/-- A level has the options that its words give up to the end of the options, in their order. -/
theorem ReadsAll.options_eq (reads : ReadsAll rule words level level') :
    level'.options = level.options ++ if level.trailing then [] else rule.givenBy words := by
  induction reads with
  | nil => simp [CommandRule.givenBy, wordsBefore]
  | cons word words level middle level' first rest ih =>
    have closes := first.trailing_iff
    rw [ih, rule.givenBy_cons]
    cases start : level.trailing with
    | true =>
      have closed : middle.trailing = true := by simpa [start] using closes
      simp [closed, first.options_of_trailing start]
    | false =>
      rw [first.options_eq start]
      by_cases mark : word = "--"
      · have closed : middle.trailing = true := by simpa [start, mark] using closes
        have nothing : rule.given "--" = [] := rfl
        simp [closed, mark, nothing]
      · have opened : middle.trailing = false := by simpa [start, mark] using closes
        simp [opened, mark]

/-- A level that ends in peace has the options that its words give, and of two that exclude each
other at most one. -/
theorem has_iff_of_finish {inner : Level} (reads : ReadsAll rule words {} level)
    (ended : level.finish rule = .ok inner) :
    (∀ name, inner.has name = true ↔ name ∈ rule.givenBy words) ∧
      ∀ a b, (a, b) ∈ rule.conflicts → ¬ (a ∈ rule.givenBy words ∧ b ∈ rule.givenBy words) := by
  obtain ⟨has, -, peaceful⟩ := has_of_finish ended
  have options : level.options = rule.givenBy words := by simpa [options] using reads.options_eq
  rw [options] at has
  refine ⟨has, fun a b excluded => ?_⟩
  rintro ⟨first, second⟩
  rw [conflicting, List.any_eq_false] at peaceful
  exact peaceful _ excluded (by simp [(has a).mpr first, (has b).mpr second])

end Level

/-! ### Whole lines -/

/-- The words of a line before and behind the name of its command, and which of them make it verbose
or quiet. -/
structure Sided (args : List String) (c : CommandLine) (front back : List String)
    (rule : CommandRule) : Prop where
  line : ∃ name, args = front ++ name :: back ∧ rule? name = some rule
  verbose : c.verbose = true ↔
    .verbose ∈ programRule.givenBy front ∨ .verbose ∈ rule.givenBy back
  quiet : c.quiet = true ↔ .quiet ∈ programRule.givenBy front ∨ .quiet ∈ rule.givenBy back
  exclusiveBefore :
    ¬ (.quiet ∈ programRule.givenBy front ∧ .verbose ∈ programRule.givenBy front)
  exclusiveBehind : ¬ (.quiet ∈ rule.givenBy back ∧ .verbose ∈ rule.givenBy back)

variable {program : String} {args : List String} {c : CommandLine}

theorem globalConflicts_of_rule? (name : String) (rule : CommandRule)
    (known : rule? name = some rule) : (OptionName.quiet, OptionName.verbose) ∈ rule.conflicts := by
  unfold rule? at known
  split at known <;> cases known <;> decide

theorem exists_sided (accepted : parse program args = .ok c) :
    ∃ front back rule, Sided args c front back rule := by
  obtain ⟨front, back, name, rule, outer, outer', level, inner, line, before, -, ended', known,
    behind, ended, joined⟩ := exists_of_parse accepted
  obtain ⟨hasBefore, peaceBefore⟩ := Level.has_iff_of_finish before ended'
  obtain ⟨hasBehind, peaceBehind⟩ := Level.has_iff_of_finish behind ended
  have flag (option : OptionName) : (outer'.has option || inner.has option) = true ↔
      option ∈ programRule.givenBy front ∨ option ∈ rule.givenBy back := by
    rw [Bool.or_eq_true, hasBefore, hasBehind]
  refine ⟨front, back, rule, ⟨name, line, known⟩, ?_, ?_, peaceBefore _ _ (by decide),
    peaceBehind _ _ (globalConflicts_of_rule? name rule known)⟩
  · rw [joined]
    exact flag .verbose
  · rw [joined]
    exact flag .quiet

/-- No accepted line asks for fixing and for no fixing. An accepted line is verbose and quiet
exactly if one of the two flags is given before the name of the command and the other behind it. -/
theorem exclusive_unless_apart (accepted : parse program args = .ok c) :
    (∀ lint, c.command = .lint lint → ¬ (lint.fix = true ∧ lint.noFix = true)) ∧
      ∃ front back rule, Sided args c front back rule ∧
        (c.verbose = true ∧ c.quiet = true ↔
          .verbose ∈ programRule.givenBy front ∧ .quiet ∈ rule.givenBy back ∨
            .quiet ∈ programRule.givenBy front ∧ .verbose ∈ rule.givenBy back) := by
  obtain ⟨front, back, rule, sided⟩ := exists_sided accepted
  refine ⟨fun lint command => (lint_of_parse accepted command).2.2.1, front, back, rule, sided, ?_⟩
  have before := sided.exclusiveBefore
  have behind := sided.exclusiveBehind
  rw [sided.verbose, sided.quiet]
  tauto

/-- A line that is quiet on both sides of its command, once within a cluster. -/
theorem exclusive_unless_apart_quiet :
    let args := ["-qc", "x.json", "lint", "--no-fix", "-q"]
    let c : CommandLine :=
      { quiet := true, config := some "x.json", command := .lint { noFix := true } }
    parse programName args = .ok c ∧
      (∀ lint, c.command = .lint lint → ¬ (lint.fix = true ∧ lint.noFix = true)) ∧
      ∃ front back rule, Sided args c front back rule ∧
        (c.verbose = true ∧ c.quiet = true ↔
          .verbose ∈ programRule.givenBy front ∧ .quiet ∈ rule.givenBy back ∨
            .quiet ∈ programRule.givenBy front ∧ .verbose ∈ rule.givenBy back) := by
  intro args c
  have accepted : parse programName args = .ok c := by decide +kernel
  exact ⟨accepted, exclusive_unless_apart accepted⟩

/-- Verbose before the command and quiet behind it are taken together. -/
theorem verbose_and_quiet :
    parse programName ["-v", "lint", "-q"] =
      .ok { verbose := true, quiet := true, command := .lint {} } := by
  decide +kernel

end TsWorkshop.CommandLine
