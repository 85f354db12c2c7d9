import TsWorkshop.Proofs.Json.Shuffled
import TsWorkshop.Proofs.Json.Standard

/-!
The order of members does not show in what is read by a shape. A shape whose tests look at the
content of a value alone refuses a shuffled text without repeated keys if it refuses the text, and
otherwise reads the same content from both (`outcome_ofSource`). A record reads its members one by
one; without repeated keys that is reading each on its own (`toOption_readMembers`).
-/

namespace TsWorkshop

open Source (Member Matching Alike Shuffled gathered Keyed contentOf)

namespace Shape

variable {ρ : Type}

/-- The tests in a shape look at the content of a value alone. -/
def ContentOnly : Shape ρ → Prop
  | list item => item.ContentOnly
  | choice _ accepts => ∀ v, accepts v.canonical = accepts v
  | any | text _ | flag | whole _ _ _ | word _ _ | record _ | oneOrMany _ _ => True

end Shape

/-- The fields of the records of a format have shapes that look at content alone. -/
def Grammar.ContentOnly {ρ : Type} (grammar : Grammar ρ) : Prop :=
  ∀ name, ∀ field ∈ (grammar name).fields, field.shape.ContentOnly

namespace Shape

variable {ρ : Type} (grammar : Grammar ρ)

/-! ### Members of a record -/

section Record

variable (record : Record ρ) (room : Nat)

/-- What a member of a record comes to: a field or a kept member has an entry, a skipped one has
none. -/
def readEntry (m : Member) : Option (Option (String × Json)) :=
  m.1.toOption.bind fun key =>
    match record.field? key with
    | some field =>
      (if field.nullable && m.2.isNull then .ok .null
        else read grammar field.shape room m.2 : Except Complaint Json).toOption.map
          fun v => some (key, v)
    | none =>
      if record.keepsOthers then
        (m.2.value room).toOption.map fun v => some (key, v.canonical)
      else if record.refusesOthers || m.2.skip.isSome then none
      else some none

theorem keyed_readEntry : Keyed (readEntry grammar record room) := by
  intro m key v h
  obtain ⟨first, there, h⟩ := Option.bind_eq_some_iff.mp h
  have same : first = key := by
    split at h
    · obtain ⟨w, -, same⟩ := Option.map_eq_some_iff.mp h
      cases same
      rfl
    · split at h
      · obtain ⟨w, -, same⟩ := Option.map_eq_some_iff.mp h
        cases same
        rfl
      · split at h <;> cases h
  exact same ▸ (toOption_eq_some_iff m.1 first).mp there

/-- A member whose key has not been seen is read on its own. -/
theorem toOption_readMembers_cons (seen : Assoc Json) (m : Member) (rest : List Member)
    (ending : ObjectEnd) (fresh : ∀ key, m.1 = .ok key → key ∉ Assoc.keys seen) :
    (readMembers grammar record room seen (m :: rest) ending).toOption =
      (readEntry grammar record room m).bind fun e =>
        (readMembers grammar record room (seen ++ e.toList) rest ending).toOption := by
  obtain ⟨key, item⟩ := m
  cases key with
  | error e => rfl
  | ok key =>
    have absent := fresh key rfl
    have unseen : seen.has key = false := by
      simp [Assoc.has, (Assoc.get?_eq_none_iff key seen).mpr absent]
    have put (v : Json) : seen.put key v = seen ++ [(key, v)] :=
      Assoc.put_of_not_mem key v seen absent
    rw [readMembers, readEntry, toOption_bind]
    change (Option.bind (some key) _) = Option.bind (Option.bind (some key) _) _
    rw [Option.bind_some, Option.bind_some]
    -- the branches of the reader: a field, a kept member, a refused one, a skipped one
    cases record.field? key with
    | some field =>
      simp only [unseen, Bool.false_eq_true, if_false, toOption_bind, Option.bind_map, put]
      rfl
    | none =>
      cases record.keepsOthers with
      | true =>
        simp only [if_true, toOption_bind, Option.bind_map, put]
        rfl
      | false =>
        cases record.refusesOthers with
        | true => rfl
        | false =>
          cases item.skip with
          | some complaint => rfl
          | none => simp

/-- Without repeated keys, reading members one after the other is reading each on its own. -/
theorem toOption_readMembers (seen : Assoc Json) (ms : List Member)
    (unique : (Source.keys ms).Nodup) (fresh : ∀ key ∈ Source.keys ms, key ∉ Assoc.keys seen) :
    (readMembers grammar record room seen ms .closed).toOption =
      ((gathered (readEntry grammar record room) ms).map (seen ++ ·)).filter
        fun entries => (record.missing? entries).isNone := by
  induction ms generalizing seen with
  | nil =>
    simp only [readMembers, Source.gathered_nil, Option.map_some, List.append_nil]
    cases there : record.missing? seen <;> simp [there, Except.toOption, Option.filter]
  | cons m rest ih =>
    have apart : ∀ key, m.1 = .ok key → key ∉ Assoc.keys seen ∧ key ∉ Source.keys rest := by
      intro key here
      simp only [Source.keys, List.filterMap_cons, here, Except.toOption, List.nodup_cons] at unique
      exact ⟨fresh key (by simp [Source.keys, here, Except.toOption]), unique.1⟩
    have later : ∀ key ∈ Source.keys rest, key ∈ Source.keys (m :: rest) := fun key inside =>
      ((List.sublist_cons_self m rest).filterMap _).mem inside
    rw [toOption_readMembers_cons grammar record room seen m rest _ fun key here =>
      (apart key here).1, Source.gathered_cons]
    cases entry : readEntry grammar record room m with
    | none => rfl
    | some e =>
      have unseen : ∀ key ∈ Source.keys rest, key ∉ Assoc.keys (seen ++ e.toList) := by
        intro key inside
        rw [Assoc.keys_append, List.mem_append]
        rintro (before | here)
        · exact fresh key (later key inside) before
        · cases e with
          | none => cases here
          | some e =>
            have named := keyed_readEntry grammar record room m e.1 e.2 entry
            obtain rfl : key = e.1 := List.mem_singleton.mp here
            exact (apart e.1 named).2 inside
      rw [Option.bind_some, Option.bind_some, ih _ (unique.sublist
        ((List.sublist_cons_self m rest).filterMap _)) unseen, Option.map_map]
      congr 2
      funext entries
      simp

/-- Members are read only if their object is closed. -/
theorem closed_of_readMembers (seen : Assoc Json) (ms : List Member) (ending : ObjectEnd)
    (entries : Assoc Json) (h : readMembers grammar record room seen ms ending = .ok entries) :
    ending = .closed := by
  induction ms generalizing seen with
  | nil =>
    unfold readMembers at h
    split at h
    · cases h
    · rfl
  | cons m rest ih =>
    obtain ⟨key, item⟩ := m
    obtain ⟨key, -, h⟩ := (bind_eq_ok_iff _ _ _).mp h
    split at h
    · split at h
      · cases h
      · obtain ⟨v, -, h⟩ := (bind_eq_ok_iff _ _ _).mp h
        exact ih _ h
    · split at h
      · obtain ⟨v, -, h⟩ := (bind_eq_ok_iff _ _ _).mp h
        exact ih _ h
      · split at h
        · cases h
        · split at h
          · cases h
          · exact ih _ h

end Record

/-! ### Shuffled texts -/

/-- Two texts that are read alike by a shape: both are refused, or the same content is read. Which
complaint comes first does depend on the order of members. -/
def ReadAlike (s s' : Source) : Prop :=
  ∀ shape : Shape ρ, shape.ContentOnly → ∀ room,
    outcome Json.canonical (read grammar shape room s) =
      outcome Json.canonical (read grammar shape room s')

/-- Two texts that are alike whichever way they are read. -/
structure AlikeFor (s s' : Source) : Prop extends Alike s s' where
  read : ReadAlike grammar s s'

theorem outcome_readItems (shape : Shape ρ) (tests : shape.ContentOnly) (room : Nat)
    (xs ys : List Source) (parts : List.Forall₂ (AlikeFor grammar) xs ys) :
    outcome (List.map Json.canonical) (readItems grammar shape room xs) =
      outcome (List.map Json.canonical) (readItems grammar shape room ys) := by
  induction parts with
  | nil => rfl
  | cons first _ ih =>
    refine outcome_bind _ _ _ _ _ _ (first.read shape tests room) fun v w same => ?_
    refine outcome_bind _ _ _ _ _ _ ih fun vs ws rest => ?_
    exact congrArg some (congrArg₂ List.cons same rest)

theorem outcome_readTuple (record : Record ρ) (room count : Nat) (fields : List (Field ρ))
    (tests : ∀ field ∈ fields, field.shape.ContentOnly) (xs ys : List Source)
    (parts : List.Forall₂ (AlikeFor grammar) xs ys) (ending : ListEnd) :
    outcome Json.canonicalMembers (readTuple grammar record room count fields xs ending) =
      outcome Json.canonicalMembers (readTuple grammar record room count fields ys ending) := by
  induction parts generalizing count fields with
  | nil => rfl
  | @cons x y xs ys first _ ih =>
    cases fields with
    | nil => rfl
    | cons field fields =>
      obtain ⟨here, tests⟩ := List.forall_mem_cons.mp tests
      have value : outcome (Option.map Json.canonical)
            (if field.nullable && x.isNull then .ok none
              else (read grammar field.shape room x).map some) =
          outcome (Option.map Json.canonical)
            (if field.nullable && y.isNull then .ok none
              else (read grammar field.shape room y).map some) := by
        rw [first.isNull]
        split
        · rfl
        · rw [outcome_map Json.canonical _ some some fun _ => rfl, first.read _ here,
            outcome_map Json.canonical _ some some fun _ => rfl]
      refine outcome_bind _ _ _ _ _ _ value fun v w same => ?_
      refine outcome_bind _ _ _ _ _ _ (ih (count + 1) fields tests) fun vs ws rest => ?_
      cases v <;> cases w
      · exact congrArg some rest
      · cases same
      · cases same
      · have content := Option.some.inj same
        rw [outcome_pure, outcome_pure, Json.canonicalMembers, Json.canonicalMembers, content, rest]

theorem contentOf_readEntry (record : Record ρ)
    (tests : ∀ field ∈ record.fields, field.shape.ContentOnly) (room : Nat)
    (key : Except Complaint String) (s s' : Source) (alike : AlikeFor grammar s s') :
    contentOf (readEntry grammar record room) (key, s) =
      contentOf (readEntry grammar record room) (key, s') := by
  unfold contentOf readEntry
  cases key with
  | error e => rfl
  | ok key =>
    change Option.map _ (Option.bind (some key) _) = Option.map _ (Option.bind (some key) _)
    rw [Option.bind_some, Option.bind_some]
    have shown (f : Json → Json) (idem : ∀ v, (f v).canonical = v.canonical)
        (x : Except Complaint Json) :
        (x.toOption.map fun v => some (key, f v)).map (Option.map (Prod.map id Json.canonical)) =
          (outcome Json.canonical x).map fun v => some (key, v) := by
      cases x with
      | error e => rfl
      | ok v => exact congrArg (fun w => some (some (key, w))) (idem v)
    cases known : record.field? key with
    | some field =>
      have here := tests field (List.mem_of_find?_eq_some known)
      have value : outcome Json.canonical
            (if field.nullable && s.isNull then .ok .null
              else read grammar field.shape room s : Except Complaint Json) =
          outcome Json.canonical
            (if field.nullable && s'.isNull then .ok .null
              else read grammar field.shape room s' : Except Complaint Json) := by
        rw [alike.isNull]
        split
        · rfl
        · exact alike.read field.shape here room
      exact (shown id (fun _ => rfl) _).trans
        ((congrArg _ value).trans (shown id (fun _ => rfl) _).symm)
    | none =>
      dsimp only
      split
      · rw [shown Json.canonical Json.canonical_canonical, alike.value,
          shown Json.canonical Json.canonical_canonical]
      · rw [alike.skip]

theorem missing?_sortedMembers (record : Record ρ) (entries : Assoc Json)
    (unique : (Assoc.keys entries).Nodup) :
    record.missing? (Json.sortedMembers entries) = record.missing? entries := by
  have has (name : String) : (Json.sortedMembers entries).has name = entries.has name := by
    rw [Assoc.has, Json.get?_sortedMembers name entries unique, Option.isSome_map, Assoc.has]
  simp only [Record.missing?, has]

theorem outcome_readMembers (record : Record ρ)
    (tests : ∀ field ∈ record.fields, field.shape.ContentOnly) (room : Nat)
    (ms renewed ns : List Member) (unique : (Source.keys ms).Nodup)
    (parts : List.Forall₂ (Matching (AlikeFor grammar)) ms renewed) (order : renewed.Perm ns)
    (ending : ObjectEnd) :
    outcome Json.sortedMembers (readMembers grammar record room [] ms ending) =
      outcome Json.sortedMembers (readMembers grammar record room [] ns ending) := by
  cases ending with
  | broken reading skipping =>
    have refused (ms : List Member) : outcome Json.sortedMembers
        (readMembers grammar record room [] ms (.broken reading skipping)) = none := by
      cases h : readMembers grammar record room [] ms (.broken reading skipping) with
      | error e => rfl
      | ok entries => cases closed_of_readMembers grammar record room [] ms _ entries h
    rw [refused, refused]
  | closed =>
    have keyed := keyed_readEntry grammar record room
    have uniqueRenewed : (Source.keys renewed).Nodup :=
      Source.keys_matching _ ms renewed parts ▸ unique
    have uniqueOther : (Source.keys ns).Nodup :=
      (order.filterMap _).nodup_iff.mp uniqueRenewed
    have content := Source.gathered_shuffled _ keyed ms renewed ns uniqueRenewed
      (parts.imp fun _ _ matching => by
        obtain ⟨key, s, s', alike⟩ := matching
        exact contentOf_readEntry grammar record tests room key s s' alike) order
    -- whether a field is missing shows in the content
    have read (ms : List Member) (unique : (Source.keys ms).Nodup) :
        outcome Json.sortedMembers (readMembers grammar record room [] ms .closed) =
          ((gathered (readEntry grammar record room) ms).map Json.sortedMembers).filter
            fun entries => (record.missing? entries).isNone := by
      rw [outcome, toOption_readMembers grammar record room [] ms unique fun _ _ => by simp]
      cases there : gathered (readEntry grammar record room) ms with
      | none => rfl
      | some entries =>
        have distinct := Source.nodup_gathered _ keyed ms unique entries there
        have same := missing?_sortedMembers record entries distinct
        cases missing : record.missing? entries <;> simp [same, missing, Option.filter]
    rw [read ms unique, content, read ns uniqueOther]

/-! ### Fixed words -/

/-- Only an object whose single member is `null` is read as a word. -/
theorem readWordObject_eq_ok_iff (known : List String) (meaning : Assoc String) (ms : List Member)
    (ending : ObjectEnd) (v : Json) :
    readWordObject known meaning ms ending = .ok v ↔
      ∃ key w, ms = [(.ok key, .null)] ∧ ending = .closed ∧ meaning.get? key = some w ∧
        v = .str w := by
  constructor
  · intro h
    unfold readWordObject at h
    split at h
    · cases h
    · cases h
    · obtain ⟨key, there, h⟩ := (bind_eq_ok_iff _ _ _).mp h
      split at h
      · obtain ⟨key, -, h⟩ := (bind_eq_ok_iff _ _ _).mp h
        cases h
      · next w meant =>
        split at h
        · split at h
          · cases h
            exact ⟨key, w, by rw [there], rfl, meant, rfl⟩
          all_goals cases h
        · cases h
        · cases h
        · obtain ⟨n, -, h⟩ := (bind_eq_ok_iff _ _ _).mp h
          split at h <;> cases h
        · obtain ⟨s, -, h⟩ := (bind_eq_ok_iff _ _ _).mp h
          cases h
        · cases h
        · cases h
  · rintro ⟨key, w, rfl, rfl, meant, rfl⟩
    simp only [readWordObject, bind, Except.bind, meant]
    rfl

theorem isNull_iff (s : Source) : s.isNull = true ↔ s = .null := by
  cases s <;> simp [Source.isNull]

/-- A single member that is `null` stays what it is in a shuffled object. -/
theorem null_member_iff (ms renewed ns : List Member)
    (parts : List.Forall₂ (Matching Alike) ms renewed) (order : renewed.Perm ns)
    (key : Except Complaint String) : ms = [(key, .null)] ↔ ns = [(key, .null)] := by
  have kept : ms = [(key, .null)] ↔ renewed = [(key, .null)] := by
    rcases parts with _ | ⟨⟨_, s, s', alike⟩, _ | _⟩
    · simp
    · have same : s = .null ↔ s' = .null := by rw [← isNull_iff, alike.isNull, isNull_iff]
      simp [same]
    · simp
  rw [kept]
  constructor
  · rintro rfl
    exact List.perm_singleton.mp order.symm
  · rintro rfl
    exact List.perm_singleton.mp order

/-! ### Whole values -/

section Value

variable {x y : Except Complaint Json} (same : outcome Json.canonical x = outcome Json.canonical y)

include same

theorem outcome_any :
    outcome Json.canonical (do return (← x).canonical) =
      outcome Json.canonical (do return (← y).canonical) := by
  refine outcome_bind _ _ _ _ _ _ same fun v w content => ?_
  rw [outcome_pure, outcome_pure, content]

theorem outcome_choice (name : String) (accepts : Json → Bool)
    (tests : ∀ v, accepts v.canonical = accepts v) :
    outcome Json.canonical (do
        let v ← x
        if accepts v then return v else throw (.noVariant name)) =
      outcome Json.canonical (do
        let v ← y
        if accepts v then return v else throw (.noVariant name)) := by
  refine outcome_bind _ _ _ _ _ _ same fun v w content => ?_
  rw [← tests v, content, tests w]
  split
  · exact congrArg some content
  · rfl

end Value

/-! ### Texts -/

variable (tested : grammar.ContentOnly)

include tested

theorem AlikeFor.items (xs ys : List Source) (ending : ListEnd)
    (parts : List.Forall₂ (AlikeFor grammar) xs ys) :
    AlikeFor grammar (.arr xs ending) (.arr ys ending) := by
  have alike := Alike.items xs ys ending (parts.imp fun _ _ both => both.toAlike)
  refine ⟨alike, fun shape tests room => ?_⟩
  have value := alike.value room
  cases shape with
  | any => exact outcome_any value
  | choice name accepts => exact outcome_choice value name accepts tests
  | oneOrMany name item =>
    simp only [Shape.read]
    refine outcome_bind _ _ _ _ _ _ value fun _ _ _ => ?_
    refine outcome_elim _ _ _ (outcome_readItems grammar (.record item) trivial Source.depthLimit
      xs ys parts) (fun _ _ => rfl) fun vs ws same => ?_
    rw [outcome_pure, outcome_pure, Json.canonical_arr, same, Json.canonical_arr]
  | list item =>
    simp only [Shape.read]
    split
    · rfl
    · refine outcome_bind _ _ _ _ _ _ (outcome_readItems grammar item tests _ xs ys parts) ?_
      intro vs ws same
      split
      · rfl
      · rw [outcome_pure, outcome_pure, Json.canonical_arr, same, Json.canonical_arr]
  | record name =>
    simp only [Shape.read]
    split
    · rfl
    · split
      · rfl
      · refine outcome_bind _ _ _ _ _ _ (outcome_readTuple grammar _ _ 0 _ (tested name) xs ys
          parts ending) fun vs ws same => ?_
        rw [outcome_pure, outcome_pure, Json.canonical, same, Json.canonical]
  | text | flag | whole | word => rfl

theorem AlikeFor.members (ms renewed ns : List Member) (ending : ObjectEnd)
    (unique : (Source.keys ms).Nodup)
    (parts : List.Forall₂ (Matching (AlikeFor grammar)) ms renewed)
    (order : renewed.Perm ns) : AlikeFor grammar (.obj ms ending) (.obj ns ending) := by
  have values : List.Forall₂ (Matching Alike) ms renewed := parts.imp fun _ _ matching => by
    obtain ⟨key, s, s', both⟩ := matching
    exact ⟨key, s, s', both.toAlike⟩
  have alike := Alike.members ms renewed ns ending unique values order
  have read (name : ρ) (room : Nat) :=
    outcome_readMembers grammar (grammar name) (tested name) room ms renewed ns unique parts order
      ending
  refine ⟨alike, fun shape tests room => ?_⟩
  have value := alike.value room
  cases shape with
  | any => exact outcome_any value
  | choice name accepts => exact outcome_choice value name accepts tests
  | oneOrMany name item =>
    simp only [Shape.read]
    refine outcome_bind _ _ _ _ _ _ value fun _ _ _ => ?_
    refine outcome_elim _ _ _ (read item Source.depthLimit) (fun _ _ => rfl) fun vs ws same => ?_
    rw [outcome_pure, outcome_pure, Json.canonical_obj, same, Json.canonical_obj]
  | record name =>
    simp only [Shape.read]
    split
    · rfl
    · refine outcome_bind _ _ _ _ _ _ (read name (room - 1)) fun vs ws same => ?_
      rw [outcome_pure, outcome_pure, Json.canonical_obj, same, Json.canonical_obj]
  | word known meaning =>
    simp only [Shape.read]
    split
    · rfl
    · refine outcome_congr _ _ _ fun v => ?_
      simp only [readWordObject_eq_ok_iff, null_member_iff ms renewed ns values order]
  | text | flag | whole | list => rfl

/-- A shuffled text without repeated keys is read alike. -/
theorem alikeFor_of_shuffled (s s' : Source) (h : Shuffled s s') (unique : s.uniqueKeys = true) :
    AlikeFor grammar s s' :=
  h.induction_on s s' unique (fun s => ⟨Alike.refl s, fun _ _ _ => rfl⟩)
    (AlikeFor.items grammar tested) (AlikeFor.members grammar tested)

/-- A shuffled text without repeated keys has the same content by a shape. -/
theorem outcome_ofSource (shape : Shape ρ) (tests : shape.ContentOnly) (s s' : Source × Bool)
    (h : Shuffled s.1 s'.1) (unique : s.1.uniqueKeys = true) (more : s.2 = s'.2) :
    outcome Json.canonical (shape.ofSource grammar s) =
      outcome Json.canonical (shape.ofSource grammar s') := by
  have read := (alikeFor_of_shuffled grammar tested s.1 s'.1 h unique).read shape tests
    Source.depthLimit
  refine outcome_bind _ _ _ _ _ _ read fun v w same => ?_
  rw [more]
  split
  · rfl
  · exact congrArg some same

end Shape

end TsWorkshop
