/-
This file says what the replacement of secrets does to a list of destinations. It is one exact
substitution: a value that begins with the mark becomes the secret of the name after it, whatever
that secret looks like, and nothing else changes. It fails only where a secret is needed that cannot
be had, and then it names one.
-/

import Mathlib.Data.List.Forall2
import NodeAgent.Configuration.Secret
import NodeAgent.Proofs.Concealment
import NodeAgent.Proofs.Templates

namespace NodeAgent.Secret

variable {secrets : Table String} {destinations resolved : List Destination}
  {destination : Destination} {key value kept name content : String} {text : Option String}
  {failure : Failure}

/-! ### Values that stand for secrets -/

/-- A value stands for the secret whose name is after the mark, also where that name is empty. -/
theorem name?_eq_some_iff : name? value = some name ↔ value = mark ++ name := by
  unfold name?
  rw [← String.toList_inj, String.toList_append]
  constructor
  · intro named
    split at named
    · next marked =>
      obtain ⟨rest, split⟩ := List.isPrefixOf_iff_prefix.1 marked
      cases named
      have dropped : (mark.toList ++ rest).drop mark.toList.length = rest := List.drop_left
      rw [← split, String.toList_ofList]
      exact congrArg (_ ++ ·) dropped.symm
    · cases named
  · intro whole
    have dropped : (mark.toList ++ name.toList).drop mark.toList.length = name.toList :=
      List.drop_left
    rw [whole, if_pos (List.isPrefixOf_iff_prefix.2 ⟨_, rfl⟩)]
    exact congrArg some ((congrArg String.ofList dropped).trans String.ofList_toList)

theorem name?_eq_none_iff : name? value = none ↔ ∀ name, value ≠ mark ++ name := by
  rw [Option.eq_none_iff_forall_ne_some]
  exact forall_congr' fun name => not_congr name?_eq_some_iff

/-- Some value of the destinations stands for the secret of a name. -/
def Refers (destinations : List Destination) (name : String) : Prop :=
  ∃ destination ∈ destinations, ∃ key, destination.environment.get? key = some (mark ++ name)

theorem areNeeded_iff : areNeeded destinations = true ↔ ∃ name, Refers destinations name := by
  unfold areNeeded Refers Table.values
  simp only [List.any_eq_true, List.mem_map, Option.isSome_iff_exists, name?_eq_some_iff]
  constructor
  · rintro ⟨destination, member, _, ⟨⟨key, value⟩, written, rfl⟩, name, same⟩
    obtain rfl : value = mark ++ name := same
    exact ⟨name, destination, member, key, Table.get?_eq_some_iff.2 written⟩
  · rintro ⟨name, destination, member, key, written⟩
    exact ⟨destination, member, _, ⟨_, Table.get?_eq_some_iff.1 written, rfl⟩, name, rfl⟩

/-! ### Replacing -/

/-- What becomes of a value: it is replaced where it stands for a secret, and not touched where it
does not. -/
structure Replaced (secrets : Table String) (value kept : String) : Prop where
  known : ∀ name, value = mark ++ name → secrets.get? name = some kept
  untouched : (∀ name, value ≠ mark ++ name) → kept = value

/-- What becomes of a destination: each value of its environment is replaced under its own key. -/
structure Substituted (secrets : Table String) (given resolved : Destination) : Prop where
  repository : resolved.repository = given.repository
  environment : Table.Rel (Replaced secrets) given.environment resolved.environment

theorem Replaced.eq_valueOf (replaced : Replaced secrets value kept) :
    kept = valueOf secrets value := by
  unfold valueOf
  split
  · next name named =>
    rw [replaced.known name (name?_eq_some_iff.1 named)]
    rfl
  · next plain => exact replaced.untouched (name?_eq_none_iff.1 plain)

theorem replaced_valueOf (known : ∀ name, value = mark ++ name → secrets.contains name = true) :
    Replaced secrets value (valueOf secrets value) := by
  constructor
  · intro name same
    obtain ⟨secret, found⟩ := Option.isSome_iff_exists.1 (known name same)
    unfold valueOf
    rw [name?_eq_some_iff.2 same]
    dsimp only
    rw [found]
    rfl
  · exact fun plain => valueOf_of_plain secrets (name?_eq_none_iff.2 plain)

/-- Replacing goes through exactly where every secret is known, and comes to one result. -/
theorem substituted_iff {given result : Destination} :
    Substituted secrets given result ↔ result = reveal secrets given ∧
      ∀ key name, given.environment.get? key = some (mark ++ name) →
        secrets.contains name = true := by
  constructor
  · rintro ⟨repository, environment⟩
    have each : List.Forall₂ (fun entry other : String × String =>
        (∀ name, entry.2 = mark ++ name → secrets.contains name = true) ∧
          (entry.1, valueOf secrets entry.2) = other)
        given.environment.entries result.environment.entries := by
      refine environment.imp fun entry other ⟨keys, replaced⟩ => ⟨fun name same => ?_, ?_⟩
      · exact Option.isSome_iff_exists.2 ⟨_, replaced.known name same⟩
      · rw [← replaced.eq_valueOf, keys]
    obtain ⟨known, entries⟩ := (List.forall₂_and_left _ _).1 each
    refine ⟨?_, fun key name there => known _ (Table.get?_eq_some_iff.1 there) name rfl⟩
    obtain ⟨otherRepository, ⟨others, sorted⟩⟩ := result
    obtain rfl : otherRepository = given.repository := repository
    obtain rfl : given.environment.entries.map _ = others :=
      List.forall₂_eq_eq_eq ▸ List.forall₂_map_left_iff.2 entries
    rfl
  · rintro ⟨rfl, known⟩
    refine ⟨rfl, ?_⟩
    refine List.forall₂_map_right_iff.2 (List.forall₂_same.2 fun entry member => ⟨rfl, ?_⟩)
    refine replaced_valueOf fun name same => known entry.1 name ?_
    rw [← same]
    exact Table.get?_eq_some_iff.2 member

/-- Replacing the secrets of all destinations keeps their number and their order. -/
theorem forall₂_substituted_iff :
    List.Forall₂ (Substituted secrets) destinations resolved ↔
      resolved = destinations.map (reveal secrets) ∧
        ∀ name, Refers destinations name → secrets.contains name = true := by
  have each : List.Forall₂ (Substituted secrets) destinations resolved ↔
      (∀ destination ∈ destinations, ∀ key name,
          destination.environment.get? key = some (mark ++ name) →
            secrets.contains name = true) ∧
        List.Forall₂ (fun given result => reveal secrets given = result)
          destinations resolved := by
    have turned (given result : Destination) : Substituted secrets given result ↔ _ :=
      substituted_iff.trans (and_comm.trans (and_congr_right' eq_comm))
    rw [← List.forall₂_and_left]
    exact ⟨List.Forall₂.imp fun given result => (turned given result).1,
      List.Forall₂.imp fun given result => (turned given result).2⟩
  have mapped : List.Forall₂ (fun given result => reveal secrets given = result)
      destinations resolved ↔ resolved = destinations.map (reveal secrets) := by
    rw [eq_comm, ← List.forall₂_eq_eq_eq, List.forall₂_map_left_iff]
  rw [each, mapped, and_comm]
  refine and_congr_right' ⟨?_, ?_⟩
  · rintro known name ⟨destination, member, key, there⟩
    exact known destination member key name there
  · intro known destination member key name there
    exact known name ⟨destination, member, key, there⟩

/-! ### Secrets that are not there -/

/-- A value of the destinations stands for a secret that is not there. -/
structure Lacks (secrets : Table String) (destinations : List Destination) (unknown : Unknown) :
    Prop where
  missing : secrets.get? unknown.name = none
  there : ∃ destination ∈ destinations, destination.repository = unknown.repository ∧
    destination.environment.get? unknown.key = some (mark ++ unknown.name)

theorem mem_unknowns_iff {unknown : Unknown} :
    unknown ∈ destinations.flatMap (unknownOf secrets) ↔ Lacks secrets destinations unknown := by
  rw [List.mem_flatMap]
  unfold unknownOf
  constructor
  · rintro ⟨destination, member, among⟩
    obtain ⟨⟨key, value⟩, written, found⟩ := List.mem_filterMap.1 among
    dsimp only at found
    split at found
    · next name named =>
      split at found
      · cases found
      · next missing =>
        cases found
        obtain rfl := name?_eq_some_iff.1 named
        exact ⟨Option.not_isSome_iff_eq_none.1 missing, destination, member, rfl,
          Table.get?_eq_some_iff.2 written⟩
    · cases found
  · obtain ⟨key, repository, name⟩ := unknown
    rintro ⟨missing, destination, member, rfl, there⟩
    refine ⟨destination, member, List.mem_filterMap.2
      ⟨_, Table.get?_eq_some_iff.1 there, ?_⟩⟩
    have unknown : ¬secrets.contains name = true := Option.not_isSome_iff_eq_none.2 missing
    dsimp only
    rw [name?_eq_some_iff.2 rfl]
    exact if_neg unknown

/-- No secret is lacking exactly where all that are needed are there. -/
theorem unknowns_eq_nil_iff :
    destinations.flatMap (unknownOf secrets) = [] ↔
      ∀ name, Refers destinations name → secrets.contains name = true := by
  rw [List.eq_nil_iff_forall_not_mem]
  constructor
  · rintro none name ⟨destination, member, key, there⟩
    by_contra missing
    exact none ⟨key, destination.repository, name⟩ (mem_unknowns_iff.2
      ⟨Option.not_isSome_iff_eq_none.1 missing, destination, member, rfl, there⟩)
  · intro known unknown member
    obtain ⟨missing, destination, member, -, there⟩ := mem_unknowns_iff.1 member
    have contained := known unknown.name ⟨destination, member, unknown.key, there⟩
    exact absurd contained (Option.not_isSome_iff_eq_none.2 missing)

theorem revealAll_eq_ok_iff :
    revealAll secrets destinations = .ok resolved ↔
      List.Forall₂ (Substituted secrets) destinations resolved := by
  rw [forall₂_substituted_iff, ← unknowns_eq_nil_iff]
  unfold revealAll
  cases destinations.flatMap (unknownOf secrets) with
  | nil => exact ⟨fun same => ⟨(Except.ok.inj same).symm, rfl⟩, fun both => both.1 ▸ rfl⟩
  | cons unknown rest => exact iff_of_false nofun fun both => nomatch both.2

theorem exists_of_revealAll_error (failed : revealAll secrets destinations = .error failure) :
    ∃ unknown, Lacks secrets destinations unknown ∧ failure = unknown.failure := by
  unfold revealAll at failed
  generalize among : destinations.flatMap (unknownOf secrets) = unknowns at failed
  cases unknowns with
  | nil => cases failed
  | cons unknown rest =>
    cases failed
    exact ⟨unknown, mem_unknowns_iff.1 (among ▸ List.mem_cons_self), rfl⟩

/-! ### The text with the secrets -/

/-- A text holds these secrets: it is a table of texts and nothing else, and each secret is under
its name. -/
def Holds (content : String) (secrets : Table String) : Prop :=
  ∃ entries, Toml.read content = some entries ∧
    (∀ entry ∈ entries, ∃ secret, entry.2 = .text secret) ∧
    ∀ name secret, secrets.get? name = some secret ↔ Toml.lookup name entries = some (.text secret)

/-- A table that holds texts only is read, and of a name that stands there twice the first
counts. -/
theorem exists_texts? {entries : List (String × Toml)}
    (plain : ∀ entry ∈ entries, ∃ secret, entry.2 = .text secret) :
    ∃ secrets, texts? entries = some secrets ∧ ∀ name secret,
      secrets.get? name = some secret ↔ Toml.lookup name entries = some (.text secret) := by
  induction entries with
  | nil => exact ⟨.empty, rfl, fun _ _ => iff_of_false nofun nofun⟩
  | cons entry rest inductionHypothesis =>
    obtain ⟨key, value⟩ := entry
    obtain ⟨⟨first, rfl⟩, others⟩ := List.forall_mem_cons.1 plain
    obtain ⟨secrets, read, held⟩ := inductionHypothesis others
    have written : texts? ((key, .text first) :: rest) = some (secrets.insert key first) :=
      congrArg (Option.map fun table : Table String => table.insert key first) read
    refine ⟨_, written, fun name secret => ?_⟩
    unfold Toml.lookup
    by_cases same : key = name
    · rw [if_pos same, same, Table.get?_insert_self, Option.some.injEq, Option.some.injEq,
        Toml.text.injEq]
    · rw [if_neg same, Table.get?_insert_other _ _ (Ne.symm same), held]

theorem plain_of_texts? {entries : List (String × Toml)} (read : texts? entries = some secrets) :
    ∀ entry ∈ entries, ∃ secret, entry.2 = .text secret := by
  induction entries generalizing secrets with
  | nil => exact fun _ member => nomatch member
  | cons entry rest inductionHypothesis =>
    match entry, read with
    | (key, .text value), read =>
      obtain ⟨others, read, -⟩ := Option.map_eq_some_iff.1 read
      exact List.forall_mem_cons.2 ⟨⟨value, rfl⟩, inductionHypothesis read⟩

theorem texts?_eq_some_iff {entries : List (String × Toml)} :
    texts? entries = some secrets ↔
      (∀ entry ∈ entries, ∃ secret, entry.2 = .text secret) ∧
      ∀ name secret,
        secrets.get? name = some secret ↔ Toml.lookup name entries = some (.text secret) := by
  constructor
  · intro read
    have plain := plain_of_texts? read
    obtain ⟨others, again, held⟩ := exists_texts? plain
    rw [read] at again
    cases again
    exact ⟨plain, held⟩
  · rintro ⟨plain, held⟩
    obtain ⟨others, read, alike⟩ := exists_texts? plain
    have same : others = secrets := Table.ext_get? fun name =>
      Option.ext fun secret => (alike name secret).trans (held name secret).symm
    rw [read, same]

theorem read?_eq_some_iff : read? content = some secrets ↔ Holds content secrets := by
  unfold read? Holds
  rw [Option.bind_eq_some_iff]
  exact exists_congr fun entries => and_congr_right' texts?_eq_some_iff

/-! ### The whole replacement -/

theorem resolve_of_unneeded (plain : ∀ name, ¬Refers destinations name) (text : Option String) :
    resolve text destinations = .ok destinations := by
  refine resolve_of_not_needed text (Bool.eq_false_iff.2 fun needed => ?_)
  obtain ⟨name, refers⟩ := areNeeded_iff.1 needed
  exact plain name refers

theorem resolve_of_needed (refers : Refers destinations name) :
    resolve text destinations =
      match text with
      | none => .error (.configuration "Failed to read secret file")
      | some content =>
        match read? content with
        | none => .error (.configuration "Invalid secret file")
        | some secrets => revealAll secrets destinations :=
  if_pos (areNeeded_iff.2 ⟨name, refers⟩)

/-- The destinations with their secrets: as they are where none is needed, and otherwise with those
of a text that holds all of them. -/
theorem resolve_eq_ok_iff :
    resolve text destinations = .ok resolved ↔
      (∀ name, ¬Refers destinations name) ∧ resolved = destinations ∨
      (∃ name, Refers destinations name) ∧ ∃ content secrets, text = some content ∧
        Holds content secrets ∧ List.Forall₂ (Substituted secrets) destinations resolved := by
  by_cases needed : ∃ name, Refers destinations name
  · obtain ⟨name, refers⟩ := needed
    have unsettled : ¬((∀ name, ¬Refers destinations name) ∧ resolved = destinations) :=
      fun both => both.1 name refers
    rw [or_iff_right unsettled, and_iff_right ⟨name, refers⟩, resolve_of_needed refers]
    cases text with
    | none => exact iff_of_false nofun fun ⟨_, _, absent, _⟩ => nomatch absent
    | some content =>
      dsimp only
      cases read : read? content with
      | none =>
        refine iff_of_false nofun fun ⟨_, secrets, same, holds, _⟩ => ?_
        cases same
        cases read.symm.trans (read?_eq_some_iff.2 holds)
      | some secrets =>
        refine revealAll_eq_ok_iff.trans ⟨fun each => ?_, fun ⟨_, others, same, holds, each⟩ => ?_⟩
        · exact ⟨content, secrets, rfl, read?_eq_some_iff.1 read, each⟩
        · cases same
          cases read.symm.trans (read?_eq_some_iff.2 holds)
          exact each
  · have plain := not_exists.1 needed
    rw [resolve_of_unneeded plain, Except.ok.injEq, eq_comm]
    exact ⟨fun same => .inl ⟨plain, same⟩, fun either => either.elim And.right
      fun both => absurd both.1 needed⟩

/-- Why a replacement fails. -/
inductive Fails (text : Option String) (destinations : List Destination) : Failure → Prop where
  | unreadable {name : String} (refers : Refers destinations name) (missing : text = none) :
      Fails text destinations (.configuration "Failed to read secret file")
  | invalid {name content : String} (refers : Refers destinations name)
      (there : text = some content) (none : ∀ secrets, ¬Holds content secrets) :
      Fails text destinations (.configuration "Invalid secret file")
  | unknown {content : String} {secrets : Table String} {unknown : Unknown}
      (there : text = some content) (holds : Holds content secrets)
      (lacks : Lacks secrets destinations unknown) :
      Fails text destinations (.configuration
        s!"{unknown.key} of {unknown.repository} references unknown secret {unknown.name}")

theorem fails_of_resolve_error (failed : resolve text destinations = .error failure) :
    Fails text destinations failure := by
  by_cases needed : ∃ name, Refers destinations name
  · obtain ⟨name, refers⟩ := needed
    rw [resolve_of_needed refers] at failed
    cases text with
    | none =>
      cases failed
      exact .unreadable refers rfl
    | some content =>
      dsimp only at failed
      cases read : read? content with
      | none =>
        rw [read] at failed
        cases failed
        refine .invalid refers rfl fun secrets holds => ?_
        cases read.symm.trans (read?_eq_some_iff.2 holds)
      | some secrets =>
        rw [read] at failed
        obtain ⟨unknown, lacks, rfl⟩ := exists_of_revealAll_error failed
        exact .unknown rfl (read?_eq_some_iff.1 read) lacks
  · rw [resolve_of_unneeded (not_exists.1 needed)] at failed
    cases failed

/-- Where no value stands for a secret, any secrets replace nothing. -/
theorem forall₂_substituted_of_plain (plain : ∀ name, ¬Refers destinations name)
    (secrets : Table String) : List.Forall₂ (Substituted secrets) destinations destinations := by
  refine List.forall₂_same.2 fun destination member => ⟨rfl, ?_⟩
  refine List.forall₂_same.2 fun entry written => ⟨rfl, fun name same => ?_, fun _ => rfl⟩
  have there := Table.get?_eq_some_iff.2 written
  rw [same] at there
  exact absurd ⟨destination, member, entry.1, there⟩ (plain name)

theorem Holds.eq {first second : Table String} (holds : Holds content first)
    (again : Holds content second) : first = second :=
  Option.some.inj ((read?_eq_some_iff.2 holds).symm.trans (read?_eq_some_iff.2 again))

theorem Substituted.keys {given result : Destination}
    (substituted : Substituted secrets given result) :
    result.environment.keys = given.environment.keys :=
  (Table.rel_true_iff.1 (substituted.environment.mono fun _ _ _ => trivial)).symm

/-- The replacement of secrets goes through exactly where no value stands for a secret, or a text
holds all secrets that values stand for. It keeps the repositories, the order and the names in the
environments. Each value that stands for a secret becomes that secret, even if the secret looks like
a value that stands for another, and every other value stays. Where no value stands for a secret the
text does not count, and where a secret is lacking the failure names one that is. -/
theorem secrets_substituted_once (text : Option String) (destinations : List Destination) :
    ((∃ resolved, resolve text destinations = .ok resolved) ↔
      (∀ name, ¬Refers destinations name) ∨
        ∃ content secrets, text = some content ∧ Holds content secrets ∧
          ∀ name, Refers destinations name → secrets.contains name = true) ∧
    (∀ resolved, resolve text destinations = .ok resolved →
      List.Forall₂ (fun given result => result.repository = given.repository ∧
          result.environment.keys = given.environment.keys) destinations resolved ∧
        ∀ content secrets, text = some content → Holds content secrets →
          List.Forall₂ (Substituted secrets) destinations resolved) ∧
    ((∀ name, ¬Refers destinations name) → resolve text destinations = .ok destinations) ∧
    ∀ failure, resolve text destinations = .error failure → Fails text destinations failure := by
  refine ⟨⟨?_, ?_⟩, fun resolved done => ⟨?_, ?_⟩, fun plain => resolve_of_unneeded plain text,
    fun _ => fails_of_resolve_error⟩
  · rintro ⟨resolved, done⟩
    rcases resolve_eq_ok_iff.1 done with ⟨plain, -⟩ | ⟨-, content, secrets, same, holds, each⟩
    · exact .inl plain
    · exact .inr ⟨content, secrets, same, holds, (forall₂_substituted_iff.1 each).2⟩
  · rintro (plain | ⟨content, secrets, same, holds, known⟩)
    · exact ⟨destinations, resolve_of_unneeded plain text⟩
    · by_cases needed : ∃ name, Refers destinations name
      · exact ⟨_, resolve_eq_ok_iff.2 (.inr ⟨needed, content, secrets, same, holds,
          forall₂_substituted_iff.2 ⟨rfl, known⟩⟩)⟩
      · exact ⟨destinations, resolve_of_unneeded (not_exists.1 needed) text⟩
  · rcases resolve_eq_ok_iff.1 done with ⟨-, rfl⟩ | ⟨-, _, _, _, _, each⟩
    · exact List.forall₂_same.2 fun _ _ => ⟨rfl, rfl⟩
    · exact each.imp fun _ _ substituted => ⟨substituted.repository, substituted.keys⟩
  · rintro content secrets same holds
    rcases resolve_eq_ok_iff.1 done with ⟨plain, rfl⟩ | ⟨-, _, others, again, held, each⟩
    · exact forall₂_substituted_of_plain plain secrets
    · cases same.symm.trans again
      exact holds.eq held ▸ each

/-! ### A secret that looks like another reference -/

/-- A text with two secrets: one begins with the mark, and the other has an empty name. -/
def chainedText : String := "a = \"secret:b\"\n\"\" = \"plain\"\n"

/-- Destinations that need both, and one that needs nothing. -/
def chained : List Destination :=
  [⟨"r", .ofList [("A", "secret:a"), ("B", "secret:"), ("C", "as it is")]⟩, ⟨"s", .empty⟩]

/-- The destinations with these secrets. -/
def chainedRevealed : List Destination :=
  [⟨"r", .ofList [("A", "secret:b"), ("B", "plain"), ("C", "as it is")]⟩, ⟨"s", .empty⟩]

/-- The secret is not replaced again, and without it the failure names it. -/
theorem chained_substituted_once :
    resolve (some chainedText) chained = .ok chainedRevealed ∧
      (∃ secrets, Holds chainedText secrets ∧
        List.Forall₂ (Substituted secrets) chained chainedRevealed) ∧
      Fails (some "") chained (.configuration "A of r references unknown secret a") := by
  have done : resolve (some chainedText) chained = .ok chainedRevealed := by decide +kernel
  obtain ⟨secrets, read⟩ : ∃ secrets, read? chainedText = some secrets :=
    Option.isSome_iff_exists.1 (by decide +kernel)
  have holds := read?_eq_some_iff.1 read
  have failed : resolve (some "") chained =
      .error (.configuration "A of r references unknown secret a") := by decide +kernel
  obtain ⟨-, replaced, -, -⟩ := secrets_substituted_once (some chainedText) chained
  obtain ⟨-, -, -, fails⟩ := secrets_substituted_once (some "") chained
  exact ⟨done, ⟨secrets, holds, (replaced _ done).2 _ secrets rfl holds⟩, fails _ failed⟩

end NodeAgent.Secret
