/-
This file says what a refresh of the pool does when the tools answer it. The host is asked for the
report of the volumes, and then for each row of it where the device of that row is mounted. The
first command that fails ends the refresh, and the roster stays as it was. Where none fails, the
roster has the last row of every name, mounted where its own query found it.
-/

import NodeAgent.Proofs.Sighting
import NodeAgent.Proofs.Trimming

namespace NodeAgent

open Operation

/-- Reading something else off a text is reading it and then changing it. -/
theorem Json.decodeGlyphs_map {Value Other : Type} (change : Value → Other)
    (decoder : Json.Decoder Value) (glyphs : List Text.Glyph) :
    Json.decodeGlyphs (decoder.map change) glyphs =
      (Json.decodeGlyphs decoder glyphs).map change := by
  unfold Json.decodeGlyphs Json.Decoder.map
  dsimp only
  cases decoder ⟨.text, 0⟩ (Json.document glyphs).root with
  | error fault => rfl
  | ok value =>
    show (if _ then _ else _ : Except Json.Fault Other) = _
    cases (Json.document glyphs).surplus <;> rfl

/-! ### Records in order -/

namespace Pool

variable {pool : ThinPool} {before after : Roster} {exchanges : List (Exchange backends)}
  {listed records : List Volume}

theorem name_of_mem_entries {name : String} {volume : Volume}
    (member : (name, volume) ∈ (rosterOf listed).entries) : volume.name = name := by
  obtain ⟨_, _, _, named, _⟩ := get?_rosterOf_iff.1 (Table.get?_eq_some_iff.2 member)
  exact named

theorem pairwise_values_rosterOf (listed : List Volume) :
    (rosterOf listed).values.Pairwise fun first second => first.name < second.name := by
  refine List.pairwise_map.2 ((rosterOf listed).sorted.imp_of_mem fun inside among less => ?_)
  rw [name_of_mem_entries inside, name_of_mem_entries among]
  exact less

theorem mem_values_rosterOf {volume : Volume} :
    volume ∈ (rosterOf listed).values ↔ (rosterOf listed).get? volume.name = some volume := by
  rw [Table.mem_values_iff]
  constructor
  · rintro ⟨key, there⟩
    rwa [name_of_mem_entries (Table.get?_eq_some_iff.1 there)]
  · exact fun there => ⟨_, there⟩

/-- The volumes of a roster are the only list of them in the order of their names. -/
theorem eq_values_rosterOf_iff :
    records = (rosterOf listed).values ↔
      (records.Pairwise fun first second => first.name < second.name) ∧
        ∀ volume, volume ∈ records ↔ (rosterOf listed).get? volume.name = some volume := by
  constructor
  · rintro rfl
    exact ⟨pairwise_values_rosterOf listed, fun _ => mem_values_rosterOf⟩
  · rintro ⟨order, same⟩
    have distinct {volumes : List Volume}
        (order : volumes.Pairwise fun first second => first.name < second.name) :
        volumes.Nodup := by
      refine List.Pairwise.imp (fun less => ?_) order
      rintro rfl
      exact String.lt_irrefl _ less
    have rearranged : records.Perm (rosterOf listed).values :=
      (List.perm_ext_iff_of_nodup (distinct order) (distinct (pairwise_values_rosterOf listed))).2
        fun volume => (same volume).trans mem_values_rosterOf.symm
    exact rearranged.eq_of_pairwise
      (fun _ _ _ _ less greater => absurd greater (String.lt_asymm less))
      order (pairwise_values_rosterOf listed)

theorem converses_list_error_iff {failure : Failure} :
    Converses (list pool) before exchanges (.error failure) after ↔
      Converses (refresh pool) before exchanges (.error failure) after := by
  refine converses_bind_iff.trans ⟨?_, fun refreshed => .inr ⟨failure, rfl, refreshed⟩⟩
  rintro (⟨_, _, _, _, rfl, _, shown⟩ | ⟨_, same, refreshed⟩)
  · rw [converses_get_bind_iff] at shown
    obtain ⟨_, impossible, _⟩ := converses_pure_iff.1 shown
    cases impossible
  · cases same
    exact refreshed

theorem converses_list_ok_iff :
    Converses (list pool) before exchanges (.ok records) after ↔
      Converses (refresh pool) before exchanges (.ok ()) after ∧ records = after.values := by
  refine converses_bind_iff.trans ⟨?_, ?_⟩
  · rintro (⟨_, _, _, _, rfl, refreshed, shown⟩ | ⟨_, same, _⟩)
    · rw [converses_get_bind_iff] at shown
      obtain ⟨rfl, same, rfl⟩ := converses_pure_iff.1 shown
      cases same
      rw [List.append_nil]
      exact ⟨refreshed, rfl⟩
    · cases same
  · rintro ⟨refreshed, rfl⟩
    exact .inl ⟨exchanges, [], (), after, (List.append_nil _).symm, refreshed,
      converses_get_bind_iff.2 (converses_pure_iff.2 ⟨rfl, rfl, rfl⟩)⟩

end Pool

namespace Tools

open HostTask Volumes

/-! ### How commands end -/

/-- How a command can fail that has to end with one of some statuses. -/
inductive Breaks (invocation : Invocation) (limit : Nat) (expected : List Int) :
    Outcome → Failure → Prop where
  | unstarted (fault : SystemFault) :
      Breaks invocation limit expected (.unstarted fault)
        (.backend invocation.text none s!"failed to spawn {invocation.program}: {fault}")
  | overdue : Breaks invocation limit expected .overdue (.timeout invocation.text (limit / 1000))
  | refused {output : Output} (bad : ∀ status ∈ expected, output.status ≠ some status) :
      Breaks invocation limit expected (.ended output)
        (.backend invocation.text output.status output.combined)

/-- What a mount query finds that ends this way: the first line that is not blank, if there is one.
Status 1 says that the device is not mounted. -/
inductive Sees : Outcome → Option Path → Prop where
  | mounted {output : Output} {line : String} (well : output.status = some 0)
      (first : Text.FirstLine (Text.lossy output.stdout).toList line.toList) :
      Sees (.ended output) (some ⟨line⟩)
  | silent {output : Output} (well : output.status = some 0)
      (blank : ∀ c ∈ (Text.lossy output.stdout).toList, Text.isBlank c = true) :
      Sees (.ended output) none
  | unmounted {output : Output} (nothing : output.status = some 1) : Sees (.ended output) none

/-- Reads the sections of a report of volumes, each with its rows. -/
def sectionsDecoder : Json.Decoder (List (List Volume)) :=
  let sectionDecoder : Json.Decoder (List Volume) :=
    (Json.Decoder.record "LvsSection"
      (.more (.withDefault "lv" Volume.decoder.list []) .none)).map Prod.fst
  (Json.Decoder.record "LvsReport"
    (.more (.required "report" sectionDecoder.list) .none)).map Prod.fst

/-- What a report shows that ends this way: the rows of its first section. -/
inductive Shows : Outcome → List Volume → Prop where
  | report {output : Output} {sections : List (List Volume)} {rows : List Volume}
      (well : output.status = some 0)
      (read : Json.decodeGlyphs sectionsDecoder (Text.glyphs output.stdout) = .ok sections)
      (first : sections.head?.getD [] = rows) : Shows (.ended output) rows

variable {limit : Nat} {pool : ThinPool} {device : Path} {invocation : Invocation}
  {outcome : Outcome} {output : Output} {found : Option Path} {failure : Failure}
  {rows volumes : List Volume} {heard : List (Exchange NodeAgent.host)}
  {ended : Except Failure (List Volume)}

theorem checked_ok_iff :
    outcome.output invocation limit >>= Output.checked invocation = .ok output ↔
      outcome = .ended output ∧ output.status = some 0 := by
  constructor
  · intro well
    cases outcome with
    | unstarted fault => cases well
    | overdue => cases well
    | ended given =>
      change given.checked invocation = .ok output at well
      unfold Output.checked at well
      split at well
      · next succeeded =>
        cases well
        exact ⟨rfl, of_decide_eq_true succeeded⟩
      · cases well
  · rintro ⟨rfl, well⟩
    exact if_pos (decide_eq_true well)

theorem checked_error_iff :
    outcome.output invocation limit >>= Output.checked invocation = .error failure ↔
      Breaks invocation limit [0] outcome failure := by
  constructor
  · intro broken
    cases outcome with
    | unstarted fault =>
      cases broken
      exact .unstarted fault
    | overdue =>
      cases broken
      exact .overdue
    | ended output =>
      change output.checked invocation = .error failure at broken
      unfold Output.checked at broken
      split at broken
      · cases broken
      · next bad =>
        cases broken
        exact .refused (List.forall_mem_singleton.2 fun well => bad (decide_eq_true well))
  · intro breaks
    cases breaks with
    | unstarted fault => rfl
    | overdue => rfl
    | refused bad =>
      exact if_neg fun succeeded => bad 0 List.mem_cons_self (of_decide_eq_true succeeded)

theorem foundBy_of_sees (limit : Nat) (device : Path) (sees : Sees outcome found) :
    foundBy limit device outcome = .ok found := by
  cases sees with
  | @mounted output line well first =>
    show queryResult device output = .ok (some ⟨line⟩)
    unfold queryResult
    rw [well, Text.firstLine_eq_some_iff.2 first]
    rfl
  | @silent output well blank =>
    show queryResult device output = .ok none
    unfold queryResult
    rw [well, Text.firstLine_eq_none_iff.2 blank]
    rfl
  | @unmounted output nothing =>
    show queryResult device output = .ok none
    unfold queryResult
    rw [nothing]
    rfl

theorem foundBy_of_breaks (breaks : Breaks (mountQuery device) limit [0, 1] outcome failure) :
    foundBy limit device outcome = .error failure := by
  cases breaks with
  | unstarted fault => rfl
  | overdue => rfl
  | @refused output bad =>
    obtain ⟨ill, others⟩ := List.forall_mem_cons.1 bad
    have unexpected := List.forall_mem_singleton.1 others
    show queryResult device output = _
    unfold queryResult
    split
    · next well => exact absurd well ill
    · next nothing => exact absurd nothing unexpected
    · rfl

/-- A mount query finds something or fails. -/
theorem sees_or_breaks (limit : Nat) (device : Path) (outcome : Outcome) :
    (∃ found, Sees outcome found) ∨
      ∃ failure, Breaks (mountQuery device) limit [0, 1] outcome failure := by
  cases outcome with
  | unstarted fault => exact .inr ⟨_, .unstarted fault⟩
  | overdue => exact .inr ⟨_, .overdue⟩
  | ended output =>
    by_cases well : output.status = some 0
    · cases first : Text.firstLine (Text.lossy output.stdout) with
      | none => exact .inl ⟨_, .silent well (Text.firstLine_eq_none_iff.1 first)⟩
      | some line => exact .inl ⟨_, .mounted well (Text.firstLine_eq_some_iff.1 first)⟩
    · by_cases nothing : output.status = some 1
      · exact .inl ⟨_, .unmounted nothing⟩
      · exact .inr ⟨_, .refused (List.forall_mem_cons.2 ⟨well,
          List.forall_mem_singleton.2 nothing⟩)⟩

theorem foundBy_ok_iff : foundBy limit device outcome = .ok found ↔ Sees outcome found := by
  refine ⟨fun answered => ?_, foundBy_of_sees limit device⟩
  rcases sees_or_breaks limit device outcome with ⟨other, sees⟩ | ⟨failure, breaks⟩
  · cases (foundBy_of_sees limit device sees).symm.trans answered
    exact sees
  · cases (foundBy_of_breaks breaks).symm.trans answered

theorem foundBy_error_iff :
    foundBy limit device outcome = .error failure ↔
      Breaks (mountQuery device) limit [0, 1] outcome failure := by
  refine ⟨fun broken => ?_, foundBy_of_breaks⟩
  rcases sees_or_breaks limit device outcome with ⟨found, sees⟩ | ⟨other, breaks⟩
  · cases (foundBy_of_sees limit device sees).symm.trans broken
  · cases (foundBy_of_breaks breaks).symm.trans broken
    exact breaks

/-! ### The course of a listing -/

/-- A row of the report, how the mount query for its device ended, and what it found. -/
structure Sight where
  row : Volume
  outcome : Outcome
  found : Option Path
  sees : Sees outcome found

namespace Sight

/-- The mount query for the device of the row. -/
def exchange (limit : Nat) (sight : Sight) : Exchange NodeAgent.host :=
  Exchange.ofQuery limit sight.row.device sight.outcome

/-- The volume of the row, mounted where the query found it, whatever the row itself says. -/
def volume (sight : Sight) : Volume where
  name := sight.row.name
  group := sight.row.group
  attributes := sight.row.attributes
  size := sight.row.size
  mounted := sight.found.isSome
  target := sight.found

end Sight

/-- The report of the volumes of a pool, and how it went. -/
def Exchange.ofListing (limit : Nat) (pool : ThinPool) (outcome : Outcome) :
    Exchange NodeAgent.host :=
  ⟨.run (listing pool) limit, outcome⟩

/-- How a listing of volumes can succeed: every row of the report is queried, in order. -/
inductive Completes (limit : Nat) (pool : ThinPool) :
    List (Exchange NodeAgent.host) → List Sight → Prop where
  | intro {outcome : Outcome} (sights : List Sight) (shows : Shows outcome (sights.map Sight.row)) :
      Completes limit pool
        (Exchange.ofListing limit pool outcome :: sights.map (Sight.exchange limit)) sights

/-- How a listing of volumes can fail: the report fails, or it cannot be read, or the query for one
of its rows fails after the queries for all rows before it. Nothing is asked after that. -/
inductive Fails (limit : Nat) (pool : ThinPool) :
    List (Exchange NodeAgent.host) → Failure → Prop where
  | unlisted {outcome : Outcome} {failure : Failure}
      (breaks : Breaks (listing pool) limit [0] outcome failure) :
      Fails limit pool [Exchange.ofListing limit pool outcome] failure
  | unread {output : Output} {fault : Json.Fault} (well : output.status = some 0)
      (faulty : Json.decodeGlyphs sectionsDecoder (Text.glyphs output.stdout) = .error fault) :
      Fails limit pool [Exchange.ofListing limit pool (.ended output)] (.serialization fault)
  | unseen {outcome ending : Outcome} {failure : Failure} {row : Volume} {rest : List Volume}
      (sights : List Sight) (shows : Shows outcome (sights.map Sight.row ++ row :: rest))
      (breaks : Breaks (mountQuery row.device) limit [0, 1] ending failure) :
      Fails limit pool (Exchange.ofListing limit pool outcome ::
        (sights.map (Sight.exchange limit) ++ [Exchange.ofQuery limit row.device ending])) failure

/-- How the queries for some rows can go. -/
inductive Looked (limit : Nat) :
    List Volume → List (Exchange NodeAgent.host) → Except Failure (List Volume) → Prop where
  | all (sights : List Sight) :
      Looked limit (sights.map Sight.row) (sights.map (Sight.exchange limit))
        (.ok (sights.map Sight.volume))
  | upTo {row : Volume} {rest : List Volume} {ending : Outcome} {failure : Failure}
      (sights : List Sight) (breaks : Breaks (mountQuery row.device) limit [0, 1] ending failure) :
      Looked limit (sights.map Sight.row ++ row :: rest)
        (sights.map (Sight.exchange limit) ++ [Exchange.ofQuery limit row.device ending])
        (.error failure)

theorem looked_of_held (held : Dialogue.Held (ExceptT.run (queryMounts limit rows)) heard ended) :
    Looked limit rows heard ended := by
  induction rows generalizing heard ended with
  | nil =>
    cases held
    exact .all []
  | cons row rest inductionHypothesis =>
    rcases HostTask.held_bind_iff.1 held with
      ⟨_, _, found, rfl, query, further⟩ | ⟨failure, rfl, query⟩
    · obtain ⟨outcome, rfl, answered⟩ := held_queryMount_iff.1 query
      let sight : Sight := ⟨row, outcome, found, foundBy_ok_iff.1 answered.symm⟩
      obtain ⟨_, _, result, rfl, looking, done⟩ := Dialogue.held_bind_iff.1 further
      cases inductionHypothesis looking with
      | all sights =>
        cases done
        rw [List.append_nil]
        exact .all (sight :: sights)
      | upTo sights breaks =>
        cases done
        rw [List.append_nil]
        exact .upTo (sight :: sights) breaks
    · obtain ⟨outcome, rfl, answered⟩ := held_queryMount_iff.1 query
      exact .upTo [] (foundBy_error_iff.1 answered.symm)

theorem held_queryMounts_cons (sight : Sight)
    (held : Dialogue.Held (ExceptT.run (queryMounts limit rows)) heard ended) :
    Dialogue.Held (ExceptT.run (queryMounts limit (sight.row :: rows)))
      (sight.exchange limit :: heard) (ended.map (sight.volume :: ·)) := by
  have query : Dialogue.Held (ExceptT.run (queryMount limit sight.row.device))
      [sight.exchange limit] (.ok sight.found) :=
    held_queryMount_iff.2 ⟨sight.outcome, rfl, (foundBy_ok_iff.2 sight.sees).symm⟩
  refine HostTask.held_bind_iff.2 (.inl ⟨_, heard, _, rfl, query, ?_⟩)
  refine Dialogue.held_bind_iff.2 ⟨heard, [], ended, (List.append_nil _).symm, held, ?_⟩
  cases ended with
  | ok volumes => exact .done _
  | error failure => exact .done _

theorem Looked.held (looked : Looked limit rows heard ended) :
    Dialogue.Held (ExceptT.run (queryMounts limit rows)) heard ended := by
  cases looked with
  | all sights =>
    induction sights with
    | nil => exact .done _
    | cons sight _ inductionHypothesis => exact held_queryMounts_cons sight inductionHypothesis
  | @upTo row rest ending failure sights breaks =>
    induction sights with
    | nil =>
      exact HostTask.held_bind_iff.2 (.inr ⟨failure, rfl,
        held_queryMount_iff.2 ⟨ending, rfl, (foundBy_error_iff.2 breaks).symm⟩⟩)
    | cons sight _ inductionHypothesis => exact held_queryMounts_cons sight inductionHypothesis

theorem listingDecoder_eq :
    listingDecoder = sectionsDecoder.map fun sections => sections.head?.getD [] := by
  unfold listingDecoder sectionsDecoder Json.Decoder.map
  funext place part
  dsimp only
  cases Json.Decoder.record _ _ place part with
  | error fault => rfl
  | ok record => rfl

/-- A report that ends well either shows its rows or cannot be read. -/
theorem decode_listing_cases (well : output.status = some 0) :
    (∃ fault, Json.decodeGlyphs listingDecoder (Text.glyphs output.stdout) = .error fault ∧
        Json.decodeGlyphs sectionsDecoder (Text.glyphs output.stdout) = .error fault) ∨
      ∃ rows, Json.decodeGlyphs listingDecoder (Text.glyphs output.stdout) = .ok rows ∧
        Shows (.ended output) rows := by
  rw [listingDecoder_eq, Json.decodeGlyphs_map]
  cases read : Json.decodeGlyphs sectionsDecoder (Text.glyphs output.stdout) with
  | error fault => exact .inl ⟨fault, rfl, rfl⟩
  | ok sections => exact .inr ⟨_, rfl, .report well read rfl⟩

/-- A listing of volumes fails or completes. -/
theorem list_cases (held : Dialogue.Held (ExceptT.run (Volumes.list limit pool)) heard ended) :
    (∃ failure, ended = .error failure ∧ Fails limit pool heard failure) ∨
      ∃ sights : List Sight, ended = .ok (sights.map Sight.volume) ∧
        Completes limit pool heard sights := by
  rcases HostTask.held_bind_iff.1 held with
    ⟨_, _, output, rfl, report, further⟩ | ⟨failure, rfl, report⟩
  · obtain ⟨_, rfl, checked⟩ := held_run_iff.1 report
    obtain ⟨rfl, well⟩ := checked_ok_iff.1 checked.symm
    obtain ⟨_, _, result, rfl, read, looking⟩ := Dialogue.held_bind_iff.1 further
    obtain ⟨rfl, rfl⟩ := held_done_iff.1 read
    rcases decode_listing_cases well with ⟨fault, faulty, unread⟩ | ⟨rows, read, shows⟩
    · rw [faulty] at looking
      cases looking
      exact .inl ⟨_, rfl, .unread well unread⟩
    · rw [read] at looking
      cases looked_of_held looking with
      | all sights => exact .inr ⟨sights, rfl, .intro sights shows⟩
      | upTo sights breaks => exact .inl ⟨_, rfl, .unseen sights shows breaks⟩
  · obtain ⟨_, rfl, checked⟩ := held_run_iff.1 report
    exact .inl ⟨failure, rfl, .unlisted (checked_error_iff.1 checked.symm)⟩

/-- After a report that ends well its rows are read and queried. -/
theorem held_list_of_report (well : output.status = some 0)
    (held : Dialogue.Held (ExceptT.run (fromResult ((Json.decodeGlyphs listingDecoder
      (Text.glyphs output.stdout)).mapError Failure.serialization) >>= queryMounts limit))
      heard ended) :
    Dialogue.Held (ExceptT.run (Volumes.list limit pool))
      (Exchange.ofListing limit pool (.ended output) :: heard) ended := by
  have report : Dialogue.Held (ExceptT.run (HostTask.run limit (listing pool)))
      [Exchange.ofListing limit pool (.ended output)] (.ok output) :=
    held_run_iff.2 ⟨.ended output, rfl, (checked_ok_iff.2 ⟨rfl, well⟩).symm⟩
  exact HostTask.held_bind_iff.2 (.inl ⟨_, heard, output, rfl, report, held⟩)

theorem held_list_of_shows (shows : Shows outcome rows)
    (held : Dialogue.Held (ExceptT.run (queryMounts limit rows)) heard ended) :
    Dialogue.Held (ExceptT.run (Volumes.list limit pool))
      (Exchange.ofListing limit pool outcome :: heard) ended := by
  cases shows with
  | @report output sections _ well read first =>
    have rowsRead : Json.decodeGlyphs listingDecoder (Text.glyphs output.stdout) = .ok rows := by
      rw [listingDecoder_eq, Json.decodeGlyphs_map, read]
      exact congrArg Except.ok first
    refine held_list_of_report well ?_
    rw [rowsRead]
    exact held

theorem held_list_error_iff :
    Dialogue.Held (ExceptT.run (Volumes.list limit pool)) heard (.error failure) ↔
      Fails limit pool heard failure := by
  constructor
  · intro held
    rcases list_cases held with ⟨_, same, fails⟩ | ⟨_, same, _⟩
    · cases same
      exact fails
    · cases same
  · intro fails
    cases fails with
    | @unlisted outcome _ breaks =>
      exact HostTask.held_bind_iff.2 (.inr ⟨failure, rfl,
        held_run_iff.2 ⟨outcome, rfl, (checked_error_iff.2 breaks).symm⟩⟩)
    | @unread output fault well faulty =>
      refine held_list_of_report well ?_
      rw [listingDecoder_eq, Json.decodeGlyphs_map, faulty]
      exact .done _
    | unseen sights shows breaks => exact held_list_of_shows shows (Looked.upTo sights breaks).held

theorem held_list_ok_iff :
    Dialogue.Held (ExceptT.run (Volumes.list limit pool)) heard (.ok volumes) ↔
      ∃ sights : List Sight, volumes = sights.map Sight.volume ∧
        Completes limit pool heard sights := by
  constructor
  · intro held
    rcases list_cases held with ⟨_, same, _⟩ | ⟨sights, same, completes⟩
    · cases same
    · cases same
      exact ⟨sights, rfl, completes⟩
  · rintro ⟨sights, rfl, @⟨outcome, _, shows⟩⟩
    exact held_list_of_shows shows (Looked.all sights).held

/-! ### Any ends of the commands -/

/-- The commands of a conversation end in these ways, one after another. -/
def GoesAs (limit : Nat) (results : Nat → Outcome) (heard : List (Exchange NodeAgent.host)) :
    Prop :=
  ∃ invocations : List Invocation, heard = invocations.mapIdx fun index invocation =>
    (⟨.run invocation limit, results index⟩ : Exchange NodeAgent.host)

theorem goesAs_nil (limit : Nat) (results : Nat → Outcome) : GoesAs limit results [] :=
  ⟨[], List.mapIdx_nil.symm⟩

theorem GoesAs.cons {results : Nat → Outcome} (invocation : Invocation)
    (goes : GoesAs limit (fun index => results (index + 1)) heard) :
    GoesAs limit results (⟨.run invocation limit, results 0⟩ :: heard) := by
  obtain ⟨invocations, rfl⟩ := goes
  exact ⟨invocation :: invocations, by rw [List.mapIdx_cons]⟩

theorem exists_looked (limit : Nat) (rows : List Volume) (results : Nat → Outcome) :
    ∃ heard ended, GoesAs limit results heard ∧ Looked limit rows heard ended := by
  induction rows generalizing results with
  | nil => exact ⟨[], _, goesAs_nil limit results, .all []⟩
  | cons row rest inductionHypothesis =>
    cases answered : foundBy limit row.device (results 0) with
    | error failure =>
      exact ⟨_, _, (goesAs_nil limit _).cons (mountQuery row.device),
        .upTo [] (foundBy_error_iff.1 answered)⟩
    | ok found =>
      let sight : Sight := ⟨row, results 0, found, foundBy_ok_iff.1 answered⟩
      obtain ⟨heard, ended, goes, looked⟩ := inductionHypothesis fun index => results (index + 1)
      cases looked with
      | all sights => exact ⟨_, _, goes.cons (mountQuery row.device), .all (sight :: sights)⟩
      | upTo sights breaks =>
        exact ⟨_, _, goes.cons (mountQuery row.device), .upTo (sight :: sights) breaks⟩

/-- However commands end, a listing completes or fails with them. -/
theorem completes_or_fails (limit : Nat) (pool : ThinPool) (results : Nat → Outcome) :
    ∃ heard, GoesAs limit results heard ∧
      ((∃ sights, Completes limit pool heard sights) ∨
        ∃ failure, Fails limit pool heard failure) := by
  have begins (later : List (Exchange NodeAgent.host))
      (goes : GoesAs limit (fun index => results (index + 1)) later) :
      GoesAs limit results (Exchange.ofListing limit pool (results 0) :: later) :=
    goes.cons (listing pool)
  generalize results 0 = outcome at begins
  cases report : outcome.output (listing pool) limit >>= Output.checked (listing pool) with
  | error failure =>
    exact ⟨_, begins [] (goesAs_nil limit _), .inr ⟨failure,
      .unlisted (checked_error_iff.1 report)⟩⟩
  | ok output =>
    obtain ⟨rfl, well⟩ := checked_ok_iff.1 report
    rcases decode_listing_cases well with ⟨fault, -, unread⟩ | ⟨rows, -, shows⟩
    · exact ⟨_, begins [] (goesAs_nil limit _), .inr ⟨_, .unread well unread⟩⟩
    · obtain ⟨heard, ended, goes, looked⟩ :=
        exists_looked limit rows fun index => results (index + 1)
      cases looked with
      | all sights => exact ⟨_, begins _ goes, .inl ⟨sights, .intro sights shows⟩⟩
      | upTo sights breaks => exact ⟨_, begins _ goes, .inr ⟨_, .unseen sights shows breaks⟩⟩

/-! ### The roster -/

/-- The roster has the last row of every name, and nothing else. -/
def Mirrors (roster : Roster) (sights : List Sight) : Prop :=
  ∀ name volume, roster.get? name = some volume ↔
    ∃ early sight late, sights = early ++ sight :: late ∧ sight.row.name = name ∧
      (∀ other ∈ late, other.row.name ≠ name) ∧ volume = sight.volume

theorem mirrors_rosterOf (sights : List Sight) :
    Mirrors (Pool.rosterOf (sights.map Sight.volume)) sights := by
  intro name volume
  rw [Pool.get?_rosterOf_iff]
  constructor
  · rintro ⟨early, late, split, named, others⟩
    obtain ⟨before, rest, rfl, rfl, following⟩ := List.map_eq_append_iff.1 split
    obtain ⟨sight, after, rfl, rfl, rfl⟩ := List.map_eq_cons_iff.1 following
    exact ⟨before, sight, after, rfl, named,
      fun other member => others other.volume (List.mem_map_of_mem member), rfl⟩
  · rintro ⟨early, sight, late, rfl, named, others, rfl⟩
    have different : ∀ volume ∈ late.map Sight.volume, volume.name ≠ name :=
      List.forall_mem_map.2 others
    refine ⟨early.map Sight.volume, late.map Sight.volume, ?_, named, different⟩
    rw [List.map_append, List.map_cons]

theorem mirrors_iff {roster : Roster} {sights : List Sight} :
    Mirrors roster sights ↔ roster = Pool.rosterOf (sights.map Sight.volume) := by
  constructor
  · intro mirrors
    exact Table.ext_get? fun name => Option.ext fun volume =>
      (mirrors name volume).trans (mirrors_rosterOf sights name volume).symm
  · rintro rfl
    exact mirrors_rosterOf sights

variable {toolbox : Toolbox} {servers last : Servers} {before after : Roster}

theorem held_refresh_error_iff :
    Dialogue.Held (toolbox.hold servers before (Pool.refresh pool)) heard
        ((.error failure, after), last) ↔
      Fails toolbox.volumeLimit pool heard failure ∧ after = before ∧ last = servers := by
  rw [Toolbox.held_hold_iff, ← held_list_error_iff]
  constructor
  · rintro ⟨exchanges, conversation, served⟩
    cases Pool.refreshes_of_converses conversation with
    | unlisted =>
      obtain ⟨held, rfl⟩ := Toolbox.served_volume_iff.1 served
      exact ⟨held, rfl, rfl⟩
  · rintro ⟨held, rfl, rfl⟩
    exact ⟨_, Pool.converses_refresh_iff.2 (.unlisted failure),
      Toolbox.served_volume_iff.2 ⟨held, rfl⟩⟩

theorem held_refresh_ok_iff :
    Dialogue.Held (toolbox.hold servers before (Pool.refresh pool)) heard
        ((.ok (), after), last) ↔
      ∃ sights, Completes toolbox.volumeLimit pool heard sights ∧ Mirrors after sights ∧
        last = servers := by
  rw [Toolbox.held_hold_iff]
  constructor
  · rintro ⟨exchanges, conversation, served⟩
    cases Pool.refreshes_of_converses conversation with
    | listed volumes =>
      obtain ⟨held, rfl⟩ := Toolbox.served_volume_iff.1 served
      obtain ⟨sights, rfl, completes⟩ := held_list_ok_iff.1 held
      exact ⟨sights, completes, mirrors_rosterOf sights, rfl⟩
  · rintro ⟨sights, completes, mirrors, rfl⟩
    obtain rfl := mirrors_iff.1 mirrors
    exact ⟨_, Pool.converses_refresh_iff.2 (.listed _),
      Toolbox.served_volume_iff.2 ⟨held_list_ok_iff.2 ⟨sights, rfl, completes⟩, rfl⟩⟩

theorem held_pool_list_error_iff :
    Dialogue.Held (toolbox.hold servers before (Pool.list pool)) heard
        ((.error failure, after), last) ↔
      Dialogue.Held (toolbox.hold servers before (Pool.refresh pool)) heard
        ((.error failure, after), last) := by
  rw [Toolbox.held_hold_iff, Toolbox.held_hold_iff]
  exact exists_congr fun _ => and_congr_left' Pool.converses_list_error_iff

theorem held_pool_list_ok_iff {records : List Volume} :
    Dialogue.Held (toolbox.hold servers before (Pool.list pool)) heard
        ((.ok records, after), last) ↔
      Dialogue.Held (toolbox.hold servers before (Pool.refresh pool)) heard
          ((.ok (), after), last) ∧
        (records.Pairwise fun first second => first.name < second.name) ∧
        ∀ volume, volume ∈ records ↔ after.get? volume.name = some volume := by
  have opened : Dialogue.Held (toolbox.hold servers before (Pool.list pool)) heard
        ((.ok records, after), last) ↔
      Dialogue.Held (toolbox.hold servers before (Pool.refresh pool)) heard
        ((.ok (), after), last) ∧ records = after.values := by
    rw [Toolbox.held_hold_iff, Toolbox.held_hold_iff, ← exists_and_right]
    refine exists_congr fun _ => ?_
    rw [Pool.converses_list_ok_iff, and_right_comm]
  rw [opened]
  refine and_congr_right fun refreshed => ?_
  obtain ⟨sights, _, mirrors, _⟩ := held_refresh_ok_iff.1 refreshed
  rw [mirrors_iff.1 mirrors]
  exact Pool.eq_values_rosterOf_iff

/-- However the commands of a refresh end, it is complete or leaves everything as it was. It fails
exactly where the report fails, cannot be read, or the query for a row fails after those for the
rows before it, and nothing is asked after that. Otherwise the roster has, for every name in the
first section of the report, the last row of that name, and has it mounted where the query for its
own device found it. A listing goes like a refresh and shows the roster in the order of the
names. -/
theorem refresh_complete_or_none (toolbox : Toolbox) (servers last : Servers) (pool : ThinPool)
    (before : Roster) :
    (∀ results, ∃ heard, GoesAs toolbox.volumeLimit results heard ∧
      ((∃ sights, Completes toolbox.volumeLimit pool heard sights) ∨
        ∃ failure, Fails toolbox.volumeLimit pool heard failure)) ∧
      (∀ heard failure after,
        Dialogue.Held (toolbox.hold servers before (Pool.refresh pool)) heard
            ((.error failure, after), last) ↔
          Fails toolbox.volumeLimit pool heard failure ∧ after = before ∧ last = servers) ∧
      (∀ heard after,
        Dialogue.Held (toolbox.hold servers before (Pool.refresh pool)) heard
            ((.ok (), after), last) ↔
          ∃ sights, Completes toolbox.volumeLimit pool heard sights ∧ Mirrors after sights ∧
            last = servers) ∧
      (∀ heard failure after,
        Dialogue.Held (toolbox.hold servers before (Pool.list pool)) heard
            ((.error failure, after), last) ↔
          Dialogue.Held (toolbox.hold servers before (Pool.refresh pool)) heard
            ((.error failure, after), last)) ∧
      ∀ heard records after,
        Dialogue.Held (toolbox.hold servers before (Pool.list pool)) heard
            ((.ok records, after), last) ↔
          Dialogue.Held (toolbox.hold servers before (Pool.refresh pool)) heard
              ((.ok (), after), last) ∧
            (records.Pairwise fun first second => first.name < second.name) ∧
            ∀ volume, volume ∈ records ↔ after.get? volume.name = some volume :=
  ⟨completes_or_fails toolbox.volumeLimit pool, fun _ _ _ => held_refresh_error_iff,
    fun _ _ => held_refresh_ok_iff, fun _ _ _ => held_pool_list_error_iff,
    fun _ _ _ => held_pool_list_ok_iff⟩

end Tools

namespace Memory

/-! ### A name that is listed twice -/

/-- A line of a script: the listing of three volumes, the last with the name of the first. What it
says of a mount is out of date. -/
def listsThree : ScriptLine :=
  writes ("\x7b\"report\": [\x7b\"lv\": [" ++
    "[\"pg\", \"vg0\", \"V\", \"1B\"], " ++
    "\x7b\"lv_name\": \"log\", \"vg_name\": \"vg0\", " ++
    "\"lv_size\": \"1B\", \"mounted\": true\x7d, " ++
    "[\"pg\", \"vg0\", \"V\", \"2B\"]]\x7d]\x7d")

/-- A roster from before. -/
def rosterBefore : Roster := Pool.rosterOf [⟨"old", "vg0", "V", ⟨1⟩, false, none⟩]

/-- The roster of the three volumes. -/
def rosterAfter : Roster :=
  Pool.rosterOf [⟨"log", "vg0", "", ⟨1⟩, false, none⟩,
    ⟨"pg", "vg0", "V", ⟨2⟩, true, some ⟨"/mnt/b"⟩⟩]

/-- What a host is asked to refresh the pool. -/
def refreshingThree : Dialogue host ((Except Failure Unit × Roster) × Tools.Servers) :=
  Tools.Toolbox.hold ⟨1000, ⟨"node-a", 1000⟩⟩ .empty rosterBefore (Pool.refresh ⟨"vg0", "pool"⟩)

/-- A refresh of three volumes, with the answers to the second and the third query. -/
def refreshingHost (second third : ScriptLine) : ScriptedHost :=
  .begin [listsThree, writes "/mnt/a\n", second, third] []

/-- The last row of a name counts, with its own query. Where the second query fails, the roster is
the one from before. -/
theorem refresh_of_three_complete_or_none :
    (∃ heard last sights, Dialogue.Held refreshingThree heard ((.ok (), rosterAfter), last) ∧
        Tools.Completes 1000 ⟨"vg0", "pool"⟩ heard sights ∧ Tools.Mirrors rosterAfter sights) ∧
      ∃ heard failure last,
        Dialogue.Held refreshingThree heard ((.error failure, rosterBefore), last) ∧
          Tools.Fails 1000 ⟨"vg0", "pool"⟩ heard failure := by
  have goes := Tools.refresh_complete_or_none ⟨1000, ⟨"node-a", 1000⟩⟩ .empty
  constructor
  · let world := refreshingHost findsNothing (writes "\n /mnt/b \n/mnt/c\n")
    obtain ⟨heard, held, _⟩ := world.held_and_started (fun _ => True) refreshingThree
    have well : (world.hold refreshingThree).1.1 = (.ok (), rosterAfter) := by decide +kernel
    generalize (world.hold refreshingThree).1 = all at held well
    obtain ⟨_, servers⟩ := all
    cases well
    obtain ⟨-, -, completed, -⟩ := goes servers ⟨"vg0", "pool"⟩ rosterBefore
    obtain ⟨sights, completes, mirrors, _⟩ := (completed heard rosterAfter).1 held
    exact ⟨heard, servers, sights, held, completes, mirrors⟩
  · let world := refreshingHost (.ends ⟨some 32, [], []⟩) findsNothing
    obtain ⟨heard, held, _⟩ := world.held_and_started (fun _ => True) refreshingThree
    have ill : (world.hold refreshingThree).1.1.1.isOk = false := by decide +kernel
    generalize (world.hold refreshingThree).1 = all at held ill
    obtain ⟨⟨outcome, after⟩, servers⟩ := all
    cases outcome with
    | ok => cases ill
    | error failure =>
      obtain ⟨-, failed, -⟩ := goes servers ⟨"vg0", "pool"⟩ rosterBefore
      obtain ⟨fails, rfl, _⟩ := (failed heard failure after).1 held
      exact ⟨heard, failure, servers, held, fails⟩

end Memory

end NodeAgent
