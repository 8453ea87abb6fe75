/-
This file asks whether a volume that is published was ever filled since its creation. That a volume
is new is known only to the publish that created it, so what decides is how far that publish came: a
creation that fails halfway, or a listing that fails after it, leaves a volume behind that the next
publish takes for an old one.
-/

import NodeAgent.Proofs.Seeding
import NodeAgent.Proofs.Store

namespace NodeAgent

open Operation

/-! ### Calls -/

namespace Progress

/-- The volume was present and not mounted at the target. -/
def Presents : Progress → Prop
  | presented _ _ => True
  | refused | absent | alreadyMounted _ => False

/-- The publish came as far as the final mount. -/
def Reaches : Progress → Prop
  | presented _ filling => ¬filling.Breaks
  | refused | absent | alreadyMounted _ => False

theorem Settles.reaches {progress : Progress} (settles : progress.Settles) : progress.Reaches := by
  cases progress with
  | presented presence filling => exact fun breaks => filling.not_settles_of_breaks breaks settles
  | refused | absent | alreadyMounted _ => exact settles

theorem Reaches.presents {progress : Progress} (reaches : progress.Reaches) :
    progress.Presents := by
  cases progress with
  | presented presence filling => trivial
  | refused | absent | alreadyMounted _ => exact reaches

theorem Breaks.presents {progress : Progress} (breaks : progress.Breaks) : progress.Presents := by
  cases progress with
  | presented presence filling => trivial
  | refused | absent | alreadyMounted _ => exact breaks

theorem Reaches.not_breaks {progress : Progress} (reaches : progress.Reaches) :
    ¬progress.Breaks := by
  cases progress with
  | presented presence filling => exact reaches
  | refused | absent | alreadyMounted _ => exact id

theorem Presents.breaks_of_not_reaches {progress : Progress} (presents : progress.Presents)
    (stops : ¬progress.Reaches) : progress.Breaks := by
  cases progress with
  | presented presence filling => exact Classical.not_not.1 stops
  | refused | absent | alreadyMounted _ => exact absurd presents id

end Progress

namespace Completed

variable {volume : String} {call : Completed}

/-- The call published the volume, found it present and did not find it mounted at the target. -/
def Presents (volume : String) (call : Completed) : Prop := call.Took volume Progress.Presents

/-- The call published the volume and came as far as the final mount. -/
def Reaches (volume : String) (call : Completed) : Prop := call.Took volume Progress.Reaches

theorem Reaches.not_breaks (reaches : call.Reaches volume) : ¬call.Breaks volume := by
  cases call with
  | publish => exact fun breaks => reaches.2.not_breaks breaks.2
  | unpublish => exact id

theorem Presents.breaks_of_not_reaches (presents : call.Presents volume)
    (stops : ¬call.Reaches volume) : call.Breaks volume := by
  cases call with
  | publish _ _ _ _ _ progress _ =>
    obtain ⟨same, presents⟩ := presents
    exact ⟨same, presents.breaks_of_not_reaches fun reaches => stops ⟨same, reaches⟩⟩
  | unpublish => exact presents

end Completed

/-! ### Steps -/

theorem Agent.Fills.tried_iff {settings : Settings} {now : Instant} {volume : String} {due : Bool}
    {before last : Roster} {exchanges : List (Exchange backends)} {how : Filling}
    (fills : Agent.Fills settings now volume before due exchanges how last) :
    how.Settles ∨ how.Breaks ↔ due = true := by
  cases fills with
  | unfilled => exact iff_of_false (not_or.2 ⟨id, id⟩) nofun
  | nothingFound | restored => exact iff_of_true (Or.inl trivial) rfl
  | broken => exact iff_of_true (Or.inr trivial) rfl

/-- A call that finds its volume present and not mounted tries to fill it exactly when it asked for
the creation, every publish restores, or a failed restore is outstanding. -/
theorem Step.tried_iff {settings : Settings} {history : List Completed} {agent after : Agent}
    {call : Completed} {volume : String} (run : Run settings history agent)
    (step : Step settings agent call after) (presents : call.Presents volume) :
    call.Settles volume ∨ call.Breaks volume ↔
      AsksCreation volume call.exchanges ∨ settings.policy = .always ∨
        Outstanding volume history := by
  cases step with
  | unpublish course => exact absurd presents id
  | @publish now name target capacity exchanges progress outcome _ course =>
    obtain ⟨rfl, presents⟩ := presents
    cases progress with
    | refused | absent | alreadyMounted _ => exact absurd presents id
    | presented presence how =>
      obtain ⟨presenting, filling, mounting, roster, last, _, present, fills, mounts⟩ :=
        course.parts_of_presented
      have created : AsksCreation name exchanges ↔ Created name exchanges :=
        ⟨fun asks => course.created_iff.1 (course.created_of_asksCreation asks),
          Created.asksCreation⟩
      show (name = name ∧ how.Settles) ∨ (name = name ∧ how.Breaks) ↔
        AsksCreation name exchanges ∨ _
      rw [and_iff_right rfl, and_iff_right rfl, fills.tried_iff, fills_iff_due run course, created]
      rfl

/-- A call that fills its volume or finds nothing to fill it from has asked every destination. -/
theorem Step.asks_of_settles {settings : Settings} {agent after : Agent} {call : Completed}
    {volume : String} (step : Step settings agent call after) (settles : call.Settles volume) :
    ∃ now, ∀ destination ∈ settings.destinations,
      RepositoryCall.findNearest destination volume now ∈ queriesOf call.exchanges := by
  cases step with
  | unpublish course => exact absurd settles id
  | @publish now name target capacity exchanges progress outcome _ course =>
    obtain ⟨rfl, settles⟩ := settles
    cases progress with
    | refused | absent | alreadyMounted _ => exact absurd settles id
    | presented presence how =>
      have fillsHere : agent.fills settings name presence = true := by
        obtain ⟨_, _, _, _, _, _, _, fills, _⟩ := course.parts_of_presented
        exact fills.tried_iff.1 (Or.inl settles)
      refine ⟨now, fun destination member => ?_⟩
      show _ ∈ queriesOf exchanges
      rw [course.queriesOf_eq, if_pos fillsHere]
      exact List.mem_map.2 ⟨destination, member, rfl⟩

/-! ### Since the last creation -/

/-- The first element with a property. -/
theorem exists_first {Element : Type} {property : Element → Prop} {list : List Element}
    (some : ∃ element ∈ list, property element) :
    ∃ front element rest, list = front ++ element :: rest ∧ property element ∧
      ∀ other ∈ front, ¬property other := by
  classical
  have found : (list.find? fun element => decide (property element)).isSome = true :=
    List.find?_isSome.2 (some.imp fun _ has => ⟨has.1, decide_eq_true has.2⟩)
  obtain ⟨element, first⟩ := Option.isSome_iff_exists.1 found
  obtain ⟨holds, front, rest, split, none⟩ := List.find?_eq_some_iff_append.1 first
  refine ⟨front, element, rest, split, of_decide_eq_true holds, fun other member has => ?_⟩
  have lacks := none other member
  rw [decide_eq_true has] at lacks
  cases lacks

/-- The last element with a property. -/
theorem exists_last {Element : Type} {property : Element → Prop} {list : List Element}
    (some : ∃ element ∈ list, property element) :
    ∃ front element rest, list = front ++ element :: rest ∧ property element ∧
      ∀ other ∈ rest, ¬property other := by
  have reversed : ∃ element ∈ list.reverse, property element := by
    obtain ⟨element, member, has⟩ := some
    exact ⟨element, List.mem_reverse.2 member, has⟩
  obtain ⟨front, found, rest, split, holds, none⟩ := exists_first reversed
  refine ⟨rest.reverse, found, front.reverse, ?_, holds, fun other member => ?_⟩
  · rw [← List.reverse_reverse list, split, List.reverse_append, List.reverse_cons,
      List.append_assoc]
    rfl
  · exact none other (List.mem_reverse.1 member)

/-- A stretch of a run that begins with the last call that asked for the creation of a volume. -/
structure Since (settings : Settings) (volume : String) (before : List Completed)
    (creation : Completed) (later : List Completed) : Prop where
  run : ∃ agent, Run settings (before ++ creation :: later) agent
  creates : AsksCreation volume creation.exchanges
  last : ∀ call ∈ later, ¬AsksCreation volume call.exchanges

/-- What makes the calls since a creation fill the volume: the creating call came past making it
present, every publish restores, or a failed restore was outstanding already. -/
def Wanted (settings : Settings) (volume : String) (before : List Completed)
    (creation : Completed) : Prop :=
  creation.Presents volume ∨ settings.policy = .always ∨ Outstanding volume before

namespace Since

variable {settings : Settings} {volume : String} {before later : List Completed}
  {creation : Completed}

/-- The run up to a call of the stretch, and that call. -/
theorem step_at (since : Since settings volume before creation later) {front rest : List Completed}
    {call : Completed} (split : creation :: later = front ++ call :: rest) :
    ∃ agent after, Run settings (before ++ front) agent ∧ Step settings agent call after := by
  obtain ⟨agent, run⟩ := since.run
  have cut : before ++ creation :: later = (before ++ front ++ [call]) ++ rest := by
    rw [split, List.append_assoc, List.append_assoc]
    rfl
  rw [cut] at run
  obtain ⟨after, run⟩ := run.of_append
  obtain ⟨middle, earlier, step⟩ := run.of_append_singleton
  exact ⟨middle, after, earlier, step⟩

/-- A call of the stretch that tries to fill the volume does so for one of the three reasons, or
because of a restore that failed before it. -/
theorem wanted_or_outstanding (since : Since settings volume before creation later)
    {front rest : List Completed} {call : Completed}
    (split : creation :: later = front ++ call :: rest)
    (tried : call.Settles volume ∨ call.Breaks volume) :
    Wanted settings volume before creation ∨ Outstanding volume (before ++ front) := by
  obtain ⟨agent, after, run, step⟩ := since.step_at split
  have presents : call.Presents volume := by
    rcases tried with settles | breaks
    · exact settles.imp fun _ settles => settles.reaches.presents
    · exact breaks.imp fun _ breaks => breaks.presents
  rcases (step.tried_iff run presents).1 tried with asks | always | outstanding
  · cases front with
    | nil =>
      cases split
      exact Or.inl (Or.inl presents)
    | cons first front =>
      cases split
      exact absurd asks (since.last call (List.mem_append_right _ List.mem_cons_self))
  · exact Or.inl (Or.inr (Or.inl always))
  · exact Or.inr outstanding

theorem wanted_of_outstanding (since : Since settings volume before creation later)
    {front rest : List Completed} (split : creation :: later = front ++ rest)
    (outstanding : Outstanding volume (before ++ front)) :
    Wanted settings volume before creation := by
  induction front using List.reverseRecOn generalizing rest with
  | nil =>
    rw [List.append_nil] at outstanding
    exact Or.inr (Or.inr outstanding)
  | append_singleton front call inductionHypothesis =>
    rw [List.append_assoc] at split
    rw [← List.append_assoc, outstanding_append_singleton] at outstanding
    rcases outstanding with breaks | ⟨earlier, _⟩
    · rcases since.wanted_or_outstanding split (Or.inr breaks) with wanted | earlier
      · exact wanted
      · exact inductionHypothesis split earlier
    · exact inductionHypothesis split earlier

/-- Since its creation a volume was filled exactly when filling was wanted and some publish came as
far as the final mount. -/
theorem settled_iff (since : Since settings volume before creation later) :
    (∃ call ∈ creation :: later, call.Settles volume) ↔
      Wanted settings volume before creation ∧
        ∃ call ∈ creation :: later, call.Reaches volume := by
  constructor
  · rintro ⟨call, member, settles⟩
    obtain ⟨front, rest, split⟩ := List.append_of_mem member
    refine ⟨?_, call, member, settles.imp fun _ settles => settles.reaches⟩
    rcases since.wanted_or_outstanding split (Or.inl settles) with wanted | outstanding
    · exact wanted
    · exact since.wanted_of_outstanding split outstanding
  · rintro ⟨wanted, reaching⟩
    obtain ⟨front, call, rest, split, reaches, none⟩ := exists_first reaching
    obtain ⟨agent, after, run, step⟩ := since.step_at split
    have unsettled : ∀ other ∈ front, ¬other.Settles volume := fun other member settles =>
      none other member (settles.imp fun _ settles => settles.reaches)
    -- The first call that reaches the final mount has a reason to fill the volume.
    have reason : AsksCreation volume call.exchanges ∨ settings.policy = .always ∨
        Outstanding volume (before ++ front) := by
      rcases wanted with presents | always | outstanding
      · cases front with
        | nil =>
          cases split
          exact Or.inl since.creates
        | cons first front =>
          cases split
          have breaks := presents.breaks_of_not_reaches (none creation List.mem_cons_self)
          refine Or.inr (Or.inr ⟨before, creation, front, rfl, breaks, fun other member => ?_⟩)
          exact unsettled other (List.mem_cons_of_mem _ member)
      · exact Or.inr (Or.inl always)
      · exact Or.inr (Or.inr (outstanding.append unsettled))
    have presents : call.Presents volume := reaches.imp fun _ reaches => reaches.presents
    refine ⟨call, ?_, ((step.tried_iff run presents).2 reason).resolve_right reaches.not_breaks⟩
    rw [split]
    exact List.mem_append_right _ List.mem_cons_self

end Since

/-! ### Runs that begin without the volume -/

/-- The exchange is a listing that shows the volume. -/
def Shows (volume : String) (exchange : Exchange backends) : Prop :=
  ∃ (pool : ThinPool) (volumes : List Volume),
    exchange = .ofVolume (.list pool) (.ok volumes) ∧ ∃ shown ∈ volumes, shown.name = volume

/-- The volume was not there at first: no listing shows it before its creation was asked for. -/
def AbsentAtFirst (volume : String) (exchanges : List (Exchange backends)) : Prop :=
  ∀ before listing after, exchanges = before ++ listing :: after → Shows volume listing →
    AsksCreation volume before

theorem shows_of_get?_rosterOf {pool : ThinPool} {volumes : List Volume} {volume : Volume}
    {name : String} (there : (Pool.rosterOf volumes).get? name = some volume) :
    Shows name (.ofVolume (.list pool) (.ok volumes)) := by
  obtain ⟨shown, member, same⟩ := List.mem_map.1 (Table.mem_of_get?_ofList there)
  exact ⟨pool, volumes, rfl, shown, member, congrArg Prod.fst same⟩

/-- A volume that is present was created in this call or shown by the first listing of it. -/
theorem Pool.Presents.asks_or_shows {pool : ThinPool} {name : String} {least : Size}
    {before after : Roster} {exchanges : List (Exchange backends)} {presence : Presence}
    (presents : Presents pool name least before exchanges (.ok presence) after) :
    AsksCreation name exchanges ∨
      ∃ listing rest, exchanges = listing :: rest ∧ Shows name listing := by
  cases presents with
  | created volumes notThere required =>
    exact Or.inl ⟨_, List.mem_cons_of_mem _ List.mem_cons_self, rfl⟩
  | extended volumes existing there | unchanged volumes existing there =>
    exact Or.inr ⟨_, _, rfl, shows_of_get?_rosterOf there⟩

/-- Before a volume is published its creation was asked for or a listing showed it. -/
theorem Step.asks_or_shows {settings : Settings} {agent after : Agent} {call : Completed}
    {volume : String} (step : Step settings agent call after) (succeeds : call.Succeeds volume) :
    AsksCreation volume call.exchanges ∨
      ∃ listing rest, call.exchanges = listing :: rest ∧ Shows volume listing := by
  cases step with
  | unpublish course => exact absurd succeeds id
  | @publish now name target capacity exchanges progress outcome _ course =>
    obtain ⟨rfl, well⟩ := succeeds
    show AsksCreation name exchanges ∨ ∃ listing rest, exchanges = listing :: rest ∧ _
    cases course with
    | refused | absent | broken | unmounted => cases well
    | alreadyMounted valid present there => exact (Pool.presents_of_converses present).asks_or_shows
    | @mounted presenting _ _ filling _ _ _ mounting _ _ valid present notThere filled settled
        mounted =>
      rcases (Pool.presents_of_converses present).asks_or_shows with
        asks | ⟨listing, rest, rfl, shows⟩
      · exact Or.inl (asksCreation_append.2 (Or.inl (asksCreation_append.2 (Or.inl asks))))
      · exact Or.inr ⟨listing, rest ++ filling ++ mounting, rfl, shows⟩

theorem absentAtFirst_nil (volume : String) : AbsentAtFirst volume [] := by
  intro before listing after split
  exact absurd split.symm (List.append_ne_nil_of_right_ne_nil _ (List.cons_ne_nil _ _))

theorem absentAtFirst_singleton {volume : String} {exchange : Exchange backends}
    (hidden : ¬Shows volume exchange) : AbsentAtFirst volume [exchange] := by
  intro before listing after split shows
  cases before with
  | nil =>
    cases split
    exact absurd shows hidden
  | cons head before =>
    have rest := (List.cons.inj split).2
    exact absurd rest.symm (List.append_ne_nil_of_right_ne_nil _ (List.cons_ne_nil _ _))

theorem AbsentAtFirst.append {volume : String} {first second : List (Exchange backends)}
    (begun : AbsentAtFirst volume first)
    (goesOn : AsksCreation volume first ∨ AbsentAtFirst volume second) :
    AbsentAtFirst volume (first ++ second) := by
  intro before listing after split shows
  have late : ∀ middle, second = middle ++ listing :: after →
      AsksCreation volume (first ++ middle) := fun middle split =>
    asksCreation_append.2 (goesOn.imp_right fun absent => absent _ _ _ split shows)
  rcases List.append_eq_append_iff.1 split with ⟨middle, rfl, rest⟩ | ⟨middle, whole, rest⟩
  · exact late middle rest
  · cases middle with
    | nil =>
      have again := late [] rest.symm
      rwa [whole, List.append_nil, List.append_nil] at again
    | cons head middle =>
      cases rest
      exact begun _ _ _ whole shows

theorem asksCreation_exchangesOf {volume : String} {history : List Completed}
    (asks : AsksCreation volume (exchangesOf history)) :
    ∃ call ∈ history, AsksCreation volume call.exchanges := by
  obtain ⟨exchange, member, creation⟩ := asks
  obtain ⟨call, inside, member⟩ := List.mem_flatMap.1 member
  exact ⟨call, inside, exchange, member, creation⟩

/-! ### Sessions that begin without the volume -/

namespace Memory

variable {settings : Settings} {start world last : Backends} {history : List Completed}
  {agent : Agent} {volume : String}

/-- A listing does not show what is not stored. -/
theorem Answered.not_shows {exchange : Exchange backends}
    (answered : Answered world [exchange] last) (missing : world.stored volume = none) :
    ¬Shows volume exchange := by
  rintro ⟨pool, volumes, rfl, shown, member, named⟩
  obtain ⟨_, performed⟩ := answered.perform_of_ok rfl
  cases (Prod.mk.inj performed).1
  obtain ⟨entry, inside, rfl⟩ := List.mem_map.1 member
  exact Table.find_eq_none_iff.1 missing entry inside named

theorem Answered.absentAtFirst {exchanges : List (Exchange backends)}
    (answered : Answered world exchanges last) (missing : world.stored volume = none) :
    AbsentAtFirst volume exchanges ∧
      (AsksCreation volume exchanges ∨ last.stored volume = none) := by
  induction answered with
  | nil world =>
    exact ⟨absentAtFirst_nil volume, Or.inr missing⟩
  | @cons world last rest call answered inductionHypothesis =>
    have alone : AbsentAtFirst volume [⟨call, (Backends.answer call world).1⟩] :=
      absentAtFirst_singleton ((Answered.cons call (.nil _)).not_shows missing)
    by_cases creation : call.IsCreationOf volume
    · have asks : ∀ more, AsksCreation volume (⟨call, (Backends.answer call world).1⟩ :: more) :=
        fun more => asksCreation_cons.2 (Or.inl creation)
      exact ⟨alone.append (Or.inl (asks [])), Or.inl (asks rest)⟩
    · obtain ⟨absent, ended⟩ :=
        inductionHypothesis (Backends.stored_answer_eq_none missing creation)
      refine ⟨alone.append (Or.inr absent), ended.imp_left fun asks => ?_⟩
      exact asksCreation_cons.2 (Or.inr asks)

/-- In a session that begins without a volume, the volume is not there at first. -/
theorem Session.absentAtFirst (session : Session settings start history agent world)
    (missing : start.stored volume = none) :
    AbsentAtFirst volume (exchangesOf history) ∧
      (AsksCreation volume (exchangesOf history) ∨ world.stored volume = none) := by
  induction session with
  | fresh roster => exact ⟨absentAtFirst_nil volume, Or.inr missing⟩
  | @step history agent world call after last session step answered inductionHypothesis =>
    obtain ⟨absent, ended⟩ := inductionHypothesis
    have whole : exchangesOf (history ++ [call]) = exchangesOf history ++ call.exchanges := by
      unfold exchangesOf
      rw [List.flatMap_append, List.flatMap_singleton]
    rw [whole, asksCreation_append]
    rcases ended with asks | missing
    · exact ⟨absent.append (Or.inl asks), Or.inl (Or.inl asks)⟩
    · obtain ⟨further, ended⟩ := answered.absentAtFirst missing
      exact ⟨absent.append (Or.inr further), ended.imp_left Or.inr⟩
  | failing session ops repositoryOps inductionHypothesis => exact inductionHypothesis

end Memory

/-- When a volume that was not there at first is published, there is a last call that asked for its
creation, and since that call the volume was filled, or nothing was found to fill it from, exactly
when two things hold. First, that call came past making the volume present, or every publish
restores, or a failed restore of the volume was outstanding already. Second, some publish of the
volume since then came as far as the final mount. -/
theorem settled_since_creation_iff {settings : Settings} {history : List Completed}
    {last : Completed} {agent : Agent} {volume : String}
    (run : Run settings (history ++ [last]) agent)
    (absent : AbsentAtFirst volume (exchangesOf (history ++ [last])))
    (succeeds : last.Succeeds volume) :
    ∃ before creation later, history ++ [last] = before ++ creation :: later ∧
      AsksCreation volume creation.exchanges ∧
      (∀ call ∈ later, ¬AsksCreation volume call.exchanges) ∧
      ((∃ call ∈ creation :: later, call.Settles volume) ↔
        (creation.Presents volume ∨ settings.policy = .always ∨ Outstanding volume before) ∧
          ∃ call ∈ creation :: later, call.Reaches volume) := by
  have created : ∃ call ∈ history ++ [last], AsksCreation volume call.exchanges := by
    obtain ⟨earlier, _, step⟩ := run.of_append_singleton
    rcases step.asks_or_shows succeeds with asks | ⟨listing, rest, split, shows⟩
    · exact ⟨last, List.mem_append_right _ List.mem_cons_self, asks⟩
    · have whole : exchangesOf (history ++ [last]) = exchangesOf history ++ listing :: rest := by
        unfold exchangesOf
        rw [List.flatMap_append, List.flatMap_singleton, split]
      obtain ⟨call, member, asks⟩ := asksCreation_exchangesOf (absent _ _ _ whole shows)
      exact ⟨call, List.mem_append_left _ member, asks⟩
  obtain ⟨before, creation, later, split, creates, none⟩ := exists_last created
  refine ⟨before, creation, later, split, creates, none, ?_⟩
  rw [split] at run
  exact Since.settled_iff ⟨⟨agent, run⟩, creates, none⟩

/-- A publish that comes out well after one whose restore failed. -/
theorem settled_after_failed_restore :
    ∃ first last agent world,
      Memory.Session (Memory.smallSettings .onCreate) Memory.smallStart [first, last] agent world ∧
      Memory.accountOf first = (.publish Memory.smallNow "pg" ⟨"/mnt/a"⟩ none, false) ∧
      last.Succeeds "pg" ∧ AbsentAtFirst "pg" (exchangesOf [first, last]) ∧
      ∃ before creation later, [first, last] = before ++ creation :: later ∧
        AsksCreation "pg" creation.exchanges ∧
        (∀ call ∈ later, ¬AsksCreation "pg" call.exchanges) ∧
        ((∃ call ∈ creation :: later, call.Settles "pg") ↔
          (creation.Presents "pg" ∨ (Memory.smallSettings .onCreate).policy = .always ∨
              Outstanding "pg" before) ∧
            ∃ call ∈ creation :: later, call.Reaches "pg") := by
  obtain ⟨history, account, session⟩ := Memory.exists_session (Memory.smallSettings .onCreate)
    Memory.smallStart .empty
    [.failing [] [("repo-a", .mount)], .publish Memory.smallNow "pg" ⟨"/mnt/a"⟩ none,
      .failing [] [], .publish Memory.smallNow "pg" ⟨"/mnt/a"⟩ none]
  have outcomes : history.map Memory.accountOf =
      [(.publish Memory.smallNow "pg" ⟨"/mnt/a"⟩ none, false),
        (.publish Memory.smallNow "pg" ⟨"/mnt/a"⟩ none, true)] :=
    account.trans (by decide +kernel)
  obtain ⟨first, rest, rfl, failed, ended⟩ := List.map_eq_cons_iff.1 outcomes
  obtain ⟨last, rfl, told⟩ := List.map_eq_singleton_iff.1 ended
  have succeeds : last.Succeeds "pg" := by
    cases last with
    | unpublish => cases told
    | publish now volume target capacity exchanges progress outcome =>
      cases outcome with
      | error failure => cases told
      | ok published =>
        cases told
        exact ⟨rfl, rfl⟩
  have missing : Memory.smallStart.stored "pg" = none := by decide
  have absent : AbsentAtFirst "pg" (exchangesOf ([first] ++ [last])) :=
    (session.absentAtFirst missing).1
  exact ⟨first, last, _, _, session, failed, succeeds, absent,
    settled_since_creation_iff session.run absent succeeds⟩

/-- The listed form of a volume in the small setting. -/
def listedAt (target : Option Path) : Volume :=
  ⟨"pg", "vg0", "Vwi-a-tz--", ⟨1073741824⟩, target.isSome, target⟩

/-- The exchanges of a publish that creates its volume and cannot list the volumes after that. -/
def interrupted : List (Exchange backends) :=
  [.ofVolume (.list ⟨"vg0", "thinpool"⟩) (.ok []),
    .ofVolume (.create ⟨"vg0", "thinpool"⟩ "pg" ⟨1073741824⟩) (.ok ()),
    .ofVolume (.list ⟨"vg0", "thinpool"⟩) (.error (.backend "lvs" (some 5) "busy"))]

/-- The exchanges of the next publish. -/
def resumed : List (Exchange backends) :=
  [.ofVolume (.list ⟨"vg0", "thinpool"⟩) (.ok [listedAt none]),
    .ofVolume (.list ⟨"vg0", "thinpool"⟩) (.ok [listedAt none]),
    .ofVolume (.queryMount ⟨"/dev/vg0/pg"⟩) (.ok none),
    .ofVolume (.mount ⟨"/dev/vg0/pg"⟩ ⟨"/mnt/a"⟩) (.ok ()),
    .ofVolume (.list ⟨"vg0", "thinpool"⟩) (.ok [listedAt (some ⟨"/mnt/a"⟩)])]

theorem absentAtFirst_interrupted : AbsentAtFirst "pg" (interrupted ++ resumed) := by
  have listing : ¬Shows "pg" (.ofVolume (.list ⟨"vg0", "thinpool"⟩) (.ok [])) := by
    rintro ⟨pool, volumes, same, shown, member, _⟩
    cases same
    cases member
  have creating : ¬Shows "pg"
      (.ofVolume (.create ⟨"vg0", "thinpool"⟩ "pg" ⟨1073741824⟩) (.ok ())) := by
    rintro ⟨pool, volumes, same, _⟩
    cases same
  have asks : ∀ rest, AsksCreation "pg"
      (.ofVolume (.create ⟨"vg0", "thinpool"⟩ "pg" ⟨1073741824⟩) (.ok ()) :: rest) :=
    fun rest => asksCreation_cons.2 (Or.inl rfl)
  exact (absentAtFirst_singleton listing).append
    (Or.inr ((absentAtFirst_singleton creating).append (Or.inl (asks []))))

/-- A volume whose creation could not be seen through is taken for an old one by the next publish,
and published though no publish ever filled it or looked for a snapshot of it. -/
theorem published_unsettled :
    ∃ history agent, Run (Memory.smallSettings .onCreate) history agent ∧
      history.map Memory.accountOf =
        [(.publish Memory.smallNow "pg" ⟨"/mnt/a"⟩ none, false),
          (.publish Memory.smallNow "pg" ⟨"/mnt/a"⟩ none, true)] ∧
      AbsentAtFirst "pg" (exchangesOf history) ∧
      ∀ call ∈ history, ¬call.Settles "pg" := by
  have followed : (((Memory.smallPublish .onCreate).run (.fresh .empty)).follow interrupted).bind
      (fun first => (((Memory.smallPublish .onCreate).run first.2).follow resumed).map
        fun second => (first.1.isOk, second.1.isOk)) = some (false, true) := by decide +kernel
  obtain ⟨⟨failed, middle⟩, first, rest⟩ := Option.bind_eq_some_iff.1 followed
  obtain ⟨⟨published, last⟩, second, outcomes⟩ := Option.map_eq_some_iff.1 rest
  obtain ⟨fails, well⟩ := Prod.mk.inj outcomes
  obtain ⟨begun, run⟩ := (Run.fresh .empty).publish_of_follow first
  obtain ⟨ended, run⟩ := run.publish_of_follow second
  refine ⟨_, last, run, ?_, absentAtFirst_interrupted, fun call member settles => ?_⟩
  · show [(_, failed.isOk), (_, published.isOk)] = _
    rw [fails, well]
  · obtain ⟨_, _, step⟩ := run.step_of_mem member
    obtain ⟨now, asks⟩ := step.asks_of_settles settles
    have silent : queriesOf call.exchanges = [] := by
      rcases List.mem_cons.1 member with rfl | member
      · rfl
      · rw [List.mem_singleton.1 member]
        rfl
    have asked := asks ⟨"repo-a", .empty⟩ List.mem_cons_self
    rw [silent] at asked
    cases asked

end NodeAgent
