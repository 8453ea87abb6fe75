/-
This file says which conversations an operation of the agent can have. An operation is a dialogue
that carries a state and may fail, so a conversation of it begins in a state, goes through
exchanges, and ends with an outcome and another state. Each way of building operations has one
lemma here that takes its conversations apart. Proofs about an operation follow its text with
these lemmas and never open the monads that it is made of.
-/

import NodeAgent.Backend

namespace NodeAgent

namespace Exchange

/-- A question to the volume tools with its answer. -/
def ofVolume (call : VolumeCall) (answer : Except Failure call.Result) : Exchange backends :=
  ⟨.volume call, answer⟩

/-- A question to the repositories with its answer. -/
def ofRepository (call : RepositoryCall) (answer : call.Answer) : Exchange backends :=
  ⟨.repository call, answer⟩

end Exchange

namespace Dialogue

variable {ports : Interface} {Result : Type} [DecidableEq ports.Question]

/-- Holds a dialogue with recorded exchanges. It has a result where its questions are the recorded
ones and it ends with them. -/
def follow : Dialogue ports Result → List (Exchange ports) → Option Result
  | .done result, [] => some result
  | .ask asked next, exchange :: rest =>
    if same : exchange.question = asked then (next (same ▸ exchange.answer)).follow rest else none
  | .done _, _ :: _ | .ask _ _, [] => none

/-- A dialogue follows the records of its conversations and no others. -/
theorem follow_eq_some_iff {dialogue : Dialogue ports Result} {exchanges : List (Exchange ports)}
    {result : Result} :
    dialogue.follow exchanges = some result ↔ Held dialogue exchanges result := by
  induction dialogue generalizing exchanges with
  | done first =>
    cases exchanges with
    | nil =>
      constructor
      · intro followed
        cases followed
        exact .done result
      · intro held
        cases held
        rfl
    | cons exchange rest => exact iff_of_false nofun nofun
  | ask asked next inductionHypothesis =>
    cases exchanges with
    | nil => exact iff_of_false nofun nofun
    | cons exchange rest =>
      obtain ⟨question, answer⟩ := exchange
      unfold follow
      constructor
      · intro followed
        split at followed
        next same =>
          subst same
          exact .ask answer ((inductionHypothesis answer).1 followed)
        next => cases followed
      · intro held
        cases held with
        | ask _ held =>
          rw [dif_pos rfl]
          exact (inductionHypothesis _).2 held

end Dialogue

instance : DecidableEq backends.Question := inferInstanceAs (DecidableEq Call)

namespace Operation

variable {State Larger Result Later : Type}

/-- A conversation of an operation: from the first state it can have these exchanges, and it then
ends with this outcome in the last state. -/
def Converses (operation : Operation State Result) (before : State)
    (exchanges : List (Exchange backends)) (outcome : Except Failure Result) (after : State) :
    Prop :=
  Dialogue.Held (operation.run before) exchanges (outcome, after)

variable {before after : State} {exchanges : List (Exchange backends)}
  {outcome : Except Failure Result}

/-! ### Dialogues -/

theorem held_done_iff {ports : Interface} {first last : Result}
    {heard : List (Exchange ports)} :
    Dialogue.Held (.done first) heard last ↔ heard = [] ∧ last = first := by
  constructor
  · intro held
    cases held
    exact ⟨rfl, rfl⟩
  · rintro ⟨rfl, rfl⟩
    exact .done _

/-- Looking at the result of a dialogue asks nothing. -/
theorem held_andThen_done_iff {ports : Interface} {Last : Type} {dialogue : Dialogue ports Result}
    {look : Result → Last} {heard : List (Exchange ports)} {last : Last} :
    Dialogue.Held (dialogue.andThen fun result => .done (look result)) heard last ↔
      ∃ result, Dialogue.Held dialogue heard result ∧ last = look result := by
  have opened : Dialogue.Held (dialogue.andThen fun result => .done (look result)) heard last ↔
      ∃ first second result, heard = first ++ second ∧ Dialogue.Held dialogue first result ∧
        Dialogue.Held (.done (look result)) second last :=
    Dialogue.held_bind_iff
  rw [opened]
  constructor
  · rintro ⟨first, second, result, rfl, held, rest⟩
    obtain ⟨rfl, rfl⟩ := held_done_iff.1 rest
    exact ⟨result, by rwa [List.append_nil], rfl⟩
  · rintro ⟨result, held, rfl⟩
    exact ⟨heard, [], result, (List.append_nil _).symm, held, .done _⟩

theorem held_ask_done_iff {ports : Interface} {Last : Type} {asked : ports.Question}
    {next : ports.Answer asked → Last} {heard : List (Exchange ports)} {last : Last} :
    Dialogue.Held (.ask asked fun answer => .done (next answer)) heard last ↔
      ∃ answer, heard = [⟨asked, answer⟩] ∧ last = next answer := by
  constructor
  · intro held
    cases held with
    | ask answer rest =>
      obtain ⟨rfl, rfl⟩ := held_done_iff.1 rest
      exact ⟨answer, rfl, rfl⟩
  · rintro ⟨answer, rfl, rfl⟩
    exact .ask answer (.done _)

/-! ### Results, failures and states -/

theorem converses_pure_iff {result : Result} :
    Converses (pure result : Operation State Result) before exchanges outcome after ↔
      exchanges = [] ∧ outcome = .ok result ∧ after = before := by
  refine held_done_iff.trans ?_
  rw [Prod.mk.injEq]

theorem converses_throw_iff {failure : Failure} :
    Converses (throw failure : Operation State Result) before exchanges outcome after ↔
      exchanges = [] ∧ outcome = .error failure ∧ after = before := by
  refine held_done_iff.trans ?_
  rw [Prod.mk.injEq]

theorem converses_fromResult_iff {result : Except Failure Result} :
    Converses (fromResult result : Operation State Result) before exchanges outcome after ↔
      exchanges = [] ∧ outcome = result ∧ after = before := by
  refine held_done_iff.trans ?_
  rw [Prod.mk.injEq]

theorem converses_get_iff {state : Except Failure State} :
    Converses (get : Operation State State) before exchanges state after ↔
      exchanges = [] ∧ state = .ok before ∧ after = before := by
  refine held_done_iff.trans ?_
  rw [Prod.mk.injEq]

theorem converses_set_iff {state : State} {ended : Except Failure PUnit} :
    Converses (set state : Operation State PUnit) before exchanges ended after ↔
      exchanges = [] ∧ ended = .ok ⟨⟩ ∧ after = state := by
  refine held_done_iff.trans ?_
  rw [Prod.mk.injEq]

theorem converses_modify_iff {change : State → State} {ended : Except Failure PUnit} :
    Converses (modify change : Operation State PUnit) before exchanges ended after ↔
      exchanges = [] ∧ ended = .ok ⟨⟩ ∧ after = change before := by
  refine held_done_iff.trans ?_
  rw [Prod.mk.injEq]

/-! ### Questions -/

theorem converses_askVolume_iff {call : VolumeCall} {answer : Except Failure call.Result} :
    Converses (askVolume call) before exchanges answer after ↔
      exchanges = [.ofVolume call answer] ∧ after = before := by
  refine held_ask_done_iff.trans ?_
  constructor
  · rintro ⟨given, rfl, same⟩
    obtain ⟨rfl, rfl⟩ := Prod.mk.inj same
    exact ⟨rfl, rfl⟩
  · rintro ⟨rfl, rfl⟩
    exact ⟨answer, rfl, rfl⟩

theorem converses_askRepository_iff {call : RepositoryCall}
    {answer : Except Failure call.Answer} :
    Converses (askRepository call) before exchanges answer after ↔
      ∃ given, answer = .ok given ∧ exchanges = [.ofRepository call given] ∧ after = before := by
  refine held_ask_done_iff.trans ?_
  constructor
  · rintro ⟨given, rfl, same⟩
    obtain ⟨rfl, rfl⟩ := Prod.mk.inj same
    exact ⟨given, rfl, rfl, rfl⟩
  · rintro ⟨given, rfl, rfl, rfl⟩
    exact ⟨given, rfl, rfl⟩

/-! ### Operations made of others -/

theorem converses_bind_iff {operation : Operation State Result}
    {next : Result → Operation State Later} {last : Except Failure Later} :
    Converses (operation >>= next) before exchanges last after ↔
      (∃ first second result middle, exchanges = first ++ second ∧
        Converses operation before first (.ok result) middle ∧
        Converses (next result) middle second last after) ∨
      ∃ failure, last = .error failure ∧
        Converses operation before exchanges (.error failure) after := by
  have opened : Converses (operation >>= next) before exchanges last after ↔
      ∃ first second middle, exchanges = first ++ second ∧
        Dialogue.Held (operation.run before) first middle ∧
        Dialogue.Held (ExceptT.bindCont next middle.1 middle.2) second (last, after) :=
    Dialogue.held_bind_iff
  rw [opened]
  constructor
  · rintro ⟨first, second, ⟨outcome, middle⟩, rfl, held, rest⟩
    cases outcome with
    | ok result => exact Or.inl ⟨first, second, result, middle, rfl, held, rest⟩
    | error failure =>
      obtain ⟨rfl, same⟩ := held_done_iff.1 rest
      obtain ⟨rfl, rfl⟩ := Prod.mk.inj same
      exact Or.inr ⟨failure, rfl, by rwa [List.append_nil]⟩
  · rintro (⟨first, second, result, middle, rfl, held, rest⟩ | ⟨failure, rfl, held⟩)
    · exact ⟨first, second, (.ok result, middle), rfl, held, rest⟩
    · exact ⟨exchanges, [], (.error failure, after), (List.append_nil _).symm, held, .done _⟩

/-- Asking a repository does not fail, so the rest goes on with whatever is answered. -/
theorem converses_askRepository_bind_iff {call : RepositoryCall}
    {next : call.Answer → Operation State Later} {last : Except Failure Later} :
    Converses (askRepository call >>= next) before exchanges last after ↔
      ∃ given rest, exchanges = .ofRepository call given :: rest ∧
        Converses (next given) before rest last after := by
  rw [converses_bind_iff]
  constructor
  · rintro (⟨first, second, result, middle, rfl, asked, rest⟩ | ⟨failure, rfl, asked⟩)
    · obtain ⟨given, same, rfl, rfl⟩ := converses_askRepository_iff.1 asked
      cases same
      exact ⟨result, second, rfl, rest⟩
    · obtain ⟨_, same, _⟩ := converses_askRepository_iff.1 asked
      cases same
  · rintro ⟨given, rest, rfl, held⟩
    exact Or.inl ⟨_, rest, given, before, rfl,
      converses_askRepository_iff.2 ⟨given, rfl, rfl, rfl⟩, held⟩

/-- An operation that is tried comes out well whatever its own outcome is. -/
theorem converses_attempt_iff {operation : Operation State Result}
    {seen : Except Failure (Except Failure Result)} :
    Converses (attempt operation) before exchanges seen after ↔
      ∃ outcome, seen = .ok outcome ∧ Converses operation before exchanges outcome after := by
  refine held_andThen_done_iff.trans ?_
  constructor
  · rintro ⟨⟨outcome, state⟩, held, same⟩
    obtain ⟨rfl, rfl⟩ := Prod.mk.inj same
    exact ⟨outcome, rfl, held⟩
  · rintro ⟨outcome, rfl, held⟩
    exact ⟨(outcome, after), held, rfl⟩

/-- After a tried operation the rest goes on whether it failed or not. -/
theorem converses_attempt_bind_iff {operation : Operation State Result}
    {next : Except Failure Result → Operation State Later} {last : Except Failure Later} :
    Converses (attempt operation >>= next) before exchanges last after ↔
      ∃ first second outcome middle, exchanges = first ++ second ∧
        Converses operation before first outcome middle ∧
        Converses (next outcome) middle second last after := by
  rw [converses_bind_iff]
  constructor
  · rintro (⟨first, second, tried, middle, rfl, held, rest⟩ | ⟨failure, rfl, held⟩)
    · obtain ⟨outcome, same, held⟩ := converses_attempt_iff.1 held
      cases same
      exact ⟨first, second, tried, middle, rfl, held, rest⟩
    · obtain ⟨outcome, same, _⟩ := converses_attempt_iff.1 held
      cases same
  · rintro ⟨first, second, outcome, middle, rfl, held, rest⟩
    exact Or.inl ⟨first, second, outcome, middle, rfl,
      converses_attempt_iff.2 ⟨outcome, rfl, held⟩, rest⟩

theorem converses_fromResult_error_bind_iff {failure : Failure}
    {next : Result → Operation State Later} {last : Except Failure Later} :
    Converses (fromResult (.error failure) >>= next) before exchanges last after ↔
      exchanges = [] ∧ last = .error failure ∧ after = before := by
  refine held_done_iff.trans ?_
  rw [Prod.mk.injEq]

theorem converses_fromResult_ok_bind_iff {result : Result}
    {next : Result → Operation State Later} {last : Except Failure Later} :
    Converses (fromResult (.ok result) >>= next) before exchanges last after ↔
      Converses (next result) before exchanges last after := Iff.rfl

theorem converses_get_bind_iff {next : State → Operation State Later}
    {last : Except Failure Later} :
    Converses (get >>= next) before exchanges last after ↔
      Converses (next before) before exchanges last after := Iff.rfl

theorem converses_ofDialogue_iff {dialogue : Dialogue backends Result} :
    Converses (ofDialogue dialogue) before exchanges outcome after ↔
      ∃ result, outcome = .ok result ∧ Dialogue.Held dialogue exchanges result ∧
        after = before := by
  refine held_andThen_done_iff.trans ?_
  constructor
  · rintro ⟨result, held, same⟩
    obtain ⟨rfl, rfl⟩ := Prod.mk.inj same
    exact ⟨result, rfl, held, rfl⟩
  · rintro ⟨result, rfl, held, rfl⟩
    exact ⟨result, held, rfl⟩

theorem converses_ofDialogue_bind_iff {dialogue : Dialogue backends Result}
    {next : Result → Operation State Later} {last : Except Failure Later} :
    Converses (ofDialogue dialogue >>= next) before exchanges last after ↔
      ∃ first second result, exchanges = first ++ second ∧ Dialogue.Held dialogue first result ∧
        Converses (next result) before second last after := by
  rw [converses_bind_iff]
  constructor
  · rintro (⟨first, second, given, middle, rfl, held, rest⟩ | ⟨failure, rfl, held⟩)
    · obtain ⟨result, same, held, rfl⟩ := converses_ofDialogue_iff.1 held
      cases same
      exact ⟨first, second, given, rfl, held, rest⟩
    · obtain ⟨result, same, _⟩ := converses_ofDialogue_iff.1 held
      cases same
  · rintro ⟨first, second, result, rfl, held, rest⟩
    exact Or.inl ⟨first, second, result, before, rfl,
      converses_ofDialogue_iff.2 ⟨result, rfl, held, rfl⟩, rest⟩

theorem converses_within_iff {operation : Operation State Result} {part : Larger → State}
    {update : State → Larger → Larger} {larger last : Larger} :
    Converses (operation.within part update) larger exchanges outcome last ↔
      ∃ state, Converses operation (part larger) exchanges outcome state ∧
        last = update state larger := by
  refine held_andThen_done_iff.trans ?_
  constructor
  · rintro ⟨⟨ended, state⟩, held, same⟩
    obtain ⟨rfl, rfl⟩ := Prod.mk.inj same
    exact ⟨state, held, rfl⟩
  · rintro ⟨state, held, rfl⟩
    exact ⟨(outcome, state), held, rfl⟩

end Operation

end NodeAgent
