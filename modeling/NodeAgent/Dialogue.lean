/-
This file defines dialogues: computations that put questions to the world outside and go on
with the answers. A dialogue does not know who answers, so one text serves the real tools, an
in-memory substitute and a proof about every possible answer. `answerBy` lets a partner answer;
`Held` relates a dialogue to the exchanges of one possible conversation and its result.
-/

namespace NodeAgent

/-- The questions that may be put, and the type of answer each of them has. -/
structure Interface where
  Question : Type
  Answer : Question → Type

/-- A computation that asks finitely often and then has a result. -/
inductive Dialogue (ports : Interface) (Result : Type) : Type where
  | done (result : Result)
  | ask (question : ports.Question) (next : ports.Answer question → Dialogue ports Result)

/-- One question together with the answer it got. -/
structure Exchange (ports : Interface) where
  question : ports.Question
  answer : ports.Answer question

namespace Dialogue

variable {ports other : Interface} {Result Later : Type}

/-- Continues a dialogue with what another one makes of its result. -/
def andThen : Dialogue ports Result → (Result → Dialogue ports Later) → Dialogue ports Later
  | .done result, next => next result
  | .ask question rest, next => .ask question fun answer => (rest answer).andThen next

instance : Monad (Dialogue ports) where
  pure := .done
  bind := andThen

theorem bind_done (dialogue : Dialogue ports Result) : dialogue >>= .done = dialogue := by
  induction dialogue with
  | done _ => rfl
  | ask asked rest inductionHypothesis =>
    exact congrArg (Dialogue.ask asked) (funext inductionHypothesis)

theorem bind_bind {Last : Type} (dialogue : Dialogue ports Result)
    (first : Result → Dialogue ports Later) (second : Later → Dialogue ports Last) :
    dialogue >>= first >>= second = dialogue >>= fun result => first result >>= second := by
  induction dialogue with
  | done _ => rfl
  | ask asked rest inductionHypothesis =>
    exact congrArg (Dialogue.ask asked) (funext inductionHypothesis)

instance : LawfulMonad (Dialogue ports) :=
  .mk' (Dialogue ports) bind_done (fun _ _ => rfl) bind_bind

/-! ### Partners -/

/-- Holds the dialogue with a partner that answers in its own monad. -/
def answerBy {M : Type → Type} [Monad M]
    (partner : (asked : ports.Question) → M (ports.Answer asked)) :
    Dialogue ports Result → M Result
  | .done result => pure result
  | .ask asked next => do (next (← partner asked)).answerBy partner

/-! ### Conversations -/

/-- The exchanges of a conversation that a dialogue can have, in order, with its result. Every
answer of the right type is possible. -/
inductive Held : Dialogue ports Result → List (Exchange ports) → Result → Prop where
  | done (result : Result) : Held (.done result) [] result
  | ask {asked : ports.Question} {next : ports.Answer asked → Dialogue ports Result}
      (answer : ports.Answer asked) {exchanges : List (Exchange ports)} {result : Result}
      (rest : Held (next answer) exchanges result) :
      Held (.ask asked next) (⟨asked, answer⟩ :: exchanges) result

theorem held_bind_iff {dialogue : Dialogue ports Result} {next : Result → Dialogue ports Later}
    {exchanges : List (Exchange ports)} {last : Later} :
    Held (dialogue >>= next) exchanges last ↔
      ∃ before after result, exchanges = before ++ after ∧ Held dialogue before result ∧
        Held (next result) after last := by
  induction dialogue generalizing exchanges with
  | done result =>
    constructor
    · intro held
      exact ⟨[], exchanges, result, rfl, .done result, held⟩
    · rintro ⟨before, after, found, rfl, first, second⟩
      cases first
      exact second
  | ask asked rest inductionHypothesis =>
    constructor
    · intro held
      cases held with
      | ask answer held =>
        obtain ⟨before, after, result, rfl, first, second⟩ := (inductionHypothesis answer).1 held
        exact ⟨⟨asked, answer⟩ :: before, after, result, rfl, .ask answer first, second⟩
    · rintro ⟨before, after, result, rfl, first, second⟩
      cases first with
      | ask answer first =>
        exact .ask answer ((inductionHypothesis answer).2 ⟨_, after, result, rfl, first, second⟩)

end Dialogue

end NodeAgent
