/-
This file puts the agent in front of the tools of its host. An operation that is held with the
tools has a conversation of its own, and the host is asked what the tools ask for each of its
questions, one question after another. So what holds of every conversation holds with the tools.
-/

import NodeAgent.Proofs.Conversation
import NodeAgent.Tools.Toolbox

namespace NodeAgent.Tools.Toolbox

open Operation

/-- The tools gave the answers of these exchanges one after another, each of them after the host
had answered a part of these others; and this is what became of the serving programs. -/
inductive Served (toolbox : Toolbox) :
    Servers → List (Exchange backends) → List (Exchange host) → Servers → Prop where
  | nil (servers : Servers) : Served toolbox servers [] [] servers
  | cons {servers middle last : Servers} {rest : List (Exchange backends)}
      {first second : List (Exchange host)} (call : Call) (answer : call.Answer)
      (held : Dialogue.Held (toolbox.answer call servers) first (answer, middle))
      (served : Served toolbox middle rest second last) :
      Served toolbox servers (⟨call, answer⟩ :: rest) (first ++ second) last

/-- One call is served where its answer is one of the tools. -/
theorem served_singleton_iff {toolbox : Toolbox} {servers last : Servers} {call : Call}
    {answered : call.Answer} {heard : List (Exchange host)} :
    Served toolbox servers [⟨call, answered⟩] heard last ↔
      Dialogue.Held (toolbox.answer call servers) heard (answered, last) := by
  constructor
  · intro served
    cases served with
    | cons _ _ held rest =>
      cases rest
      rwa [List.append_nil]
  · intro held
    rw [← List.append_nil heard]
    exact .cons call answered held (.nil last)

/-- A dialogue that is held with the tools has a conversation that they serve. -/
theorem held_answerBy_iff {Result : Type} {toolbox : Toolbox} {servers last : Servers}
    {dialogue : Dialogue backends Result} {result : Result} {heard : List (Exchange host)} :
    Dialogue.Held ((@Dialogue.answerBy backends Result (StateT Servers (Dialogue host)) _
        toolbox.answer dialogue).run servers) heard (result, last) ↔
      ∃ exchanges, Dialogue.Held dialogue exchanges result ∧
        Served toolbox servers exchanges heard last := by
  induction dialogue generalizing servers heard with
  | done result =>
    refine held_done_iff.trans ?_
    constructor
    · rintro ⟨rfl, same⟩
      obtain ⟨rfl, rfl⟩ := Prod.mk.inj same
      exact ⟨[], .done _, .nil _⟩
    · rintro ⟨exchanges, held, served⟩
      cases held
      cases served
      exact ⟨rfl, rfl⟩
  | ask asked next inductionHypothesis =>
    refine Dialogue.held_bind_iff.trans ?_
    constructor
    · rintro ⟨first, second, ⟨answer, middle⟩, rfl, held, rest⟩
      obtain ⟨exchanges, conversation, served⟩ := (inductionHypothesis answer).1 rest
      exact ⟨_, .ask answer conversation, .cons asked answer held served⟩
    · rintro ⟨exchanges, conversation, served⟩
      cases conversation with
      | ask answer conversation =>
        cases served with
        | cons call answer held served =>
          exact ⟨_, _, _, rfl, held, (inductionHypothesis answer).2 ⟨_, conversation, served⟩⟩

/-- An operation that is held with the tools has a conversation that they serve. -/
theorem held_hold_iff {State Result : Type} {toolbox : Toolbox} {servers last : Servers}
    {before after : State} {operation : Operation State Result} {outcome : Except Failure Result}
    {heard : List (Exchange host)} :
    Dialogue.Held (toolbox.hold servers before operation) heard ((outcome, after), last) ↔
      ∃ exchanges, Converses operation before exchanges outcome after ∧
        Served toolbox servers exchanges heard last :=
  held_answerBy_iff

end NodeAgent.Tools.Toolbox
