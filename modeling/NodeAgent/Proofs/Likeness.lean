/-
This file compares two dialogues. They go alike where their questions are alike, one after another,
for as long as they get the same answers, and where what comes of them in the end is alike too. Then
each conversation of the one is matched by a conversation of the other, and by one only, because a
dialogue that gets the same answers takes the same course.
-/

import Mathlib.Data.List.Forall2
import NodeAgent.Proofs.Serving

namespace NodeAgent

/-- Which questions are alike. Questions that are alike have answers of the same type. -/
structure Likeness (ports : Interface) where
  alike : ports.Question → ports.Question → Prop
  refl : ∀ asked, alike asked asked
  answers : ∀ {asked other}, alike asked other → ports.Answer asked = ports.Answer other

variable {ports : Interface} {likeness : Likeness ports} {First Second Later Last Fault : Type}
  {results : First → Second → Prop}

/-- Two exchanges whose questions are alike and whose answers are the same. -/
structure Exchange.Alike (likeness : Likeness ports) (first second : Exchange ports) : Prop where
  question : likeness.alike first.question second.question
  answer : HEq first.answer second.answer

/-! ### Outcomes -/

/-- Two outcomes that are the same failure, or results that are alike. -/
inductive Outcomes (results : First → Second → Prop) :
    Except Fault First → Except Fault Second → Prop where
  | ok {first : First} {second : Second} (alike : results first second) :
      Outcomes results (.ok first) (.ok second)
  | error (fault : Fault) : Outcomes results (.error fault) (.error fault)

theorem outcomes_eq_iff {first second : Except Fault First} :
    Outcomes Eq first second ↔ first = second := by
  constructor
  · intro alike
    cases alike with
    | ok same => rw [same]
    | error fault => rfl
  · rintro rfl
    cases first with
    | ok result => exact .ok rfl
    | error fault => exact .error fault

/-! ### Dialogues -/

namespace Dialogue

/-- Two dialogues that go alike. -/
inductive Alike (likeness : Likeness ports) (results : First → Second → Prop) :
    Dialogue ports First → Dialogue ports Second → Prop where
  | done {first : First} {second : Second} (alike : results first second) :
      Alike likeness results (.done first) (.done second)
  | ask {asked other : ports.Question} {next : ports.Answer asked → Dialogue ports First}
      {following : ports.Answer other → Dialogue ports Second}
      (alike : likeness.alike asked other)
      (goes : ∀ answer given, HEq answer given →
        Alike likeness results (next answer) (following given)) :
      Alike likeness results (.ask asked next) (.ask other following)

theorem Alike.refl (dialogue : Dialogue ports First) : Alike likeness Eq dialogue dialogue := by
  induction dialogue with
  | done result => exact .done rfl
  | ask asked next inductionHypothesis =>
    refine .ask (likeness.refl asked) fun answer given same => ?_
    rw [eq_of_heq same]
    exact inductionHypothesis given

theorem Alike.mono {others : First → Second → Prop} {first : Dialogue ports First}
    {second : Dialogue ports Second} (alike : Alike likeness results first second)
    (weaker : ∀ one other, results one other → others one other) :
    Alike likeness others first second := by
  induction alike with
  | done same => exact .done (weaker _ _ same)
  | ask same _ inductionHypothesis => exact .ask same inductionHypothesis

theorem Alike.bind {others : Later → Last → Prop} {first : Dialogue ports First}
    {second : Dialogue ports Second} {next : First → Dialogue ports Later}
    {following : Second → Dialogue ports Last} (alike : Alike likeness results first second)
    (goes : ∀ one other, results one other → Alike likeness others (next one) (following other)) :
    Alike likeness others (first >>= next) (second >>= following) := by
  induction alike with
  | done same => exact goes _ _ same
  | ask same _ inductionHypothesis => exact .ask same inductionHypothesis

/-- A conversation of the one dialogue is matched by a conversation of the other. -/
theorem Alike.held {first : Dialogue ports First} {second : Dialogue ports Second}
    (alike : Alike likeness results first second) {heard : List (Exchange ports)} {result : First}
    (held : Held first heard result) :
    ∃ others last, Held second others last ∧ List.Forall₂ (Exchange.Alike likeness) heard others ∧
      results result last := by
  induction alike generalizing heard with
  | done same =>
    cases held
    exact ⟨[], _, .done _, .nil, same⟩
  | ask same _ inductionHypothesis =>
    cases held with
    | ask answer held =>
      have given := cast_heq (likeness.answers same) answer
      obtain ⟨others, last, matched, alike, ended⟩ :=
        inductionHypothesis answer _ given.symm held
      exact ⟨_, last, .ask _ matched, .cons ⟨same, given.symm⟩ alike, ended⟩

/-! ### The course of a dialogue -/

/-- Two lists of exchanges in which the same question at the same place got the same answer. -/
def Agree (first second : List (Exchange ports)) : Prop :=
  ∀ (place : Nat) (asked : ports.Question) (answer given : ports.Answer asked),
    first[place]? = some (Exchange.mk asked answer) →
      second[place]? = some (Exchange.mk asked given) → answer = given

theorem agree_cons_iff {asked : ports.Question} {answer given : ports.Answer asked}
    {first second : List (Exchange ports)} :
    Agree (Exchange.mk asked answer :: first) (Exchange.mk asked given :: second) ↔
      answer = given ∧ Agree first second := by
  constructor
  · intro agree
    exact ⟨agree 0 asked answer given rfl rfl, fun place => agree (place + 1)⟩
  · rintro ⟨same, agree⟩ place
    cases place with
    | zero =>
      intro other answered gave here there
      cases here
      cases there
      exact same
    | succ place => exact agree place

/-- A dialogue that gets the same answers takes the same course, whatever is heard after it. -/
theorem Held.unique {dialogue : Dialogue ports First}
    {heard others rest more : List (Exchange ports)} {result last : First}
    (held : Held dialogue heard result) (again : Held dialogue others last)
    (agree : Agree (heard ++ rest) (others ++ more)) :
    heard = others ∧ result = last ∧ Agree rest more := by
  induction held generalizing others with
  | done result =>
    cases again
    exact ⟨rfl, rfl, agree⟩
  | ask answer held inductionHypothesis =>
    cases again with
    | ask given again =>
      rw [List.cons_append, List.cons_append] at agree
      obtain ⟨rfl, later⟩ := agree_cons_iff.1 agree
      obtain ⟨rfl, same, left⟩ := inductionHypothesis again later
      exact ⟨rfl, same, left⟩

end Dialogue

end NodeAgent
