/-
This file says what is left of a text when its ends are cut off: the part between the first and the
last character that stay. The first line of a text that is not blank is such a part, with nothing
but blanks before it.
-/

import Mathlib.Data.List.TakeWhile
import NodeAgent.Proofs.Paths

namespace NodeAgent.Text

variable {drop : Char → Bool} {text core : List Char}

/-- What is left of a text without the characters of a class at its ends. -/
inductive Trims (drop : Char → Bool) : List Char → List Char → Prop where
  | intro {lead core trail : List Char} (leading : ∀ c ∈ lead, drop c = true)
      (trailing : ∀ c ∈ trail, drop c = true) (first : ∀ c ∈ core.head?, drop c = false)
      (last : ∀ c ∈ core.getLast?, drop c = false) : Trims drop (lead ++ core ++ trail) core

theorem dropWhile_of_head {rest : List Char} (first : ∀ c ∈ rest.head?, drop c = false) :
    rest.dropWhile drop = rest := by
  cases rest with
  | nil => rfl
  | cons c rest => exact List.dropWhile_cons_of_neg (by rw [first c rfl]; decide)

theorem head?_dropWhile (drop : Char → Bool) (text : List Char) :
    ∀ c ∈ (text.dropWhile drop).head?, drop c = false := by
  intro c among
  have stays := List.head?_dropWhile_not drop text
  rw [among] at stays
  exact stays

/-- Cutting off both ends leaves what begins and ends with characters that stay. -/
theorem trims_iff : Trims drop text core ↔ trimBy drop text = core := by
  unfold trimBy trimEnd
  constructor
  · rintro @⟨_, core, trail, leading, trailing, first, last⟩
    rw [List.append_assoc, List.dropWhile_append_of_pos leading]
    cases core with
    | nil => rw [List.nil_append, List.dropWhile_eq_nil_iff.2 trailing]; rfl
    | cons c core =>
      have ending : ∀ other ∈ (c :: core).reverse.head?, drop other = false := by
        intro other among
        rw [List.head?_reverse] at among
        exact last other among
      have beginning : ((c :: core) ++ trail).dropWhile drop = (c :: core) ++ trail :=
        dropWhile_of_head first
      rw [beginning, List.reverse_append,
        List.dropWhile_append_of_pos fun c member => trailing c (List.mem_reverse.1 member),
        dropWhile_of_head ending, List.reverse_reverse]
  · rintro rfl
    generalize stays : text.dropWhile drop = rest
    have whole : text.takeWhile drop ++ rest = text := stays ▸ List.takeWhile_append_dropWhile
    have turned : (rest.reverse.dropWhile drop).reverse ++ (rest.reverse.takeWhile drop).reverse =
        rest := by
      rw [← List.reverse_append, List.takeWhile_append_dropWhile, List.reverse_reverse]
    have split : text = text.takeWhile drop ++ (rest.reverse.dropWhile drop).reverse ++
        (rest.reverse.takeWhile drop).reverse := by
      rw [List.append_assoc, turned, whole]
    have begins := head?_dropWhile drop text
    have ends := head?_dropWhile drop rest.reverse
    rw [stays] at begins
    rw [split]
    refine .intro (fun _ => List.mem_takeWhile_imp)
      (fun c member => List.mem_takeWhile_imp (List.mem_reverse.1 member)) ?_ ?_
    · intro c among
      refine begins c ?_
      rw [← turned, List.head?_append, Option.mem_def.1 among]
      rfl
    · rwa [List.getLast?_reverse]

theorem trims_trimBy (drop : Char → Bool) (text : List Char) :
    Trims drop text (trimBy drop text) := trims_iff.2 rfl

theorem trimBy_eq_nil_iff : trimBy drop text = [] ↔ ∀ c ∈ text, drop c = true := by
  constructor
  · intro nothing
    have trims := nothing ▸ trims_trimBy drop text
    cases trims with
    | intro leading trailing =>
      rw [List.append_nil]
      exact List.forall_mem_append.2 ⟨leading, trailing⟩
  · intro all
    have trims : Trims drop (text ++ [] ++ []) [] := .intro all nofun nofun nofun
    rw [List.append_nil, List.append_nil] at trims
    exact trims_iff.1 trims

/-! ### Lines -/

/-- The first line of a text that is not blank, without its blank ends: there are only blanks before
it, and at most blanks after it in its line. -/
inductive FirstLine : List Char → List Char → Prop where
  | intro {lead line trail rest : List Char} (leading : ∀ c ∈ lead, isBlank c = true)
      (trailing : ∀ c ∈ trail, isBlank c = true) (visible : line ≠ [])
      (first : ∀ c ∈ line.head?, isBlank c = false)
      (last : ∀ c ∈ line.getLast?, isBlank c = false) (single : '\n' ∉ line)
      (ends : rest = [] ∨ ∃ more, rest = '\n' :: more) :
      FirstLine (lead ++ line ++ trail ++ rest) line

theorem FirstLine.not_blank {text line : List Char} (found : FirstLine text line) :
    ¬ ∀ c ∈ text, isBlank c = true := by
  obtain ⟨_, _, visible, first, _, _, _⟩ := found
  obtain ⟨c, line, rfl⟩ := List.exists_cons_of_ne_nil visible
  intro blank
  have here := blank c (by simp)
  rw [first c rfl] at here
  cases here

/-- The first of some lines of which something is left without its blank ends. -/
def firstOf (lines : List (List Char)) : Option (List Char) :=
  (lines.map (trimBy isBlank)).find? (· ≠ [])

theorem firstOf_cons (line : List Char) (lines : List (List Char)) :
    firstOf (line :: lines) =
      if trimBy isBlank line = [] then firstOf lines else some (trimBy isBlank line) := by
  unfold firstOf
  rw [List.map_cons, List.find?_cons]
  by_cases blank : trimBy isBlank line = []
  · rw [if_pos blank, blank]
    rfl
  · rw [if_neg blank, decide_eq_true blank]

/-- A line that is cut to something is the first where it is the first line. -/
theorem firstLine_trimBy {line rest : List Char} (single : '\n' ∉ line)
    (visible : trimBy isBlank line ≠ []) (ends : rest = [] ∨ ∃ more, rest = '\n' :: more) :
    FirstLine (line ++ rest) (trimBy isBlank line) := by
  have trims := trims_trimBy isBlank line
  generalize trimBy isBlank line = core at visible trims
  obtain ⟨leading, trailing, first, last⟩ := trims
  refine .intro leading trailing visible first last (fun member => single ?_) ends
  exact List.mem_append_left _ (List.mem_append_right _ member)

/-- Blanks may stand before the first line. -/
theorem FirstLine.append_left {front rest line : List Char} (found : FirstLine rest line)
    (blank : ∀ c ∈ front, isBlank c = true) : FirstLine (front ++ rest) line := by
  obtain ⟨leading, trailing, visible, first, last, single, ends⟩ := found
  rw [← List.append_assoc, ← List.append_assoc, ← List.append_assoc]
  exact .intro (List.forall_mem_append.2 ⟨blank, leading⟩) trailing visible first last single ends

theorem firstOf_splitAt (text : List Char) :
    (firstOf (splitAt '\n' text) = none → ∀ c ∈ text, isBlank c = true) ∧
      ∀ line, firstOf (splitAt '\n' text) = some line → FirstLine text line := by
  induction size : text.length using Nat.strongRecOn generalizing text with
  | ind count inductionHypothesis =>
    by_cases broken : '\n' ∈ text
    · obtain ⟨front, rest, rfl, single⟩ := List.eq_append_cons_of_mem broken
      have shorter : rest.length < count := by
        rw [← size, List.length_append, List.length_cons]
        omega
      obtain ⟨blank, found⟩ := inductionHypothesis _ shorter rest rfl
      rw [splitAt_append_mark, splitAt_of_not_mem single, List.singleton_append, firstOf_cons]
      split
      · next nothing =>
        have before : ∀ c ∈ front ++ ['\n'], isBlank c = true :=
          List.forall_mem_append.2 ⟨trimBy_eq_nil_iff.1 nothing,
            List.forall_mem_singleton.2 (by decide)⟩
        rw [List.append_cons]
        exact ⟨fun none => List.forall_mem_append.2 ⟨before, blank none⟩,
          fun line there => (found line there).append_left before⟩
      · next visible =>
        refine ⟨nofun, ?_⟩
        rintro _ ⟨⟩
        exact firstLine_trimBy single visible (.inr ⟨rest, rfl⟩)
    · rw [splitAt_of_not_mem broken, firstOf_cons]
      split
      · next nothing => exact ⟨fun _ => trimBy_eq_nil_iff.1 nothing, nofun⟩
      · next visible =>
        refine ⟨nofun, ?_⟩
        rintro _ ⟨⟩
        have found := firstLine_trimBy broken visible (.inl rfl)
        rwa [List.append_nil] at found

/-- The first line is what is left of the rest of its line, behind all blanks before it. -/
theorem FirstLine.trimBy_eq {text line : List Char} (found : FirstLine text line) :
    trimBy isBlank ((text.dropWhile isBlank).takeWhile (· ≠ '\n')) = line := by
  obtain @⟨lead, line, trail, rest, leading, trailing, visible, first, last, single, ends⟩ := found
  have begins : (line ++ (trail ++ rest)).dropWhile isBlank = line ++ (trail ++ rest) := by
    obtain ⟨c, line, rfl⟩ := List.exists_cons_of_ne_nil visible
    exact dropWhile_of_head first
  have inLine : ∀ c ∈ line, decide (c ≠ '\n') = true := fun c member =>
    decide_eq_true fun newline => single (newline ▸ member)
  have behind : ∀ c ∈ (trail ++ rest).takeWhile (· ≠ '\n'), isBlank c = true := by
    rw [List.takeWhile_append]
    split
    · rcases ends with rfl | ⟨more, rfl⟩
      · rwa [List.takeWhile_nil, List.append_nil]
      · rwa [List.takeWhile_cons_of_neg (by decide), List.append_nil]
    · exact fun c member => trailing c (List.takeWhile_subset _ member)
  rw [List.append_assoc, List.append_assoc, List.dropWhile_append_of_pos leading, begins,
    List.takeWhile_append_of_pos inLine]
  exact trims_iff.1 (@Trims.intro isBlank [] line _ nofun behind first last)

theorem firstLine_eq_some_iff {text line : String} :
    firstLine text = some line ↔ FirstLine text.toList line.toList := by
  have same : firstLine text = (firstOf (splitAt '\n' text.toList)).map String.ofList := rfl
  obtain ⟨blank, found⟩ := firstOf_splitAt text.toList
  rw [same, Option.map_eq_some_iff]
  constructor
  · rintro ⟨characters, first, rfl⟩
    rw [String.toList_ofList]
    exact found characters first
  · intro there
    cases first : firstOf (splitAt '\n' text.toList) with
    | none => exact absurd (blank first) there.not_blank
    | some characters =>
      refine ⟨characters, rfl, ?_⟩
      rw [← (found characters first).trimBy_eq, there.trimBy_eq, String.ofList_toList]

theorem firstLine_eq_none_iff {text : String} :
    firstLine text = none ↔ ∀ c ∈ text.toList, isBlank c = true := by
  constructor
  · exact fun none => (firstOf_splitAt text.toList).1 (Option.map_eq_none_iff.1 none)
  · intro blank
    cases found : firstLine text with
    | none => rfl
    | some line => exact absurd blank (firstLine_eq_some_iff.1 found).not_blank

end NodeAgent.Text
