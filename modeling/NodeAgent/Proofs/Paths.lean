/-
This file says where the entries of a directory are. A relative path adds its steps to the
components of a directory, however the path of the directory is spelled, so an entry whose name has
no slash is one component below it; and a valid volume id is such a name, so different volumes have
different entries. Two paths have the same canonical text exactly where they are the same place.
-/

import NodeAgent.Naming

namespace NodeAgent

namespace Text

theorem splitAt_ne_nil (mark : Char) (text : List Char) : splitAt mark text ≠ [] := by
  cases text with
  | nil => exact List.cons_ne_nil _ _
  | cons c rest =>
    unfold splitAt
    split
    · exact List.cons_ne_nil _ _
    · split <;> exact List.cons_ne_nil _ _

theorem splitAt_of_not_mem {mark : Char} {text : List Char} (absent : mark ∉ text) :
    splitAt mark text = [text] := by
  induction text with
  | nil => rfl
  | cons c rest inductionHypothesis =>
    have different : c ≠ mark := fun same => absent (same ▸ List.mem_cons_self)
    unfold splitAt
    rw [if_neg different, inductionHypothesis fun member => absent (List.mem_cons_of_mem _ member)]

theorem splitAt_append_mark (mark : Char) (front rest : List Char) :
    splitAt mark (front ++ mark :: rest) = splitAt mark front ++ splitAt mark rest := by
  induction front with
  | nil =>
    show splitAt mark (mark :: rest) = [] :: splitAt mark rest
    rw [splitAt, if_pos rfl]
  | cons c front inductionHypothesis =>
    show splitAt mark (c :: (front ++ mark :: rest)) =
      splitAt mark (c :: front) ++ splitAt mark rest
    rw [splitAt, splitAt, inductionHypothesis]
    split
    · rfl
    · generalize pieces : splitAt mark front = parts
      cases parts with
      | nil => exact absurd pieces (splitAt_ne_nil mark front)
      | cons part parts => rfl

theorem head?_splitAt_append (mark : Char) (text : List Char) (more : List (List Char)) :
    (splitAt mark text ++ more).head? = (splitAt mark text).head? := by
  cases pieces : splitAt mark text with
  | nil => exact absurd pieces (splitAt_ne_nil mark text)
  | cons piece pieces => rfl

variable {mark : Char} {text piece : List Char}

/-- The mark stands in no piece. -/
theorem not_mem_of_mem_splitAt (member : piece ∈ splitAt mark text) : mark ∉ piece := by
  induction text generalizing piece with
  | nil =>
    obtain rfl := List.mem_singleton.1 member
    exact List.not_mem_nil
  | cons c rest inductionHypothesis =>
    unfold splitAt at member
    split at member
    · rcases List.mem_cons.1 member with rfl | later
      · exact List.not_mem_nil
      · exact inductionHypothesis later
    next different =>
    split at member
    · obtain rfl := List.mem_singleton.1 member
      exact fun inside => different (List.mem_singleton.1 inside).symm
    next first others pieces =>
    rw [pieces] at inductionHypothesis
    rcases List.mem_cons.1 member with rfl | later
    · intro inside
      rcases List.mem_cons.1 inside with same | after
      · exact different same.symm
      · exact inductionHypothesis List.mem_cons_self after
    · exact inductionHypothesis (List.mem_cons_of_mem _ later)

/-- Pieces without the mark are found again between the marks that are put between them. -/
theorem splitAt_intercalate {parts : List (List Char)} (given : parts ≠ [])
    (plain : ∀ part ∈ parts, mark ∉ part) :
    splitAt mark (List.intercalate [mark] parts) = parts := by
  induction parts with
  | nil => exact absurd rfl given
  | cons part rest inductionHypothesis =>
    obtain ⟨here, others⟩ := List.forall_mem_cons.1 plain
    cases rest with
    | nil =>
      have alone : List.intercalate [mark] [part] = part := by simp [List.intercalate]
      rw [alone, splitAt_of_not_mem here]
    | cons next rest =>
      have joined : List.intercalate [mark] (part :: next :: rest) =
          part ++ mark :: List.intercalate [mark] (next :: rest) := by
        simp [List.intercalate]
      rw [joined, splitAt_append_mark, splitAt_of_not_mem here,
        inductionHypothesis (List.cons_ne_nil _ _) others]
      rfl

end Text

/-- What a valid volume id is as a piece of a path. -/
theorem piece_of_checkVolumeId {id : String} (valid : checkVolumeId id = .ok ()) :
    '/' ∉ id.toList ∧ Path.Component.ofPiece? id.toList = some (.name id.toList) := by
  unfold checkVolumeId at valid
  split at valid
  · cases valid
  next nonempty =>
  split at valid
  · cases valid
  split at valid
  · cases valid
  next start =>
  split at valid
  · cases valid
  next characters =>
  rw [Bool.not_eq_true, Bool.not_eq_false'] at characters
  constructor
  · intro slash
    have character : isVolumeIdChar '/' = true := List.all_eq_true.1 characters '/' slash
    exact absurd character (by decide)
  · have empty : id.toList ≠ [] := fun nil => nonempty (String.toList_eq_nil_iff.1 nil)
    have here : id.toList ≠ ['.'] := fun dot => start (Or.inr (by rw [dot]; rfl))
    have up : id.toList ≠ ['.', '.'] := fun dots => start (Or.inr (by rw [dots]; rfl))
    unfold Path.Component.ofPiece?
    rw [if_neg (not_or.2 ⟨empty, here⟩), if_neg up]

namespace Path

variable {directory path base next : Path} {name : String}

/-! ### Components -/

theorem Component.text_of_ofPiece? {piece : List Char} {component : Component}
    (made : Component.ofPiece? piece = some component) : component.text = piece := by
  unfold Component.ofPiece? at made
  split at made
  · cases made
  split at made
  · next up =>
    cases made
    exact up.symm
  · cases made
    rfl

/-- What a path adds to the components of the directory that it is seen from. -/
def steps (path : Path) : List Component :=
  (Text.splitAt '/' path.text.toList).filterMap Component.ofPiece?

/-- A step is the component of its own text. -/
theorem of_mem_steps {step : Component} (member : step ∈ path.steps) :
    '/' ∉ step.text ∧ Component.ofPiece? step.text = some step := by
  obtain ⟨piece, among, made⟩ := List.mem_filterMap.1 member
  rw [Component.text_of_ofPiece? made]
  exact ⟨Text.not_mem_of_mem_splitAt among, made⟩

theorem components_of_isAbsolute (absolute : path.isAbsolute = true) :
    path.components = .root :: path.steps := by
  have begins : path.text.toList.head? = some '/' := of_decide_eq_true absolute
  unfold components componentsOf
  dsimp only
  rw [if_pos begins]
  rfl

theorem components_of_relative (relative : path.isAbsolute = false) :
    path.components =
      (if (Text.splitAt '/' path.text.toList).head? = some ['.'] then [.here] else []) ++
        path.steps := by
  have begins : path.text.toList.head? ≠ some '/' := of_decide_eq_false relative
  unfold components componentsOf
  dsimp only
  rw [if_neg begins]
  rfl

/-- What follows a slash only adds components. -/
theorem componentsOf_append_slash (front rest : List Char) :
    componentsOf (front ++ '/' :: rest) =
      componentsOf (front ++ ['/']) ++ (Text.splitAt '/' rest).filterMap Component.ofPiece? := by
  have sameHead : (front ++ '/' :: rest).head? = (front ++ ['/']).head? := by
    cases front <;> rfl
  have emptyPiece : (Text.splitAt '/' []).filterMap Component.ofPiece? = [] := rfl
  unfold componentsOf
  dsimp only
  rw [Text.splitAt_append_mark, Text.splitAt_append_mark, sameHead, Text.head?_splitAt_append,
    Text.head?_splitAt_append, List.filterMap_append, List.filterMap_append, emptyPiece,
    List.append_nil, List.append_assoc]

/-- A slash at the end does not count, except that it is the root. -/
theorem componentsOf_append_singleton {front : List Char} (given : front ≠ []) :
    componentsOf (front ++ ['/']) = componentsOf front := by
  have sameHead : (front ++ ['/']).head? = front.head? := by
    cases front with
    | nil => exact absurd rfl given
    | cons c rest => rfl
  have emptyPiece : (Text.splitAt '/' []).filterMap Component.ofPiece? = [] := rfl
  unfold componentsOf
  dsimp only
  rw [Text.splitAt_append_mark, sameHead, Text.head?_splitAt_append, List.filterMap_append,
    emptyPiece, List.append_nil]

theorem text_join (relative : next.isAbsolute = false) :
    (base.join next).text =
      base.text ++ (if base.text.toList.getLast?.all (· = '/') then "" else "/") ++ next.text := by
  unfold join
  rw [relative]
  rfl

theorem components_join (given : base.text ≠ "") (relative : next.isAbsolute = false) :
    (base.join next).components = base.components ++ next.steps := by
  have nonempty : base.text.toList ≠ [] := fun nil => given (String.toList_eq_nil_iff.1 nil)
  unfold components
  rw [text_join relative, String.toList_append, String.toList_append]
  cases last : base.text.toList.getLast? with
  | none => exact absurd (List.getLast?_eq_none_iff.1 last) nonempty
  | some c =>
    by_cases slash : c = '/'
    · obtain ⟨front, text⟩ := List.getLast?_eq_some_iff.1 last
      rw [if_pos (by simp [slash]), text, slash, String.toList_empty, List.append_nil,
        List.append_assoc, List.singleton_append, componentsOf_append_slash]
      rfl
    · rw [if_neg (by simp [slash]), List.append_assoc,
        show "/".toList ++ next.text.toList = '/' :: next.text.toList from rfl,
        componentsOf_append_slash, componentsOf_append_singleton nonempty]
      rfl

/-- Seen from nowhere a path is itself. -/
theorem join_of_text_eq_empty (nowhere : base.text = "") : base.join next = next := by
  unfold join
  split
  · rfl
  · rw [nowhere]
    rfl

/-! ### Entries -/

theorem isAbsolute_of_plain (noSlash : '/' ∉ name.toList) : (Path.mk name).isAbsolute = false :=
  decide_eq_false fun begins => noSlash (List.mem_of_mem_head? begins)

theorem steps_of_plain (noSlash : '/' ∉ name.toList) :
    (Path.mk name).steps = (Component.ofPiece? name.toList).toList := by
  unfold steps
  rw [Text.splitAt_of_not_mem noSlash, List.filterMap_cons]
  cases Component.ofPiece? name.toList <;> rfl

theorem text_entry (noSlash : '/' ∉ name.toList) :
    (directory.entry name).text =
      directory.text ++ (if directory.text.toList.getLast?.all (· = '/') then "" else "/") ++
        name :=
  text_join (isAbsolute_of_plain noSlash)

/-- An entry is one component below its directory, where its name is one. -/
theorem components_entry (given : directory.text ≠ "") (noSlash : '/' ∉ name.toList) :
    (directory.entry name).components =
      directory.components ++ (Component.ofPiece? name.toList).toList := by
  rw [← steps_of_plain noSlash]
  exact components_join given (isAbsolute_of_plain noSlash)

/-- An entry whose name is a component is that component below its directory, also where the
directory is not said. -/
theorem components_entry_of_name {piece : List Char} (noSlash : '/' ∉ name.toList)
    (named : Component.ofPiece? name.toList = some (.name piece)) :
    (directory.entry name).components = directory.components ++ [.name piece] := by
  by_cases given : directory.text = ""
  · have other : name.toList ≠ ['.'] := by
      intro dot
      rw [dot] at named
      cases named
    unfold entry
    rw [join_of_text_eq_empty given, components_of_relative (isAbsolute_of_plain noSlash),
      steps_of_plain noSlash, named, Text.splitAt_of_not_mem noSlash, List.head?_cons,
      if_neg fun same => other (Option.some.inj same)]
    unfold components
    rw [given]
    rfl
  · rw [components_entry given noSlash, named]
    rfl

/-- An entry lies below its directory. -/
theorem isWithin_entry (given : directory.text ≠ "") (noSlash : '/' ∉ name.toList) {ancestor : Path}
    (within : directory.isWithin ancestor = true) :
    (directory.entry name).isWithin ancestor = true := by
  unfold isWithin at within ⊢
  rw [List.isPrefixOf_iff_prefix] at within ⊢
  rw [components_entry given noSlash]
  exact within.trans (List.prefix_append _ _)

theorem isWithin_refl (path : Path) : path.isWithin path = true :=
  List.isPrefixOf_iff_prefix.2 (List.prefix_refl _)

/-- An entry with a name has a text. -/
theorem text_entry_ne_empty (noSlash : '/' ∉ name.toList) (named : name ≠ "") :
    (directory.entry name).text ≠ "" := by
  intro empty
  have letters := congrArg String.toList empty
  rw [text_entry noSlash, String.toList_append, String.toList_empty, List.append_eq_nil_iff]
    at letters
  exact named (String.toList_eq_nil_iff.1 letters.2)

/-! ### One text for a place -/

/-- What stands at the beginning of a text of components, before their steps. -/
theorem components_cases (path : Path) :
    path.components = .root :: path.steps ∨ path.components = .here :: path.steps ∨
      path.components = path.steps := by
  cases absolute : path.isAbsolute with
  | true => exact .inl (components_of_isAbsolute absolute)
  | false =>
    rw [components_of_relative absolute]
    split
    · exact .inr (.inl rfl)
    · exact .inr (.inr rfl)

/-- Pieces that are put together with slashes begin with a slash where the first is empty. -/
theorem head?_intercalate_iff {part : List Char} {rest : List (List Char)} (plain : '/' ∉ part) :
    (List.intercalate ['/'] (part :: rest)).head? = some '/' ↔ part = [] ∧ rest ≠ [] := by
  cases rest with
  | nil =>
    refine iff_of_false (fun begins => plain (List.mem_of_mem_head? ?_)) (fun both => both.2 rfl)
    simpa [List.intercalate] using begins
  | cons next rest =>
    have joined : List.intercalate ['/'] (part :: next :: rest) =
        part ++ '/' :: List.intercalate ['/'] (next :: rest) := by
      simp [List.intercalate]
    rw [joined]
    cases part with
    | nil => exact iff_of_true rfl ⟨rfl, List.cons_ne_nil _ _⟩
    | cons c part =>
      refine iff_of_false (fun begins => plain ?_) (fun both => List.cons_ne_nil _ _ both.1)
      exact Option.some.inj begins ▸ List.mem_cons_self

/-- Pieces that are put together with slashes are found again. -/
theorem componentsOf_intercalate {part : List Char} {rest : List (List Char)}
    (plain : ∀ piece ∈ part :: rest, '/' ∉ piece) :
    componentsOf (List.intercalate ['/'] (part :: rest)) =
      (if part = [] ∧ rest ≠ [] then [.root] else if part = ['.'] then [.here] else []) ++
        (part :: rest).filterMap Component.ofPiece? := by
  have begins : (List.intercalate ['/'] (part :: rest)).head? = some '/' ↔ part = [] ∧ rest ≠ [] :=
    head?_intercalate_iff (plain part List.mem_cons_self)
  unfold componentsOf
  dsimp only
  rw [Text.splitAt_intercalate (List.cons_ne_nil _ _) plain, List.head?_cons]
  simp only [begins, Option.some.injEq]

theorem filterMap_text {steps : List Component}
    (made : ∀ step ∈ steps, Component.ofPiece? step.text = some step) :
    (steps.map Component.text).filterMap Component.ofPiece? = steps := by
  induction steps with
  | nil => rfl
  | cons step rest inductionHypothesis =>
    obtain ⟨here, others⟩ := List.forall_mem_cons.1 made
    rw [List.map_cons, List.filterMap_cons, here, inductionHypothesis others]

theorem components_of_canonical (other : path.components ≠ [.root]) :
    (Path.mk path.canonical).components =
      componentsOf (List.intercalate ['/'] (path.components.map Component.text)) := by
  unfold canonical
  split
  · next root => exact absurd root other
  · exact congrArg componentsOf String.toList_ofList

/-- The one text for all spellings of a place is a spelling of it. -/
theorem components_canonical (path : Path) :
    (Path.mk path.canonical).components = path.components := by
  by_cases root : path.components = [.root]
  · unfold canonical
    rw [root]
    rfl
  rw [components_of_canonical root]
  have plain : ∀ piece ∈ path.steps.map Component.text, '/' ∉ piece :=
    List.forall_mem_map.2 fun step member => (of_mem_steps member).1
  have made : ∀ step ∈ path.steps, Component.ofPiece? step.text = some step :=
    fun step member => (of_mem_steps member).2
  have again := filterMap_text made
  rcases path.components_cases with begins | begins | begins
  · have below : path.steps.map Component.text ≠ [] := fun none => by
      rw [begins, List.map_eq_nil_iff.1 none] at root
      exact root rfl
    rw [begins, List.map_cons, show Component.root.text = [] from rfl,
      componentsOf_intercalate (List.forall_mem_cons.2 ⟨List.not_mem_nil, plain⟩),
      if_pos ⟨rfl, below⟩, List.filterMap_cons, again]
    rfl
  · rw [begins, List.map_cons, show Component.here.text = ['.'] from rfl,
      componentsOf_intercalate (List.forall_mem_cons.2 ⟨by decide, plain⟩),
      if_neg (fun both => List.cons_ne_nil _ _ both.1), if_pos rfl, List.filterMap_cons, again]
    rfl
  · rw [begins]
    cases below : path.steps with
    | nil => rfl
    | cons step rest =>
      rw [below] at plain again
      have first := made step (below ▸ List.mem_cons_self)
      have named : step.text ≠ [] ∧ step.text ≠ ['.'] := by
        constructor <;>
        · intro same
          rw [same] at first
          cases first
      rw [List.map_cons, componentsOf_intercalate plain, if_neg fun both => named.1 both.1,
        if_neg named.2, List.nil_append]
      exact again

/-- Two paths have the same canonical text exactly where they are the same place. -/
theorem canonical_eq_iff {first second : Path} :
    first.canonical = second.canonical ↔ first.same second = true := by
  constructor
  · intro equal
    refine decide_eq_true ?_
    rw [← components_canonical first, equal, components_canonical]
  · intro same
    have equal : first.components = second.components := of_decide_eq_true same
    unfold canonical
    rw [equal]

end Path

end NodeAgent
