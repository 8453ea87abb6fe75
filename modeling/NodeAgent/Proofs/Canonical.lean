/-
This file says which values a reader makes, and that it makes the same value of what is written of
one. The numbers of such a value are doubles or fit into 64 bits, its objects have their members in
the order of their keys, each key once, and it does not nest deeper than the reader goes.
-/

import NodeAgent.Proofs.Parsing

namespace NodeAgent.Json

/-! ### Values -/

/-- A value whose objects have their members in the order of their keys, each key once, and in which
no more than some number of containers lie inside one another. -/
inductive Ordered : (levels : Nat) → Json → Prop where
  | null {levels : Nat} : Ordered levels .null
  | bool {levels : Nat} (value : Bool) : Ordered levels (.bool value)
  | number {levels : Nat} (value : Number) : Ordered levels (.number value)
  | text {levels : Nat} (words : String) : Ordered levels (.text words)
  | list {levels : Nat} {items : List Json} (each : ∀ item ∈ items, Ordered levels item) :
      Ordered (levels + 1) (.list items)
  | object {levels : Nat} {members : List (String × Json)}
      (sorted : members.Pairwise fun first second => first.1 < second.1)
      (each : ∀ member ∈ members, Ordered levels member.2) :
      Ordered (levels + 1) (.object members)

/-! ### Members in order -/

/-- A member after all others is put at the end. -/
theorem putMember_last {key : String} {members : List (String × Json)}
    (last : ∀ member ∈ members, member.1 < key) (value : Json) :
    putMember key value members = members ++ [(key, value)] := by
  induction members with
  | nil => rfl
  | cons member rest inductionHypothesis =>
    obtain ⟨name, old⟩ := member
    obtain ⟨here, later⟩ := List.forall_mem_cons.1 last
    have different : key ≠ name := fun same => String.lt_irrefl key (same ▸ here)
    unfold putMember
    rw [if_neg (String.lt_asymm here), if_neg different, inductionHypothesis later]
    rfl

/-- Members in order make an object as they are. -/
theorem ofMembers_of_sorted {members : List (String × Json)}
    (sorted : members.Pairwise fun first second => first.1 < second.1) :
    ofMembers members = .object members := by
  have put (done : List (String × Json))
      (whole : (done ++ members).Pairwise fun first second => first.1 < second.1) :
      members.foldl (fun done member => putMember member.1 member.2 done) done =
        done ++ members := by
    clear sorted
    induction members generalizing done with
    | nil => exact (List.append_nil done).symm
    | cons member rest inductionHypothesis =>
      have before : ∀ other ∈ done, other.1 < member.1 := fun other inside =>
        (List.pairwise_append.1 whole).2.2 other inside member List.mem_cons_self
      rw [List.append_cons] at whole ⊢
      rw [List.foldl_cons, putMember_last before]
      exact inductionHypothesis _ whole
  exact congrArg Json.object (put [] sorted)

/-! ### Values that are read back -/

theorem itemValues_itemNodes {depth : Nat} {items : List Json}
    (each : ∀ item ∈ items, item.node.value depth = .ok item) :
    itemValues depth (itemNodes items) = .ok items := by
  induction items with
  | nil => rfl
  | cons item rest inductionHypothesis =>
    obtain ⟨here, later⟩ := List.forall_mem_cons.1 each
    unfold itemNodes itemValues
    rw [here, inductionHypothesis later]
    rfl

theorem entryValues_memberNodes {depth : Nat} {members : List (String × Json)}
    (each : ∀ member ∈ members, member.2.node.value depth = .ok member.2) :
    entryValues depth (memberNodes members) = .ok members := by
  induction members with
  | nil => rfl
  | cons member rest inductionHypothesis =>
    obtain ⟨key, value⟩ := member
    obtain ⟨here, later⟩ := List.forall_mem_cons.1 each
    unfold memberNodes entryValues
    dsimp only at here
    rw [here, inductionHypothesis later]
    rfl

/-- A value in order that does not nest too deep is read off its part as it is. -/
theorem value_node {levels : Nat} {value : Json} (ordered : value.Ordered levels) (depth : Nat)
    (shallow : depth + levels ≤ deepest) : value.node.value depth = .ok value := by
  induction ordered generalizing depth with
  | null | bool | number | text => rfl
  | @list levels items _ inductionHypothesis =>
    have inside : ¬deepest ≤ depth := by omega
    have values := itemValues_itemNodes fun item member =>
      inductionHypothesis item member (depth + 1) (by omega)
    unfold node Node.value
    rw [if_neg inside, values]
    rfl
  | @object levels members sorted _ inductionHypothesis =>
    have inside : ¬deepest ≤ depth := by omega
    have values := entryValues_memberNodes fun member among =>
      inductionHypothesis member among (depth + 1) (by omega)
    unfold node Node.value
    rw [if_neg inside, values]
    exact congrArg Except.ok (ofMembers_of_sorted sorted)

/-! ### Values that are read -/

theorem mem_putMember {key : String} {value : Json} {members : List (String × Json)}
    {member : String × Json} (among : member ∈ putMember key value members) :
    member = (key, value) ∨ member ∈ members := by
  induction members with
  | nil => exact Or.inl (List.mem_singleton.1 among)
  | cons first rest inductionHypothesis =>
    obtain ⟨name, old⟩ := first
    unfold putMember at among
    split at among
    · exact List.mem_cons.1 among
    split at among
    · exact (List.mem_cons.1 among).imp_right (List.mem_cons_of_mem _)
    · rcases List.mem_cons.1 among with rfl | later
      · exact Or.inr List.mem_cons_self
      · exact (inductionHypothesis later).imp_right (List.mem_cons_of_mem _)

/-- Putting a member keeps the members in order. -/
theorem sorted_putMember {members : List (String × Json)}
    (sorted : members.Pairwise fun first second => first.1 < second.1) (key : String)
    (value : Json) : (putMember key value members).Pairwise fun first second =>
      first.1 < second.1 := by
  induction members with
  | nil => exact List.pairwise_singleton ..
  | cons first rest inductionHypothesis =>
    obtain ⟨name, old⟩ := first
    obtain ⟨before, later⟩ := List.pairwise_cons.1 sorted
    unfold putMember
    split
    · next less =>
      refine List.pairwise_cons.2 ⟨fun member among => ?_, sorted⟩
      rcases List.mem_cons.1 among with rfl | behind
      · exact less
      · exact String.lt_trans less (before member behind)
    split
    · next same => exact List.pairwise_cons.2 ⟨same ▸ before, later⟩
    · next notLess different =>
      refine List.pairwise_cons.2 ⟨fun member among => ?_, inductionHypothesis later⟩
      rcases mem_putMember among with rfl | behind
      · by_contra notGreater
        exact different (String.le_antisymm (String.not_lt.1 notGreater) (String.not_lt.1 notLess))
      · exact before member behind

/-- An object that is made of members has some of them, in order. -/
theorem exists_ofMembers (members : List (String × Json)) :
    ∃ kept, ofMembers members = .object kept ∧
      (kept.Pairwise fun first second => first.1 < second.1) ∧
      ∀ member ∈ kept, member ∈ members := by
  have put (done : List (String × Json))
      (sorted : done.Pairwise fun first second => first.1 < second.1) :
      let kept := members.foldl (fun done member => putMember member.1 member.2 done) done
      (kept.Pairwise fun first second => first.1 < second.1) ∧
        ∀ member ∈ kept, member ∈ done ∨ member ∈ members := by
    induction members generalizing done with
    | nil => exact ⟨sorted, fun _ => Or.inl⟩
    | cons first rest inductionHypothesis =>
      obtain ⟨whole, among⟩ := inductionHypothesis _ (sorted_putMember sorted first.1 first.2)
      refine ⟨whole, fun member inside => ?_⟩
      rcases among member inside with earlier | later
      · rcases mem_putMember earlier with rfl | there
        · exact Or.inr List.mem_cons_self
        · exact Or.inl there
      · exact Or.inr (List.mem_cons_of_mem _ later)
  obtain ⟨sorted, among⟩ := put [] .nil
  exact ⟨_, rfl, sorted, fun member inside => (among member inside).resolve_left
    List.not_mem_nil⟩

/-- All numbers of a part are of a kind. -/
inductive Node.Numbers (kind : Number → Prop) : Node → Prop where
  | null : Numbers kind .null
  | bool (value : Bool) : Numbers kind (.bool value)
  | number {value : Except Break Number} (here : ∀ found, value = .ok found → kind found) :
      Numbers kind (.number value)
  | text (value : Except Break String) : Numbers kind (.text value)
  | list {items : List Node} (ending : Ending Node) (each : ∀ item ∈ items, Numbers kind item) :
      Numbers kind (.list items ending)
  | object {entries : List (Except Break String × Node)} (ending : Ending Node)
      (each : ∀ entry ∈ entries, Numbers kind entry.2) : Numbers kind (.object entries ending)
  | broken (start : Start) (wanted passed : Break) : Numbers kind (.broken start wanted passed)

theorem mem_of_itemValues {depth : Nat} {items : List Node} {values : List Json}
    (read : itemValues depth items = .ok values) :
    ∀ value ∈ values, ∃ item ∈ items, item.value depth = .ok value := by
  induction items generalizing values with
  | nil =>
    cases read
    exact fun _ member => nomatch member
  | cons item rest inductionHypothesis =>
    unfold itemValues at read
    obtain ⟨value, here, read⟩ := of_bind_eq_ok read
    obtain ⟨others, later, read⟩ := of_bind_eq_ok read
    cases read
    refine List.forall_mem_cons.2 ⟨⟨item, List.mem_cons_self, here⟩, fun value member => ?_⟩
    obtain ⟨item, among, same⟩ := inductionHypothesis later value member
    exact ⟨item, List.mem_cons_of_mem _ among, same⟩

theorem mem_of_entryValues {depth : Nat} {entries : List (Except Break String × Node)}
    {members : List (String × Json)} (read : entryValues depth entries = .ok members) :
    ∀ member ∈ members, ∃ entry ∈ entries, entry.2.value depth = .ok member.2 := by
  induction entries generalizing members with
  | nil =>
    cases read
    exact fun _ member => nomatch member
  | cons entry rest inductionHypothesis =>
    unfold entryValues at read
    obtain ⟨key, -, read⟩ := of_bind_eq_ok read
    obtain ⟨value, here, read⟩ := of_bind_eq_ok read
    obtain ⟨others, later, read⟩ := of_bind_eq_ok read
    cases read
    refine List.forall_mem_cons.2 ⟨⟨entry, List.mem_cons_self, here⟩, fun member inside => ?_⟩
    obtain ⟨entry, among, same⟩ := inductionHypothesis later member inside
    exact ⟨entry, List.mem_cons_of_mem _ among, same⟩

/-- A value that is read has its objects in order, does not nest deeper than the reader goes, and
has the numbers of its part. -/
theorem Node.Numbers.of_value {kind : Number → Prop} {part : Node} (numbers : part.Numbers kind)
    {depth : Nat} {value : Json} (read : part.value depth = .ok value) :
    value.Ordered (deepest - depth) ∧ value.Numbers kind := by
  induction numbers generalizing depth value with
  | null | bool =>
    cases read
    exact ⟨by constructor, by constructor⟩
  | @number written here =>
    cases written with
    | error fault => cases read
    | ok found =>
      cases read
      exact ⟨.number found, .number (here found rfl)⟩
  | text written =>
    cases written with
    | error fault => cases read
    | ok words =>
      cases read
      exact ⟨.text words, .text words⟩
  | @list items ending _ inductionHypothesis =>
    unfold Node.value at read
    split at read
    · cases read
    · next inside =>
      obtain ⟨values, each, read⟩ := of_bind_eq_ok read
      obtain ⟨_, -, read⟩ := of_bind_eq_ok read
      cases read
      have levels : deepest - depth = deepest - (depth + 1) + 1 := by omega
      have all (value : Json) (member : value ∈ values) :
          value.Ordered (deepest - (depth + 1)) ∧ value.Numbers kind := by
        obtain ⟨item, among, same⟩ := mem_of_itemValues each value member
        exact inductionHypothesis item among same
      rw [levels]
      exact ⟨.list fun value member => (all value member).1,
        .list fun value member => (all value member).2⟩
  | @object entries ending _ inductionHypothesis =>
    unfold Node.value at read
    split at read
    · cases read
    · next inside =>
      obtain ⟨members, each, read⟩ := of_bind_eq_ok read
      obtain ⟨_, -, read⟩ := of_bind_eq_ok read
      obtain ⟨kept, same, sorted, among⟩ := exists_ofMembers members
      rw [same] at read
      cases read
      have levels : deepest - depth = deepest - (depth + 1) + 1 := by omega
      have all (member : String × Json) (inside : member ∈ kept) :
          member.2.Ordered (deepest - (depth + 1)) ∧ member.2.Numbers kind := by
        obtain ⟨entry, there, same⟩ := mem_of_entryValues each member (among member inside)
        exact inductionHypothesis entry there same
      rw [levels]
      exact ⟨.object sorted fun member inside => (all member inside).1,
        .object fun member inside => (all member inside).2⟩
  | broken => cases read

/-! ### The numbers of a text -/

/-- A number that a text can stand for: a whole number that fits into 64 bits, or a double. -/
def Number.Fits (value : Number) : Prop := value.IsWhole → value.IsWord

theorem Numeral.fits_of_number? {numeral : Numeral} {value : Number}
    (worth : numeral.number? = some value) : value.Fits := by
  have doubles (found : numeral.double? = some value) : value.Fits := by
    unfold double? at found
    obtain ⟨size, -, rfl⟩ := Option.map_eq_some_iff.1 found
    exact False.elim
  unfold number? at worth
  split at worth
  · dsimp only at worth
    split at worth
    · split at worth
      · next positive =>
        cases worth
        refine fun _ => ⟨?_, ?_⟩
        · have := positive.2
          omega
        · have : (0 : Int) < Word.bound := by decide
          omega
      · exact doubles worth
    · split at worth
      · next small =>
        cases worth
        refine fun _ => ⟨?_, ?_⟩
        · have : (0 : Int) < Word.signedBound := by decide
          omega
        · exact Int.ofNat_lt.2 small
      · exact doubles worth
  · exact doubles worth

/-- A number among the tokens is one that a text can stand for. -/
def Token.Fits : Token → Prop
  | number (.ok value) => value.Fits
  | _ => True

/-- The token that is being read fits. -/
def Lexer.Fits : Lexer → Prop
  | word token _ => token.Fits
  | _ => True

theorem NumeralState.fits_token (state : NumeralState) : state.token.Fits := by
  unfold token
  split
  · next worth => exact Numeral.fits_of_number? worth
  · trivial

namespace Lexer

/-- Tokens that are made, and what is read then, fit. -/
structure Makes (made : List Token × Lexer) : Prop where
  tokens : ∀ token ∈ made.1, token.Fits
  next : made.2.Fits

theorem makes_nothing {next : Lexer} (fits : next.Fits) : Makes ([], next) :=
  ⟨List.forall_mem_nil _, fits⟩

theorem makes_one {token : Token} {next : Lexer} (fits : token.Fits) (later : next.Fits) :
    Makes ([token], next) :=
  ⟨List.forall_mem_singleton.2 fits, later⟩

theorem makes_ite {condition : Prop} [Decidable condition] {first second : List Token × Lexer}
    (yes : Makes first) (no : Makes second) : Makes (if condition then first else second) := by
  split
  · exact yes
  · exact no

theorem makes_start (glyph : Text.Glyph) : Makes (start glyph) := by
  cases glyph with
  | stray octets => exact makes_one trivial trivial
  | char c =>
    unfold start
    -- Blanks, brackets, marks; then what begins a text, a word or a number.
    refine makes_ite (makes_nothing trivial) ?_
    iterate 6 refine makes_ite (makes_one trivial trivial) ?_
    iterate 7 refine makes_ite (makes_nothing trivial) ?_
    exact makes_one trivial trivial

theorem makes_step {lexer : Lexer} (fits : lexer.Fits) (glyph : Text.Glyph) (rest : Nat) :
    Makes (lexer.step glyph rest) := by
  cases lexer with
  | between => exact makes_start glyph
  | word token expected =>
    unfold step
    cases expected with
    | nil => exact makes_one fits trivial
    | cons next others =>
      dsimp only
      split
      · split
        · exact makes_one fits trivial
        · exact makes_nothing fits
      · exact makes_one trivial trivial
  | number state =>
    have started := makes_start glyph
    unfold step
    dsimp only
    split
    · exact makes_nothing trivial
    · exact ⟨List.forall_mem_cons.2 ⟨state.fits_token, started.tokens⟩, started.next⟩
    · exact makes_one trivial trivial
  | text state =>
    unfold step
    dsimp only
    split
    · exact makes_nothing trivial
    · exact makes_one trivial trivial
    · exact makes_one trivial trivial
  | stopped => exact makes_nothing trivial

/-- The tokens of a text have numbers that a text can stand for. -/
theorem fits_of_mem_run {lexer : Lexer} (fits : lexer.Fits) (glyphs : List Text.Glyph) :
    ∀ token ∈ lexer.run glyphs, token.Fits := by
  induction glyphs generalizing lexer with
  | nil =>
    cases lexer with
    | between | stopped => exact fun _ member => nomatch member
    | word token expected => exact List.forall_mem_singleton.2 trivial
    | number state =>
      show ∀ token ∈ if state.mayEnd then [state.token] else _, token.Fits
      split
      · exact List.forall_mem_singleton.2 state.fits_token
      · exact List.forall_mem_singleton.2 trivial
    | text state => exact List.forall_mem_singleton.2 trivial
  | cons glyph glyphs inductionHypothesis =>
    have made := makes_step fits glyph (width (glyphs.take 4))
    intro token member
    rcases List.mem_append.1 member with now | later
    · exact made.tokens token now
    · exact inductionHypothesis made.next token later

end Lexer

/-! ### The numbers of a tree -/

/-- The parts of an open container. -/
def Frame.parts : Frame → List Node
  | list items => items
  | object entries | member entries _ => entries.map Prod.snd

/-- All numbers of the parts of open containers fit. -/
def FitsOpen (stack : List Frame) : Prop :=
  ∀ frame ∈ stack, ∀ part ∈ frame.parts, part.Numbers Number.Fits

theorem numbers_close {frame : Frame} (fits : ∀ part ∈ frame.parts, part.Numbers Number.Fits)
    (ending : Ending Node) : (frame.close ending).Numbers Number.Fits := by
  cases frame with
  | list items => exact .list ending fun item member => fits item (List.mem_reverse.1 member)
  | object entries | member entries key =>
    exact .object ending fun entry member =>
      fits entry.2 (List.mem_map_of_mem (List.mem_reverse.1 member))

theorem parts_attach {frame : Frame} {part other : Node}
    (among : other ∈ (frame.attach part).parts) :
    other = part ∨ other ∈ frame.parts := by
  cases frame with
  | list items => exact List.mem_cons.1 among
  | object entries => exact Or.inr among
  | member entries key => exact List.mem_cons.1 among

theorem FitsOpen.attach {frame : Frame} {below : List Frame} {part : Node}
    (fits : FitsOpen (frame :: below)) (here : part.Numbers Number.Fits) :
    FitsOpen (frame.attach part :: below) := by
  obtain ⟨inner, outer⟩ := List.forall_mem_cons.1 fits
  refine List.forall_mem_cons.2 ⟨fun other among => ?_, outer⟩
  rcases parts_attach among with rfl | old
  · exact here
  · exact inner other old

theorem numbers_collapse {part : Node} (here : part.Numbers Number.Fits) (wanted passed : Break)
    {stack : List Frame} (fits : FitsOpen stack) :
    (collapse part wanted passed stack).Numbers Number.Fits := by
  induction stack generalizing part with
  | nil => exact here
  | cons frame below inductionHypothesis =>
    obtain ⟨inner, outer⟩ := List.forall_mem_cons.1 (fits.attach here)
    exact inductionHypothesis (numbers_close inner _) outer

theorem numbers_breakInside (ending : Ending Node) (wanted passed : Break) {stack : List Frame}
    (fits : FitsOpen stack) :
    (breakInside ending wanted passed stack).root.Numbers Number.Fits := by
  cases stack with
  | nil => exact .broken ..
  | cons frame below =>
    obtain ⟨inner, outer⟩ := List.forall_mem_cons.1 fits
    exact numbers_collapse (numbers_close inner ending) wanted passed outer

theorem numbers_breakOff (start : Start) (wanted passed : Break) {stack : List Frame}
    (fits : FitsOpen stack) : (breakOff start wanted passed stack).root.Numbers Number.Fits :=
  numbers_collapse (.broken start wanted passed) wanted passed fits

theorem Token.Fits.numbers {token : Token} (fits : token.Fits) {part : Node}
    (same : token.node? = some part) : part.Numbers Number.Fits := by
  match token, same with
  | .null, rfl => exact .null
  | .bool value, rfl => exact .bool value
  | .number value, rfl => exact .number fun found here => by subst here; exact fits
  | .text value, rfl => exact .text value
  | .openList, rfl => exact .list _ (List.forall_mem_nil _)
  | .openObject, rfl => exact .object _ (List.forall_mem_nil _)
  | .broken .scalar wanted passed, rfl => exact .broken ..
  | .broken .text wanted passed, rfl => exact .broken ..

theorem FitsOpen.below {frame : Frame} {below : List Frame} (fits : FitsOpen (frame :: below)) :
    FitsOpen below :=
  (List.forall_mem_cons.1 fits).2

theorem FitsOpen.closed {frame : Frame} {below : List Frame} (fits : FitsOpen (frame :: below)) :
    (frame.close .closed).Numbers Number.Fits :=
  numbers_close (List.forall_mem_cons.1 fits).1 .closed

/-- A container that is opened has no parts yet. -/
theorem FitsOpen.opening {frame : Frame} {stack : List Frame} (fits : FitsOpen stack)
    (empty : frame.parts = []) : FitsOpen (frame :: stack) :=
  List.forall_mem_cons.2 ⟨empty ▸ List.forall_mem_nil _, fits⟩

theorem FitsOpen.keyed {entries : List (Except Break String × Node)} {below : List Frame}
    (fits : FitsOpen (.object entries :: below)) (key : Except Break String) :
    FitsOpen (.member entries key :: below) :=
  List.forall_mem_cons.2 (List.forall_mem_cons.1 fits)

/-- The tree that grows from tokens has fitting numbers, whatever is expected first. -/
def GrowsFitting (rest : List Token) : Prop :=
  ∀ (expected : Expected) {stack : List Frame}, FitsOpen stack →
    (grow rest expected stack).root.Numbers Number.Fits

namespace GrowsFitting

variable {rest : List Token} {stack : List Frame} {token : Token}

theorem settled (grows : GrowsFitting rest) {part : Node} (numbers : part.Numbers Number.Fits)
    (opened : FitsOpen stack) : (settled part rest stack).root.Numbers Number.Fits := by
  cases stack with
  | nil => exact numbers
  | cons frame below => exact grows .separator (opened.attach numbers)

theorem value (grows : GrowsFitting rest) (fits : token.Fits) (opened : FitsOpen stack) :
    (grow (token :: rest) .value stack).root.Numbers Number.Fits := by
  cases token with
  | openList => exact grows .firstItem (opened.opening rfl)
  | openObject => exact grows .firstKey (opened.opening rfl)
  | null | bool | number | text => exact grows.settled (fits.numbers rfl) opened
  | broken | closeList | closeObject | comma | colon => exact numbers_breakOff _ _ _ opened

theorem firstItem (grows : GrowsFitting rest) (fits : token.Fits) (opened : FitsOpen stack) :
    (grow (token :: rest) .firstItem stack).root.Numbers Number.Fits := by
  have begins := grows.value fits opened
  cases token with
  | closeList =>
    match stack, opened with
    | .list items :: below, opened => exact grows.settled opened.closed opened.below
    | [], _ | .object _ :: _, _ | .member _ _ :: _, _ => exact begins
  | _ => exact begins

theorem firstKey (grows : GrowsFitting rest) (opened : FitsOpen stack) :
    (grow (token :: rest) .firstKey stack).root.Numbers Number.Fits := by
  cases token with
  | closeObject =>
    match stack, opened with
    | .object entries :: below, opened => exact grows.settled opened.closed opened.below
    | [], opened | .list _ :: _, opened | .member _ _ :: _, opened =>
      exact numbers_breakInside _ _ _ opened
  | text key =>
    match stack, opened with
    | .object entries :: below, opened => exact grows .colon (opened.keyed key)
    | [], opened | .list _ :: _, opened | .member _ _ :: _, opened =>
      exact numbers_breakInside _ _ _ opened
  | broken start wanted passed =>
    cases start with
    | nothing | scalar | text => exact numbers_breakInside _ _ _ opened
  | _ => exact numbers_breakInside _ _ _ opened

theorem key (grows : GrowsFitting rest) (opened : FitsOpen stack) :
    (grow (token :: rest) .key stack).root.Numbers Number.Fits := by
  cases token with
  | text key =>
    match stack, opened with
    | .object entries :: below, opened => exact grows .colon (opened.keyed key)
    | [], opened | .list _ :: _, opened | .member _ _ :: _, opened =>
      exact numbers_breakInside _ _ _ opened
  | broken start wanted passed =>
    cases start with
    | nothing | scalar | text => exact numbers_breakInside _ _ _ opened
  | _ => exact numbers_breakInside _ _ _ opened

theorem colon (grows : GrowsFitting rest) (opened : FitsOpen stack) :
    (grow (token :: rest) .colon stack).root.Numbers Number.Fits := by
  cases token with
  | colon => exact grows .value opened
  | _ => exact numbers_breakOff _ _ _ opened

theorem separator (grows : GrowsFitting rest) (opened : FitsOpen stack) :
    (grow (token :: rest) .separator stack).root.Numbers Number.Fits := by
  cases token with
  | comma =>
    match stack, opened with
    | .list _ :: _, opened => exact grows .value opened
    | .object _ :: _, opened => exact grows .key opened
    | [], opened | .member _ _ :: _, opened => exact numbers_breakInside _ _ _ opened
  | closeList =>
    match stack, opened with
    | .list items :: below, opened => exact grows.settled opened.closed opened.below
    | [], opened | .object _ :: _, opened | .member _ _ :: _, opened =>
      exact numbers_breakInside _ _ _ opened
  | closeObject =>
    match stack, opened with
    | .object entries :: below, opened => exact grows.settled opened.closed opened.below
    | [], opened | .list _ :: _, opened | .member _ _ :: _, opened =>
      exact numbers_breakInside _ _ _ opened
  | _ => exact numbers_breakInside _ _ _ opened

/-- The tree of fitting tokens has fitting numbers. -/
theorem of_fits {tokens : List Token} (fits : ∀ token ∈ tokens, token.Fits) :
    GrowsFitting tokens := by
  induction tokens with
  | nil =>
    intro expected stack opened
    cases expected with
    | value | colon => exact numbers_breakOff _ _ _ opened
    | firstItem | firstKey | separator | key => exact numbers_breakInside _ _ _ opened
  | cons token rest inductionHypothesis =>
    obtain ⟨here, later⟩ := List.forall_mem_cons.1 fits
    have grows := inductionHypothesis later
    intro expected stack opened
    cases expected with
    | value => exact grows.value here opened
    | firstItem => exact grows.firstItem here opened
    | firstKey => exact grows.firstKey opened
    | key => exact grows.key opened
    | colon => exact grows.colon opened
    | separator => exact grows.separator opened

end GrowsFitting

/-- The tree of a text has numbers that a text can stand for. -/
theorem numbers_document (glyphs : List Text.Glyph) :
    (document glyphs).root.Numbers Number.Fits := by
  have begins : Lexer.between.Fits := trivial
  exact GrowsFitting.of_fits (Lexer.fits_of_mem_run begins glyphs) .value (List.forall_mem_nil _)

/-- What is read from a text is read off a tree whose numbers a text can stand for. -/
theorem exists_of_decodeText {Value : Type} {decoder : Decoder Value} {words : String}
    {value : Value} (read : decodeText decoder words = .ok value) :
    ∃ part : Node, part.Numbers Number.Fits ∧ decoder ⟨.text, 0⟩ part = .ok value := by
  have numbers := numbers_document (Text.Glyph.ofString words)
  unfold decodeText decodeGlyphs at read
  dsimp only at read
  generalize document (Text.Glyph.ofString words) = document at read numbers
  refine ⟨document.root, numbers, ?_⟩
  obtain ⟨result, found, read⟩ := of_bind_eq_ok read
  cases surplus : document.surplus with
  | true =>
    rw [surplus] at read
    cases read
  | false =>
    rw [surplus] at read
    cases read
    exact found

end NodeAgent.Json
